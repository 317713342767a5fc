import OpenRD.Proto.FrameReader

/-!
# The server's frame readers
-/

namespace OpenRD.Server

open OpenRD.Proto

def readerTexts : ReaderTexts where
  endedEarly filled total := s!"stream ended early ({filled} of {total})"
  midHeader filled := s!"stream ended mid-header ({filled} of 6 bytes)"
  tooLarge length := s!"frame too large: {length} bytes"
  headerError := .context "read frame header"
  payloadError := .context "read frame payload"

def readExact : Nat → Reader (List UInt8) := readExactWith readerTexts

def readFullFrame : Reader (List UInt8) := readFrameWith readerTexts

def readFullFrameOpt : Reader (Option (List UInt8)) := readFrameOptWith readerTexts

end OpenRD.Server
