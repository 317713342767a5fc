import OpenRD.Proto.FrameReader

/-!
# The test client's frame readers
-/

namespace OpenRD.TestClient

open OpenRD.Proto

def readerTexts : ReaderTexts where
  endedEarly filled total := s!"stream ended early ({filled}/{total} bytes)"
  midHeader filled := s!"stream ended mid-header ({filled}/6 bytes)"
  tooLarge length := s!"oversized frame: {length} bytes"
  headerError := id
  payloadError := id

def readExactInner : Nat → Reader (List UInt8) := readExactWith readerTexts

def readFrame : Reader (List UInt8) := readFrameWith readerTexts

def readFrameOpt : Reader (Option (List UInt8)) := readFrameOptWith readerTexts

end OpenRD.TestClient
