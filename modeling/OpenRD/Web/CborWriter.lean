import OpenRD.Foundation.CborWire
import OpenRD.Web.Client

/-!
# The web client's CBOR writer and message encoders

A number given to the writer is a non-negative integer that a double holds.  What the
writer emits are the heads and items of the wire format, by a code path of its own.
-/

namespace OpenRD.Web

open OpenRD.Foundation

structure CborWriter where
  chunks : List (List UInt8)

namespace CborWriter

def new : CborWriter := ⟨[]⟩

def finish (w : CborWriter) : List UInt8 := w.chunks.flatten

def writeRaw (w : CborWriter) (bytes : List UInt8) : CborWriter :=
  ⟨w.chunks ++ [bytes]⟩

def typedNum (w : CborWriter) (majorBase : UInt8) (n : Nat) : CborWriter :=
  if n < 24 then w.writeRaw [majorBase ||| UInt8.ofNat n]
  else if n < 2 ^ 8 then w.writeRaw [majorBase ||| 24, UInt8.ofNat n]
  else if n < 2 ^ 16 then w.writeRaw ((majorBase ||| 25) :: CborWire.toBeBytes 2 n)
  else if n < 2 ^ 32 then w.writeRaw ((majorBase ||| 26) :: CborWire.toBeBytes 4 n)
  else
    w.writeRaw ((majorBase ||| 27) ::
      (CborWire.toBeBytes 4 (n / 2 ^ 32) ++ CborWire.toBeBytes 4 (n % 2 ^ 32)))

def writeUint (w : CborWriter) (n : Nat) : CborWriter := w.typedNum 0x00 n

def writeMapHeader (w : CborWriter) (n : Nat) : CborWriter := w.typedNum 0xA0 n

def writeArrayHeader (w : CborWriter) (n : Nat) : CborWriter := w.typedNum 0x80 n

def writeBytes (w : CborWriter) (b : List UInt8) : CborWriter :=
  (w.typedNum 0x40 b.length).writeRaw b

def writeString (w : CborWriter) (s : String) : CborWriter :=
  let enc := utf8 s
  (w.typedNum 0x60 enc.length).writeRaw enc

def writeBool (w : CborWriter) (b : Bool) : CborWriter :=
  w.writeRaw [if b then 0xF5 else 0xF4]

/-! ## What each call appends -/

theorem or_initialByte {major info : Nat} (hmajor : major < 8) (hinfo : info < 32) :
    UInt8.ofNat (32 * major) ||| UInt8.ofNat info = CborWire.initialByte major info := by
  have hall : ∀ (major : Fin 8) (info : Fin 32), UInt8.ofNat (32 * major.val) |||
      UInt8.ofNat info.val = CborWire.initialByte major.val info.val := by
    decide +kernel
  exact hall ⟨major, hmajor⟩ ⟨info, hinfo⟩

theorem toBeBytes_words (n : Nat) :
    CborWire.toBeBytes 4 (n / 2 ^ 32) ++ CborWire.toBeBytes 4 (n % 2 ^ 32) =
      CborWire.toBeBytes 8 n := by
  have hlow : toLeBytes 4 (n % 2 ^ 32) = toLeBytes 4 n := toLeBytes_mod 4 n
  rw [CborWire.toBeBytes, CborWire.toBeBytes, CborWire.toBeBytes, hlow,
    ← List.reverse_append]
  exact congrArg List.reverse (toLeBytes_add 4 4 n).symm

theorem finish_writeRaw (w : CborWriter) (bytes : List UInt8) :
    (w.writeRaw bytes).finish = w.finish ++ bytes := by
  simp [writeRaw, finish]

theorem finish_typedNum (w : CborWriter) {major n : Nat} (hmajor : major < 8) :
    (w.typedNum (UInt8.ofNat (32 * major)) n).finish =
      w.finish ++ CborWire.encodeHead major n := by
  have hinitial {info : Nat} (hinfo : info < 32) := or_initialByte hmajor hinfo
  unfold typedNum CborWire.encodeHead CborWire.spelledHead
  by_cases h24 : n < 24
  · have hinfo : CborWire.shortestInfo n = n := if_pos h24
    rw [if_pos h24, finish_writeRaw, hinitial (by omega), hinfo,
      CborWire.argumentBytes, CborWire.argumentWidth_of_lt h24]
  · rw [if_neg h24]
    unfold CborWire.shortestInfo
    rw [if_neg h24]
    by_cases h8 : n < 2 ^ 8
    · rw [if_pos h8, if_pos h8, finish_writeRaw]
      exact congrArg (w.finish ++ [·, UInt8.ofNat n])
        (hinitial (show 24 < 32 by decide))
    · rw [if_neg h8, if_neg h8]
      by_cases h16 : n < 2 ^ 16
      · rw [if_pos h16, if_pos h16, finish_writeRaw]
        exact congrArg (w.finish ++ · :: CborWire.toBeBytes 2 n)
          (hinitial (show 25 < 32 by decide))
      · rw [if_neg h16, if_neg h16]
        by_cases h32 : n < 2 ^ 32
        · rw [if_pos h32, if_pos h32, finish_writeRaw]
          exact congrArg (w.finish ++ · :: CborWire.toBeBytes 4 n)
            (hinitial (show 26 < 32 by decide))
        · rw [if_neg h32, if_neg h32, finish_writeRaw, toBeBytes_words]
          exact congrArg (w.finish ++ · :: CborWire.toBeBytes 8 n)
            (hinitial (show 27 < 32 by decide))

@[simp] theorem finish_new : new.finish = [] := rfl

@[simp] theorem finish_writeUint (w : CborWriter) (n : Nat) :
    (w.writeUint n).finish = w.finish ++ CborWire.encodeHead 0 n := by
  have hhead := w.finish_typedNum (n := n) (show 0 < 8 by decide)
  exact hhead

@[simp] theorem finish_writeMapHeader (w : CborWriter) (n : Nat) :
    (w.writeMapHeader n).finish = w.finish ++ CborWire.encodeHead 5 n := by
  have hhead := w.finish_typedNum (n := n) (show 5 < 8 by decide)
  exact hhead

@[simp] theorem finish_writeArrayHeader (w : CborWriter) (n : Nat) :
    (w.writeArrayHeader n).finish = w.finish ++ CborWire.encodeHead 4 n := by
  have hhead := w.finish_typedNum (n := n) (show 4 < 8 by decide)
  exact hhead

@[simp] theorem finish_writeBool (w : CborWriter) (b : Bool) :
    (w.writeBool b).finish = w.finish ++ CborWire.encode (.bool b) := by
  rw [writeBool, finish_writeRaw]
  cases b <;> rfl

@[simp] theorem finish_writeBytes (w : CborWriter) (b : List UInt8) :
    (w.writeBytes b).finish = w.finish ++ (CborWire.encodeHead 2 b.length ++ b) := by
  have hhead := w.finish_typedNum (n := b.length) (show 2 < 8 by decide)
  rw [writeBytes, finish_writeRaw, ← List.append_assoc]
  exact congrArg (· ++ b) hhead

@[simp] theorem finish_writeString (w : CborWriter) (s : String) :
    (w.writeString s).finish =
      w.finish ++ (CborWire.encodeHead 3 (utf8 s).length ++ utf8 s) := by
  have hhead := w.finish_typedNum (n := (utf8 s).length) (show 3 < 8 by decide)
  rw [writeString, finish_writeRaw, ← List.append_assoc]
  exact congrArg (· ++ utf8 s) hhead

end CborWriter

/-! ## Frame envelope -/

/-- The length goes through `setUint32`, which keeps its low 32 bits. -/
def encodeFrame (frameType : UInt8) (payload : List UInt8) : List UInt8 :=
  [0x00, frameType] ++ toLeBytes 4 payload.length ++ payload

/-! ## Control payload encoders -/

open CborWriter

def encodeCapabilities : List UInt8 :=
  let w := new.writeMapHeader 15
  let w := ((w.writeUint 1).writeArrayHeader 1).writeUint 0
  let w := (w.writeUint 2).writeString "openrd-v0-base"
  let w := (((w.writeUint 3).writeArrayHeader 2).writeString "pin").writeString "token"
  let w := ((w.writeUint 4).writeArrayHeader 1).writeString "h264-baseline"
  let w := (((w.writeUint 5).writeArrayHeader 2).writeUint 1920).writeUint 1080
  let w := (w.writeUint 6).writeUint 30
  let w := ((w.writeUint 7).writeArrayHeader 1).writeString "opus"
  let w := (((w.writeUint 8).writeArrayHeader 2).writeString
    "text/plain;charset=utf-8").writeString "image/png"
  let w := (w.writeUint 9).writeUint 4
  let w := (w.writeUint 10).writeUint 17179869184
  let w := (((w.writeUint 11).writeArrayHeader 2).writeUint 4096).writeUint
    (4 * 1024 * 1024)
  let w := (w.writeUint 12).writeUint (64 * 1024 * 1024)
  let w := (w.writeUint 13).writeUint 30
  let w := ((w.writeUint 14).writeArrayHeader 1).writeString "quic-datagrams"
  let w := ((((w.writeUint 16).writeMapHeader 2).writeUint 1).writeBool true)
  let w := (w.writeUint 2).writeUint (1024 * 1024)
  w.finish

def encodeClientHello : List UInt8 :=
  let caps := encodeCapabilities
  let w := new.writeMapHeader 3
  let w := (w.writeUint 1).writeUint 0
  let w := (w.writeUint 2).writeString "openrd-web/0.0.1"
  let w := (w.writeUint 3).writeRaw caps
  w.finish

def encodeAuthRequest (method : String) (credentialBytes : List UInt8) : List UInt8 :=
  let w := new.writeMapHeader 2
  let w := (w.writeUint 1).writeString method
  let w := (w.writeUint 2).writeBytes credentialBytes
  w.finish

def encodeOpenChannel (kind channelId streamId : Nat) : List UInt8 :=
  let w := new.writeMapHeader 4
  let w := (w.writeUint 1).writeUint kind
  let w := (w.writeUint 2).writeUint channelId
  let w := (w.writeUint 3).writeUint streamId
  let w := (w.writeUint 4).writeMapHeader 0
  w.finish

/-! ## Input payload encoders -/

/-- `setUint32` for the first three fields, one byte for the flags. -/
def encodeKeyEvent (keysym scancode modifiers : Nat) (flags : UInt8) : List UInt8 :=
  toLeBytes 4 keysym ++ toLeBytes 4 scancode ++ toLeBytes 4 modifiers ++ [flags]

def encodeTextInput (text : String) : List UInt8 :=
  let bytes := utf8 text
  toLeBytes 4 bytes.length ++ bytes

end OpenRD.Web
