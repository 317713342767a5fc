import Mathlib.Data.List.Basic

/-!
# Text as bytes
-/

namespace OpenRD.Foundation

def utf8 (text : String) : List UInt8 := text.toUTF8.data.toList

def ofUtf8? (bytes : List UInt8) : Option String := String.fromUTF8? ⟨bytes.toArray⟩

@[simp] theorem ofUtf8?_utf8 (text : String) : ofUtf8? (utf8 text) = some text := by
  have hbytes : (⟨(utf8 text).toArray⟩ : ByteArray) = text.toUTF8 := rfl
  rw [ofUtf8?, hbytes]
  simp [String.fromUTF8?, text.isValidUTF8, String.toUTF8]
  rfl

theorem utf8_of_ofUtf8? {bytes : List UInt8} {text : String}
    (h : ofUtf8? bytes = some text) : utf8 text = bytes := by
  unfold ofUtf8? String.fromUTF8? at h
  split at h
  · cases h
    rfl
  · cases h

theorem utf8_ofList (characters : List Char) :
    utf8 (String.ofList characters) = characters.flatMap String.utf8EncodeChar := by
  rw [utf8, String.toUTF8_eq_toByteArray, String.toByteArray_ofList, List.utf8Encode]
  simp

theorem utf8_append (first second : String) :
    utf8 (first ++ second) = utf8 first ++ utf8 second := by
  simp only [utf8, String.toUTF8_eq_toByteArray, String.toByteArray_append]
  rw [ByteArray.data_append, Array.toList_append]

/-! ## Malformed text -/

/-- The length of the sequence a lead byte starts; `0` if it starts none. -/
def sequenceLength (lead : UInt8) : Nat :=
  if lead < 0x80 then 1
  else if 0xC2 ≤ lead ∧ lead ≤ 0xDF then 2
  else if 0xE0 ≤ lead ∧ lead ≤ 0xEF then 3
  else if 0xF0 ≤ lead ∧ lead ≤ 0xF4 then 4
  else 0

/-- The second byte of a sequence is bounded by its lead byte. -/
def mayFollow (lead : UInt8) (index : Nat) (byte : UInt8) : Bool :=
  let low : UInt8 := if index = 1 ∧ lead = 0xE0 then 0xA0
    else if index = 1 ∧ lead = 0xF0 then 0x90 else 0x80
  let high : UInt8 := if index = 1 ∧ lead = 0xED then 0x9F
    else if index = 1 ∧ lead = 0xF4 then 0x8F else 0xBF
  low ≤ byte && byte ≤ high

def continued (lead : UInt8) (index : Nat) : Nat → List UInt8 → Nat
  | room + 1, byte :: bytes =>
      if mayFollow lead index byte then 1 + continued lead (index + 1) room bytes else 0
  | _, _ => 0

/-- The bytes of the first sequence, or of its longest well-formed beginning. -/
def firstSequence (lead : UInt8) (bytes : List UInt8) : Nat :=
  1 + continued lead 1 (sequenceLength lead - 1) bytes

def replacementCharacter : List UInt8 := [0xEF, 0xBF, 0xBD]

def lossyFuel : Nat → List UInt8 → List UInt8
  | fuel + 1, lead :: bytes =>
      let count := firstSequence lead bytes
      (if count = sequenceLength lead then (lead :: bytes).take count
        else replacementCharacter) ++ lossyFuel fuel ((lead :: bytes).drop count)
  | _, _ => []

/-- `String::from_utf8_lossy`, as the bytes of the string it returns. -/
def fromUtf8Lossy (bytes : List UInt8) : List UInt8 := lossyFuel bytes.length bytes

/-- `str::is_char_boundary` of a position in the bytes of a string. -/
def isCharBoundary (text : List UInt8) (index : Nat) : Bool :=
  match text[index]? with
  | some byte => !(0x80 ≤ byte && byte ≤ 0xBF)
  | none => index == text.length

/-- Where a byte string stops being text: the index, and how many bytes are wrong
there unless it merely ends too early. -/
def utf8ErrorFuel : Nat → Nat → List UInt8 → Option (Nat × Option Nat)
  | fuel + 1, index, lead :: bytes =>
      let count := firstSequence lead bytes
      if count = sequenceLength lead then
        utf8ErrorFuel fuel (index + count) ((lead :: bytes).drop count)
      else if count ≤ bytes.length ∨ sequenceLength lead = 0 then some (index, some count)
      else some (index, none)
  | _, _, _ => none

def utf8ErrorText (bytes : List UInt8) : String :=
  match utf8ErrorFuel bytes.length 0 bytes with
  | some (index, some count) =>
      s!"invalid utf-8 sequence of {count} bytes from index {index}"
  | some (index, none) => s!"incomplete utf-8 byte sequence from index {index}"
  | none => ""

end OpenRD.Foundation
