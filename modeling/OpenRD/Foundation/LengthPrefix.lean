import OpenRD.Foundation.LittleEndian

/-!
# Bytes behind a length of fixed width

The writer keeps the low `width` bytes of the length.  The reader takes as many bytes
as are declared, which is all of them exactly when the length fits its field.
-/

namespace OpenRD.Foundation

def writePrefixed (width : Nat) (bytes : List UInt8) : List UInt8 :=
  toLeBytes width bytes.length ++ bytes

/-- The length that the first `width` bytes declare. -/
def announcedLength (width : Nat) (buf : List UInt8) : Nat := ofLeBytes (buf.take width)

/-- The prefix says how many bytes stand behind it. -/
def Counts (width : Nat) (buf : List UInt8) : Prop :=
  announcedLength width buf = (buf.drop width).length

def readPrefixed (width : Nat) (buf : List UInt8) : Option (List UInt8 × List UInt8) :=
  let length := announcedLength width buf
  if width + length ≤ buf.length then
    some ((buf.drop width).take length, (buf.drop width).drop length)
  else none

theorem announcedLength_lt (width : Nat) (buf : List UInt8) :
    announcedLength width buf < 256 ^ width :=
  (ofLeBytes_lt _).trans_le (Nat.pow_le_pow_right (by decide) (List.length_take_le width buf))

/-- Behind so many bytes no declared length is too long. -/
theorem exists_readPrefixed {width : Nat} {buf : List UInt8}
    (h : width + 256 ^ width ≤ buf.length) :
    ∃ kept left, readPrefixed width buf = some (kept, left) := by
  have hlength := announcedLength_lt width buf
  exact ⟨_, _, if_pos (by omega)⟩

section Prefixed

variable (width : Nat) (bytes rest : List UInt8)

@[simp] theorem length_writePrefixed :
    (writePrefixed width bytes).length = width + bytes.length := by
  simp [writePrefixed]

theorem drop_writePrefixed :
    (writePrefixed width bytes ++ rest).drop width = bytes ++ rest := by
  rw [writePrefixed, List.append_assoc, List.drop_left' (length_toLeBytes width _)]

theorem announcedLength_writePrefixed :
    announcedLength width (writePrefixed width bytes ++ rest) =
      bytes.length % 256 ^ width := by
  have hlow : bytes.length % 256 ^ width < 256 ^ width :=
    Nat.mod_lt _ (Nat.pow_pos (by decide))
  rw [announcedLength, writePrefixed, List.append_assoc,
    List.take_left' (length_toLeBytes width _), ← toLeBytes_mod, ofLeBytes_toLeBytes hlow]

theorem announcedLength_eq_iff :
    announcedLength width (writePrefixed width bytes ++ rest) = bytes.length ↔
      bytes.length < 256 ^ width := by
  rw [announcedLength_writePrefixed]
  exact Nat.mod_eq_iff_lt (Nat.pow_pos (by decide)).ne'

theorem counts_writePrefixed_iff :
    Counts width (writePrefixed width bytes) ↔ bytes.length < 256 ^ width := by
  have hdeclared := announcedLength_eq_iff width bytes []
  have hdrop := drop_writePrefixed width bytes []
  rw [List.append_nil] at hdeclared
  rw [List.append_nil, List.append_nil] at hdrop
  rw [Counts, hdrop, hdeclared]

theorem readPrefixed_writePrefixed :
    readPrefixed width (writePrefixed width bytes ++ rest) =
      some (bytes.take (bytes.length % 256 ^ width),
        bytes.drop (bytes.length % 256 ^ width) ++ rest) := by
  have hle : bytes.length % 256 ^ width ≤ bytes.length := Nat.mod_le _ _
  simp only [readPrefixed, announcedLength_writePrefixed, drop_writePrefixed]
  rw [if_pos, List.take_append_of_le_length hle, List.drop_append_of_le_length hle]
  rw [List.length_append, length_writePrefixed]
  omega

variable {width bytes}

theorem readPrefixed_of_lt (h : bytes.length < 256 ^ width) :
    readPrefixed width (writePrefixed width bytes ++ rest) = some (bytes, rest) := by
  rw [readPrefixed_writePrefixed, Nat.mod_eq_of_lt h, List.take_length, List.drop_length,
    List.nil_append]

end Prefixed

end OpenRD.Foundation
