import Mathlib.Data.List.Basic
import Mathlib.Tactic.SplitIfs
import OpenRD.Web.CborReader

/-!
# The certificate hash a user pastes

A string is its list of UTF-16 code units.
-/

namespace OpenRD.Web

abbrev CodeUnits := List UInt16

namespace CodeUnits

/-- `\s`: white space and line terminators. -/
def isSpace (u : UInt16) : Bool :=
  (0x09 ≤ u && u ≤ 0x0D) || u == 0x20 || u == 0xA0 || u == 0x1680 ||
    (0x2000 ≤ u && u ≤ 0x200A) || u == 0x2028 || u == 0x2029 || u == 0x202F ||
    u == 0x205F || u == 0x3000 || u == 0xFEFF

/-- The value of a hexadecimal digit of either letter case. -/
def digitValue (u : UInt16) : Option Nat :=
  if 0x30 ≤ u ∧ u ≤ 0x39 then some (u.toNat - 0x30)
  else if 0x41 ≤ u ∧ u ≤ 0x46 then some (u.toNat - 0x37)
  else if 0x61 ≤ u ∧ u ≤ 0x66 then some (u.toNat - 0x57)
  else none

def isDigit (u : UInt16) : Bool := (digitValue u).isSome

/-- `parseInt(s, 16)`; `none` is NaN. -/
def parseInt (s : CodeUnits) : Option Int :=
  let s := s.dropWhile isSpace
  let sign : Int := if s.head? = some 0x2D then -1 else 1
  let s := if s.head? = some 0x2B ∨ s.head? = some 0x2D then s.tail else s
  let s := if s.take 2 = [0x30, 0x78] ∨ s.take 2 = [0x30, 0x58] then s.drop 2 else s
  let digits := (s.takeWhile isDigit).filterMap digitValue
  if digits = [] then none
  else some (sign * (digits.foldl (fun n digit => 16 * n + digit) 0 : Nat))

/-- What a `Uint8Array` keeps of a number. -/
def toUint8 : Option Int → UInt8
  | none => 0
  | some n => UInt8.ofInt n

/-- `n.toString(16)` -/
def toString16 (n : Nat) : CodeUnits :=
  (Nat.toDigits 16 n).map fun digit => digit.toNat.toUInt16

/-- `s.padStart(2, '0')` -/
def padStart2 (s : CodeUnits) : CodeUnits := List.replicate (2 - s.length) 0x30 ++ s

end CodeUnits

open CodeUnits

/-- `s.replace(/[\s:]/g, '')` -/
def stripped (s : CodeUnits) : CodeUnits := s.filter fun u => !(isSpace u || u == 0x3A)

def lengthError (length : Nat) : Thrown :=
  .error s!"expected 64 hex chars (32 bytes), got {length}"

def parseHash (s : CodeUnits) : Except Thrown (List UInt8) :=
  let hex := stripped s
  if hex.length ≠ 64 then .error (lengthError hex.length)
  else .ok ((List.range 32).map fun i => toUint8 (parseInt ((hex.drop (i * 2)).take 2)))

def hex (bytes : List UInt8) : CodeUnits :=
  bytes.flatMap fun b => padStart2 (toString16 b.toNat)

/-! ## Two digits and their byte -/

/-- The digit `toString` writes for a value below 16. -/
def lowerDigit (n : Nat) : UInt16 := (if n < 10 then 0x30 + n else 0x57 + n).toUInt16

/-- A digit with its letter made small, and anything else as it is. -/
def lowered (u : UInt16) : UInt16 := if 0x41 ≤ u ∧ u ≤ 0x46 then u + 0x20 else u

theorem padded_eq (b : UInt8) :
    padStart2 (toString16 b.toNat) = [lowerDigit (b.toNat / 16), lowerDigit (b.toNat % 16)] := by
  have all : ∀ n < 256,
      padStart2 (toString16 n) = [lowerDigit (n / 16), lowerDigit (n % 16)] := by
    decide +kernel
  exact all _ b.toNat_lt

theorem toNat_lowered (u : UInt16) :
    (lowered u).toNat = if 0x41 ≤ u.toNat ∧ u.toNat ≤ 0x46 then u.toNat + 0x20 else u.toNat := by
  unfold lowered
  simp only [UInt16.le_iff_toNat_le, UInt16.reduceToNat]
  split_ifs with upper
  · simp
    omega
  · rfl

theorem toNat_lowerDigit {n : Nat} (small : n < 16) :
    (lowerDigit n).toNat = if n < 10 then 0x30 + n else 0x57 + n := by
  unfold lowerDigit
  split_ifs
  all_goals
    simp
    omega

theorem digitValue_eq_some {u : UInt16} {n : Nat} :
    digitValue u = some n ↔
      (0x30 ≤ u.toNat ∧ u.toNat ≤ 0x39 ∧ n = u.toNat - 0x30) ∨
        (0x41 ≤ u.toNat ∧ u.toNat ≤ 0x46 ∧ n = u.toNat - 0x37) ∨
        (0x61 ≤ u.toNat ∧ u.toNat ≤ 0x66 ∧ n = u.toNat - 0x57) := by
  unfold digitValue
  simp only [UInt16.le_iff_toNat_le, UInt16.reduceToNat]
  split_ifs with digit upper lower
  all_goals
    simp
    omega

theorem lowered_eq_lowerDigit {u : UInt16} {n : Nat} (small : n < 16) :
    lowered u = lowerDigit n ↔ digitValue u = some n := by
  rw [← UInt16.toNat_inj, toNat_lowered, toNat_lowerDigit small, digitValue_eq_some]
  split_ifs <;> omega

theorem digitValue_lt {u : UInt16} {n : Nat} (h : digitValue u = some n) : n < 16 := by
  rw [digitValue_eq_some] at h
  omega

theorem isSpace_of_digit {u : UInt16} {n : Nat} (h : digitValue u = some n) :
    isSpace u = false := by
  rw [digitValue_eq_some] at h
  simp only [isSpace, Bool.or_eq_false_iff, Bool.and_eq_false_iff, decide_eq_false_iff_not,
    beq_eq_false_iff_ne, ne_eq, UInt16.le_iff_toNat_le, ← UInt16.toNat_inj, UInt16.reduceToNat]
  omega

/-- Neither a sign nor the `x` of a prefix is a digit, so two digits are read as such. -/
theorem parseInt_digits {high low : UInt16} {x y : Nat} (hx : digitValue high = some x)
    (hy : digitValue low = some y) : parseInt [high, low] = some (16 * x + y : Nat) := by
  have space := isSpace_of_digit hx
  have plus : high ≠ 0x2B := by
    rintro rfl
    cases hx
  have minus : high ≠ 0x2D := by
    rintro rfl
    cases hx
  have small : low ≠ 0x78 := by
    rintro rfl
    cases hy
  have large : low ≠ 0x58 := by
    rintro rfl
    cases hy
  simp [parseInt, space, plus, minus, small, large, isDigit, hx, hy]

/-- The byte written for a pair of units. -/
def byteOf (pair : CodeUnits) : UInt8 := toUint8 (parseInt pair)

theorem byteOf_digits {high low : UInt16} {x y : Nat} (hx : digitValue high = some x)
    (hy : digitValue low = some y) : (byteOf [high, low]).toNat = 16 * x + y := by
  have := digitValue_lt hx
  have := digitValue_lt hy
  rw [byteOf, parseInt_digits hx hy]
  change (UInt8.ofNat ((16 * x + y : Nat) % 2 ^ 8 : Int).toNat).toNat = _
  rw [UInt8.toNat_ofNat']
  omega

/-- The digits of a byte are those of a pair exactly if the pair is two digits and spells it. -/
theorem padded_eq_lowered_iff {high low : UInt16} {b : UInt8} :
    padStart2 (toString16 b.toNat) = [lowered high, lowered low] ↔
      isDigit high ∧ isDigit low ∧ byteOf [high, low] = b := by
  have bound := b.toNat_lt
  have h1 : b.toNat / 16 < 16 := by omega
  have h2 : b.toNat % 16 < 16 := by omega
  rw [padded_eq, List.cons.injEq, List.cons.injEq, eq_comm, lowered_eq_lowerDigit h1,
    eq_comm (b := lowered low), lowered_eq_lowerDigit h2]
  constructor
  · rintro ⟨hx, hy, -⟩
    have value := byteOf_digits hx hy
    have same : byteOf [high, low] = b := UInt8.toNat_inj.mp (by omega)
    simp [isDigit, hx, hy, same]
  · rintro ⟨hx, hy, rfl⟩
    obtain ⟨x, hx⟩ := Option.isSome_iff_exists.mp hx
    obtain ⟨y, hy⟩ := Option.isSome_iff_exists.mp hy
    have := digitValue_lt hx
    have := digitValue_lt hy
    rw [byteOf_digits hx hy, hx, hy]
    simp
    omega

/-! ## The whole text -/

/-- `n` bytes read two units at a time. -/
def readPairs : Nat → CodeUnits → List UInt8
  | 0, _ => []
  | n + 1, s => byteOf (s.take 2) :: readPairs n (s.drop 2)

theorem map_range_eq_readPairs (n : Nat) (s : CodeUnits) :
    (List.range n).map (fun i => toUint8 (parseInt ((s.drop (i * 2)).take 2))) =
      readPairs n s := by
  induction n generalizing s with
  | zero => rfl
  | succ n ih =>
      rw [List.range_succ_eq_map, List.map_cons, List.map_map, readPairs, ← ih]
      simp [byteOf, Function.comp_def, Nat.add_mul, Nat.add_comm]

theorem length_readPairs (n : Nat) (s : CodeUnits) : (readPairs n s).length = n := by
  induction n generalizing s with
  | zero => rfl
  | succ n ih => simp [readPairs, ih]

theorem length_hex (bytes : List UInt8) : (hex bytes).length = 2 * bytes.length := by
  induction bytes with
  | nil => rfl
  | cons b bytes ih =>
      rw [hex, List.flatMap_cons, List.length_append, padded_eq, ← hex, ih]
      simp
      omega

/-- Bytes are written with a text's digits exactly if the text is digits and spells them. -/
theorem hex_eq_lowered_iff (n : Nat) (s : CodeUnits) (bytes : List UInt8)
    (length : s.length = 2 * n) (same : bytes.length = n) :
    hex bytes = s.map lowered ↔ (∀ u ∈ s, isDigit u) ∧ readPairs n s = bytes := by
  induction n generalizing s bytes with
  | zero =>
      obtain rfl := List.length_eq_zero_iff.mp length
      obtain rfl := List.length_eq_zero_iff.mp same
      simp [hex, readPairs]
  | succ n ih =>
      obtain ⟨high, low, rest, rfl⟩ : ∃ high low rest, s = high :: low :: rest := by
        match s, length with
        | high :: low :: rest, _ => exact ⟨high, low, rest, rfl⟩
        | [u], one => simp at one; omega
      obtain ⟨b, bytes, rfl⟩ := List.exists_cons_of_length_eq_add_one same
      have tail := ih rest bytes (by simpa [Nat.mul_add] using length) (by simpa using same)
      have head := @padded_eq_lowered_iff high low b
      have split : hex (b :: bytes) = (high :: low :: rest).map lowered ↔
          padStart2 (toString16 b.toNat) = [lowered high, lowered low] ∧
            hex bytes = rest.map lowered := by
        have two : (padStart2 (toString16 b.toNat)).length = 2 := by simp [padded_eq]
        change padStart2 (toString16 b.toNat) ++ hex bytes =
          [lowered high, lowered low] ++ rest.map lowered ↔ _
        exact ⟨fun h => List.append_inj h two, fun h => by rw [h.1, h.2]⟩
      rw [split, head, tail]
      simp only [readPairs, List.take_succ_cons, List.take_zero, List.drop_succ_cons,
        List.drop_zero, List.forall_mem_cons, List.cons.injEq]
      constructor
      · rintro ⟨⟨first, second, value⟩, digits, values⟩
        exact ⟨⟨first, second, digits⟩, value, values⟩
      · rintro ⟨⟨first, second, digits⟩, value, values⟩
        exact ⟨⟨first, second, value⟩, digits, values⟩

/--
White space and colons do not count, and a text is refused exactly if other than 64 units
are left. `hex` writes the bytes read with the units of the text, letter case aside,
exactly if all of these are digits; any other text of 64 units is read as well, as bytes
that it does not spell.
-/
theorem parseHash_exact (s : CodeUnits) (bytes : List UInt8) :
    (∀ error, parseHash s = .error error ↔
        (stripped s).length ≠ 64 ∧ error = lengthError (stripped s).length) ∧
      (parseHash s = .ok bytes → bytes.length = 32) ∧
      (hex bytes = (stripped s).map lowered ∧ bytes.length = 32 ↔
        parseHash s = .ok bytes ∧ ∀ u ∈ stripped s, isDigit u) := by
  have written := length_hex bytes
  simp only [parseHash, map_range_eq_readPairs]
  by_cases length : (stripped s).length = 64
  · have read := length_readPairs 32 (stripped s)
    rw [if_neg (by simpa using length)]
    refine ⟨by simp [length], ?_, ?_⟩
    · intro h
      cases h
      exact read
    · constructor
      · rintro ⟨same, bound⟩
        have := (hex_eq_lowered_iff 32 _ _ length bound).mp same
        exact ⟨congrArg _ this.2, this.1⟩
      · rintro ⟨h, digits⟩
        cases h
        exact ⟨(hex_eq_lowered_iff 32 _ _ length read).mpr ⟨digits, rfl⟩, read⟩
  · rw [if_pos (by simpa using length)]
    refine ⟨by simp [length, eq_comm], by simp, ?_⟩
    constructor
    · rintro ⟨same, bound⟩
      have := congrArg List.length same
      rw [List.length_map] at this
      omega
    · simp

end OpenRD.Web
