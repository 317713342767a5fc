import Mathlib.Data.List.Basic
import Mathlib.Tactic.Ring

/-!
# Little-endian words of any width

A word of `width` bytes is a natural number below `256 ^ width`, written least
significant byte first.
-/

namespace OpenRD.Foundation

def toLeBytes : Nat → Nat → List UInt8
  | 0, _ => []
  | width + 1, n => UInt8.ofNat n :: toLeBytes width (n / 256)

def ofLeBytes : List UInt8 → Nat
  | [] => 0
  | byte :: bytes => byte.toNat + 256 * ofLeBytes bytes

@[simp] theorem length_toLeBytes (width n : Nat) :
    (toLeBytes width n).length = width := by
  induction width generalizing n with
  | zero => rfl
  | succ width ih => simp [toLeBytes, ih]

theorem toLeBytes_zero (width : Nat) : toLeBytes width 0 = List.replicate width 0 := by
  induction width with
  | zero => rfl
  | succ width ih =>
      rw [toLeBytes, ih]
      rfl

theorem ofLeBytes_toLeBytes {width n : Nat} (h : n < 256 ^ width) :
    ofLeBytes (toLeBytes width n) = n := by
  induction width generalizing n with
  | zero => simp at h; simp [toLeBytes, ofLeBytes, h]
  | succ width ih =>
      have hdiv : n / 256 < 256 ^ width :=
        Nat.div_lt_of_lt_mul (by rwa [pow_succ, mul_comm] at h)
      rw [toLeBytes, ofLeBytes, ih hdiv, UInt8.toNat_ofNat']
      exact Nat.mod_add_div n 256

theorem toLeBytes_add (width extra n : Nat) :
    toLeBytes (width + extra) n = toLeBytes width n ++ toLeBytes extra (n / 256 ^ width) := by
  induction width generalizing n with
  | zero => simp [toLeBytes]
  | succ width ih =>
      rw [Nat.add_right_comm, toLeBytes, ih, toLeBytes, Nat.div_div_eq_div_mul, pow_succ,
        Nat.mul_comm 256]
      rfl

theorem toLeBytes_mod (width n : Nat) :
    toLeBytes width (n % 256 ^ width) = toLeBytes width n := by
  induction width generalizing n with
  | zero => rfl
  | succ width ih =>
      have hbyte : UInt8.ofNat (n % 256 ^ (width + 1)) = UInt8.ofNat n := by
        rw [← UInt8.toNat_inj, UInt8.toNat_ofNat', UInt8.toNat_ofNat']
        exact Nat.mod_mod_of_dvd n (dvd_pow_self 256 (Nat.succ_ne_zero width))
      have hrest : n % 256 ^ (width + 1) / 256 = n / 256 % 256 ^ width := by
        rw [pow_succ, Nat.mul_comm, Nat.mod_mul_right_div_self]
      rw [toLeBytes, toLeBytes, hbyte, hrest, ih]

theorem ofLeBytes_lt (bytes : List UInt8) : ofLeBytes bytes < 256 ^ bytes.length := by
  induction bytes with
  | nil => simp [ofLeBytes]
  | cons byte bytes ih =>
      have hbyte : byte.toNat < 256 := byte.toNat_lt
      rw [ofLeBytes, List.length_cons, pow_succ]
      omega

theorem toLeBytes_ofLeBytes (bytes : List UInt8) :
    toLeBytes bytes.length (ofLeBytes bytes) = bytes := by
  induction bytes with
  | nil => rfl
  | cons byte bytes ih =>
      have hbyte : byte.toNat < 256 := byte.toNat_lt
      have hrest : (byte.toNat + 256 * ofLeBytes bytes) / 256 = ofLeBytes bytes := by omega
      have hlow : UInt8.ofNat (byte.toNat + 256 * ofLeBytes bytes) = byte := by
        rw [← UInt8.toNat_inj, UInt8.toNat_ofNat']
        omega
      rw [List.length_cons, ofLeBytes, toLeBytes, hlow, hrest, ih]

/-! ## Machine words -/

def u32ToLeBytes (word : UInt32) : List UInt8 := toLeBytes 4 word.toNat

def u32OfLeBytes (bytes : List UInt8) : UInt32 := UInt32.ofNat (ofLeBytes bytes)

@[simp] theorem length_u32ToLeBytes (word : UInt32) :
    (u32ToLeBytes word).length = 4 := length_toLeBytes 4 _

@[simp] theorem u32OfLeBytes_toLeBytes (word : UInt32) :
    u32OfLeBytes (u32ToLeBytes word) = word := by
  have h : word.toNat < 256 ^ 4 := word.toNat_lt
  rw [u32OfLeBytes, u32ToLeBytes, ofLeBytes_toLeBytes h, UInt32.ofNat_toNat]

theorem toNat_u32OfLeBytes {bytes : List UInt8} (h : bytes.length ≤ 4) :
    (u32OfLeBytes bytes).toNat = ofLeBytes bytes := by
  apply UInt32.toNat_ofNat_of_lt'
  calc ofLeBytes bytes < 256 ^ bytes.length := ofLeBytes_lt bytes
    _ ≤ 256 ^ 4 := Nat.pow_le_pow_right (by decide) h

theorem u32ToLeBytes_u32OfLeBytes {bytes : List UInt8} (h : bytes.length = 4) :
    u32ToLeBytes (u32OfLeBytes bytes) = bytes := by
  rw [u32ToLeBytes, toNat_u32OfLeBytes h.le, ← h, toLeBytes_ofLeBytes]

theorem u32ToLeBytes_ofNat (n : Nat) : u32ToLeBytes (UInt32.ofNat n) = toLeBytes 4 n := by
  rw [u32ToLeBytes, UInt32.toNat_ofNat']
  exact toLeBytes_mod 4 n

end OpenRD.Foundation
