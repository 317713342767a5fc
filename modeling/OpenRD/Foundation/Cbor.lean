import Mathlib.Algebra.Group.Int.Defs
import Mathlib.Data.Int.Order.Basic
import Mathlib.Data.List.Basic

/-!
# The CBOR data model

Values as a decoder presents them: integers of major types 0 and 1, strings,
arrays, maps with entries in wire order, and tagged or simple values.
-/

namespace OpenRD.Foundation

/-- An integer in the range the two CBOR integer types cover. -/
structure CborInt where
  value : Int
  lower : -2 ^ 64 ≤ value
  upper : value < 2 ^ 64
  deriving DecidableEq, Repr

namespace CborInt

@[ext] theorem ext {first second : CborInt} (h : first.value = second.value) :
    first = second := by
  cases first; cases second; cases h; rfl

def ofU64 (n : UInt64) : CborInt where
  value := n.toNat
  lower := by omega
  upper := by exact_mod_cast n.toNat_lt

def toU64? (n : CborInt) : Option UInt64 :=
  if 0 ≤ n.value then some (UInt64.ofNat n.value.toNat) else none

@[simp] theorem toU64?_ofU64 (n : UInt64) : (ofU64 n).toU64? = some n := by
  simp [toU64?, ofU64]

theorem toU64?_eq_some {n : CborInt} {word : UInt64} :
    n.toU64? = some word ↔ n = ofU64 word := by
  constructor
  · intro h
    unfold toU64? at h
    split at h
    · next hpos =>
        have hlt : n.value.toNat < 2 ^ 64 := by have := n.upper; omega
        cases h
        ext
        simp only [ofU64, UInt64.toNat_ofNat_of_lt' hlt]
        omega
    · cases h
  · rintro rfl
    exact toU64?_ofU64 word

end CborInt

inductive Cbor where
  | integer (n : CborInt)
  | bytes (contents : List UInt8)
  /-- A float, as the bits of its 64-bit form. -/
  | float (bits : UInt64)
  | text (contents : String)
  | bool (b : Bool)
  | null
  | tag (number : UInt64) (value : Cbor)
  | array (items : List Cbor)
  | map (entries : List (Cbor × Cbor))
  deriving Repr

namespace Cbor

def uint (n : UInt64) : Cbor := .integer (.ofU64 n)

def asInteger : Cbor → Option CborInt
  | .integer n => some n
  | _ => none

def asBytes : Cbor → Option (List UInt8)
  | .bytes contents => some contents
  | _ => none

def asText : Cbor → Option String
  | .text contents => some contents
  | _ => none

def asBool : Cbor → Option Bool
  | .bool b => some b
  | _ => none

def asArray : Cbor → Option (List Cbor)
  | .array items => some items
  | _ => none

def asMap : Cbor → Option (List (Cbor × Cbor))
  | .map entries => some entries
  | _ => none

def asU64 (value : Cbor) : Option UInt64 := value.asInteger.bind CborInt.toU64?

@[simp] theorem asU64_uint (n : UInt64) : (uint n).asU64 = some n :=
  CborInt.toU64?_ofU64 n

theorem asU64_eq_some {value : Cbor} {n : UInt64} :
    value.asU64 = some n ↔ value = uint n := by
  constructor
  · intro h
    cases value <;> simp [asU64, asInteger] at h
    next m => rw [CborInt.toU64?_eq_some.mp h]; rfl
  · rintro rfl
    exact asU64_uint n

@[simp] theorem asBytes_bytes (contents : List UInt8) :
    (Cbor.bytes contents).asBytes = some contents := rfl

@[simp] theorem asText_text (contents : String) :
    (Cbor.text contents).asText = some contents := rfl

@[simp] theorem asBool_bool (b : Bool) : (Cbor.bool b).asBool = some b := rfl

@[simp] theorem asArray_array (items : List Cbor) :
    (Cbor.array items).asArray = some items := rfl

@[simp] theorem asMap_map (entries : List (Cbor × Cbor)) :
    (Cbor.map entries).asMap = some entries := rfl

end Cbor

end OpenRD.Foundation
