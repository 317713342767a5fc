import Mathlib.Algebra.Group.Int.Defs
import Mathlib.Algebra.Group.Nat.Defs
import Mathlib.Data.List.Basic

/-!
# The web client's CBOR reader

A script value keeps what the client can tell apart: numbers are integers a double
holds, or NaN, and a text is the bytes given to `TextDecoder`.
-/

namespace OpenRD.Web

inductive Thrown where
  /-- `new Error(text)`. -/
  | error (text : String)
  | rangeError
  | typeError
  deriving DecidableEq, Repr

/-- How a call of the reader ends without a value. -/
inductive ReadStop where
  | thrown (error : Thrown)
  /-- It does not end: a loop goes on for ever. -/
  | forever
  deriving DecidableEq, Repr

inductive Value where
  | number (n : Int)
  | nan
  | text (contents : List UInt8)
  | bytes (contents : List UInt8)
  | array (items : List Value)
  /-- A `Map`, as the calls to `set` that filled it. -/
  | map (entries : List (Value × Value))
  | bool (b : Bool)
  | null
  | undefined
  deriving Repr

/-! ## Numbers -/

/-- The nearest double to a natural number, ties to the even significand. -/
def nearestDouble (n : Nat) : Nat :=
  if n < 2 ^ 53 then n
  else
    let unit := 2 ^ (n.log2 - 52)
    let down := n / unit
    let rest := 2 * (n % unit)
    (if rest > unit ∨ (rest = unit ∧ down % 2 = 1) then down + 1 else down) * unit

inductive Length where
  | number (n : Nat)
  | bigint (n : Nat)
  | nan
  | undefined
  deriving DecidableEq, Repr

/-- `Number(length)`; `none` is NaN. -/
def Length.toNumber : Length → Option Nat
  | .number n => some n
  | .bigint n => some (nearestDouble n)
  | .nan => none
  | .undefined => none

def wrapInt32 (n : Int) : Int := n.bmod (2 ^ 32)

/-- `this.pos`, as the bytes from there on; `none` once it is NaN. -/
abbrev Position := Option (List UInt8)

/-- `this.bytes[this.pos + offset]`; `none` is `undefined`. -/
def byteAt (pos : Position) (offset : Nat) : Option UInt8 := pos.bind (·[offset]?)

/-- The same as an operand of a bitwise operator, which takes `undefined` for 0. -/
def bitsAt (pos : Position) (offset : Nat) : Nat := ((byteAt pos offset).getD 0).toNat

def advance (count : Nat) (pos : Position) : Position := pos.map (·.drop count)

def slice (n : Option Nat) (pos : Position) : List UInt8 :=
  match n, pos with
  | some n, some rest => rest.take n
  | _, _ => []

def skip (n : Option Nat) (pos : Position) : Position :=
  match n with
  | some n => advance n pos
  | none => none

def readLength (info : Nat) (pos : Position) : Except ReadStop (Length × Position) :=
  if info < 24 then .ok (.number info, pos)
  else if info = 24 then
    match byteAt pos 0 with
    | some byte => .ok (.number byte.toNat, advance 1 pos)
    | none => .ok (.undefined, advance 1 pos)
  else if info = 25 then
    .ok (.number (bitsAt pos 0 * 2 ^ 8 + bitsAt pos 1), advance 2 pos)
  else if info = 26 then
    match byteAt pos 0 with
    | some byte =>
        .ok (.number (byte.toNat * 2 ^ 24 +
          (bitsAt pos 1 * 2 ^ 16 + bitsAt pos 2 * 2 ^ 8 + bitsAt pos 3)), advance 4 pos)
    -- `undefined * 0x1000000` is NaN, and so is the sum
    | none => .ok (.nan, advance 4 pos)
  else if info = 27 then
    -- the view has to lie inside the buffer; at NaN the initial byte is never 27
    let word := pos.getD []
    if 8 ≤ word.length then
      .ok (.bigint ((word.take 8).foldl (fun n byte => n * 2 ^ 8 + byte.toNat) 0),
        advance 8 pos)
    else .error (.thrown .rangeError)
  else .error (.thrown (.error s!"CBOR: unsupported length {info}"))

def readTimes {α : Type} (read : Position → Except ReadStop (α × Position)) :
    Nat → Position → Except ReadStop (List α × Position)
  | 0, pos => .ok ([], pos)
  | count + 1, pos => do
      let (item, pos) ← read pos
      let (items, pos) ← readTimes read count pos
      return (item :: items, pos)

/-- `for (let i = 0; i < n; i++)` around a read.  A double stays at 2^53 when it is
incremented. -/
def readLoop {α : Type} (read : Position → Except ReadStop (α × Position)) (n : Nat)
    (pos : Position) : Except ReadStop (List α × Position) :=
  if n ≤ 2 ^ 53 then readTimes read n pos
  else do
    let _ ← readTimes read (2 ^ 53) pos
    .error .forever

/-- The loop that pushes what it reads.  An array of 2^32 - 1 elements takes no more. -/
def readPushing {α : Type} (read : Position → Except ReadStop (α × Position)) (n : Nat)
    (pos : Position) : Except ReadStop (List α × Position) :=
  if n < 2 ^ 32 then readLoop read n pos
  else do
    let _ ← readTimes read (2 ^ 32) pos
    .error (.thrown .rangeError)

/-- `stack` is the number of nested calls the engine has room for. -/
def readValue : Nat → Position → Except ReadStop (Value × Position)
  | 0, _ => .error (.thrown .rangeError)
  | stack + 1, pos =>
      if pos = some [] then .error (.thrown (.error "CBOR: unexpected EOF"))
      else do
        let initial := bitsAt pos 0
        let major := initial / 32
        let info := initial % 32
        let (length, pos) ← readLength info (advance 1 pos)
        let n := length.toNumber
        match major with
        | 0 =>
            match n with
            | some n => return (.number n, pos)
            | none => return (.nan, pos)
        | 1 =>
            match n with
            | some n => return (.number (-(nearestDouble (n + 1))), pos)
            | none => return (.nan, pos)
        | 2 => return (.bytes (slice n pos), skip n pos)
        | 3 => return (.text (slice n pos), skip n pos)
        | 4 => do
            let (items, pos) ← readPushing (readValue stack) (n.getD 0) pos
            return (.array items, pos)
        | 5 => do
            let readEntry := fun pos => do
              let (k, pos) ← readValue stack pos
              let (v, pos) ← readValue stack pos
              return ((k, v), pos)
            let (entries, pos) ← readLoop readEntry (n.getD 0) pos
            return (.map entries, pos)
        | 7 =>
            match info with
            | 20 => return (.bool false, pos)
            | 21 => return (.bool true, pos)
            | 22 => return (.null, pos)
            | 23 => return (.undefined, pos)
            | _ => .error (.thrown (.error s!"CBOR: unsupported simple {info}"))
        | _ => .error (.thrown (.error s!"CBOR: unsupported major {major}"))

/-! ## Looking a key up and converting what is there -/

/-- `map.get(k)` of a number: later calls to `set` replace earlier ones. -/
def getNumber (entries : List (Value × Value)) (k : Int) : Value :=
  let isKey : Value × Value → Bool
    | (.number n, _) => n = k
    | _ => false
  match entries.findRev? isKey with
  | some entry => entry.2
  | none => .undefined

def Value.orZero : Value → Value
  | .null => .number 0
  | .undefined => .number 0
  | value => value

section Conversion

-- `new TextDecoder().decode(contents) | 0`
variable (textToInt32 : List UInt8 → Int)

/-- An element as it joins into a text of its own, then `| 0`; `true` is no number. -/
def Value.elementToInt32 : Value → Int
  | .number n => wrapInt32 n
  | .text contents => textToInt32 contents
  | .bytes [byte] => byte.toNat
  | .array [item] => item.elementToInt32
  | _ => 0

/--
`value | 0`.  Objects convert through their text: a `Map` is not a number, and an
array is one only if it is empty or its single element is.
-/
def Value.toInt32 : Value → Int
  | .bool true => 1
  | value => value.elementToInt32 textToInt32

end Conversion

end OpenRD.Web
