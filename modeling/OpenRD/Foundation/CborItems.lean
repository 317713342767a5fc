import Mathlib.Tactic.IntervalCases
import OpenRD.Foundation.CborWire

/-!
# CBOR items cut short

Items with heads of any width, and the place in an item where its encoding ends early.
Tags and floats are left out.
-/

namespace OpenRD.Foundation

namespace CborWire

/-! ## Items -/

inductive Kind where
  | array
  | map
  deriving DecidableEq, Repr

def Kind.major : Kind → Nat
  | .array => 4
  | .map => 5

/-- How many items one of its count stands for. -/
def Kind.span : Kind → Nat
  | .array => 1
  | .map => 2

/-- `info` is the low bits of the head.  A map holds its keys and values in turn. -/
inductive Item where
  | integer (negative : Bool) (info argument : Nat)
  | string (text : Bool) (info : Nat) (contents : List UInt8)
  | container (kind : Kind) (info count : Nat) (items : List Item)
  | simple (info : Nat)

namespace Item

def major : Item → Nat
  | .integer negative _ _ => if negative then 1 else 0
  | .string text _ _ => if text then 3 else 2
  | .container kind _ _ _ => kind.major
  | .simple _ => 7

def info : Item → Nat
  | .integer _ info _ => info
  | .string _ info _ => info
  | .container _ info _ _ => info
  | .simple info => info

def argument : Item → Nat
  | .integer _ _ argument => argument
  | .string _ _ contents => contents.length
  | .container _ _ count _ => count
  | .simple info => info

def head (item : Item) : List UInt8 := spelledHead item.major item.info item.argument

mutual

def encode : Item → List UInt8
  | .string text info contents => (Item.string text info contents).head ++ contents
  | .container kind info count items =>
      (Item.container kind info count items).head ++ encodeAll items
  | item => item.head

def encodeAll : List Item → List UInt8
  | [] => []
  | item :: items => encode item ++ encodeAll items

end

theorem encode_simple (info : Nat) : (Item.simple info).encode = (Item.simple info).head := by
  simp [encode]

inductive WellFormed : Item → Prop where
  | integer (negative : Bool) {info argument : Nat} (fits : Fits info argument) :
      WellFormed (.integer negative info argument)
  | string (text : Bool) {info : Nat} {contents : List UInt8}
      (fits : Fits info contents.length) : WellFormed (.string text info contents)
  | container (kind : Kind) {info count : Nat} {items : List Item} (fits : Fits info count)
      (length : items.length = kind.span * count)
      (wellFormed : ∀ item ∈ items, WellFormed item) :
      WellFormed (.container kind info count items)
  | simple {info : Nat} (lower : 20 ≤ info) (upper : info < 24) : WellFormed (.simple info)

mutual

/-- How deep an item is nested. -/
def levels : Item → Nat
  | .container _ _ _ items => levelsAll items + 1
  | _ => 1

def levelsAll : List Item → Nat
  | [] => 0
  | item :: items => max (levels item) (levelsAll items)

end

theorem levels_pos (item : Item) : 0 < item.levels := by
  cases item <;> simp [levels]

theorem exists_of_levels_le {item : Item} {n : Nat} (h : item.levels ≤ n) :
    ∃ m, n = m + 1 :=
  ⟨n - 1, by have := item.levels_pos; omega⟩

theorem levels_le_of_mem {item : Item} {items : List Item} (h : item ∈ items) :
    item.levels ≤ levelsAll items := by
  induction items with
  | nil => cases h
  | cons first items ih =>
      rw [levelsAll]
      rcases List.mem_cons.mp h with rfl | h
      · exact Nat.le_max_left _ _
      · exact (ih h).trans (Nat.le_max_right _ _)

@[simp] theorem encodeAll_append (items more : List Item) :
    encodeAll (items ++ more) = encodeAll items ++ encodeAll more := by
  induction items with
  | nil => rfl
  | cons item items ih => simp [encodeAll, ih]

theorem length_le_of_mem {item : Item} {items : List Item} (h : item ∈ items) :
    item.encode.length ≤ (encodeAll items).length := by
  obtain ⟨before, after, rfl⟩ := List.append_of_mem h
  rw [encodeAll_append, encodeAll, List.length_append, List.length_append]
  omega

theorem WellFormed.fits {item : Item} (h : item.WellFormed) : Fits item.info item.argument := by
  cases h with
  | integer negative fits => exact fits
  | string text fits => exact fits
  | container kind fits length wellFormed => exact fits
  | simple lower upper => exact .inl ⟨upper, rfl⟩

theorem major_lt (item : Item) : item.major < 8 := by
  cases item with
  | integer negative info argument =>
      rw [major]
      split <;> decide
  | string text info contents =>
      rw [major]
      split <;> decide
  | container kind info count items => cases kind <;> simp [major, Kind.major]
  | simple info => simp [major]

theorem exists_encode (item : Item) : ∃ body, item.encode = item.head ++ body := by
  cases item with
  | integer negative info argument => exact ⟨[], (List.append_nil _).symm⟩
  | string text info contents => exact ⟨contents, rfl⟩
  | container kind info count items => exact ⟨encodeAll items, rfl⟩
  | simple info => exact ⟨[], (List.append_nil _).symm⟩

/-- A part of the head starts with its first byte. -/
theorem take_encode_head {item : Item} {length : Nat} (h : length < item.head.length) :
    item.encode.take (length + 1) =
      initialByte item.major item.info :: (argumentBytes item.info item.argument).take length := by
  obtain ⟨body, hbody⟩ := item.exists_encode
  rw [hbody, List.take_append_of_le_length (by omega)]
  rfl

/-- The argument of an item follows its first byte, unless it is a simple value. -/
theorem WellFormed.major_lt {item : Item} (h : item.WellFormed)
    (hargument : 0 < (argumentBytes item.info item.argument).length) : item.major < 6 := by
  cases h with
  | integer negative fits => cases negative <;> simp [major]
  | string text fits => cases text <;> simp [major]
  | container kind fits length wellFormed => cases kind <;> simp [major, Kind.major]
  | simple lower upper =>
      rw [info, argumentBytes, argumentWidth_of_lt upper] at hargument
      cases hargument

theorem encode_length_pos (item : Item) : 0 < item.encode.length := by
  cases item <;> simp [encode, head, spelledHead]

theorem length_le_encodeAll (items : List Item) : items.length ≤ (encodeAll items).length := by
  induction items with
  | nil => exact Nat.le_refl 0
  | cons item items ih =>
      have hpos := encode_length_pos item
      simp only [encodeAll, List.length_append, List.length_cons]
      omega

end Item

/-! ## What bytes begin -/

theorem initialByte_eq (initial : UInt8) :
    initialByte (initial.toNat / 32) (initial.toNat % 32) = initial := by
  rw [initialByte, Nat.div_add_mod, UInt8.ofNat_toNat]

theorem argumentWidth_isSome {info : Nat} (hlower : 24 ≤ info) (hupper : info < 28) :
    ∃ width, argumentWidth info = some width := by
  interval_cases info <;> exact ⟨_, rfl⟩

/-- Bytes begin a head, or the head is cut, or none has such low bits. -/
theorem head_cases (initial : UInt8) (bytes : List UInt8) :
    28 ≤ initial.toNat % 32 ∨
      (∃ argument rest, Fits (initial.toNat % 32) argument ∧ initial :: bytes =
        spelledHead (initial.toNat / 32) (initial.toNat % 32) argument ++ rest) ∨
      ∃ argument, Fits (initial.toNat % 32) argument ∧
        bytes.length < (argumentBytes (initial.toNat % 32) argument).length ∧
        (argumentBytes (initial.toNat % 32) argument).take bytes.length = bytes := by
  generalize hinfo : initial.toNat % 32 = info
  have hinitial : initialByte (initial.toNat / 32) info = initial := by
    rw [← hinfo, initialByte_eq]
  by_cases hsmall : info < 24
  · refine .inr (.inl ⟨info, bytes, .inl ⟨hsmall, rfl⟩, ?_⟩)
    rw [spelledHead, argumentBytes, argumentWidth_of_lt hsmall, hinitial]
    rfl
  · by_cases hlarge : 28 ≤ info
    · exact .inl hlarge
    · obtain ⟨width, hwidth⟩ := argumentWidth_isSome (show 24 ≤ info by omega) (by omega)
      by_cases hroom : width ≤ bytes.length
      · have hlen : (bytes.take width).length = width := List.length_take_of_le hroom
        have hlt := ofBeBytes_lt (bytes.take width)
        have hbytes := toBeBytes_ofBeBytes (bytes.take width)
        rw [hlen] at hlt hbytes
        refine .inr (.inl ⟨_, bytes.drop width, .inr ⟨width, hwidth, hlt⟩, ?_⟩)
        rw [spelledHead, argumentBytes_of_width hwidth, hinitial, hbytes, List.cons_append,
          List.take_append_drop]
      · have hlen : (bytes ++ List.replicate (width - bytes.length) 0).length = width := by
          rw [List.length_append, List.length_replicate]
          omega
        have hlt := ofBeBytes_lt (bytes ++ List.replicate (width - bytes.length) 0)
        have hbytes := toBeBytes_ofBeBytes (bytes ++ List.replicate (width - bytes.length) 0)
        rw [hlen] at hlt hbytes
        refine .inr (.inr ⟨_, .inr ⟨width, hwidth, hlt⟩, ?_⟩)
        rw [argumentBytes_of_width hwidth, hbytes, hlen]
        exact ⟨by omega, List.take_left' rfl⟩

/-! ## Where an item is cut -/

inductive Place where
  /-- Before the first byte of an item. -/
  | start
  /-- Within a head, of whose argument the bytes `present` are left. -/
  | head (major info : Nat) (present : List UInt8)
  | contents
  deriving DecidableEq, Repr

/-- A container with the cut in one of its items. -/
structure Enclosing where
  kind : Kind
  count : Nat
  before : List Item
  after : List Item

/-- The containers around the place are listed from the outermost on. -/
structure Cut where
  enclosing : List Enclosing
  place : Place

namespace Item

mutual

/-- Where an item is cut if only that many bytes of it are left. -/
def locate (item : Item) (length : Nat) : Cut :=
  if length = 0 then ⟨[], .start⟩
  else if length < item.head.length then
    ⟨[], .head item.major item.info
      ((argumentBytes item.info item.argument).take (length - 1))⟩
  else
    match item with
    | .container kind info count items =>
        locateIn kind count [] items
          (length - (Item.container kind info count items).head.length)
    | _ => ⟨[], .contents⟩

def locateIn (kind : Kind) (count : Nat) (before : List Item) : List Item → Nat → Cut
  | [], _ => ⟨[], .contents⟩
  | item :: items, length =>
      if length < item.encode.length then
        let cut := locate item length
        ⟨⟨kind, count, before, items⟩ :: cut.enclosing, cut.place⟩
      else
        locateIn kind count (before ++ [item]) items (length - item.encode.length)

end

theorem locateIn_encodeAll (kind : Kind) (count : Nat) (before items rest : List Item)
    (length : Nat) :
    locateIn kind count before (items ++ rest) ((encodeAll items).length + length) =
      locateIn kind count (before ++ items) rest length := by
  induction items generalizing before with
  | nil => simp [encodeAll]
  | cons item items ih =>
      rw [List.cons_append, locateIn, encodeAll, List.length_append, if_neg (by omega),
        show item.encode.length + (encodeAll items).length + length - item.encode.length =
          (encodeAll items).length + length by omega, ih, List.append_assoc]
      rfl

/-- The items before the cut one are whole. -/
theorem encodeAll_take {items : List Item} {length : Nat}
    (h : length < (encodeAll items).length) :
    ∃ before item after left, items = before ++ item :: after ∧ left < item.encode.length ∧
      length = (encodeAll before).length + left ∧
      (encodeAll items).take length = encodeAll before ++ item.encode.take left := by
  induction items generalizing length with
  | nil => cases h
  | cons first items ih =>
      rw [encodeAll, List.length_append] at h
      by_cases hfirst : length < first.encode.length
      · refine ⟨[], first, items, length, rfl, hfirst, (Nat.zero_add length).symm, ?_⟩
        exact List.take_append_of_le_length (by omega)
      · obtain ⟨before, item, after, left, rfl, hleft, hlength, htake⟩ :=
          ih (show length - first.encode.length < _ by omega)
        refine ⟨first :: before, item, after, left, rfl, hleft, ?_, ?_⟩
        · rw [encodeAll, List.length_append]
          omega
        · rw [encodeAll, List.take_append, List.take_of_length_le (by omega), htake, encodeAll,
            List.append_assoc]

theorem locate_container {kind : Kind} {info count left : Nat} (before : List Item)
    (item : Item) (after : List Item) (hleft : left < item.encode.length) :
    (Item.container kind info count (before ++ item :: after)).locate
        ((spelledHead kind.major info count).length + ((encodeAll before).length + left)) =
      ⟨⟨kind, count, before, after⟩ :: (item.locate left).enclosing, (item.locate left).place⟩ := by
  have hhead : (Item.container kind info count (before ++ item :: after)).head =
      spelledHead kind.major info count := rfl
  have hpos : 0 < (spelledHead kind.major info count).length := Nat.succ_pos _
  rw [locate, hhead, if_neg (by omega), if_neg (by omega), Nat.add_sub_cancel_left]
  rw [locateIn_encodeAll, locateIn, if_pos hleft]
  rfl

end Item

end CborWire

end OpenRD.Foundation
