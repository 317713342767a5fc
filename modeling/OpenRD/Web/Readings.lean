import Mathlib.Data.List.Induction
import OpenRD.Web.Endless

/-!
# What the web client reads off a buffer

A buffer is read as the item it begins with or, where the reader does not notice that it is
cut short, as what is left of an item.
-/

namespace OpenRD.Web

open OpenRD.Foundation CborWire

/-! ## Values of whole items -/

def integerValue (negative : Bool) (argument : Nat) : Value :=
  if negative then .number (-(nearestDouble (nearestDouble argument + 1)))
  else .number (nearestDouble argument)

def stringValue (text : Bool) (contents : List UInt8) : Value :=
  if text then .text contents else .bytes contents

def simpleValue : Nat → Value
  | 20 => .bool false
  | 21 => .bool true
  | 22 => .null
  | _ => .undefined

/-- Keys and values in turn. -/
def inPairs : List Value → List (Value × Value)
  | k :: v :: values => (k, v) :: inPairs values
  | _ => []

def containerValue : Kind → List Value → Value
  | .array, values => .array values
  | .map, values => .map (inPairs values)

mutual

def itemValue : Item → Value
  | .integer negative _ argument => integerValue negative argument
  | .string text _ contents => stringValue text contents
  | .container kind _ _ items => containerValue kind (itemValues items)
  | .simple info => simpleValue info

def itemValues : List Item → List Value
  | [] => []
  | item :: items => itemValue item :: itemValues items

end

/-- The argument of a head that is cut, with zeros for the bytes that are missing. -/
def filledArgument (info : Nat) (present : List UInt8) : Nat :=
  ofBeBytes (present ++ List.replicate ((argumentWidth info).getD 0 - present.length) 0)

/-- Without its first byte, a length of one or four bytes is no number. -/
def losesArgument (info : Nat) (present : List UInt8) : Bool :=
  present.isEmpty && (info == 24 || info == 26)

/-- A string whose head is cut is empty, and so is a container. -/
def headValue (major info : Nat) (present : List UInt8) : Value :=
  match major with
  | 0 | 1 =>
      if losesArgument info present then .nan
      else integerValue (major == 1) (filledArgument info present)
  | 2 | 3 => stringValue (major == 3) []
  | 4 => containerValue .array []
  | _ => containerValue .map []

mutual

/-- What is read of an item if only that many bytes of it are left. -/
def cutValue (item : Item) (length : Nat) : Value :=
  if length < item.head.length then
    headValue item.major item.info
      ((argumentBytes item.info item.argument).take (length - 1))
  else
    match item with
    | .string text info contents =>
        stringValue text
          (contents.take (length - (Item.string text info contents).head.length))
    | .container kind info count items =>
        -- a count of 2^53 + 1 entries is rounded down
        containerValue kind ((cutValues items
          (length - (Item.container kind info count items).head.length)).take
            (kind.span * 2 ^ 53))
    | item => itemValue item

/-- After the item that is cut the reader finds zeros, if it finds anything. -/
def cutValues : List Item → Nat → List Value
  | [], _ => []
  | item :: items, length =>
      if length < item.encode.length then
        cutValue item length :: items.map fun _ => .number 0
      else itemValue item :: cutValues items (length - item.encode.length)

end

section Loops

variable {α : Type} {read : Position → Except ReadStop (α × Position)} {pos last : Position}

theorem readTimes_succ_eq_ok {count : Nat} {values : List α} :
    readTimes read (count + 1) pos = .ok (values, last) ↔
      ∃ value pos' rest, read pos = .ok (value, pos') ∧
        readTimes read count pos' = .ok (rest, last) ∧ values = value :: rest := by
  rw [readTimes]
  cases read pos with
  | error stop => simp [bind, Except.bind]
  | ok result =>
      obtain ⟨value, pos'⟩ := result
      simp only [bind, Except.bind]
      cases hrest : readTimes read count pos' with
      | error stop => simp [hrest]
      | ok result =>
          obtain ⟨rest, last'⟩ := result
          simp only [pure, Except.pure, Except.ok.injEq, Prod.mk.injEq]
          constructor
          · rintro ⟨rfl, rfl⟩
            exact ⟨_, _, _, ⟨rfl, rfl⟩, hrest, rfl⟩
          · rintro ⟨value', pos'', rest', ⟨rfl, rfl⟩, hrest', rfl⟩
            cases hrest.symm.trans hrest'
            exact ⟨rfl, rfl⟩

end Loops

theorem readEntry_eq_ok {stack : Nat} {pos last : Position} {entry : Value × Value} :
    readEntry stack pos = .ok (entry, last) ↔
      ∃ pos', readValue stack pos = .ok (entry.1, pos') ∧
        readValue stack pos' = .ok (entry.2, last) := by
  rw [readEntry]
  cases readValue stack pos with
  | error stop => simp [bind, Except.bind]
  | ok result =>
      obtain ⟨k, pos'⟩ := result
      simp only [bind, Except.bind]
      cases hv : readValue stack pos' with
      | error stop => simp [hv]
      | ok result =>
          obtain ⟨v, last'⟩ := result
          simp only [pure, Except.pure, Except.ok.injEq, Prod.mk.injEq]
          constructor
          · rintro ⟨rfl, rfl⟩
            exact ⟨_, ⟨rfl, rfl⟩, hv⟩
          · rintro ⟨pos'', ⟨hk, rfl⟩, hv'⟩
            cases hv.symm.trans hv'
            exact ⟨Prod.ext hk rfl, rfl⟩

/-- Entries are read as twice as many values. -/
theorem readTimes_readEntry_eq_ok {stack count : Nat} {pos last : Position}
    {entries : List (Value × Value)} :
    readTimes (readEntry stack) count pos = .ok (entries, last) ↔
      ∃ values, readTimes (readValue stack) (2 * count) pos = .ok (values, last) ∧
        entries = inPairs values := by
  induction count generalizing pos entries with
  | zero =>
      constructor
      · intro h
        cases h
        exact ⟨[], rfl, rfl⟩
      · rintro ⟨values, h, rfl⟩
        cases h
        rfl
  | succ count ih =>
      rw [readTimes_succ_eq_ok, Nat.mul_succ]
      constructor
      · rintro ⟨⟨k, v⟩, pos', rest, hentry, hrest, rfl⟩
        obtain ⟨pos'', hk, hv⟩ := readEntry_eq_ok.mp hentry
        obtain ⟨values, hvalues, rfl⟩ := ih.mp hrest
        exact ⟨k :: v :: values, readTimes_succ_eq_ok.mpr ⟨k, pos'', _, hk,
          readTimes_succ_eq_ok.mpr ⟨v, pos', values, hv, hvalues, rfl⟩, rfl⟩, rfl⟩
      · rintro ⟨values, hread, rfl⟩
        obtain ⟨k, pos'', rest, hk, hrest, rfl⟩ := readTimes_succ_eq_ok.mp hread
        obtain ⟨v, pos', values, hv, hvalues, rfl⟩ := readTimes_succ_eq_ok.mp hrest
        exact ⟨(k, v), pos', inPairs values, readEntry_eq_ok.mpr ⟨pos'', hk, hv⟩,
          ih.mpr ⟨values, hvalues, rfl⟩, rfl⟩

/-! ## Containers -/

theorem readPushing_eq_ok {α : Type} {read : Position → Except ReadStop (α × Position)}
    {n : Nat} {pos last : Position} {values : List α} :
    readPushing read n pos = .ok (values, last) ↔
      exceeds .array n = false ∧
        readTimes read (loopItems .array n) pos = .ok (values, last) := by
  by_cases hn : n < 2 ^ 32
  · have hexceeds : exceeds .array n = false := decide_eq_false hn.not_ge
    rw [readPushing_of_lt hn, loopItems, Nat.min_eq_left hn.le, hexceeds]
    exact (and_iff_right rfl).symm
  · rw [readPushing, if_neg hn]
    refine iff_of_false ?_ fun h => hn (by simpa [exceeds] using h.1)
    cases readTimes read (2 ^ 32) pos <;> simp [bind, Except.bind]

theorem readLoop_eq_ok {stack n : Nat} {pos last : Position}
    {entries : List (Value × Value)} :
    readLoop (readEntry stack) n pos = .ok (entries, last) ↔
      exceeds .map n = false ∧ ∃ values,
        readTimes (readValue stack) (loopItems .map n) pos = .ok (values, last) ∧
          entries = inPairs values := by
  by_cases hn : n ≤ 2 ^ 53
  · have hexceeds : exceeds .map n = false := decide_eq_false hn.not_gt
    rw [readLoop_of_le hn, loopItems, Nat.min_eq_left hn, readTimes_readEntry_eq_ok, hexceeds]
    exact (and_iff_right rfl).symm
  · rw [readLoop, if_neg hn]
    refine iff_of_false ?_ fun h => hn (by simpa [exceeds] using h.1)
    cases readTimes (readEntry stack) (2 ^ 53) pos <;> simp [bind, Except.bind]

theorem readValue_container_eq_ok {kind : Kind} {info n : Nat} (fits : Fits info n)
    {stack : Nat} {rest : List UInt8} {value : Value} {last : Position} :
    readValue (stack + 1) (some (spelledHead kind.major info n ++ rest)) = .ok (value, last) ↔
      exceeds kind (nearestDouble n) = false ∧ ∃ values,
        readTimes (readValue stack) (loopItems kind (nearestDouble n)) (some rest) =
          .ok (values, last) ∧ value = containerValue kind values := by
  cases kind with
  | array =>
      rw [Kind.major, readValue_array fits]
      constructor
      · intro h
        cases hread : readPushing (readValue stack) (nearestDouble n) (some rest) with
        | error stop =>
            rw [hread] at h
            cases h
        | ok result =>
            rw [hread] at h
            cases h
            obtain ⟨hexceeds, hvalues⟩ := readPushing_eq_ok.mp hread
            exact ⟨hexceeds, _, hvalues, rfl⟩
      · rintro ⟨hexceeds, values, hvalues, rfl⟩
        rw [readPushing_eq_ok.mpr ⟨hexceeds, hvalues⟩]
        rfl
  | map =>
      rw [Kind.major, readValue_map fits]
      constructor
      · intro h
        cases hread : readLoop (readEntry stack) (nearestDouble n) (some rest) with
        | error stop =>
            rw [hread] at h
            cases h
        | ok result =>
            rw [hread] at h
            cases h
            obtain ⟨hexceeds, values, hvalues, hpairs⟩ := readLoop_eq_ok.mp hread
            exact ⟨hexceeds, values, hvalues, congrArg Value.map hpairs⟩
      · rintro ⟨hexceeds, values, hvalues, rfl⟩
        rw [readLoop_eq_ok.mpr ⟨hexceeds, values, hvalues, rfl⟩]
        rfl

theorem loopItems_eq_min {kind : Kind} {count : Nat}
    (h : exceeds kind (nearestDouble count) = false) :
    loopItems kind (nearestDouble count) = min (kind.span * count) (kind.span * 2 ^ 53) := by
  have hsmall : count < 2 ^ 53 → nearestDouble count = count := nearestDouble_of_lt
  have hlarge : 2 ^ 53 ≤ count → 2 ^ 53 ≤ nearestDouble count := le_nearestDouble
  cases kind with
  | array =>
      have hfits : ¬2 ^ 32 ≤ nearestDouble count := of_decide_eq_false h
      simp only [loopItems, Kind.span]
      omega
  | map =>
      have hfits : ¬2 ^ 53 < nearestDouble count := of_decide_eq_false h
      simp only [loopItems, Kind.span]
      omega

theorem overflows_of_exceeds {kind : Kind} {count : Nat}
    (h : exceeds kind (nearestDouble count) = false) : overflows kind count = false := by
  rw [exceeds_nearestDouble, Bool.or_eq_false_iff] at h
  exact h.1

/-! ## Whole items are read -/

section Whole

variable {stack : Nat} {items : List Item}

/-- Whole items at the front are read, and what follows is read after them. -/
theorem readTimes_items (h : ∀ item ∈ items, ∀ rest,
      readValue stack (some (item.encode ++ rest)) = .ok (itemValue item, some rest))
    (rest : List UInt8) :
    readTimes (readValue stack) items.length (some (Item.encodeAll items ++ rest)) =
      .ok (itemValues items, some rest) := by
  induction items with
  | nil => rfl
  | cons item items ih =>
      have hitem := h item List.mem_cons_self (Item.encodeAll items ++ rest)
      have hitems := ih fun item hmem => h item (List.mem_cons_of_mem _ hmem)
      rw [Item.encodeAll, List.append_assoc, itemValues]
      exact readTimes_succ_eq_ok.mpr ⟨_, _, _, hitem, hitems, rfl⟩

theorem overlongAny_eq_false :
    overlongAny items = false ↔ ∀ item ∈ items, overlong item = false := by
  induction items with
  | nil => simp [overlongAny]
  | cons item items ih => simp [overlongAny, ih]

theorem readValue_string (text : Bool) {info : Nat} {contents : List UInt8}
    (fits : Fits info contents.length) (rest : List UInt8) :
    readValue (stack + 1) (some ((Item.string text info contents).head ++ rest)) =
      .ok (stringValue text (rest.take (nearestDouble contents.length)),
        some (rest.drop (nearestDouble contents.length))) := by
  cases text with
  | false => exact readValue_bytes fits stack rest
  | true => exact readValue_text fits stack rest

theorem readValue_simpleValue {info : Nat} (lower : 20 ≤ info) (upper : info < 24)
    (rest : List UInt8) :
    readValue (stack + 1) (some ((Item.simple info).head ++ rest)) =
      .ok (simpleValue info, some rest) := by
  obtain ⟨hmajor, hmod⟩ := bitsAt_spelledHead (show 7 < 8 by decide)
    (show info < 28 by omega) info rest
  have hread : readLength info (advance 1 (some (spelledHead 7 info info ++ rest))) =
      .ok (.number info, some rest) := by
    rw [spelledHead, argumentBytes, argumentWidth_of_lt upper]
    exact if_pos upper
  rw [Item.head, Item.major, Item.info, Item.argument, readValue,
    if_neg (spelledHead_append_ne 7 info info rest)]
  simp only [hmajor, hmod, hread, bind, Except.bind]
  interval_cases info <;> rfl

theorem readValue_item {item : Item} (h : item.WellFormed) {stack : Nat}
    (hsize : item.encode.length < 2 ^ 53) (hlevels : item.levels ≤ stack)
    (hfits : overlong item = false) (rest : List UInt8) :
    readValue stack (some (item.encode ++ rest)) = .ok (itemValue item, some rest) := by
  induction h generalizing stack rest with
  | @integer negative info argument fits =>
      obtain ⟨stack, rfl⟩ := Item.exists_of_levels_le hlevels
      cases negative with
      | false => exact readValue_uint fits stack rest
      | true => exact readValue_negative fits stack rest
  | @string text info contents fits =>
      obtain ⟨stack, rfl⟩ := Item.exists_of_levels_le hlevels
      rw [Item.encode, List.length_append] at hsize
      rw [Item.encode, List.append_assoc, readValue_string text fits,
        nearestDouble_of_lt (by omega), List.take_left, List.drop_left, itemValue]
  | @container kind info count items fits length wellFormed ih =>
      obtain ⟨stack, rfl⟩ := Item.exists_of_levels_le hlevels
      have hlen := Item.length_le_encodeAll items
      rw [Item.encode, List.length_append] at hsize
      rw [Item.levels] at hlevels
      rw [overlong, Bool.or_eq_false_iff, overlongAny_eq_false] at hfits
      have hcount : count < 2 ^ 53 := by
        cases kind <;> simp only [Kind.span] at length <;> omega
      have hitems : ∀ item ∈ items, ∀ rest,
          readValue stack (some (item.encode ++ rest)) = .ok (itemValue item, some rest) := by
        intro item hmem
        have hlen := Item.length_le_of_mem hmem
        have hlevels := Item.levels_le_of_mem hmem
        exact ih item hmem (by omega) (by omega) (hfits.2 item hmem)
      have hexceeds : exceeds kind (nearestDouble count) = false := by
        rw [exceeds_nearestDouble, hfits.1, Bool.false_or]
        cases kind with
        | array => rfl
        | map => exact decide_eq_false (by omega)
      have hloop : loopItems kind (nearestDouble count) = items.length := by
        rw [loopItems_eq_min hexceeds, length]
        exact Nat.min_eq_left (Nat.mul_le_mul_left _ hcount.le)
      rw [Item.encode, List.append_assoc, itemValue]
      refine (readValue_container_eq_ok fits).mpr ⟨hexceeds, _, ?_, rfl⟩
      rw [hloop]
      exact readTimes_items hitems rest
  | @simple info lower upper =>
      obtain ⟨stack, rfl⟩ := Item.exists_of_levels_le hlevels
      exact readValue_simpleValue lower upper rest

end Whole

/-! ## Cut heads -/

/-- The bytes begin with an item, or with a part of one and then end. -/
def Found (stack : Nat) (bytes : List UInt8) : Prop :=
  ∃ item : Item, item.WellFormed ∧ item.levels ≤ stack ∧
    ((overlong item = false ∧ item.encode <+: bytes) ∨ CutShort item bytes)

theorem cutShort_of_length {item : Item} {bytes : List UInt8} (h : item.WellFormed)
    (hbegins : bytes <+: item.encode) (hlen : bytes.length < item.encode.length) :
    CutShort item bytes :=
  ⟨h, hbegins, fun heq => hlen.ne (congrArg List.length heq)⟩

theorem levelsAll_le {items : List Item} {n : Nat} (h : ∀ item ∈ items, item.levels ≤ n) :
    Item.levelsAll items ≤ n := by
  induction items with
  | nil => exact Nat.zero_le n
  | cons item items ih =>
      exact Nat.max_le.mpr ⟨h item List.mem_cons_self,
        ih fun item hmem => h item (List.mem_cons_of_mem _ hmem)⟩

section Found

variable {stack : Nat} (hfound : ∀ {bytes : List UInt8}, bytes.length < 2 ^ 53 →
  ∀ {value : Value} {last : Position}, readValue stack (some bytes) = .ok (value, last) →
    Found stack bytes)

include hfound

/-- A loop reads whole items only, or one that is cut after some whole ones. -/
theorem readTimes_found {count : Nat} {bytes : List UInt8} {values : List Value}
    {last : Position} (hbytes : bytes.length < 2 ^ 53)
    (hread : readTimes (readValue stack) count (some bytes) = .ok (values, last)) :
    ∃ before : List Item, (∀ item ∈ before, item.WellFormed ∧ item.levels ≤ stack) ∧
      overlongAny before = false ∧
      ((before.length = count ∧ Item.encodeAll before <+: bytes) ∨
        before.length < count ∧ ∃ item part, bytes = Item.encodeAll before ++ part ∧
          item.levels ≤ stack ∧ CutShort item part) := by
  induction count generalizing bytes values with
  | zero => exact ⟨[], by simp, rfl, .inl ⟨rfl, List.nil_prefix⟩⟩
  | succ count ih =>
      obtain ⟨value, pos, rest, hvalue, hrest, rfl⟩ := readTimes_succ_eq_ok.mp hread
      obtain ⟨item, hitem, hlevels, ⟨hshort, tail, rfl⟩ | hcut⟩ := hfound hbytes hvalue
      · rw [List.length_append] at hbytes
        cases hvalue.symm.trans (readValue_item hitem (by omega) hlevels hshort tail)
        obtain ⟨before, hbefore, hshorts, hends⟩ := ih (by omega) hrest
        refine ⟨item :: before, ?_, ?_, ?_⟩
        · exact List.forall_mem_cons.mpr ⟨⟨hitem, hlevels⟩, hbefore⟩
        · rw [overlongAny, hshort, hshorts, Bool.or_false]
        · rw [Item.encodeAll]
          obtain ⟨rfl, hbegins⟩ | ⟨hlen, cut, part, rfl, hdeep, hcut⟩ := hends
          · exact .inl ⟨rfl, (List.prefix_append_right_inj _).mpr hbegins⟩
          · exact .inr ⟨Nat.succ_lt_succ hlen, cut, part, (List.append_assoc ..).symm, hdeep,
              hcut⟩
      · exact ⟨[], by simp, rfl, .inr ⟨Nat.succ_pos count, item, bytes, rfl, hlevels, hcut⟩⟩

theorem found_container (kind : Kind) {info count : Nat} {body : List UInt8}
    (fits : Fits info count) (hbody : body.length < 2 ^ 53) {value : Value} {last : Position}
    (hread : readValue (stack + 1) (some (spelledHead kind.major info count ++ body)) =
      .ok (value, last)) : Found (stack + 1) (spelledHead kind.major info count ++ body) := by
  obtain ⟨hexceeds, values, hloop, -⟩ := (readValue_container_eq_ok fits).mp hread
  have hmin := loopItems_eq_min hexceeds
  obtain ⟨before, hbefore, hshort, hends⟩ := readTimes_found hfound hbody hloop
  have hlen := Item.length_le_encodeAll before
  obtain ⟨hcount, hbegins⟩ | ⟨hcount, item, part, rfl, hlevels, hcut⟩ := hends
  · have hbound := hbegins.length_le
    have hlength : before.length = kind.span * count := by
      cases kind <;> simp only [Kind.span] at hmin ⊢ <;> omega
    refine ⟨.container kind info count before,
      .container kind fits hlength fun item hmem => (hbefore item hmem).1,
      Nat.succ_le_succ (levelsAll_le fun item hmem => (hbefore item hmem).2), .inl ⟨?_, ?_⟩⟩
    · rw [overlong, overflows_of_exceeds hexceeds, hshort, Bool.or_false]
    · exact (List.prefix_append_right_inj _).mpr hbegins
  · -- items that are missing are made up
    let after := List.replicate (kind.span * count - (before.length + 1)) zeroItem
    have hall (whole : Item) (hmem : whole ∈ before ++ item :: after) :
        whole.WellFormed ∧ whole.levels ≤ stack := by
      obtain hmem | hmem := List.mem_append.mp hmem
      · exact hbefore whole hmem
      · obtain rfl | hmem := List.mem_cons.mp hmem
        · exact ⟨hcut.1, hlevels⟩
        · rw [List.eq_of_mem_replicate hmem]
          exact ⟨zeroItem_wellFormed, item.levels_pos.trans_le hlevels⟩
    have hlength : (before ++ item :: after).length = kind.span * count := by
      simp only [List.length_append, List.length_cons, after, List.length_replicate]
      omega
    have hwhole : (Item.container kind info count (before ++ item :: after)).WellFormed :=
      .container kind fits hlength fun whole hmem => (hall whole hmem).1
    have hencode : (Item.container kind info count (before ++ item :: after)).encode =
        spelledHead kind.major info count ++ (Item.encodeAll before ++
          (item.encode ++ Item.encodeAll after)) := by
      rw [Item.encode, Item.encodeAll_append, Item.encodeAll]
      rfl
    obtain ⟨hpart, -⟩ := hcut.take
    refine ⟨_, hwhole, Nat.succ_le_succ (levelsAll_le fun whole hmem => (hall whole hmem).2),
      .inr (cutShort_of_length hwhole ?_ ?_)⟩
    · rw [hencode, List.prefix_append_right_inj, List.prefix_append_right_inj]
      exact hcut.2.1.trans (List.prefix_append _ _)
    · simp only [hencode, List.length_append]
      omega

end Found

section Heads

variable {stack : Nat}

theorem found_whole {item : Item} {rest : List UInt8} (h : item.WellFormed)
    (hlevels : item.levels ≤ stack) (hfits : overlong item = false) :
    Found stack (item.encode ++ rest) :=
  ⟨item, h, hlevels, .inl ⟨hfits, List.prefix_append _ _⟩⟩

/-- The contents of a string are all there, or the missing ones are made up. -/
theorem found_string (text : Bool) {info argument : Nat} (fits : Fits info argument)
    (rest : List UInt8) :
    Found (stack + 1) (spelledHead (if text then 3 else 2) info argument ++ rest) := by
  by_cases hlen : argument ≤ rest.length
  · have hcontents : (rest.take argument).length = argument := List.length_take_of_le hlen
    have hwhole : (Item.string text info (rest.take argument)).WellFormed :=
      .string text (by rwa [hcontents])
    have hspelled : spelledHead (if text then 3 else 2) info argument ++ rest =
        (Item.string text info (rest.take argument)).encode ++ rest.drop argument := by
      rw [Item.encode, Item.head, Item.argument, hcontents, List.append_assoc,
        List.take_append_drop]
      rfl
    rw [hspelled]
    exact found_whole hwhole (Nat.succ_le_succ (Nat.zero_le stack)) rfl
  · let missing := List.replicate (argument - rest.length) (0 : UInt8)
    have hcontents : (rest ++ missing).length = argument := by
      rw [List.length_append, List.length_replicate]
      omega
    have hwhole : (Item.string text info (rest ++ missing)).WellFormed :=
      .string text (by rwa [hcontents])
    have hencode : (Item.string text info (rest ++ missing)).encode =
        spelledHead (if text then 3 else 2) info argument ++ (rest ++ missing) := by
      rw [Item.encode, Item.head, Item.argument, hcontents]
      rfl
    refine ⟨_, hwhole, Nat.succ_le_succ (Nat.zero_le stack),
      .inr (cutShort_of_length hwhole ?_ ?_)⟩
    · rw [hencode, List.prefix_append_right_inj]
      exact List.prefix_append _ _
    · rw [hencode, List.length_append, List.length_append, hcontents]
      omega

/-- Enough of the head is there to tell which item it begins. -/
theorem found_partHead {item : Item} (h : item.WellFormed) (hlevels : item.levels = 1)
    {present : List UInt8}
    (hlen : present.length < (argumentBytes item.info item.argument).length)
    (htake : (argumentBytes item.info item.argument).take present.length = present) :
    Found (stack + 1) (initialByte item.major item.info :: present) := by
  have hshort : present.length < item.head.length := by
    rw [Item.head, spelledHead, List.length_cons]
    omega
  have hbegins := Item.take_encode_head hshort
  rw [htake] at hbegins
  have hcut : present.length + 1 < item.encode.length := by
    obtain ⟨body, hbody⟩ := item.exists_encode
    rw [hbody, List.length_append, Item.head, spelledHead, List.length_cons]
    omega
  refine ⟨item, h, hlevels.trans_le (Nat.succ_le_succ (Nat.zero_le stack)),
    .inr (cutShort_of_length h ?_ hcut)⟩
  rw [← hbegins]
  exact List.take_prefix _ _

/-- A cut head that is read begins an item without items: a container is then empty. -/
theorem found_cutHead {major info argument : Nat} {present : List UInt8} (hmajor : major < 6)
    (fits : Fits info argument) (hlen : present.length < (argumentBytes info argument).length)
    (htake : (argumentBytes info argument).take present.length = present) {value : Value}
    {last : Position}
    (hread : readValue (stack + 1) (some (initialByte major info :: present)) =
      .ok (value, last)) :
    Found (stack + 1) (initialByte major info :: present) := by
  have hinfo := fits.info_lt
  have hthrows : placeThrows (.head major info present) = false := by
    have hends := after_readValue_cut hmajor (by omega) hlen stack
    rw [hread] at hends
    by_contra hthrows
    rw [placeFate, if_pos (by simpa using hthrows)] at hends
    obtain ⟨error, herror⟩ := hends
    cases herror
  obtain ⟨width, hwidth⟩ : ∃ width, argumentWidth info = some width := by
    cases hwidth : argumentWidth info with
    | none =>
        rw [argumentBytes, hwidth] at hlen
        cases hlen
    | some width => exact ⟨width, rfl⟩
  have hempty (kind : Kind) (hkind : kind.major = major) :
      Found (stack + 1) (initialByte major info :: present) := by
    have hnone : ∀ byte ∈ present, byte = 0 := by
      subst hkind
      cases kind <;> simp [placeThrows, Kind.major] at hthrows <;> exact hthrows.2
    have hzeros := List.eq_replicate_iff.mpr ⟨rfl, hnone⟩
    have hbytes : argumentBytes info 0 = List.replicate width 0 := by
      rw [argumentBytes_of_width hwidth, toBeBytes_zero]
    rw [argumentBytes_of_width hwidth, length_toBeBytes] at hlen
    have hwhole : (Item.container kind info 0 []).WellFormed :=
      .container kind (.inr ⟨width, hwidth, Nat.pow_pos (by decide)⟩) rfl (by simp)
    subst hkind
    refine found_partHead hwhole rfl ?_ ?_
    · rwa [Item.info, Item.argument, hbytes, List.length_replicate]
    · rw [Item.info, Item.argument, hbytes, List.take_replicate, Nat.min_eq_left hlen.le, ← hzeros]
  have hstring (text : Bool) (hkind : (if text then 3 else 2) = major) :
      Found (stack + 1) (initialByte major info :: present) := by
    have hcontents : (List.replicate argument (0 : UInt8)).length = argument :=
      List.length_replicate
    have hwhole : (Item.string text info (List.replicate argument 0)).WellFormed :=
      .string text (by rwa [hcontents])
    subst hkind
    refine found_partHead hwhole rfl ?_ ?_
    · rwa [Item.info, Item.argument, hcontents]
    · rwa [Item.info, Item.argument, hcontents]
  interval_cases major
  · exact found_partHead (.integer false fits) rfl hlen htake
  · exact found_partHead (.integer true fits) rfl hlen htake
  · exact hstring false rfl
  · exact hstring true rfl
  · exact hempty .array rfl
  · exact hempty .map rfl

end Heads

/-- Every buffer that is read begins with an item or is one that is cut. -/
theorem found {stack : Nat} {bytes : List UInt8} (hbytes : bytes.length < 2 ^ 53)
    {value : Value} {last : Position} (hread : readValue stack (some bytes) = .ok (value, last)) :
    Found stack bytes := by
  induction stack generalizing bytes value last with
  | zero => cases hread
  | succ stack ih =>
      cases bytes with
      | nil =>
          obtain ⟨error, herror⟩ := after_readValue_nil (stack + 1)
          rw [hread] at herror
          cases herror
      | cons initial bytes =>
          rw [List.length_cons] at hbytes
          have hinitial := initialByte_eq initial
          by_cases hmajor : initial.toNat / 32 < 6
          · obtain hinfo | ⟨argument, rest, fits, hspelled⟩ | ⟨argument, fits, hlen, htake⟩ :=
              head_cases initial bytes
            · obtain ⟨error, herror⟩ := readLength_large hinfo (some bytes)
              have hafter := after_readValue_head hmajor (Nat.mod_lt initial.toNat (by decide))
                stack bytes
              rw [hinitial, herror, hread] at hafter
              cases hafter
            · have hlen := congrArg List.length hspelled
              rw [List.length_cons, List.length_append] at hlen
              rw [hspelled] at hread ⊢
              generalize initial.toNat / 32 = major at hmajor hread ⊢
              have hone : 1 ≤ stack + 1 := Nat.succ_le_succ (Nat.zero_le stack)
              interval_cases major
              · exact found_whole (.integer false fits) hone rfl
              · exact found_whole (.integer true fits) hone rfl
              · exact found_string false fits rest
              · exact found_string true fits rest
              · exact found_container ih .array fits (by omega) hread
              · exact found_container ih .map fits (by omega) hread
            · rw [← hinitial] at hread ⊢
              exact found_cutHead hmajor fits hlen htake hread
          · obtain ⟨error, herror⟩ | ⟨h7, hlower, hupper⟩ :=
              after_readValue_other (Nat.le_of_not_lt hmajor) stack bytes
            · rw [hread] at herror
              cases herror
            · have hspelled : (Item.simple (initial.toNat % 32)).encode = [initial] := by
                rw [h7] at hinitial
                rw [Item.encode_simple, Item.head, Item.major, Item.info, spelledHead,
                  hinitial, argumentBytes, argumentWidth_of_lt hupper]
              refine ⟨.simple (initial.toNat % 32), .simple hlower hupper,
                Nat.succ_le_succ (Nat.zero_le stack), .inl ⟨rfl, ?_⟩⟩
              rw [hspelled]
              exact List.prefix_append [initial] bytes

/-! ## What the reader returns -/

section Cut

variable {item : Item} {buffer : List UInt8} {stack : Nat}

end Cut

end OpenRD.Web
