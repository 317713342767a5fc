import OpenRD.Web.Truncation

/-!
# Reads that lose the position

Bytes that the reader loses its position in, or reads for ever, begin an item.
-/

namespace OpenRD.Web

open OpenRD.Foundation CborWire

/-! ## Beginnings -/

/-- Bytes begin an item that is cut so. -/
def Begins (fate : Fate) (bytes : List UInt8) : Prop :=
  ∃ item : Item, item.WellFormed ∧ bytes.length < item.encode.length ∧
    bytes = item.encode.take bytes.length ∧ cutFate (item.locate bytes.length) = fate

theorem Fate.Ends.unique {first second : Fate} {result : Except ReadStop Position}
    (hfirst : first.Ends result) (hsecond : second.Ends result) : first = second := by
  cases first <;> cases second <;> simp only [Fate.Ends] at hfirst hsecond <;>
    first | rfl | (simp_all)

/-- A filler, of one byte. -/
def zeroItem : Item := .integer false 0 0

theorem zeroItem_wellFormed : zeroItem.WellFormed := .integer false (.inl ⟨by decide, rfl⟩)

theorem exists_item {major info argument : Nat} (hmajor : major < 6) (fits : Fits info argument) :
    ∃ item : Item, item.WellFormed ∧ item.major = major ∧ item.info = info ∧
      item.argument = argument := by
  have hfill (kind : Kind) : (Item.container kind info argument
      (List.replicate (kind.span * argument) zeroItem)).WellFormed :=
    .container kind fits List.length_replicate fun item hmem => by
      rw [List.eq_of_mem_replicate hmem]
      exact zeroItem_wellFormed
  have hstring (text : Bool) : (Item.string text info (List.replicate argument 0)).WellFormed :=
    .string text (by rwa [List.length_replicate])
  interval_cases major
  · exact ⟨_, .integer false fits, rfl, rfl, rfl⟩
  · exact ⟨_, .integer true fits, rfl, rfl, rfl⟩
  · exact ⟨_, hstring false, rfl, rfl, List.length_replicate⟩
  · exact ⟨_, hstring true, rfl, rfl, List.length_replicate⟩
  · exact ⟨_, hfill .array, rfl, rfl, rfl⟩
  · exact ⟨_, hfill .map, rfl, rfl, rfl⟩

/-- A cut head begins an item. -/
theorem begins_head {major info argument : Nat} {present : List UInt8} (hmajor : major < 6)
    (fits : Fits info argument) (hlen : present.length < (argumentBytes info argument).length)
    (htake : (argumentBytes info argument).take present.length = present) :
    Begins (placeFate (.head major info present)) (initialByte major info :: present) := by
  obtain ⟨item, hitem, rfl, rfl, rfl⟩ := exists_item hmajor fits
  obtain ⟨body, hbody⟩ := item.exists_encode
  have hhead : item.head = initialByte item.major item.info ::
      argumentBytes item.info item.argument := rfl
  have hshort : present.length + 1 < item.head.length := by
    rw [hhead, List.length_cons]
    omega
  refine ⟨item, hitem, ?_, ?_, ?_⟩
  · rw [hbody, List.length_append, List.length_cons]
    omega
  · rw [hbody, List.length_cons, List.take_append_of_le_length (by omega), hhead,
      List.take_succ_cons, htake]
  · rw [Item.locate.eq_def, List.length_cons, if_neg (by omega), if_pos hshort,
      Nat.add_sub_cancel, htake]
    rfl

/-- Whole items and a cut one begin a container. -/
theorem begins_container {kind : Kind} {info count : Nat} {before : List Item}
    {part : List UInt8} {fate : Fate} (fits : Fits info count)
    (hwhole : ∀ item ∈ before, item.WellFormed) (hpart : Begins fate part)
    (hroom : before.length < kind.span * count) :
    ∃ after, before.length + 1 + after.length = kind.span * count ∧
      Begins (fateIn ⟨kind, count, before, after⟩ fate)
        (spelledHead kind.major info count ++ (Item.encodeAll before ++ part)) := by
  obtain ⟨item, hitem, hlen, htake, hfate⟩ := hpart
  obtain ⟨more, hmore⟩ := Nat.exists_eq_add_of_lt hroom
  have hencode : (Item.container kind info count
      (before ++ item :: List.replicate more zeroItem)).encode =
        spelledHead kind.major info count ++ (Item.encodeAll before ++
          (item.encode ++ Item.encodeAll (List.replicate more zeroItem))) := by
    rw [Item.encode, Item.encodeAll_append, Item.encodeAll]
    rfl
  refine ⟨List.replicate more zeroItem, by rw [List.length_replicate]; omega,
    .container kind info count (before ++ item :: List.replicate more zeroItem), ?_, ?_, ?_, ?_⟩
  · refine .container kind fits ?_ fun item hmem => ?_
    · rw [List.length_append, List.length_cons, List.length_replicate]
      omega
    · rcases List.mem_append.mp hmem with hmem | hmem
      · exact hwhole item hmem
      · rcases List.mem_cons.mp hmem with rfl | hmem
        · exact hitem
        · rw [List.eq_of_mem_replicate hmem]
          exact zeroItem_wellFormed
  · simp only [hencode, List.length_append]
    omega
  · rw [hencode, List.length_append, List.length_append, List.take_length_add_append,
      List.take_length_add_append, List.take_append_of_le_length hlen.le, ← htake]
  · rw [List.length_append, List.length_append, Item.locate_container before item _ hlen,
      cutFate_cons, ← hfate]

/-! ## What a read says about the bytes -/

structure Explained (stack : Nat) (bytes : List UInt8) : Prop where
  whole {rest : List UInt8} (hrest : rest ≠ [])
    (hread : after (readValue stack (some bytes)) = .ok (some rest)) :
    ∃ item : Item, item.WellFormed ∧ overlong item = false ∧ bytes = item.encode ++ rest
  lost (hread : after (readValue stack (some bytes)) = .ok none) : Begins .lost bytes
  forever (hread : after (readValue stack (some bytes)) = .error .forever) :
    Begins .forever bytes

theorem Explained.length_lt {stack : Nat} {bytes rest : List UInt8}
    (h : Explained stack bytes)
    (hread : after (readValue stack (some bytes)) = .ok (some rest)) :
    rest.length < bytes.length := by
  cases rest with
  | nil =>
      refine List.length_pos_iff.mpr ?_
      rintro rfl
      obtain ⟨error, herror⟩ := after_readValue_nil stack
      rw [hread] at herror
      cases herror
  | cons byte rest =>
      obtain ⟨item, -, -, rfl⟩ := h.whole (List.cons_ne_nil byte rest) hread
      have hpos := item.encode_length_pos
      rw [List.length_append]
      omega

/-- Once the position is lost, every read gives zero. -/
theorem after_readTimes_lost {stack : Nat} {pos : Position}
    (h : after (readValue stack pos) = .ok none) (count : Nat) :
    after (readTimes (readValue stack) count none) = .ok none := by
  cases stack with
  | zero => cases h
  | succ stack => exact after_readTimes_none stack count

theorem readTimes_succ_cases (stack count : Nat) (bytes : List UInt8) :
    (∃ stop, after (readValue stack (some bytes)) = .error stop ∧
        after (readTimes (readValue stack) (count + 1) (some bytes)) = .error stop) ∨
      (after (readValue stack (some bytes)) = .ok none ∧
        after (readTimes (readValue stack) (count + 1) (some bytes)) = .ok none) ∨
      ∃ rest, after (readValue stack (some bytes)) = .ok (some rest) ∧
        after (readTimes (readValue stack) (count + 1) (some bytes)) =
          after (readTimes (readValue stack) count (some rest)) := by
  rw [after_readTimes_succ]
  cases hfirst : after (readValue stack (some bytes)) with
  | error stop => exact .inl ⟨stop, rfl, rfl⟩
  | ok pos =>
      cases pos with
      | none => exact .inr (.inl ⟨rfl, after_readTimes_lost hfirst count⟩)
      | some rest => exact .inr (.inr ⟨rest, rfl, rfl⟩)

theorem lt_of_lt_loopItems {kind : Kind} {count m : Nat}
    (h : m < loopItems kind (nearestDouble count)) (hm : m < 2 ^ 53) :
    m < kind.span * count ∧ overflows kind m = false := by
  have hcount : count < 2 ^ 53 → nearestDouble count = count := nearestDouble_of_lt
  cases kind with
  | array =>
      simp only [loopItems] at h
      refine ⟨?_, decide_eq_false (by omega)⟩
      simp only [Kind.span]
      omega
  | map =>
      simp only [loopItems] at h
      refine ⟨?_, rfl⟩
      simp only [Kind.span]
      omega

theorem leaveLoop_ok {kind : Kind} {count : Nat} {pos left : Position}
    (h : leaveLoop kind (nearestDouble count) pos = .ok left) :
    pos = left ∧ overflows kind count = false ∧ endless kind count = false := by
  cases hover : overflows kind count with
  | true =>
      obtain ⟨error, herror⟩ := leaveLoop_overflows hover pos
      rw [h] at herror
      cases herror
  | false =>
      cases hends : endless kind count with
      | true =>
          rw [leaveLoop_endless hends] at h
          cases h
      | false =>
          rw [leaveLoop_fits hover hends] at h
          cases h
          exact ⟨rfl, rfl, rfl⟩

section Loop

variable {stack : Nat} (h : ∀ bytes : List UInt8, bytes.length < 2 ^ 53 → Explained stack bytes)

include h

/-- Every item that is read takes a byte. -/
theorem le_length_of_readTimes {count : Nat} {bytes rest : List UInt8}
    (hbytes : bytes.length < 2 ^ 53)
    (hread : after (readTimes (readValue stack) count (some bytes)) = .ok (some rest)) :
    count ≤ bytes.length := by
  induction count generalizing bytes with
  | zero => exact Nat.zero_le _
  | succ count ih =>
      obtain ⟨stop, -, hmore⟩ | ⟨-, hmore⟩ | ⟨left, hfirst, hmore⟩ :=
        readTimes_succ_cases stack count bytes
      · rw [hmore] at hread
        cases hread
      · rw [hmore] at hread
        cases hread
      · have hlt := (h bytes hbytes).length_lt hfirst
        have hle := ih (by omega) (hmore.symm.trans hread)
        omega

theorem readTimes_whole {count : Nat} {bytes rest : List UInt8} (hbytes : bytes.length < 2 ^ 53)
    (hrest : rest ≠ [])
    (hread : after (readTimes (readValue stack) count (some bytes)) = .ok (some rest)) :
    ∃ items : List Item, (∀ item ∈ items, item.WellFormed) ∧ items.length = count ∧
      overlongAny items = false ∧ bytes = Item.encodeAll items ++ rest := by
  induction count generalizing bytes with
  | zero =>
      cases hread
      exact ⟨[], by simp, rfl, rfl, rfl⟩
  | succ count ih =>
      obtain ⟨stop, -, hmore⟩ | ⟨-, hmore⟩ | ⟨left, hfirst, hmore⟩ :=
        readTimes_succ_cases stack count bytes
      · rw [hmore] at hread
        cases hread
      · rw [hmore] at hread
        cases hread
      · rw [hmore] at hread
        have hlt := (h bytes hbytes).length_lt hfirst
        have hleft : left ≠ [] := by
          rintro rfl
          have hle := le_length_of_readTimes h (by omega) hread
          rw [Nat.le_zero.mp hle] at hread
          cases hread
          exact hrest rfl
        obtain ⟨item, hitem, hshort, rfl⟩ := (h bytes hbytes).whole hleft hfirst
        obtain ⟨items, hitems, rfl, hshorts, rfl⟩ := ih (by omega) hread
        refine ⟨item :: items, ?_, rfl, ?_, ?_⟩
        · simpa using ⟨hitem, hitems⟩
        · rw [overlongAny, hshort, hshorts, Bool.or_false]
        · rw [Item.encodeAll, List.append_assoc]

theorem readTimes_cut {count : Nat} {bytes : List UInt8} {fate : Fate}
    (hbytes : bytes.length < 2 ^ 53) (hfate : fate = .lost ∨ fate = .forever)
    (hread : fate.Ends (after (readTimes (readValue stack) count (some bytes)))) :
    ∃ before part, (∀ item ∈ before, Item.WellFormed item) ∧ overlongAny before = false ∧
      before.length < count ∧ bytes = Item.encodeAll before ++ part ∧ Begins fate part := by
  induction count generalizing bytes with
  | zero =>
      rcases hfate with rfl | rfl <;> cases hread
  | succ count ih =>
      obtain ⟨stop, hfirst, hmore⟩ | ⟨hfirst, hmore⟩ | ⟨left, hfirst, hmore⟩ :=
        readTimes_succ_cases stack count bytes
      · rw [hmore] at hread
        rcases hfate with rfl | rfl
        · cases hread
        · cases hread
          have hpart := (h bytes hbytes).forever hfirst
          exact ⟨[], bytes, by simp, rfl, Nat.succ_pos count, rfl, hpart⟩
      · rw [hmore] at hread
        rcases hfate with rfl | rfl
        · have hpart := (h bytes hbytes).lost hfirst
          exact ⟨[], bytes, by simp, rfl, Nat.succ_pos count, rfl, hpart⟩
        · cases hread
      · rw [hmore] at hread
        have hlt := (h bytes hbytes).length_lt hfirst
        have hleft : left ≠ [] := by
          rintro rfl
          by_cases hcount : 0 < count
          · have hthrown := after_readTimes_nil stack hcount
            rcases hfate with rfl | rfl <;> cases hread.unique hthrown
          · rw [Nat.le_zero.mp (Nat.le_of_not_lt hcount)] at hread
            rcases hfate with rfl | rfl <;> cases hread
        obtain ⟨item, hitem, hshort, rfl⟩ := (h bytes hbytes).whole hleft hfirst
        obtain ⟨before, part, hbefore, hshorts, hlen, rfl, hpart⟩ := ih (by omega) hread
        refine ⟨item :: before, part, ?_, ?_, Nat.succ_lt_succ hlen, ?_, hpart⟩
        · simpa using ⟨hitem, hbefore⟩
        · rw [overlongAny, hshort, hshorts, Bool.or_false]
        · rw [Item.encodeAll, List.append_assoc]

theorem loop_cut {kind : Kind} {count : Nat} {body : List UInt8} {fate : Fate}
    (hbody : body.length < 2 ^ 53) (hfate : fate = .lost ∨ fate = .forever)
    (hread : fate.Ends (after (readTimes (readValue stack) (loopItems kind (nearestDouble count))
      (some body)) >>= leaveLoop kind (nearestDouble count))) :
    ∃ inner : Fate, (inner = .lost ∨ inner = .forever) ∧
      inner.Ends (after (readTimes (readValue stack) (loopItems kind (nearestDouble count))
        (some body))) ∧
      ∀ before after, refuses ⟨kind, count, before, after⟩ = false →
        fateIn ⟨kind, count, before, after⟩ inner = fate := by
  cases hloop : after (readTimes (readValue stack) (loopItems kind (nearestDouble count))
      (some body)) with
  | error stop =>
      rw [hloop] at hread
      rcases hfate with rfl | rfl
      · cases hread
      · cases hread
        exact ⟨.forever, .inr rfl, rfl, fun before after hrefuses => by simp [fateIn, hrefuses]⟩
  | ok pos =>
      rw [hloop] at hread
      change fate.Ends (leaveLoop kind (nearestDouble count) pos) at hread
      by_cases hover : overflows kind count = true
      · have hthrown := leaveLoop_overflows hover pos
        rcases hfate with rfl | rfl <;> cases hread.unique hthrown
      · rw [Bool.not_eq_true] at hover
        cases pos with
        | none =>
            refine ⟨.lost, .inl rfl, rfl, fun before after hrefuses => ?_⟩
            by_cases hends : endless kind count = true
            · rw [leaveLoop_endless hends] at hread
              rw [hread.unique (show Fate.Ends .forever _ from rfl)]
              simp [fateIn, hrefuses, hover, hends]
            · rw [Bool.not_eq_true] at hends
              rw [leaveLoop_fits hover hends] at hread
              rw [hread.unique (show Fate.Ends .lost _ from rfl)]
              simp [fateIn, hrefuses, hover, hends]
        | some rest =>
            have hle := le_length_of_readTimes h hbody hloop
            have hends : endless kind count = false := by
              cases kind with
              | array => rfl
              | map =>
                  refine decide_eq_false fun hmany => ?_
                  have hlarge := lt_nearestDouble_iff.mpr hmany
                  simp only [loopItems] at hle
                  omega
            rw [leaveLoop_fits hover hends] at hread
            rcases hfate with rfl | rfl <;> cases hread

theorem explained_container (kind : Kind) {info count : Nat} {body : List UInt8}
    (fits : Fits info count) (hbody : body.length < 2 ^ 53) :
    Explained (stack + 1) (spelledHead kind.major info count ++ body) := by
  have hread := after_readValue_container kind fits stack body
  have hcut {fate : Fate} (hfate : fate = .lost ∨ fate = .forever)
      (hends : fate.Ends (after (readValue (stack + 1)
        (some (spelledHead kind.major info count ++ body))))) :
      Begins fate (spelledHead kind.major info count ++ body) := by
    rw [hread] at hends
    obtain ⟨inner, hinner, hends, hfate⟩ := loop_cut h hbody hfate hends
    obtain ⟨before, part, hwhole, hshort, hlen, rfl, hpart⟩ :=
      readTimes_cut h hbody hinner hends
    have hbefore := Item.length_le_encodeAll before
    rw [List.length_append] at hbody
    obtain ⟨hroom, hover⟩ := lt_of_lt_loopItems hlen (by omega)
    obtain ⟨after, -, hbegins⟩ := begins_container fits hwhole hpart hroom
    have hrefuses : refuses ⟨kind, count, before, after⟩ = false := by
      rw [refuses, hover, hshort, Bool.or_false]
    rwa [hfate before after hrefuses] at hbegins
  constructor
  · intro rest hrest hwhole
    rw [hread] at hwhole
    cases hloop : after (readTimes (readValue stack) (loopItems kind (nearestDouble count))
        (some body)) with
    | error stop =>
        rw [hloop] at hwhole
        cases hwhole
    | ok pos =>
        rw [hloop] at hwhole
        obtain ⟨rfl, hover, hends⟩ := leaveLoop_ok hwhole
        have hle := le_length_of_readTimes h hbody hloop
        have hsmall : count < 2 ^ 53 → nearestDouble count = count := nearestDouble_of_lt
        have hlarge : 2 ^ 53 ≤ count → 2 ^ 53 ≤ nearestDouble count := le_nearestDouble
        have hlen : loopItems kind (nearestDouble count) = kind.span * count := by
          cases kind with
          | array =>
              have hfew : ¬2 ^ 32 ≤ count := of_decide_eq_false hover
              simp only [loopItems, Kind.span]
              omega
          | map =>
              simp only [loopItems, Kind.span] at hle ⊢
              omega
        obtain ⟨items, hitems, hcount, hshort, rfl⟩ := readTimes_whole h hbody hrest hloop
        refine ⟨.container kind info count items,
          .container kind fits (hcount.trans hlen) hitems, ?_, ?_⟩
        · rw [overlong, hover, hshort, Bool.or_false]
        · rw [Item.encode, List.append_assoc]
          rfl
  · exact hcut (.inl rfl)
  · exact hcut (.inr rfl)

end Loop

theorem readLength_error {info : Nat} {pos : Position} {stop : ReadStop}
    (h : readLength info pos = .error stop) : ∃ error, stop = .thrown error := by
  unfold readLength at h
  split at h
  · cases h
  · split at h
    · split at h <;> cases h
    · split at h
      · cases h
      · split at h
        · split at h <;> cases h
        · split at h
          · simp only at h
            split at h
            · cases h
            · cases h
              exact ⟨_, rfl⟩
          · cases h
            exact ⟨_, rfl⟩

theorem readLength_large {info : Nat} (h : 28 ≤ info) (pos : Position) :
    ∃ error, readLength info pos = .error (.thrown error) := by
  unfold readLength
  rw [if_neg (by omega), if_neg (by omega), if_neg (by omega), if_neg (by omega),
    if_neg (by omega)]
  exact ⟨_, rfl⟩

/-- Tags and floats are refused, whatever follows. -/
theorem after_readValue_other {initial : UInt8} (hmajor : 6 ≤ initial.toNat / 32) (stack : Nat)
    (bytes : List UInt8) :
    Fate.thrown.Ends (after (readValue (stack + 1) (some (initial :: bytes)))) ∨
      (initial.toNat / 32 = 7 ∧ 20 ≤ initial.toNat % 32 ∧ initial.toNat % 32 < 24) := by
  have hbits : bitsAt (some (initial :: bytes)) 0 = initial.toNat := rfl
  have hlt := initial.toNat_lt
  by_cases hsimple : initial.toNat / 32 = 7 ∧ 20 ≤ initial.toNat % 32 ∧ initial.toNat % 32 < 24
  · exact .inr hsimple
  · left
    rw [readValue, if_neg (by simp)]
    simp only [hbits]
    cases hlength : readLength (initial.toNat % 32) (advance 1 (some (initial :: bytes))) with
    | error stop =>
        obtain ⟨error, rfl⟩ := readLength_error hlength
        exact ⟨error, rfl⟩
    | ok result =>
        simp only [bind, Except.bind]
        rcases (show initial.toNat / 32 = 6 ∨ initial.toNat / 32 = 7 by omega) with h6 | h7
        · rw [h6]
          exact ⟨_, rfl⟩
        · rw [h7]
          simp only
          split
          · omega
          · omega
          · omega
          · omega
          · exact ⟨_, rfl⟩

theorem explained_of_ends {stack : Nat} {bytes : List UInt8} {fate : Fate}
    (hends : fate.Ends (after (readValue stack (some bytes))))
    (hbegins : fate = .thrown ∨ Begins fate bytes) : Explained stack bytes := by
  constructor
  · intro rest hrest hread
    rw [hread] at hends
    cases fate with
    | thrown =>
        obtain ⟨error, herror⟩ := hends
        cases herror
    | forever => cases hends
    | atEnd =>
        cases hends
        exact absurd rfl hrest
    | lost => cases hends
  · intro hread
    obtain rfl := hends.unique (show Fate.Ends .lost _ from hread)
    exact hbegins.resolve_left nofun
  · intro hread
    obtain rfl := hends.unique (show Fate.Ends .forever _ from hread)
    exact hbegins.resolve_left nofun

theorem explained_of_ok {stack : Nat} {bytes rest : List UInt8}
    (hread : after (readValue stack (some bytes)) = .ok (some rest))
    (hitem : rest ≠ [] →
      ∃ item : Item, item.WellFormed ∧ overlong item = false ∧ bytes = item.encode ++ rest) :
    Explained stack bytes := by
  constructor
  · intro left hleft hwhole
    cases hread.symm.trans hwhole
    exact hitem hleft
  · intro hlost
    cases hread.symm.trans hlost
  · intro hforever
    cases hread.symm.trans hforever

theorem explained_head {major info argument stack : Nat} {rest : List UInt8}
    (h : ∀ bytes : List UInt8, bytes.length < 2 ^ 53 → Explained stack bytes)
    (hmajor : major < 6) (fits : Fits info argument) (hrest : rest.length < 2 ^ 53) :
    Explained (stack + 1) (spelledHead major info argument ++ rest) := by
  have hread := after_readValue hmajor fits stack rest
  have hstring (text : Bool) (hmajor : major = if text then 3 else 2)
      (hread : after (readValue (stack + 1) (some (spelledHead major info argument ++ rest))) =
        .ok (some (rest.drop (nearestDouble argument)))) :
      Explained (stack + 1) (spelledHead major info argument ++ rest) := by
    refine explained_of_ok hread fun hleft => ?_
    have hlen : nearestDouble argument < rest.length := by
      by_contra hlen
      exact hleft (List.drop_eq_nil_of_le (Nat.le_of_not_lt hlen))
    have hsmall : argument < 2 ^ 53 := by
      by_contra hlarge
      have hle := le_nearestDouble (Nat.le_of_not_lt hlarge)
      omega
    rw [nearestDouble_of_lt hsmall] at hlen ⊢
    have hcontents : (rest.take argument).length = argument := List.length_take_of_le hlen.le
    refine ⟨.string text info (rest.take argument), .string text (by rwa [hcontents]), rfl, ?_⟩
    rw [Item.encode, Item.head, Item.argument, hcontents, List.append_assoc,
      List.take_append_drop, hmajor]
    rfl
  interval_cases major
  · exact explained_of_ok hread fun _ => ⟨_, .integer false fits, rfl, rfl⟩
  · exact explained_of_ok hread fun _ => ⟨_, .integer true fits, rfl, rfl⟩
  · exact hstring false rfl hread
  · exact hstring true rfl hread
  · exact explained_container h .array fits hrest
  · exact explained_container h .map fits hrest

theorem explained (stack : Nat) {bytes : List UInt8} (hbytes : bytes.length < 2 ^ 53) :
    Explained stack bytes := by
  induction stack generalizing bytes with
  | zero => exact explained_of_ends (show Fate.thrown.Ends _ from ⟨.rangeError, rfl⟩) (.inl rfl)
  | succ stack ih =>
      cases bytes with
      | nil => exact explained_of_ends (after_readValue_nil (stack + 1)) (.inl rfl)
      | cons initial bytes =>
          rw [List.length_cons] at hbytes
          have hinitial := initialByte_eq initial
          by_cases hmajor : initial.toNat / 32 < 6
          · rcases head_cases initial bytes with hinfo | ⟨argument, rest, fits, hspelled⟩ |
              ⟨argument, fits, hlen, htake⟩
            · obtain ⟨error, herror⟩ := readLength_large hinfo (some bytes)
              have hread := after_readValue_head hmajor (Nat.mod_lt initial.toNat (by decide)) stack
                bytes
              rw [hinitial, herror] at hread
              exact explained_of_ends (show Fate.thrown.Ends _ from ⟨error, hread⟩) (.inl rfl)
            · have hlen := congrArg List.length hspelled
              rw [List.length_cons, List.length_append] at hlen
              rw [hspelled]
              exact explained_head (fun bytes hbytes => ih hbytes) hmajor fits (by omega)
            · have hends := after_readValue_cut hmajor (Nat.mod_lt _ (by decide)) hlen stack
              have hbegins := begins_head hmajor fits hlen htake
              rw [hinitial] at hends hbegins
              exact explained_of_ends hends (.inr hbegins)
          · obtain hthrown | ⟨h7, hlower, hupper⟩ :=
              after_readValue_other (Nat.le_of_not_lt hmajor) stack bytes
            · exact explained_of_ends hthrown (.inl rfl)
            · have hread := readValue_simple hlower hupper stack bytes
              have hspelled : (Item.simple (initial.toNat % 32)).head = [initial] := by
                rw [h7] at hinitial
                rw [Item.head, Item.major, Item.info, spelledHead, hinitial, argumentBytes,
                  argumentWidth_of_lt hupper]
              rw [hspelled] at hread
              refine explained_of_ok hread fun _ => ⟨.simple (initial.toNat % 32),
                .simple hlower hupper, rfl, ?_⟩
              exact congrArg (· ++ bytes) hspelled.symm

/-! ## Truncated input -/

/-- A buffer holds the first bytes of an item, but not all of it. -/
def CutShort (item : Item) (buffer : List UInt8) : Prop :=
  item.WellFormed ∧ buffer <+: item.encode ∧ buffer ≠ item.encode

theorem CutShort.take {item : Item} {buffer : List UInt8} (h : CutShort item buffer) :
    buffer.length < item.encode.length ∧ buffer = item.encode.take buffer.length := by
  obtain ⟨-, hbegins, hne⟩ := h
  refine ⟨?_, List.prefix_iff_eq_take.mp hbegins⟩
  refine Nat.lt_of_le_of_ne hbegins.length_le fun hlen => ?_
  exact hne (hbegins.eq_of_length hlen)

theorem thrown_iff {α : Type} (result : Except ReadStop (α × Position)) :
    (∃ error, result = .error (.thrown error)) ↔ Fate.thrown.Ends (after result) := by
  cases result with
  | error stop => simp [Fate.Ends, after, Except.map]
  | ok result => simp [Fate.Ends, after, Except.map]

theorem forever_iff {α : Type} (result : Except ReadStop (α × Position)) :
    result = .error .forever ↔ Fate.forever.Ends (after result) := by
  cases result with
  | error stop => simp [Fate.Ends, after, Except.map]
  | ok result => simp [Fate.Ends, after, Except.map]

/-- Which truncated items the reader throws at, and which bytes it reads for ever. -/
theorem truncated_iff (buffer : List UInt8) (hbuffer : buffer.length < 2 ^ 53) :
    (∀ item, CutShort item buffer → ∀ stack, item.levels ≤ stack →
      ((∃ error, readValue stack (some buffer) = .error (.thrown error)) ↔
        cutThrows (item.locate buffer.length) = true)) ∧
    ((∀ stack, readValue stack (some buffer) ≠ .error .forever) ↔
      ¬∃ item, CutShort item buffer ∧ cutIsEndless (item.locate buffer.length) = true) := by
  have hends {item : Item} (hcut : CutShort item buffer) {stack : Nat}
      (hstack : item.levels ≤ stack) :
      (cutFate (item.locate buffer.length)).Ends (after (readValue stack (some buffer))) := by
    obtain ⟨hlen, htake⟩ := hcut.take
    have hends := ends_cut hcut.1 hlen hbuffer hstack
    rwa [← htake] at hends
  constructor
  · intro item hcut stack hstack
    rw [thrown_iff, ← cutFate_eq_thrown]
    constructor
    · intro hthrown
      exact (hends hcut hstack).unique hthrown
    · intro hfate
      rw [← hfate]
      exact hends hcut hstack
  · rw [← not_exists_not, not_iff_not]
    constructor
    · rintro ⟨stack, hforever⟩
      rw [not_not] at hforever
      obtain ⟨item, hitem, hlen, htake, hfate⟩ :=
        (explained stack hbuffer).forever ((forever_iff _).mp hforever)
      have hne : buffer ≠ item.encode := by
        rintro rfl
        exact Nat.lt_irrefl _ hlen
      have hcut : CutShort item buffer := ⟨hitem, List.prefix_iff_eq_take.mpr htake, hne⟩
      exact ⟨item, hcut, (cutFate_eq_forever _).mp hfate⟩
    · rintro ⟨item, hcut, hendless⟩
      refine ⟨item.levels, not_not.mpr ((forever_iff _).mpr ?_)⟩
      have hends := hends hcut (Nat.le_refl item.levels)
      rwa [(cutFate_eq_forever _).mpr hendless] at hends

theorem truncated_iff_short :
    [0x42, 1].length < 2 ^ 53 ∧
      ¬∃ error, readValue 1 (some [0x42, 1]) = .error (.thrown error) := by
  have hcut : CutShort (.string false 2 [1, 2]) [0x42, 1] :=
    ⟨.string false (.inl ⟨by decide, rfl⟩), ⟨[2], rfl⟩, by decide⟩
  refine ⟨by decide, fun hthrown => ?_⟩
  have h := ((truncated_iff [0x42, 1] (by decide)).1 _ hcut 1 (Nat.le_refl 1)).mp hthrown
  cases h

/-- A byte string of two bytes that ends after one, and a map of 2^64 - 1 entries that
ends in the head of its first key. -/
theorem truncated_unnoticed :
    CutShort (.string false 2 [1, 2]) [0x42, 1] ∧
      readValue 1 (some [0x42, 1]) = .ok (.bytes [1], some []) ∧
      readValue 2 (some [0xBB, 0xFF, 0xFF, 0xFF, 0xFF, 0xFF, 0xFF, 0xFF, 0xFF, 0x58]) =
        .error .forever := by
  refine ⟨⟨.string false (.inl ⟨by decide, rfl⟩), ⟨[2], rfl⟩, by decide⟩, rfl, ?_⟩
  have hfits : Fits 27 (2 ^ 64 - 1) := .inr ⟨8, rfl, by decide⟩
  have hfirst : after (readValue 1 (some [0x58])) = .ok none := rfl
  have hloop (count : Nat) :
      after (readTimes (readValue 1) (count + 1) (some [0x58])) = .ok none := by
    rw [after_readTimes_succ, hfirst]
    exact after_readTimes_none 0 count
  have hcount : loopItems .map (nearestDouble (2 ^ 64 - 1)) = (2 ^ 54 - 1) + 1 := by decide
  have hread := after_readValue_container .map hfits 1 [0x58]
  rw [hcount, hloop] at hread
  refine (forever_iff _).mpr (hread.trans ?_)
  exact leaveLoop_endless (show endless .map (2 ^ 64 - 1) = true by decide) none

end OpenRD.Web
