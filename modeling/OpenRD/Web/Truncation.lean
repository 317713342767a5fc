import OpenRD.Web.Cuts
import OpenRD.Web.WireItems

/-!
# Truncated input

What the web client's reader makes of an item that is cut short.
-/

namespace OpenRD.Web

open OpenRD.Foundation CborWire

/-! ## Where a read leaves off -/

def after {α : Type} (result : Except ReadStop (α × Position)) : Except ReadStop Position :=
  result.map Prod.snd

/-- A read ends so. -/
def Fate.Ends : Fate → Except ReadStop Position → Prop
  | .thrown, result => ∃ error, result = .error (.thrown error)
  | .forever, result => result = .error .forever
  | .atEnd, result => result = .ok (some [])
  | .lost, result => result = .ok none

/-- The loop over a container does not get through so many rounds. -/
def exceeds : Kind → Nat → Bool
  | .array, n => decide (2 ^ 32 ≤ n)
  | .map, n => decide (2 ^ 53 < n)

/-- How many items the loop over a container reads at most. -/
def loopItems : Kind → Nat → Nat
  | .array, n => min n (2 ^ 32)
  | .map, n => 2 * min n (2 ^ 53)

def loopStop : Kind → ReadStop
  | .array => .thrown .rangeError
  | .map => .forever

def leaveLoop (kind : Kind) (n : Nat) (pos : Position) : Except ReadStop Position :=
  if exceeds kind n then .error (loopStop kind) else .ok pos

section Loops

variable {α : Type} (read : Position → Except ReadStop (α × Position))

theorem after_readTimes_zero (pos : Position) : after (readTimes read 0 pos) = .ok pos := rfl

theorem after_readTimes_succ (count : Nat) (pos : Position) :
    after (readTimes read (count + 1) pos) =
      after (read pos) >>= fun pos => after (readTimes read count pos) := by
  rw [readTimes]
  cases read pos with
  | error stop => rfl
  | ok result =>
      obtain ⟨item, pos⟩ := result
      simp only [after, Except.map, bind, Except.bind]
      cases readTimes read count pos <;> rfl

theorem after_readPushing (n : Nat) (pos : Position) :
    after (readPushing read n pos) =
      after (readTimes read (loopItems .array n) pos) >>= leaveLoop .array n := by
  by_cases hn : n < 2 ^ 32
  · have hleave : leaveLoop .array n = Except.ok := funext fun pos => if_neg (by simpa [exceeds])
    rw [readPushing_of_lt hn, loopItems, Nat.min_eq_left (by omega), hleave]
    exact (bind_pure _).symm
  · have hleave : leaveLoop .array n = fun _ => .error (.thrown .rangeError) :=
      funext fun pos => if_pos (by simpa [exceeds] using hn)
    rw [readPushing, if_neg hn, loopItems, Nat.min_eq_right (by omega), hleave]
    cases readTimes read (2 ^ 32) pos <;> rfl

end Loops

theorem after_readEntries (stack count : Nat) (pos : Position) :
    after (readTimes (readEntry stack) count pos) =
      after (readTimes (readValue stack) (2 * count) pos) := by
  induction count generalizing pos with
  | zero => rfl
  | succ count ih =>
      have hentry : after (readEntry stack pos) =
          after (readValue stack pos) >>= fun pos => after (readValue stack pos) := by
        rw [readEntry]
        cases readValue stack pos with
        | error stop => rfl
        | ok result =>
            obtain ⟨k, pos⟩ := result
            simp only [after, Except.map, bind, Except.bind]
            cases readValue stack pos <;> rfl
      rw [after_readTimes_succ, hentry, Nat.mul_succ, after_readTimes_succ,
        bind_assoc]
      refine bind_congr fun pos => ?_
      rw [after_readTimes_succ]
      exact bind_congr fun pos => ih pos

theorem after_readLoop (stack n : Nat) (pos : Position) :
    after (readLoop (readEntry stack) n pos) =
      after (readTimes (readValue stack) (loopItems .map n) pos) >>= leaveLoop .map n := by
  rw [loopItems, ← after_readEntries]
  by_cases hn : n ≤ 2 ^ 53
  · have hleave : leaveLoop .map n = Except.ok := funext fun pos => if_neg (by simpa [exceeds])
    rw [readLoop_of_le hn, Nat.min_eq_left hn, hleave]
    exact (bind_pure _).symm
  · have hleave : leaveLoop .map n = fun _ => .error .forever :=
      funext fun pos => if_pos (by simpa [exceeds] using hn)
    rw [readLoop, if_neg hn, Nat.min_eq_right (by omega), hleave]
    cases readTimes (readEntry stack) (2 ^ 53) pos <;> rfl

/-- What is read once the length is there. -/
def afterHead (major stack : Nat) (n : Option Nat) (pos : Position) :
    Except ReadStop Position :=
  match major with
  | 0 | 1 => .ok pos
  | 2 | 3 => .ok (skip n pos)
  | 4 =>
      after (readTimes (readValue stack) (loopItems .array (n.getD 0)) pos) >>=
        leaveLoop .array (n.getD 0)
  | _ =>
      after (readTimes (readValue stack) (loopItems .map (n.getD 0)) pos) >>=
        leaveLoop .map (n.getD 0)

theorem after_readValue_head {major info : Nat} (hmajor : major < 6) (hinfo : info < 32)
    (stack : Nat) (bytes : List UInt8) :
    after (readValue (stack + 1) (some (initialByte major info :: bytes))) =
      readLength info (some bytes) >>= fun (length, pos) =>
        afterHead major stack length.toNumber pos := by
  obtain ⟨hdiv, hmod⟩ := toNat_initialByte (show major < 8 by omega) hinfo
  have hmajor' : bitsAt (some (initialByte major info :: bytes)) 0 / 32 = major := hdiv
  have hinfo' : bitsAt (some (initialByte major info :: bytes)) 0 % 32 = info := hmod
  have hadvance : advance 1 (some (initialByte major info :: bytes)) = some bytes := rfl
  rw [readValue, if_neg (by simp)]
  simp only [hmajor', hinfo', hadvance, readEntry_eq]
  cases readLength info (some bytes) with
  | error stop => rfl
  | ok result =>
      obtain ⟨length, pos⟩ := result
      interval_cases major
      · simp only [bind, Except.bind]
        cases length.toNumber <;> rfl
      · simp only [bind, Except.bind]
        cases length.toNumber <;> rfl
      · rfl
      · rfl
      · refine Eq.trans ?_ (after_readPushing (readValue stack) (length.toNumber.getD 0) pos)
        simp only [bind, Except.bind]
        cases readPushing (readValue stack) (length.toNumber.getD 0) pos <;> rfl
      · refine Eq.trans ?_ (after_readLoop stack (length.toNumber.getD 0) pos)
        simp only [bind, Except.bind]
        cases readLoop (readEntry stack) (length.toNumber.getD 0) pos <;> rfl

theorem after_readValue {major info n : Nat} (hmajor : major < 6) (h : Fits info n)
    (stack : Nat) (rest : List UInt8) :
    after (readValue (stack + 1) (some (spelledHead major info n ++ rest))) =
      afterHead major stack (some (nearestDouble n)) (some rest) := by
  have hinfo := h.info_lt
  obtain ⟨length, hread, hnumber⟩ := readLength_fits h rest
  rw [spelledHead, List.cons_append, after_readValue_head hmajor (by omega), hread, ← hnumber]
  rfl

theorem after_readValue_container {info n : Nat} (kind : Kind) (h : Fits info n) (stack : Nat)
    (rest : List UInt8) :
    after (readValue (stack + 1) (some (spelledHead kind.major info n ++ rest))) =
      after (readTimes (readValue stack) (loopItems kind (nearestDouble n)) (some rest)) >>=
        leaveLoop kind (nearestDouble n) := by
  cases kind with
  | array => exact after_readValue (by decide) h stack rest
  | map => exact after_readValue (by decide) h stack rest

/-! ## Counts as doubles -/

theorem floor_le_nearestDouble {n : Nat} (h : 2 ^ 53 ≤ n) :
    n / 2 ^ (n.log2 - 52) * 2 ^ (n.log2 - 52) ≤ nearestDouble n := by
  rw [nearestDouble, if_neg (by omega)]
  refine Nat.mul_le_mul_right _ ?_
  split
  · exact Nat.le_succ _
  · exact Nat.le_refl _

theorem two_pow_log2_le_nearestDouble {n : Nat} (h : 2 ^ 53 ≤ n) :
    2 ^ n.log2 ≤ nearestDouble n := by
  have hlog : 53 ≤ n.log2 := (Nat.le_log2 (by omega)).mpr h
  have hpow : 2 ^ n.log2 = 2 ^ 52 * 2 ^ (n.log2 - 52) := by
    rw [← Nat.pow_add, Nat.add_sub_cancel' (by omega)]
  have hdown : 2 ^ 52 ≤ n / 2 ^ (n.log2 - 52) := by
    rw [Nat.le_div_iff_mul_le (Nat.two_pow_pos _), ← hpow]
    exact Nat.log2_self_le (by omega)
  calc 2 ^ n.log2 = 2 ^ 52 * 2 ^ (n.log2 - 52) := hpow
    _ ≤ n / 2 ^ (n.log2 - 52) * 2 ^ (n.log2 - 52) := Nat.mul_le_mul_right _ hdown
    _ ≤ nearestDouble n := floor_le_nearestDouble h

theorem le_nearestDouble {n : Nat} (h : 2 ^ 53 ≤ n) : 2 ^ 53 ≤ nearestDouble n :=
  (Nat.pow_le_pow_right (by decide) ((Nat.le_log2 (by omega)).mpr h)).trans
    (two_pow_log2_le_nearestDouble h)

theorem lt_nearestDouble {m n : Nat} (hm : m < 2 ^ 53) (h : m < n) : m < nearestDouble n := by
  by_cases hn : n < 2 ^ 53
  · rwa [nearestDouble_of_lt hn]
  · exact hm.trans_le (le_nearestDouble (by omega))

/-- `2 ^ 53 + 1` is rounded down, and what is larger is not rounded that far. -/
theorem lt_nearestDouble_iff {n : Nat} : 2 ^ 53 < nearestDouble n ↔ 2 ^ 53 + 1 < n := by
  by_cases h : n < 2 ^ 53
  · rw [nearestDouble_of_lt h]
    omega
  · have hlog : 53 ≤ n.log2 := (Nat.le_log2 (by omega)).mpr (by omega)
    by_cases hnear : n ≤ 2 ^ 53 + 1
    · have hn : n = 2 ^ 53 ∨ n = 2 ^ 53 + 1 := by omega
      rcases hn with rfl | rfl <;> decide
    · refine iff_of_true ?_ (by omega)
      rcases Nat.lt_or_eq_of_le hlog with hlog | hlog
      · have hpow : 2 ^ 54 ≤ 2 ^ n.log2 := Nat.pow_le_pow_right (by decide) hlog
        have hle := two_pow_log2_le_nearestDouble (show 2 ^ 53 ≤ n by omega)
        omega
      · have hfloor := floor_le_nearestDouble (show 2 ^ 53 ≤ n by omega)
        rw [← hlog] at hfloor
        omega

theorem exceeds_nearestDouble (kind : Kind) (n : Nat) :
    exceeds kind (nearestDouble n) = (overflows kind n || endless kind n) := by
  cases kind with
  | array =>
      have hiff : 2 ^ 32 ≤ nearestDouble n ↔ 2 ^ 32 ≤ n := by
        by_cases h : n < 2 ^ 53
        · rw [nearestDouble_of_lt h]
        · have hle := le_nearestDouble (show 2 ^ 53 ≤ n by omega)
          omega
      simp only [exceeds, overflows, endless, hiff, Bool.or_false]
  | map => simp only [exceeds, overflows, endless, lt_nearestDouble_iff, Bool.false_or]

theorem readValue_none (stack : Nat) : readValue (stack + 1) none = .ok (.number 0, none) := rfl

theorem after_readTimes_none (stack count : Nat) :
    after (readTimes (readValue (stack + 1)) count none) = .ok none := by
  induction count with
  | zero => rfl
  | succ count ih => 
    rw [after_readTimes_succ, readValue_none]
    exact ih

/-! ## Whole items -/

theorem Fate.Ends.bind {result : Except ReadStop Position} (h : Fate.thrown.Ends result)
    (next : Position → Except ReadStop Position) : Fate.thrown.Ends (result >>= next) := by
  obtain ⟨error, rfl⟩ := h
  exact ⟨error, rfl⟩

/-- A whole item is read to its end, unless an array in it overflows. -/
def ReadsWhole (stack : Nat) (item : Item) : Prop :=
  ∀ rest,
    if overlong item then
      Fate.thrown.Ends (after (readValue stack (some (item.encode ++ rest))))
    else after (readValue stack (some (item.encode ++ rest))) = .ok (some rest)

section Whole

variable {stack : Nat} {items : List Item} (h : ∀ item ∈ items, ReadsWhole stack item)
  (more : Nat) (rest : List UInt8)

include h

theorem after_readTimes_overlong (hlong : overlongAny items = true) :
    Fate.thrown.Ends (after (readTimes (readValue stack) (items.length + more)
      (some (Item.encodeAll items ++ rest)))) := by
  induction items with
  | nil => cases hlong
  | cons item items ih =>
      have hitem := h item List.mem_cons_self (Item.encodeAll items ++ rest)
      rw [List.length_cons, Nat.add_right_comm, after_readTimes_succ, Item.encodeAll,
        List.append_assoc]
      by_cases hfirst : overlong item = true
      · rw [if_pos hfirst] at hitem
        exact hitem.bind _
      · rw [if_neg hfirst] at hitem
        rw [hitem]
        refine ih (fun item hmem => h item (List.mem_cons_of_mem _ hmem)) ?_
        simpa [overlongAny, hfirst] using hlong

theorem after_readTimes_whole (hshort : overlongAny items = false) :
    after (readTimes (readValue stack) (items.length + more)
        (some (Item.encodeAll items ++ rest))) =
      after (readTimes (readValue stack) more (some rest)) := by
  induction items with
  | nil => rw [List.length_nil, Nat.zero_add, Item.encodeAll, List.nil_append]
  | cons item items ih =>
      rw [overlongAny, Bool.or_eq_false_iff] at hshort
      have hitem := h item List.mem_cons_self (Item.encodeAll items ++ rest)
      rw [hshort.1, if_neg Bool.false_ne_true] at hitem
      rw [List.length_cons, Nat.add_right_comm, after_readTimes_succ, Item.encodeAll,
        List.append_assoc, hitem]
      exact ih (fun item hmem => h item (List.mem_cons_of_mem _ hmem)) hshort.2

end Whole

theorem after_string (text : Bool) {info : Nat} {contents : List UInt8}
    (fits : Fits info contents.length) (stack : Nat) (rest : List UInt8) :
    after (readValue (stack + 1) (some ((Item.string text info contents).head ++ rest))) =
      .ok (some (rest.drop (nearestDouble contents.length))) := by
  cases text with
  | false => exact after_readValue (show 2 < 6 by decide) fits stack rest
  | true => exact after_readValue (show 3 < 6 by decide) fits stack rest

theorem readValue_simple {info : Nat} (lower : 20 ≤ info) (upper : info < 24) (stack : Nat)
    (rest : List UInt8) :
    after (readValue (stack + 1) (some ((Item.simple info).head ++ rest))) = .ok (some rest) := by
  obtain ⟨hmajor, hmod⟩ := bitsAt_spelledHead (show 7 < 8 by decide)
    (show info < 28 by omega) info rest
  have hread : readLength info (advance 1 (some (spelledHead 7 info info ++ rest))) =
      .ok (.number info, some rest) := by
    rw [spelledHead, argumentBytes, argumentWidth_of_lt upper]
    exact if_pos upper
  rw [Item.head, Item.major, Item.info, Item.argument, readValue,
    if_neg (spelledHead_append_ne 7 info info rest)]
  simp only [hmajor, hmod, hread, bind, Except.bind]
  interval_cases info <;> rfl

/-- An array that overflows fails at the latest at its element number 2^32. -/
theorem array_overflows {stack count : Nat} {items : List Item}
    (h : ∀ item ∈ items, ReadsWhole stack item) (hitems : 2 ^ 32 ≤ items.length)
    (hcount : 2 ^ 32 ≤ count) (rest : List UInt8) :
    Fate.thrown.Ends (after (readTimes (readValue stack) (loopItems .array count)
      (some (Item.encodeAll items ++ rest))) >>= leaveLoop .array count) := by
  have hfirst (item : Item) (hmem : item ∈ items.take (2 ^ 32)) : ReadsWhole stack item :=
    h item (List.mem_of_mem_take hmem)
  have hlen : (items.take (2 ^ 32)).length = loopItems .array count := by
    rw [List.length_take_of_le hitems, loopItems, Nat.min_eq_right hcount]
  have hbytes : Item.encodeAll items ++ rest = Item.encodeAll (items.take (2 ^ 32)) ++
      (Item.encodeAll (items.drop (2 ^ 32)) ++ rest) := by
    rw [← List.append_assoc, ← Item.encodeAll_append, List.take_append_drop]
  rw [hbytes, ← hlen, ← Nat.add_zero (items.take (2 ^ 32)).length]
  by_cases hlong : overlongAny (items.take (2 ^ 32)) = true
  · exact (after_readTimes_overlong hfirst 0 _ hlong).bind _
  · rw [after_readTimes_whole hfirst 0 _ (by simpa using hlong), after_readTimes_zero]
    exact ⟨.rangeError, if_pos (decide_eq_true hcount)⟩

theorem readsWhole {item : Item} (h : item.WellFormed) {stack : Nat}
    (hsize : item.encode.length < 2 ^ 53) (hstack : item.levels ≤ stack) :
    ReadsWhole stack item := by
  induction h generalizing stack with
  | @integer negative info argument fits =>
      obtain ⟨stack, rfl⟩ := Item.exists_of_levels_le hstack
      intro rest
      cases negative with
      | false => exact after_readValue (show 0 < 6 by decide) fits stack rest
      | true => exact after_readValue (show 1 < 6 by decide) fits stack rest
  | @string text info contents fits =>
      obtain ⟨stack, rfl⟩ := Item.exists_of_levels_le hstack
      intro rest
      have hshort : overlong (.string text info contents) = false := rfl
      rw [Item.encode, List.length_append] at hsize
      rw [hshort, if_neg Bool.false_ne_true, Item.encode, List.append_assoc,
        after_string text fits, nearestDouble_of_lt (by omega), List.drop_left]
  | @container kind info count items fits length wellFormed ih =>
      obtain ⟨stack, rfl⟩ := Item.exists_of_levels_le hstack
      intro rest
      have hlen := Item.length_le_encodeAll items
      rw [Item.encode, List.length_append] at hsize
      rw [Item.levels] at hstack
      have hcount : count < 2 ^ 53 := by
        cases kind <;> simp only [Kind.span] at length <;> omega
      have hwhole (item : Item) (hmem : item ∈ items) : ReadsWhole stack item := by
        have hlen := Item.length_le_of_mem hmem
        have hlevels := Item.levels_le_of_mem hmem
        exact ih item hmem (by omega) (by omega)
      have hread := after_readValue_container kind fits stack (Item.encodeAll items ++ rest)
      rw [nearestDouble_of_lt hcount] at hread
      rw [Item.encode, List.append_assoc, Item.head, Item.major, Item.info, Item.argument, hread,
        overlong]
      by_cases hover : overflows kind count = true
      · rw [hover, Bool.true_or, if_pos rfl]
        cases kind with
        | array =>
            have hcount : 2 ^ 32 ≤ count := of_decide_eq_true hover
            exact array_overflows hwhole (by simp only [Kind.span] at length; omega) hcount rest
        | map => cases hover
      · have hexceeds : exceeds kind count = false := by
          rw [← nearestDouble_of_lt hcount, exceeds_nearestDouble]
          cases kind <;> simp [overflows, endless] at hover ⊢ <;> omega
        have hloop : loopItems kind count = items.length + 0 := by
          cases kind <;> simp [exceeds] at hexceeds <;>
            simp [loopItems, length, Kind.span] <;> omega
        rw [Bool.not_eq_true] at hover
        rw [hloop, hover, Bool.false_or]
        by_cases hlong : overlongAny items = true
        · rw [if_pos hlong]
          exact (after_readTimes_overlong hwhole 0 rest hlong).bind _
        · rw [Bool.not_eq_true] at hlong
          rw [if_neg (by simp [hlong]), after_readTimes_whole hwhole 0 rest hlong]
          exact if_neg (by simp [hexceeds])
  | @simple info lower upper =>
      obtain ⟨stack, rfl⟩ := Item.exists_of_levels_le hstack
      intro rest
      have hshort : overlong (.simple info) = false := rfl
      rw [hshort, if_neg Bool.false_ne_true]
      exact readValue_simple lower upper stack rest

/-! ## Cut heads -/

/-- Four bytes missing entirely make a NaN; elsewhere a missing byte counts as zero. -/
theorem readLength_cut {info argument : Nat} {present : List UInt8}
    (h : present.length < (argumentBytes info argument).length) :
    (info = 27 ∧ readLength info (some present) = .error (.thrown .rangeError)) ∨
      info ≠ 27 ∧ ∃ length, readLength info (some present) = .ok (length, some []) ∧
        ((length.toNumber = none ∧ present = [] ∧ (info = 24 ∨ info = 26)) ∨
          ∃ n, length.toNumber = some n ∧ (present = [] → info ≠ 24 ∧ info ≠ 26) ∧
            (n = 0 ↔ present.any (· != 0) = false)) := by
  have hbyte (byte : UInt8) : byte.toNat = 0 ↔ byte = 0 := by
    rw [← UInt8.toNat_inj]
    rfl
  cases hwidth : argumentWidth info with
  | none =>
      rw [argumentBytes, hwidth] at h
      cases h
  | some width =>
      rw [argumentBytes_of_width hwidth, length_toBeBytes] at h
      unfold argumentWidth at hwidth
      split at hwidth <;> cases hwidth
      · have hpresent : present = [] := List.length_eq_zero_iff.mp (by omega)
        subst hpresent
        exact .inr ⟨by decide, .undefined, rfl, .inl ⟨rfl, rfl, .inl rfl⟩⟩
      · refine .inr ⟨by decide, ?_⟩
        rcases present with _ | ⟨high, _ | ⟨low, more⟩⟩
        · exact ⟨_, rfl, .inr ⟨0, rfl, by decide, by decide⟩⟩
        · refine ⟨_, rfl, .inr ⟨_, rfl, by simp, ?_⟩⟩
          simp [bitsAt, byteAt, hbyte]
        · simp only [List.length_cons] at h
          omega
      · refine .inr ⟨by decide, ?_⟩
        rcases present with _ | ⟨b₀, _ | ⟨b₁, _ | ⟨b₂, _ | ⟨b₃, more⟩⟩⟩⟩
        · exact ⟨_, rfl, .inl ⟨rfl, rfl, .inr rfl⟩⟩
        · refine ⟨_, rfl, .inr ⟨_, rfl, by simp, ?_⟩⟩
          simp [bitsAt, byteAt, hbyte]
        · refine ⟨_, rfl, .inr ⟨_, rfl, by simp, ?_⟩⟩
          simp [bitsAt, byteAt, hbyte]
        · refine ⟨_, rfl, .inr ⟨_, rfl, by simp, ?_⟩⟩
          simp [bitsAt, byteAt, hbyte]
        · simp only [List.length_cons] at h
          omega
      · have hread (hshort : ¬8 ≤ present.length) :
            readLength 27 (some present) = .error (.thrown .rangeError) := if_neg hshort
        exact .inl ⟨rfl, hread (by omega)⟩

theorem after_readValue_nil (stack : Nat) :
    Fate.thrown.Ends (after (readValue stack (some []))) := by
  cases stack with
  | zero => exact ⟨.rangeError, rfl⟩
  | succ stack => exact ⟨.error "CBOR: unexpected EOF", by rw [readValue, if_pos rfl]; rfl⟩

theorem after_readTimes_nil (stack : Nat) {count : Nat} (h : 0 < count) :
    Fate.thrown.Ends (after (readTimes (readValue stack) count (some []))) := by
  obtain ⟨count, rfl⟩ : ∃ n, count = n + 1 := ⟨count - 1, by omega⟩
  rw [after_readTimes_succ]
  exact (after_readValue_nil stack).bind _

/-- The loop over a container that has nothing left to read. -/
theorem loop_nil (kind : Kind) (stack n : Nat) :
    Fate.Ends (if n = 0 then .atEnd else .thrown)
      (after (readTimes (readValue stack) (loopItems kind n) (some [])) >>= leaveLoop kind n) := by
  by_cases hn : n = 0
  · subst hn
    rw [if_pos rfl]
    cases kind <;> rfl
  · rw [if_neg hn]
    refine (after_readTimes_nil stack ?_).bind _
    cases kind <;> simp only [loopItems] <;> omega

theorem after_readValue_cut {major info argument : Nat} {present : List UInt8}
    (hmajor : major < 6) (hinfo : info < 32)
    (h : present.length < (argumentBytes info argument).length) (stack : Nat) :
    (placeFate (.head major info present)).Ends
      (after (readValue (stack + 1) (some (initialByte major info :: present)))) := by
  rw [after_readValue_head hmajor hinfo]
  rcases readLength_cut h with ⟨rfl, hread⟩ | ⟨h27, length, hread, hlength⟩
  · rw [hread]
    exact ⟨.rangeError, rfl⟩
  · rw [hread]
    have hthrows : placeThrows (.head major info present) =
        ((major == 4 || major == 5) && present.any (· != 0)) := by
      simp [placeThrows, h27]
    rw [placeFate, hthrows]
    change Fate.Ends _ (afterHead major stack length.toNumber (some []))
    rcases hlength with ⟨hnan, rfl, hwide⟩ | ⟨n, hnumber, hpresent, hzero⟩
    · have hloses : losesPosition (.head major info []) = (major == 2 || major == 3) := by
        rcases hwide with rfl | rfl <;> simp [losesPosition]
      rw [hnan, hloses]
      interval_cases major
      · rfl
      · rfl
      · rfl
      · rfl
      · exact loop_nil .array stack 0
      · exact loop_nil .map stack 0
    · have hkeeps : losesPosition (.head major info present) = false := by
        cases present with
        | nil => simp [losesPosition, hpresent rfl]
        | cons byte present => rfl
      rw [hnumber, hkeeps]
      have hloop (kind : Kind) := loop_nil kind stack n
      simp only [hzero] at hloop
      generalize present.any (· != 0) = nonzero at hloop ⊢
      interval_cases major
      · rfl
      · rfl
      · exact congrArg (Except.ok ∘ some) List.drop_nil
      · exact congrArg (Except.ok ∘ some) List.drop_nil
      · cases nonzero <;> exact hloop .array
      · cases nonzero <;> exact hloop .map

/-! ## Cut containers -/

section Counts

variable {kind : Kind} {count before after : Nat} (hcount : before + 1 + after = kind.span * count)
  (hbefore : before + 1 < 2 ^ 53)

include hcount hbefore

theorem lt_loopItems (hroom : overflows kind before = false) :
    before < loopItems kind (nearestDouble count) := by
  have hlarge (h : 2 ^ 53 ≤ count) := le_nearestDouble h
  by_cases hsmall : count < 2 ^ 53
  · rw [nearestDouble_of_lt hsmall]
    cases kind with
    | array =>
        have hroom : ¬2 ^ 32 ≤ before := of_decide_eq_false hroom
        simp only [Kind.span, loopItems] at hcount ⊢
        omega
    | map =>
        simp only [Kind.span, loopItems] at hcount ⊢
        omega
  · have hle := hlarge (by omega)
    cases kind with
    | array =>
        have hroom : ¬2 ^ 32 ≤ before := of_decide_eq_false hroom
        simp only [loopItems]
        omega
    | map =>
        simp only [loopItems]
        omega

theorem loopItems_eq_iff (hfits : overflows kind count = false) :
    loopItems kind (nearestDouble count) = before + 1 ↔ after = 0 := by
  by_cases hsmall : count < 2 ^ 53
  · rw [nearestDouble_of_lt hsmall]
    cases kind with
    | array =>
        have hfits : ¬2 ^ 32 ≤ count := of_decide_eq_false hfits
        simp only [Kind.span, loopItems] at hcount ⊢
        omega
    | map =>
        simp only [Kind.span, loopItems] at hcount ⊢
        omega
  · have hle := le_nearestDouble (show 2 ^ 53 ≤ count by omega)
    cases kind with
    | array =>
        have hfits : ¬2 ^ 32 ≤ count := of_decide_eq_false hfits
        omega
    | map =>
        simp only [Kind.span, loopItems] at hcount ⊢
        omega

end Counts

theorem leaveLoop_overflows {kind : Kind} {count : Nat} (h : overflows kind count = true)
    (pos : Position) : Fate.thrown.Ends (leaveLoop kind (nearestDouble count) pos) := by
  have hexceeds := exceeds_nearestDouble kind count
  rw [h, Bool.true_or] at hexceeds
  rw [leaveLoop, if_pos hexceeds]
  cases kind with
  | array => exact ⟨.rangeError, rfl⟩
  | map => cases h

theorem leaveLoop_fits {kind : Kind} {count : Nat} (hfits : overflows kind count = false)
    (hends : endless kind count = false) (pos : Position) :
    leaveLoop kind (nearestDouble count) pos = .ok pos := by
  refine if_neg ?_
  rw [exceeds_nearestDouble, hfits, hends]
  exact Bool.false_ne_true

theorem leaveLoop_endless {kind : Kind} {count : Nat} (h : endless kind count = true)
    (pos : Position) : leaveLoop kind (nearestDouble count) pos = .error .forever := by
  have hexceeds := exceeds_nearestDouble kind count
  rw [h, Bool.or_true] at hexceeds
  rw [leaveLoop, if_pos hexceeds]
  cases kind with
  | array => cases h
  | map => rfl

section Fates

variable {kind : Kind} {count stack more : Nat} {before after : List Item}
  (hcount : before.length + 1 + after.length = kind.span * count)
  (hbefore : before.length + 1 < 2 ^ 53)

include hcount hbefore

theorem endless_of_last (hlast : after = []) : endless kind count = false := by
  cases kind with
  | array => rfl
  | map =>
      subst hlast
      simp only [Kind.span, List.length_nil] at hcount
      exact decide_eq_false (by omega)

/-- At the end of the bytes a container is done if the item that is cut is its last. -/
theorem ends_atEnd (hmore : loopItems kind (nearestDouble count) = before.length + (more + 1)) :
    Fate.Ends (if runsOut ⟨kind, count, before, after⟩ then .thrown else .atEnd)
      (Web.after (readTimes (readValue stack) more (some [])) >>=
        leaveLoop kind (nearestDouble count)) := by
  have hfinish := loopItems_eq_iff hcount hbefore
  by_cases hlast : more = 0
  · subst hlast
    rw [after_readTimes_zero]
    change Fate.Ends _ (leaveLoop kind (nearestDouble count) (some []))
    by_cases hover : overflows kind count = true
    · rw [runsOut, hover, Bool.or_true, if_pos rfl]
      exact leaveLoop_overflows hover _
    · rw [Bool.not_eq_true] at hover
      have hafter : after = [] := List.length_eq_zero_iff.mp ((hfinish hover).mp hmore)
      have hruns : runsOut ⟨kind, count, before, after⟩ = false := by
        simp [runsOut, hover, hafter]
      rw [hruns, if_neg Bool.false_ne_true]
      exact leaveLoop_fits hover (endless_of_last hcount hbefore hafter) _
  · have hruns : runsOut ⟨kind, count, before, after⟩ = true := by
      by_cases hover : overflows kind count = true
      · rw [runsOut, hover, Bool.or_true]
      · rw [Bool.not_eq_true] at hover
        cases after with
        | nil =>
            have hdone := (hfinish hover).mpr rfl
            omega
        | cons item after => rfl
    rw [if_pos hruns]
    exact (after_readTimes_nil stack (Nat.pos_of_ne_zero hlast)).bind _

end Fates

/-- Without a position the rest of a container is filled with zeros. -/
theorem ends_lost (kind : Kind) (count stack more : Nat) :
    Fate.Ends
      (if overflows kind count then .thrown else if endless kind count then .forever else .lost)
      (after (readTimes (readValue (stack + 1)) more none) >>=
        leaveLoop kind (nearestDouble count)) := by
  rw [after_readTimes_none]
  change Fate.Ends _ (leaveLoop kind (nearestDouble count) none)
  cases hover : overflows kind count with
  | true => exact leaveLoop_overflows hover none
  | false =>
      cases hends : endless kind count with
      | true => exact leaveLoop_endless hends none
      | false => exact leaveLoop_fits hover hends none

/-- How a container ends once the item that is cut has been read. -/
theorem ends_container {kind : Kind} {count stack : Nat} {before after : List Item}
    {part : List UInt8} {fate : Fate}
    (hcount : before.length + 1 + after.length = kind.span * count)
    (hbefore : before.length + 1 < 2 ^ 53)
    (hwhole : ∀ item ∈ before, ReadsWhole (stack + 1) item)
    (hpart : fate.Ends (Web.after (readValue (stack + 1) (some part)))) :
    (fateIn ⟨kind, count, before, after⟩ fate).Ends
      (Web.after (readTimes (readValue (stack + 1)) (loopItems kind (nearestDouble count))
        (some (Item.encodeAll before ++ part))) >>= leaveLoop kind (nearestDouble count)) := by
  by_cases hroom : overflows kind before.length = true
  · have hrefuses : refuses ⟨kind, count, before, after⟩ = true := by
      rw [refuses, hroom, Bool.true_or]
    rw [fateIn.eq_def, if_pos hrefuses]
    cases kind with
    | array =>
        have hroom : 2 ^ 32 ≤ before.length := of_decide_eq_true hroom
        have hmany : 2 ^ 32 - 1 < nearestDouble count := by
          simp only [Kind.span] at hcount
          exact lt_nearestDouble (by omega) (by omega)
        exact array_overflows hwhole hroom (by omega) part
    | map => cases hroom
  · rw [Bool.not_eq_true] at hroom
    have hlt := lt_loopItems hcount hbefore hroom
    obtain ⟨more, hmore⟩ := Nat.exists_eq_add_of_lt hlt
    rw [Nat.add_assoc] at hmore
    cases hlong : overlongAny before with
    | true =>
        have hrefuses : refuses ⟨kind, count, before, after⟩ = true := by
          rw [refuses, hlong, Bool.or_true]
        rw [fateIn.eq_def, if_pos hrefuses, hmore]
        exact (after_readTimes_overlong hwhole (more + 1) part hlong).bind _
    | false =>
        have hrefuses : refuses ⟨kind, count, before, after⟩ = false := by
          rw [refuses, hroom, hlong, Bool.or_false]
        have hread : Web.after (readTimes (readValue (stack + 1))
            (loopItems kind (nearestDouble count)) (some (Item.encodeAll before ++ part))) =
              Web.after (readValue (stack + 1) (some part)) >>= fun pos =>
                Web.after (readTimes (readValue (stack + 1)) more pos) := by
          rw [hmore, after_readTimes_whole hwhole (more + 1) part hlong, after_readTimes_succ]
        rw [fateIn.eq_def, hrefuses, if_neg Bool.false_ne_true, hread]
        cases fate with
        | thrown => exact (hpart.bind _).bind _
        | forever =>
            rw [show Web.after (readValue (stack + 1) (some part)) = .error .forever from hpart]
            rfl
        | atEnd =>
            rw [show Web.after (readValue (stack + 1) (some part)) = .ok (some []) from hpart]
            exact ends_atEnd hcount hbefore hmore
        | lost =>
            rw [show Web.after (readValue (stack + 1) (some part)) = .ok none from hpart]
            exact ends_lost kind count stack more

/-! ## Cut items -/

theorem ends_head {item : Item} (h : item.WellFormed) {length : Nat} (stack : Nat)
    (hcut : length < item.head.length) :
    (cutFate (item.locate length)).Ends
      (after (readValue (stack + 1) (some (item.encode.take length)))) := by
  by_cases hstart : length = 0
  · rw [Item.locate.eq_def, if_pos hstart, hstart, List.take_zero]
    exact after_readValue_nil (stack + 1)
  obtain ⟨present, rfl⟩ : ∃ n, length = n + 1 := ⟨length - 1, by omega⟩
  have hlocate : item.locate (present + 1) = ⟨[], .head item.major item.info
      ((argumentBytes item.info item.argument).take present)⟩ := by
    rw [Item.locate.eq_def, if_neg hstart, if_pos hcut]
    rfl
  have hshort : present < (argumentBytes item.info item.argument).length := by
    rw [Item.head, spelledHead, List.length_cons] at hcut
    omega
  have hinfo := h.fits.info_lt
  have hmajor : item.major < 6 := h.major_lt (by omega)
  have hpresent : ((argumentBytes item.info item.argument).take present).length <
      (argumentBytes item.info item.argument).length := by
    rw [List.length_take_of_le (Nat.le_of_lt hshort)]
    exact hshort
  rw [Item.take_encode_head (by omega), hlocate]
  exact after_readValue_cut hmajor (by omega) hpresent stack

theorem ends_cut {item : Item} (h : item.WellFormed) {length stack : Nat}
    (hcut : length < item.encode.length) (hbytes : length < 2 ^ 53)
    (hstack : item.levels ≤ stack) :
    (cutFate (item.locate length)).Ends
      (after (readValue stack (some (item.encode.take length)))) := by
  induction h generalizing length stack with
  | @integer negative info argument fits =>
      obtain ⟨stack, rfl⟩ := Item.exists_of_levels_le hstack
      exact ends_head (.integer negative fits) stack hcut
  | @string text info contents fits =>
      obtain ⟨stack, rfl⟩ := Item.exists_of_levels_le hstack
      by_cases hhead : length < (Item.string text info contents).head.length
      · exact ends_head (.string text fits) stack hhead
      · have hpos : 0 < (Item.string text info contents).head.length := Nat.succ_pos _
        rw [Item.encode, List.length_append] at hcut
        obtain ⟨left, rfl⟩ := Nat.exists_eq_add_of_le (Nat.le_of_not_lt hhead)
        have hleft : left < nearestDouble contents.length :=
          lt_nearestDouble (by omega) (by omega)
        have hlen := List.length_take_le left contents
        rw [Item.locate.eq_def, if_neg (by omega), if_neg hhead, Item.encode,
          List.take_length_add_append, after_string text fits,
          List.drop_eq_nil_of_le (hlen.trans hleft.le)]
        rfl
  | @container kind info count items fits hlength wellFormed ih =>
      obtain ⟨stack, rfl⟩ := Item.exists_of_levels_le hstack
      by_cases hhead : length < (Item.container kind info count items).head.length
      · exact ends_head (.container kind fits hlength wellFormed) stack hhead
      · have hpos : 0 < (Item.container kind info count items).head.length := Nat.succ_pos _
        rw [Item.encode, List.length_append] at hcut
        rw [Item.levels] at hstack
        obtain ⟨place, rfl⟩ := Nat.exists_eq_add_of_le (Nat.le_of_not_lt hhead)
        obtain ⟨before, item, after, left, rfl, hleft, rfl, htake⟩ := Item.encodeAll_take
          (show place < (Item.encodeAll items).length by omega)
        have hlen := Item.length_le_encodeAll before
        have hmem : item ∈ before ++ item :: after := by simp
        have hlevels := Item.levels_le_of_mem hmem
        obtain ⟨stack, rfl⟩ :=
          Item.exists_of_levels_le (hlevels.trans (Nat.le_of_succ_le_succ hstack))
        have hitem := ih item hmem hleft (by omega) (show item.levels ≤ stack + 1 by omega)
        have hwhole (whole : Item) (hbefore : whole ∈ before) : ReadsWhole (stack + 1) whole := by
          have hmem : whole ∈ before ++ item :: after := List.mem_append_left _ hbefore
          have hlevels := Item.levels_le_of_mem hmem
          have hlen := Item.length_le_of_mem hbefore
          exact readsWhole (wellFormed whole hmem) (by omega) (by omega)
        rw [List.length_append, List.length_cons] at hlength
        have hcount : before.length + 1 + after.length = kind.span * count := by omega
        have hspelled : (Item.container kind info count (before ++ item :: after)).head =
            spelledHead kind.major info count := rfl
        rw [Item.encode, List.take_length_add_append, htake, hspelled,
          Item.locate_container before item after hleft, after_readValue_container kind fits]
        exact ends_container hcount (by omega) hwhole hitem
  | @simple info lower upper =>
      obtain ⟨stack, rfl⟩ := Item.exists_of_levels_le hstack
      exact ends_head (.simple lower upper) stack hcut

end OpenRD.Web
