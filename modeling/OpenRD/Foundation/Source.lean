import Mathlib.Data.List.Basic

/-!
# Byte sources that deliver their contents in pieces

A `Source` holds the items a reader has yet to receive, the sizes in which the
transport will hand them over, and what happens after the last one.  Every
finite behaviour of a reader that may return fewer items than were asked for is
one choice of `cuts`.  The results below say that a buffer filled by repeated
reads does not depend on that choice.
-/

namespace OpenRD.Foundation

structure Source (α ε : Type) where
  items : List α
  cuts : List Nat
  /-- The error reported after the last item; `none` is a clean end. -/
  ending : Option ε
  deriving DecidableEq, Repr

namespace Source

variable {α ε : Type}

/--
One read into a buffer of `room` items.  It delivers at least one item while
there is any (and room for it), at most `room`, and otherwise as many as the next
cut says.
-/
def read (source : Source α ε) (room : Nat) :
    Except ε (Option (List α)) × Source α ε :=
  match source.items with
  | [] =>
      match source.ending with
      | none => (.ok none, source)
      | some error => (.error error, source)
  | _ :: _ =>
      let count := min room (min source.items.length
        (max 1 (source.cuts.headD room)))
      (.ok (some (source.items.take count)),
        { source with
          items := source.items.drop count
          cuts := source.cuts.tail })

inductive Filled (α ε : Type) where
  | full (buffer : List α)
  | short (buffer : List α)
  | failed (error : ε)
  deriving DecidableEq, Repr

/--
Reads until `total` items are in `buffer`.  An empty read and the end of the
source both stop the loop short.
-/
def fill (source : Source α ε) (total : Nat) (buffer : List α) :
    Filled α ε × Source α ε :=
  if buffer.length < total then
    match source.read (total - buffer.length) with
    | (.error error, source) => (.failed error, source)
    | (.ok none, source) => (.short buffer, source)
    | (.ok (some []), source) => (.short buffer, source)
    | (.ok (some (item :: items)), source) =>
        source.fill total (buffer ++ item :: items)
  else (.full buffer, source)
  termination_by total - buffer.length
  decreasing_by simp only [List.length_append, List.length_cons]; omega

/-- Two sources that differ at most in how they cut their contents. -/
def SameContents (first second : Source α ε) : Prop :=
  first.items = second.items ∧ first.ending = second.ending

def filledBy (source : Source α ε) (room : Nat) (buffer : List α) : Filled α ε :=
  if room ≤ source.items.length then .full (buffer ++ source.items.take room)
  else
    match source.ending with
    | none => .short (buffer ++ source.items)
    | some error => .failed error

theorem read_cons {source : Source α ε} {item : α} {items : List α}
    (hitems : source.items = item :: items) (room : Nat) (hroom : 0 < room) :
    ∃ count cuts, 0 < count ∧ count ≤ room ∧ count ≤ source.items.length ∧
      source.read room = (.ok (some (source.items.take count)),
        ⟨source.items.drop count, cuts, source.ending⟩) := by
  refine ⟨min room (min source.items.length
    (max 1 (source.cuts.headD room))), source.cuts.tail, ?_, ?_, ?_, ?_⟩
  · have : 0 < source.items.length := by simp [hitems]
    omega
  · omega
  · omega
  · simp only [read, hitems]

theorem filledBy_drop (source : Source α ε) (cuts : List Nat) {count room : Nat}
    (buffer : List α) (hroom : count ≤ room) (hlen : count ≤ source.items.length) :
    filledBy ⟨source.items.drop count, cuts, source.ending⟩ (room - count)
        (buffer ++ source.items.take count) =
      source.filledBy room buffer := by
  have hdrop : count + (room - count) = room := by omega
  unfold filledBy
  simp only [List.length_drop, List.append_assoc]
  by_cases henough : room ≤ source.items.length
  · rw [if_pos henough, if_pos (by omega), ← List.take_add, hdrop]
  · rw [if_neg henough, if_neg (by omega), List.take_append_drop]

/--
Filling a buffer depends only on the contents: it takes the next items when there
are enough of them, and otherwise drains the source.
-/
theorem fill_eq (source : Source α ε) (total : Nat) (buffer : List α) :
    ∃ cuts, source.fill total buffer =
      (source.filledBy (total - buffer.length) buffer,
        ⟨source.items.drop (total - buffer.length), cuts, source.ending⟩) := by
  induction hroom : total - buffer.length using Nat.strongRecOn
    generalizing source buffer with
  | ind room ih =>
      unfold fill
      by_cases hlt : buffer.length < total
      · rw [if_pos hlt, hroom]
        cases hitems : source.items with
        | nil =>
            refine ⟨source.cuts, ?_⟩
            obtain ⟨items, cuts, ending⟩ := source
            subst hitems
            cases ending <;> simp [read, filledBy] <;> omega
        | cons item items =>
            obtain ⟨count, cuts, hpos, hle, hlen, hread⟩ :=
              read_cons hitems room (by omega)
            have hchunk : source.items.take count ≠ [] := by
              simp [hitems]; omega
            obtain ⟨first, rest, hcons⟩ := List.exists_cons_of_ne_nil hchunk
            have hlength : (first :: rest).length = count := by
              rw [← hcons, List.length_take]; omega
            -- the rest of the loop is the same task with `count` items received
            obtain ⟨cuts', hfill⟩ := ih (room - count) (by omega)
              ⟨source.items.drop count, cuts, source.ending⟩
              (buffer ++ first :: rest)
              (by rw [List.length_append, hlength]; omega)
            have hdrop : count + (room - count) = room := by omega
            refine ⟨cuts', ?_⟩
            rw [hread, hcons]
            simp only
            rw [hfill, ← hitems, List.drop_drop, ← hcons, hdrop,
              filledBy_drop source cuts buffer hle hlen]
      · refine ⟨source.cuts, ?_⟩
        have hzero : room = 0 := by omega
        simp [hlt, filledBy, hzero]

theorem fill_sameContents {first second : Source α ε}
    (h : first.SameContents second) (total : Nat) (buffer : List α) :
    (first.fill total buffer).1 = (second.fill total buffer).1 ∧
      (first.fill total buffer).2.SameContents (second.fill total buffer).2 := by
  obtain ⟨cuts, hfirst⟩ := first.fill_eq total buffer
  obtain ⟨cuts', hsecond⟩ := second.fill_eq total buffer
  rw [hfirst, hsecond]
  refine ⟨?_, ?_, h.2⟩
  · simp only [filledBy, h.1, h.2]
  · simp only [h.1]

end Source

end OpenRD.Foundation
