import Mathlib.Logic.Relation
import OpenRD.Foundation.Program

/-!
# Schedules

Several parties move in an order that none of them controls.  Where each has at most one
move and the moves of different parties commute, the order does not matter: whatever has
happened can still lead to whatever else may happen, and when no party can go on for ever
there is one end.
-/

namespace OpenRD.Foundation

open Relation

universe u v

/-! ## Parties that commute -/

section Parties

variable {σ : Type u} {ι : Type v} (move : ι → σ → Option σ)

/-- Where both parties can move, either can go first, and it comes to the same. -/
def Commutes (i j : ι) : Prop :=
  ∀ ⦃state first second⦄, move i state = some first → move j state = some second →
    ∃ both, move j first = some both ∧ move i second = some both

def Orderless : Prop := ∀ ⦃i j⦄, i ≠ j → Commutes move i j

def Moves (state next : σ) : Prop := ∃ i, move i state = some next

def Done (state : σ) : Prop := ∀ i, move i state = none

/-- Nobody can move in `final`, and every run from `state` can still lead there. -/
structure EndOf (state final : σ) : Prop where
  done : Done move final
  leads : ∀ middle, ReflTransGen (Moves move) state middle →
    ReflTransGen (Moves move) middle final

variable {move} {i j : ι} {state first second final : σ}

theorem Commutes.symm (h : Commutes move i j) : Commutes move j i := by
  intro state first second hfirst hsecond
  obtain ⟨both, hj, hi⟩ := h hsecond hfirst
  exact ⟨both, hi, hj⟩

theorem Done.not_moves (h : Done move final) : ¬Moves move final state := by
  rintro ⟨i, hmove⟩
  rw [h i] at hmove
  cases hmove

theorem exists_moves_of_not_done (h : ¬Done move state) : ∃ next, Moves move state next := by
  simp only [Done, not_forall, ← ne_eq, Option.ne_none_iff_exists'] at h
  obtain ⟨i, next, hmove⟩ := h
  exact ⟨next, i, hmove⟩

theorem Orderless.join (h : Orderless move)
    (hfirst : ReflTransGen (Moves move) state first)
    (hsecond : ReflTransGen (Moves move) state second) :
    Join (ReflTransGen (Moves move)) first second := by
  refine church_rosser ?_ hfirst hsecond
  rintro state first second ⟨i, hi⟩ ⟨j, hj⟩
  by_cases hsame : i = j
  · subst hsame
    cases hi.symm.trans hj
    exact ⟨first, .refl, .refl⟩
  · obtain ⟨both, hj, hi⟩ := h hsame hi hj
    exact ⟨both, .single ⟨j, hj⟩, .single ⟨i, hi⟩⟩

theorem exists_done (hacc : Acc (fun next state => Moves move state next) state) :
    ∃ final, Done move final ∧ ReflTransGen (Moves move) state final := by
  induction hacc with
  | intro state _ ih =>
    by_cases hdone : Done move state
    · exact ⟨state, hdone, .refl⟩
    · obtain ⟨next, hnext⟩ := exists_moves_of_not_done hdone
      obtain ⟨final, hfinal, hleads⟩ := ih next hnext
      exact ⟨final, hfinal, .head hnext hleads⟩

theorem Orderless.endOf (h : Orderless move) (hfinal : Done move final)
    (hleads : ReflTransGen (Moves move) state final) : EndOf move state final := by
  refine ⟨hfinal, fun middle hmiddle => ?_⟩
  obtain ⟨both, hboth, hnothing⟩ := h.join hmiddle hleads
  rcases ReflTransGen.cases_head hnothing with rfl | ⟨next, hnext, -⟩
  · exact hboth
  · exact absurd hnext hfinal.not_moves

/-- Orderless parties that cannot go on for ever have one end, which every run leads to. -/
theorem Orderless.one_end (h : Orderless move)
    (hacc : Acc (fun next state => Moves move state next) state) :
    ∃ final, EndOf move state final := by
  obtain ⟨final, hfinal, hleads⟩ := exists_done hacc
  exact ⟨final, h.endOf hfinal hleads⟩

end Parties

/-! ## Changes that a program lets happen -/

section Changes

variable {Q : Type} {A : Q → Type} {O : Type} {W : Type u} {F ε α : Type}

/-- Where `P` holds, a step of a program goes the same before and after the change. -/
structure Env.Allows (env : Env Q A O W F) (P : W → Prop) (change : W → W) : Prop where
  answer : ∀ {world world' : W} {question : Q} {choice : F} {answer : A question}, P world →
    env.answer world question choice = some (answer, world') →
      P world' ∧ env.answer (change world) question choice = some (answer, change world')
  perform : ∀ {world : W} (output : O), P world →
    P (env.perform world output) ∧
      env.perform (change world) output = change (env.perform world output)

def Running.changed (change : W → W) (running : Running Q A O W ε α) : Running Q A O W ε α :=
  { running with world := change running.world }

variable {env : Env Q A O W F} {P : W → Prop} {change : W → W}

theorem Env.Allows.settle (h : env.Allows P change) {program : Prog Q A O ε α}
    {history : List (Event Q A O)} {world : W} (hworld : P world) :
    P (env.settle program history world).world ∧
      env.settle program history (change world) =
        (env.settle program history world).changed change := by
  induction program generalizing history world with
  | tell output next ih =>
      obtain ⟨hkept, hperform⟩ := h.perform output hworld
      rw [Env.settle, Env.settle, hperform]
      exact ih hkept
  | _ => exact ⟨hworld, rfl⟩

theorem Env.Allows.advance (h : env.Allows P change) {running running' : Running Q A O W ε α}
    {choice : F} (hworld : P running.world)
    (hstep : env.advance running choice = some running') :
    P running'.world ∧
      env.advance (running.changed change) choice = some (running'.changed change) := by
  obtain ⟨program, history, world⟩ := running
  cases program with
  | ret value => cases hstep
  | fail error => cases hstep
  | ask question next =>
      simp only [Env.advance, Option.map_eq_some_iff] at hstep
      obtain ⟨⟨answer, world'⟩, hanswer, rfl⟩ := hstep
      obtain ⟨hkept, hchanged⟩ := h.answer hworld hanswer
      obtain ⟨hsettled, heq⟩ := @Env.Allows.settle _ _ _ _ _ ε α _ _ _ h (next answer)
        (history ++ [.asked question answer]) _ hkept
      refine ⟨hsettled, ?_⟩
      simp only [Env.advance, Running.changed, hchanged, Option.map_some]
      exact congrArg some heq
  | tell output next =>
      cases hstep
      obtain ⟨hkept, hperform⟩ := h.perform output hworld
      obtain ⟨hsettled, heq⟩ := @Env.Allows.settle _ _ _ _ _ ε α _ _ _ h next
        (history ++ [.told output]) _ hkept
      refine ⟨hsettled, ?_⟩
      simp only [Env.advance, Running.changed, hperform]
      exact congrArg some heq
  | loop body state next =>
      cases hstep
      obtain ⟨hsettled, heq⟩ := @Env.Allows.settle _ _ _ _ _ ε α _ _ _ h
        ((body state).bind (Prog.afterPass body next)) history _ hworld
      exact ⟨hsettled, congrArg some heq⟩

end Changes

end OpenRD.Foundation
