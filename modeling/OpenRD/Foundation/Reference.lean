import Mathlib.Logic.Relation
import OpenRD.Foundation.Progress

/-!
# Runs held against a reference

A reference world leaves no choice, so a program has one run in it.  A run in another
world that gives the same answers tracks that run step by step: its history is never
anything but a part of the reference's, and it stops where the reference stops.
-/

namespace OpenRD.Foundation

universe u v w

variable {Q : Type} {A : Q → Type} {O : Type} {V : Type u} {W : Type v} {F ε α β : Type}

/-! ## The one run of a reference world -/

namespace Env

variable (reference : Env Q A O V Unit)

def Reaches : Running Q A O V ε α → Running Q A O V ε α → Prop :=
  Relation.ReflTransGen fun state state' => reference.advance state () = some state'

variable {reference} {start state final : Running Q A O V ε α}

theorem Reaches.trans (h : reference.Reaches start state)
    (h' : reference.Reaches state final) : reference.Reaches start final :=
  Relation.ReflTransGen.trans h h'

theorem Reaches.tail {next : Running Q A O V ε α} (h : reference.Reaches start state)
    (hnext : reference.advance state () = some next) : reference.Reaches start next :=
  Relation.ReflTransGen.tail h hnext

theorem reaches_of_choices {choices : List Unit}
    (h : choices.foldlM reference.advance start = some final) :
    reference.Reaches start final := by
  induction choices generalizing start with
  | nil =>
      cases h
      exact .refl
  | cons choice choices ih =>
      rw [List.foldlM_cons, Option.bind_eq_bind, Option.bind_eq_some_iff] at h
      obtain ⟨next, hnext, hrest⟩ := h
      exact .head hnext (ih hrest)

theorem Leads.reaches {program program' : Prog Q A O ε α} {world world' : V}
    {events : List (Event Q A O)} (h : reference.Leads program world events program' world')
    (history : List (Event Q A O)) :
    reference.Reaches (reference.settle program history world)
      (reference.settle program' (history ++ events) world') := by
  obtain ⟨choices, hchoices⟩ := h history
  exact reaches_of_choices hchoices

theorem prefix_advance {env : Env Q A O W F} {running running' : Running Q A O W ε α}
    {choice : F} (h : env.advance running choice = some running') :
    running.history <+: running'.history := by
  rcases advance_adds h with ⟨outputs, hhistory, -⟩ | ⟨_, _, _, _, outputs, -, -, hhistory, -⟩
  · exact hhistory ▸ List.prefix_append _ _
  · exact hhistory ▸ List.prefix_append _ _

theorem Reaches.prefix_history (h : reference.Reaches start final) :
    start.history <+: final.history := by
  induction h with
  | refl => exact List.prefix_rfl
  | tail _ hnext ih => exact ih.trans (prefix_advance hnext)

/-- Where the one run stops, every state of it leads. -/
theorem Reaches.to_final (h : reference.Reaches start state)
    (hfinal : reference.Reaches start final)
    (hstops : reference.advance final () = none) : reference.Reaches state final := by
  have hunique : Relator.RightUnique fun state state' : Running Q A O V ε α =>
      reference.advance state () = some state' :=
    fun _ _ _ h h' => Option.some.inj (h.symm.trans h')
  rcases Relation.ReflTransGen.total_of_right_unique hunique h hfinal with hto | hfrom
  · exact hto
  · rcases Relation.ReflTransGen.cases_head hfrom with rfl | ⟨next, hnext, -⟩
    · exact .refl
    · rw [hstops] at hnext
      cases hnext

theorem Reaches.eq_final (h : reference.Reaches state final)
    (hstops : reference.advance state () = none) : state = final := by
  rcases Relation.ReflTransGen.cases_head h with rfl | ⟨next, hnext, -⟩
  · rfl
  · rw [hstops] at hnext
    cases hnext

theorem asked_of_advance {question : Q} {next : A question → Prog Q A O ε α}
    (h : reference.advance state () = some final) (hprogram : state.program = .ask question next) :
    ∃ answer, .asked question answer ∈ final.history := by
  simp only [advance, hprogram, Option.map_eq_some_iff] at h
  obtain ⟨⟨answer, world⟩, -, rfl⟩ := h
  exact ⟨answer, (reference.prefix_settle _ _ _).subset (by simp)⟩

/-- What a program waits for is asked in every run that gets further. -/
theorem Reaches.asked {question : Q} {next : A question → Prog Q A O ε α}
    (h : reference.Reaches state final) (hprogram : state.program = .ask question next) :
    state = final ∨ ∃ answer, .asked question answer ∈ final.history := by
  rcases Relation.ReflTransGen.cases_head h with rfl | ⟨after, hafter, hrest⟩
  · exact .inl rfl
  · obtain ⟨answer, hasked⟩ := asked_of_advance hafter hprogram
    have hrest : reference.Reaches after final := hrest
    exact .inr ⟨answer, hrest.prefix_history.subset hasked⟩

/-- On the way to a state in which the program is over, every question is answered. -/
theorem Reaches.answered {question : Q} {next : A question → Prog Q A O ε α}
    (h : reference.Reaches state final) (hfinal : final.outcome.isSome)
    (hprogram : state.program = .ask question next) :
    ∃ answer world, reference.answer state.world question () = some (answer, world) := by
  rcases Relation.ReflTransGen.cases_head h with rfl | ⟨after, hafter, -⟩
  · simp [Running.outcome, hprogram] at hfinal
  · simp only [advance, hprogram, Option.map_eq_some_iff] at hafter
    obtain ⟨⟨answer, world⟩, hanswer, -⟩ := hafter
    exact ⟨answer, world, hanswer⟩

theorem advance_ended (hfinal : final.outcome.isSome) :
    reference.advance final () = none := by
  cases hnext : reference.advance final () with
  | none => rfl
  | some next => simp [Running.outcome_of_advance hnext] at hfinal

/-- What ties the history to the world, and is kept by each answer and output, always holds. -/
theorem Reaches.ties {J : List (Event Q A O) → V → Prop} (h : reference.Reaches start state)
    (hanswer : ∀ history world question answer world', J history world →
      reference.answer world question () = some (answer, world') →
      J (history ++ [.asked question answer]) world')
    (hperform : ∀ history world output, J history world →
      J (history ++ [.told output]) (reference.perform world output))
    (hstart : J start.history start.world) : J state.history state.world := by
  induction h with
  | refl => exact hstart
  | tail _ hnext ih =>
      exact Running.advance_ties (fun history world question _ => hanswer history world question)
        hperform ih hnext

/-- What a program waits for is the next of all that is asked. -/
theorem Reaches.next_event {question : Q} {next : A question → Prog Q A O ε α}
    (h : reference.Reaches state final) (hfinal : final.outcome.isSome)
    (hprogram : state.program = .ask question next) :
    ∃ answer, state.history ++ [.asked question answer] <+: final.history := by
  rcases Relation.ReflTransGen.cases_head h with rfl | ⟨after, hafter, hrest⟩
  · simp [Running.outcome, hprogram] at hfinal
  · have hrest : reference.Reaches after final := hrest
    simp only [advance, hprogram, Option.map_eq_some_iff] at hafter
    obtain ⟨⟨answer, world⟩, -, rfl⟩ := hafter
    exact ⟨answer, (reference.prefix_settle _ _ _).trans hrest.prefix_history⟩

/-- Whoever can take each step of the reference run gets to what holds at its end. -/
theorem Reaches.drive {S : Type w} {Step : S → S → Prop}
    {P : Running Q A O V ε α → S → Prop} {Goal : S → Prop} (h : reference.Reaches state final)
    (hstep : ∀ state state' s, reference.advance state () = some state' → P state s →
      Goal s ∨ ∃ s', Step s s' ∧ P state' s')
    (hend : ∀ s, P final s → Goal s) {s : S} (hs : P state s) :
    ∃ s', Relation.ReflTransGen Step s s' ∧ Goal s' := by
  induction h using Relation.ReflTransGen.head_induction_on generalizing s with
  | refl => exact ⟨s, .refl, hend s hs⟩
  | head hnext _ ih =>
      rcases hstep _ _ s hnext hs with hgoal | ⟨after, hafter, hs'⟩
      · exact ⟨s, .refl, hgoal⟩
      · obtain ⟨s', hsteps, hgoal⟩ := ih hs'
        exact ⟨s', .head hafter hsteps, hgoal⟩

end Env

/-! ## Tracking it -/

/-- The same program after the same history, in related worlds. -/
structure Running.Tracks (R : V → W → Prop) (state : Running Q A O V ε α)
    (running : Running Q A O W ε α) : Prop where
  program : running.program = state.program
  history : running.history = state.history
  world : R state.world running.world

section Tracks

variable {env : Env Q A O W F} {reference : Env Q A O V Unit} {R R' : V → W → Prop}
  {state : Running Q A O V ε α} {running running' : Running Q A O W ε α}

theorem tracks_settle
    (hperform : ∀ v w output, R v w → R (reference.perform v output) (env.perform w output))
    {program : Prog Q A O ε α} {history : List (Event Q A O)} {v : V} {w : W} (h : R v w) :
    (reference.settle program history v).Tracks R (env.settle program history w) := by
  induction program generalizing history v w with
  | tell output next ih => exact ih (hperform v w output h)
  | _ => exact ⟨rfl, rfl, h⟩

/-- A step whose answer, if it has one, is the reference's is a step of the reference. -/
theorem Running.Tracks.advance {choice : F} (h : state.Tracks R running)
    (hstep : env.advance running choice = some running')
    (hperform : ∀ v w output, R v w → R (reference.perform v output) (env.perform w output))
    (hanswer : ∀ question next answer w, state.program = .ask question next →
      env.answer running.world question choice = some (answer, w) →
      ∃ v, reference.answer state.world question () = some (answer, v) ∧ R v w) :
    ∃ state', reference.advance state () = some state' ∧ state'.Tracks R running' := by
  obtain ⟨program, history, w⟩ := running
  obtain ⟨program', history', v⟩ := state
  obtain ⟨rfl, rfl, hworld⟩ := h
  cases program with
  | ret value => simp [Env.advance] at hstep
  | fail error => simp [Env.advance] at hstep
  | tell output next =>
      cases hstep
      exact ⟨_, rfl, tracks_settle hperform (hperform _ _ _ hworld)⟩
  | ask question next =>
      simp only [Env.advance, Option.map_eq_some_iff] at hstep
      obtain ⟨⟨answer, w'⟩, hwanswer, rfl⟩ := hstep
      obtain ⟨v', hvanswer, hworld'⟩ := hanswer question next answer w' rfl hwanswer
      refine ⟨_, ?_, tracks_settle hperform hworld'⟩
      simp only [Env.advance, hvanswer, Option.map_some]
  | loop body start next =>
      cases hstep
      exact ⟨_, rfl, tracks_settle hperform hworld⟩

/-- Where the world can give the reference's answer, it can take the reference's step. -/
theorem Running.Tracks.follow {state' : Running Q A O V ε α} (h : state.Tracks R running)
    (hstep : reference.advance state () = some state') (choice : F)
    (hperform : ∀ v w output, R v w → R (reference.perform v output) (env.perform w output))
    (hanswer : ∀ question next answer v, state.program = .ask question next →
      reference.answer state.world question () = some (answer, v) →
      ∃ w, env.answer running.world question choice = some (answer, w) ∧ R v w) :
    ∃ running', env.advance running choice = some running' ∧ state'.Tracks R running' := by
  obtain ⟨program, history, w⟩ := running
  obtain ⟨program', history', v⟩ := state
  obtain ⟨rfl, rfl, hworld⟩ := h
  cases program with
  | ret value => simp [Env.advance] at hstep
  | fail error => simp [Env.advance] at hstep
  | tell output next =>
      cases hstep
      exact ⟨_, rfl, tracks_settle hperform (hperform _ _ _ hworld)⟩
  | ask question next =>
      simp only [Env.advance, Option.map_eq_some_iff] at hstep
      obtain ⟨⟨answer, v'⟩, hvanswer, rfl⟩ := hstep
      obtain ⟨w', hwanswer, hworld'⟩ := hanswer question next answer v' rfl hvanswer
      refine ⟨_, ?_, tracks_settle hperform hworld'⟩
      simp only [Env.advance, hwanswer, Option.map_some]
  | loop body start next =>
      cases hstep
      exact ⟨_, rfl, tracks_settle hperform hworld⟩

theorem Running.Tracks.mono (h : state.Tracks R running)
    (himp : ∀ v w, R v w → R' v w) : state.Tracks R' running :=
  ⟨h.program, h.history, himp _ _ h.world⟩

end Tracks

/-! ## What a run that tracks the reference can have done -/

/-- A run that is where the reference run from `start` is at some moment. -/
def Running.Follows (running : Running Q A O W ε α) (reference : Env Q A O V Unit)
    (start : Running Q A O V ε α) (R : V → W → Prop) : Prop :=
  ∃ state, reference.Reaches start state ∧ state.Tracks R running

section Follows

variable {env : Env Q A O W F} {reference : Env Q A O V Unit} {R R' : V → W → Prop}
  {start final : Running Q A O V ε α} {running running' : Running Q A O W ε α}

theorem follows_settle
    (hperform : ∀ v w output, R v w → R (reference.perform v output) (env.perform w output))
    {program : Prog Q A O ε α} {history : List (Event Q A O)} {v : V} {w : W} (h : R v w) :
    (env.settle program history w).Follows reference (reference.settle program history v)
      R :=
  ⟨_, .refl, tracks_settle hperform h⟩

namespace Running.Follows

theorem advance {choice : F} (h : running.Follows reference start R)
    (hstep : env.advance running choice = some running')
    (hperform : ∀ v w output, R v w → R (reference.perform v output) (env.perform w output))
    (hanswer : ∀ state question next answer w, reference.Reaches start state →
      state.Tracks R running → state.program = .ask question next →
      env.answer running.world question choice = some (answer, w) →
      ∃ v, reference.answer state.world question () = some (answer, v) ∧ R v w) :
    running'.Follows reference start R := by
  obtain ⟨state, hreaches, htracks⟩ := h
  obtain ⟨state', hnext, htracks'⟩ := htracks.advance hstep hperform
    fun question next answer w => hanswer state question next answer w hreaches htracks
  exact ⟨state', hreaches.tail hnext, htracks'⟩

theorem prefix_history (h : running.Follows reference start R)
    (hfinal : reference.Reaches start final)
    (hstops : reference.advance final () = none) :
    running.history <+: final.history := by
  obtain ⟨state, hreaches, htracks⟩ := h
  rw [htracks.history]
  exact (hreaches.to_final hfinal hstops).prefix_history

/-- What it waits for is what the reference asks next. -/
theorem next_event (h : running.Follows reference start R)
    (hfinal : reference.Reaches start final) (hended : final.outcome.isSome) {question : Q}
    {next : A question → Prog Q A O ε α} (hprogram : running.program = .ask question next) :
    ∃ answer, running.history ++ [.asked question answer] <+: final.history := by
  obtain ⟨state, hreaches, htracks⟩ := h
  rw [htracks.history]
  exact (hreaches.to_final hfinal (Env.advance_ended hended)).next_event hended
    (htracks.program.symm.trans hprogram)

/-- A run that has returned or failed has done all that the reference does. -/
theorem ended (h : running.Follows reference start R)
    (hfinal : reference.Reaches start final)
    (hstops : reference.advance final () = none) {result : Except ε α}
    (houtcome : running.outcome = some result) :
    final.outcome = some result ∧ running.history = final.history := by
  obtain ⟨state, hreaches, htracks⟩ := h
  have hsame : state.outcome = running.outcome := by
    rw [outcome, outcome, htracks.program]
  have hstuck : reference.advance state () = none := by
    cases hnext : reference.advance state () with
    | none => rfl
    | some next =>
        rw [outcome_of_advance hnext, houtcome] at hsame
        cases hsame
  cases (hreaches.to_final hfinal hstops).eq_final hstuck
  exact ⟨hsame.trans houtcome, htracks.history⟩

end Running.Follows

end Follows

end OpenRD.Foundation
