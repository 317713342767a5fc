import Mathlib.Data.List.Forall2
import Mathlib.Data.Sum.Order
import OpenRD.Foundation.Program

/-!
# Programs that run side by side

Two programs are alike when they put the same questions, go on alike after alike answers,
and announce alike outputs.  The first may quit with certain outputs, and what the second
does from there on is left open.  As long as the first has not quit, a step of it is a step
of the second, whichever the two worlds are that give alike answers.
-/

namespace OpenRD.Foundation

universe u v w x

/-! ## Lists side by side -/

section Lists

variable {γ : Type u} {δ : Type v} {R : γ → δ → Prop} {left : List γ} {right : List δ}

theorem getElem?_forall₂ (h : List.Forall₂ R left right) (index : ℕ) :
    Option.Rel R left[index]? right[index]? := by
  induction h generalizing index with
  | nil => exact .none
  | cons hhead _ ih =>
      cases index with
      | zero => exact .some hhead
      | succ index => simpa using ih index

theorem forall₂_set (h : List.Forall₂ R left right) {item : γ} {item' : δ} (hitem : R item item')
    (index : ℕ) : List.Forall₂ R (left.set index item) (right.set index item') := by
  induction h generalizing index with
  | nil => exact .nil
  | cons hhead htail ih =>
      cases index with
      | zero => exact .cons hitem htail
      | succ index => exact .cons hhead (ih index)

end Lists

/-! ## Alike programs -/

structure Likeness (Q : Type) (A : Q → Type) (O : Type) where
  answers : (question : Q) → A question → A question → Prop
  outputs : O → O → Prop
  /-- The outputs after which the first program is no longer followed. -/
  quits : O → Prop

variable {Q : Type} {A : Q → Type} {O ε α β σ : Type} {like : Likeness Q A O}

inductive Likeness.Events (like : Likeness Q A O) : Event Q A O → Event Q A O → Prop where
  | asked {question : Q} {answer answer' : A question}
      (h : like.answers question answer answer') :
      like.Events (.asked question answer) (.asked question answer')
  | told {output output' : O} (h : like.outputs output output') :
      like.Events (.told output) (.told output')

/-- The program has not quit. -/
def Likeness.Quiet (like : Likeness Q A O) (history : List (Event Q A O)) : Prop :=
  ∀ output, .told output ∈ history → ¬ like.quits output

theorem Likeness.Quiet.earlier {history history' : List (Event Q A O)}
    (h : like.Quiet history') (hinitial : history <+: history') : like.Quiet history :=
  fun output hmem => h output (hinitial.subset hmem)

namespace Prog

/-- The results of the two, if they return, are related by `same`. -/
def Alike (like : Likeness Q A O) {α : Type} (program program' : Prog Q A O ε α)
    (same : α → α → Prop) : Prop :=
  match program with
  | .ret value => ∃ value', program' = .ret value' ∧ same value value'
  | .fail error => program' = .fail error
  | .ask question next =>
      ∃ next', program' = .ask question next' ∧
        ∀ answer answer', like.answers question answer answer' →
          (next answer).Alike like (next' answer') same
  | .tell output next =>
      like.quits output ∨
        ∃ output' next', program' = .tell output' next' ∧ like.outputs output output' ∧
          next.Alike like next' same
  | .loop (σ := σ) (β := β) body state next =>
      ∃ (states : σ → σ → Prop) (values : β → β → Prop) (body' : σ → Prog Q A O ε (σ ⊕ β))
        (state' : σ) (next' : β → Prog Q A O ε α),
        program' = .loop body' state' next' ∧ states state state' ∧
          (∀ state state', states state state' →
            (body state).Alike like (body' state') (Sum.LiftRel states values)) ∧
          ∀ value value', values value value' → (next value).Alike like (next' value') same

namespace Alike

variable {program program' : Prog Q A O ε α} {same : α → α → Prop} {same' : β → β → Prop}

theorem mono {same' : α → α → Prop} (h : program.Alike like program' same)
    (himp : ∀ value value', same value value' → same' value value') :
    program.Alike like program' same' := by
  induction program with
  | ret value =>
      obtain ⟨value', hprogram, hsame⟩ := h
      exact ⟨value', hprogram, himp _ _ hsame⟩
  | fail error => exact h
  | ask question next ih =>
      obtain ⟨next', hprogram, hnext⟩ := h
      exact ⟨next', hprogram, fun answer answer' hanswer =>
        ih answer (hnext answer answer' hanswer) himp⟩
  | tell output next ih =>
      rcases h with hquit | ⟨output', next', hprogram, houtput, hnext⟩
      · exact .inl hquit
      · exact .inr ⟨output', next', hprogram, houtput, ih hnext himp⟩
  | loop body state next _ ih =>
      obtain ⟨states, values, body', state', next', hprogram, hstate, hbody, hnext⟩ := h
      exact ⟨states, values, body', state', next', hprogram, hstate, hbody,
        fun value value' hvalue => ih value (hnext value value' hvalue) himp⟩

theorem bind_prog {f f' : α → Prog Q A O ε β} (h : program.Alike like program' same)
    (hf : ∀ value value', same value value' → (f value).Alike like (f' value') same') :
    (program.bind f).Alike like (program'.bind f') same' := by
  induction program with
  | ret value =>
      obtain ⟨value', rfl, hsame⟩ := h
      exact hf value value' hsame
  | fail error =>
      cases h
      rfl
  | ask question next ih =>
      obtain ⟨next', rfl, hnext⟩ := h
      exact ⟨fun answer => (next' answer).bind f', rfl, fun answer answer' hanswer =>
        ih answer (hnext answer answer' hanswer) hf⟩
  | tell output next ih =>
      rcases h with hquit | ⟨output', next', rfl, houtput, hnext⟩
      · exact .inl hquit
      · exact .inr ⟨output', next'.bind f', rfl, houtput, ih hnext hf⟩
  | loop body state next _ ih =>
      obtain ⟨states, values, body', state', next', rfl, hstate, hbody, hnext⟩ := h
      exact ⟨states, values, body', state', fun value => (next' value).bind f', rfl, hstate,
        hbody, fun value value' hvalue => ih value (hnext value value' hvalue) hf⟩

theorem bind {f f' : α → Prog Q A O ε β} (h : program.Alike like program' same)
    (hf : ∀ value value', same value value' → (f value).Alike like (f' value') same') :
    (program >>= f).Alike like (program' >>= f') same' :=
  h.bind_prog hf

theorem bind_eq {f f' : α → Prog Q A O ε β} (h : program.Alike like program' Eq)
    (hf : ∀ value, (f value).Alike like (f' value) same') :
    (program >>= f).Alike like (program' >>= f') same' := by
  refine h.bind ?_
  rintro value _ rfl
  exact hf value

theorem pure {value value' : α} (h : same value value') :
    (Pure.pure value : Prog Q A O ε α).Alike like (Pure.pure value') same :=
  ⟨value', rfl, h⟩

theorem lift_ok (result : Except ε α) :
    (liftM result : Prog Q A O ε α).Alike like (liftM result)
      fun value value' => value = value' ∧ result = .ok value := by
  cases result with
  | ok value => exact ⟨value, rfl, rfl, rfl⟩
  | error error => rfl

theorem lift (result : Except ε α) :
    (liftM result : Prog Q A O ε α).Alike like (liftM result) Eq :=
  (lift_ok result).mono fun _ _ h => h.1

theorem call {question : Q} {result : A question → Except ε α}
    (h : ∀ answer answer', like.answers question answer answer' →
      (liftM (result answer) : Prog Q A O ε α).Alike like (liftM (result answer')) same) :
    (Prog.call question result : Prog Q A O ε α).Alike like (.call question result) same := by
  refine ⟨_, rfl, fun answer answer' hanswer => ?_⟩
  have hresults := h answer answer' hanswer
  simp only
  cases hanswer : result answer <;> cases hanswer' : result answer' <;>
    rw [hanswer, hanswer'] at hresults <;> exact hresults

/-- A question whose answers are alike only when they are the same. -/
theorem call_eq {question : Q} (result : A question → Except ε α)
    (h : ∀ answer answer', like.answers question answer answer' → answer = answer') :
    (Prog.call question result : Prog Q A O ε α).Alike like (.call question result) Eq := by
  refine call fun answer answer' hanswer => ?_
  cases h answer answer' hanswer
  exact lift _

theorem say {output output' : O} (h : like.outputs output output') :
    (Prog.say output : Prog Q A O ε Unit).Alike like (.say output') Eq :=
  .inr ⟨output', .ret (), rfl, h, (), rfl, rfl⟩

theorem quit {output : O} {next : Unit → Prog Q A O ε α} (h : like.quits output) :
    (Prog.say output >>= next).Alike like program' same :=
  .inl h

theorem iterate {states : σ → σ → Prop} {state state' : σ}
    {body body' : σ → Prog Q A O ε (σ ⊕ α)} (hstate : states state state')
    (hbody : ∀ state state', states state state' →
      (body state).Alike like (body' state') (Sum.LiftRel states same)) :
    (Prog.iterate state body).Alike like (.iterate state' body') same :=
  ⟨states, same, body', state', .ret, rfl, hstate, hbody,
    fun _ value' hvalue => ⟨value', rfl, hvalue⟩⟩

theorem iterate_eq {state : σ} {body body' : σ → Prog Q A O ε (σ ⊕ α)}
    (hbody : ∀ state, (body state).Alike like (body' state) (Sum.LiftRel Eq Eq)) :
    (Prog.iterate state body).Alike like (.iterate state body') Eq := by
  refine iterate rfl ?_
  rintro state _ rfl
  exact hbody state

/-- A program is like itself where it cannot tell alike answers apart. -/
theorem refl (hanswers : ∀ question answer answer',
      like.answers question answer answer' → answer = answer')
    (houtputs : ∀ output, like.outputs output output) (program : Prog Q A O ε α) :
    program.Alike like program Eq := by
  induction program with
  | ret value => exact ⟨value, rfl, rfl⟩
  | fail error => rfl
  | ask question next ih =>
      refine ⟨next, rfl, fun answer answer' hanswer => ?_⟩
      cases hanswers question answer answer' hanswer
      exact ih answer
  | tell output next ih => exact .inr ⟨output, next, rfl, houtputs output, ih⟩
  | loop body state next ihBody ihNext =>
      refine ⟨Eq, Eq, body, state, next, rfl, rfl, ?_, ?_⟩
      · rintro state _ rfl
        refine (ihBody state).mono ?_
        rintro (state | value) _ rfl
        · exact .inl rfl
        · exact .inr rfl
      · rintro value _ rfl
        exact ihNext value

end Alike

end Prog

/-! ## Two runs -/

section Running

variable {W : Type u} {W' : Type v} {F : Type} {R : W → W' → Prop} {same : α → α → Prop}
  {env : Env Q A O W F} {env' : Env Q A O W' F}

/-- Alike programs with alike histories, in related worlds. -/
structure Running.Beside (like : Likeness Q A O) (R : W → W' → Prop) (same : α → α → Prop)
    (running : Running Q A O W ε α) (running' : Running Q A O W' ε α) : Prop where
  program : running.program.Alike like running'.program same
  history : List.Forall₂ like.Events running.history running'.history
  world : R running.world running'.world
  /-- The first has announced what it had to announce. -/
  settled : ∀ output next, running.program ≠ .tell output next

theorem Running.Beside.outcome {running : Running Q A O W ε α} {running' : Running Q A O W' ε α}
    (h : running.Beside like R Eq running') : running'.outcome = running.outcome := by
  obtain ⟨program, history, world⟩ := running
  obtain ⟨program', history', world'⟩ := running'
  obtain ⟨hprogram, -, -, hsettled⟩ := h
  cases program with
  | ret value =>
      obtain ⟨_, hprogram', rfl⟩ := hprogram
      simp only at hprogram'
      rw [hprogram']
      rfl
  | fail error =>
      simp only [Prog.Alike] at hprogram
      rw [hprogram]
      rfl
  | ask question next =>
      obtain ⟨next', hprogram', -⟩ := hprogram
      simp only at hprogram'
      rw [hprogram']
      rfl
  | tell output next => exact absurd rfl (hsettled output next)
  | loop body state next =>
      obtain ⟨states, values, body', state', next', hprogram', -⟩ := hprogram
      simp only at hprogram'
      rw [hprogram']
      rfl

/-- Related worlds give alike answers, and stay related after alike outputs. -/
structure Env.Likens (like : Likeness Q A O) (R : W → W' → Prop) (env : Env Q A O W F)
    (env' : Env Q A O W' F) : Prop where
  answer {world next : W} {world' : W'} {question : Q} {choice : F} {answer : A question}
    (hworld : R world world') (hanswer : env.answer world question choice = some (answer, next)) :
    ∃ answer' next', env'.answer world' question choice = some (answer', next') ∧
      like.answers question answer answer' ∧ R next next'
  perform {world : W} {world' : W'} {output output' : O} (hworld : R world world')
    (houtput : like.outputs output output') : R (env.perform world output)
      (env'.perform world' output')

theorem Env.Likens.settle (h : env.Likens like R env') {program program' : Prog Q A O ε α}
    {history history' : List (Event Q A O)} {world : W} {world' : W'}
    (hprogram : program.Alike like program' same)
    (hhistory : List.Forall₂ like.Events history history') (hworld : R world world')
    (hquiet : like.Quiet (env.settle program history world).history) :
    (env.settle program history world).Beside like R same
      (env'.settle program' history' world') := by
  induction program generalizing history history' world world' with
  | ret value =>
      obtain ⟨value', rfl, hvalue⟩ := hprogram
      exact ⟨⟨value', rfl, hvalue⟩, hhistory, hworld, nofun⟩
  | fail error =>
      cases hprogram
      exact ⟨rfl, hhistory, hworld, nofun⟩
  | ask question next =>
      obtain ⟨next', rfl, hnext⟩ := hprogram
      exact ⟨⟨next', rfl, hnext⟩, hhistory, hworld, nofun⟩
  | tell output next ih =>
      rcases hprogram with hquit | ⟨output', next', rfl, houtput, hnext⟩
      · refine absurd hquit (hquiet output ?_)
        exact (env.prefix_settle next _ _).subset (by simp)
      · have hrest := ih hnext (List.rel_append hhistory (.cons (.told houtput) .nil))
          (h.perform hworld houtput) hquiet
        exact hrest
  | loop body state next =>
      obtain ⟨states, values, body', state', next', rfl, hloop⟩ := hprogram
      exact ⟨⟨states, values, body', state', next', rfl, hloop⟩, hhistory, hworld, nofun⟩

theorem Env.Likens.advance (h : env.Likens like R env') {running next : Running Q A O W ε α}
    {running' : Running Q A O W' ε α} {choice : F} (hbeside : running.Beside like R same running')
    (hstep : env.advance running choice = some next) (hquiet : like.Quiet next.history) :
    ∃ next', env'.advance running' choice = some next' ∧ next.Beside like R same next' := by
  obtain ⟨program, history, world⟩ := running
  obtain ⟨program', history', world'⟩ := running'
  obtain ⟨hprogram, hhistory, hworld, -⟩ := hbeside
  cases program with
  | ret value => simp [Env.advance] at hstep
  | fail error => simp [Env.advance] at hstep
  | ask question rest =>
      obtain ⟨rest', hrest', hrest⟩ := hprogram
      simp only at hrest'
      subst hrest'
      simp only [Env.advance, Option.map_eq_some_iff] at hstep
      obtain ⟨⟨answer, after⟩, hanswer, rfl⟩ := hstep
      obtain ⟨answer', after', hanswer', hlike, hafter⟩ := h.answer hworld hanswer
      refine ⟨env'.settle (rest' answer') (history' ++ [.asked question answer']) after', ?_, ?_⟩
      · simp only [Env.advance, hanswer', Option.map_some]
      · exact h.settle (hrest answer answer' hlike)
          (List.rel_append hhistory (.cons (.asked hlike) .nil)) hafter hquiet
  | tell output rest =>
      simp only [Env.advance, Option.some.injEq] at hstep
      subst hstep
      have hall := h.settle hprogram hhistory hworld hquiet
      rcases hprogram with hquit | ⟨output', rest', hrest', houtput, hrest⟩
      · refine absurd hquit (hquiet output ?_)
        exact (env.prefix_settle rest _ _).subset (by simp)
      · simp only at hrest'
        subst hrest'
        exact ⟨_, rfl, hall⟩
  | loop body state rest =>
      obtain ⟨states, values, body', state', rest', hrest', hstate, hbody, hrest⟩ := hprogram
      simp only at hrest'
      subst hrest'
      simp only [Env.advance, Option.some.injEq] at hstep
      subst hstep
      refine ⟨_, rfl, h.settle ((hbody state state' hstate).bind_prog ?_) hhistory hworld hquiet⟩
      rintro _ _ (⟨hagain⟩ | ⟨hvalue⟩)
      · exact ⟨states, values, body', _, rest', rfl, hagain, hbody, hrest⟩
      · exact hrest _ _ hvalue

end Running

/-! ## Runs side by side -/

section Runs

variable {γ : Type u} {δ : Type v} {ι : Type w} {κ : Type x} {step : γ → ι → Option γ}
  {step' : δ → κ → Option δ} {P : γ → Prop}

theorem before_run (hback : ∀ state action next, step state action = some next → P next → P state)
    {actions : List ι} {state final : γ} (hrun : actions.foldlM step state = some final)
    (h : P final) : P state := by
  by_contra hnot
  exact invariant_of_run (fun state => ¬ P state)
    (fun state action next hstate hnext h => hstate (hback state action next hnext h)) hnot hrun h

/--
One system follows the other from step to step, as long as the first is in a state with
`P`, which a state has only if the one before had it.
-/
theorem follows_run {R : γ → δ → Prop} {S : ι → κ → Prop}
    (hback : ∀ state action next, step state action = some next → P next → P state)
    (hstep : ∀ state state' action action' next, R state state' → S action action' →
      step state action = some next → P next →
        ∃ next', step' state' action' = some next' ∧ R next next')
    {actions : List ι} {actions' : List κ} (hactions : List.Forall₂ S actions actions')
    {state final : γ} {state' : δ} (h : R state state')
    (hrun : actions.foldlM step state = some final) (hfinal : P final) :
    ∃ final', actions'.foldlM step' state' = some final' ∧ R final final' := by
  induction hactions generalizing state state' with
  | nil =>
      cases hrun
      exact ⟨state', rfl, h⟩
  | cons haction _ ih =>
      rw [List.foldlM_cons, Option.bind_eq_bind, Option.bind_eq_some_iff] at hrun
      obtain ⟨next, hnext, hrest⟩ := hrun
      obtain ⟨next', hnext', hafter⟩ :=
        hstep _ _ _ _ _ h haction hnext (before_run hback hrest hfinal)
      obtain ⟨final', hfinal', hend⟩ := ih hafter hrest
      refine ⟨final', ?_, hend⟩
      rw [List.foldlM_cons, hnext']
      exact hfinal'

end Runs

end OpenRD.Foundation
