import Mathlib.Data.List.Basic

/-!
# Interactive programs and what holds along their runs

A `Prog` is a sequential task that puts questions to its environment, waits for
the answers, and in between announces outputs that need no answer.  Its history
is the list of what was asked, answered and announced.  `Safe` is a weakest
precondition for invariants of that history, and `Env.advance` runs a program
against a world that answers it.
-/

namespace OpenRD.Foundation

inductive Prog (Q : Type) (A : Q → Type) (O ε : Type) : Type → Type 1 where
  | ret {α : Type} (value : α) : Prog Q A O ε α
  | fail {α : Type} (error : ε) : Prog Q A O ε α
  | ask {α : Type} (question : Q) (next : A question → Prog Q A O ε α) :
      Prog Q A O ε α
  | tell {α : Type} (output : O) (next : Prog Q A O ε α) : Prog Q A O ε α
  | loop {α σ β : Type} (body : σ → Prog Q A O ε (σ ⊕ β)) (state : σ)
      (next : β → Prog Q A O ε α) : Prog Q A O ε α

inductive Event (Q : Type) (A : Q → Type) (O : Type) where
  | asked (question : Q) (answer : A question)
  | told (output : O)

namespace Prog

variable {Q : Type} {A : Q → Type} {O ε α β σ : Type}

def bind {α β : Type} :
    Prog Q A O ε α → (α → Prog Q A O ε β) → Prog Q A O ε β
  | .ret value, f => f value
  | .fail error, _ => .fail error
  | .ask question next, f => .ask question fun answer => (next answer).bind f
  | .tell output next, f => .tell output (next.bind f)
  | .loop body state next, f => .loop body state fun value => (next value).bind f

instance : Monad (Prog Q A O ε) where
  pure := .ret
  bind := .bind

instance : MonadLift (Except ε) (Prog Q A O ε) where
  monadLift
    | .ok value => .ret value
    | .error error => .fail error

/-- What a loop does with the result of one pass through its body. -/
def afterPass (body : σ → Prog Q A O ε (σ ⊕ β)) (next : β → Prog Q A O ε α) :
    σ ⊕ β → Prog Q A O ε α
  | .inl state => .loop body state next
  | .inr value => next value

def call (question : Q) (result : A question → Except ε α) : Prog Q A O ε α :=
  .ask question fun answer =>
    match result answer with
    | .ok value => .ret value
    | .error error => .fail error

def say (output : O) : Prog Q A O ε Unit := .tell output (.ret ())

/-- Repeats `body` until it yields an `inr`, whose value is the result. -/
def iterate (state : σ) (body : σ → Prog Q A O ε (σ ⊕ β)) : Prog Q A O ε β :=
  .loop body state .ret

/-! ## Invariants of the history -/

variable (I : List (Event Q A O) → Prop)

/--
Started with `history`, whatever the environment answers: `I` holds whenever the
program waits or is about to start a pass of a loop, and `post` holds of its
outcome and the history it ends with.
-/
def Safe {α : Type} : Prog Q A O ε α → List (Event Q A O) →
    (Except ε α → List (Event Q A O) → Prop) → Prop
  | .ret value, history, post => post (.ok value) history
  | .fail error, history, post => post (.error error) history
  | .ask question next, history, post =>
      I history ∧
        ∀ answer, (next answer).Safe (history ++ [.asked question answer]) post
  | .tell output next, history, post => next.Safe (history ++ [.told output]) post
  | .loop (σ := σ) body state next, history, post =>
      ∃ inv : σ → List (Event Q A O) → Prop,
        inv state history ∧ ∀ state history, inv state history →
          I history ∧ (body state).Safe history fun result history =>
            match result with
            | .ok (.inl state) => inv state history
            | .ok (.inr value) => (next value).Safe history post
            | .error error => post (.error error) history

variable {I}

theorem Safe.weaken {I' : List (Event Q A O) → Prop} {program : Prog Q A O ε α}
    {history : List (Event Q A O)} {post post' : Except ε α → List (Event Q A O) → Prop}
    (h : program.Safe I history post) (hinv : ∀ history, I history → I' history)
    (himp : ∀ result history, post result history → post' result history) :
    program.Safe I' history post' := by
  induction program generalizing history with
  | ret value => exact himp _ _ h
  | fail error => exact himp _ _ h
  | ask question next ih =>
      exact ⟨hinv _ h.1, fun answer => ih answer (h.2 answer) himp⟩
  | tell output next ih => exact ih h himp
  | loop body state next ihBody ihNext =>
      obtain ⟨inv, hinit, hpass⟩ := h
      refine ⟨inv, hinit, fun state history hstate => ?_⟩
      obtain ⟨hI, hbody⟩ := hpass state history hstate
      refine ⟨hinv _ hI, ihBody state hbody fun result history hresult => ?_⟩
      match result with
      | .ok (.inl _) => exact hresult
      | .ok (.inr value) => exact ihNext value hresult himp
      | .error _ => exact himp _ _ hresult

theorem safe_trivial (program : Prog Q A O ε α) (history : List (Event Q A O)) :
    program.Safe (fun _ => True) history fun _ _ => True := by
  induction program generalizing history with
  | ret value => exact trivial
  | fail error => exact trivial
  | ask question next ih => exact ⟨trivial, fun answer => ih answer _⟩
  | tell output next ih => exact ih _
  | loop body state next ihBody ihNext =>
      refine ⟨fun _ _ => True, trivial, fun state history _ => ⟨trivial, ?_⟩⟩
      refine (ihBody state history).weaken (fun _ => id) ?_
      intro result history _
      match result with
      | .ok (.inl _) => exact trivial
      | .ok (.inr value) => exact ihNext value history
      | .error _ => exact trivial

/-- An invariant that holds of every earlier history holds now. -/
theorem Safe.now {program : Prog Q A O ε α} {history : List (Event Q A O)}
    {post : Except ε α → List (Event Q A O) → Prop} (h : program.Safe I history post)
    (hearlier : ∀ history event, I (history ++ [event]) → I history)
    (hpost : ∀ result history, post result history → I history) : I history := by
  induction program generalizing history with
  | ret value => exact hpost _ _ h
  | fail error => exact hpost _ _ h
  | ask question next => exact h.1
  | tell output next ih => exact hearlier _ _ (ih h hpost)
  | loop body state next =>
      obtain ⟨inv, hinit, hpass⟩ := h
      exact (hpass _ _ hinit).1

theorem Safe.mono {program : Prog Q A O ε α} {history : List (Event Q A O)}
    {post post' : Except ε α → List (Event Q A O) → Prop}
    (h : program.Safe I history post)
    (himp : ∀ result history, post result history → post' result history) :
    program.Safe I history post' :=
  h.weaken (fun _ => id) himp

theorem safe_bind (program : Prog Q A O ε α) (f : α → Prog Q A O ε β)
    (history : List (Event Q A O))
    (post : Except ε β → List (Event Q A O) → Prop) :
    (program.bind f).Safe I history post ↔
      program.Safe I history fun result history =>
        match result with
        | .ok value => (f value).Safe I history post
        | .error error => post (.error error) history := by
  induction program generalizing history with
  | ret value => exact Iff.rfl
  | fail error => exact Iff.rfl
  | ask question next ih => simp only [bind, Safe, ih]
  | tell output next ih => simp only [bind, Safe, ih]
  | loop body state next ihBody ihNext => simp only [bind, Safe, ihNext]

theorem Safe.bind {program : Prog Q A O ε α} {f : α → Prog Q A O ε β}
    {history : List (Event Q A O)}
    {mid : Except ε α → List (Event Q A O) → Prop}
    {post : Except ε β → List (Event Q A O) → Prop}
    (h : program.Safe I history mid)
    (hok : ∀ value history, mid (.ok value) history → (f value).Safe I history post)
    (herror : ∀ error history, mid (.error error) history →
      post (.error error) history) :
    (program >>= f).Safe I history post := by
  refine (safe_bind program f history post).mpr (h.mono ?_)
  intro result history hmid
  match result with
  | .ok value => exact hok value history hmid
  | .error error => exact herror error history hmid

theorem safe_call {history : List (Event Q A O)}
    {post : Except ε α → List (Event Q A O) → Prop} (question : Q)
    (result : A question → Except ε α) :
    (call question result).Safe I history post ↔
      I history ∧ ∀ answer, post (result answer) (history ++ [.asked question answer]) := by
  refine and_congr_right fun _ => forall_congr' fun answer => ?_
  simp only
  cases result answer <;> exact Iff.rfl

section First

variable {history : List (Event Q A O)} {post : Except ε β → List (Event Q A O) → Prop}

theorem safe_call_bind {question : Q} {result : A question → Except ε α}
    {f : α → Prog Q A O ε β} (hwait : I history)
    (herror : ∀ answer error, result answer = .error error →
      post (.error error) (history ++ [.asked question answer]))
    (hok : ∀ answer value, result answer = .ok value →
      (f value).Safe I (history ++ [.asked question answer]) post) :
    (call question result >>= f).Safe I history post := by
  refine (safe_bind _ _ _ _).mpr ((safe_call question result).mpr ⟨hwait, ?_⟩)
  intro answer
  cases hresult : result answer with
  | ok value => exact hok answer value hresult
  | error error => exact herror answer error hresult

theorem safe_lift_bind {result : Except ε α} {f : α → Prog Q A O ε β}
    (herror : ∀ error, result = .error error → post (.error error) history)
    (hok : ∀ value, result = .ok value → (f value).Safe I history post) :
    ((liftM result : Prog Q A O ε α) >>= f).Safe I history post := by
  cases result with
  | ok value => exact hok value rfl
  | error error => exact herror error rfl

theorem safe_say_bind {output : O} {f : Unit → Prog Q A O ε β}
    (h : (f ()).Safe I (history ++ [.told output]) post) :
    (say output >>= f).Safe I history post := h

end First

/-- The loop rule: `inv` holds at the start of every pass. -/
theorem safe_iterate (inv : σ → List (Event Q A O) → Prop) {state : σ}
    {body : σ → Prog Q A O ε (σ ⊕ β)} {history : List (Event Q A O)}
    {post : Except ε β → List (Event Q A O) → Prop}
    (hinit : inv state history)
    (hpass : ∀ state history, inv state history →
      I history ∧ (body state).Safe I history fun result history =>
        match result with
        | .ok (.inl state) => inv state history
        | .ok (.inr value) => post (.ok value) history
        | .error error => post (.error error) history) :
    (iterate state body).Safe I history post := by
  refine ⟨inv, hinit, fun state history hinv => ?_⟩
  obtain ⟨hI, hbody⟩ := hpass state history hinv
  refine ⟨hI, hbody.mono fun result history hresult => ?_⟩
  match result with
  | .ok (.inl _) => exact hresult
  | .ok (.inr _) => exact hresult
  | .error _ => exact hresult

end Prog

/-! ## Running a program in a world -/

section Running

universe u

variable (Q : Type) (A : Q → Type) (O : Type) (W : Type u) (F : Type)

/--
A world that answers questions and receives outputs.  `answer` is `none` while
the question has to wait; the `F` argument is the environment's choice among the
answers it could give.
-/
structure Env where
  answer : W → (question : Q) → F → Option (A question × W)
  perform : W → O → W

variable {Q A O W F} {ε α : Type}

structure Running (Q : Type) (A : Q → Type) (O : Type) (W : Type u) (ε α : Type) where
  program : Prog Q A O ε α
  history : List (Event Q A O)
  world : W

namespace Env

variable (env : Env Q A O W F)

/-- Announces the outputs at the head of a program. -/
def settle : Prog Q A O ε α → List (Event Q A O) → W → Running Q A O W ε α
  | .tell output next, history, world =>
      settle next (history ++ [.told output]) (env.perform world output)
  | program, history, world => ⟨program, history, world⟩

theorem settle_adds (program : Prog Q A O ε α) (history : List (Event Q A O))
    (world : W) : ∃ outputs : List O,
      (env.settle program history world).history = history ++ outputs.map .told ∧
      (env.settle program history world).world = outputs.foldl env.perform world := by
  induction program generalizing history world with
  | tell output next ih =>
      obtain ⟨outputs, hhistory, hworld⟩ :=
        ih (history ++ [.told output]) (env.perform world output)
      refine ⟨output :: outputs, ?_, hworld⟩
      rw [settle, hhistory, List.append_assoc]
      rfl
  | ret value => exact ⟨[], by simp [settle], rfl⟩
  | fail error => exact ⟨[], by simp [settle], rfl⟩
  | ask question next ih => exact ⟨[], by simp [settle], rfl⟩
  | loop body state next ihBody ihNext => exact ⟨[], by simp [settle], rfl⟩

theorem prefix_settle (program : Prog Q A O ε α) (history : List (Event Q A O))
    (world : W) : history <+: (env.settle program history world).history := by
  obtain ⟨outputs, hhistory, -⟩ := env.settle_adds program history world
  rw [hhistory]
  exact List.prefix_append _ _

/-- One step of the program: the next answer, or the next pass of a loop. -/
def advance (running : Running Q A O W ε α) (choice : F) :
    Option (Running Q A O W ε α) :=
  match running.program with
  | .ret _ | .fail _ => none
  | .tell output next =>
      some (env.settle next (running.history ++ [.told output])
        (env.perform running.world output))
  | .ask question next =>
      (env.answer running.world question choice).map fun (answer, world) =>
        env.settle (next answer) (running.history ++ [.asked question answer]) world
  | .loop body state next =>
      some (env.settle ((body state).bind (Prog.afterPass body next))
        running.history running.world)

/-- All that a step does: at most one question is answered, and outputs follow. -/
theorem advance_adds {env : Env Q A O W F} {running running' : Running Q A O W ε α}
    {choice : F} (h : env.advance running choice = some running') :
    (∃ outputs : List O,
      running'.history = running.history ++ outputs.map .told ∧
      running'.world = outputs.foldl env.perform running.world) ∨
    ∃ question next answer world, ∃ outputs : List O,
      running.program = .ask question next ∧
      env.answer running.world question choice = some (answer, world) ∧
      running'.history = running.history ++ .asked question answer :: outputs.map .told ∧
      running'.world = outputs.foldl env.perform world := by
  obtain ⟨program, history, world⟩ := running
  cases program with
  | ret value => simp [advance] at h
  | fail error => simp [advance] at h
  | ask question next =>
      simp only [advance, Option.map_eq_some_iff] at h
      obtain ⟨⟨answer, world'⟩, hanswer, rfl⟩ := h
      obtain ⟨outputs, hhistory, hworld⟩ :=
        env.settle_adds (next answer) (history ++ [.asked question answer]) world'
      refine .inr ⟨question, next, answer, world', outputs, rfl, hanswer, ?_, hworld⟩
      rw [hhistory, List.append_assoc]
      rfl
  | tell output next =>
      simp only [advance, Option.some.injEq] at h
      subst h
      exact .inl (env.settle_adds (.tell output next) history world)
  | loop body state next =>
      simp only [advance, Option.some.injEq] at h
      subst h
      exact .inl (env.settle_adds _ history world)

theorem mem_advance {env : Env Q A O W F} {running running' : Running Q A O W ε α}
    {choice : F} (h : env.advance running choice = some running') {question : Q}
    {answer : A question} (hmem : .asked question answer ∈ running'.history) :
    .asked question answer ∈ running.history ∨
      (∃ next, running.program = .ask question next) ∧
        ∃ world, env.answer running.world question choice = some (answer, world) := by
  rcases advance_adds h with ⟨outputs, hhistory, -⟩ |
    ⟨asked, next, given, world, outputs, hprogram, hanswer, hhistory, -⟩
  · rw [hhistory] at hmem
    rcases List.mem_append.mp hmem with hmem | hmem
    · exact .inl hmem
    · simp at hmem
  · rw [hhistory] at hmem
    rcases List.mem_append.mp hmem with hmem | hmem
    · exact .inl hmem
    · rcases List.mem_cons.mp hmem with hmem | hmem
      · cases hmem
        exact .inr ⟨⟨next, hprogram⟩, world, hanswer⟩
      · simp at hmem

end Env

namespace Running

variable {I : List (Event Q A O) → Prop}
  {post : Except ε α → List (Event Q A O) → Prop}

structure Sound (I : List (Event Q A O) → Prop)
    (post : Except ε α → List (Event Q A O) → Prop)
    (running : Running Q A O W ε α) : Prop where
  invariant : I running.history
  safe : running.program.Safe I running.history post

variable {env : Env Q A O W F}

/-- The rest of the program is safe, and its first outputs have been announced. -/
structure Guarded (I : List (Event Q A O) → Prop)
    (post : Except ε α → List (Event Q A O) → Prop)
    (running : Running Q A O W ε α) : Prop where
  safe : running.program.Safe I running.history post
  settled : ∀ output next, running.program ≠ .tell output next

theorem Guarded.settle {program : Prog Q A O ε α} {history : List (Event Q A O)}
    {world : W} (h : program.Safe I history post) :
    (env.settle program history world).Guarded I post := by
  induction program generalizing history world with
  | tell output next ih => exact ih h
  | _ => exact ⟨h, nofun⟩

theorem guarded_of_advance {running running' : Running Q A O W ε α} {choice : F}
    (hsafe : running.program.Safe I running.history post)
    (hstep : env.advance running choice = some running') : running'.Guarded I post := by
  obtain ⟨program, history, world⟩ := running
  cases program with
  | ret value => simp [Env.advance] at hstep
  | fail error => simp [Env.advance] at hstep
  | ask question next =>
      simp only [Env.advance, Option.map_eq_some_iff] at hstep
      obtain ⟨⟨answer, world'⟩, -, rfl⟩ := hstep
      exact .settle (hsafe.2 answer)
  | tell output next =>
      simp only [Env.advance, Option.some.injEq] at hstep
      subst hstep
      exact .settle hsafe
  | loop body state next =>
      simp only [Env.advance, Option.some.injEq] at hstep
      subst hstep
      obtain ⟨inv, hinit, hpass⟩ := hsafe
      refine .settle ((Prog.safe_bind _ _ _ _).mpr ?_)
      refine (hpass _ _ hinit).2.mono fun result history hresult => ?_
      match result with
      | .ok (.inl _) => exact ⟨inv, hresult, hpass⟩
      | .ok (.inr _) => exact hresult
      | .error _ => exact hresult

/-- The result of a program that has returned or failed. -/
def outcome (running : Running Q A O W ε α) : Option (Except ε α) :=
  match running.program with
  | .ret value => some (.ok value)
  | .fail error => some (.error error)
  | _ => none

theorem outcome_of_advance {running running' : Running Q A O W ε α} {choice : F}
    (hstep : env.advance running choice = some running') : running.outcome = none := by
  unfold outcome
  cases hprogram : running.program <;> simp [Env.advance, hprogram] at hstep ⊢

/-- A program takes no step when it is over or waits. -/
theorem advance_eq_none {running : Running Q A O W ε α} {choice : F} :
    env.advance running choice = none ↔
      running.outcome ≠ none ∨ ∃ question next, running.program = .ask question next ∧
        env.answer running.world question choice = none := by
  obtain ⟨program, history, world⟩ := running
  cases program with
  | ask question next => simp [Env.advance, outcome]
  | _ => simp [Env.advance, outcome]

theorem Guarded.invariant {running : Running Q A O W ε α} (h : running.Guarded I post)
    (houtcome : running.outcome = none) : I running.history := by
  obtain ⟨program, history, world⟩ := running
  cases program with
  | ret value => cases houtcome
  | fail error => cases houtcome
  | ask question next => exact h.safe.1
  | tell output next => exact absurd rfl (h.settled output next)
  | loop body state next =>
      obtain ⟨inv, hinit, hpass⟩ := h.safe
      exact (hpass _ _ hinit).1

theorem Guarded.ended {running : Running Q A O W ε α} (h : running.Guarded I post)
    {result : Except ε α} (houtcome : running.outcome = some result) :
    post result running.history := by
  obtain ⟨program, history, world⟩ := running
  cases program with
  | ret value | fail error =>
      cases houtcome
      exact h.safe
  | _ => cases houtcome

theorem Guarded.sound {running : Running Q A O W ε α}
    (hpost : ∀ result history, post result history → I history)
    (h : running.Guarded I post) : running.Sound I post := by
  refine ⟨?_, h.safe⟩
  cases houtcome : running.outcome with
  | none => exact h.invariant houtcome
  | some result => exact hpost _ _ (h.ended houtcome)

theorem Sound.settle {program : Prog Q A O ε α} {history : List (Event Q A O)}
    {world : W} (hpost : ∀ result history, post result history → I history)
    (h : program.Safe I history post) :
    (env.settle program history world).Sound I post :=
  (Guarded.settle h).sound hpost

theorem Sound.advance {running running' : Running Q A O W ε α} {choice : F}
    (hpost : ∀ result history, post result history → I history)
    (h : running.Sound I post) (hstep : env.advance running choice = some running') :
    running'.Sound I post :=
  (guarded_of_advance h.safe hstep).sound hpost

/-! ## Invariants that tie the history to the world -/

variable {J : List (Event Q A O) → W → Prop}

theorem outputs_ties (hperform : ∀ history world output, J history world →
      J (history ++ [.told output]) (env.perform world output))
    (outputs : List O) {history : List (Event Q A O)} {world : W} (h : J history world) :
    J (history ++ outputs.map .told) (outputs.foldl env.perform world) := by
  induction outputs generalizing history world with
  | nil => simpa using h
  | cons output outputs ih =>
      have hrest := ih (hperform history world output h)
      rwa [List.append_assoc] at hrest

theorem settle_ties (hperform : ∀ history world output, J history world →
      J (history ++ [.told output]) (env.perform world output))
    {program : Prog Q A O ε α} {history : List (Event Q A O)} {world : W}
    (h : J history world) :
    J (env.settle program history world).history
      (env.settle program history world).world := by
  obtain ⟨outputs, hhistory, hworld⟩ := env.settle_adds program history world
  rw [hhistory, hworld]
  exact outputs_ties hperform outputs h

theorem advance_ties
    (hanswer : ∀ history world question choice answer world', J history world →
      env.answer world question choice = some (answer, world') →
      J (history ++ [.asked question answer]) world')
    (hperform : ∀ history world output, J history world →
      J (history ++ [.told output]) (env.perform world output))
    {running running' : Running Q A O W ε α} {choice : F}
    (h : J running.history running.world)
    (hstep : env.advance running choice = some running') :
    J running'.history running'.world := by
  rcases Env.advance_adds hstep with ⟨outputs, hhistory, hworld⟩ |
    ⟨question, next, answer, world, outputs, -, hgiven, hhistory, hworld⟩
  · rw [hhistory, hworld]
    exact outputs_ties hperform outputs h
  · have hasked := hanswer _ _ _ _ _ _ h hgiven
    rw [hhistory, hworld, ← List.singleton_append, ← List.append_assoc]
    exact outputs_ties hperform outputs hasked

end Running

end Running

/-! ## Runs of a transition function -/

theorem invariant_of_run {σ α : Type*} {step : σ → α → Option σ} (P : σ → Prop)
    (hstep : ∀ state action state', P state → step state action = some state' →
      P state')
    {actions : List α} {state state' : σ} (h : P state)
    (hrun : actions.foldlM step state = some state') : P state' := by
  induction actions generalizing state with
  | nil =>
      simp only [List.foldlM_nil, Option.pure_def, Option.some.injEq] at hrun
      exact hrun ▸ h
  | cons action actions ih =>
      simp only [List.foldlM_cons, Option.bind_eq_bind, Option.bind_eq_some_iff] at hrun
      obtain ⟨next, hnext, hrest⟩ := hrun
      exact ih (hstep _ _ _ h hnext) hrest

end OpenRD.Foundation
