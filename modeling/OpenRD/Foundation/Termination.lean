import Mathlib.Data.List.Perm.Basic
import Mathlib.Logic.Hydra
import Mathlib.Order.WellFounded
import OpenRD.Foundation.Moments

/-!
# Programs that end

Some of the answers a program gets are costly.  `EndsWithin` says that the program ends
whatever it is answered, if no more than so many of the answers are costly.  `Spends` has a
rule for each way a program is built: a loop ends when every pass that goes on has got a
costly answer.  Tasks that end, and that start only tasks of a lower kind, end together.
-/

namespace OpenRD.Foundation

universe u v

variable {Q : Type} {A : Q → Type} {O : Type} {W : Type u} {F ε α β σ : Type}

namespace Prog

variable {costly : (question : Q) → A question → Bool}

inductive EndsWithin (costly : (question : Q) → A question → Bool) : {α : Type} → ℕ →
    Prog Q A O ε α → Prop where
  | ret {α : Type} (n : ℕ) (value : α) : EndsWithin costly n (.ret value)
  | fail {α : Type} (n : ℕ) (error : ε) :
      EndsWithin costly n (.fail error : Prog Q A O ε α)
  | ask {α : Type} {n : ℕ} {question : Q} {next : A question → Prog Q A O ε α}
      (h : ∀ answer left, left + (costly question answer).toNat ≤ n →
        EndsWithin costly left (next answer)) : EndsWithin costly n (.ask question next)
  | tell {α : Type} {n : ℕ} {output : O} {next : Prog Q A O ε α}
      (h : EndsWithin costly n next) : EndsWithin costly n (.tell output next)
  | loop {α σ β : Type} {n : ℕ} {body : σ → Prog Q A O ε (σ ⊕ β)} {state : σ}
      {next : β → Prog Q A O ε α}
      (h : EndsWithin costly n ((body state).bind (afterPass body next))) :
      EndsWithin costly n (.loop body state next)

theorem EndsWithin.mono {program : Prog Q A O ε α} {m n : ℕ}
    (h : program.EndsWithin costly n) (hle : m ≤ n) : program.EndsWithin costly m := by
  induction h generalizing m with
  | ret n value => exact .ret m value
  | fail n error => exact .fail m error
  | ask h _ => exact .ask fun answer left hleft => h answer left (hleft.trans hle)
  | tell _ ih => exact .tell (ih hle)
  | loop _ ih => exact .loop (ih hle)

theorem EndsWithin.bind {program : Prog Q A O ε α} {f : α → Prog Q A O ε β} {n : ℕ}
    (h : program.EndsWithin costly n)
    (hf : ∀ value left, left ≤ n → (f value).EndsWithin costly left) :
    (program.bind f).EndsWithin costly n := by
  induction h with
  | ret n value => exact hf value n le_rfl
  | fail n error => exact .fail n error
  | ask _ ih =>
      refine .ask fun answer left hleft => ih answer left hleft fun value left' hle => ?_
      exact hf value left' (hle.trans ((Nat.le_add_right _ _).trans hleft))
  | tell _ ih => exact .tell (ih hf)
  | loop _ ih => exact .loop (bind_passes _ _ _ f ▸ ih hf)

/-- It ends once it gets no more costly answers. -/
def Ends (costly : (question : Q) → A question → Bool) (program : Prog Q A O ε α) : Prop :=
  ∀ n, program.EndsWithin costly n

/-- If `program` returns `value`, it has got as many costly answers as `cost value` says. -/
def Spends (costly : (question : Q) → A question → Bool) (program : Prog Q A O ε α)
    (cost : α → ℕ) : Prop :=
  ∀ (β : Type) (f : α → Prog Q A O ε β) (n : ℕ),
    (∀ value left, left + cost value ≤ n → (f value).EndsWithin costly left) →
    (program >>= f).EndsWithin costly n

variable {program : Prog Q A O ε α} {cost : α → ℕ}

/-! ## Programs that end -/

namespace Ends

theorem pure (value : α) : (Pure.pure value : Prog Q A O ε α).Ends costly :=
  fun n => .ret n value

theorem fail (error : ε) : (.fail error : Prog Q A O ε α).Ends costly :=
  fun n => .fail n error

theorem lift (result : Except ε α) : (liftM result : Prog Q A O ε α).Ends costly := by
  cases result with
  | ok value => exact pure value
  | error error => exact fail error

theorem say (output : O) : (.say output : Prog Q A O ε Unit).Ends costly :=
  fun n => .tell (.ret n ())

theorem call (question : Q) (result : A question → Except ε α) :
    (.call question result : Prog Q A O ε α).Ends costly := by
  refine fun n => .ask fun answer left _ => ?_
  cases result answer with
  | ok value => exact .ret left value
  | error error => exact .fail left error

theorem bind {f : α → Prog Q A O ε β} (h : program.Ends costly)
    (hf : ∀ value, (f value).Ends costly) : (program >>= f).Ends costly :=
  fun n => (h n).bind fun value left _ => hf value left

end Ends

/-! ## What they spend -/

namespace Spends

theorem pure {value : α} (h : cost value = 0) :
    (Pure.pure value : Prog Q A O ε α).Spends costly cost :=
  fun _ _ n hrest => hrest value n (by rw [h, Nat.add_zero])

theorem free (h : program.Ends costly) (hcost : ∀ value, cost value = 0) :
    program.Spends costly cost := by
  intro β f n hrest
  refine (h n).bind fun value left hle => hrest value left ?_
  rwa [hcost, Nat.add_zero]

theorem call {question : Q} {result : A question → Except ε α}
    (hcost : ∀ answer value, result answer = .ok value →
      cost value ≤ (costly question answer).toNat) :
    (.call question result : Prog Q A O ε α).Spends costly cost := by
  intro β f n hrest
  change ((Prog.call question result).bind f).EndsWithin costly n
  refine .ask fun answer left hleft => ?_
  simp only
  cases hresult : result answer with
  | ok value =>
      exact hrest value left ((Nat.add_le_add_left (hcost answer value hresult) left).trans hleft)
  | error error => exact .fail left error

theorem bind {next : α → Prog Q A O ε β} {cost' : β → ℕ} (h : program.Spends costly cost)
    (h' : ∀ value, (next value).Spends costly fun result => cost' result - cost value) :
    (program >>= next).Spends costly cost' := by
  intro γ f n hrest
  rw [Prog.bind_assoc]
  refine h γ _ n fun value left hspent => ?_
  refine h' value γ f left fun result left' hspent' => ?_
  simp only at hspent'
  exact hrest result left' (by omega)

end Spends

/-- A loop ends if every pass that goes on spends something. -/
theorem Ends.iterate {body : σ → Prog Q A O ε (σ ⊕ β)} {cost : σ ⊕ β → ℕ}
    (hbody : ∀ state, (body state).Spends costly cost)
    (hpass : ∀ state, 0 < cost (.inl state)) (state : σ) :
    (.iterate state body : Prog Q A O ε β).Ends costly := by
  intro n
  -- induction on what is left at the start of a pass
  induction n using Nat.strong_induction_on generalizing state with
  | _ n ih =>
    refine .loop (hbody state β _ n fun result left hspent => ?_)
    cases result with
    | inl state' =>
        have hpaid := hpass state'
        exact ih left (by omega) state'
    | inr value => exact .ret left value

end Prog

/-! ## In a world -/

namespace Env

/-- The world has no more than `left` costly answers to give. -/
structure Pays (env : Env Q A O W F) (costly : (question : Q) → A question → Bool)
    (left : W → ℕ) : Prop where
  answer : ∀ {world question choice answer world'},
    env.answer world question choice = some (answer, world') →
    left world' + (costly question answer).toNat ≤ left world
  perform : ∀ world output, left (env.perform world output) ≤ left world

variable {env : Env Q A O W F} {costly : (question : Q) → A question → Bool} {left : W → ℕ}

section Ends

variable {running running' : Running Q A O W ε α} {choice : F}

theorem ends_settle {program : Prog Q A O ε α} (h : program.Ends costly)
    (history : List (Event Q A O)) (world : W) :
    (env.settle program history world).program.Ends costly := by
  induction program generalizing history world with
  | tell output next ih =>
      refine ih (fun n => ?_) _ _
      cases h n with
      | tell hnext => exact hnext
  | _ => exact h

/-- Whatever a program is answered, it still ends. -/
theorem ends_advance (h : running.program.Ends costly)
    (hstep : env.advance running choice = some running') : running'.program.Ends costly := by
  obtain ⟨program, history, world⟩ := running
  cases program with
  | ret value | fail error => cases hstep
  | tell output next =>
      cases hstep
      exact @ends_settle _ _ _ _ _ _ _ _ _ (.tell output next) h history world
  | ask question next =>
      simp only [advance, Option.map_eq_some_iff] at hstep
      obtain ⟨⟨answer, world'⟩, -, rfl⟩ := hstep
      refine ends_settle (fun n => ?_) _ _
      cases h (n + (costly question answer).toNat) with
      | ask hnext => exact hnext answer n le_rfl
  | loop body state next =>
      cases hstep
      refine ends_settle (fun n => ?_) _ _
      cases h n with
      | loop hbody => exact hbody

end Ends

/-! ## A task by itself -/

variable {ι : Type v} {envs : ι → Env Q A O W F} {lefts : ι → W → ℕ}

/-- A program and what is left for it, before and after a step in one of the worlds. -/
def Lowers (envs : ι → Env Q A O W F) (lefts : ι → W → ℕ) (next task : Prog Q A O ε α × ℕ) :
    Prop :=
  ∃ i running running' choice, (envs i).advance running choice = some running' ∧
    task = (running.program, lefts i running.world) ∧
    next = (running'.program, lefts i running'.world)

theorem settle_or_advance {running running' : Running Q A O W ε α} {choice : F}
    (h : env.advance running choice = some running') :
    env.settle running.program running.history running.world = running ∨
      env.settle running.program running.history running.world = running' := by
  obtain ⟨program, history, world⟩ := running
  cases program with
  | tell output next =>
      cases h
      exact .inr rfl
  | _ => exact .inl rfl

theorem acc_settle (hpays : ∀ i, (envs i).Pays costly (lefts i)) {program : Prog Q A O ε α}
    {n : ℕ} (h : program.EndsWithin costly n) (i : ι) (history : List (Event Q A O))
    {world : W} (hleft : lefts i world ≤ n) :
    Acc (Lowers envs lefts) (((envs i).settle program history world).program,
      lefts i ((envs i).settle program history world).world) := by
  induction h generalizing i history world with
  | tell _ ih => exact ih i _ (((hpays i).perform _ _).trans hleft)
  | ret n value | fail n error =>
      refine .intro _ ?_
      rintro _ ⟨j, running, running', choice, hstep, htask, rfl⟩
      have hprogram := (Prod.mk.inj htask).1.symm
      simp [advance, hprogram, settle] at hstep
  | @ask n question next _ ih =>
      refine .intro _ ?_
      rintro _ ⟨j, running, running', choice, hstep, htask, rfl⟩
      obtain ⟨hprogram, hsame⟩ := Prod.mk.inj htask
      have hprogram : running.program = .ask question next := hprogram.symm
      simp only [advance, hprogram, Option.map_eq_some_iff] at hstep
      obtain ⟨⟨answer, world'⟩, hanswer, rfl⟩ := hstep
      exact ih answer _ ((((hpays j).answer hanswer).trans hsame.ge).trans hleft) j _ le_rfl
  | @loop _ _ n body state next _ ih =>
      refine .intro _ ?_
      rintro _ ⟨j, running, running', choice, hstep, htask, rfl⟩
      obtain ⟨hprogram, hsame⟩ := Prod.mk.inj htask
      have hprogram : running.program = .loop body state next := hprogram.symm
      simp only [advance, hprogram, Option.some.injEq] at hstep
      subst hstep
      exact ih j _ (hsame.ge.trans hleft)

theorem acc_lowers (hpays : ∀ i, (envs i).Pays costly (lefts i)) {program : Prog Q A O ε α}
    (h : program.Ends costly) (n : ℕ) : Acc (Lowers envs lefts) (program, n) := by
  refine .intro _ ?_
  rintro _ ⟨i, running, running', choice, hstep, htask, rfl⟩
  obtain ⟨rfl, rfl⟩ := Prod.mk.inj htask
  have hacc := acc_settle hpays (h _) i running.history (le_refl (lefts i running.world))
  rcases settle_or_advance hstep with hsettled | hsettled <;> rw [hsettled] at hacc
  · exact hacc.inv ⟨i, running, running', choice, hstep, rfl, rfl⟩
  · exact hacc

end Env

/-! ## Tasks together -/

section Tasks

variable {T : Type u} {r : T → T → Prop}

/-- One of the tasks gives way to tasks below it: itself after a step, and those it starts. -/
def PoolStep (r : T → T → Prop) (next tasks : Multiset T) : Prop :=
  ∃ task rest started, tasks = task ::ₘ rest ∧ next = rest + started ∧
    ∀ other ∈ started, r other task

theorem acc_poolStep {tasks : Multiset T} (h : ∀ task ∈ tasks, Acc r task) :
    Acc (PoolStep r) tasks := by
  classical
  have hwf : WellFounded (InvImage r (Subtype.val : {task // Acc r task} → T)) :=
    ⟨fun task => InvImage.accessible _ task.2⟩
  lift tasks to Multiset {task // Acc r task} using h
  induction hwf.cutExpand.apply tasks with
  | intro tasks _ ih =>
    refine .intro _ ?_
    rintro next ⟨task, rest, started, htasks, rfl, hbelow⟩
    obtain ⟨task, hmem, rfl, rfl⟩ := (Multiset.map_eq_cons _ _ _ _).mpr htasks
    lift started to Multiset {task // Acc r task} using
      fun other hother => task.2.inv (hbelow other hother)
    rw [← Multiset.map_add]
    refine ih _ ⟨started, task, fun other hother => ?_, ?_⟩
    · exact hbelow other (Multiset.mem_map_of_mem _ hother)
    · rw [add_right_comm, add_comm (tasks.erase task), Multiset.singleton_add,
        Multiset.cons_erase hmem]

theorem PoolStep.cons {next tasks : Multiset T} (h : PoolStep r next tasks) (other : T) :
    PoolStep r (other ::ₘ next) (other ::ₘ tasks) := by
  obtain ⟨task, rest, started, rfl, rfl, hbelow⟩ := h
  refine ⟨task, other ::ₘ rest, started, Multiset.cons_swap _ _ _, ?_, hbelow⟩
  rw [Multiset.cons_add]

/-- A step of one of the tasks in a list. -/
theorem poolStep_set {S : Type v} (task : S → T) {tasks : List S} {index : ℕ} {before after : S}
    (hbefore : tasks[index]? = some before) (hbelow : r (task after) (task before)) :
    PoolStep r ((tasks.set index after).map task : List T) (tasks.map task : List T) := by
  obtain ⟨hlt, rfl⟩ := List.getElem?_eq_some_iff.mp hbefore
  refine ⟨task tasks[index], ((tasks.eraseIdx index).map task : List T), {task after}, ?_, ?_, ?_⟩
  · rw [Multiset.cons_coe, ← List.map_cons]
    exact Multiset.coe_eq_coe.mpr ((List.getElem_cons_eraseIdx_perm hlt).symm.map task)
  · rw [add_comm, Multiset.singleton_add, Multiset.cons_coe, ← List.map_cons]
    exact Multiset.coe_eq_coe.mpr ((List.set_perm_cons_eraseIdx hlt after).map task)
  · intro other hmem
    rwa [Multiset.mem_singleton.mp hmem]

end Tasks

end OpenRD.Foundation
