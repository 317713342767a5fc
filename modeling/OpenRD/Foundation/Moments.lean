import OpenRD.Foundation.Progress
import OpenRD.Foundation.Traces

/-!
# The moments of a program

Some environment or other brings a program to any of its moments: it has done certain
events, and waits for an answer, is about to start a pass of a loop, or is over.  What a
program comes to is read off its structure.
-/

namespace OpenRD.Foundation

/-- Where a program is that has not returned. -/
inductive Stop (Q ε : Type) where
  | waiting (question : Q)
  | turning
  | failed (error : ε)

namespace Prog

variable {Q : Type} {A : Q → Type} {O ε α β σ : Type}

/-- Having done `events`, the program has stopped somewhere or has returned. -/
inductive ComesTo : {α : Type} → Prog Q A O ε α → List (Event Q A O) →
    Except (Stop Q ε) α → Prop where
  | ret {α : Type} (value : α) : ComesTo (.ret value) [] (.ok value)
  | fail {α : Type} (error : ε) :
      ComesTo (.fail error : Prog Q A O ε α) [] (.error (.failed error))
  | waits {α : Type} (question : Q) (next : A question → Prog Q A O ε α) :
      ComesTo (.ask question next) [] (.error (.waiting question))
  | asked {α : Type} {question : Q} {next : A question → Prog Q A O ε α}
      {answer : A question} {events : List (Event Q A O)} {status : Except (Stop Q ε) α}
      (h : ComesTo (next answer) events status) :
      ComesTo (.ask question next) (.asked question answer :: events) status
  | told {α : Type} {output : O} {next : Prog Q A O ε α} {events : List (Event Q A O)}
      {status : Except (Stop Q ε) α} (h : ComesTo next events status) :
      ComesTo (.tell output next) (.told output :: events) status
  | turns {α σ β : Type} (body : σ → Prog Q A O ε (σ ⊕ β)) (state : σ)
      (next : β → Prog Q A O ε α) : ComesTo (.loop body state next) [] (.error .turning)
  | passes {α σ β : Type} {body : σ → Prog Q A O ε (σ ⊕ β)} {state : σ}
      {next : β → Prog Q A O ε α} {events : List (Event Q A O)}
      {status : Except (Stop Q ε) α}
      (h : ComesTo ((body state).bind (afterPass body next)) events status) :
      ComesTo (.loop body state next) events status

variable {program : Prog Q A O ε α} {f : α → Prog Q A O ε β} {events : List (Event Q A O)}
  {status : Except (Stop Q ε) α} {status' : Except (Stop Q ε) β}

theorem comesTo_pure {value : α} :
    (pure value : Prog Q A O ε α).ComesTo events status ↔
      events = [] ∧ status = .ok value := by
  constructor
  · intro h
    cases h
    exact ⟨rfl, rfl⟩
  · rintro ⟨rfl, rfl⟩
    exact .ret value

theorem comesTo_fail {error : ε} :
    (.fail error : Prog Q A O ε α).ComesTo events status ↔
      events = [] ∧ status = .error (.failed error) := by
  constructor
  · intro h
    cases h
    exact ⟨rfl, rfl⟩
  · rintro ⟨rfl, rfl⟩
    exact .fail error

theorem bind_passes (body : σ → Prog Q A O ε (σ ⊕ β)) (state : σ)
    {γ δ : Type} (next : β → Prog Q A O ε γ) (f : γ → Prog Q A O ε δ) :
    ((body state).bind (afterPass body next)).bind f =
      (body state).bind (afterPass body fun value => (next value).bind f) := by
  refine (bind_assoc (body state) (afterPass body next) f).trans ?_
  refine congrArg (body state).bind (funext fun result => ?_)
  cases result <;> rfl

/-- The first of two programs has stopped, or has returned and the second has begun. -/
def Sequenced (program : Prog Q A O ε α) (f : α → Prog Q A O ε β)
    (events : List (Event Q A O)) (status : Except (Stop Q ε) β) : Prop :=
  (∃ stop, program.ComesTo events (.error stop) ∧ status = .error stop) ∨
    ∃ value first rest, events = first ++ rest ∧ program.ComesTo first (.ok value) ∧
      (f value).ComesTo rest status

theorem Sequenced.prepend {program' : Prog Q A O ε α} (event : List (Event Q A O))
    (h : Sequenced program f events status')
    (hcomes : ∀ events status, program.ComesTo events status →
      program'.ComesTo (event ++ events) status) :
    Sequenced program' f (event ++ events) status' := by
  obtain ⟨stop, h, rfl⟩ | ⟨value, first, rest, rfl, h, hrest⟩ := h
  · exact .inl ⟨stop, hcomes _ _ h, rfl⟩
  · exact .inr ⟨value, event ++ first, rest, by simp, hcomes _ _ h, hrest⟩

theorem sequenced_ret {whole : Prog Q A O ε β} {value : α} (h : whole.ComesTo events status')
    (hwhole : (ret value).bind f = whole) : Sequenced (.ret value) f events status' := by
  subst hwhole
  exact .inr ⟨value, [], events, rfl, .ret value, h⟩

theorem ComesTo.sequenced {whole : Prog Q A O ε β} (h : whole.ComesTo events status') :
    ∀ {α : Type} (program : Prog Q A O ε α) (f : α → Prog Q A O ε β),
      program.bind f = whole → Sequenced program f events status' := by
  induction h with
  | ret value =>
      intro α program f hwhole
      cases program with
      | ret value => exact sequenced_ret (.ret _) hwhole
      | _ => cases hwhole
  | fail error =>
      intro α program f hwhole
      cases program with
      | ret value => exact sequenced_ret (.fail _) hwhole
      | fail error =>
          cases hwhole
          exact .inl ⟨_, .fail _, rfl⟩
      | _ => cases hwhole
  | waits question next =>
      intro α program f hwhole
      cases program with
      | ret value => exact sequenced_ret (.waits _ _) hwhole
      | ask question next =>
          cases hwhole
          exact .inl ⟨_, .waits _ _, rfl⟩
      | _ => cases hwhole
  | asked h ih =>
      intro α program f hwhole
      cases program with
      | ret value => exact sequenced_ret (.asked h) hwhole
      | ask question next =>
          cases hwhole
          exact (ih (next _) f rfl).prepend [_] fun _ _ h => .asked h
      | _ => cases hwhole
  | told h ih =>
      intro α program f hwhole
      cases program with
      | ret value => exact sequenced_ret (.told h) hwhole
      | tell output next =>
          cases hwhole
          exact (ih next f rfl).prepend [_] fun _ _ h => .told h
      | _ => cases hwhole
  | turns body state next =>
      intro α program f hwhole
      cases program with
      | ret value => exact sequenced_ret (.turns _ _ _) hwhole
      | loop body state next =>
          cases hwhole
          exact .inl ⟨_, .turns _ _ _, rfl⟩
      | _ => cases hwhole
  | passes h ih =>
      intro α program f hwhole
      cases program with
      | ret value => exact sequenced_ret (.passes h) hwhole
      | loop body state next =>
          cases hwhole
          exact (ih _ f (bind_passes _ _ _ f)).prepend [] fun _ _ h => .passes h
      | _ => cases hwhole

theorem ComesTo.stopped {stop : Stop Q ε} (h : program.ComesTo events (.error stop))
    (f : α → Prog Q A O ε β) : (program.bind f).ComesTo events (.error stop) := by
  generalize hstatus : (.error stop : Except (Stop Q ε) α) = status at h
  induction h with
  | ret value => cases hstatus
  | fail error =>
      cases hstatus
      exact .fail error
  | waits question next =>
      cases hstatus
      exact .waits question _
  | asked h ih => exact .asked (ih hstatus)
  | told h ih => exact .told (ih hstatus)
  | turns body state next =>
      cases hstatus
      exact .turns body state _
  | passes h ih => exact .passes (bind_passes _ _ _ f ▸ ih hstatus)

theorem ComesTo.followed {value : α} {rest : List (Event Q A O)}
    (h : program.ComesTo events (.ok value)) (hrest : (f value).ComesTo rest status') :
    (program.bind f).ComesTo (events ++ rest) status' := by
  generalize hstatus : (.ok value : Except (Stop Q ε) α) = status at h
  induction h with
  | ret value =>
      cases hstatus
      exact hrest
  | asked h ih => exact .asked (ih hstatus)
  | told h ih => exact .told (ih hstatus)
  | passes h ih => exact .passes (bind_passes _ _ _ f ▸ ih hstatus)
  | _ => cases hstatus

theorem comesTo_bind :
    (program >>= f).ComesTo events status' ↔ Sequenced program f events status' := by
  constructor
  · exact fun h => h.sequenced program f rfl
  · rintro (⟨stop, h, rfl⟩ | ⟨value, first, rest, rfl, h, hrest⟩)
    · exact h.stopped f
    · exact h.followed hrest

/-! ## How a program begins -/

section First

variable {question : Q} {result : A question → Except ε α}

theorem comesTo_ask {next : A question → Prog Q A O ε β} :
    (Prog.ask question next).ComesTo events status' ↔
      (events = [] ∧ status' = .error (.waiting question)) ∨
      ∃ answer rest, events = .asked question answer :: rest ∧
        (next answer).ComesTo rest status' := by
  constructor
  · intro h
    cases h with
    | waits => exact .inl ⟨rfl, rfl⟩
    | asked h => exact .inr ⟨_, _, rfl, h⟩
  · rintro (⟨rfl, rfl⟩ | ⟨answer, rest, rfl, h⟩)
    · exact .waits question next
    · exact .asked h

/-- What comes of a result that was there already. -/
def Continued (result : Except ε α) (f : α → Prog Q A O ε β) (events : List (Event Q A O))
    (status : Except (Stop Q ε) β) : Prop :=
  match result with
  | .ok value => (f value).ComesTo events status
  | .error error => events = [] ∧ status = .error (.failed error)

theorem comesTo_lift_bind {result : Except ε α} :
    ((liftM result : Prog Q A O ε α) >>= f).ComesTo events status' ↔
      Continued result f events status' := by
  cases result with
  | ok value => exact Iff.rfl
  | error error => exact comesTo_fail

theorem comesTo_call_bind :
    (call question result >>= f).ComesTo events status' ↔
      (events = [] ∧ status' = .error (.waiting question)) ∨
      ∃ answer rest, events = .asked question answer :: rest ∧
        Continued (result answer) f rest status' := by
  refine comesTo_ask.trans (or_congr_right ?_)
  refine exists_congr fun answer => exists_congr fun rest => and_congr_right fun _ => ?_
  change ((match result answer with
    | .ok value => ret value
    | .error error => fail error).bind f).ComesTo rest status' ↔ _
  cases result answer with
  | ok value => exact Iff.rfl
  | error error => exact comesTo_fail

theorem comesTo_call :
    (call question result).ComesTo events status ↔
      (events = [] ∧ status = .error (.waiting question)) ∨
      ∃ answer, events = [.asked question answer] ∧
        status = (result answer).mapError .failed := by
  refine comesTo_ask.trans (or_congr_right ?_)
  refine exists_congr fun answer => ?_
  cases result answer with
  | ok value =>
      refine (exists_congr fun _ => and_congr_right fun _ => comesTo_pure).trans ?_
      simp [Except.mapError]
  | error error =>
      refine (exists_congr fun _ => and_congr_right fun _ => comesTo_fail).trans ?_
      simp [Except.mapError]

theorem comesTo_say_bind {output : O} {f : Unit → Prog Q A O ε β} :
    (say output >>= f).ComesTo events status' ↔
      ∃ rest, events = .told output :: rest ∧ (f ()).ComesTo rest status' := by
  constructor
  · intro h
    cases h with
    | told h => exact ⟨_, rfl, h⟩
  · rintro ⟨rest, rfl, h⟩
    exact .told h

theorem comesTo_say {output : O} {status : Except (Stop Q ε) Unit} :
    (say output : Prog Q A O ε Unit).ComesTo events status ↔
      events = [.told output] ∧ status = .ok () := by
  rw [← bind_ret (say output), comesTo_say_bind]
  refine (exists_congr fun _ => and_congr_right fun _ => comesTo_pure).trans ?_
  simp

end First

/-! ## Loops -/

section Loops

variable {body : σ → Prog Q A O ε (σ ⊕ β)} {state : σ} {status : Except (Stop Q ε) β}

/-- The finished passes of a loop. -/
abbrev Turns (body : σ → Prog Q A O ε (σ ⊕ β)) :
    σ → List (Event Q A O) → σ → Prop :=
  Passes fun state result events => (body state).ComesTo events (.ok result)

theorem Passes.cons {pass : σ → σ ⊕ β → List (Event Q A O) → Prop} {start state next : σ}
    {first rest : List (Event Q A O)} (hfirst : pass start (.inl state) first)
    (h : Passes pass state rest next) : Passes pass start (first ++ rest) next := by
  induction h with
  | none =>
      rw [List.append_nil, ← List.nil_append first]
      exact .more (.none start) hfirst
  | more before last ih =>
      rw [← List.append_assoc]
      exact .more ih last

/-- A loop has finished some passes, and is between passes, in one, or over. -/
def Turning (body : σ → Prog Q A O ε (σ ⊕ β)) (state : σ) (events : List (Event Q A O))
    (status : Except (Stop Q ε) β) : Prop :=
  ∃ turns reached rest, events = turns ++ rest ∧ Turns body state turns reached ∧
    ((rest = [] ∧ status = .error .turning) ∨
      (∃ stop, (body reached).ComesTo rest (.error stop) ∧ status = .error stop) ∨
      ∃ value, (body reached).ComesTo rest (.ok (.inr value)) ∧ status = .ok value)

/-- The loop is in the pass that is left to do as `program`, or has finished it. -/
def InPass (body : σ → Prog Q A O ε (σ ⊕ β)) (program : Prog Q A O ε (σ ⊕ β))
    (events : List (Event Q A O)) (status : Except (Stop Q ε) β) : Prop :=
  (∃ stop, program.ComesTo events (.error stop) ∧ status = .error stop) ∨
    (∃ value, program.ComesTo events (.ok (.inr value)) ∧ status = .ok value) ∨
    ∃ state first rest, events = first ++ rest ∧
      program.ComesTo first (.ok (.inl state)) ∧ Turning body state rest status

theorem InPass.prepend {program program' : Prog Q A O ε (σ ⊕ β)}
    (event : List (Event Q A O)) (h : InPass body program events status)
    (hcomes : ∀ events status, program.ComesTo events status →
      program'.ComesTo (event ++ events) status) :
    InPass body program' (event ++ events) status := by
  obtain ⟨stop, h, rfl⟩ | ⟨value, h, rfl⟩ | ⟨state, first, rest, rfl, h, hrest⟩ := h
  · exact .inl ⟨stop, hcomes _ _ h, rfl⟩
  · exact .inr (.inl ⟨value, hcomes _ _ h, rfl⟩)
  · exact .inr (.inr ⟨state, event ++ first, rest, by simp, hcomes _ _ h, hrest⟩)

theorem InPass.turning (h : InPass body (body state) events status) :
    Turning body state events status := by
  obtain ⟨stop, h, rfl⟩ | ⟨value, h, rfl⟩ | ⟨next, first, rest, rfl, h, hrest⟩ := h
  · exact ⟨[], state, events, rfl, .none state, .inr (.inl ⟨stop, h, rfl⟩)⟩
  · exact ⟨[], state, events, rfl, .none state, .inr (.inr ⟨value, h, rfl⟩)⟩
  · obtain ⟨turns, reached, rest, rfl, hturns, hlast⟩ := hrest
    exact ⟨first ++ turns, reached, rest, by simp, hturns.cons h, hlast⟩

theorem ComesTo.inPass {whole : Prog Q A O ε β} (h : whole.ComesTo events status) :
    ∀ program : Prog Q A O ε (σ ⊕ β), program.bind (afterPass body .ret) = whole →
      InPass body program events status := by
  have hnext {state : σ} {events : List (Event Q A O)} {status : Except (Stop Q ε) β}
      (h : Turning body state events status) :
      InPass body (.ret (.inl state)) events status :=
    .inr (.inr ⟨state, [], events, rfl, .ret _, h⟩)
  induction h with
  | ret value =>
      intro program hwhole
      cases program with
      | ret result =>
          cases result with
          | inl state => cases hwhole
          | inr value =>
              cases hwhole
              exact .inr (.inl ⟨value, .ret _, rfl⟩)
      | _ => cases hwhole
  | fail error =>
      intro program hwhole
      cases program with
      | ret result => cases result <;> cases hwhole
      | fail error =>
          cases hwhole
          exact .inl ⟨_, .fail _, rfl⟩
      | _ => cases hwhole
  | waits question next =>
      intro program hwhole
      cases program with
      | ret result => cases result <;> cases hwhole
      | ask question next =>
          cases hwhole
          exact .inl ⟨_, .waits _ _, rfl⟩
      | _ => cases hwhole
  | asked h ih =>
      intro program hwhole
      cases program with
      | ret result => cases result <;> cases hwhole
      | ask question next =>
          cases hwhole
          exact (ih (next _) rfl).prepend [_] fun _ _ h => .asked h
      | _ => cases hwhole
  | told h ih =>
      intro program hwhole
      cases program with
      | ret result => cases result <;> cases hwhole
      | tell output next =>
          cases hwhole
          exact (ih next rfl).prepend [_] fun _ _ h => .told h
      | _ => cases hwhole
  | turns =>
      intro program hwhole
      cases program with
      | ret result =>
          cases result with
          | inl state =>
              cases hwhole
              exact hnext ⟨[], state, [], rfl, .none state, .inl ⟨rfl, rfl⟩⟩
          | inr value => cases hwhole
      | loop =>
          cases hwhole
          exact .inl ⟨_, .turns _ _ _, rfl⟩
      | _ => cases hwhole
  | passes h ih =>
      intro program hwhole
      cases program with
      | ret result =>
          cases result with
          | inl state =>
              cases hwhole
              exact hnext (ih (_) rfl).turning
          | inr value => cases hwhole
      | loop =>
          cases hwhole
          exact (ih _ (bind_passes _ _ _ _)).prepend [] fun _ _ h => .passes h
      | _ => cases hwhole

theorem ComesTo.turned {γ : Type} {next : β → Prog Q A O ε γ} {status : Except (Stop Q ε) γ}
    {turns : List (Event Q A O)} {reached : σ} (hturns : Turns body state turns reached)
    (h : (loop body reached next).ComesTo events status) :
    (loop body state next).ComesTo (turns ++ events) status := by
  induction hturns generalizing events with
  | none => exact h
  | more before last ih =>
      rw [List.append_assoc]
      exact ih (.passes (last.followed h))

theorem comesTo_iterate :
    (iterate state body).ComesTo events status ↔ Turning body state events status := by
  constructor
  · intro h
    cases h with
    | turns => exact ⟨[], state, [], rfl, .none state, .inl ⟨rfl, rfl⟩⟩
    | passes h => exact (h.inPass (body state) rfl).turning
  · rintro ⟨turns, reached, rest, rfl, hturns, hlast⟩
    refine .turned hturns ?_
    obtain ⟨rfl, rfl⟩ | ⟨stop, h, rfl⟩ | ⟨value, h, rfl⟩ := hlast
    · exact .turns body reached .ret
    · exact .passes (h.stopped _)
    · refine .passes ?_
      have hlast := h.followed (f := afterPass body .ret) (.ret value)
      rwa [List.append_nil] at hlast

/-- The loop rule: what holds after the finished passes, and what then becomes of one. -/
theorem iterate_induction (inv : σ → List (Event Q A O) → Prop)
    {post : Except (Stop Q ε) β → List (Event Q A O) → Prop} (hinit : inv state [])
    (hpass : ∀ state next events rest, inv state events →
      (body state).ComesTo rest (.ok (.inl next)) → inv next (events ++ rest))
    (hturn : ∀ state events, inv state events → post (.error .turning) events)
    (hstop : ∀ state events rest stop, inv state events →
      (body state).ComesTo rest (.error stop) → post (.error stop) (events ++ rest))
    (hlast : ∀ state events rest value, inv state events →
      (body state).ComesTo rest (.ok (.inr value)) → post (.ok value) (events ++ rest))
    (h : (iterate state body).ComesTo events status) : post status events := by
  obtain ⟨turns, reached, rest, rfl, hturns, hrest⟩ := comesTo_iterate.mp h
  have hinv : inv reached turns := by
    clear hrest h
    induction hturns with
    | none => exact hinit
    | more before last ih => exact hpass _ _ _ _ ih last
  obtain ⟨rfl, rfl⟩ | ⟨stop, hrest, rfl⟩ | ⟨value, hrest, rfl⟩ := hrest
  · rw [List.append_nil]
    exact hturn reached turns hinv
  · exact hstop reached turns rest stop hinv hrest
  · exact hlast reached turns rest value hinv hrest

end Loops

/-! ## What a program leaves in its history -/

/-- At every moment, the part of the history in `view` is `left`. -/
def Leaves {γ : Type} (view : Event Q A O → Option γ) (left : List γ)
    (program : Prog Q A O ε α) : Prop :=
  ∀ events status, program.ComesTo events status → events.filterMap view = left

section Leaves

variable {γ : Type} {view : Event Q A O → Option γ} {left : List γ}

theorem leaves_pure (value : α) : (pure value : Prog Q A O ε α).Leaves view [] := by
  intro events status h
  obtain ⟨rfl, -⟩ := comesTo_pure.mp h
  rfl

theorem leaves_say_bind {output : O} {f : Unit → Prog Q A O ε β}
    (h : (f ()).Leaves view left) :
    (say output >>= f).Leaves view ((view (.told output)).toList ++ left) := by
  intro events status hcomes
  obtain ⟨rest, rfl, hrest⟩ := comesTo_say_bind.mp hcomes
  rw [List.filterMap_cons, ← h rest status hrest]
  cases view (.told output) <;> rfl

theorem leaves_say (output : O) :
    (say output : Prog Q A O ε Unit).Leaves view (view (.told output)).toList := by
  intro events status hcomes
  obtain ⟨rfl, -⟩ := comesTo_say.mp hcomes
  rw [List.filterMap_cons]
  cases view (.told output) <;> rfl

theorem leaves_lift_bind {result : Except ε α}
    (herror : ∀ error, result = .error error → left = [])
    (hok : ∀ value, result = .ok value → (f value).Leaves view left) :
    ((liftM result : Prog Q A O ε α) >>= f).Leaves view left := by
  intro events status hcomes
  rw [comesTo_lift_bind] at hcomes
  cases result with
  | ok value => exact hok value rfl events status hcomes
  | error error =>
      obtain ⟨rfl, -⟩ := hcomes
      rw [herror error rfl]
      rfl

/-- What waits for an answer may leave nothing later either. -/
theorem leaves_call_bind {question : Q} {result : A question → Except ε α}
    (hview : ∀ answer, view (.asked question answer) = none)
    (h : ∀ value, (f value).Leaves view []) :
    (call question result >>= f).Leaves view [] := by
  intro events status hcomes
  obtain ⟨rfl, -⟩ | ⟨answer, rest, rfl, hrest⟩ := comesTo_call_bind.mp hcomes
  · rfl
  · rw [List.filterMap_cons, hview]
    cases hresult : result answer with
    | ok value =>
        rw [hresult] at hrest
        exact h value rest status hrest
    | error error =>
        rw [hresult] at hrest
        obtain ⟨rfl, -⟩ := hrest
        rfl

theorem Leaves.bind_nil {program : Prog Q A O ε α} (h : program.Leaves view [])
    (hnext : ∀ value, (f value).Leaves view []) : (program >>= f).Leaves view [] := by
  intro events status hcomes
  obtain ⟨stop, hstop, -⟩ | ⟨value, first, rest, rfl, hfirst, hrest⟩ := comesTo_bind.mp hcomes
  · exact h events _ hstop
  · rw [List.filterMap_append, h first _ hfirst, hnext value rest _ hrest]
    rfl

theorem leaves_call {question : Q} {result : A question → Except ε α}
    (hview : ∀ answer, view (.asked question answer) = none) :
    (call question result).Leaves view [] := by
  rw [← bind_ret (call question result)]
  exact leaves_call_bind hview leaves_pure

end Leaves

end Prog

/-! ## Runs come to moments -/

namespace Running

universe u

variable {Q : Type} {A : Q → Type} {O ε α : Type} {W : Type u} {F : Type}

def status (running : Running Q A O W ε α) : Except (Stop Q ε) α :=
  match running.program with
  | .ret value => .ok value
  | .fail error => .error (.failed error)
  | .ask question _ => .error (.waiting question)
  | .tell .. | .loop .. => .error .turning

/-- What `program` has left to do after the history of the run. -/
structure Resumes (program : Prog Q A O ε α) (running : Running Q A O W ε α) : Prop where
  resumes : ∀ events status, running.program.ComesTo events status →
    program.ComesTo (running.history ++ events) status
  settled : ∀ output next, running.program ≠ .tell output next

variable {env : Env Q A O W F} {program : Prog Q A O ε α}
  {running running' : Running Q A O W ε α}

theorem Resumes.settle {left : Prog Q A O ε α} {history : List (Event Q A O)} {world : W}
    (h : ∀ events status, left.ComesTo events status →
      program.ComesTo (history ++ events) status) :
    (env.settle left history world).Resumes program := by
  induction left generalizing history world with
  | tell output next ih =>
      refine ih fun events status hcomes => ?_
      rw [List.append_assoc]
      exact h _ _ (.told hcomes)
  | _ => exact ⟨h, nofun⟩

theorem Resumes.advance {choice : F} (h : running.Resumes program)
    (hstep : env.advance running choice = some running') : running'.Resumes program := by
  obtain ⟨left, history, world⟩ := running
  cases left with
  | ret value => simp [Env.advance] at hstep
  | fail error => simp [Env.advance] at hstep
  | tell output next => exact absurd rfl (h.settled output next)
  | ask question next =>
      simp only [Env.advance, Option.map_eq_some_iff] at hstep
      obtain ⟨⟨answer, world'⟩, -, rfl⟩ := hstep
      refine .settle fun events status hcomes => ?_
      rw [List.append_assoc]
      exact h.resumes _ _ (.asked hcomes)
  | loop body state next =>
      simp only [Env.advance, Option.some.injEq] at hstep
      subst hstep
      exact .settle fun events status hcomes => h.resumes _ _ (.passes hcomes)

/-- Whatever the world, a run of a program is at one of its moments. -/
theorem Resumes.comesTo (h : running.Resumes program) :
    program.ComesTo running.history running.status := by
  have hhere : running.program.ComesTo [] running.status := by
    unfold status
    split
    · next heq => exact heq ▸ .ret _
    · next heq => exact heq ▸ .fail _
    · next heq => exact heq ▸ .waits _ _
    · next heq => exact absurd heq (h.settled _ _)
    · next heq => exact heq ▸ .turns _ _ _
  exact List.append_nil running.history ▸ h.resumes [] _ hhere

end Running

/-- What a program does in some world is something that it can come to. -/
theorem Env.Completes.comesTo {env : Env Q A O W F} {program : Prog Q A O ε α}
    {world world' : W} {events : List (Event Q A O)} {value : α}
    (h : env.Completes program world events value world') :
    program.ComesTo events (.ok value) := by
  obtain ⟨choices, hrun⟩ := h.leads []
  have hresumes : (env.settle (.ret value) ([] ++ events) world').Resumes program :=
    invariant_of_run (fun running => running.Resumes program)
      (fun _ _ _ hresumes hstep => hresumes.advance hstep) (.settle fun _ _ => id) hrun
  exact hresumes.comesTo

end OpenRD.Foundation
