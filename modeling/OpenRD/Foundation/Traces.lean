import OpenRD.Foundation.Program

/-!
# What a program adds to its history

`Adds partly fully` describes a program by the events it appends: `partly` holds
of them whenever the program waits and when it fails, `fully` when it returns.
The rules follow the program's structure, and a loop adds a sequence of passes.
-/

namespace OpenRD.Foundation

namespace Prog

variable {Q : Type} {A : Q → Type} {O ε α β σ : Type}

def Adds (program : Prog Q A O ε α) (partly : List (Event Q A O) → Prop)
    (fully : α → List (Event Q A O) → Prop) : Prop :=
  ∀ base, program.Safe (fun history => ∃ events, history = base ++ events ∧ partly events)
    base fun result history => ∃ events, history = base ++ events ∧
      match result with
      | .ok value => fully value events
      | .error _ => partly events

variable {partly : List (Event Q A O) → Prop} {fully : α → List (Event Q A O) → Prop}

theorem Adds.weaken {program : Prog Q A O ε α} {partly' : List (Event Q A O) → Prop}
    {fully' : α → List (Event Q A O) → Prop} (h : program.Adds partly fully)
    (hpartly : ∀ events, partly events → partly' events)
    (hfully : ∀ value events, fully value events → fully' value events) :
    program.Adds partly' fully' := by
  intro base
  refine (h base).weaken ?_ ?_
  · rintro history ⟨events, rfl, hevents⟩
    exact ⟨events, rfl, hpartly events hevents⟩
  · rintro result history ⟨events, rfl, hevents⟩
    refine ⟨events, rfl, ?_⟩
    cases result with
    | ok value => exact hfully value events hevents
    | error error => exact hpartly events hevents

theorem adds_pure {value : α} (h : fully value []) :
    (pure value : Prog Q A O ε α).Adds partly fully :=
  fun base => ⟨[], by simp, h⟩

theorem adds_fail {error : ε} (h : partly []) :
    (.fail error : Prog Q A O ε α).Adds partly fully :=
  fun base => ⟨[], by simp, h⟩

theorem adds_say {output : O} {fully : Unit → List (Event Q A O) → Prop}
    (h : fully () [.told output]) :
    (say output : Prog Q A O ε Unit).Adds partly fully :=
  fun _ => ⟨[.told output], rfl, h⟩

theorem adds_call {question : Q} {result : A question → Except ε α}
    (hwait : partly [])
    (hpartly : ∀ answer error, result answer = .error error →
      partly [.asked question answer])
    (hfully : ∀ answer value, result answer = .ok value →
      fully value [.asked question answer]) :
    (call question result).Adds partly fully := by
  intro base
  refine (safe_call question result).mpr ⟨⟨[], by simp, hwait⟩, fun answer => ?_⟩
  refine ⟨[.asked question answer], rfl, ?_⟩
  cases hresult : result answer with
  | ok value => exact hfully answer value hresult
  | error error => exact hpartly answer error hresult

theorem adds_bind {program : Prog Q A O ε α} {f : α → Prog Q A O ε β}
    {first : List (Event Q A O) → Prop} {middle : α → List (Event Q A O) → Prop}
    {fully : β → List (Event Q A O) → Prop} (hprogram : program.Adds first middle)
    (hfirst : ∀ events, first events → partly events)
    (hnext : ∀ value events, middle value events →
      (f value).Adds (fun rest => partly (events ++ rest))
        fun result rest => fully result (events ++ rest)) :
    (program >>= f).Adds partly fully := by
  intro base
  refine (safe_bind program f base _).mpr ?_
  refine (hprogram base).weaken ?_ ?_
  · rintro history ⟨events, rfl, hevents⟩
    exact ⟨events, rfl, hfirst events hevents⟩
  · rintro result history ⟨events, rfl, hevents⟩
    cases result with
    | error error => exact ⟨events, rfl, hfirst events hevents⟩
    | ok value =>
        refine (hnext value events hevents (base ++ events)).weaken ?_ ?_
        · rintro history ⟨rest, rfl, hrest⟩
          exact ⟨events ++ rest, by rw [List.append_assoc], hrest⟩
        · rintro result history ⟨rest, rfl, hrest⟩
          exact ⟨events ++ rest, by rw [List.append_assoc], hrest⟩

section First

variable {f : α → Prog Q A O ε β} {fully : β → List (Event Q A O) → Prop}

theorem adds_call_bind {question : Q} {result : A question → Except ε α}
    (hwait : partly [])
    (hpartly : ∀ answer error, result answer = .error error →
      partly [.asked question answer])
    (hnext : ∀ answer value, result answer = .ok value →
      (f value).Adds (fun rest => partly (.asked question answer :: rest))
        fun result rest => fully result (.asked question answer :: rest)) :
    (call question result >>= f).Adds partly fully := by
  have hcalled : (call question result).Adds partly fun value events =>
      ∃ answer, result answer = .ok value ∧ events = [.asked question answer] :=
    adds_call hwait hpartly fun answer value h => ⟨answer, h, rfl⟩
  refine adds_bind hcalled (fun _ => id) ?_
  rintro value events ⟨answer, h, rfl⟩
  exact hnext answer value h

theorem adds_lift_bind {result : Except ε α}
    (hpartly : ∀ error, result = .error error → partly [])
    (hnext : ∀ value, result = .ok value → (f value).Adds partly fully) :
    ((liftM result : Prog Q A O ε α) >>= f).Adds partly fully := by
  cases result with
  | ok value => exact hnext value rfl
  | error error => exact fun base => ⟨[], by simp, hpartly error rfl⟩

theorem adds_say_bind {output : O} {f : Unit → Prog Q A O ε β}
    (hnext : (f ()).Adds (fun rest => partly (.told output :: rest))
      fun result rest => fully result (.told output :: rest)) :
    (say output >>= f).Adds partly fully := by
  intro base
  refine (hnext (base ++ [.told output])).weaken ?_ ?_
  · rintro history ⟨rest, rfl, hrest⟩
    exact ⟨.told output :: rest, by simp, hrest⟩
  · rintro result history ⟨rest, rfl, hrest⟩
    exact ⟨.told output :: rest, by simp, hrest⟩

end First

/-! ## Loops -/

/-- The events of finished passes that lead from one loop state to another. -/
inductive Passes (pass : σ → σ ⊕ β → List (Event Q A O) → Prop) :
    σ → List (Event Q A O) → σ → Prop where
  | none (state : σ) : Passes pass state [] state
  | more {start state next : σ} {events rest : List (Event Q A O)}
      (before : Passes pass start events state) (last : pass state (.inl next) rest) :
      Passes pass start (events ++ rest) next

theorem adds_iterate {body : σ → Prog Q A O ε (σ ⊕ β)} {state : σ}
    {during : σ → List (Event Q A O) → Prop}
    {pass : σ → σ ⊕ β → List (Event Q A O) → Prop}
    {fully : β → List (Event Q A O) → Prop}
    (hbody : ∀ state, (body state).Adds (during state) (pass state))
    (hwait : ∀ events reached, Passes pass state events reached → partly events)
    (hduring : ∀ events reached rest, Passes pass state events reached →
      during reached rest → partly (events ++ rest))
    (hfully : ∀ events reached value rest, Passes pass state events reached →
      pass reached (.inr value) rest → fully value (events ++ rest)) :
    (iterate state body).Adds partly fully := by
  intro base
  refine safe_iterate (fun reached history => ∃ events,
    history = base ++ events ∧ Passes pass state events reached)
    ⟨[], by simp, .none state⟩ ?_
  rintro reached history ⟨events, rfl, hpasses⟩
  refine ⟨⟨events, rfl, hwait events reached hpasses⟩, ?_⟩
  refine (hbody reached (base ++ events)).weaken ?_ ?_
  · rintro history ⟨rest, rfl, hrest⟩
    exact ⟨events ++ rest, by rw [List.append_assoc],
      hduring events reached rest hpasses hrest⟩
  · rintro result history ⟨rest, rfl, hrest⟩
    match result with
    | .ok (.inl next) =>
        exact ⟨events ++ rest, by rw [List.append_assoc], .more hpasses hrest⟩
    | .ok (.inr value) =>
        exact ⟨events ++ rest, by rw [List.append_assoc],
          hfully events reached value rest hpasses hrest⟩
    | .error error =>
        exact ⟨events ++ rest, by rw [List.append_assoc],
          hduring events reached rest hpasses hrest⟩

/-! ## Predicates that concatenation keeps -/

section Closed

variable {P : List (Event Q A O) → Prop}

theorem adds_bind_closed {program : Prog Q A O ε α} {f : α → Prog Q A O ε β}
    (happend : ∀ first second, P first → P second → P (first ++ second))
    (hprogram : program.Adds P fun _ => P) (hnext : ∀ value, (f value).Adds P fun _ => P) :
    (program >>= f).Adds P fun _ => P := by
  refine adds_bind hprogram (fun _ => id) fun value events hevents => ?_
  refine (hnext value).weaken ?_ ?_
  · exact fun rest hrest => happend events rest hevents hrest
  · exact fun _ rest hrest => happend events rest hevents hrest

theorem adds_iterate_closed {body : σ → Prog Q A O ε (σ ⊕ β)} {state : σ}
    (hnil : P []) (happend : ∀ first second, P first → P second → P (first ++ second))
    (hbody : ∀ state, (body state).Adds P fun _ => P) :
    (iterate state body).Adds P fun _ => P := by
  have hpasses {events : List (Event Q A O)} {reached : σ}
      (h : Passes (fun _ _ => P : σ → σ ⊕ β → _) state events reached) : P events := by
    induction h with
    | none => exact hnil
    | more before last ih => exact happend _ _ ih last
  refine adds_iterate hbody (fun _ _ => hpasses) ?_ ?_
  · exact fun events reached rest h hrest => happend events rest (hpasses h) hrest
  · exact fun events reached value rest h hrest => happend events rest (hpasses h) hrest

end Closed

end Prog

end OpenRD.Foundation
