import OpenRD.Foundation.Program

/-!
# How far a program gets

`Leads` says that a world, with suitable choices, takes one program to another.
`Completes` says the same of a part of a program, whatever follows it, and has a
rule for each way a program is built.
-/

namespace OpenRD.Foundation

universe u

variable {Q : Type} {A : Q → Type} {O : Type} {W : Type u} {F ε α β σ : Type}

namespace Prog

theorem bind_assoc {γ : Type} (program : Prog Q A O ε α) (f : α → Prog Q A O ε β)
    (g : β → Prog Q A O ε γ) :
    program >>= f >>= g = program >>= fun value => f value >>= g := by
  change (program.bind f).bind g = program.bind fun value => (f value).bind g
  induction program with
  | ret value => rfl
  | fail error => rfl
  | ask question next ih => simp only [bind, ih]
  | tell output next ih => simp only [bind, ih]
  | loop body state next ihBody ihNext => simp only [bind, ihNext]

theorem bind_ret (program : Prog Q A O ε α) : program >>= .ret = program := by
  change program.bind .ret = program
  induction program with
  | ret value => rfl
  | fail error => rfl
  | ask question next ih => simp only [bind, ih]
  | tell output next ih => simp only [bind, ih]
  | loop body state next ihBody ihNext => simp only [bind, ihNext]

end Prog

namespace Env

variable (env : Env Q A O W F)

/-- `program` becomes `program'`, and adds `events` to its history. -/
def Leads (program : Prog Q A O ε α) (world : W) (events : List (Event Q A O))
    (program' : Prog Q A O ε α) (world' : W) : Prop :=
  ∀ history, ∃ choices : List F,
    choices.foldlM env.advance (env.settle program history world) =
      some (env.settle program' (history ++ events) world')

/-- `program` returns `value`, and adds `events` to its history. -/
def Completes (program : Prog Q A O ε α) (world : W) (events : List (Event Q A O))
    (value : α) (world' : W) : Prop :=
  ∀ (β : Type) (f : α → Prog Q A O ε β),
    env.Leads (program >>= f) world events (f value) world'

variable {env}

theorem Leads.refl (program : Prog Q A O ε α) (world : W) :
    env.Leads program world [] program world :=
  fun history => ⟨[], by simp⟩

theorem Leads.trans {program program' program'' : Prog Q A O ε α}
    {world world' world'' : W} {events events' : List (Event Q A O)}
    (h : env.Leads program world events program' world')
    (h' : env.Leads program' world' events' program'' world'') :
    env.Leads program world (events ++ events') program'' world'' := by
  intro history
  obtain ⟨choices, hchoices⟩ := h history
  obtain ⟨choices', hchoices'⟩ := h' (history ++ events)
  refine ⟨choices ++ choices', ?_⟩
  rw [List.foldlM_append, hchoices, Option.bind_eq_bind, Option.bind_some, hchoices',
    List.append_assoc]

namespace Completes

variable {world world' world'' : W}

theorem pure (value : α) :
    env.Completes (Pure.pure value : Prog Q A O ε α) world [] value world :=
  fun _ f => .refl (f value) world

theorem lift {result : Except ε α} {value : α} (h : result = .ok value) :
    env.Completes (liftM result : Prog Q A O ε α) world [] value world := by
  subst h
  exact fun _ f => .refl (f value) world

theorem say (output : O) :
    env.Completes (.say output : Prog Q A O ε Unit) world [.told output] ()
      (env.perform world output) :=
  fun _ _ _ => ⟨[], rfl⟩

theorem call {question : Q} {result : A question → Except ε α} (choice : F)
    {answer : A question} {value : α}
    (hanswer : env.answer world question choice = some (answer, world'))
    (hresult : result answer = .ok value) :
    env.Completes (.call question result) world [.asked question answer] value world' := by
  intro β f history
  refine ⟨[choice], ?_⟩
  change (env.advance ⟨(Prog.call question result).bind f, history, world⟩ choice).bind
    some = _
  simp only [Prog.call, Prog.bind, advance, hanswer, Option.map_some, hresult,
    Option.bind_some]

theorem bind {program : Prog Q A O ε α} {next : α → Prog Q A O ε β}
    {events events' : List (Event Q A O)} {value : α} {value' : β}
    (h : env.Completes program world events value world')
    (h' : env.Completes (next value) world' events' value' world'') :
    env.Completes (program >>= next) world (events ++ events') value' world'' := by
  intro γ f
  rw [Prog.bind_assoc]
  exact (h _ _).trans (h' γ f)

end Completes

theorem leads_into_pass [Inhabited F] (body : σ → Prog Q A O ε (σ ⊕ β)) (state : σ)
    (next : β → Prog Q A O ε α) (world : W) :
    env.Leads (.iterate state body >>= next) world [] (body state >>= Prog.afterPass body next)
      world := by
  intro history
  refine ⟨[default], ?_⟩
  rw [List.append_nil]
  rfl

theorem leads_pass [Inhabited F] {body : σ → Prog Q A O ε (σ ⊕ β)} {state : σ}
    {next : β → Prog Q A O ε α} {result : σ ⊕ β} {world world' : W}
    {events : List (Event Q A O)}
    (hpass : env.Completes (body state) world events result world') :
    env.Leads (.iterate state body >>= next) world events
      (Prog.afterPass body next result) world' := by
  intro history
  obtain ⟨choices, hchoices⟩ := hpass _ (Prog.afterPass body next) history
  exact ⟨default :: choices, hchoices⟩

namespace Completes

variable {world world' world'' : W}

theorem leads {program : Prog Q A O ε α} {events : List (Event Q A O)} {value : α}
    (h : env.Completes program world events value world') :
    env.Leads program world events (.ret value) world' := by
  have hleads := h α .ret
  rwa [Prog.bind_ret] at hleads

section Loops

variable [Inhabited F] {body : σ → Prog Q A O ε (σ ⊕ β)} {state state' : σ} {value : β}
  {events events' : List (Event Q A O)}

theorem iterate_pass (h : env.Completes (body state) world events (.inl state') world')
    (h' : env.Completes (.iterate state' body) world' events' value world'') :
    env.Completes (.iterate state body) world (events ++ events') value world'' :=
  fun γ f => (leads_pass h).trans (h' γ f)

theorem iterate_last (h : env.Completes (body state) world events (.inr value) world') :
    env.Completes (.iterate state body) world events value world' :=
  fun _ _ => leads_pass h

end Loops

end Completes

/-! ## Failing -/

/-- `program` fails with `error`, whatever was to follow it. -/
def Fails (env : Env Q A O W F) (program : Prog Q A O ε α) (world : W) (error : ε) : Prop :=
  ∀ (β : Type) (f : α → Prog Q A O ε β), ∃ events world',
    env.Leads (program >>= f) world events (.fail error) world'

section Fails

variable {program : Prog Q A O ε α} {next : α → Prog Q A O ε β} {world world' : W} {error : ε}
  {value : α} {events : List (Event Q A O)}

theorem fails_fail : env.Fails (.fail error : Prog Q A O ε α) world error :=
  fun _ _ => ⟨[], world, .refl (.fail error) world⟩

theorem Fails.bind (h : env.Fails program world error) (next : α → Prog Q A O ε β) :
    env.Fails (program >>= next) world error := by
  intro γ f
  rw [Prog.bind_assoc]
  exact h γ _

theorem Completes.fails_bind (h : env.Completes program world events value world')
    (h' : env.Fails (next value) world' error) : env.Fails (program >>= next) world error := by
  intro γ f
  obtain ⟨events', world'', hrest⟩ := h' γ f
  rw [Prog.bind_assoc]
  exact ⟨_, world'', (h γ _).trans hrest⟩

theorem Fails.leads (h : env.Fails program world error) :
    ∃ events world', env.Leads program world events (.fail error : Prog Q A O ε α) world' := by
  obtain ⟨events, world', hleads⟩ := h α .ret
  rw [Prog.bind_ret] at hleads
  exact ⟨events, world', hleads⟩

section Loops

variable [Inhabited F] {body : σ → Prog Q A O ε (σ ⊕ β)} {state state' : σ}

theorem Completes.iterate_fails (h : env.Completes (body state) world events (.inl state') world')
    (h' : env.Fails (.iterate state' body) world' error) :
    env.Fails (.iterate state body) world error := by
  intro γ f
  obtain ⟨events', world'', hrest⟩ := h' γ f
  exact ⟨_, world'', (leads_pass h).trans hrest⟩

theorem Fails.iterate (h : env.Fails (body state) world error) :
    env.Fails (.iterate state body) world error := by
  intro γ f
  obtain ⟨events, world', hpass⟩ := h γ (Prog.afterPass body f)
  exact ⟨_, world', (leads_into_pass body state f world).trans hpass⟩

end Loops

end Fails

end Env

end OpenRD.Foundation
