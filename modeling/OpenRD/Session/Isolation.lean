import OpenRD.Session.Rest
import OpenRD.Session.Schedules

/-!
# A handler is on its own

How the stream of one handler fares, and what its encoder makes of its frames, changes
nothing for the Control task and the other handlers: the two sessions end alike but for what
that handler did.
-/

namespace OpenRD.Session

open OpenRD.Foundation OpenRD.Proto OpenRD.Server Relation

variable {plan : Plan} {server : ServerConfig} {control : RecvStream}
  {session session' next : State} {index : ℕ} {spawned other : Spawned}
  {choice : List HandlerEvent → HandlerChoice}

/-- The same plan, with another fate for one handler. -/
def Plan.refated (plan : Plan) (index : ℕ) (choice : List HandlerEvent → HandlerChoice) : Plan :=
  { plan with choice := Function.update plan.choice index choice }

def State.withHandler (session : State) (index : ℕ) (handler : Spawned) : State :=
  session.changed (.gain [] [] (·.set index handler))

/-- The two are the same, except that the handler, if it is there, is elsewhere in its program. -/
inductive SameBut (index : ℕ) (session : State) : State → Prop where
  | absent (absent : session.world.handlers.length ≤ index) : SameBut index session session
  | present (spawned other : Spawned) (present : session.world.handlers[index]? = some spawned)
      (task : other.task = spawned.task) : SameBut index session (session.withHandler index other)

theorem Plan.refated_back (plan : Plan) (index : ℕ)
    (choice : List HandlerEvent → HandlerChoice) :
    (plan.refated index choice).refated index (plan.choice index) = plan := by
  simp [refated]

theorem withHandler_self (h : session.world.handlers[index]? = some spawned) :
    session.withHandler index spawned = session := by
  obtain ⟨hlt, rfl⟩ := List.getElem?_eq_some_iff.mp h
  simp [State.withHandler, Running.changed, World.gain]

theorem withHandler_withHandler :
    (session.withHandler index spawned).withHandler index other =
      session.withHandler index other := by
  simp [State.withHandler, Running.changed, World.gain]

theorem handler_withHandler (h : session.world.handlers[index]? = some spawned) :
    (session.withHandler index other).world.handlers[index]? = some other := by
  have hlt := (List.getElem?_eq_some_iff.mp h).1
  simp [State.withHandler, Running.changed, World.gain, hlt]

/-! ## The other parties -/

/-- Where the handler is further on, the other parties can do what they did. -/
theorem move_withHandler {party : Party} (hparty : party ≠ .handler index)
    (hspawned : session.world.handlers[index]? = some spawned)
    (hfinished : spawned.finished → other.finished)
    (hmove : plan.move server party session = some next) :
    (plan.refated index choice).move server party (session.withHandler index other) =
        some (next.withHandler index other) ∧
      next.world.handlers[index]? = some spawned := by
  cases party with
  | control =>
      have hallows : (controlEnv server).Allows _ (.gain [] [] (·.set index other)) :=
        @allows_gain server [] [] _ session.world.openedUni.length
          session.world.openedBi.length (fun handlers => handlers[index]? = some spawned)
          ?_ ?_
      · obtain ⟨⟨-, -, hkept⟩, hcontrol⟩ := hallows.advance ⟨rfl, rfl, hspawned⟩ hmove
        exact ⟨hcontrol, hkept⟩
      · intro handlers handle hhere hjoined
        by_cases hsame : index = handle
        · subst hsame
          have hlt := (List.getElem?_eq_some_iff.mp hhere).1
          rw [hhere] at hjoined
          simpa [hlt] using hfinished hjoined
        · rwa [List.getElem?_set_ne hsame]
      · intro handlers more hhere
        have hlt := (List.getElem?_eq_some_iff.mp hhere).1
        refine ⟨?_, List.set_append_left _ _ hlt⟩
        rwa [List.getElem?_append_left hlt]
  | handler number =>
      have hne : index ≠ number := fun h => hparty (h ▸ rfl)
      obtain ⟨stepping, run, hstepping, hrun⟩ := Plan.of_move_handler hmove
      cases (Plan.move_handler hstepping hrun).symm.trans hmove
      refine ⟨?_, (List.getElem?_set_ne hne.symm).trans hspawned⟩
      have hhere : (session.withHandler index other).world.handlers[number]? = some stepping :=
        (List.getElem?_set_ne hne).trans hstepping
      have hfate : (plan.refated index choice).choice number = plan.choice number :=
        Function.update_of_ne hne.symm _ _
      rw [← hfate] at hrun
      refine (Plan.move_handler hhere hrun).trans ?_
      simp [State.withHandler, Running.changed, World.gain, List.set_comm _ _ hne]
  | uni =>
      obtain ⟨purpose, recv, hmore⟩ := Plan.of_move_uni hmove
      cases (Plan.move_uni hmore rfl).symm.trans hmove
      have hopened : (session.withHandler index other).world.openedUni.length =
          session.world.openedUni.length := by
        simp [State.withHandler, Running.changed, World.gain]
      refine ⟨?_, hspawned⟩
      have hopens := @Plan.move_uni (plan.refated index choice) server _ purpose recv _ hmore
        hopened
      refine hopens.trans ?_
      simp [State.withHandler, Running.changed, World.gain]
  | bi =>
      obtain ⟨purpose, recv, hmore⟩ := Plan.of_move_bi hmove
      cases (Plan.move_bi hmore rfl).symm.trans hmove
      have hopened : (session.withHandler index other).world.openedBi.length =
          session.world.openedBi.length := by
        simp [State.withHandler, Running.changed, World.gain]
      refine ⟨?_, hspawned⟩
      have hopens := @Plan.move_bi (plan.refated index choice) server _ purpose recv _ hmore
        hopened
      refine hopens.trans ?_
      simp [State.withHandler, Running.changed, World.gain]

theorem move_refated {party : Party} (hparty : party ≠ .handler index) :
    (plan.refated index choice).move server party session = plan.move server party session := by
  cases party with
  | handler number =>
      have hne : number ≠ index := fun h => hparty (h ▸ rfl)
      simp [Plan.move, Plan.action, Plan.refated, hne]
  | control | uni | bi => rfl

/-! ## The handler itself -/

/-- A handler can always be run to its end while all others stand still. -/
theorem exists_drained (h : Reachable server control session)
    (hspawned : session.world.handlers[index]? = some spawned) :
    ∃ drained : Spawned, drained.task = spawned.task ∧ drained.finished ∧
      ReflTransGen (Moves (plan.move server)) session (session.withHandler index drained) := by
  induction acc_moves plan h generalizing spawned with
  | intro session _ ih =>
    cases hrun : handlerEnv.advance spawned.run (plan.choice index spawned.run.history) with
    | none =>
        refine ⟨spawned, rfl, finished_of_stuck hrun, ?_⟩
        rw [withHandler_self hspawned]
    | some run =>
        have hmoves : Moves (plan.move server) session
            (session.withHandler index { spawned with run }) :=
          ⟨.handler index, Plan.move_handler hspawned hrun⟩
        obtain ⟨drained, htask, hfinished, hleads⟩ :=
          ih _ hmoves (reachable_of_moves h hmoves) (handler_withHandler hspawned)
        rw [withHandler_withHandler] at hleads
        exact ⟨drained, htask, hfinished, .head hmoves hleads⟩

/-! ## Two sessions side by side -/

/-- The session but for the handler, which is over if it is there. -/
structure Shadows (index : ℕ) (session session' : State) : Prop where
  same : SameBut index session session'
  ended : ∀ spawned ∈ session'.world.handlers[index]?, spawned.finished

theorem Shadows.present {drained : Spawned}
    (hspawned : session.world.handlers[index]? = some spawned)
    (htask : drained.task = spawned.task) (hfinished : drained.finished) :
    Shadows index session (session.withHandler index drained) := by
  refine ⟨.present spawned drained hspawned htask, fun handler hmem => ?_⟩
  cases (handler_withHandler hspawned).symm.trans hmem
  exact hfinished

theorem Shadows.absent (h : session.world.handlers.length ≤ index) :
    Shadows index session session := by
  refine ⟨.absent h, fun handler hmem => ?_⟩
  rw [List.getElem?_eq_none h] at hmem
  cases hmem

theorem Shadows.moves (h : Shadows index session session')
    (hreachable : Reachable server control session)
    (hmoves : Moves (plan.move server) session next) :
    ∃ next', ReflTransGen (Moves ((plan.refated index choice).move server)) session' next' ∧
      Shadows index next next' := by
  have hnext := reachable_of_moves hreachable hmoves
  obtain ⟨party, hmove⟩ := hmoves
  obtain ⟨hsame, hended⟩ := h
  by_cases hparty : party = .handler index
  · -- the handler goes on, and its shadow is where it will end
    subst hparty
    obtain ⟨stepping, run, hstepping, hrun⟩ := Plan.of_move_handler hmove
    cases (Plan.move_handler hstepping hrun).symm.trans hmove
    refine ⟨session', .refl, ?_⟩
    cases hsame with
    | absent habsent => exact absurd (List.getElem?_eq_some_iff.mp hstepping).1 habsent.not_gt
    | present spawned other hspawned htask =>
        cases hspawned.symm.trans hstepping
        have hstepped := @withHandler_withHandler session index ⟨stepping.task, run⟩ other
        rw [← hstepped]
        exact .present (handler_withHandler hspawned) htask
          (hended other (handler_withHandler hspawned))
  · cases hsame with
    | present spawned other hspawned htask =>
        have hfinished := hended other (handler_withHandler hspawned)
        obtain ⟨hmove', hkept⟩ := @move_withHandler plan server session next index spawned other
          choice party hparty hspawned (fun _ => hfinished) hmove
        exact ⟨_, .single ⟨party, hmove'⟩, .present hkept htask hfinished⟩
    | absent habsent =>
        have hmoves' : Moves ((plan.refated index choice).move server) session next :=
          ⟨party, (move_refated hparty).trans hmove⟩
        cases hspawned : next.world.handlers[index]? with
        | none =>
            exact ⟨next, .single hmoves', .absent (List.getElem?_eq_none_iff.mp hspawned)⟩
        | some spawned =>
            -- the handler has just been spawned
            obtain ⟨drained, htask, hfinished, hleads⟩ := exists_drained hnext hspawned
            exact ⟨_, .head hmoves' hleads, .present hspawned htask hfinished⟩

theorem Shadows.start (server : ServerConfig) (control : RecvStream) (index : ℕ) :
    Shadows index (start server control) (start server control) :=
  .absent (Nat.zero_le _)

theorem Shadows.run
    (hmoves : ReflTransGen (Moves (plan.move server)) (Session.start server control) session) :
    Reachable server control session ∧ ∃ session',
      ReflTransGen (Moves ((plan.refated index choice).move server))
        (Session.start server control) session' ∧
      Shadows index session session' := by
  induction hmoves with
  | refl => exact ⟨⟨[], rfl⟩, _, .refl, .start server control index⟩
  | tail _ hmoves ih =>
      obtain ⟨hreachable, session', hleads, hshadows⟩ := ih
      obtain ⟨next', hmore, hshadows⟩ := hshadows.moves hreachable hmoves
      exact ⟨reachable_of_moves hreachable hmoves, next', hleads.trans hmore, hshadows⟩

theorem finished_of_done (h : Done (plan.move server) session)
    (hspawned : session.world.handlers[index]? = some spawned) : spawned.finished := by
  cases hrun : handlerEnv.advance spawned.run (plan.choice index spawned.run.history) with
  | none => exact finished_of_stuck hrun
  | some run =>
      have hmove := h (.handler index)
      rw [Plan.move_handler hspawned hrun] at hmove
      cases hmove

theorem Shadows.done (h : Shadows index session session')
    (hdone : Done (plan.move server) session) :
    Done ((plan.refated index choice).move server) session' := by
  intro party
  cases hmove : (plan.refated index choice).move server party session' with
  | none => rfl
  | some next =>
      obtain ⟨hsame, hended⟩ := h
      by_cases hparty : party = .handler index
      · subst hparty
        obtain ⟨stepping, run, hstepping, hrun⟩ := Plan.of_move_handler hmove
        have hfinished := hended stepping hstepping
        rw [unfinished_of_advance hrun] at hfinished
        cases hfinished
      · cases hsame with
        | absent habsent =>
            have hmove := (move_refated hparty).symm.trans hmove
            cases (hdone party).symm.trans hmove
        | present spawned other hspawned htask =>
            -- the other way round, `session` is the one with another handler
            have hback := (@move_withHandler (plan.refated index choice) server _ next index
              other spawned (plan.choice index) party hparty (handler_withHandler hspawned)
              (fun _ => finished_of_done hdone hspawned) hmove).1
            rw [Plan.refated_back, withHandler_withHandler, withHandler_self hspawned] at hback
            cases (hdone party).symm.trans hback

/--
Give a handler another fate, and the session still ends with the same Control task, the same
streams and the same handlers but this one.
-/
theorem handler_isolated (server : ServerConfig) (control : RecvStream) (plan : Plan)
    (index : ℕ) (choice : List HandlerEvent → HandlerChoice) :
    ∃ final final', EndOf (plan.move server) (start server control) final ∧
      EndOf ((plan.refated index choice).move server) (start server control) final' ∧
      SameBut index final final' := by
  have hacc := acc_moves plan (⟨[], rfl⟩ : Reachable server control (start server control))
  obtain ⟨final, hdone, hleads⟩ := exists_done hacc
  obtain ⟨-, final', hleads', hshadows⟩ :=
    @Shadows.run plan server control final index choice hleads
  exact ⟨final, final', (orderless plan server).endOf hdone hleads,
    (orderless _ server).endOf (hshadows.done hdone) hleads', hshadows.same⟩

end OpenRD.Session
