import OpenRD.Foundation.Schedules
import OpenRD.Session.Endings
import OpenRD.Session.Termination

/-!
# Sessions do not depend on their schedule

Fix what the client will open and what the transport and the encoder will answer to each
task.  The Control task, the handlers and the client's two streams of openings then are
independent parties: however their steps are interleaved, the session can still come to its
one end, and always does.
-/

namespace OpenRD.Session

open OpenRD.Foundation OpenRD.Proto OpenRD.Server Relation

/-! ## The parties of a session -/

structure Plan where
  /-- The streams the client opens, with their purposes and what they will carry. -/
  uni : List (UInt64 × RecvStream)
  bi : List (UInt64 × RecvStream)
  /-- The error of the Control task's next operation, if it fails, after what it has done. -/
  fault : List ControlEvent → Option String
  choice : ℕ → List HandlerEvent → HandlerChoice

inductive Party where
  | control
  | handler (index : ℕ)
  | uni
  | bi

def Plan.action (plan : Plan) (session : State) : Party → Option Action
  | .control => some (.control (plan.fault session.history))
  | .handler index =>
      session.world.handlers[index]?.map fun spawned =>
        .handler index (plan.choice index spawned.run.history)
  | .uni =>
      plan.uni[session.world.openedUni.length]?.map fun (purpose, recv) =>
        .openUni purpose recv
  | .bi =>
      plan.bi[session.world.openedBi.length]?.map fun (purpose, recv) =>
        .openBi purpose recv

def Plan.move (plan : Plan) (server : ServerConfig) (party : Party) (session : State) :
    Option State :=
  (plan.action session party).bind (step server session)

variable {plan : Plan} {server : ServerConfig} {control : RecvStream}
  {session next first second : State} {index : ℕ}

theorem Plan.move_control :
    plan.move server .control session =
      (controlEnv server).advance session (plan.fault session.history) := rfl

/-- What the parties other than the Control task can do to its world. -/
def World.gain (uni bi : List ClientStream) (steps : List Spawned → List Spawned)
    (world : World) : World :=
  { world with
    openedUni := world.openedUni ++ uni
    pendingUni := world.pendingUni ++ uni
    openedBi := world.openedBi ++ bi
    pendingBi := world.pendingBi ++ bi
    handlers := steps world.handlers }

theorem Plan.move_handler {spawned : Spawned} {run : HandlerRun}
    (hspawned : session.world.handlers[index]? = some spawned)
    (hrun : handlerEnv.advance spawned.run (plan.choice index spawned.run.history) = some run) :
    plan.move server (.handler index) session =
      some (session.changed (.gain [] [] (·.set index { spawned with run }))) := by
  have hworld := World.stepHandler_eq_some.mpr ⟨spawned, run, hspawned, hrun, rfl⟩
  simp only [Plan.move, Plan.action, hspawned, Option.map_some, Option.bind_some]
  refine step_handler_eq_some.mpr ⟨_, hworld, ?_⟩
  simp [Running.changed, World.gain]

theorem Plan.of_move_handler (h : plan.move server (.handler index) session = some next) :
    ∃ spawned run, session.world.handlers[index]? = some spawned ∧
      handlerEnv.advance spawned.run (plan.choice index spawned.run.history) = some run := by
  simp only [Plan.move, Plan.action, Option.bind_eq_some_iff, Option.map_eq_some_iff] at h
  obtain ⟨_, ⟨spawned, hspawned, rfl⟩, hstep⟩ := h
  obtain ⟨world, hworld, rfl⟩ := step_handler_eq_some.mp hstep
  obtain ⟨same, run, hsame, hrun, rfl⟩ := World.stepHandler_eq_some.mp hworld
  cases hspawned.symm.trans hsame
  exact ⟨spawned, run, hspawned, hrun⟩

theorem Plan.move_uni {purpose : UInt64} {recv : RecvStream} {opened : ℕ}
    (h : plan.uni[opened]? = some (purpose, recv))
    (hopened : session.world.openedUni.length = opened) :
    plan.move server .uni session =
      some (session.changed (.gain [⟨opened, purpose, recv⟩] [] id)) := by
  subst hopened
  simp [Plan.move, Plan.action, h, step, Running.changed, World.gain, World.openUni]

theorem Plan.of_move_uni (h : plan.move server .uni session = some next) :
    ∃ purpose recv, plan.uni[session.world.openedUni.length]? = some (purpose, recv) := by
  simp only [Plan.move, Plan.action, Option.bind_eq_some_iff, Option.map_eq_some_iff] at h
  obtain ⟨_, ⟨⟨purpose, recv⟩, hmore, rfl⟩, -⟩ := h
  exact ⟨purpose, recv, hmore⟩

theorem Plan.move_bi {purpose : UInt64} {recv : RecvStream} {opened : ℕ}
    (h : plan.bi[opened]? = some (purpose, recv))
    (hopened : session.world.openedBi.length = opened) :
    plan.move server .bi session =
      some (session.changed (.gain [] [⟨opened, purpose, recv⟩] id)) := by
  subst hopened
  simp [Plan.move, Plan.action, h, step, Running.changed, World.gain, World.openBi]

theorem Plan.of_move_bi (h : plan.move server .bi session = some next) :
    ∃ purpose recv, plan.bi[session.world.openedBi.length]? = some (purpose, recv) := by
  simp only [Plan.move, Plan.action, Option.bind_eq_some_iff, Option.map_eq_some_iff] at h
  obtain ⟨_, ⟨⟨purpose, recv⟩, hmore, rfl⟩, -⟩ := h
  exact ⟨purpose, recv, hmore⟩

/-! ## The Control task and the others -/

/-- What the Control task does goes the same if others have moved first. -/
theorem allows_gain {uni bi : List ClientStream} {steps : List Spawned → List Spawned}
    {openedUni openedBi : ℕ} {P : List Spawned → Prop}
    (hjoin : ∀ (handlers : List Spawned) (handle : ℕ), P handlers →
      (handlers[handle]?).any Spawned.finished →
      ((steps handlers)[handle]?).any Spawned.finished)
    (hspawn : ∀ handlers spawned, P handlers →
      P (handlers ++ [spawned]) ∧ steps (handlers ++ [spawned]) = steps handlers ++ [spawned]) :
    (controlEnv server).Allows
      (fun world => world.openedUni.length = openedUni ∧ world.openedBi.length = openedBi ∧
        P world.handlers) (.gain uni bi steps) := by
  refine ⟨fun {world world' question fault answer} hworld hanswer => ?_, fun output hworld => ?_⟩
  · cases question with
    | readFullFrame | readFullFrameOpt | writeFrame | openUni | writeUni =>
        cases hanswer
        exact ⟨hworld, rfl⟩
    | acceptUni =>
        cases fault with
        | some text =>
            cases hanswer
            exact ⟨hworld, rfl⟩
        | none =>
            -- the stream that is accepted was there before, so it is still the first
            cases hpending : world.pendingUni with
            | nil => simp [controlEnv, hpending] at hanswer
            | cons stream rest =>
                simp only [controlEnv, hpending, Option.some.injEq] at hanswer
                cases hanswer
                exact ⟨hworld, by simp [controlEnv, World.gain, hpending]⟩
    | acceptBi =>
        cases fault with
        | some text =>
            cases hanswer
            exact ⟨hworld, rfl⟩
        | none =>
            cases hpending : world.pendingBi with
            | nil => simp [controlEnv, hpending] at hanswer
            | cons stream rest =>
                simp only [controlEnv, hpending, Option.some.injEq] at hanswer
                cases hanswer
                exact ⟨hworld, by simp [controlEnv, World.gain, hpending]⟩
    | join handle =>
        simp only [controlEnv] at hanswer
        split at hanswer
        · next hfinished =>
            cases hanswer
            exact ⟨hworld, if_pos (hjoin _ _ hworld.2.2 hfinished)⟩
        · cases hanswer
  · cases output with
    | spawn task =>
        obtain ⟨huni, hbi, hhandlers⟩ := hworld
        obtain ⟨hkept, hsteps⟩ := hspawn _ (.start server task) hhandlers
        exact ⟨⟨huni, hbi, hkept⟩, by simp [controlEnv, World.gain, hsteps]⟩
    | _ => exact ⟨hworld, rfl⟩

theorem commutes_control {party : Party} (hparty : party ≠ .control) :
    Commutes (plan.move server) .control party := by
  intro session next other hnext hother
  rw [Plan.move_control] at hnext
  cases party with
  | control => exact absurd rfl hparty
  | handler index =>
      obtain ⟨spawned, run, hspawned, hrun⟩ := Plan.of_move_handler hother
      rw [Plan.move_handler hspawned hrun] at hother
      cases hother
      have hallows : (controlEnv server).Allows _
          (.gain [] [] (·.set index { spawned with run })) :=
        @allows_gain server [] [] _ session.world.openedUni.length
          session.world.openedBi.length (fun handlers => handlers[index]? = some spawned)
          ?_ ?_
      · obtain ⟨⟨-, -, hkept⟩, hcontrol⟩ := hallows.advance ⟨rfl, rfl, hspawned⟩ hnext
        exact ⟨_, Plan.move_handler hkept hrun, hcontrol⟩
      · intro handlers handle hhere hfinished
        have hother : index ≠ handle := by
          rintro rfl
          simp [hhere, unfinished_of_advance hrun] at hfinished
        rwa [List.getElem?_set_ne hother]
      · intro handlers more hhere
        have hlt := (List.getElem?_eq_some_iff.mp hhere).1
        refine ⟨?_, List.set_append_left _ _ hlt⟩
        rwa [List.getElem?_append_left hlt]
  | uni =>
      obtain ⟨purpose, recv, hmore⟩ := Plan.of_move_uni hother
      rw [Plan.move_uni hmore rfl] at hother
      cases hother
      have hallows := @allows_gain server
        [⟨session.world.openedUni.length, purpose, recv⟩] [] id session.world.openedUni.length
        session.world.openedBi.length (fun _ => True) (fun _ _ _ => id)
        (fun _ _ _ => ⟨trivial, rfl⟩)
      obtain ⟨⟨hopened, -⟩, hcontrol⟩ := hallows.advance ⟨rfl, rfl, trivial⟩ hnext
      exact ⟨_, Plan.move_uni hmore hopened, hcontrol⟩
  | bi =>
      obtain ⟨purpose, recv, hmore⟩ := Plan.of_move_bi hother
      rw [Plan.move_bi hmore rfl] at hother
      cases hother
      have hallows := @allows_gain server
        [] [⟨session.world.openedBi.length, purpose, recv⟩] id session.world.openedUni.length
        session.world.openedBi.length (fun _ => True) (fun _ _ _ => id)
        (fun _ _ _ => ⟨trivial, rfl⟩)
      obtain ⟨⟨-, hopened, -⟩, hcontrol⟩ := hallows.advance ⟨rfl, rfl, trivial⟩ hnext
      exact ⟨_, Plan.move_bi hmore hopened, hcontrol⟩

/-! ## The others among themselves -/

theorem commutes_handlers {i j : ℕ} (hij : i ≠ j) :
    Commutes (plan.move server) (.handler i) (.handler j) := by
  intro session first second hfirst hsecond
  obtain ⟨spawned, run, hspawned, hrun⟩ := Plan.of_move_handler hfirst
  obtain ⟨spawned', run', hspawned', hrun'⟩ := Plan.of_move_handler hsecond
  rw [Plan.move_handler hspawned hrun] at hfirst
  rw [Plan.move_handler hspawned' hrun'] at hsecond
  cases hfirst
  cases hsecond
  refine ⟨_, Plan.move_handler ((List.getElem?_set_ne hij).trans hspawned') hrun', ?_⟩
  rw [Plan.move_handler ((List.getElem?_set_ne hij.symm).trans hspawned) hrun]
  simp [Running.changed, World.gain, List.set_comm _ _ hij]

theorem commutes_handler_uni (i : ℕ) :
    Commutes (plan.move server) (.handler i) .uni := by
  intro session first second hfirst hsecond
  obtain ⟨spawned, run, hspawned, hrun⟩ := Plan.of_move_handler hfirst
  obtain ⟨purpose, recv, hmore⟩ := Plan.of_move_uni hsecond
  rw [Plan.move_handler hspawned hrun] at hfirst
  rw [Plan.move_uni hmore rfl] at hsecond
  cases hfirst
  cases hsecond
  refine ⟨_, Plan.move_uni hmore (by simp [Running.changed, World.gain]),
    (Plan.move_handler (by exact hspawned) hrun).trans ?_⟩
  simp [Running.changed, World.gain]

theorem commutes_handler_bi (i : ℕ) :
    Commutes (plan.move server) (.handler i) .bi := by
  intro session first second hfirst hsecond
  obtain ⟨spawned, run, hspawned, hrun⟩ := Plan.of_move_handler hfirst
  obtain ⟨purpose, recv, hmore⟩ := Plan.of_move_bi hsecond
  rw [Plan.move_handler hspawned hrun] at hfirst
  rw [Plan.move_bi hmore rfl] at hsecond
  cases hfirst
  cases hsecond
  refine ⟨_, Plan.move_bi hmore (by simp [Running.changed, World.gain]),
    (Plan.move_handler (by exact hspawned) hrun).trans ?_⟩
  simp [Running.changed, World.gain]

theorem commutes_uni_bi : Commutes (plan.move server) .uni .bi := by
  intro session first second hfirst hsecond
  obtain ⟨purpose, recv, hmore⟩ := Plan.of_move_uni hfirst
  obtain ⟨purpose', recv', hmore'⟩ := Plan.of_move_bi hsecond
  rw [Plan.move_uni hmore rfl] at hfirst
  rw [Plan.move_bi hmore' rfl] at hsecond
  cases hfirst
  cases hsecond
  refine ⟨_, Plan.move_bi hmore' (by simp [Running.changed, World.gain]), ?_⟩
  rw [Plan.move_uni hmore (by simp [Running.changed, World.gain])]
  simp [Running.changed, World.gain]

theorem orderless (plan : Plan) (server : ServerConfig) : Orderless (plan.move server) := by
  intro i j hij
  cases i with
  | control => exact commutes_control hij.symm
  | handler i =>
      cases j with
      | control => exact (commutes_control hij).symm
      | handler j => exact commutes_handlers fun h => hij (congrArg _ h)
      | uni => exact commutes_handler_uni i
      | bi => exact commutes_handler_bi i
  | uni =>
      cases j with
      | control => exact (commutes_control hij).symm
      | handler j => exact (commutes_handler_uni j).symm
      | uni => exact absurd rfl hij
      | bi => exact commutes_uni_bi
  | bi =>
      cases j with
      | control => exact (commutes_control hij).symm
      | handler j => exact (commutes_handler_bi j).symm
      | uni => exact commutes_uni_bi.symm
      | bi => exact absurd rfl hij

/-! ## Their one end -/

theorem reachable_of_moves (h : Reachable server control session)
    (hmoves : Moves (plan.move server) session next) : Reachable server control next := by
  obtain ⟨party, hmove⟩ := hmoves
  obtain ⟨action, -, hstep⟩ := Option.bind_eq_some_iff.mp hmove
  exact h.step action hstep

/-- The streams that the client has yet to open. -/
def Plan.left (plan : Plan) (session : State) : ℕ :=
  (plan.uni.length - session.world.openedUni.length) +
    (plan.bi.length - session.world.openedBi.length)

theorem Plan.left_control {fault : Option String}
    (h : (controlEnv server).advance session fault = some next) :
    plan.left next = plan.left session := by
  have hallows := @allows_gain server [] [] id session.world.openedUni.length
    session.world.openedBi.length (fun _ => True) (fun _ _ _ => id) (fun _ _ _ => ⟨trivial, rfl⟩)
  obtain ⟨⟨huni, hbi, -⟩, -⟩ := hallows.advance ⟨rfl, rfl, trivial⟩ h
  rw [Plan.left, Plan.left, huni, hbi]

theorem Plan.taskStep_or_less (h : Moves (plan.move server) session next) :
    TaskStep server next session ∧ plan.left next = plan.left session ∨
      plan.left next < plan.left session := by
  obtain ⟨party, hmove⟩ := h
  cases party with
  | control => exact .inl ⟨⟨.control (plan.fault session.history), trivial, hmove⟩,
        Plan.left_control hmove⟩
  | handler index =>
      obtain ⟨action, haction, hstep⟩ := Option.bind_eq_some_iff.mp hmove
      obtain ⟨spawned, hspawned, rfl⟩ := Option.map_eq_some_iff.mp haction
      obtain ⟨world, hworld, rfl⟩ := step_handler_eq_some.mp hstep
      refine .inl ⟨⟨.handler index _, trivial, hstep⟩, ?_⟩
      obtain ⟨_, _, -, -, rfl⟩ := World.stepHandler_eq_some.mp hworld
      rfl
  | uni =>
      obtain ⟨purpose, recv, hmore⟩ := Plan.of_move_uni hmove
      cases (Plan.move_uni hmore rfl).symm.trans hmove
      have hlt := (List.getElem?_eq_some_iff.mp hmore).1
      refine .inr ?_
      simp only [Plan.left, Running.changed, World.gain, List.length_append, List.length_cons,
        List.length_nil]
      omega
  | bi =>
      obtain ⟨purpose, recv, hmore⟩ := Plan.of_move_bi hmove
      cases (Plan.move_bi hmore rfl).symm.trans hmove
      have hlt := (List.getElem?_eq_some_iff.mp hmore).1
      refine .inr ?_
      simp only [Plan.left, Running.changed, World.gain, List.length_append, List.length_cons,
        List.length_nil]
      omega

theorem acc_moves (plan : Plan) (h : Reachable server control session) :
    Acc (fun next session => Moves (plan.move server) session next) session := by
  -- induction on the streams left to open, and within it on the tasks' steps
  induction hleft : plan.left session using Nat.strong_induction_on generalizing session with
  | _ left ihLeft =>
    induction acc_taskStep h with
    | intro session _ ih =>
      refine .intro _ fun next hmoves => ?_
      have hnext := reachable_of_moves h hmoves
      rcases Plan.taskStep_or_less hmoves with ⟨htask, hsame⟩ | hless
      · exact ih next htask hnext (hsame.trans hleft)
      · exact ihLeft _ (hleft ▸ hless) hnext rfl

/--
Whatever the order in which the Control task, the handlers and the client move, a session
comes to an end, and all orders come to the same.
-/
theorem schedules_agree (server : ServerConfig) (control : RecvStream) (plan : Plan) :
    Acc (fun next session => Moves (plan.move server) session next) (start server control) ∧
      ∃ final, EndOf (plan.move server) (start server control) final := by
  have hacc := acc_moves plan (⟨[], rfl⟩ : Reachable server control (start server control))
  exact ⟨hacc, (orderless plan server).one_end hacc⟩

end OpenRD.Session
