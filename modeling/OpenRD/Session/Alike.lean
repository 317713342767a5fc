import OpenRD.Foundation.Reference
import OpenRD.Server.Alike
import OpenRD.Session.Progress
import OpenRD.Session.Starts

/-!
# Sessions side by side

Two sessions whose streams are read alike, taken through the same schedule, stay side by
side.  So the cuts of a transport never show in what a session does, and the two builds of
the server do the same until an addition overflows.
-/

namespace OpenRD.Session

open OpenRD.Foundation OpenRD.Proto OpenRD.Server

variable {same : RecvStream → RecvStream → Prop} {server : ServerConfig} {checks : Bool}

inductive Action.Alike (same : RecvStream → RecvStream → Prop) : Action → Action → Prop where
  | control (fault : Option String) : Action.Alike same (.control fault) (.control fault)
  | handler (index : Nat) (choice : HandlerChoice) :
      Action.Alike same (.handler index choice) (.handler index choice)
  | openUni (purpose : UInt64) {recv recv' : RecvStream} (h : same recv recv') :
      Action.Alike same (.openUni purpose recv) (.openUni purpose recv')
  | openBi (purpose : UInt64) {recv recv' : RecvStream} (h : same recv recv') :
      Action.Alike same (.openBi purpose recv) (.openBi purpose recv')

theorem Action.Alike.refl (h : ReadAlike same) (action : Action) : action.Alike same action := by
  cases action with
  | control fault => exact .control fault
  | handler index choice => exact .handler index choice
  | openUni purpose recv => exact .openUni purpose (h.refl recv)
  | openBi purpose recv => exact .openBi purpose (h.refl recv)

/-! ## Handlers -/

structure Spawned.Beside (same : RecvStream → RecvStream → Prop) (server : ServerConfig)
    (checks : Bool) (spawned spawned' : Spawned) : Prop where
  task : spawned.task.Alike same spawned'.task
  run : spawned.run.Beside (handlerLike server checks)
    (fun world world' => same world.recv world'.recv) Eq spawned'.run

theorem handlerEnv_likens (h : ReadAlike same) :
    handlerEnv.Likens (handlerLike server checks)
      (fun world world' => same world.recv world'.recv) handlerEnv where
  answer := by
    intro world next world' question choice answer hworld hanswer
    cases question with
    | readFullFrameOpt =>
        obtain ⟨hread, hrest⟩ := h.readFullFrameOpt hworld
        cases hanswer
        exact ⟨_, _, rfl, hread, hrest⟩
    | _ =>
        cases hanswer
        exact ⟨_, _, rfl, rfl, hworld⟩
  perform hworld _ := hworld

theorem taskRecv_alike (h : ReadAlike same) {task task' : Task} (htask : task.Alike same task') :
    same (taskRecv task) (taskRecv task') := by
  cases htask with
  | display | cursor => exact h.refl _
  | input hstream | clipboard hstream | chat hstream | file hstream => exact hstream.recv

theorem start_history (server : ServerConfig) (task : Task) :
    (Spawned.start server task).run.history = [] := by
  cases task <;> rfl

theorem Spawned.Beside.start (h : ReadAlike same) (hchecks : checks → server.overflowChecks)
    {task task' : Task} (htask : task.Alike same task') :
    (Spawned.start server task).Beside same server checks
      (.start (server.built checks) task') := by
  refine ⟨htask, (handlerEnv_likens h).settle (htask.program hchecks) .nil
    (taskRecv_alike h htask) ?_⟩
  change (handlerLike server checks).Quiet (Spawned.start server task).run.history
  rw [start_history]
  exact nofun

theorem Spawned.Beside.finished {spawned spawned' : Spawned}
    (h : spawned.Beside same server checks spawned') : spawned'.finished = spawned.finished := by
  have hfinished (spawned : Spawned) : spawned.finished = spawned.run.outcome.isSome := by
    cases hprogram : spawned.run.program <;> simp [Spawned.finished, Running.outcome, hprogram]
  rw [hfinished, hfinished, h.run.outcome]

/-! ## Worlds -/

structure World.Beside (same : RecvStream → RecvStream → Prop) (server : ServerConfig)
    (checks : Bool) (world world' : World) : Prop where
  control : same world.control world'.control
  openedUni : List.Forall₂ (ClientStream.Alike same) world.openedUni world'.openedUni
  pendingUni : List.Forall₂ (ClientStream.Alike same) world.pendingUni world'.pendingUni
  openedBi : List.Forall₂ (ClientStream.Alike same) world.openedBi world'.openedBi
  pendingBi : List.Forall₂ (ClientStream.Alike same) world.pendingBi world'.pendingBi
  serverStreams : world'.serverStreams = world.serverStreams
  handlers : List.Forall₂ (Spawned.Beside same server checks) world.handlers world'.handlers

theorem World.Beside.joinable {world world' : World} (h : world.Beside same server checks world')
    (handle : ℕ) :
    (world'.handlers[handle]?).any Spawned.finished =
      (world.handlers[handle]?).any Spawned.finished := by
  have hhandler := getElem?_forall₂ h.handlers handle
  generalize world.handlers[handle]? = left at hhandler ⊢
  generalize world'.handlers[handle]? = right at hhandler ⊢
  cases hhandler with
  | none => rfl
  | some hbeside => exact hbeside.finished

theorem controlEnv_likens (h : ReadAlike same) (hchecks : checks → server.overflowChecks) :
    (controlEnv server).Likens (controlLike same) (World.Beside same server checks)
      (controlEnv (server.built checks)) where
  answer := by
    intro world next world' question fault answer hworld hanswer
    cases question with
    | readFullFrame =>
        obtain ⟨hread, hrest⟩ := h.readFullFrame hworld.control
        cases hanswer
        exact ⟨_, _, rfl, hread, { hworld with control := hrest }⟩
    | readFullFrameOpt =>
        obtain ⟨hread, hrest⟩ := h.readFullFrameOpt hworld.control
        cases hanswer
        exact ⟨_, _, rfl, hread, { hworld with control := hrest }⟩
    | writeFrame | writeUni =>
        cases hanswer
        exact ⟨_, _, rfl, rfl, hworld⟩
    | openUni =>
        cases hanswer
        refine ⟨_, _, rfl, ?_, { hworld with serverStreams := ?_ }⟩
        · rw [hworld.serverStreams]
          rfl
        · rw [hworld.serverStreams]
    | acceptUni =>
        have hpending := hworld.pendingUni
        simp only [controlEnv] at hanswer ⊢
        split at hanswer
        · cases hanswer
          exact ⟨_, _, rfl, .error _, hworld⟩
        · next stream pendingUni hleft =>
            cases hanswer
            rw [hleft] at hpending
            obtain ⟨stream', pendingUni', hstream, hrest, hright⟩ :=
              List.forall₂_cons_left_iff.mp hpending
            rw [hright]
            exact ⟨_, _, rfl, .ok hstream, { hworld with pendingUni := hrest }⟩
        · cases hanswer
    | acceptBi =>
        have hpending := hworld.pendingBi
        simp only [controlEnv] at hanswer ⊢
        split at hanswer
        · cases hanswer
          exact ⟨_, _, rfl, .error _, hworld⟩
        · next stream pendingBi hleft =>
            cases hanswer
            rw [hleft] at hpending
            obtain ⟨stream', pendingBi', hstream, hrest, hright⟩ :=
              List.forall₂_cons_left_iff.mp hpending
            rw [hright]
            exact ⟨_, _, rfl, .ok hstream, { hworld with pendingBi := hrest }⟩
        · cases hanswer
    | join handle =>
        simp only [controlEnv, hworld.joinable] at hanswer ⊢
        split at hanswer
        · next hjoin =>
            cases hanswer
            exact ⟨(), world', if_pos hjoin, rfl, hworld⟩
        · cases hanswer
  perform := by
    intro world world' output output' hworld houtput
    cases houtput with
    | logNegotiation | panicking => exact hworld
    | spawn htask =>
        exact { hworld with
          handlers := List.rel_append hworld.handlers (.cons (.start h hchecks htask) .nil) }

theorem World.Beside.stepHandler (h : ReadAlike same) {world world' next : World} {index : ℕ}
    {choice : HandlerChoice} (hbeside : world.Beside same server checks world')
    (hstep : world.stepHandler index choice = some next)
    (hquiet : ∀ spawned ∈ next.handlers, (handlerLike server checks).Quiet spawned.run.history) :
    ∃ next', world'.stepHandler index choice = some next' ∧
      next.Beside same server checks next' := by
  obtain ⟨spawned, run, hspawned, hrun, rfl⟩ := World.stepHandler_eq_some.mp hstep
  have hhandler := getElem?_forall₂ hbeside.handlers index
  rw [hspawned] at hhandler
  generalize hspawned' : world'.handlers[index]? = handler' at hhandler
  cases hhandler with
  | @some _ spawned' hsame =>
      have hlt := (List.getElem?_eq_some_iff.mp hspawned).1
      obtain ⟨run', hrun', hsame'⟩ := (handlerEnv_likens h).advance hsame.run hrun
        (hquiet { spawned with run } (List.mem_set hlt _))
      have hstepped : Spawned.Beside same server checks { spawned with run }
          { spawned' with run := run' } := ⟨hsame.task, hsame'⟩
      refine ⟨_, World.stepHandler_eq_some.mpr ⟨_, run', hspawned', hrun', rfl⟩, ?_⟩
      exact { hbeside with handlers := forall₂_set hbeside.handlers hstepped index }

theorem World.Beside.openUni {world world' : World} (h : world.Beside same server checks world')
    (purpose : UInt64) {recv recv' : RecvStream} (hrecv : same recv recv') :
    (world.openUni purpose recv).Beside same server checks (world'.openUni purpose recv') := by
  have hstream : ClientStream.Alike same ⟨world.openedUni.length, purpose, recv⟩
      ⟨world'.openedUni.length, purpose, recv'⟩ := ⟨h.openedUni.length_eq.symm, rfl, hrecv⟩
  exact { h with
    openedUni := List.rel_append h.openedUni (.cons hstream .nil)
    pendingUni := List.rel_append h.pendingUni (.cons hstream .nil) }

theorem World.Beside.openBi {world world' : World} (h : world.Beside same server checks world')
    (purpose : UInt64) {recv recv' : RecvStream} (hrecv : same recv recv') :
    (world.openBi purpose recv).Beside same server checks (world'.openBi purpose recv') := by
  have hstream : ClientStream.Alike same ⟨world.openedBi.length, purpose, recv⟩
      ⟨world'.openedBi.length, purpose, recv'⟩ := ⟨h.openedBi.length_eq.symm, rfl, hrecv⟩
  exact { h with
    openedBi := List.rel_append h.openedBi (.cons hstream .nil)
    pendingBi := List.rel_append h.pendingBi (.cons hstream .nil) }

/-! ## Runs -/

theorem exists_later {session next : State} {action : Action}
    (hstep : step server session action = some next) {spawned : Spawned}
    (hspawned : spawned ∈ session.world.handlers) :
    ∃ later ∈ next.world.handlers, spawned.run.history <+: later.run.history := by
  obtain ⟨index, hindex⟩ := List.getElem?_of_mem hspawned
  obtain ⟨later, hlater, -, hhistory⟩ := grown_step hstep index spawned hindex
  exact ⟨later, List.mem_of_getElem? hlater, hhistory⟩

def State.Beside (same : RecvStream → RecvStream → Prop) (server : ServerConfig) (checks : Bool) :
    State → State → Prop :=
  Running.Beside (controlLike same) (World.Beside same server checks) Eq

/-- No handler has met an overflow that the second build does not check. -/
def State.Quiet (server : ServerConfig) (checks : Bool) (session : State) : Prop :=
  ∀ spawned ∈ session.world.handlers, (handlerLike server checks).Quiet spawned.run.history

theorem State.Quiet.of_step {session next : State} {action : Action}
    (hstep : step server session action = some next) (h : next.Quiet server checks) :
    session.Quiet server checks := by
  intro spawned hspawned
  obtain ⟨later, hlater, hinitial⟩ := exists_later hstep hspawned
  exact (h later hlater).earlier hinitial

theorem World.Beside.start {control control' : RecvStream}
    (hcontrol : same control control') :
    (World.start control).Beside same server checks (.start control') :=
  ⟨hcontrol, .nil, .nil, .nil, .nil, rfl, .nil⟩

theorem State.Beside.start (h : ReadAlike same) (hchecks : checks → server.overflowChecks)
    {control control' : RecvStream} (hcontrol : same control control') :
    (start server control).Beside same server checks (start (server.built checks) control') :=
  (controlEnv_likens h hchecks).settle (alike_handleControlStream server) .nil
    (.start hcontrol) fun _ _ => id

theorem State.Beside.step (h : ReadAlike same) (hchecks : checks → server.overflowChecks)
    {session session' next : State} {action action' : Action}
    (hbeside : session.Beside same server checks session') (haction : action.Alike same action')
    (hstep : step server session action = some next) (hquiet : next.Quiet server checks) :
    ∃ next', Session.step (server.built checks) session' action' = some next' ∧
      next.Beside same server checks next' := by
  cases haction with
  | control fault =>
      exact (controlEnv_likens h hchecks).advance hbeside hstep fun _ _ => id
  | handler index choice =>
      obtain ⟨world, hworld, rfl⟩ := step_handler_eq_some.mp hstep
      obtain ⟨world', hworld', hafter⟩ := hbeside.world.stepHandler h hworld hquiet
      exact ⟨_, step_handler_eq_some.mpr ⟨world', hworld', rfl⟩, { hbeside with world := hafter }⟩
  | openUni purpose hrecv =>
      cases hstep
      exact ⟨_, rfl, { hbeside with world := hbeside.world.openUni purpose hrecv }⟩
  | openBi purpose hrecv =>
      cases hstep
      exact ⟨_, rfl, { hbeside with world := hbeside.world.openBi purpose hrecv }⟩

theorem State.Beside.run (h : ReadAlike same) (hchecks : checks → server.overflowChecks)
    {actions actions' : List Action} (hactions : List.Forall₂ (Action.Alike same) actions actions')
    {session session' final : State} (hbeside : session.Beside same server checks session')
    (hrun : actions.foldlM (Session.step server) session = some final)
    (hquiet : final.Quiet server checks) :
    ∃ final', actions'.foldlM (Session.step (server.built checks)) session' = some final' ∧
      final.Beside same server checks final' :=
  follows_run (fun _ _ _ hstep hquiet => hquiet.of_step hstep)
    (fun _ _ _ _ _ hbeside haction hstep => hbeside.step h hchecks haction hstep) hactions hbeside
    hrun hquiet

/-! ## What cannot be seen -/

/-- What a handler has done, and how it ended. -/
def Spawned.course (spawned : Spawned) : List HandlerEvent × Option (Except Error Unit) :=
  (spawned.run.history, spawned.run.outcome)

theorem events_eq {history history' : List HandlerEvent}
    (h : List.Forall₂ (handlerLike server checks).Events history history') :
    history' = history := by
  induction h with
  | nil => rfl
  | cons hevent _ ih =>
      rw [ih]
      cases hevent with
      | asked h | told h =>
          cases h
          rfl

theorem State.Beside.courses {session session' : State}
    (h : session.Beside same server checks session') :
    session'.world.handlers.map Spawned.course = session.world.handlers.map Spawned.course := by
  have hhandlers := h.world.handlers
  generalize session.world.handlers = handlers at hhandlers ⊢
  generalize session'.world.handlers = handlers' at hhandlers ⊢
  induction hhandlers with
  | nil => rfl
  | cons hspawned _ ih =>
      rw [List.map_cons, List.map_cons, ih, Spawned.course, Spawned.course,
        events_eq hspawned.run.history, hspawned.run.outcome]

theorem quiet_built (session : State) : session.Quiet server server.overflowChecks :=
  fun _ _ _ _ hquits => hquits.1 rfl

/--
However the transport cuts the streams of a client, the same schedule takes the server
through the same session: the questions and the writes, and what each handler does, agree.
-/
theorem cuts_invisible {control control' : RecvStream} {actions actions' : List Action}
    {session : State} (hcontrol : control.SameContents control')
    (hactions : List.Forall₂ (Action.Alike Source.SameContents) actions actions')
    (hrun : actions.foldlM (step server) (start server control) = some session) :
    ∃ session', actions'.foldlM (step server) (start server control') = some session' ∧
      List.Forall₂ (controlLike Source.SameContents).Events session.history session'.history ∧
      session'.outcome = session.outcome ∧
      session'.world.handlers.map Spawned.course =
        session.world.handlers.map Spawned.course := by
  have hstart : (start server control).Beside Source.SameContents server server.overflowChecks
      (start server control') := .start readAlike_sameContents id hcontrol
  obtain ⟨session', hrun', hbeside⟩ :=
    hstart.run readAlike_sameContents id hactions hrun (quiet_built session)
  exact ⟨session', hrun', hbeside.history, hbeside.outcome, hbeside.courses⟩

/-- The client's Control stream, one byte a read. -/
def bytewiseControl : RecvStream :=
  { loopbackControl with cuts := loopbackControl.items.map fun _ => 1 }

theorem cuts_invisible_bytewise : ∃ (actions : List Action) (session session' : State),
    actions.foldlM (step (loopbackServer "493817"))
        (start (loopbackServer "493817") loopbackControl) = some session ∧
      actions.foldlM (step (loopbackServer "493817"))
        (start (loopbackServer "493817") bytewiseControl) = some session' ∧
      session.world.openedBi = [loopbackBi] ∧
      session'.world.handlers.map Spawned.course =
        session.world.handlers.map Spawned.course := by
  obtain ⟨session, ⟨actions, hrun⟩, -, -, hopened⟩ := reachable_loopback
  have hsame : loopbackControl.SameContents bytewiseControl := ⟨rfl, rfl⟩
  obtain ⟨session', hrun', -, -, hcourses⟩ := cuts_invisible hsame
    (List.forall₂_same.mpr fun _ _ => .refl readAlike_sameContents _) hrun
  exact ⟨actions, session, session', hrun, hrun', hopened, hcourses⟩

/-- The script is one for the other build as well. -/
def Script.built {caps : Capabilities} (script : Script server caps) (checks : Bool) :
    Script (server.built checks) caps :=
  { script with }

end OpenRD.Session
