import OpenRD.Foundation.Reference
import OpenRD.Session.Gate
import OpenRD.Session.Pairing

/-!
# What a step of the Control task starts

A handler for a client's channel is started by the step in which its stream is
accepted, and no step starts more than one.
-/

namespace OpenRD.Session

open OpenRD.Foundation OpenRD.Proto OpenRD.Server

variable {server : ServerConfig}

/-! ## What a step of the Control task adds -/

def Waits (session : State) (question : Request) : Prop :=
  ∃ next, session.program = .ask question next

def spawnOf : Output → Option Task
  | .spawn task => some task
  | _ => none

theorem handlers_perform (outputs : List Output) (world : World) :
    (outputs.foldl (controlEnv server).perform world).handlers =
      world.handlers ++ (outputs.filterMap spawnOf).map (Spawned.start server) := by
  induction outputs generalizing world with
  | nil => simp
  | cons output outputs ih =>
      rw [List.foldl_cons, ih]
      cases output <;> simp [controlEnv, spawnOf, List.filterMap_cons]

inductive Asks (server : ServerConfig) (session : State) (fault : Option String) :
    List ControlEvent → Prop where
  | nothing : Asks server session fault []
  | question (question : Request) (answer : question.Answer) (world : World)
      (waits : Waits session question)
      (answered :
        (controlEnv server).answer session.world question fault = some (answer, world)) :
      Asks server session fault [.asked question answer]

theorem control_adds {session next : State} {fault : Option String}
    (h : (controlEnv server).advance session fault = some next) :
    ∃ asked, ∃ outputs : List Output, Asks server session fault asked ∧
      next.history = session.history ++ (asked ++ outputs.map .told) ∧
      next.world.handlers = session.world.handlers ++
        (outputs.filterMap spawnOf).map (Spawned.start server) := by
  rcases Env.advance_adds h with ⟨outputs, hhistory, hworld⟩ |
    ⟨question, rest, answer, world, outputs, hprogram, hanswer, hhistory, hworld⟩
  · refine ⟨[], outputs, .nothing, hhistory, ?_⟩
    rw [hworld, handlers_perform]
  · refine ⟨[.asked question answer], outputs,
      .question question answer world ⟨rest, hprogram⟩ hanswer, hhistory, ?_⟩
    rw [hworld, handlers_perform, handlers_answer hanswer]

/-- Handlers stay, under their indices, and what they have done stays done. -/
def Grown (before after : World) : Prop :=
  ∀ (index : Nat) (spawned : Spawned), before.handlers[index]? = some spawned →
    ∃ later, after.handlers[index]? = some later ∧ later.task = spawned.task ∧
      spawned.run.history <+: later.run.history

theorem grown_step {session next : State} {action : Action}
    (hstep : step server session action = some next) : Grown session.world next.world := by
  intro index spawned hspawned
  obtain ⟨hlt, -⟩ := List.getElem?_eq_some_iff.mp hspawned
  cases action with
  | control fault =>
      obtain ⟨asked, outputs, -, -, hhandlers⟩ := control_adds hstep
      refine ⟨spawned, ?_, rfl, List.prefix_rfl⟩
      rw [hhandlers, List.getElem?_append_left hlt, hspawned]
  | handler stepped choice =>
      obtain ⟨world, hworld, rfl⟩ := step_handler_eq_some.mp hstep
      obtain ⟨before, run, hbefore, hrun, rfl⟩ := World.stepHandler_eq_some.mp hworld
      by_cases hindex : stepped = index
      · subst hindex
        cases hspawned.symm.trans hbefore
        exact ⟨_, List.getElem?_set_self hlt, rfl, Env.prefix_advance hrun⟩
      · exact ⟨spawned, by rw [List.getElem?_set_ne hindex, hspawned], rfl, List.prefix_rfl⟩
  | openUni purpose recv | openBi purpose recv =>
      cases hstep
      exact ⟨spawned, hspawned, rfl, List.prefix_rfl⟩

theorem Grown.tasks {before after : World} (h : Grown before after) :
    before.handlers.map Spawned.task <+: after.handlers.map Spawned.task := by
  refine List.prefix_iff_getElem?.mpr fun index hindex => ?_
  rw [List.length_map] at hindex
  obtain ⟨later, hlater, htask, -⟩ := h index _ (List.getElem?_eq_getElem hindex)
  rw [List.getElem?_map, hlater, List.getElem_map, ← htask]
  rfl

/-! ## Where a client's handler is started -/

theorem spawn_not_mem {events : List ControlEvent}
    (h : ∀ event ∈ events, startOf event = none) {task : Task}
    {client : UInt64 × ClientStream} (hclient : task.client = some client) :
    .told (.spawn task) ∉ events := by
  intro hmem
  have hnone := h _ hmem
  rw [startOf, hclient] at hnone
  cases hnone

theorem startOf_acked (acked : Acked server) (answer : Except Error Unit) :
    ∀ event ∈ acked.events answer, startOf event = none := by
  simp [Acked.events]

/-- `before` ends with accepting `stream` for an acknowledged request for `kind`. -/
def EndsWithAccept (server : ServerConfig) (kind : UInt64) (stream : ClientStream)
    (before : List ControlEvent) : Prop :=
  ∃ earlier, ∃ acked : Acked server, acked.request.kind = kind ∧
    before = earlier ++ (acked.events (.ok ()) ++ [acceptEvent kind (.ok stream)])

theorem EndsWithAccept.prepend {kind : UInt64} {stream : ClientStream}
    {before : List ControlEvent} (events : List ControlEvent)
    (h : EndsWithAccept server kind stream before) :
    EndsWithAccept server kind stream (events ++ before) := by
  obtain ⟨earlier, acked, hkind, rfl⟩ := h
  exact ⟨events ++ earlier, acked, hkind, by rw [List.append_assoc]⟩

theorem start_in_turns {turns : List (Turn server)} {trailing before after : List ControlEvent}
    {task : Task} {kind : UInt64} {stream : ClientStream}
    (hclient : task.client = some (kind, stream))
    (htrailing : .told (.spawn task) ∉ trailing)
    (h : turnEvents turns ++ trailing = before ++ .told (.spawn task) :: after) :
    EndsWithAccept server kind stream before := by
  induction turns generalizing before with
  | nil =>
      refine absurd ?_ htrailing
      have hmem : .told (.spawn task) ∈ before ++ .told (.spawn task) :: after := by simp
      rw [← h] at hmem
      simpa [turnEvents] using hmem
  | cons turn turns ih =>
      rw [turnEvents, List.flatMap_cons, List.append_assoc] at h
      have hskip {events : List ControlEvent} (hnone : ∀ event ∈ events, startOf event = none)
          (h : events ++ (turnEvents turns ++ trailing) =
            before ++ .told (.spawn task) :: after) :
          EndsWithAccept server kind stream before := by
        obtain ⟨middle, rfl, hmiddle⟩ :=
          append_of_not_mem h (spawn_not_mem hnone hclient)
        exact (ih hmiddle).prepend events
      cases turn with
      | skipped bytes received => exact hskip (by simp [Turn.events]) h
      | refused acked unsupported => exact hskip (startOf_acked acked _) h
      | served acked supported accepted =>
          have hnone : ∀ event ∈ acked.events (.ok ()) ++
              [acceptEvent acked.request.kind (.ok accepted)], startOf event = none := by
            simp [Acked.events]
          have hsplit : (acked.events (.ok ()) ++
                [acceptEvent acked.request.kind (.ok accepted)]) ++
              (.told (.spawn (clientTask acked.request.kind accepted)) ::
                (turnEvents turns ++ trailing)) =
              before ++ .told (.spawn task) :: after := by
            rw [← h]
            simp [Turn.events, turnEvents]
          obtain ⟨middle, rfl, hmiddle⟩ :=
            append_of_not_mem hsplit (spawn_not_mem hnone hclient)
          -- either this pass starts the handler, or a later one does
          cases middle with
          | nil =>
              have hstart := startOf_spawn accepted supported
              injection hmiddle with hevent
              injection hevent with houtput
              injection houtput with htask
              rw [htask, startOf, hclient] at hstart
              cases hstart
              exact ⟨[], acked, rfl, by simp⟩
          | cons event middle =>
              injection hmiddle with hevent hrest
              rw [← List.singleton_append]
              exact ((ih hrest).prepend [event]).prepend _

theorem start_after_accept {before after : List ControlEvent} {task : Task}
    {kind : UInt64} {stream : ClientStream} (hclient : task.client = some (kind, stream))
    (h : Dispatched server (before ++ .told (.spawn task) :: after)) :
    EndsWithAccept server kind stream before := by
  generalize hhistory : before ++ .told (.spawn task) :: after = history at h
  obtain ⟨outside, turns, trailing, houtside, htrails⟩ := h
  have hnone : ∀ event ∈ outside, startOf event = none :=
    fun event hmem => startOf_outside event (houtside event hmem)
  obtain ⟨middle, rfl, hmiddle⟩ :=
    append_of_not_mem hhistory.symm (spawn_not_mem hnone hclient)
  have htrailing : .told (.spawn task) ∉ trailing := by
    obtain ⟨last, hlast⟩ := accounted_of_trailing htrails
    have hstarted : trailing.filterMap startOf = [] := by simpa using hlast.started
    exact spawn_not_mem (List.filterMap_eq_nil_iff.mp hstarted) hclient
  exact (start_in_turns hclient htrailing hmiddle).prepend outside

theorem starts_eq_accepts {history : List ControlEvent} (h : Dispatched server history) :
    (history.filterMap startOf).length = (history.filterMap acceptOf).length := by
  obtain ⟨acked, served, haccounted⟩ := accounted_of_dispatched h
  rw [haccounted.started, haccounted.accepted, List.length_map, List.length_map]

theorem unfinished_of_advance {spawned : Spawned} {choice : HandlerChoice}
    {run : HandlerRun} (h : handlerEnv.advance spawned.run choice = some run) :
    spawned.finished = false := by
  unfold Spawned.finished
  cases hprogram : spawned.run.program <;> simp [Env.advance, hprogram] at h <;> rfl

/-! ## File channels -/

/-- The number of File channels that are open. -/
def World.runningFiles (world : World) : Nat :=
  world.handlers.countP fun spawned => spawned.task.isFile && !spawned.finished

theorem runningFiles_stepHandler {world world' : World} {index : Nat}
    {choice : HandlerChoice} (h : world.stepHandler index choice = some world') :
    world'.runningFiles ≤ world.runningFiles := by
  obtain ⟨spawned, run, hspawned, hrun, rfl⟩ := World.stepHandler_eq_some.mp h
  obtain ⟨hlt, hget⟩ := List.getElem?_eq_some_iff.mp hspawned
  have hunfinished := unfinished_of_advance hrun
  unfold World.runningFiles
  rw [List.countP_set hlt, hget]
  cases hfile : spawned.task.isFile with
  | false => simp
  | true =>
      have hpos : 0 < world.handlers.countP
          fun spawned => spawned.task.isFile && !spawned.finished :=
        List.countP_pos_iff.mpr
          ⟨spawned, List.mem_of_getElem? hspawned, by simp [hfile, hunfinished]⟩
      simp only [hunfinished, Bool.not_false, Bool.and_self, if_true, Bool.true_and]
      split <;> omega

theorem starts_le_one {session next : State} {fault : Option String}
    {asked : List ControlEvent} {outputs : List Output}
    (hsession : Dispatched server session.history) (hnext : Dispatched server next.history)
    (hasked : Asks server session fault asked)
    (hhistory : next.history = session.history ++ (asked ++ outputs.map .told)) :
    ((outputs.filterMap spawnOf).filterMap Task.client).length ≤
        (asked.filterMap acceptOf).length ∧ (asked.filterMap acceptOf).length ≤ 1 := by
  have hbefore := starts_eq_accepts hsession
  have hafter := starts_eq_accepts hnext
  have hstarts : (outputs.map Event.told : List ControlEvent).filterMap startOf =
      (outputs.filterMap spawnOf).filterMap Task.client := by
    rw [List.filterMap_map, List.filterMap_filterMap]
    congr 1
    funext output
    cases output <;> rfl
  have haccepts : (outputs.map Event.told : List ControlEvent).filterMap acceptOf = [] := by
    rw [List.filterMap_map, List.filterMap_eq_nil_iff]
    exact fun output _ => rfl
  rw [hhistory] at hafter
  simp only [List.filterMap_append, List.length_append, hstarts, haccepts,
    List.length_nil] at hafter
  refine ⟨by omega, ?_⟩
  cases hasked with
  | nothing => simp
  | question question answer world waits answered => exact List.length_filterMap_le _ _

end OpenRD.Session
