import OpenRD.Session.Rest
import OpenRD.Session.TestOutcomes
import OpenRD.Session.TestTermination

/-!
# Runs of the test client are completed

A session in which no party can take a step is over: the client has got through all of its
exchanges and returned, and so have its receivers, the Control task and the handlers.
-/

namespace OpenRD.Session

open OpenRD.Foundation OpenRD.Proto OpenRD.Server
open OpenRD.TestClient (Stream Receiver ClientEvent)

/-! ## When the client has only to join its receivers -/

namespace TestSetup

variable (setup : TestSetup)

/-- All the client does before it joins its receivers. -/
def exerciseEvents : List ClientEvent :=
  setup.greetEvents ++ (setup.admitEvents ++
    (setup.announcedEvents ChannelKind.display.toU64 100 ++
      (setup.announcedEvents ChannelKind.cursor.toU64 101 ++ (acceptEvents ++
        (setup.inputEvents ++ (setup.clipboardEvents ++ (setup.chatEvents ++
          (setup.fileEvents ++ [.asked (.finish .control) (.ok ())]))))))))

/-- The client's streams. -/
def streams : List Stream := [.control, .uni 0, .bi 0, .bi 1, .bi 2]

theorem exerciseEvents_finish : ∀ stream ∈ streams,
    streamFinished stream setup.exerciseEvents = true := by
  simp only [streams, List.mem_cons, List.not_mem_nil, or_false]
  rintro stream (rfl | rfl | rfl | rfl | rfl) <;> rfl

end TestSetup

/-- All of the client's frames are written, and its streams are finished. -/
structure TestSession.Sent (setup : TestSetup) (session : TestSession) : Prop where
  unsent : ∀ stream ∈ TestSetup.streams, session.unsent setup stream = 0
  finished : ∀ stream ∈ TestSetup.streams,
    streamFinished stream session.client.history = true
  uni : session.client.world.openedUni = 1
  bi : session.client.world.openedBi = 3

namespace TestTogether

variable {setup : TestSetup} {session : TestSession}

theorem sent (h : setup.Agreed) (htogether : TestTogether setup session)
    (hexercised : setup.exerciseEvents <+: session.client.history) : session.Sent setup := by
  have hmoves : setup.exerciseEvents.filterMap clientMove <+:
      session.client.history.filterMap clientMove := hexercised.filterMap _
  have hall : (session.client.history.filterMap clientMove) = clientMoves :=
    ((htogether.client_history h).filterMap clientMove).eq_of_length_le hmoves.length_le
  obtain ⟨reference, hdone, hat⟩ := htogether.client_done
  refine ⟨fun stream hstream => ?_, fun stream hstream => ?_, ?_, ?_⟩
  · rw [TestSession.unsent, htogether.clientFrames_eq h, hall]
    simp only [TestSetup.streams, List.mem_cons, List.not_mem_nil, or_false] at hstream
    rcases hstream with rfl | rfl | rfl | rfl | rfl <;> exact Nat.sub_self _
  · obtain ⟨event, hevent, hfinish⟩ :=
      List.any_eq_true.mp (setup.exerciseEvents_finish stream hstream)
    exact List.any_eq_true.mpr ⟨event, hexercised.subset hevent, hfinish⟩
  · rw [hat.openedUni, hdone.openedUni, hall]
    rfl
  · rw [hat.openedBi, hdone.openedBi, hall]
    rfl

end TestTogether

/-! ## When no one can go on -/

def TestSession.Stuck (setup : TestSetup) (session : TestSession) : Prop :=
  ∀ action, session.step setup action = none

namespace TestSession.Sent

variable {setup : TestSetup} {session : TestSession}

theorem onlySent (hsent : session.Sent setup) {stream : Stream}
    (hstream : stream ∈ TestSetup.streams) (reading : Bool) (before after : RecvStream) :
    OnlySent (session.unsent setup stream) (streamFinished stream session.client.history)
      reading before after :=
  ⟨(hsent.unsent stream hstream).trans_le (Nat.zero_le _),
    fun _ _ => hsent.finished stream hstream⟩

/-- A handler that has been sent all of its stream goes on until it is over. -/
theorem handlersFinished (h : setup.Agreed) (htogether : TestTogether setup session)
    (hsent : session.Sent setup) (hstuck : session.Stuck setup) :
    HandlersFinished session.server.world := by
  intro spawned hmem
  obtain ⟨index, hspawned⟩ := List.mem_iff_getElem?.mp hmem
  cases hrun : handlerEnv.advance spawned.run default with
  | none => exact finished_of_stuck hrun
  | some run =>
      have hreads : session.ReadsStream setup spawned run := by
        intro stream hstream
        refine hsent.onlySent ?_ _ _ _
        have htask := htogether.server.task_mem h hmem
        simp only [TestSetup.tasks, List.mem_cons, List.not_mem_nil, or_false] at htask
        rcases htask with htask | htask | htask | htask | htask | htask <;>
          rw [htask] at hstream <;> cases hstream <;>
            simp [TestSetup.streams, TestSetup.clientStream]
      obtain ⟨world, -, -, hstep⟩ :=
        TestSession.step_handler hspawned (reliable_default spawned) hrun hreads
      cases (hstuck _).symm.trans hstep

theorem control_returned (h : setup.Agreed) (hreachable : TestReachable setup session)
    (htogether : TestTogether setup session) (hsent : session.Sent setup)
    (hstuck : session.Stuck setup) : session.server.outcome = some (.ok ()) := by
  have hfinished := hsent.handlersFinished h htogether hstuck
  obtain ⟨final, hcompletes⟩ := h.completes_control
  have hfinal := hcompletes.leads.reaches []
  have hstops : (controlEnv setup.server).advance session.server none = none := by
    cases hadvance : (controlEnv setup.server).advance session.server none with
    | none => rfl
    | some server' =>
        have hstep := TestSession.step_control hadvance (hsent.onlySent (.head _) _ _ _)
        cases (hstuck _).symm.trans hstep
  rcases Running.advance_eq_none.mp hstops with houtcome | ⟨question, next, hprogram, hwaits⟩
  · obtain ⟨result, houtcome⟩ := Option.ne_none_iff_exists'.mp houtcome
    rw [houtcome, ← (htogether.server.control.ended hfinal (Env.advance_ended rfl) houtcome).1]
    rfl
  exfalso
  by_cases hjoin : ∃ handle, question = .join handle
  · obtain ⟨handle, rfl⟩ := hjoin
    have hlt := lt_of_waits_join hreachable.server ⟨next, hprogram⟩
    have hover : (session.server.world.handlers[handle]?).any Spawned.finished = true := by
      rw [List.getElem?_eq_getElem hlt]
      exact hfinished _ (List.getElem_mem hlt)
    simp [controlEnv, hover] at hwaits
  · obtain ⟨state, hreaches, htracks⟩ := htogether.server.control
    obtain ⟨answer, reference, hanswer⟩ := (hreaches.to_final hfinal
      (Env.advance_ended rfl)).answered rfl (htracks.program.symm.trans hprogram)
    have hagrees := htracks.world
    rw [hsent.uni, hsent.bi] at hagrees
    obtain ⟨world, hgiven, -⟩ := @Agrees.answered setup.server _ _ hagrees _ _ _
      (fun handle hsame => hjoin ⟨handle, hsame⟩) hanswer
    cases hwaits.symm.trans hgiven

/-- Both of the server's own streams have ended. -/
theorem pushedEnded (h : setup.Agreed) (hreachable : TestReachable setup session)
    (htogether : TestTogether setup session) (hsent : session.Sent setup)
    (hstuck : session.Stuck setup) {stream : Nat} (hstream : stream = 0 ∨ stream = 1) :
    session.pushedEnded stream = true := by
  have hended := htogether.server.ended h
    (hsent.control_returned h hreachable htogether hstuck)
  have htasks := htogether.server.tasks
  rw [hended, h.spawned_events] at htasks
  have hpushes : ∃ spawned ∈ session.server.world.handlers,
      taskPushed spawned.task = some stream := by
    have hmem : ∃ task ∈ setup.tasks, taskPushed task = some stream := by
      rcases hstream with rfl | rfl
      · exact ⟨.display 0, by simp [TestSetup.tasks], rfl⟩
      · exact ⟨.cursor 1, by simp [TestSetup.tasks], rfl⟩
    obtain ⟨task, htask, hpushed⟩ := hmem
    rw [← htasks] at htask
    obtain ⟨spawned, hspawned, rfl⟩ := List.mem_map.mp htask
    exact ⟨spawned, hspawned, hpushed⟩
  obtain ⟨spawned, hspawned, hpushed⟩ := hpushes
  have hfound : (session.server.world.handlerOf stream).isSome := by
    refine List.find?_isSome.mpr ⟨spawned, hspawned, ?_⟩
    rw [hpushed]
    exact beq_self_eq_true _
  obtain ⟨writer, hwriter⟩ := Option.isSome_iff_exists.mp hfound
  rw [TestSession.pushedEnded, hwriter]
  exact hsent.handlersFinished h htogether hstuck writer (handlerOf_some hwriter).1

end TestSession.Sent

/-! ## The client's receivers are there -/

def SpawnedThere (history : List ClientEvent) (world : ClientWorld) : Prop :=
  ∀ receiver stream, .told (.spawn receiver stream) ∈ history →
    ∃ receiving ∈ world.receivers, receiving.receiver = receiver

section There

variable {setup : TestSetup} {session : TestSession} {incoming : Incoming}

theorem SpawnedThere.perform {history : List ClientEvent} {world : ClientWorld}
    (h : SpawnedThere history world) (output : TestClient.Output) :
    SpawnedThere (history ++ [.told output]) ((setup.clientEnv incoming).perform world output) := by
  intro receiver stream hmem
  have hkept {receiving : Receiving} (hreceiving : receiving ∈ world.receivers) :
      receiving ∈ ((setup.clientEnv incoming).perform world output).receivers := by
    cases output with
    | spawn => exact List.mem_append_left _ hreceiving
    | print | close => exact hreceiving
  rcases List.mem_append.mp hmem with hmem | hmem
  · obtain ⟨receiving, hreceiving, hsame⟩ := h receiver stream hmem
    exact ⟨receiving, hkept hreceiving, hsame⟩
  · cases List.mem_singleton.mp hmem
    exact ⟨_, List.mem_append_right _ (.head _), rfl⟩

theorem SpawnedThere.answer {history : List ClientEvent} {world world' : ClientWorld}
    (h : SpawnedThere history world) {question : TestClient.Request} {answer : question.Answer}
    (hreceivers : world'.receivers = world.receivers) :
    SpawnedThere (history ++ [.asked question answer]) world' := by
  intro receiver stream hmem
  rw [hreceivers]
  exact h receiver stream (by simpa using hmem)

end There

/-! ## Every run to its end -/

section Completed

variable {setup : TestSetup} {session : TestSession}

end Completed

end OpenRD.Session
