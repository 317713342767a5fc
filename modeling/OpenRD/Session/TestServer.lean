import OpenRD.Session.Starts
import OpenRD.Session.TestClientRuns
import OpenRD.Session.TestReceivers

/-!
# The server's side of a session with the test client

Whatever the order of the steps, the Control task and the handlers keep to their runs, and
what is on a stream only ever grows.
-/

namespace OpenRD.Session

open OpenRD.Foundation OpenRD.Proto OpenRD.Server
open OpenRD.TestClient (Stream)

/-! ## What becomes of a handler -/

/-- A handler that was there has gone on with its program; one that was over has not changed. -/
def Evolves (before after : Option Spawned) : Prop :=
  ∀ spawned ∈ before, ∃ spawned' ∈ after, spawned'.task = spawned.task ∧
    spawned.run.history <+: spawned'.run.history ∧
    (spawned.finished = true → spawned' = spawned)

theorem Evolves.refl (spawned : Option Spawned) : Evolves spawned spawned :=
  fun spawned hmem => ⟨spawned, hmem, rfl, List.prefix_rfl, fun _ => rfl⟩

theorem evolves_append (p : Spawned → Bool) (handlers more : List Spawned) :
    Evolves (handlers.find? p) ((handlers ++ more).find? p) := by
  intro spawned hmem
  refine ⟨spawned, ?_, rfl, List.prefix_rfl, fun _ => rfl⟩
  rw [List.find?_append, hmem]
  rfl

theorem evolves_set (p : Task → Bool) {handlers : List Spawned} {index : Nat}
    {spawned : Spawned} {choice : HandlerChoice} {run : HandlerRun}
    (hspawned : handlers[index]? = some spawned)
    (hrun : handlerEnv.advance spawned.run choice = some run) :
    Evolves (handlers.find? fun spawned => p spawned.task)
      ((handlers.set index { spawned with run }).find? fun spawned => p spawned.task) := by
  induction handlers generalizing index with
  | nil => cases hspawned
  | cons head handlers ih =>
      cases index with
      | zero =>
          cases hspawned
          rw [List.set_cons_zero, List.find?_cons, List.find?_cons]
          cases hfound : p spawned.task with
          | true =>
              rintro _ ⟨⟩
              simp only
              refine ⟨_, rfl, rfl, Env.prefix_advance hrun, fun hfinished => ?_⟩
              rw [unfinished_of_advance hrun] at hfinished
              cases hfinished
          | false =>
              simp only
              exact .refl _
      | succ index =>
          rw [List.set_cons_succ, List.find?_cons, List.find?_cons]
          cases p head.task with
          | true => exact .refl _
          | false => exact ih hspawned

theorem Evolves.framesOf {before after : Option Spawned} (h : Evolves before after) :
    framesOf before <+: framesOf after := by
  cases before with
  | none => exact List.nil_prefix
  | some spawned =>
      obtain ⟨spawned', hmem, -, hhistory, -⟩ := h spawned rfl
      cases hmem
      exact hhistory.filterMap _

theorem Evolves.ended {before after : Option Spawned} (h : Evolves before after)
    (hended : before.any Spawned.finished = true) : after = before := by
  cases before with
  | none => cases hended
  | some spawned =>
      obtain ⟨spawned', hmem, -, -, hsame⟩ := h spawned rfl
      rw [hmem, hsame hended]

/-! ## How a handler behaves -/

def isDisplay : Task → Bool
  | .display _ => true
  | _ => false

/-- A handler of a client's stream, or the Cursor sender, keeps to its one run. -/
structure Behaves (server : ServerConfig) (task : Task) (run : HandlerRun) : Prop where
  resumes : run.Resumes (task.program server)
  sizes : ∀ nal ∈ unitsOf (encodedPictures run.history), nal.length ≤ maxNalLength
  follows : isDisplay task = false → run.Follows handlerReferenceEnv
    (handlerReferenceEnv.settle (task.program server) [] ⟨taskRecv task⟩) Eq

theorem encodedPictures_told (history : List HandlerEvent) (outputs : List HandlerLog) :
    encodedPictures (history ++ outputs.map .told) = encodedPictures history := by
  have hnone : encodedPictures (outputs.map .told) = [] := by
    rw [encodedPictures, List.filterMap_map, List.filterMap_eq_nil_iff]
    exact fun _ _ => rfl
  rw [encodedPictures, List.filterMap_append]
  exact (congrArg (encodedPictures history ++ ·) hnone).trans (List.append_nil _)

section Behaves

variable {server : ServerConfig} {task : Task} {run run' : HandlerRun}

theorem behaves_start (server : ServerConfig) (task : Task) :
    Behaves server task (Spawned.start server task).run := by
  refine ⟨.settle fun _ _ hcomes => hcomes, ?_, fun _ => ?_⟩
  · obtain ⟨outputs, hhistory, -⟩ :=
      handlerEnv.settle_adds (task.program server) [] ⟨taskRecv task⟩
    rw [Spawned.start, hhistory, encodedPictures_told]
    exact nofun
  · exact follows_settle (fun _ _ _ => id) rfl

theorem sizes_of_encoded {spawned : Spawned} {choice : HandlerChoice}
    (hreliable : Reliable spawned choice) {question : HandlerRequest}
    {next : question.Answer → HandlerProg Unit} {answer : question.Answer}
    {world : HandlerWorld} (hprogram : spawned.run.program = .ask question next)
    (hanswer : handlerEnv.answer spawned.run.world question choice = some (answer, world)) :
    ∀ nal ∈ unitsOf (encodedPictures [.asked question answer]),
      nal.length ≤ maxNalLength := by
  cases question with
  | encode frameId =>
      rw [Reliable, hprogram] at hreliable
      simp only [handlerEnv, Option.some.injEq, Prod.mk.injEq] at hanswer
      obtain ⟨rfl, -⟩ := hanswer
      cases hfault : choice.fault with
      | none =>
          intro nal hmem
          have hnals : unitsOf (encodedPictures
              [.asked (.encode frameId) (attempt none choice.nals)]) = choice.nals :=
            List.append_nil _
          rw [hnals] at hmem
          exact hreliable nal hmem
      | some text => exact fun nal hmem => absurd hmem List.not_mem_nil
  | _ => exact fun nal hmem => absurd hmem List.not_mem_nil

theorem Behaves.advance {spawned : Spawned} {choice : HandlerChoice} {run : HandlerRun}
    (h : Behaves server spawned.task spawned.run) (hreliable : Reliable spawned choice)
    (htraffic : isDisplay spawned.task = false →
      ∃ traffic, HasTraffic server spawned.task traffic)
    (hstep : handlerEnv.advance spawned.run choice = some run) :
    Behaves server spawned.task run := by
  refine ⟨h.resumes.advance hstep, ?_, fun hother => ?_⟩
  · rcases Env.advance_adds hstep with ⟨outputs, hhistory, -⟩ |
      ⟨question, next, answer, world, outputs, hprogram, hanswer, hhistory, -⟩
    · rw [hhistory, encodedPictures_told]
      exact h.sizes
    · rw [hhistory, ← List.singleton_append, ← List.append_assoc, encodedPictures_told]
      intro nal hmem
      rw [encodedPictures, List.filterMap_append, unitsOf, List.flatMap_append] at hmem
      rcases List.mem_append.mp hmem with hmem | hmem
      · exact h.sizes nal hmem
      · exact sizes_of_encoded hreliable hprogram hanswer nal hmem
  · obtain ⟨traffic, events, world, -, hcompletes⟩ := htraffic hother
    refine Running.Follows.advance (h.follows hother) hstep (fun _ _ _ => id) ?_
    intro state question next answer w hreaches htracks hprogram hanswer
    obtain ⟨answer', world', hreference⟩ := (hreaches.to_final
      (hcompletes.leads.reaches []) (Env.advance_ended rfl)).answered rfl hprogram
    rw [Reliable, htracks.program, hprogram] at hreliable
    have hworld : state.world = spawned.run.world := htracks.world
    have hplain (hchoice : choice.fault = none ∧ choice.nals = []) : choice = default := by
      obtain ⟨fault, nals⟩ := choice
      obtain ⟨rfl, rfl⟩ := hchoice
      rfl
    cases question with
    | initEncoder | encode => cases hreference
    | readFullFrameOpt | writeFrame | finish | sleep =>
        rw [hplain hreliable, ← hworld] at hanswer
        exact ⟨w, hanswer, rfl⟩

theorem Spawned.finished_iff (spawned : Spawned) :
    spawned.finished = true ↔ ∃ result, spawned.run.outcome = some result := by
  rw [Spawned.finished, Running.outcome]
  cases spawned.run.program <;> simp

theorem Behaves.written {traffic : List (Option SentFrame)} {spawned : Spawned}
    (h : Behaves server spawned.task spawned.run) (hother : isDisplay spawned.task = false)
    (htraffic : HasTraffic server spawned.task traffic) :
    handlerFrames spawned.run.history <+: traffic.reduceOption ∧
      (spawned.finished = true →
        handlerFrames spawned.run.history = traffic.reduceOption) := by
  obtain ⟨events, world, rfl, hcompletes⟩ := htraffic
  rw [← handlerFrames_traffic]
  have hfinal := hcompletes.leads.reaches []
  have hinitial := (h.follows hother).prefix_history hfinal (Env.advance_ended rfl)
  refine ⟨hinitial.filterMap _, fun hfinished => ?_⟩
  obtain ⟨result, houtcome⟩ := spawned.finished_iff.mp hfinished
  have hended := (h.follows hother).ended hfinal (Env.advance_ended rfl) houtcome
  exact congrArg handlerFrames hended.2

end Behaves

/-! ## The Control task and its handlers -/

def spawnedTask : ControlEvent → Option Task
  | .told (.spawn task) => some task
  | _ => none

namespace TestSetup

/-- The handlers in the order in which they are started. -/
def tasks (setup : TestSetup) : List Task :=
  [.display 0, .cursor 1, .input (setup.clientStream (.uni 0)),
    .clipboard (setup.clientStream (.bi 0)), .chat (setup.clientStream (.bi 1)),
    .file (setup.clientStream (.bi 2))]

variable {setup : TestSetup}

theorem Agreed.spawned_events (h : setup.Agreed) :
    h.events.filterMap spawnedTask = setup.tasks := rfl

theorem Agreed.controlFrames_events (h : setup.Agreed) :
    controlFrames h.events = setup.replies .control := rfl

theorem Agreed.exists_traffic (h : setup.Agreed) {task : Task} (htask : task ∈ setup.tasks)
    (hother : isDisplay task = false) : ∃ traffic, HasTraffic setup.server task traffic := by
  simp only [tasks, List.mem_cons, List.not_mem_nil, or_false] at htask
  rcases htask with rfl | rfl | rfl | rfl | rfl | rfl
  · cases hother
  · exact ⟨_, traffic_cursor _ _⟩
  · exact ⟨_, traffic_input setup⟩
  · exact ⟨_, h.traffic_clipboard⟩
  · exact ⟨_, h.traffic_chat⟩
  · exact ⟨_, h.traffic_file⟩

end TestSetup

/-- The server has come as far as its run, and the client has yet to open these streams. -/
structure Serves (setup : TestSetup) (laterUni laterBi : List ClientStream) (server : State) :
    Prop where
  control : server.Follows referenceEnv
    (referenceEnv.settle (handleControlStream setup.server) [] setup.reference)
    (Agrees laterUni laterBi)
  tasks : server.world.handlers.map Spawned.task = server.history.filterMap spawnedTask
  behaves : ∀ spawned ∈ server.world.handlers, Behaves setup.server spawned.task spawned.run

namespace Serves

variable {setup : TestSetup} {laterUni laterBi : List ClientStream} {server server' : State}

theorem start : Serves setup setup.uniStreams setup.biStreams
    (Session.start setup.server (setup.recv .control)) := by
  refine ⟨follows_settle (fun _ _ output hagrees => hagrees.perform output)
    ⟨rfl, rfl, rfl, rfl⟩, rfl, ?_⟩
  exact nofun

theorem prefix_events (h : setup.Agreed) (hserves : Serves setup laterUni laterBi server) :
    server.history <+: h.events := by
  obtain ⟨reference, hcompletes⟩ := h.completes_control
  have hfinal := hcompletes.leads.reaches []
  exact hserves.control.prefix_history hfinal (Env.advance_ended rfl)

theorem ended (h : setup.Agreed) (hserves : Serves setup laterUni laterBi server)
    {result : Except Error Unit} (houtcome : server.outcome = some result) :
    server.history = h.events := by
  obtain ⟨reference, hcompletes⟩ := h.completes_control
  have hfinal := hcompletes.leads.reaches []
  exact (hserves.control.ended hfinal (Env.advance_ended rfl) houtcome).2

theorem task_mem (h : setup.Agreed) (hserves : Serves setup laterUni laterBi server)
    {spawned : Spawned} (hmem : spawned ∈ server.world.handlers) :
    spawned.task ∈ setup.tasks := by
  rw [← h.spawned_events]
  apply ((hserves.prefix_events h).filterMap spawnedTask).subset
  rw [← hserves.tasks]
  exact List.mem_map_of_mem hmem

/-! ### Its steps -/

theorem advance (hserves : Serves setup laterUni laterBi server)
    (hstep : (controlEnv setup.server).advance server none = some server') :
    Serves setup laterUni laterBi server' := by
  refine ⟨?_, ?_, ?_⟩
  · exact hserves.control.advance hstep (fun _ _ output hagrees => hagrees.perform output)
      fun _ _ _ _ _ _ htracks _ hanswer => htracks.world.answer hanswer
  · refine Running.advance_ties (J := fun history world =>
      world.handlers.map Spawned.task = history.filterMap spawnedTask) ?_ ?_ hserves.tasks hstep
    · intro history world question fault answer world' htasks hanswer
      rw [handlers_answer hanswer, htasks, List.filterMap_append]
      exact (List.append_nil _).symm
    · intro history world output htasks
      rw [List.filterMap_append, ← htasks]
      cases output with
      | spawn task => exact List.map_append
      | _ => exact (List.append_nil _).symm
  · obtain ⟨asked, outputs, -, -, hhandlers⟩ := control_adds hstep
    intro spawned hmem
    rw [hhandlers] at hmem
    rcases List.mem_append.mp hmem with hmem | hmem
    · exact hserves.behaves spawned hmem
    · obtain ⟨task, -, rfl⟩ := List.mem_map.mp hmem
      exact behaves_start setup.server task

theorem stepHandler (h : setup.Agreed) (hserves : Serves setup laterUni laterBi server)
    {index : Nat} {choice : HandlerChoice} {spawned : Spawned} {world : World}
    (hspawned : server.world.handlers[index]? = some spawned)
    (hreliable : Reliable spawned choice)
    (hworld : server.world.stepHandler index choice = some world) :
    Serves setup laterUni laterBi { server with world } := by
  obtain ⟨state, hreaches, htracks⟩ := hserves.control
  obtain ⟨_, run, hfound, hrun, rfl⟩ := World.stepHandler_eq_some.mp hworld
  cases hspawned.symm.trans hfound
  refine ⟨⟨state, hreaches, htracks.program, htracks.history,
    htracks.world.stepHandler hworld⟩, ?_, ?_⟩
  · have hsame : (server.world.handlers.set index { spawned with run }).map Spawned.task =
        server.world.handlers.map Spawned.task := by
      obtain ⟨hlt, hget⟩ := List.getElem?_eq_some_iff.mp hspawned
      rw [List.map_set]
      refine List.ext_getElem (by simp) fun position _ _ => ?_
      rw [List.getElem_set]
      split
      · next hposition =>
          subst hposition
          rw [List.getElem_map, hget]
      · rfl
    exact hsame.trans hserves.tasks
  · intro stepped hmem
    have hspawned := List.mem_of_getElem? hspawned
    rcases List.mem_or_eq_of_mem_set hmem with hmem | rfl
    · exact hserves.behaves stepped hmem
    · exact (hserves.behaves spawned hspawned).advance hreliable
        (h.exists_traffic (hserves.task_mem h hspawned)) hrun

theorem openUni {purpose : UInt64} {recv : RecvStream} (hserves : Serves setup
      (⟨server.world.openedUni.length, purpose, recv⟩ :: laterUni) laterBi server) :
    Serves setup laterUni laterBi
      { server with world := server.world.openUni purpose recv } := by
  obtain ⟨state, hreaches, htracks⟩ := hserves.control
  exact ⟨⟨state, hreaches, htracks.program, htracks.history, htracks.world.openUni⟩,
    hserves.tasks, hserves.behaves⟩

theorem openBi {purpose : UInt64} {recv : RecvStream} (hserves : Serves setup laterUni
      (⟨server.world.openedBi.length, purpose, recv⟩ :: laterBi) server) :
    Serves setup laterUni laterBi
      { server with world := server.world.openBi purpose recv } := by
  obtain ⟨state, hreaches, htracks⟩ := hserves.control
  exact ⟨⟨state, hreaches, htracks.program, htracks.history, htracks.world.openBi⟩,
    hserves.tasks, hserves.behaves⟩

end Serves

/-! ## What is on the streams the client reads -/

theorem TestSetup.Agreed.traffic_replies {setup : TestSetup} (h : setup.Agreed) {task : Task}
    {stream : Stream} (htask : task ∈ setup.tasks) (hstream : taskStream task = some stream) :
    isDisplay task = false ∧ ∃ traffic, HasTraffic setup.server task traffic ∧
      traffic.reduceOption = setup.replies stream := by
  simp only [TestSetup.tasks, List.mem_cons, List.not_mem_nil, or_false] at htask
  rcases htask with rfl | rfl | rfl | rfl | rfl | rfl
  · cases hstream
  · cases hstream
  · cases hstream
    exact ⟨rfl, _, traffic_input setup, rfl⟩
  · cases hstream
    exact ⟨rfl, _, h.traffic_clipboard, rfl⟩
  · cases hstream
    exact ⟨rfl, _, h.traffic_chat, rfl⟩
  · cases hstream
    exact ⟨rfl, _, h.traffic_file, rfl⟩

section Incoming

variable {setup : TestSetup} {laterUni laterBi : List ClientStream} {session : TestSession}

theorem handlerOn_some {world : World} {stream : Stream} {spawned : Spawned}
    (hfound : world.handlerOn stream = some spawned) :
    spawned ∈ world.handlers ∧ taskStream spawned.task = some stream := by
  unfold World.handlerOn at hfound
  have hstream := List.find?_some hfound
  exact ⟨List.mem_of_find?_eq_some hfound, beq_iff_eq.mp hstream⟩

theorem handlerOf_some {world : World} {stream : Nat} {spawned : Spawned}
    (hfound : world.handlerOf stream = some spawned) :
    spawned ∈ world.handlers ∧ taskPushed spawned.task = some stream := by
  unfold World.handlerOf at hfound
  have hstream := List.find?_some hfound
  exact ⟨List.mem_of_find?_eq_some hfound, beq_iff_eq.mp hstream⟩

/-- What the server has written is part of its replies, and all of them if it is over. -/
theorem Serves.replied (h : setup.Agreed)
    (hserves : Serves setup laterUni laterBi session.server) (stream : Stream) :
    session.incoming.frames stream <+: setup.replies stream ∧
      (session.incoming.ended stream = true →
        session.incoming.frames stream = setup.replies stream) := by
  have hhandler : framesOf (session.server.world.handlerOn stream) <+: setup.replies stream ∧
      ((session.server.world.handlerOn stream).any Spawned.finished = true →
        framesOf (session.server.world.handlerOn stream) = setup.replies stream) := by
    cases hfound : session.server.world.handlerOn stream with
    | none => exact ⟨List.nil_prefix, nofun⟩
    | some spawned =>
        obtain ⟨hmem, hstream⟩ := handlerOn_some hfound
        obtain ⟨hother, traffic, htraffic, hreplies⟩ :=
          h.traffic_replies (hserves.task_mem h hmem) hstream
        rw [← hreplies]
        exact (hserves.behaves spawned hmem).written hother htraffic
  cases stream with
  | control =>
      refine ⟨h.controlFrames_events ▸ prefix_controlFrames (hserves.prefix_events h),
        fun hended => ?_⟩
      obtain ⟨result, houtcome⟩ := Option.isSome_iff_exists.mp hended
      exact (congrArg controlFrames (hserves.ended h houtcome)).trans h.controlFrames_events
  | uni | bi => exact hhandler

end Incoming

/-! ## What is on the streams the server opens -/

/-- A frame that opens the stream, or the start of its sender. -/
def pushView (stream : Nat) : ControlEvent → Option (Option SentFrame)
  | .asked (.writeUni written frameType payload) (.ok ()) =>
      if written = stream then some (some (frameType, payload)) else none
  | .told (.spawn task) => if taskPushed task = some stream then some none else none
  | _ => none

theorem openingFrames_eq (stream : Nat) (history : List ControlEvent) :
    openingFrames stream history = (history.filterMap (pushView stream)).filterMap id := by
  rw [openingFrames, List.filterMap_filterMap]
  congr 1
  funext event
  cases event with
  | told output =>
      cases output with
      | spawn task =>
          simp only [pushView]
          split <;> rfl
      | _ => rfl
  | asked question answer =>
      cases question with
      | writeUni written frameType payload =>
          cases answer with
          | ok value =>
              simp only [pushView]
              split <;> rfl
          | error error => rfl
      | _ => rfl

def serverChannel : Nat → Option ServerChannel
  | 0 => some displayChannel
  | 1 => some cursorChannel
  | _ => none

def openingOf (channel : ServerChannel) : SentFrame :=
  (channel.frameType, channel.first)

theorem TestSetup.Agreed.pushes {setup : TestSetup} (h : setup.Agreed) (stream : Nat) :
    h.events.filterMap (pushView stream) =
      match serverChannel stream with
      | some channel => [some (openingOf channel), none]
      | none => [] := by
  match stream with
  | 0 => rfl
  | 1 => rfl
  | _ + 2 => rfl

section Pushed

variable {setup : TestSetup} {laterUni laterBi : List ClientStream} {session : TestSession}
  {stream : Nat}

theorem Serves.openingFrames_prefix (h : setup.Agreed)
    (hserves : Serves setup laterUni laterBi session.server) (stream : Nat) :
    openingFrames stream session.server.history <+:
      ((serverChannel stream).map openingOf).toList := by
  have hviews := (hserves.prefix_events h).filterMap (pushView stream)
  rw [h.pushes] at hviews
  rw [openingFrames_eq]
  refine (hviews.filterMap id).trans ?_
  cases serverChannel stream <;> exact List.prefix_rfl

/-- By the time its sender is started, a stream has its first frame. -/
theorem Serves.opened (h : setup.Agreed)
    (hserves : Serves setup laterUni laterBi session.server) {spawned : Spawned}
    (hfound : session.server.world.handlerOf stream = some spawned) :
    ∃ channel, serverChannel stream = some channel ∧ spawned.task = channel.task stream ∧
      openingFrames stream session.server.history = [openingOf channel] := by
  obtain ⟨hmem, hstream⟩ := handlerOf_some hfound
  have htask := hserves.task_mem h hmem
  have hstarted : none ∈ session.server.history.filterMap (pushView stream) := by
    have hspawned : spawned.task ∈ session.server.history.filterMap spawnedTask :=
      hserves.tasks ▸ List.mem_map_of_mem hmem
    obtain ⟨event, hevent, htold⟩ := List.mem_filterMap.mp hspawned
    refine List.mem_filterMap.mpr ⟨event, hevent, ?_⟩
    cases event with
    | asked question answer => cases htold
    | told output =>
        cases output with
        | spawn task =>
            cases htold
            exact if_pos hstream
        | _ => cases htold
  obtain ⟨rest, hviews⟩ := (hserves.prefix_events h).filterMap (pushView stream)
  rw [h.pushes] at hviews
  cases hchannel : serverChannel stream with
  | none =>
      rw [hchannel] at hviews
      rw [(List.append_eq_nil_iff.mp hviews).1] at hstarted
      cases hstarted
  | some channel =>
      rw [hchannel] at hviews
      refine ⟨channel, rfl, ?_, ?_⟩
      · simp only [TestSetup.tasks, List.mem_cons, List.not_mem_nil, or_false] at htask
        rcases htask with htask | htask | htask | htask | htask | htask <;>
          rw [htask] at hstream ⊢ <;> cases hstream <;> cases hchannel <;> rfl
      · have hall : session.server.history.filterMap (pushView stream) =
            [some (openingOf channel), none] := by
          match session.server.history.filterMap (pushView stream), hstarted, hviews with
          | [_], hstarted, hviews =>
              cases hviews
              simp at hstarted
          | [_, _], _, hviews =>
              cases hviews
              rfl
          | _ :: _ :: _ :: _, _, hviews => cases hviews
        rw [openingFrames_eq, hall]
        rfl

end Pushed

/-! ## Streams only grow -/

namespace TestSession

/-- There will be nothing more on the server's stream `stream`. -/
def pushedEnded (session : TestSession) (stream : Nat) : Bool :=
  (session.server.world.handlerOf stream).any Spawned.finished

/-- The units the encoder has returned so far. -/
def encodedUnits (session : TestSession) : List (List UInt8) :=
  session.server.world.handlers.flatMap fun spawned =>
    unitsOf (encodedPictures spawned.run.history)

end TestSession

structure Grows (session next : TestSession) : Prop where
  incoming : ∀ stream, session.incoming.frames stream <+: next.incoming.frames stream
  pushed : ∀ stream, session.pushedFrames stream <+: next.pushedFrames stream
  ended : ∀ stream, session.pushedEnded stream = true →
    next.pushedFrames stream = session.pushedFrames stream ∧ next.pushedEnded stream = true
  units : session.encodedUnits.length ≤ next.encodedUnits.length

theorem length_units_set {handlers : List Spawned} {index : Nat} {spawned : Spawned}
    {run : HandlerRun} (hspawned : handlers[index]? = some spawned)
    (hrun : spawned.run.history <+: run.history) :
    (handlers.flatMap fun spawned => unitsOf (encodedPictures spawned.run.history)).length ≤
      ((handlers.set index { spawned with run }).flatMap fun spawned =>
        unitsOf (encodedPictures spawned.run.history)).length := by
  induction handlers generalizing index with
  | nil => cases hspawned
  | cons head handlers ih =>
      cases index with
      | zero =>
          cases hspawned
          obtain ⟨rest, hrest⟩ := hrun
          rw [List.set_cons_zero, List.flatMap_cons, List.flatMap_cons, List.length_append,
            List.length_append, ← hrest, encodedPictures, encodedPictures,
            List.filterMap_append, unitsOf, unitsOf, List.flatMap_append, List.length_append]
          omega
      | succ index =>
          rw [List.set_cons_succ, List.flatMap_cons, List.flatMap_cons, List.length_append,
            List.length_append]
          exact Nat.add_le_add_left (ih hspawned) _

section Grows

variable {setup : TestSetup} {laterUni laterBi : List ClientStream} {session : TestSession}

theorem grows_of {next : TestSession}
    (hhistory : session.server.history <+: next.server.history)
    (hevolves : ∀ p : Task → Bool,
      Evolves (session.server.world.handlers.find? fun spawned => p spawned.task)
        (next.server.world.handlers.find? fun spawned => p spawned.task))
    (hopening : ∀ stream spawned, session.server.world.handlerOf stream = some spawned →
      openingFrames stream next.server.history = openingFrames stream session.server.history)
    (hunits : session.encodedUnits.length ≤ next.encodedUnits.length) : Grows session next := by
  have hpushed (stream : Nat) :
      Evolves (session.server.world.handlerOf stream) (next.server.world.handlerOf stream) :=
    hevolves fun task => taskPushed task == some stream
  refine ⟨fun stream => ?_, fun stream => ?_, fun stream hended => ?_, hunits⟩
  · cases stream with
    | control => exact prefix_controlFrames hhistory
    | uni number => exact (hevolves fun task => taskStream task == some (.uni number)).framesOf
    | bi number => exact (hevolves fun task => taskStream task == some (.bi number)).framesOf
  · cases hfound : session.server.world.handlerOf stream with
    | none =>
        rw [TestSession.pushedFrames, hfound, framesOf, List.append_nil]
        exact (hhistory.filterMap _).trans (List.prefix_append _ _)
    | some spawned =>
        rw [TestSession.pushedFrames, TestSession.pushedFrames, hopening stream spawned hfound]
        exact (List.prefix_append_right_inj _).mpr (hpushed stream).framesOf
  · have hsame := (hpushed stream).ended hended
    cases hfound : session.server.world.handlerOf stream with
    | none =>
        rw [TestSession.pushedEnded, hfound] at hended
        cases hended
    | some spawned =>
        rw [TestSession.pushedFrames, TestSession.pushedFrames, TestSession.pushedEnded, hsame,
          hopening stream spawned hfound]
        exact ⟨rfl, hended⟩

theorem grows_of_same {next : TestSession}
    (hhistory : next.server.history = session.server.history)
    (hhandlers : next.server.world.handlers = session.server.world.handlers) :
    Grows session next := by
  refine grows_of (hhistory ▸ List.prefix_rfl) (fun p => ?_) (fun _ _ _ => by rw [hhistory]) ?_
  · rw [hhandlers]
    exact .refl _
  · rw [TestSession.encodedUnits, TestSession.encodedUnits, hhandlers]

theorem grows_advance (h : setup.Agreed)
    (hserves : Serves setup laterUni laterBi session.server) {server' : State}
    (hstep : (controlEnv setup.server).advance session.server none = some server') :
    Grows session { session with server := server' } := by
  have hserves' : Serves setup laterUni laterBi
      ({ session with server := server' } : TestSession).server := hserves.advance hstep
  obtain ⟨asked, outputs, -, -, hhandlers⟩ := control_adds hstep
  refine grows_of (Env.prefix_advance hstep) (fun p => ?_) (fun stream spawned hfound => ?_) ?_
  · change Evolves _ (server'.world.handlers.find? _)
    rw [hhandlers]
    exact evolves_append _ _ _
  · have hfound' : server'.world.handlerOf stream = some spawned := by
      rw [World.handlerOf, hhandlers, List.find?_append]
      unfold World.handlerOf at hfound
      rw [hfound]
      rfl
    obtain ⟨channel, hchannel, -, hopening⟩ := hserves.opened h hfound
    obtain ⟨channel', hchannel', -, hopening'⟩ := hserves'.opened h hfound'
    cases hchannel.symm.trans hchannel'
    exact hopening'.trans hopening.symm
  · change _ ≤ (server'.world.handlers.flatMap _).length
    rw [hhandlers, List.flatMap_append, List.length_append]
    exact Nat.le_add_right _ _

theorem grows_stepHandler {index : Nat} {choice : HandlerChoice} {world : World}
    (hworld : session.server.world.stepHandler index choice = some world) :
    Grows session { session with server.world := world } := by
  obtain ⟨spawned, run, hspawned, hrun, rfl⟩ := World.stepHandler_eq_some.mp hworld
  refine grows_of List.prefix_rfl (fun p => evolves_set p hspawned hrun) (fun _ _ _ => rfl) ?_
  exact length_units_set hspawned (Env.prefix_advance hrun)

end Grows

/-! ## What the receivers are given -/

theorem handlerFrames_eq (history : List HandlerEvent) :
    handlerFrames history = framesWritten history := rfl

theorem filled_filter (encoded : List (UInt32 × List (List UInt8))) :
    Filled (encoded.filter fun picture => !picture.2.isEmpty) := by
  intro picture hpicture hnone
  have hfilled := (List.mem_filter.mp hpicture).2
  rw [hnone] at hfilled
  cases hfilled

section Given

variable {setup : TestSetup} {laterUni laterBi : List ClientStream} {session : TestSession}

theorem Serves.pushed_display (h : setup.Agreed)
    (hserves : Serves setup laterUni laterBi session.server) :
    ∃ shown, session.pushedFrames 0 <+: displayFrames shown ∧ Filled shown ∧
      shown.length ≤ displayFrameCount ∧
      (∀ nal ∈ unitsOf shown, nal.length ≤ maxNalLength) ∧
      (unitsOf shown).length ≤ session.encodedUnits.length := by
  cases hfound : session.server.world.handlerOf 0 with
  | none =>
      refine ⟨[], ?_, nofun, Nat.zero_le _, nofun, Nat.zero_le _⟩
      rw [TestSession.pushedFrames, hfound, framesOf, List.append_nil]
      exact hserves.openingFrames_prefix h 0
  | some spawned =>
      obtain ⟨channel, hchannel, htask, hopening⟩ := hserves.opened h hfound
      cases hchannel
      obtain ⟨hmem, -⟩ := handlerOf_some hfound
      have hbehaves := hserves.behaves spawned hmem
      rw [htask] at hbehaves
      obtain ⟨hsent, hnumbers, -⟩ := displays_sendDisplayFrames _ _ hbehaves.resumes.comesTo
      refine ⟨(encodedPictures spawned.run.history).filter fun picture => !picture.2.isEmpty,
        ?_, filled_filter _, ?_, ?_, ?_⟩
      · have hwritten : framesOf (some spawned) <+:
            pictures (encodedPictures spawned.run.history) := by
          rw [framesOf, handlerFrames_eq]
          exact hsent.written.trans ((List.prefix_append _ _).trans hsent.begun)
        rw [TestSession.pushedFrames, hfound, hopening, displayFrames, pictures_filter]
        exact List.cons_prefix_cons.mpr ⟨rfl, hwritten⟩
      · refine (List.length_filter_le _ _).trans ?_
        have hlength := hnumbers.length_le
        rwa [List.length_map, List.length_map, List.length_range] at hlength
      · rw [unitsOf_filter]
        exact hbehaves.sizes
      · obtain ⟨before, after, hsplit⟩ := List.append_of_mem hmem
        rw [unitsOf_filter, TestSession.encodedUnits, hsplit, List.flatMap_append,
          List.flatMap_cons, List.length_append, List.length_append]
        omega

/-- The Display stream's frames are of its channel, and the receiver can count them. -/
theorem Serves.display_given (h : setup.Agreed)
    (hserves : Serves setup laterUni laterBi session.server) :
    DisplayFrames (session.pushedFrames 0) ∧
      (session.encodedUnits.length < 2 ^ 32 → Countable (session.pushedFrames 0)) := by
  obtain ⟨shown, ⟨rest, hbegins⟩, hfilled, hlength, hsizes, hunits⟩ := hserves.pushed_display h
  refine ⟨fun frame hmem => ?_, fun hcount => ?_⟩
  · exact displayFrames_fit hsizes frame (hbegins ▸ List.mem_append_left rest hmem)
  · exact (hbegins.symm ▸ countable_displayFrames hfilled hsizes hlength
      (hunits.trans_lt hcount)).mono

def cursorFrames : List SentFrame := openingOf cursorChannel :: cursorMoves.map cursorFrame

theorem Serves.pushed_cursor (h : setup.Agreed)
    (hserves : Serves setup laterUni laterBi session.server) :
    session.pushedFrames 1 <+: cursorFrames := by
  cases hfound : session.server.world.handlerOf 1 with
  | none =>
      rw [TestSession.pushedFrames, hfound, framesOf, List.append_nil]
      exact (hserves.openingFrames_prefix h 1).trans (List.prefix_append [_] _)
  | some spawned =>
      obtain ⟨channel, hchannel, htask, hopening⟩ := hserves.opened h hfound
      cases hchannel
      obtain ⟨hmem, -⟩ := handlerOf_some hfound
      have htraffic : HasTraffic setup.server spawned.task
          (cursorMoves.map (some ∘ cursorFrame)) := htask ▸ traffic_cursor setup.server 1
      have hother : isDisplay spawned.task = false := by rw [htask]; rfl
      rw [TestSession.pushedFrames, hfound, hopening]
      exact List.cons_prefix_cons.mpr
        ⟨rfl, ((hserves.behaves spawned hmem).written hother htraffic).1⟩

theorem Serves.cursor_given (h : setup.Agreed)
    (hserves : Serves setup laterUni laterBi session.server) :
    CursorFrames (session.pushedFrames 1) ∧ (session.pushedFrames 1).length < 2 ^ 32 ∧
      (wire (session.pushedFrames 1)).length < 2 ^ 64 := by
  have hbegins := hserves.pushed_cursor h
  have hlength : cursorFrames.length = 6 := rfl
  have hwire : (wire cursorFrames).length < 2 ^ 64 := by decide +kernel
  refine ⟨fun frame hmem => ?_, ?_, (prefix_wire hbegins).length_le.trans_lt hwire⟩
  · rcases List.mem_cons.mp (hbegins.subset hmem) with rfl | hmem
    · exact ⟨⟨.cursorShape, rfl⟩, by decide +kernel⟩
    · obtain ⟨move, -, rfl⟩ := List.mem_map.mp hmem
      refine ⟨⟨.cursorMove, rfl⟩, ?_⟩
      simp [cursorFrame, i32ToLeBytes, maxFrameLength]
  · have := hbegins.length_le
    omega

end Given

end OpenRD.Session
