import Mathlib.Data.List.ReduceOption
import OpenRD.Session.TestMoves

/-!
# What the test client waits for arrives

Wherever the client waits before it joins its receivers, there are steps of the server's
tasks alone after which it can go on.
-/

namespace OpenRD.Session

open OpenRD.Foundation OpenRD.Proto OpenRD.Server
open OpenRD.TestClient (Stream)

/-! ## Steps of the server -/

def TestAction.ofServer : TestAction → Bool
  | .control | .handler .. => true
  | .client _ | .receiver .. => false

def ServerStep (setup : TestSetup) (session next : TestSession) : Prop :=
  ∃ action : TestAction, action.ofServer = true ∧ session.step setup action = some next

theorem TestSession.step_control {setup : TestSetup} {session : TestSession} {server' : State}
    (hstep : (controlEnv setup.server).advance session.server none = some server')
    (hreads : session.ReadsControl setup server') :
    session.step setup .control = some { session with server := server' } := by
  simp only [TestSession.step, Option.bind_eq_bind, hstep, Option.bind_some, if_pos hreads]
  rfl

namespace TestTogether

variable {setup : TestSetup} {session : TestSession}

theorem writes_fit (h : setup.Agreed) (stream : Stream) :
    ∀ frame ∈ setup.writes stream, frame.2.length ≤ maxFrameLength := by
  have hclient {value : Cbor} (hvalue : value ∈ clientValues setup.server) :
      (setup.payload value).length ≤ maxFrameLength := h.payload_fits hvalue
  intro frame hmem
  match stream, hmem with
  | .control, hmem =>
      simp only [h.writes_control, List.mem_cons, List.not_mem_nil, or_false] at hmem
      rcases hmem with rfl | rfl | rfl | rfl | rfl | rfl <;>
        exact hclient (by simp [clientValues])
  | .uni 0, hmem =>
      simp only [TestSetup.writes, List.mem_cons, List.not_mem_nil, or_false] at hmem
      rcases hmem with rfl | rfl | rfl <;> decide +kernel
  | .bi 0, hmem | .bi 1, hmem =>
      simp only [TestSetup.writes, List.mem_cons, List.not_mem_nil, or_false] at hmem
      rcases hmem with rfl | rfl | rfl <;> exact hclient (by simp [clientValues])
  | .bi 2, hmem =>
      simp only [TestSetup.writes, List.mem_cons, List.not_mem_nil, or_false] at hmem
      rcases hmem with rfl | rfl | rfl
      · exact hclient (by simp [clientValues])
      · show TestClient.chunk.length ≤ maxFrameLength
        decide
      · exact hclient (by simp [clientValues])

theorem control_done (h : setup.Agreed) {state : Running Request Request.Answer Output
      Reference Error Unit}
    (hreaches : referenceEnv.Reaches
      (referenceEnv.settle (handleControlStream setup.server) [] setup.reference) state) :
    ControlDone setup state.history state.world := by
  refine hreaches.ties (fun _ _ _ _ _ hdone => hdone.answer (writes_fit h .control))
    (fun _ _ output hdone => hdone.told output) ?_
  exact Running.settle_ties (fun _ _ output hdone => hdone.told output) ⟨rfl, rfl, rfl, rfl⟩

abbrev ControlReference := Running Request Request.Answer Output Reference Error Unit

/-- The Control task is at `state`, and the client has done what `moves` wait for. -/
structure MayGoOn (h : setup.Agreed) (session : TestSession) (state : ControlReference)
    (moves : List ControlMove) : Prop where
  reaches : referenceEnv.Reaches
    (referenceEnv.settle (handleControlStream setup.server) [] setup.reference) state
  tracks : state.Tracks (Agrees (setup.uniStreams.drop session.client.world.openedUni)
    (setup.biStreams.drop session.client.world.openedBi)) session.server
  allows : Allows (session.client.history.filterMap clientMove) moves
  here : state.history.filterMap controlMove <+: moves
  next : ∀ event, state.history ++ [event] <+: h.events →
    (state.history ++ [event]).filterMap controlMove <+: moves

namespace MayGoOn

variable {h : setup.Agreed} {state state' : ControlReference} {moves : List ControlMove}

/-- What the Control task waits for is one of the moves. -/
theorem asked (hmay : MayGoOn h session state moves) {question : Request}
    {next : question.Answer → ControlProg Unit}
    (hprogram : state.program = .ask question next) {move : ControlMove}
    (hmove : ∀ answer, controlMove (.asked question answer) = some move) :
    state.history.filterMap controlMove ++ [move] <+: moves := by
  obtain ⟨final, hcompletes⟩ := h.completes_control
  have hended := hmay.reaches.to_final (hcompletes.leads.reaches []) (Env.advance_ended rfl)
  obtain ⟨answer, hevent⟩ := hended.next_event rfl hprogram
  have hinitial := hmay.next _ hevent
  rwa [List.filterMap_append, List.filterMap_cons_some (hmove answer)] at hinitial

theorem answered (hmay : MayGoOn h session state moves) (htogether : TestTogether setup session)
    {question : Request} {next : question.Answer → ControlProg Unit} {answer : question.Answer}
    {reference : Reference} (hprogram : state.program = .ask question next)
    (hanswer : referenceEnv.answer state.world question () = some (answer, reference)) :
    ∃ world, (controlEnv setup.server).answer session.server.world question none =
        some (answer, world) ∧
      Agrees (setup.uniStreams.drop session.client.world.openedUni)
        (setup.biStreams.drop session.client.world.openedBi) reference world := by
  obtain ⟨client, hclient, hat⟩ := htogether.client_done
  have hcontrol := control_done h hmay.reaches
  refine hmay.tracks.world.answered_of ?_ ?_ ?_ hanswer
  · rintro handle rfl
    exact hmay.allows.joins ((hmay.asked hprogram fun _ => rfl).subset (by simp))
  · rintro rfl
    have hcount := ((hmay.asked hprogram fun _ => rfl).sublist.count_le .acceptsUni).trans
      hmay.allows.uni
    have hmore := uni_of_accepted hanswer
    rw [List.count_append, List.count_singleton_self] at hcount
    rw [hcontrol.uni, List.length_drop] at hmore ⊢
    rw [List.length_drop, hat.openedUni, hclient.openedUni]
    omega
  · rintro rfl
    have hcount := ((hmay.asked hprogram fun _ => rfl).sublist.count_le .acceptsBi).trans
      hmay.allows.bi
    have hmore := bi_of_accepted hanswer
    rw [List.count_append, List.count_singleton_self] at hcount
    rw [hcontrol.bi, List.length_drop] at hmore ⊢
    rw [List.length_drop, hat.openedBi, hclient.openedBi]
    omega

/-- After its next step the Control task has read no more than the client has written. -/
theorem reads_le (hmay : MayGoOn h session state moves)
    (hnext : referenceEnv.advance state () = some state') :
    (state'.history.filterMap controlMove).count .reads ≤
      (session.client.history.filterMap clientMove).count (.writes .control) := by
  obtain ⟨final, hcompletes⟩ := h.completes_control
  have hended := (hmay.reaches.tail hnext).to_final (hcompletes.leads.reaches [])
    (Env.advance_ended rfl)
  have houtputs (front : List ControlEvent) (outputs : List Output) :
      ((front ++ outputs.map Event.told).filterMap controlMove).count ControlMove.reads =
        (front.filterMap controlMove).count ControlMove.reads := by
    rw [List.filterMap_append, List.count_append, Nat.add_eq_left, List.count_eq_zero]
    intro hmem
    obtain ⟨event, hevent, hmove⟩ := List.mem_filterMap.mp hmem
    obtain ⟨output, -, rfl⟩ := List.mem_map.mp hevent
    cases output <;> cases hmove
  rcases Env.advance_adds hnext with ⟨outputs, hhistory, -⟩ |
    ⟨question, next, answer, world, outputs, -, -, hhistory, -⟩
  · rw [hhistory, houtputs]
    exact (hmay.here.sublist.count_le _).trans hmay.allows.reads
  · rw [List.append_cons] at hhistory
    have hfront : state.history ++ [.asked question answer] <+: h.events := by
      refine List.IsPrefix.trans ?_ hended.prefix_history
      exact hhistory ▸ List.prefix_append _ _
    rw [hhistory, houtputs]
    exact ((hmay.next _ hfront).sublist.count_le _).trans hmay.allows.reads

/-- The Control task can take its next step. -/
theorem step (hmay : MayGoOn h session state moves) (htogether : TestTogether setup session)
    (hnext : referenceEnv.advance state () = some state') :
    ∃ server', ServerStep setup session { session with server := server' } ∧
      TestTogether setup { session with server := server' } ∧
      state'.Tracks (Agrees (setup.uniStreams.drop session.client.world.openedUni)
        (setup.biStreams.drop session.client.world.openedBi)) server' := by
  obtain ⟨server', hadvance, htracks⟩ : ∃ server',
      (controlEnv setup.server).advance session.server none = some server' ∧
        state'.Tracks (Agrees (setup.uniStreams.drop session.client.world.openedUni)
          (setup.biStreams.drop session.client.world.openedBi)) server' :=
    hmay.tracks.follow hnext none (fun _ _ output hagrees => hagrees.perform output)
      fun _ _ _ _ hprogram hanswer => hmay.answered htogether hprogram hanswer
  refine ⟨server', ⟨.control, rfl, TestSession.step_control hadvance ?_⟩,
    htogether.control h hadvance, htracks⟩
  have hread := hmay.reads_le hnext
  have hcontents := (control_done h (hmay.reaches.tail hnext)).control
  rw [← htracks.world.control] at hcontents
  rw [TestSession.ReadsControl, TestSession.unsent, htogether.clientFrames_eq h]
  refine onlySent_written hread hcontents fun hreading hnothing => ?_
  have hmove : state.history.filterMap controlMove ++ [.reads] <+: moves := by
    rw [State.reading, hmay.tracks.program] at hreading
    split at hreading
    · next hprogram => exact hmay.asked hprogram fun _ => rfl
    · next hprogram => exact hmay.asked hprogram fun _ => rfl
    · cases hreading
  have hcount := (hmove.sublist.count_le .reads).trans hmay.allows.reads
  rw [List.count_append, List.count_singleton_self] at hcount
  rw [hmay.tracks.world.control, (control_done h hmay.reaches).control] at hnothing
  have hall := htogether.written_le h .control
  have hleft := List.drop_eq_nil_iff.mp (eq_nil_of_wire hnothing)
  omega

end MayGoOn

/-- The Control task can go on as far as the client has allowed it to. -/
theorem control_until (h : setup.Agreed) (htogether : TestTogether setup session) {m : Nat}
    (hallows : Allows (session.client.history.filterMap clientMove) (controlMoves.take m)) :
    ∃ next, Relation.ReflTransGen (ServerStep setup) session next ∧
      TestTogether setup next ∧ next.client = session.client ∧
      controlMoves.take m <+: next.server.history.filterMap controlMove := by
  obtain ⟨reference, hcompletes⟩ := h.completes_control
  have hfinal := hcompletes.leads.reaches []
  obtain ⟨state, hreaches, htracks⟩ := htogether.server.control
  refine (hreaches.to_final hfinal (Env.advance_ended rfl)).drive
    (P := fun state s => referenceEnv.Reaches (referenceEnv.settle
        (handleControlStream setup.server) [] setup.reference) state ∧
      TestTogether setup s ∧ s.client = session.client ∧
      state.Tracks (Agrees (setup.uniStreams.drop session.client.world.openedUni)
        (setup.biStreams.drop session.client.world.openedBi)) s.server)
    ?_ ?_ ⟨hreaches, htogether, rfl, htracks⟩
  · rintro state state' s hnext ⟨hreaches, htogether, hclient, htracks⟩
    by_cases hdone : controlMoves.take m <+: s.server.history.filterMap controlMove
    · exact .inl ⟨htogether, hclient, hdone⟩
    have hhere : state.history.filterMap controlMove <+: controlMoves := by
      rw [← htracks.history]
      exact (htogether.server.prefix_events h).filterMap _
    have hbefore : state.history.filterMap controlMove <+: controlMoves.take m := by
      rw [← htracks.history] at hhere ⊢
      exact (List.prefix_or_prefix_of_prefix hhere (List.take_prefix _ _)).resolve_right hdone
    have hless : (state.history.filterMap controlMove).length < m := by
      refine (lt_of_le_of_ne hbefore.length_le fun hlength => hdone ?_).trans_le
        (List.length_take_le _ _)
      rw [htracks.history]
      exact hbefore.eq_of_length hlength ▸ List.prefix_rfl
    have hmay : MayGoOn h s state (controlMoves.take m) := by
      refine ⟨hreaches, hclient ▸ htracks, hclient ▸ hallows, hbefore, fun event hevent => ?_⟩
      have hlength := List.length_filterMap_le controlMove [event]
      refine List.prefix_take_iff.mpr ⟨hevent.filterMap _, ?_⟩
      rw [List.filterMap_append, List.length_append]
      exact (Nat.add_le_add_left hlength _).trans hless
    obtain ⟨server', hstep, htogether', htracks'⟩ := hmay.step htogether hnext
    exact .inr ⟨_, hstep, hreaches.tail hnext, htogether', hclient, hclient ▸ htracks'⟩
  · rintro s ⟨-, htogether, hclient, htracks⟩
    refine ⟨htogether, hclient, ?_⟩
    rw [htracks.history]
    exact List.take_prefix _ _

end TestTogether

/-! ## The handlers go on -/

abbrev HandlerReference :=
  Running HandlerRequest HandlerRequest.Answer HandlerLog HandlerWorld Error Unit

theorem reliable_default (spawned : Spawned) : Reliable spawned default := by
  unfold Reliable
  split
  · exact List.forall_mem_nil _
  · exact List.forall_mem_nil _
  · exact ⟨rfl, rfl⟩

theorem TestSession.step_handler {setup : TestSetup} {session : TestSession} {index : Nat}
    {choice : HandlerChoice} {spawned : Spawned} {run : HandlerRun}
    (hspawned : session.server.world.handlers[index]? = some spawned)
    (hreliable : Reliable spawned choice)
    (hrun : handlerEnv.advance spawned.run choice = some run)
    (hreads : session.ReadsStream setup spawned run) :
    ∃ world, session.server.world.stepHandler index choice = some world ∧
      world.handlers = session.server.world.handlers.set index { spawned with run } ∧
      session.step setup (.handler index choice) =
        some { session with server.world := world } := by
  have hworld := World.stepHandler_eq_some.mpr ⟨spawned, run, hspawned, hrun, rfl⟩
  refine ⟨_, hworld, rfl, ?_⟩
  simp only [TestSession.step, Option.bind_eq_bind, hspawned, hrun, Option.bind_some,
    if_pos (And.intro hreliable hreads), hworld]
  rfl

/-- Before its answer a handler reads no more than two frames. -/
theorem reads_served {reply : SentFrame} {traffic more : List (Option SentFrame)}
    (h : traffic ++ more <+: servedTraffic reply) (hsilent : traffic.reduceOption = [])
    (hmore : more.length ≤ 1) : (traffic ++ more).count none ≤ 2 := by
  have hshort : traffic.length ≤ 2 := by
    by_contra hlong
    have hanswered : (servedTraffic reply).take 3 <+: traffic :=
      List.prefix_of_prefix_length_le (List.take_prefix _ _)
        ((List.prefix_append _ _).trans h) (Nat.not_le.mp hlong)
    have hwritten : reply ∈ traffic.reduceOption :=
      List.reduceOption_mem_iff.mpr (hanswered.subset (by simp [servedTraffic]))
    rw [hsilent] at hwritten
    cases hwritten
  have hfew : traffic ++ more <+: (servedTraffic reply).take 3 := by
    refine List.prefix_take_iff.mpr ⟨h, ?_⟩
    rw [List.length_append]
    omega
  exact hfew.sublist.count_le none

/-- The reference of a handler has read as many of the client's frames as it says. -/
theorem handler_done {setup : TestSetup} (h : setup.Agreed) {task : Task} {stream : Stream}
    (hrecv : taskRecv task = setup.recv stream) {state : HandlerReference}
    (hreaches : handlerReferenceEnv.Reaches
      (handlerReferenceEnv.settle (task.program setup.server) [] ⟨taskRecv task⟩) state) :
    state.world.recv.items =
      wire ((setup.writes stream).drop ((handlerTraffic state.history).count none)) := by
  let J (history : List HandlerEvent) (world : HandlerWorld) : Prop := world.recv.items =
    wire ((setup.writes stream).drop ((handlerTraffic history).count none))
  have htold (history : List HandlerEvent) (world : HandlerWorld) (output : HandlerLog)
      (hitems : J history world) : J (history ++ [.told output]) world := by
    simp only [J, handlerTraffic_append, List.count_append]
    exact hitems
  refine hreaches.ties ?_ htold (Running.settle_ties htold ?_)
  · intro history world question answer world' hitems hanswer
    simp only [J, handlerTraffic_append, List.count_append]
    cases question with
    | readFullFrameOpt =>
        cases hanswer
        exact rest_of_readFullFrameOpt (TestTogether.writes_fit h stream) hitems
    | initEncoder | encode => cases hanswer
    | writeFrame | finish | sleep =>
        cases hanswer
        exact hitems
  · simp only [J, hrecv]
    rfl

/-- The client sends three frames to this handler, which answers the second. -/
structure Serving (setup : TestSetup) (task : Task) (stream : Stream) (reply : SentFrame) :
    Prop where
  handles : taskStream task = some stream
  given : taskRecv task = setup.recv stream
  traffic : HasTraffic setup.server task (servedTraffic reply)

theorem TestSetup.Agreed.exists_serving {setup : TestSetup} (h : setup.Agreed) {task : Task}
    {number : Nat} (htask : task ∈ setup.tasks) (hstream : taskStream task = some (.bi number)) :
    ∃ reply, Serving setup task (.bi number) reply := by
  simp only [TestSetup.tasks, List.mem_cons, List.not_mem_nil, or_false] at htask
  rcases htask with rfl | rfl | rfl | rfl | rfl | rfl <;> cases hstream
  · exact ⟨_, rfl, rfl, h.traffic_clipboard⟩
  · exact ⟨_, rfl, rfl, h.traffic_chat⟩
  · exact ⟨_, rfl, rfl, h.traffic_file⟩

theorem traffic_advance {W F : Type} {env : Env HandlerRequest HandlerRequest.Answer HandlerLog
      W F} {run run' : Running HandlerRequest HandlerRequest.Answer HandlerLog W Error Unit}
    {choice : F} (hstep : env.advance run choice = some run') :
    ∃ more, handlerTraffic run'.history = handlerTraffic run.history ++ more ∧
      more.length ≤ 1 := by
  have houtputs (outputs : List HandlerLog) : handlerTraffic (outputs.map .told) = [] := by
    rw [handlerTraffic, List.filterMap_map, List.filterMap_eq_nil_iff]
    exact fun _ _ => rfl
  rcases Env.advance_adds hstep with ⟨outputs, hhistory, -⟩ |
    ⟨question, next, answer, world, outputs, -, -, hhistory, -⟩
  · exact ⟨[], by rw [hhistory, handlerTraffic_append, houtputs], Nat.zero_le _⟩
  · refine ⟨handlerTraffic [.asked question answer], ?_, List.length_filterMap_le _ _⟩
    rw [hhistory, List.append_cons, handlerTraffic_append, houtputs, handlerTraffic_append,
      List.append_nil]

section Traffic

variable {server : ServerConfig} {task : Task} {traffic : List (Option SentFrame)}
  {state : HandlerReference}

theorem HasTraffic.begun (h : HasTraffic server task traffic)
    (hreaches : handlerReferenceEnv.Reaches
      (handlerReferenceEnv.settle (task.program server) [] ⟨taskRecv task⟩) state) :
    handlerTraffic state.history <+: traffic := by
  obtain ⟨events, world, rfl, hcompletes⟩ := h
  exact (hreaches.to_final (hcompletes.leads.reaches [])
    (Env.advance_ended rfl)).prefix_history.filterMap _

theorem HasTraffic.next_read (h : HasTraffic server task traffic)
    (hreaches : handlerReferenceEnv.Reaches
      (handlerReferenceEnv.settle (task.program server) [] ⟨taskRecv task⟩) state)
    {next : HandlerRequest.readFullFrameOpt.Answer → HandlerProg Unit}
    (hprogram : state.program = .ask .readFullFrameOpt next) :
    handlerTraffic state.history ++ [none] <+: traffic := by
  obtain ⟨events, world, rfl, hcompletes⟩ := h
  obtain ⟨answer, hevent⟩ := (hreaches.to_final (hcompletes.leads.reaches [])
    (Env.advance_ended rfl)).next_event rfl hprogram
  have hinitial : handlerTraffic (state.history ++ [.asked .readFullFrameOpt answer]) <+:
      handlerTraffic events := hevent.filterMap _
  rwa [handlerTraffic_append] at hinitial

end Traffic

/-- The handler is the first on the client's stream, and has come as far as `state`. -/
structure HandlerHere (setup : TestSetup) (session : TestSession) (task : Task)
    (stream : Stream) (state : HandlerReference) (before : List Spawned) (spawned : Spawned)
    (after : List Spawned) : Prop where
  handlers : session.server.world.handlers = before ++ spawned :: after
  first : ∀ other ∈ before, taskStream other.task ≠ some stream
  runs : spawned.task = task
  reaches : handlerReferenceEnv.Reaches
    (handlerReferenceEnv.settle (task.program setup.server) [] ⟨taskRecv task⟩) state
  tracks : state.Tracks Eq spawned.run

namespace HandlerHere

variable {setup : TestSetup} {session : TestSession} {task : Task} {stream : Stream}
  {state state' : HandlerReference} {before after : List Spawned} {spawned : Spawned}
  {reply : SentFrame}

theorem handlerOn (hhere : HandlerHere setup session task stream state before spawned after)
    (hstream : taskStream task = some stream) :
    session.server.world.handlerOn stream = some spawned := by
  have hnone : before.find? (fun other => taskStream other.task == some stream) = none := by
    refine List.find?_eq_none.mpr fun other hmem => ?_
    simpa using hhere.first other hmem
  have hsome : (taskStream spawned.task == some stream) = true := by
    rw [hhere.runs, hstream]
    exact beq_self_eq_true _
  rw [World.handlerOn, hhere.handlers, List.find?_append, hnone, List.find?_cons, hsome]
  rfl

theorem advance (hhere : HandlerHere setup session task stream state before spawned after)
    (hnext : handlerReferenceEnv.advance state () = some state') :
    ∃ run, handlerEnv.advance spawned.run default = some run ∧ state'.Tracks Eq run := by
  refine hhere.tracks.follow hnext default (fun _ _ _ => id) ?_
  intro question next answer world _ hanswer
  rw [← hhere.tracks.world]
  cases question with
  | initEncoder | encode => cases hanswer
  | readFullFrameOpt | writeFrame | finish | sleep => exact ⟨world, hanswer, rfl⟩

/-- A handler that has not answered yet reads what the client has written. -/
theorem reads (h : setup.Agreed) (htogether : TestTogether setup session)
    (hserving : Serving setup task stream reply)
    (hhere : HandlerHere setup session task stream state before spawned after)
    (hwritten : 2 ≤ (session.client.history.filterMap clientMove).count (.writes stream))
    (hsilent : handlerFrames spawned.run.history = []) {run : HandlerRun}
    (hnext : handlerReferenceEnv.advance state () = some state')
    (htracks : state'.Tracks Eq run) : session.ReadsStream setup spawned run := by
  have hreaches' := hhere.reaches.tail hnext
  rw [hhere.tracks.history, handlerFrames_traffic] at hsilent
  have hread : (handlerTraffic state'.history).count none ≤ 2 := by
    obtain ⟨more, hmore, hlength⟩ := traffic_advance hnext
    have hinitial := hserving.traffic.begun hreaches'
    rw [hmore] at hinitial ⊢
    exact reads_served hinitial hsilent hlength
  intro stream' hstream'
  rw [hhere.runs, hserving.handles] at hstream'
  cases hstream'
  have hcontents := handler_done h hserving.given hreaches'
  rw [htracks.world] at hcontents
  rw [TestSession.unsent, htogether.clientFrames_eq h]
  refine onlySent_written (hread.trans hwritten) hcontents fun hreading hnothing => ?_
  have hnextRead : handlerTraffic state.history ++ [none] <+: servedTraffic reply := by
    rw [Spawned.reading, hhere.tracks.program] at hreading
    split at hreading
    · next hprogram => exact hserving.traffic.next_read hhere.reaches hprogram
    · cases hreading
  have hcount := reads_served hnextRead hsilent le_rfl
  rw [List.count_append, List.count_singleton_self] at hcount
  rw [← hhere.tracks.world, handler_done h hserving.given hhere.reaches] at hnothing
  have hall := htogether.written_le h stream
  have hleft := List.drop_eq_nil_iff.mp (eq_nil_of_wire hnothing)
  omega

/-- A handler that has not answered yet can take its next step. -/
theorem step (h : setup.Agreed) (htogether : TestTogether setup session)
    (hserving : Serving setup task stream reply)
    (hhere : HandlerHere setup session task stream state before spawned after)
    (hwritten : 2 ≤ (session.client.history.filterMap clientMove).count (.writes stream))
    (hsilent : handlerFrames spawned.run.history = [])
    (hnext : handlerReferenceEnv.advance state () = some state') :
    ∃ world run, ServerStep setup session { session with server.world := world } ∧
      TestTogether setup { session with server.world := world } ∧
      HandlerHere setup { session with server.world := world } task stream state' before
        { spawned with run } after := by
  obtain ⟨run, hrun, htracks⟩ := hhere.advance hnext
  have hspawned : session.server.world.handlers[before.length]? = some spawned := by
    rw [hhere.handlers, List.getElem?_append_right le_rfl, Nat.sub_self]
    rfl
  obtain ⟨world, hworld, hhandlers, hstep⟩ := TestSession.step_handler hspawned
    (reliable_default spawned) hrun
    (hhere.reads h htogether hserving hwritten hsilent hnext htracks)
  refine ⟨world, run, ⟨_, rfl, hstep⟩,
    htogether.handler h hspawned (reliable_default spawned) hworld, ?_⟩
  refine ⟨?_, hhere.first, hhere.runs, hhere.reaches.tail hnext, htracks⟩
  rw [hhandlers, hhere.handlers, List.set_append_right _ _ le_rfl, Nat.sub_self,
    List.set_cons_zero]

end HandlerHere

namespace TestTogether

variable {setup : TestSetup} {session : TestSession} {task : Task} {stream : Stream}
  {state : HandlerReference} {before after : List Spawned} {spawned : Spawned}
  {reply : SentFrame}

/-- A handler that has been sent two frames can go on until it has answered. -/
theorem handler_until (h : setup.Agreed) (htogether : TestTogether setup session)
    (hserving : Serving setup task stream reply)
    (hhere : HandlerHere setup session task stream state before spawned after)
    (hwritten : 2 ≤ (session.client.history.filterMap clientMove).count (.writes stream)) :
    ∃ next, Relation.ReflTransGen (ServerStep setup) session next ∧
      TestTogether setup next ∧ next.client = session.client ∧
      framesOf (next.server.world.handlerOn stream) ≠ [] := by
  obtain ⟨events, world, hevents, hcompletes⟩ := hserving.traffic
  have hfinal := hcompletes.leads.reaches []
  refine (hhere.reaches.to_final hfinal (Env.advance_ended rfl)).drive
    (P := fun state s => TestTogether setup s ∧ s.client = session.client ∧
      ∃ spawned, HandlerHere setup s task stream state before spawned after)
    ?_ ?_ ⟨htogether, rfl, spawned, hhere⟩
  · rintro state state' s hnext ⟨htogether, hclient, spawned, hhere⟩
    by_cases hsilent : handlerFrames spawned.run.history = []
    · rw [← hclient] at hwritten
      obtain ⟨world, run, hstep, htogether', hhere'⟩ :=
        hhere.step h htogether hserving hwritten hsilent hnext
      exact .inr ⟨_, hstep, htogether', hclient, _, hhere'⟩
    · refine .inl ⟨htogether, hclient, ?_⟩
      rwa [hhere.handlerOn hserving.handles]
  · rintro s ⟨htogether, hclient, spawned, hhere⟩
    refine ⟨htogether, hclient, ?_⟩
    rw [hhere.handlerOn hserving.handles, framesOf, hhere.tracks.history, handlerFrames_traffic]
    change (handlerTraffic events).reduceOption ≠ []
    rw [hevents]
    exact List.cons_ne_nil _ _

/-- Once the Control task has started it, the handler of a stream is there. -/
theorem handler_here (h : setup.Agreed) (htogether : TestTogether setup session) {number : Nat}
    (hspawned : .spawns (some (.bi number)) ∈ session.server.history.filterMap controlMove) :
    ∃ task reply state before spawned after, Serving setup task (.bi number) reply ∧
      HandlerHere setup session task (.bi number) state before spawned after := by
  obtain ⟨event, hevent, hmove⟩ := List.mem_filterMap.mp hspawned
  obtain ⟨task, rfl, hstream⟩ := controlMove_spawns hmove
  have htask : task ∈ session.server.world.handlers.map Spawned.task := by
    rw [htogether.server.tasks]
    exact List.mem_filterMap.mpr ⟨_, hevent, rfl⟩
  obtain ⟨started, hstarted, rfl⟩ := List.mem_map.mp htask
  have hfound : ((session.server.world.handlers.find? fun spawned =>
      taskStream spawned.task == some (.bi number))).isSome := by
    refine List.find?_isSome.mpr ⟨started, hstarted, ?_⟩
    rw [hstream]
    exact beq_self_eq_true _
  obtain ⟨spawned, hspawned⟩ := Option.isSome_iff_exists.mp hfound
  obtain ⟨hfirst, before, after, hsplit, hbefore⟩ := List.find?_eq_some_iff_append.mp hspawned
  have hmem : spawned ∈ session.server.world.handlers := by
    rw [hsplit]
    simp
  have hsame : taskStream spawned.task = some (.bi number) := beq_iff_eq.mp hfirst
  obtain ⟨reply, hserving⟩ := h.exists_serving (htogether.server.task_mem h hmem) hsame
  have hother : isDisplay spawned.task = false :=
    (h.traffic_replies (htogether.server.task_mem h hmem) hsame).1
  obtain ⟨state, hreaches, htracks⟩ := (htogether.server.behaves spawned hmem).follows hother
  refine ⟨_, reply, state, before, spawned, after, hserving, hsplit, ?_, rfl, hreaches, htracks⟩
  intro other hmem
  simpa using hbefore other hmem

end TestTogether

/-! ## What the client waits for -/

theorem TestSession.step_client {setup : TestSetup} {session : TestSession}
    {question : TestClient.Request} {next : question.Answer → TestClient.ClientProg Unit}
    (hprogram : session.client.program = .ask question next) {cuts : List Nat}
    {answer : question.Answer} {world : ClientWorld}
    (hanswer : (setup.clientEnv session.incoming).answer session.client.world question cuts =
      some (answer, world)) : ∃ after, session.step setup (.client cuts) = some after := by
  obtain ⟨client, hadvance⟩ : ∃ client,
      (setup.clientEnv session.incoming).advance session.client cuts = some client := by
    simp only [Env.advance, hprogram, hanswer, Option.map_some]
    exact ⟨_, rfl⟩
  refine ⟨⟨{ session.server with world := session.opened setup }, client⟩, ?_⟩
  simp only [TestSession.step, Option.bind_eq_bind, hadvance, Option.bind_some]
  rfl

namespace TestTogether

variable {setup : TestSetup} {session : TestSession}

/-- A frame the server has written and the client has not read can be read. -/
theorem client_reads (h : setup.Agreed) (htogether : TestTogether setup session)
    {stream : Stream} (hmore : (session.client.history.filterMap clientMove).count (.reads stream) <
      (session.incoming.frames stream).length) (cuts : List Nat) :
    ∃ result read, readSome TestClient.readFrame (session.incoming.frames stream)
      (session.incoming.ended stream) (session.client.world.read stream) cuts =
        some (result, read) := by
  obtain ⟨reference, hdone, hat⟩ := htogether.client_done
  obtain ⟨seen, hreplies, ⟨more, hwritten⟩, hread⟩ := hat.read stream
  obtain ⟨hbegins, -⟩ := htogether.server.replied h stream
  rw [hdone.left] at hreplies
  have hlengths := congrArg List.length hreplies
  have hall := hbegins.length_le
  rw [List.length_append, List.length_drop] at hlengths
  rw [hread, ← hwritten]
  rw [← hwritten, List.length_append] at hmore
  cases more with
  | nil =>
      rw [← hwritten, List.length_append] at hall
      simp only [List.length_nil] at hmore hall
      omega
  | cons frame more =>
      have hfits : frame.2.length ≤ maxFrameLength :=
        h.replies_fit stream frame (hbegins.subset (hwritten ▸ by simp))
      exact ⟨_, _, readSome_frame takesFrame_readFrame hfits _ cuts⟩

theorem pushed_eq (htogether : TestTogether setup session) (h : setup.Agreed) :
    session.server.world.serverStreams =
      (session.server.history.filterMap controlMove).count .opens := by
  obtain ⟨state, hreaches, htracks⟩ := htogether.server.control
  rw [htracks.world.serverStreams, htracks.history]
  exact (control_done h hreaches).opened

/-- The Control task can do all that the client's next move awaits of it. -/
theorem control_awaited (h : setup.Agreed) (htogether : TestTogether setup session)
    {move : ClientMove}
    (hmove : session.client.history.filterMap clientMove ++ [move] <+: clientMoves) :
    ∃ later, Relation.ReflTransGen (ServerStep setup) session later ∧
      TestTogether setup later ∧ later.client = session.client ∧
      ∃ moves, moves <+: later.server.history.filterMap controlMove ∧
        Awaits (session.client.history.filterMap clientMove) moves move := by
  have htake := List.prefix_iff_eq_take.mp ((List.prefix_append _ _).trans hmove)
  have hlength := hmove.length_le
  rw [List.length_append, List.length_singleton] at hlength
  have hnext : move ∈ clientMoves[(session.client.history.filterMap clientMove).length]? := by
    obtain ⟨rest, hrest⟩ := hmove
    rw [← hrest, List.append_assoc, List.getElem?_append_right le_rfl, Nat.sub_self]
    rfl
  obtain ⟨m, -, hallows, hawaits⟩ := allows_awaited _ hlength move hnext
  rw [← htake] at hallows hawaits
  obtain ⟨later, hsteps, htogether', hclient, hmoves⟩ := htogether.control_until h hallows
  exact ⟨later, hsteps, htogether', hclient, _, hmoves, hawaits⟩

end TestTogether

namespace TestTogether

variable {setup : TestSetup} {session : TestSession}

/-- The frame the client waits for. -/
theorem frame_arrives (h : setup.Agreed) (htogether : TestTogether setup session)
    {stream : Stream}
    (hmove : session.client.history.filterMap clientMove ++ [.reads stream] <+: clientMoves) :
    ∃ later, Relation.ReflTransGen (ServerStep setup) session later ∧
      TestTogether setup later ∧ later.client = session.client ∧
      (later.client.history.filterMap clientMove).count (.reads stream) <
        (later.incoming.frames stream).length := by
  obtain ⟨later, hsteps, htogether', hclient, moves, hmoves, hawaits⟩ :=
    htogether.control_awaited h hmove
  rw [← hclient] at hawaits
  cases stream with
  | control =>
      refine ⟨later, hsteps, htogether', hclient, hawaits.trans_le ?_⟩
      exact (hmoves.sublist.count_le _).trans (length_controlFrames _).ge
  | uni number =>
      have hmem : .reads (.uni number) ∈ clientMoves := hmove.subset (by simp)
      simp [clientMoves, openMoves, exerciseMoves] at hmem
  | bi number =>
      obtain ⟨hspawned, hwritten, hunread⟩ := hawaits
      obtain ⟨task, reply, state, before, spawned, after, hserving, hhere⟩ :=
        htogether'.handler_here h (hmoves.subset hspawned)
      obtain ⟨answered, hsteps', htogether'', hclient', hframes⟩ :=
        htogether'.handler_until h hserving hhere hwritten
      refine ⟨answered, hsteps.trans hsteps', htogether'', hclient'.trans hclient, ?_⟩
      rw [hclient', hunread]
      exact List.length_pos_iff.mpr hframes

/-- Wherever the client waits, before it joins its receivers, the server can let it go on. -/
theorem client_goes_on (h : setup.Agreed) (htogether : TestTogether setup session)
    {question : TestClient.Request} {next : question.Answer → TestClient.ClientProg Unit}
    (hprogram : session.client.program = .ask question next)
    (hjoin : ∀ receiver, question ≠ .join receiver) :
    ∃ later, Relation.ReflTransGen (ServerStep setup) session later ∧
      later.client = session.client ∧
      ∀ cuts, ∃ after, later.step setup (.client cuts) = some after := by
  cases question with
  | writeFrame | finish | sleep | openUni | openBi =>
      exact ⟨session, .refl, rfl, fun cuts => TestSession.step_client hprogram rfl⟩
  | join receiver => exact absurd rfl (hjoin receiver)
  | readFrame stream =>
      obtain ⟨later, hsteps, htogether', hclient, hmore⟩ :=
        htogether.frame_arrives h (htogether.client_next h hprogram fun _ => rfl)
      refine ⟨later, hsteps, hclient, fun cuts => ?_⟩
      obtain ⟨result, read, hread⟩ := htogether'.client_reads h hmore cuts
      have hanswer : (setup.clientEnv later.incoming).answer later.client.world
          (.readFrame stream) cuts =
            some (result, later.client.world.readTo stream read) := by
        simp only [TestSetup.clientEnv, clientEnv, hread, Option.map_some]
      rw [← hclient] at hprogram
      exact TestSession.step_client hprogram hanswer
  | acceptUni =>
      obtain ⟨later, hsteps, htogether', hclient, moves, hmoves, hawaits⟩ :=
        htogether.control_awaited h (htogether.client_next h hprogram fun _ => rfl)
      obtain ⟨reference, hdone, hat⟩ := htogether'.client_done
      rw [← hclient] at hprogram hawaits
      refine ⟨later, hsteps, hclient, fun cuts => TestSession.step_client hprogram (if_pos ?_)⟩
      rw [hat.accepted, hdone.accepted]
      refine hawaits.trans_le ((hmoves.sublist.count_le _).trans ?_)
      exact (htogether'.pushed_eq h).ge

end TestTogether

end OpenRD.Session
