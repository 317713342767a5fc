import OpenRD.Session.TestServer

/-!
# The test client against the server

The client's reads are tied to what the server has written: every frame it waits for is
the next of the server's replies, and its receivers have the streams of their channels.
-/

namespace OpenRD.Session

open OpenRD.Foundation OpenRD.Proto OpenRD.Server
open OpenRD.TestClient (Stream Receiver)

/-! ## Where the client is -/

/-- The client has read part of what is on each stream, and has yet to read the rest. -/
structure ClientAt (setup : TestSetup) (frames : Stream → List SentFrame)
    (reference : ClientReference) (world : ClientWorld) : Prop where
  openedUni : world.openedUni = reference.openedUni
  openedBi : world.openedBi = reference.openedBi
  accepted : world.accepted = reference.accepted
  read : ∀ stream, ∃ seen, setup.replies stream = seen ++ reference.left stream ∧
    seen <+: frames stream ∧ world.read stream = (wire seen).length

section ClientAt

variable {setup : TestSetup} {frames frames' : Stream → List SentFrame}
  {reference reference' : ClientReference} {world world' : ClientWorld}

theorem ClientAt.mono (h : ClientAt setup frames reference world)
    (hframes : ∀ stream, frames stream <+: frames' stream) :
    ClientAt setup frames' reference world := by
  refine ⟨h.openedUni, h.openedBi, h.accepted, fun stream => ?_⟩
  obtain ⟨seen, hreplies, hseen, hread⟩ := h.read stream
  exact ⟨seen, hreplies, hseen.trans (hframes stream), hread⟩

theorem ClientAt.perform {incoming : Incoming} (h : ClientAt setup frames reference world)
    (output : TestClient.Output) :
    ClientAt setup frames (clientReferenceEnv.perform reference output)
      ((setup.clientEnv incoming).perform world output) := by
  cases output <;> exact ⟨h.openedUni, h.openedBi, h.accepted, h.read⟩

/-- The server writes its replies in order, and stops only when it has written all. -/
def Replies (setup : TestSetup) (incoming : Incoming) : Prop :=
  ∀ stream, incoming.frames stream <+: setup.replies stream ∧
    (incoming.ended stream = true → incoming.frames stream = setup.replies stream)

theorem ClientAt.readFrame {incoming : Incoming} {stream : Stream} {cuts : List Nat}
    (h : ClientAt setup incoming.frames reference world) (hreplies : Replies setup incoming)
    (hfits : ∀ frame ∈ setup.replies stream, frame.2.length ≤ maxFrameLength)
    {frame : SentFrame} {rest : List SentFrame} (hleft : reference.left stream = frame :: rest)
    {result : Except Error (List UInt8)} {read : Nat}
    (hread : readSome TestClient.readFrame (incoming.frames stream) (incoming.ended stream)
      (world.read stream) cuts = some (result, read)) :
    result = .ok frame.bytes ∧
      ClientAt setup incoming.frames (reference.leave stream rest)
        (world.readTo stream read) := by
  obtain ⟨seen, hall, ⟨more, hmore⟩, hworld⟩ := h.read stream
  obtain ⟨hbegins, hended⟩ := hreplies stream
  rw [hall, hleft, ← hmore] at hbegins hended
  rw [hworld, ← hmore] at hread
  cases more with
  | nil =>
      rw [List.append_nil] at hended hread
      cases hstate : incoming.ended stream with
      | false =>
          rw [hstate, readSome_waits] at hread
          cases hread
      | true => exact absurd (hended hstate) (by simp)
  | cons found more =>
      have hsame := (List.prefix_append_right_inj seen).mp hbegins
      obtain ⟨rfl, -⟩ := List.cons_prefix_cons.mp hsame
      have hframe : found.2.length ≤ maxFrameLength :=
        hfits found (by rw [hall, hleft]; simp)
      rw [readSome_frame takesFrame_readFrame hframe] at hread
      cases hread
      refine ⟨rfl, h.openedUni, h.openedBi, h.accepted, fun other => ?_⟩
      by_cases hother : other = stream
      · subst hother
        refine ⟨seen ++ [found], ?_, ⟨more, ?_⟩, if_pos rfl⟩
        · rw [hall, hleft]
          simp [ClientReference.leave]
        · rw [← hmore]
          simp
      · obtain ⟨seen', hall', hseen', hworld'⟩ := h.read other
        refine ⟨seen', ?_, hseen', ?_⟩
        · simpa [ClientReference.leave, hother] using hall'
        · simpa [ClientWorld.readTo, hother] using hworld'

theorem TestSetup.Agreed.replies_fit (h : setup.Agreed) (stream : Stream) :
    ∀ frame ∈ setup.replies stream, frame.2.length ≤ maxFrameLength := by
  have hserver {value : Cbor} (hvalue : value ∈ serverValues setup.server) :
      (setup.payload value).length ≤ maxFrameLength := (h.carries_server hvalue).fits
  intro frame hmem
  match stream, hmem with
  | .control, hmem =>
      simp only [TestSetup.replies, List.mem_cons, List.not_mem_nil, or_false] at hmem
      rcases hmem with rfl | rfl | rfl | rfl | rfl | rfl | rfl | rfl <;>
        exact hserver (by simp [serverValues])
  | .bi 0, hmem | .bi 1, hmem =>
      rw [List.mem_singleton.mp hmem]
      exact hserver (by simp [serverValues])
  | .bi 2, hmem =>
      rw [List.mem_singleton.mp hmem]
      decide

/-- The client gets the answers of its one run. -/
theorem ClientAt.answer {incoming : Incoming} {cuts : List Nat}
    (h : ClientAt setup incoming.frames reference world) (hreplies : Replies setup incoming)
    (hfits : ∀ stream, ∀ frame ∈ setup.replies stream, frame.2.length ≤ maxFrameLength)
    (hjoined : ∀ receiving ∈ world.receivers, ∀ result,
      receiving.run.outcome = some result → result = .ok ())
    {question : TestClient.Request} {answer answer' : question.Answer}
    (hreference : clientReferenceEnv.answer reference question () = some (answer', reference'))
    (hanswer : (setup.clientEnv incoming).answer world question cuts =
      some (answer, world')) :
    answer = answer' ∧ ClientAt setup incoming.frames reference' world' := by
  cases question with
  | writeFrame | finish | sleep =>
      cases hreference
      cases hanswer
      exact ⟨rfl, h⟩
  | readFrame stream =>
      simp only [clientReferenceEnv] at hreference
      split at hreference
      · next frame rest hleft =>
          cases hreference
          obtain ⟨⟨result, read⟩, hread, hpair⟩ := Option.map_eq_some_iff.mp hanswer
          cases hpair
          exact h.readFrame hreplies (hfits stream) hleft hread
      · cases hreference
  | openUni =>
      simp only [clientReferenceEnv, Option.ite_none_right_eq_some] at hreference
      obtain ⟨-, hreference⟩ := hreference
      cases hreference
      cases hanswer
      exact ⟨congrArg Except.ok h.openedUni, congrArg (· + 1) h.openedUni, h.openedBi,
        h.accepted, h.read⟩
  | openBi =>
      simp only [clientReferenceEnv, Option.ite_none_right_eq_some] at hreference
      obtain ⟨-, hreference⟩ := hreference
      cases hreference
      cases hanswer
      exact ⟨congrArg Except.ok h.openedBi, h.openedUni, congrArg (· + 1) h.openedBi,
        h.accepted, h.read⟩
  | acceptUni =>
      simp only [clientReferenceEnv, Option.ite_none_right_eq_some] at hreference
      obtain ⟨-, hreference⟩ := hreference
      cases hreference
      simp only [TestSetup.clientEnv, clientEnv, Option.ite_none_right_eq_some] at hanswer
      obtain ⟨-, hanswer⟩ := hanswer
      cases hanswer
      exact ⟨congrArg Except.ok h.accepted, h.openedUni, h.openedBi,
        congrArg (· + 1) h.accepted, h.read⟩
  | join receiver =>
      cases hreference
      simp only [TestSetup.clientEnv, clientEnv] at hanswer
      split at hanswer
      · next receiving hfound =>
          obtain ⟨result, houtcome, hpair⟩ := Option.map_eq_some_iff.mp hanswer
          cases hpair
          exact ⟨hjoined receiving (List.mem_of_find?_eq_some hfound) _ houtcome, h⟩
      · cases hanswer

end ClientAt

/-! ## What a step of the client changes -/

section Client

variable {setup : TestSetup} {incoming : Incoming} {client client' : ClientRun}
  {cuts : List Nat}

theorem opened_perform (world : ClientWorld) (output : TestClient.Output) :
    (((setup.clientEnv incoming).perform world output).openedUni,
      ((setup.clientEnv incoming).perform world output).openedBi) =
      (world.openedUni, world.openedBi) := by
  cases output <;> rfl

theorem opened_outputs (outputs : List TestClient.Output) (world : ClientWorld) :
    ((outputs.foldl (setup.clientEnv incoming).perform world).openedUni,
      (outputs.foldl (setup.clientEnv incoming).perform world).openedBi) =
      (world.openedUni, world.openedBi) := by
  induction outputs generalizing world with
  | nil => rfl
  | cons output outputs ih => exact (ih _).trans (opened_perform world output)

theorem opened_settle (program : TestClient.ClientProg Unit)
    (history : List TestClient.ClientEvent) (world : ClientWorld) :
    (((setup.clientEnv incoming).settle program history world).world.openedUni,
      ((setup.clientEnv incoming).settle program history world).world.openedBi) =
      (world.openedUni, world.openedBi) := by
  obtain ⟨outputs, -, hworld⟩ := (setup.clientEnv incoming).settle_adds program history world
  rw [hworld]
  exact opened_outputs outputs world

/-- The streams a client that waits for `question` will have opened by the answer. -/
def opensBy (world : ClientWorld) : TestClient.Request → Nat × Nat
  | .openUni => (world.openedUni + 1, world.openedBi)
  | .openBi => (world.openedUni, world.openedBi + 1)
  | _ => (world.openedUni, world.openedBi)

theorem opened_answer {world world' : ClientWorld} {question : TestClient.Request}
    {answer : question.Answer}
    (h : (setup.clientEnv incoming).answer world question cuts = some (answer, world')) :
    (world'.openedUni, world'.openedBi) = opensBy world question ∧
      world'.receivers = world.receivers := by
  cases question with
  | writeFrame | finish | sleep | openUni | openBi =>
      cases h
      exact ⟨rfl, rfl⟩
  | readFrame stream =>
      obtain ⟨⟨result, read⟩, -, hpair⟩ := Option.map_eq_some_iff.mp h
      cases hpair
      exact ⟨rfl, rfl⟩
  | acceptUni =>
      simp only [TestSetup.clientEnv, clientEnv, Option.ite_none_right_eq_some] at h
      obtain ⟨-, h⟩ := h
      cases h
      exact ⟨rfl, rfl⟩
  | join receiver =>
      simp only [TestSetup.clientEnv, clientEnv] at h
      split at h
      · obtain ⟨result, -, hpair⟩ := Option.map_eq_some_iff.mp h
        cases hpair
        exact ⟨rfl, rfl⟩
      · cases h

theorem opened_advance (h : (setup.clientEnv incoming).advance client cuts = some client') :
    (client'.world.openedUni, client'.world.openedBi) =
      match client.program with
      | .ask question _ => opensBy client.world question
      | _ => (client.world.openedUni, client.world.openedBi) := by
  obtain ⟨program, history, world⟩ := client
  cases program with
  | ret value => simp [Env.advance] at h
  | fail error => simp [Env.advance] at h
  | tell output next =>
      cases h
      exact (opened_settle _ _ _).trans (opened_perform world output)
  | ask question next =>
      simp only [Env.advance, Option.map_eq_some_iff] at h
      obtain ⟨⟨answer, world'⟩, hanswer, rfl⟩ := h
      rw [opened_settle]
      exact (opened_answer hanswer).1
  | loop body state next =>
      cases h
      exact opened_settle _ _ _

/-- All receivers have the property, and the client has said that it starts them. -/
def Started (P : Receiving → Prop) (history : List TestClient.ClientEvent)
    (world : ClientWorld) : Prop :=
  ∀ receiving ∈ world.receivers,
    P receiving ∧ .told (.spawn receiving.receiver receiving.stream) ∈ history

theorem Started.perform {P : Receiving → Prop} {history : List TestClient.ClientEvent}
    {world : ClientWorld} (h : Started P history world)
    (hstart : ∀ receiver stream,
      P (.start setup.clientChecks setup.dumpPath receiver stream))
    (output : TestClient.Output) :
    Started P (history ++ [.told output]) ((setup.clientEnv incoming).perform world output) := by
  intro receiving hmem
  have hold (hmem : receiving ∈ world.receivers) : P receiving ∧
      .told (.spawn receiving.receiver receiving.stream) ∈ history ++ [.told output] :=
    (h receiving hmem).imp_right (List.mem_append_left _)
  cases output with
  | spawn receiver stream =>
      rcases List.mem_append.mp hmem with hmem | hmem
      · exact hold hmem
      · cases List.mem_singleton.mp hmem
        exact ⟨hstart receiver stream, List.mem_append_right _ (.head _)⟩
  | print line | close code reason => exact hold hmem

/-- The receivers after a step are those there were, and new ones at their start. -/
theorem Started.advance {P : Receiving → Prop} (h : Started P client.history client.world)
    (hstart : ∀ receiver stream,
      P (.start setup.clientChecks setup.dumpPath receiver stream))
    (hstep : (setup.clientEnv incoming).advance client cuts = some client') :
    Started P client'.history client'.world := by
  refine Running.advance_ties ?_ (fun _ _ output h => h.perform hstart output) h hstep
  intro history world question choice answer world' hstarted hanswer receiving hmem
  rw [(opened_answer hanswer).2] at hmem
  exact (hstarted receiving hmem).imp_right (List.mem_append_left _)

end Client

theorem opened_control {server : ServerConfig} {state state' : State}
    (h : (controlEnv server).advance state none = some state') :
    state'.world.openedUni = state.world.openedUni ∧
      state'.world.openedBi = state.world.openedBi := by
  refine Running.advance_ties (J := fun _ world => world.openedUni = state.world.openedUni ∧
    world.openedBi = state.world.openedBi) ?_ ?_ ⟨rfl, rfl⟩ h
  · intro history world question fault answer world' hopened hanswer
    cases question with
    | readFullFrame | readFullFrameOpt | writeFrame | openUni | writeUni =>
        cases hanswer
        exact hopened
    | acceptUni | acceptBi =>
        simp only [controlEnv] at hanswer
        split at hanswer <;> cases hanswer <;> exact hopened
    | join handle =>
        simp only [controlEnv] at hanswer
        split at hanswer <;> cases hanswer
        exact hopened
  · intro history world output hopened
    cases output <;> exact hopened

/-! ## All of a session -/

/-- What the stream may turn out to be in the end. -/
structure TestSession.MayEndAs (session : TestSession) (stream : Nat)
    (frames : List SentFrame) : Prop where
  written : session.pushedFrames stream <+: frames
  ended : session.pushedEnded stream = true → frames = session.pushedFrames stream

/-- A receiver is where it would be on any stream that this one may turn out to be. -/
def TestSession.Receives (setup : TestSetup) (session : TestSession) (receiving : Receiving) :
    Prop :=
  ∀ frames, session.MayEndAs receiving.stream frames →
    FollowsReceiver setup receiving.receiver (session.pushedFrames receiving.stream) frames
      receiving.run

theorem TestSession.receives_start (setup : TestSetup) (session : TestSession)
    (receiver : Receiver) (stream : Nat) : session.Receives setup
      (.start setup.clientChecks setup.dumpPath receiver stream) :=
  fun _ _ => followsReceiver_start stream

/-- Client, receivers and server are where their runs have been. -/
structure TestTogether (setup : TestSetup) (session : TestSession) : Prop where
  server : Serves setup (setup.uniStreams.drop session.client.world.openedUni)
    (setup.biStreams.drop session.client.world.openedBi) session.server
  openedUni : session.server.world.openedUni.length = session.client.world.openedUni
  openedBi : session.server.world.openedBi.length = session.client.world.openedBi
  client : session.client.Follows clientReferenceEnv
    (clientReferenceEnv.settle (TestClient.main setup.server.cib setup.pin) []
      setup.clientStart) (ClientAt setup session.incoming.frames)
  receivers : Started (session.Receives setup) session.client.history session.client.world

namespace TestTogether

variable {setup : TestSetup} {session next : TestSession}

theorem start : TestTogether setup (.start setup) := by
  have hopened : ((TestSession.start setup).client.world.openedUni,
      (TestSession.start setup).client.world.openedBi) = (0, 0) := opened_settle _ _ _
  obtain ⟨huni, hbi⟩ := Prod.mk.inj hopened
  refine ⟨?_, huni.symm, hbi.symm, ?_, ?_⟩
  · rw [huni, hbi]
    exact .start
  · have hat : ClientAt setup (TestSession.start setup).incoming.frames setup.clientStart
        .start := ⟨rfl, rfl, rfl, fun stream => ⟨[], rfl, List.nil_prefix, rfl⟩⟩
    exact follows_settle (fun _ _ output hat => hat.perform output) hat
  · exact Running.settle_ties (fun _ _ output h =>
      h.perform (TestSession.receives_start setup _) output) nofun

/-! ### What it says of a session -/

theorem client_history (h : setup.Agreed) (htogether : TestTogether setup session) :
    session.client.history <+: setup.clientEvents := by
  obtain ⟨reference, hcompletes⟩ := h.completes_main
  have hfinal := hcompletes.leads.reaches []
  exact htogether.client.prefix_history hfinal (Env.advance_ended rfl)

theorem client_outcome (h : setup.Agreed) (htogether : TestTogether setup session)
    {result : Except Error Unit} (houtcome : session.client.outcome = some result) :
    result = .ok () := by
  obtain ⟨reference, hcompletes⟩ := h.completes_main
  have hfinal := hcompletes.leads.reaches []
  have hended := (htogether.client.ended hfinal (Env.advance_ended rfl) houtcome).1
  cases hended
  rfl

theorem receiver_stream (h : setup.Agreed) (htogether : TestTogether setup session)
    {receiving : Receiving} (hmem : receiving ∈ session.client.world.receivers) :
    (receiving.receiver = .display ∧ receiving.stream = 0) ∨
      (receiving.receiver = .cursor ∧ receiving.stream = 1) := by
  have hspawned := (htogether.client_history h).subset (htogether.receivers receiving hmem).2
  simpa [TestSetup.clientEvents, TestSetup.greetEvents, TestSetup.admitEvents,
    TestSetup.announcedEvents, TestSetup.acceptEvents, TestSetup.inputEvents,
    TestSetup.clipboardEvents, TestSetup.chatEvents, TestSetup.fileEvents,
    TestSetup.closeEvents, TestSetup.openEvents, TestSetup.writes, sentEvent, gotEvent,
    printEvent] using hspawned

end TestTogether

end OpenRD.Session
