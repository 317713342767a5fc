import Mathlib.Tactic.IntervalCases
import OpenRD.Session.TestInterop

/-!
# Every run of the test client and the server

Each step of any party keeps client, receivers and server together.
-/

namespace OpenRD.Session

open OpenRD.Foundation OpenRD.Proto OpenRD.Server
open OpenRD.TestClient (Stream Receiver)

/-! ## What grows with a session -/

section Grows

variable {setup : TestSetup} {session next : TestSession}

theorem TestSession.MayEndAs.of_grows {stream : Nat} {frames : List SentFrame}
    (h : next.MayEndAs stream frames) (hgrows : Grows session next) :
    session.MayEndAs stream frames := by
  refine ⟨(hgrows.pushed stream).trans h.written, fun hended => ?_⟩
  obtain ⟨hsame, hnext⟩ := hgrows.ended stream hended
  rw [← hsame]
  exact h.ended hnext

theorem TestSession.Receives.mono {receiving : Receiving}
    (h : session.Receives setup receiving) (hgrows : Grows session next) :
    next.Receives setup receiving := by
  intro frames hframes
  obtain ⟨state, hreaches, htracks⟩ := h frames (hframes.of_grows hgrows)
  exact ⟨state, hreaches, htracks.mono fun world read hread =>
    hread.mono (hgrows.pushed receiving.stream)⟩

/-- The client and the receivers do not care how the server goes on. -/
theorem TestTogether.mono (htogether : TestTogether setup session)
    (hgrows : Grows session next) (hclient : next.client = session.client)
    (hserver : Serves setup (setup.uniStreams.drop session.client.world.openedUni)
      (setup.biStreams.drop session.client.world.openedBi) next.server)
    (huni : next.server.world.openedUni = session.server.world.openedUni)
    (hbi : next.server.world.openedBi = session.server.world.openedBi) :
    TestTogether setup next := by
  rw [← hclient] at hserver
  refine ⟨hserver, ?_, ?_, ?_, ?_⟩
  · rw [huni, hclient, htogether.openedUni]
  · rw [hbi, hclient, htogether.openedBi]
  · rw [hclient]
    obtain ⟨state, hreaches, htracks⟩ := htogether.client
    exact ⟨state, hreaches, htracks.mono fun _ _ hat => hat.mono hgrows.incoming⟩
  · rw [hclient]
    intro receiving hmem
    exact (htogether.receivers receiving hmem).imp_left fun h => h.mono hgrows

end Grows

theorem drop_uniStreams {setup : TestSetup} {n : Nat} (h : n < 1) :
    setup.uniStreams.drop n = ⟨n, (purposeOf (.uni n)).toU64, setup.recv (.uni n)⟩ ::
      setup.uniStreams.drop (n + 1) := by
  interval_cases n
  rfl

theorem drop_biStreams {setup : TestSetup} {n : Nat} (h : n < 3) :
    setup.biStreams.drop n = ⟨n, (purposeOf (.bi n)).toU64, setup.recv (.bi n)⟩ ::
      setup.biStreams.drop (n + 1) := by
  interval_cases n <;> rfl

/-! ## The steps -/

/-- What a step does, by the party that takes it. -/
inductive Stepped (setup : TestSetup) (session : TestSession) : TestAction → TestSession → Prop
  | control {server' : State}
      (hserver : (controlEnv setup.server).advance session.server none = some server') :
      Stepped setup session .control { session with server := server' }
  | handler {index : Nat} {choice : HandlerChoice} {spawned : Spawned} {world : World}
      (hspawned : session.server.world.handlers[index]? = some spawned)
      (hreliable : Reliable spawned choice)
      (hworld : session.server.world.stepHandler index choice = some world) :
      Stepped setup session (.handler index choice) { session with server.world := world }
  | client {cuts : List Nat} {client : ClientRun}
      (hclient : (setup.clientEnv session.incoming).advance session.client cuts =
        some client) :
      Stepped setup session (.client cuts)
        { server := { session.server with world := session.opened setup }, client }
  | receiver {index : Nat} {cuts : List Nat} {receiving : Receiving} {run : ReceiverRun}
      (hreceiving : session.client.world.receivers[index]? = some receiving)
      (hrun : (receiverEnv (session.pushedFrames receiving.stream)
        (session.pushedEnded receiving.stream)).advance receiving.run cuts = some run) :
      Stepped setup session (.receiver index cuts)
        { session with
          client.world.receivers :=
            session.client.world.receivers.set index { receiving with run } }

theorem Stepped.of_step {setup : TestSetup} {session next : TestSession} {action : TestAction}
    (hstep : session.step setup action = some next) : Stepped setup session action next := by
  cases action with
  | control =>
      simp only [TestSession.step, Option.bind_eq_bind, Option.bind_eq_some_iff,
        Option.ite_none_right_eq_some] at hstep
      obtain ⟨server', hserver, -, hnext⟩ := hstep
      cases hnext
      exact .control hserver
  | handler index choice =>
      simp only [TestSession.step, Option.bind_eq_bind, Option.bind_eq_some_iff,
        Option.ite_none_right_eq_some] at hstep
      obtain ⟨spawned, hspawned, run, -, ⟨hreliable, -⟩, world, hworld, hnext⟩ := hstep
      cases hnext
      exact .handler hspawned hreliable hworld
  | client cuts =>
      simp only [TestSession.step, Option.bind_eq_bind, Option.bind_eq_some_iff] at hstep
      obtain ⟨client, hclient, hnext⟩ := hstep
      cases hnext
      exact .client hclient
  | receiver index cuts =>
      simp only [TestSession.step, Option.bind_eq_bind, Option.bind_eq_some_iff] at hstep
      obtain ⟨receiving, hreceiving, run, hrun, hnext⟩ := hstep
      cases hnext
      exact .receiver hreceiving hrun

theorem TestSession.handlers_opened (setup : TestSetup) (session : TestSession) :
    (session.opened setup).handlers = session.server.world.handlers := by
  unfold TestSession.opened
  split <;> rfl

namespace TestTogether

variable {setup : TestSetup} {session next : TestSession}

theorem control (h : setup.Agreed) (htogether : TestTogether setup session) {server' : State}
    (hstep : (controlEnv setup.server).advance session.server none = some server') :
    TestTogether setup { session with server := server' } := by
  obtain ⟨huni, hbi⟩ := opened_control hstep
  exact htogether.mono (grows_advance h htogether.server hstep) rfl
    (htogether.server.advance hstep) huni hbi

theorem handler (h : setup.Agreed) (htogether : TestTogether setup session) {index : Nat}
    {choice : HandlerChoice} {spawned : Spawned} {world : World}
    (hspawned : session.server.world.handlers[index]? = some spawned)
    (hreliable : Reliable spawned choice)
    (hworld : session.server.world.stepHandler index choice = some world) :
    TestTogether setup { session with server.world := world } := by
  obtain ⟨_, _, -, -, hsame⟩ := World.stepHandler_eq_some.mp hworld
  exact htogether.mono (grows_stepHandler hworld) rfl
    (htogether.server.stepHandler h hspawned hreliable hworld) (by rw [hsame]) (by rw [hsame])

theorem client_answered (h : setup.Agreed) (htogether : TestTogether setup session)
    {question : TestClient.Request} {rest : question.Answer → TestClient.ClientProg Unit}
    (hprogram : session.client.program = .ask question rest) :
    ∃ reference answer reference',
      clientReferenceEnv.answer reference question () = some (answer, reference') ∧
        ClientAt setup session.incoming.frames reference session.client.world := by
  obtain ⟨_, hcompletes⟩ := h.completes_main
  have hfinal := hcompletes.leads.reaches []
  obtain ⟨state, hreaches, htracks⟩ := htogether.client
  obtain ⟨answer, reference', hanswer⟩ := (hreaches.to_final hfinal
    (Env.advance_ended rfl)).answered rfl (htracks.program.symm.trans hprogram)
  exact ⟨state.world, answer, reference', hanswer, htracks.world⟩

/-- What the client opens is what it has yet to open. -/
theorem client_opens (h : setup.Agreed) (htogether : TestTogether setup session)
    {incoming : Incoming} {cuts : List Nat} {client : ClientRun}
    (hstep : (setup.clientEnv incoming).advance session.client cuts = some client) :
    Serves setup (setup.uniStreams.drop client.world.openedUni)
        (setup.biStreams.drop client.world.openedBi)
        { session.server with world := session.opened setup } ∧
      (session.opened setup).openedUni.length = client.world.openedUni ∧
      (session.opened setup).openedBi.length = client.world.openedBi := by
  have hopened := opened_advance hstep
  have hstay (hworld : session.opened setup = session.server.world)
      (hsame : (client.world.openedUni, client.world.openedBi) =
        (session.client.world.openedUni, session.client.world.openedBi)) :
      Serves setup (setup.uniStreams.drop client.world.openedUni)
          (setup.biStreams.drop client.world.openedBi)
          { session.server with world := session.opened setup } ∧
        (session.opened setup).openedUni.length = client.world.openedUni ∧
        (session.opened setup).openedBi.length = client.world.openedBi := by
    obtain ⟨huni, hbi⟩ := Prod.mk.inj hsame
    rw [hworld, huni, hbi]
    exact ⟨htogether.server, htogether.openedUni, htogether.openedBi⟩
  cases hprogram : session.client.program with
  | ret | fail | tell | loop =>
      rw [hprogram] at hopened
      refine hstay ?_ hopened
      rw [TestSession.opened, hprogram]
  | ask question rest =>
      rw [hprogram] at hopened
      cases question with
      | writeFrame | readFrame | finish | acceptUni | join | sleep =>
          refine hstay ?_ hopened
          rw [TestSession.opened, hprogram]
      | openUni =>
          obtain ⟨reference, _, _, hanswer, hat⟩ := htogether.client_answered h hprogram
          simp only [clientReferenceEnv, Option.ite_none_right_eq_some] at hanswer
          have hmore : session.client.world.openedUni < 1 := hat.openedUni ▸ hanswer.1
          obtain ⟨huni, hbi⟩ := Prod.mk.inj hopened
          have hserver := htogether.server
          rw [drop_uniStreams hmore, ← htogether.openedUni] at hserver
          rw [TestSession.opened, hprogram, huni, hbi, ← htogether.openedUni]
          exact ⟨hserver.openUni, List.length_append, htogether.openedBi⟩
      | openBi =>
          obtain ⟨reference, _, _, hanswer, hat⟩ := htogether.client_answered h hprogram
          simp only [clientReferenceEnv, Option.ite_none_right_eq_some] at hanswer
          have hmore : session.client.world.openedBi < 3 := hat.openedBi ▸ hanswer.1
          obtain ⟨huni, hbi⟩ := Prod.mk.inj hopened
          have hserver := htogether.server
          rw [drop_biStreams hmore, ← htogether.openedBi] at hserver
          rw [TestSession.opened, hprogram, huni, hbi, ← htogether.openedBi]
          exact ⟨hserver.openBi, htogether.openedUni, List.length_append⟩

/-- The client was built without overflow checks, or the encoder has returned few units. -/
def Counts (setup : TestSetup) (session : TestSession) : Prop :=
  setup.clientChecks = true → session.encodedUnits.length < 2 ^ 32

theorem receiver_finishing (h : setup.Agreed) (htogether : TestTogether setup session)
    (hcounts : Counts setup session) {receiving : Receiving}
    (hmem : receiving ∈ session.client.world.receivers) :
    Finishing setup receiving.receiver (session.pushedFrames receiving.stream) := by
  rcases htogether.receiver_stream h hmem with ⟨hreceiver, hstream⟩ | ⟨hreceiver, hstream⟩
  · obtain ⟨hframes, hcountable⟩ := htogether.server.display_given h
    rw [hreceiver, hstream]
    exact finishing_display hframes fun hchecks => hcountable (hcounts hchecks)
  · obtain ⟨hframes, hcount, hbytes⟩ := htogether.server.cursor_given h
    rw [hreceiver, hstream]
    exact finishing_cursor hframes hcount hbytes

theorem receiver_outcome (h : setup.Agreed) (htogether : TestTogether setup session)
    (hcounts : Counts setup session) {receiving : Receiving}
    (hmem : receiving ∈ session.client.world.receivers) {result : Except Error Unit}
    (houtcome : receiving.run.outcome = some result) : result = .ok () := by
  have hstays : session.MayEndAs receiving.stream (session.pushedFrames receiving.stream) :=
    ⟨List.prefix_rfl, fun _ => rfl⟩
  exact ((htogether.receivers receiving hmem).1 _ hstays).outcome
    (htogether.receiver_finishing h hcounts hmem) houtcome

theorem receiver_fits (h : setup.Agreed) (htogether : TestTogether setup session)
    {receiving : Receiving} (hmem : receiving ∈ session.client.world.receivers) :
    ∀ frame ∈ session.pushedFrames receiving.stream, frame.2.length ≤ maxFrameLength := by
  intro frame hframe
  rcases htogether.receiver_stream h hmem with ⟨-, hstream⟩ | ⟨-, hstream⟩
  · rw [hstream] at hframe
    exact ((htogether.server.display_given h).1 frame hframe).2
  · rw [hstream] at hframe
    exact ((htogether.server.cursor_given h).1 frame hframe).2

theorem stepClient (h : setup.Agreed) (htogether : TestTogether setup session)
    (hcounts : Counts setup session) {cuts : List Nat} {client : ClientRun}
    (hstep : (setup.clientEnv session.incoming).advance session.client cuts = some client) :
    TestTogether setup
      { server := { session.server with world := session.opened setup }, client } := by
  obtain ⟨hserver, huni, hbi⟩ := htogether.client_opens h hstep
  have hgrows : Grows session
      { server := { session.server with world := session.opened setup }, client } :=
    grows_of_same rfl (session.handlers_opened setup)
  refine ⟨hserver, huni, hbi, ?_, ?_⟩
  · have hfollows : client.Follows clientReferenceEnv (clientReferenceEnv.settle
        (TestClient.main setup.server.cib setup.pin) [] setup.clientStart)
        (ClientAt setup session.incoming.frames) := by
      refine htogether.client.advance hstep (fun _ _ output hat => hat.perform output) ?_
      intro state question rest answer world hreaches htracks hprogram hanswer
      obtain ⟨_, hcompletes⟩ := h.completes_main
      obtain ⟨answer', reference', hreference⟩ := (hreaches.to_final
        (hcompletes.leads.reaches []) (Env.advance_ended rfl)).answered rfl hprogram
      obtain ⟨rfl, hat⟩ := htracks.world.answer (fun stream => htogether.server.replied h stream)
        h.replies_fit (fun _ hmem _ => htogether.receiver_outcome h hcounts hmem) hreference
        hanswer
      exact ⟨reference', hreference, hat⟩
    obtain ⟨state, hreaches, htracks⟩ := hfollows
    exact ⟨state, hreaches, htracks.mono fun _ _ hat => hat.mono hgrows.incoming⟩
  · have hstarted := htogether.receivers.advance
      (TestSession.receives_start setup session) hstep
    intro receiving hmem
    exact (hstarted receiving hmem).imp_left fun h => h.mono hgrows

theorem stepReceiver (h : setup.Agreed) (htogether : TestTogether setup session)
    {index : Nat} {cuts : List Nat} {receiving : Receiving} {run : ReceiverRun}
    (hreceiving : session.client.world.receivers[index]? = some receiving)
    (hstep : (receiverEnv (session.pushedFrames receiving.stream)
      (session.pushedEnded receiving.stream)).advance receiving.run cuts = some run) :
    TestTogether setup { session with
      client.world.receivers :=
        session.client.world.receivers.set index { receiving with run } } := by
  have hmem := List.mem_of_getElem? hreceiving
  refine ⟨htogether.server, htogether.openedUni, htogether.openedBi, ?_, ?_⟩
  · obtain ⟨state, hreaches, htracks⟩ := htogether.client
    obtain ⟨huni, hbi, haccepted, hread⟩ := htracks.world
    exact ⟨state, hreaches, htracks.program, htracks.history, huni, hbi, haccepted, hread⟩
  · intro stepped hstepped
    rcases List.mem_or_eq_of_mem_set hstepped with hother | rfl
    · refine (htogether.receivers stepped hother).imp_left fun hreceives frames hframes => ?_
      exact hreceives frames ⟨hframes.written, hframes.ended⟩
    · obtain ⟨hreceives, hspawned⟩ := htogether.receivers receiving hmem
      refine ⟨fun frames hframes => ?_, hspawned⟩
      exact (hreceives frames ⟨hframes.written, hframes.ended⟩).advance
        (htogether.receiver_fits h hmem) hframes.written hframes.ended hstep

/-! ## Every run -/

theorem units_le_step {action : TestAction} (hstep : session.step setup action = some next) :
    session.encodedUnits.length ≤ next.encodedUnits.length := by
  cases Stepped.of_step hstep with
  | control hserver =>
      obtain ⟨asked, outputs, -, -, hhandlers⟩ := control_adds hserver
      rw [TestSession.encodedUnits, TestSession.encodedUnits, hhandlers, List.flatMap_append,
        List.length_append]
      exact Nat.le_add_right _ _
  | handler _ _ hworld => exact (grows_stepHandler hworld).units
  | client _ =>
      exact (congrArg (fun handlers => (List.flatMap _ handlers).length)
        (session.handlers_opened setup)).ge
  | receiver _ _ => exact le_rfl

theorem step (h : setup.Agreed) (htogether : TestTogether setup session)
    (hcounts : Counts setup session) {action : TestAction}
    (hstep : session.step setup action = some next) : TestTogether setup next := by
  cases Stepped.of_step hstep with
  | control hserver => exact htogether.control h hserver
  | handler hspawned hreliable hworld => exact htogether.handler h hspawned hreliable hworld
  | client hclient => exact htogether.stepClient h hcounts hclient
  | receiver hreceiving hrun => exact htogether.stepReceiver h hreceiving hrun

theorem of_reachable (h : setup.Agreed) (hreachable : TestReachable setup session)
    (hcounts : Counts setup session) : TestTogether setup session := by
  obtain ⟨actions, hrun⟩ := hreachable
  have hinvariant : Counts setup session → TestTogether setup session := by
    refine invariant_of_run (fun session => Counts setup session → TestTogether setup session)
      ?_ (fun _ => start) hrun
    intro before action after htogether hstep hcounts
    have hbefore : Counts setup before := fun hchecks =>
      (units_le_step hstep).trans_lt (hcounts hchecks)
    exact (htogether hbefore).step h hbefore hstep
  exact hinvariant hcounts

end TestTogether

end OpenRD.Session
