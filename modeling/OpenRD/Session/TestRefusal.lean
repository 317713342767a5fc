import OpenRD.Server.Decision
import OpenRD.Session.TestCompletion

/-!
# The test client with another PIN

A client that does not present the server's PIN is turned away: the two sides exchange four
frames, whatever the order of their steps, and nothing else of the session ever comes about.
-/

namespace OpenRD.Session

open OpenRD.Foundation OpenRD.Proto OpenRD.Server
open OpenRD.TestClient (Stream ClientEvent ClientProg)

/-- What the server answers to a PIN that is not its own. -/
def authRefused : Cbor := buildAuthResult ErrorCode.authFailed.toU32 "view-only" ""

/-- The client presents a PIN other than the server's, and what they exchange is carried. -/
structure TestSetup.Mistaken (setup : TestSetup) : Prop where
  pin : setup.pin ≠ setup.server.expectedPin
  exchange : TestExchange setup.server
  request : Carries setup.server.cib (TestClient.authRequest "pin" (asBytes setup.pin))
    (setup.payload (TestClient.authRequest "pin" (asBytes setup.pin)))
  refusal : Carries setup.server.cib authRefused (setup.payload authRefused)

theorem asBytes_inj {text text' : String} : asBytes text = asBytes text' ↔ text = text' := by
  constructor
  · intro h
    exact String.toByteArray_inj.mp (ByteArray.ext (Array.toList_inj.mp h))
  · rintro rfl
    rfl

namespace TestSetup

variable (setup : TestSetup)

/-- The same client with the server's PIN. -/
def corrected : TestSetup := { setup with pin := setup.server.expectedPin }

def helloFrame : SentFrame :=
  (ControlFrameType.clientHello.toU8,
    setup.payload (TestClient.clientHello Capabilities.default))

def requestFrame : SentFrame :=
  (ControlFrameType.authRequest.toU8,
    setup.payload (TestClient.authRequest "pin" (asBytes setup.pin)))

/-- All that the server writes on Control. -/
def refusals : List SentFrame :=
  [(ControlFrameType.serverHello.toU8, setup.payload (serverHello setup.server 0)),
    (ControlFrameType.authResult.toU8, setup.payload authRefused)]

/-- All that the client does. -/
def mistakenEvents : List ClientEvent :=
  setup.greetEvents ++ [sentEvent .control setup.requestFrame,
    gotEvent .control (ControlFrameType.authResult.toU8, setup.payload authRefused)]

def mistakenStart : ClientReference where
  left
    | .control => setup.refusals
    | _ => []
  openedUni := 0
  openedBi := 0
  accepted := 0

variable {setup}

namespace Mistaken

variable (h : setup.Mistaken)

include h in
theorem agreed : setup.corrected.Agreed := ⟨rfl, h.exchange⟩

/-! ## The server's run -/

include h in
theorem decision : authDecision setup.server "pin" (asBytes setup.pin) =
    (.authFailed, "view-only", "") :=
  authDecision_denied fun hsame => h.pin (asBytes_inj.mp hsame.2)

def hello : Hello setup.server := h.agreed.hello

def auth : Auth setup.server where
  bytes := setup.requestFrame.bytes
  method := "pin"
  credential := asBytes setup.pin
  payload := setup.payload authRefused
  received := receiveAuthRequest_sent h.request
  written := by
    rw [h.decision]
    exact h.refusal.written

/-- All that the Control task does. -/
def events : List ControlEvent := h.hello.events ++ h.auth.events

theorem completes_control :
    ∃ reference, referenceEnv.Completes (handleControlStream setup.server) setup.reference
      h.events () reference := by
  have hhello : setup.helloFrame.2.length ≤ maxFrameLength :=
    (h.exchange.fromClient (by simp [clientValues])).fits
  obtain ⟨cuts₁, hreadHello⟩ := Reference.completes_readFrame_wire hhello
    ((setup.writes .control).drop 1) (setup.cuts .control) none 0 setup.uniStreams
    setup.biStreams
  obtain ⟨cuts₂, hreadAuth⟩ := Reference.completes_readFrame_wire
    (show setup.requestFrame.2.length ≤ maxFrameLength from h.request.fits)
    ((setup.writes .control).drop 2) cuts₁ none 0 setup.uniStreams setup.biStreams
  have hgreeted := Hello.completes h.hello hreadHello (Reference.completes_write _ _)
  have hrefused := Auth.completes h.auth hreadAuth (Reference.completes_write _ _)
  have hstatus : h.auth.status = .authFailed := congrArg Prod.fst h.decision
  rw [hstatus] at hrefused
  have hdone : referenceEnv.Completes (authExchange setup.server >>= fun accepted =>
      if accepted then serveChannels setup.server else return ()) _ (h.auth.events ++ []) () _ :=
    hrefused.bind (.pure ())
  rw [List.append_nil] at hdone
  exact ⟨_, .bind hgreeted hdone⟩

/-! ## The client's run -/

include h in
/-- The client reads the refusal and fails. -/
theorem leads_refused :
    ∃ reference, clientReferenceEnv.Leads (TestClient.main setup.server.cib setup.pin)
      setup.mistakenStart setup.mistakenEvents (.fail (.msg "auth failed")) reference := by
  have hencode : TestClient.encodeAuthRequest setup.server.cib "pin" (asBytes setup.pin) =
      .ok setup.requestFrame.2 := by
    rw [TestClient.encodeAuthRequest, h.request.written]
    rfl
  have hrefusal : TestClient.receiveAuthResult setup.server.cib
      (SentFrame.bytes (ControlFrameType.authResult.toU8, setup.payload authRefused)) =
        .error (.msg "auth failed") := by
    have hread : setup.server.cib.read (setup.payload authRefused) = .ok authRefused :=
      Ciborium.read_eq_ok.mpr h.refusal.readBack
    have hstatus : (TestClient.parseAuthResult authRefused).status =
        ErrorCode.authFailed.toU32 :=
      congrArg AuthResult.status (parseAuthResult_recovers _ _ _ _ (.refl _ _))
    rw [TestClient.receiveAuthResult, SentFrame.bytes, Frame.parse_encode _ h.refusal.fits]
    change (do
      let authResult ← setup.server.cib.read (setup.payload authRefused)
      if (TestClient.parseAuthResult authResult).status ≠ 0 then
        .error (Error.msg "auth failed")
      else return ()) = _
    rw [hread]
    change (if (TestClient.parseAuthResult authRefused).status ≠ 0 then
      .error (.msg "auth failed") else (.ok () : Except Error Unit)) = _
    rw [hstatus]
    rfl
  have hgreet : clientReferenceEnv.Completes (TestClient.exchangeHello setup.server.cib)
      setup.mistakenStart setup.greetEvents ()
      (setup.mistakenStart.leave .control (setup.refusals.drop 1)) :=
    h.agreed.completes_greet rfl
  refine ⟨(setup.mistakenStart.leave .control (setup.refusals.drop 1)).leave .control [], ?_⟩
  refine (hgreet _ _).trans ?_
  rw [TestClient.authenticate, Prog.bind_assoc]
  refine (Env.Completes.lift hencode _ _).trans ?_
  rw [Prog.bind_assoc]
  refine (completes_clientWrite .control setup.requestFrame _ _).trans ?_
  rw [Prog.bind_assoc]
  have hread : clientReferenceEnv.Completes (TestClient.Client.readFrame .control)
      (setup.mistakenStart.leave .control (setup.refusals.drop 1))
      [gotEvent .control (ControlFrameType.authResult.toU8, setup.payload authRefused)]
      (SentFrame.bytes (ControlFrameType.authResult.toU8, setup.payload authRefused)) _ :=
    completes_clientRead rfl
  refine (hread _ _).trans ?_
  rw [hrefusal]
  exact .refl _ _

/-- It does no more than write and read on Control. -/
theorem asked_of_mistakenEvents {question : TestClient.Request} {answer : question.Answer}
    (hmem : .asked question answer ∈ setup.mistakenEvents) :
    (∃ frameType payload, question = .writeFrame .control frameType payload) ∨
      question = .readFrame .control := by
  simp only [mistakenEvents, greetEvents, sentEvent, gotEvent, printEvent, List.cons_append,
    List.nil_append, List.mem_cons, List.not_mem_nil, or_false] at hmem
  rcases hmem with hevent | hevent | hevent | hevent | hevent <;> cases hevent
  · exact .inl ⟨_, _, rfl⟩
  · exact .inr rfl
  · exact .inl ⟨_, _, rfl⟩
  · exact .inr rfl

theorem not_told_spawn {receiver : TestClient.Receiver} {stream : Nat} :
    .told (.spawn receiver stream) ∉ setup.mistakenEvents := by
  simp [mistakenEvents, greetEvents, sentEvent, gotEvent, printEvent]

end Mistaken

end TestSetup

/-! ## Where both are -/

/-- The client has read part of what is on Control, and has yet to read the rest. -/
def RefusedAt (setup : TestSetup) (frames : List SentFrame) (reference : ClientReference)
    (world : ClientWorld) : Prop :=
  ∃ seen, setup.refusals = seen ++ reference.left .control ∧ seen <+: frames ∧
    world.read .control = (wire seen).length

/-- Client and server are where their runs have been. -/
structure TurnedAway (setup : TestSetup) (session : TestSession) : Prop where
  server : Serves setup setup.uniStreams setup.biStreams session.server
  client : session.client.Follows clientReferenceEnv
    (clientReferenceEnv.settle (TestClient.main setup.server.cib setup.pin) []
      setup.mistakenStart) (RefusedAt setup (controlFrames session.server.history))
  started : Started (fun _ => True) session.client.history session.client.world
  sent : session.unsent setup .control ≤ session.server.world.control.items.length

namespace TurnedAway

variable {setup : TestSetup} {session : TestSession}

theorem start : TurnedAway setup (.start setup) := by
  refine ⟨.start, ?_, Running.settle_ties (fun _ _ output h =>
    h.perform (fun _ _ => trivial) output) nofun, Nat.sub_le _ _⟩
  exact follows_settle (fun _ _ output hat => by cases output <;> exact hat)
    ⟨[], rfl, List.nil_prefix, rfl⟩

theorem server_history (h : setup.Mistaken) (haway : TurnedAway setup session) :
    session.server.history <+: h.events := by
  obtain ⟨reference, hcompletes⟩ := h.completes_control
  exact haway.server.control.prefix_history (hcompletes.leads.reaches []) (Env.advance_ended rfl)

theorem client_history (h : setup.Mistaken) (haway : TurnedAway setup session) :
    session.client.history <+: setup.mistakenEvents := by
  obtain ⟨reference, hleads⟩ := h.leads_refused
  exact haway.client.prefix_history (hleads.reaches []) (Env.advance_ended rfl)

theorem handlers_eq_nil (h : setup.Mistaken) (haway : TurnedAway setup session) :
    session.server.world.handlers = [] := by
  have htasks := haway.server.tasks
  have hnone := (haway.server_history h).filterMap spawnedTask
  have hevents : h.events.filterMap spawnedTask = [] := rfl
  rw [hevents, List.prefix_nil] at hnone
  rw [hnone] at htasks
  exact List.map_eq_nil_iff.mp htasks

theorem receivers_eq_nil (h : setup.Mistaken) (haway : TurnedAway setup session) :
    session.client.world.receivers = [] := by
  refine List.eq_nil_iff_forall_not_mem.mpr fun receiving hmem => ?_
  exact TestSetup.Mistaken.not_told_spawn
    ((haway.client_history h).subset (haway.started receiving hmem).2)

theorem client_asks (h : setup.Mistaken) (haway : TurnedAway setup session)
    {question : TestClient.Request} {next : question.Answer → ClientProg Unit}
    (hprogram : session.client.program = .ask question next) :
    (∃ frameType payload, question = .writeFrame .control frameType payload) ∨
      question = .readFrame .control := by
  obtain ⟨reference, hleads⟩ := h.leads_refused
  obtain ⟨answer, hnext⟩ := haway.client.next_event (hleads.reaches []) rfl hprogram
  exact TestSetup.Mistaken.asked_of_mistakenEvents (hnext.mem (List.mem_concat_self))

theorem opened_eq (h : setup.Mistaken) (haway : TurnedAway setup session) :
    session.opened setup = session.server.world := by
  unfold TestSession.opened
  split
  · next next hprogram =>
      rcases haway.client_asks h hprogram with ⟨_, _, hquestion⟩ | hquestion <;> cases hquestion
  · next next hprogram =>
      rcases haway.client_asks h hprogram with ⟨_, _, hquestion⟩ | hquestion <;> cases hquestion
  · rfl

/-! ## Steps -/

theorem controlFrames_prefix (h : setup.Mistaken) (haway : TurnedAway setup session) :
    controlFrames session.server.history <+: setup.refusals := by
  have hevents : controlFrames h.events = setup.refusals := rfl
  rw [← hevents]
  exact prefix_controlFrames (haway.server_history h)

theorem controlFrames_ended (h : setup.Mistaken) (haway : TurnedAway setup session)
    (hended : session.server.outcome.isSome) :
    controlFrames session.server.history = setup.refusals := by
  obtain ⟨reference, hcompletes⟩ := h.completes_control
  obtain ⟨result, houtcome⟩ := Option.isSome_iff_exists.mp hended
  rw [(haway.server.control.ended (hcompletes.leads.reaches []) (Env.advance_ended rfl)
    houtcome).2]
  rfl

theorem refusals_fit (h : setup.Mistaken) :
    ∀ frame ∈ setup.refusals, frame.2.length ≤ maxFrameLength := by
  simp only [TestSetup.refusals, List.mem_cons, List.not_mem_nil, or_false]
  rintro frame (rfl | rfl)
  · exact (h.exchange.fromServer (by simp [serverValues])).fits
  · exact h.refusal.fits

/-- The client gets the answers of its one run. -/
theorem answer (h : setup.Mistaken) (haway : TurnedAway setup session)
    {reference reference' : ClientReference} {cuts : List Nat} {world : ClientWorld}
    (hat : RefusedAt setup (controlFrames session.server.history) reference
      session.client.world)
    {question : TestClient.Request} {next : question.Answer → ClientProg Unit}
    (hprogram : session.client.program = .ask question next)
    {answer answer' : question.Answer}
    (hreference : clientReferenceEnv.answer reference question () = some (answer', reference'))
    (hanswer : (setup.clientEnv session.incoming).answer session.client.world question cuts =
      some (answer, world)) :
    answer = answer' ∧
      RefusedAt setup (controlFrames session.server.history) reference' world := by
  rcases haway.client_asks h hprogram with ⟨frameType, payload, rfl⟩ | rfl
  · cases hreference
    cases hanswer
    exact ⟨rfl, hat⟩
  · obtain ⟨seen, hall, ⟨more, hmore⟩, hread⟩ := hat
    have hbegins := haway.controlFrames_prefix h
    obtain ⟨⟨result, read⟩, hsome, hpair⟩ := Option.map_eq_some_iff.mp hanswer
    cases hpair
    simp only [clientReferenceEnv] at hreference
    split at hreference
    · next frame rest hleft =>
        cases hreference
        rw [hall, hleft, ← hmore] at hbegins
        have hframes : session.incoming.frames .control = seen ++ more := hmore.symm
        rw [hread, hframes] at hsome
        cases more with
        | nil =>
            cases hended : session.server.outcome.isSome with
            | false =>
                have hopen : session.incoming.ended .control = false := hended
                rw [hopen, List.append_nil, readSome_waits] at hsome
                cases hsome
            | true =>
                have hdone := haway.controlFrames_ended h hended
                rw [← hmore, hall, hleft] at hdone
                simp at hdone
        | cons found more =>
            have hsame := (List.prefix_append_right_inj seen).mp hbegins
            obtain ⟨rfl, -⟩ := List.cons_prefix_cons.mp hsame
            have hfits := refusals_fit h found (by rw [hall, hleft]; simp)
            rw [readSome_frame takesFrame_readFrame hfits] at hsome
            cases hsome
            refine ⟨rfl, seen ++ [found], ?_, ⟨more, ?_⟩, ?_⟩
            · rw [hall, hleft]
              simp [ClientReference.leave]
            · rw [← hmore]
              simp
            · simp [ClientWorld.readTo]
    · cases hreference

theorem readsControl_of_step {next : TestSession}
    (hstep : session.step setup .control = some next) :
    session.ReadsControl setup next.server := by
  simp only [TestSession.step, Option.bind_eq_bind, Option.bind_eq_some_iff,
    Option.ite_none_right_eq_some] at hstep
  obtain ⟨server', -, hreads, hnext⟩ := hstep
  cases hnext
  exact hreads

theorem step (h : setup.Mistaken) (haway : TurnedAway setup session) {action : TestAction}
    {next : TestSession} (hstep : session.step setup action = some next) :
    TurnedAway setup next := by
  cases Stepped.of_step hstep with
  | control hserver =>
      refine ⟨haway.server.advance hserver, ?_, haway.started, (readsControl_of_step hstep).sent⟩
      obtain ⟨state, hreaches, htracks⟩ := haway.client
      refine ⟨state, hreaches, htracks.mono ?_⟩
      rintro _ _ ⟨seen, hall, hseen, hread⟩
      exact ⟨seen, hall, hseen.trans (prefix_controlFrames (Env.prefix_advance hserver)), hread⟩
  | handler hspawned =>
      rw [haway.handlers_eq_nil h] at hspawned
      cases hspawned
  | client hclient =>
      rw [haway.opened_eq h]
      refine ⟨haway.server, ?_, haway.started.advance (fun _ _ => trivial) hclient, ?_⟩
      · refine haway.client.advance hclient
          (fun _ _ output hat => by cases output <;> exact hat) ?_
        intro state question rest answer world hreaches htracks hprogram hanswer
        obtain ⟨_, hleads⟩ := h.leads_refused
        obtain ⟨answer', reference', hreference⟩ := (hreaches.to_final (hleads.reaches [])
          (Env.advance_ended rfl)).answered rfl hprogram
        obtain ⟨rfl, hat⟩ := haway.answer h htracks.world (htracks.program.trans hprogram)
          hreference hanswer
        exact ⟨reference', hreference, hat⟩
      · refine (Nat.sub_le_sub_left ?_ _).trans haway.sent
        exact (prefix_wire ((Env.prefix_advance hclient).filterMap _)).length_le
  | receiver hreceiving =>
      rw [haway.receivers_eq_nil h] at hreceiving
      cases hreceiving

theorem of_reachable (h : setup.Mistaken) (hreachable : TestReachable setup session) :
    TurnedAway setup session := by
  obtain ⟨actions, hrun⟩ := hreachable
  exact invariant_of_run (TurnedAway setup) (fun _ _ _ haway => haway.step h) start hrun

/-! ## When neither can go on -/

theorem writes_fit (h : setup.Mistaken) :
    ∀ frame ∈ setup.writes .control, frame.2.length ≤ maxFrameLength := by
  have hclient {value : Cbor} (hvalue : value ∈ clientValues setup.server) :
      (setup.payload value).length ≤ maxFrameLength := (h.exchange.fromClient hvalue).fits
  simp only [TestSetup.writes, List.mem_cons, List.not_mem_nil, or_false]
  rintro frame (rfl | rfl | rfl | rfl | rfl | rfl)
  · exact hclient (by simp [clientValues])
  · exact h.request.fits
  all_goals exact hclient (by simp [clientValues])

theorem clientFrames_eq (h : setup.Mistaken) (haway : TurnedAway setup session) :
    clientFrames .control session.client.history = (setup.writes .control).take
      (clientFrames .control session.client.history).length := by
  have hbegins : clientFrames .control session.client.history <+:
      [setup.helloFrame, setup.requestFrame] :=
    (haway.client_history h).filterMap _
  exact List.prefix_iff_eq_take.mp (hbegins.trans ⟨(setup.writes .control).drop 2, rfl⟩)

/-- What the client has yet to read on Control is all but the frames it has read. -/
def LeftOf (frames : List SentFrame) (history : List ClientEvent)
    (reference : ClientReference) : Prop :=
  reference.left .control =
    frames.drop ((history.filterMap clientMove).count (.reads .control))

theorem LeftOf.answer {frames : List SentFrame} {history : List ClientEvent}
    {reference reference' : ClientReference} (hleft : LeftOf frames history reference)
    {question : TestClient.Request} {answer : question.Answer}
    (hanswer : clientReferenceEnv.answer reference question () = some (answer, reference')) :
    LeftOf frames (history ++ [.asked question answer]) reference' := by
  unfold LeftOf at *
  rw [List.filterMap_append, List.count_append]
  cases question with
  | writeFrame =>
      cases hanswer
      simpa [clientMove] using hleft
  | finish | sleep | join =>
      cases hanswer
      exact hleft
  | openUni | openBi | acceptUni =>
      simp only [clientReferenceEnv, Option.ite_none_right_eq_some] at hanswer
      obtain ⟨-, hanswer⟩ := hanswer
      cases hanswer
      simpa [clientMove] using hleft
  | readFrame stream =>
      simp only [clientReferenceEnv] at hanswer
      split at hanswer
      · next frame rest hfront =>
          cases hanswer
          by_cases hsame : stream = .control
          · subst hsame
            have hrest : rest = (frames.drop
                ((history.filterMap clientMove).count (.reads .control))).tail := by
              rw [← hleft, hfront, List.tail_cons]
            simpa [clientMove, ClientReference.leave] using hrest
          · simpa [clientMove, ClientReference.leave, hsame, Ne.symm hsame] using hleft
      · cases hanswer

theorem LeftOf.told {frames : List SentFrame} {history : List ClientEvent}
    {reference : ClientReference} (hleft : LeftOf frames history reference)
    (output : TestClient.Output) : LeftOf frames (history ++ [.told output]) reference := by
  rw [LeftOf, List.filterMap_append, List.count_append]
  exact hleft

end TurnedAway

/-! ## Every run -/

end OpenRD.Session
