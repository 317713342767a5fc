import OpenRD.Session.Gate

/-!
# Failed negotiations

Negotiation failures are meant to be fatal, and the test client treats them so.  The
server writes them to its log and sends its `ServerHello` all the same; what then
decides whether the session goes on is the client's next frame.
-/

namespace OpenRD.Session

open OpenRD.Foundation OpenRD.Proto OpenRD.Server

def IsAuthRequest (bytes : List UInt8) : Prop :=
  ∃ frame n, Frame.parse bytes = .ok (frame, n) ∧
    frame.header.frameType = ControlFrameType.authRequest.toU8

/-- A session that has not got past the hello. -/
structure NeverPastHello (server : ServerConfig) (history : List ControlEvent) : Prop where
  unprocessed : ∀ bytes, readEvent bytes ∈ history → ¬IsAuthRequest bytes
  unauthenticated : ∀ permission identity payload answer,
    server.cib.intoWriter (buildAuthResult 0 permission identity) = .ok payload →
      writeEvent .authResult payload answer ∉ history
  unserved : ∀ event ∈ history, ¬NeedsAuth event

theorem not_isAuthRequest_of_hello {cib : Ciborium} {bytes : List UInt8} {protoV : UInt64}
    {clientName : String} {clientCaps : Capabilities}
    (h : AcceptsHello cib bytes protoV clientName clientCaps) : ¬IsAuthRequest bytes := by
  obtain ⟨frame, n, hello, hparse, -, htype, -⟩ := h
  rintro ⟨frame', n', hparse', htype'⟩
  cases hparse.symm.trans hparse'
  rw [htype] at htype'
  exact absurd htype' (by decide)

theorem isAuthRequest_of_received {server : ServerConfig} {bytes : List UInt8}
    {method : String} {credential : List UInt8}
    (h : receiveAuthRequest server.cib bytes = .ok (method, credential)) :
    IsAuthRequest bytes := by
  obtain ⟨frame, n, authReq, hparse, htype, -⟩ := receiveAuthRequest_eq_ok.mp h
  exact ⟨frame, n, hparse, htype⟩

/-! ## Which frames the exchanges read -/

theorem not_read_of_serving {server : ServerConfig} {events : List ControlEvent}
    (h : Serving server events) (bytes : List UInt8) : readEvent bytes ∉ events := by
  intro hmem
  generalize hevent : readEvent bytes = event at hmem
  cases h.mem event hmem with
  | display opening | cursor opening => cases opening <;> cases hevent
  | dispatch dispatching =>
      cases dispatching with
      | read | ack | spawn => cases hevent
      | accept kind supported answer =>
          rw [acceptEvent] at hevent
          split at hevent <;> cases hevent
  | join handle => cases hevent

theorem mem_hello_events {server : ServerConfig} {hello : Hello server}
    {bytes : List UInt8} (h : readEvent bytes ∈ hello.events) : bytes = hello.bytes := by
  simpa [Hello.events, readEvent, negotiationEvent, writeEvent] using h

theorem mem_auth_events {server : ServerConfig} {auth : Auth server} {bytes : List UInt8}
    (h : readEvent bytes ∈ auth.events) : bytes = auth.bytes := by
  simpa [Auth.events, readEvent, writeEvent] using h

theorem read_frames {server : ServerConfig} {control recv : RecvStream}
    {history : List ControlEvent} (h : Transcript server history)
    (hreads : Reads control history recv) {bytes : List UInt8}
    (hmem : readEvent bytes ∈ history) :
    helloFrame control = .ok bytes ∨
      ∃ hello : Hello server,
        helloFrame control = .ok hello.bytes ∧ authFrame control = .ok bytes := by
  cases h with
  | greeting events hello =>
      cases hello with
      | waiting => cases hmem
      | unread error => simp [readEvent] at hmem
      | refused | accepted | unsent =>
          simp only [List.mem_cons, negotiationEvent, writeEvent, readEvent,
            List.not_mem_nil, or_false, reduceCtorEq, Event.asked.injEq, heq_eq_eq,
            true_and, Except.ok.injEq, false_and] at hmem
          subst hmem
          exact .inl hreads.1.symm
  | authenticating hello events auth =>
      rcases List.mem_append.mp hmem with hmem | hmem
      · rw [mem_hello_events hmem]
        exact .inl hreads.1.symm
      · cases auth with
        | waiting => cases hmem
        | unread error => simp [readEvent] at hmem
        | refused | received | unsent =>
            simp only [List.mem_cons, writeEvent, readEvent,
              List.not_mem_nil, or_false, reduceCtorEq, Event.asked.injEq, heq_eq_eq,
              true_and, Except.ok.injEq, false_and] at hmem
            subst hmem
            exact .inr ⟨hello, reads_of_hello hreads⟩
  | denied hello auth status =>
      rcases List.mem_append.mp hmem with hmem | hmem
      · rw [mem_hello_events hmem]
        exact .inl hreads.1.symm
      · rw [mem_auth_events hmem]
        exact .inr ⟨hello, reads_of_hello hreads⟩
  | serving hello auth status events serving =>
      rcases List.mem_append.mp hmem with hmem | hmem
      · rw [mem_hello_events hmem]
        exact .inl hreads.1.symm
      · rcases List.mem_append.mp hmem with hmem | hmem
        · rw [mem_auth_events hmem]
          exact .inr ⟨hello, reads_of_hello hreads⟩
        · exact absurd hmem (not_read_of_serving serving bytes)

theorem neverPastHello_of_unread {server : ServerConfig} {history : List ControlEvent}
    (h : Transcript server history)
    (hunread : ∀ bytes, readEvent bytes ∈ history → ¬IsAuthRequest bytes) :
    NeverPastHello server history := by
  have hauth (auth : Auth server) (hmem : readEvent auth.bytes ∈ history) : False :=
    hunread _ hmem (isAuthRequest_of_received auth.received)
  cases h with
  | greeting events hello =>
      refine ⟨hunread, ?_, partialHello_guarded hello⟩
      intro permission identity payload answer hwritten
      cases hello <;> simp [readEvent, negotiationEvent, writeEvent, ControlFrameType.toU8]
  | authenticating hello events auth =>
      refine ⟨hunread, ?_, ?_⟩
      · intro permission identity payload answer hwritten
        cases auth with
        | waiting | unread | refused =>
            simp [Hello.events, readEvent, negotiationEvent, writeEvent,
              ControlFrameType.toU8]
        | received bytes method credential received =>
            exact absurd (isAuthRequest_of_received received) (hunread bytes (by simp))
        | unsent auth error => exact (hauth auth (by simp)).elim
      · intro event hmem
        rcases List.mem_append.mp hmem with hmem | hmem
        · exact hello_guarded hello event hmem
        · exact partialAuth_guarded auth event hmem
  | denied hello auth status =>
      exact absurd (List.mem_append_right _ List.mem_cons_self) (hauth auth)
  | serving hello auth status events serving =>
      exact absurd (List.mem_append_right _ List.mem_cons_self) (hauth auth)

/-! ## What a failed negotiation stops -/

/-- The server can write its hello, and the client's next frame is an `AuthRequest`. -/
def GoesOn (server : ServerConfig) (control : RecvStream) (protoV : UInt64) : Prop :=
  (∃ payload, server.cib.intoWriter (serverHello server protoV) = .ok payload) ∧
    ∃ authBytes, authFrame control = .ok authBytes ∧ IsAuthRequest authBytes

def StaysAtHello (server : ServerConfig) (control : RecvStream) : Prop :=
  ∀ session, Reachable server control session → NeverPastHello server session.history

theorem reachable_authRequest {server : ServerConfig} {control : RecvStream}
    (hello : Hello server) {authBytes : List UInt8}
    (hhello : helloFrame control = .ok hello.bytes)
    (hauth : authFrame control = .ok authBytes) :
    ∃ session, Reachable server control session ∧
      readEvent authBytes ∈ session.history := by
  have hhello : (readFullFrame (World.start control).control).1 = .ok hello.bytes := hhello
  have hauth : (readFullFrame (World.start control).afterRead.control).1 =
      .ok authBytes := hauth
  have hgreeted := reachable_start.leads (completes_helloExchange hello hhello _ _)
  rw [authExchange, Prog.bind_assoc] at hgreeted
  refine ⟨_, hgreeted.leads (completes_readFrame hauth _ _), ?_⟩
  exact (Env.prefix_settle _ _ _ _).subset (by simp)

/--
A session whose negotiation failed stays at the hello exactly when the client's next
frame is not an `AuthRequest` or the server's hello cannot be written.
-/
theorem negotiation_failure_fatal_iff {server : ServerConfig} {control : RecvStream}
    {helloBytes : List UInt8} {protoV : UInt64} {clientName : String}
    {clientCaps : Capabilities} {error : NegotiationError}
    (hhello : helloFrame control = .ok helloBytes)
    (haccepts : AcceptsHello server.cib helloBytes protoV clientName clientCaps)
    (hfailed : NegotiatedProfile.negotiate clientCaps Capabilities.default = .error error) :
    StaysAtHello server control ↔ ¬GoesOn server control protoV := by
  have hreceived := receiveClientHello_eq_ok.mpr haccepts
  constructor
  · rintro hnever ⟨⟨payload, hwritten⟩, authBytes, hauth, hrequest⟩
    let hello : Hello server :=
      ⟨helloBytes, protoV, clientName, clientCaps, payload, hreceived, hwritten⟩
    obtain ⟨session, hreachable, hmem⟩ := reachable_authRequest hello hhello hauth
    exact (hnever session hreachable).unprocessed _ hmem hrequest
  · intro hstops session hreachable
    refine neverPastHello_of_unread (reachable_transcript hreachable) fun bytes hmem => ?_
    rcases read_frames (reachable_transcript hreachable) (reachable_reads hreachable) hmem
      with hread | ⟨hello, hread, hauth⟩
    · cases hhello.symm.trans hread
      exact not_isAuthRequest_of_hello haccepts
    · intro hrequest
      have hbytes : hello.bytes = helloBytes := by
        simpa using hread.symm.trans hhello
      have hprotoV : hello.protoV = protoV := by
        have := hello.received
        rw [hbytes, hreceived] at this
        cases this
        rfl
      exact hstops ⟨⟨hello.payload, hprotoV ▸ hello.written⟩, bytes, hauth, hrequest⟩

/-- A client the server shares no display codec with. -/
def av1Client : Capabilities := { Capabilities.default with displayCodecs := ["av1"] }

theorem negotiate_av1Client :
    NegotiatedProfile.negotiate av1Client Capabilities.default = .error .noDisplayCodec := by
  decide +kernel

theorem av1Client_fits :
    (CborWire.encode (TestClient.clientHello av1Client)).length ≤ maxFrameLength := by
  decide +kernel

def av1Script : Script (loopbackServer "493817") av1Client :=
  .loopback av1Client_fits authRequest_fits

def av1Hello : List UInt8 :=
  Frame.encode ControlFrameType.clientHello.toU8 av1Script.helloPayload []

/-- It stays at the hello when it says no more than that. -/
theorem negotiation_failure_fatal_silent_client :
    StaysAtHello (loopbackServer "493817") ⟨av1Hello ++ [], [], none⟩ := by
  have hhello : helloFrame ⟨av1Hello ++ [], [], none⟩ = .ok av1Hello :=
    helloFrame_sent av1Script.hello.fits [] [] none
  refine (negotiation_failure_fatal_iff hhello (acceptsHello_sent av1Script.hello)
    negotiate_av1Client).mpr ?_
  rintro ⟨-, authBytes, hauth, -⟩
  obtain ⟨cuts, hread⟩ := readFrameWith_encode Server.readerTexts
    ControlFrameType.clientHello.toU8 av1Script.hello.fits [] [] none
  obtain ⟨error, rest, hend⟩ := readFrameWith_of_parse_error Server.readerTexts
    ⟨[], cuts, none⟩ rfl
  have hrest : (readFullFrame ⟨av1Hello ++ [], [], none⟩).2 = ⟨[], cuts, none⟩ :=
    congrArg Prod.snd hread
  rw [authFrame, hrest, show readFullFrame _ = _ from hend] at hauth
  cases hauth

/-- It is authenticated and served when it goes on with the PIN. -/
theorem negotiation_failure_survived :
    NegotiatedProfile.negotiate av1Client Capabilities.default = .error .noDisplayCodec ∧
    helloFrame ⟨av1Script.bytes ++ [], [], none⟩ = .ok av1Hello ∧
    AcceptsHello (loopbackServer "493817").cib av1Hello 0 "openrd-test-client/0.0.1"
      av1Client ∧
    (∃ session,
      Reachable (loopbackServer "493817") ⟨av1Script.bytes ++ [], [], none⟩ session ∧
      writeEvent .authResult av1Script.authReply (.ok ()) ∈ session.history ∧
      writeEvent .openChannel av1Script.displayPayload (.ok ()) ∈ session.history) ∧
    ¬StaysAtHello (loopbackServer "493817") ⟨av1Script.bytes ++ [], [], none⟩ := by
  have hannounced : writeEvent .openChannel av1Script.displayPayload (.ok ()) ∈
      av1Script.helloEvents ++ (av1Script.authEvents ++ av1Script.openingEvents) := by
    simp [Script.openingEvents, Opened.events]
  have hstart : Reachable (loopbackServer "493817") ⟨av1Script.bytes ++ [], [], none⟩ _ :=
    reachable_start
  have hserved := (av1Script.reachable hstart rfl rfl).2
  refine ⟨negotiate_av1Client, av1Script.helloFrame, acceptsHello_sent av1Script.hello,
    ⟨_, hserved, ?_, hannounced⟩, fun hstays => ?_⟩
  · exact List.mem_append_right _ (by simp [Script.authEvents, sentAuth, Auth.events])
  · exact (hstays _ hserved).unserved _ hannounced (.inl rfl)

end OpenRD.Session
