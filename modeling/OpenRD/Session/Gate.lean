import OpenRD.Session.Progress

/-!
# The authentication gate

Nothing is announced, acknowledged, opened or accepted before the client has said
hello and given the expected PIN.  A client that does not gets at most one
`AuthResult`, and then nothing.
-/

namespace OpenRD.Session

open OpenRD.Foundation OpenRD.Proto OpenRD.Server

/-! ## What authentication guards -/

/-- Announcing or acknowledging a channel, and opening or accepting a stream. -/
def NeedsAuth : ControlEvent → Prop
  | .asked (.writeFrame frameType _) _ =>
      frameType = ControlFrameType.openChannel.toU8 ∨
        frameType = ControlFrameType.openChannelAck.toU8
  | .asked .openUni _ | .asked (.writeUni ..) _ => True
  | .asked .acceptUni _ | .asked .acceptBi _ => True
  | .asked .readFullFrame _ | .asked .readFullFrameOpt _ | .asked (.join _) _ => False
  | .told _ => False

def sentTypes (history : List ControlEvent) : List UInt8 :=
  history.filterMap fun
    | .asked (.writeFrame frameType _) _ => some frameType
    | _ => none

/--
The client's hello was accepted and answered once, and its `AuthRequest` with the
expected PIN was answered once, with status 0; since then neither answer was sent.
-/
def Authenticated (server : ServerConfig) (control : RecvStream)
    (history : List ControlEvent) : Prop :=
  ∃ helloBytes protoV clientName clientCaps serverHelloPayload authBytes permission
    identity authResultPayload rest,
    history =
      [readEvent helloBytes, negotiationEvent clientCaps,
        writeEvent .serverHello serverHelloPayload (.ok ()),
        readEvent authBytes, writeEvent .authResult authResultPayload (.ok ())] ++ rest ∧
    helloFrame control = .ok helloBytes ∧
    AcceptsHello server.cib helloBytes protoV clientName clientCaps ∧
    server.cib.intoWriter (serverHello server protoV) = .ok serverHelloPayload ∧
    authFrame control = .ok authBytes ∧
    AcceptsAuth server.cib authBytes "pin" (asBytes server.expectedPin) ∧
    server.cib.intoWriter (.map [(.uint 1, .uint 0), (.uint 2, .text permission),
      (.uint 3, .text identity)]) = .ok authResultPayload ∧
    ControlFrameType.serverHello.toU8 ∉ sentTypes rest ∧
    ControlFrameType.authResult.toU8 ∉ sentTypes rest

/-! ## The events of each phase -/

theorem sentTypes_append (history rest : List ControlEvent) :
    sentTypes (history ++ rest) = sentTypes history ++ sentTypes rest :=
  List.filterMap_append

theorem mem_sentTypes {history : List ControlEvent} {frameType : UInt8} :
    frameType ∈ sentTypes history ↔ ∃ payload answer,
      .asked (.writeFrame frameType payload) answer ∈ history := by
  simp only [sentTypes, List.mem_filterMap]
  constructor
  · rintro ⟨event, hmem, hevent⟩
    split at hevent
    · cases hevent
      exact ⟨_, _, hmem⟩
    · cases hevent
  · rintro ⟨payload, answer, hmem⟩
    exact ⟨_, hmem, rfl⟩

theorem serving_sentTypes {server : ServerConfig} {events : List ControlEvent}
    (h : Serving server events) {frameType : UInt8} (hsent : frameType ∈ sentTypes events) :
    frameType = ControlFrameType.openChannel.toU8 ∨
      frameType = ControlFrameType.openChannelAck.toU8 := by
  obtain ⟨payload, answer, hmem⟩ := mem_sentTypes.mp hsent
  generalize hevent : (Event.asked (.writeFrame frameType payload) answer : ControlEvent) =
    event at hmem
  cases h.mem event hmem with
  | display opening | cursor opening =>
      cases opening with
      | announce => cases hevent; exact .inl rfl
      | openUni | first | spawn => cases hevent
  | dispatch dispatching =>
      cases dispatching with
      | ack => cases hevent; exact .inr rfl
      | read | spawn => cases hevent
      | accept kind supported answer =>
          rw [acceptEvent] at hevent
          split at hevent <;> cases hevent
  | join handle => cases hevent

theorem hello_guarded {server : ServerConfig} (hello : Hello server) :
    ∀ event ∈ hello.events, ¬NeedsAuth event := by
  simp [Hello.events, readEvent, negotiationEvent, writeEvent, NeedsAuth,
    ControlFrameType.toU8]

theorem partialHello_guarded {server : ServerConfig} {events : List ControlEvent}
    (h : PartialHello server events) : ∀ event ∈ events, ¬NeedsAuth event := by
  cases h <;> simp [readEvent, negotiationEvent, writeEvent, NeedsAuth,
    ControlFrameType.toU8]

theorem auth_guarded {server : ServerConfig} (auth : Auth server) :
    ∀ event ∈ auth.events, ¬NeedsAuth event := by
  simp [Auth.events, readEvent, writeEvent, NeedsAuth, ControlFrameType.toU8]

theorem partialAuth_guarded {server : ServerConfig} {events : List ControlEvent}
    (h : PartialAuth server events) : ∀ event ∈ events, ¬NeedsAuth event := by
  cases h <;> simp [readEvent, writeEvent, NeedsAuth, ControlFrameType.toU8]

theorem transcript_guarded {server : ServerConfig} {history : List ControlEvent}
    (h : Transcript server history) :
    (∀ event ∈ history, ¬NeedsAuth event) ∨
      ∃ (hello : Hello server) (auth : Auth server) (events : List ControlEvent),
        auth.status = .ok ∧ Serving server events ∧
          history = hello.events ++ (auth.events ++ events) := by
  cases h with
  | greeting events hello => exact .inl (partialHello_guarded hello)
  | authenticating hello events auth =>
      refine .inl fun event hmem => ?_
      rcases List.mem_append.mp hmem with hmem | hmem
      · exact hello_guarded hello event hmem
      · exact partialAuth_guarded auth event hmem
  | denied hello auth status =>
      refine .inl fun event hmem => ?_
      rcases List.mem_append.mp hmem with hmem | hmem
      · exact hello_guarded hello event hmem
      · exact auth_guarded auth event hmem
  | serving hello auth status events serving =>
      exact .inr ⟨hello, auth, events, status, serving, rfl⟩

/-! ## The authentication gate -/

theorem reads_of_hello {server : ServerConfig} {control recv : RecvStream}
    {hello : Hello server} {bytes : List UInt8} {events : List ControlEvent}
    (h : Reads control (hello.events ++ readEvent bytes :: events) recv) :
    helloFrame control = .ok hello.bytes ∧ authFrame control = .ok bytes := by
  obtain ⟨hhello, hauth, -⟩ := h
  exact ⟨hhello.symm, hauth.symm⟩

theorem accepts_of_status {server : ServerConfig} {auth : Auth server}
    (hstatus : auth.status = .ok) :
    AcceptsAuth server.cib auth.bytes "pin" (asBytes server.expectedPin) := by
  obtain ⟨hmethod, hcredential⟩ := authDecision_ok.mp hstatus
  have haccepts := receiveAuthRequest_eq_ok.mp auth.received
  rwa [hmethod, hcredential] at haccepts

theorem authenticated_of_served {server : ServerConfig} {control : RecvStream}
    {hello : Hello server} {auth : Auth server} {events rest : List ControlEvent}
    (hhello : helloFrame control = .ok hello.bytes)
    (hauth : authFrame control = .ok auth.bytes) (hstatus : auth.status = .ok)
    (hserving : Serving server (events ++ rest)) :
    Authenticated server control (hello.events ++ (auth.events ++ events)) := by
  have hwritten := auth.written
  rw [show (authDecision server auth.method auth.credential).1 = .ok from hstatus]
    at hwritten
  have hunsent {frameType : UInt8}
      (htype : ¬(frameType = ControlFrameType.openChannel.toU8 ∨
        frameType = ControlFrameType.openChannelAck.toU8)) :
      frameType ∉ sentTypes events := by
    intro hmem
    refine htype (serving_sentTypes hserving ?_)
    rw [sentTypes_append]
    exact List.mem_append_left _ hmem
  exact ⟨hello.bytes, hello.protoV, hello.clientName, hello.clientCaps, hello.payload,
    auth.bytes, _, _, auth.payload, events, rfl, hhello,
    receiveClientHello_eq_ok.mp hello.received, hello.written, hauth,
    accepts_of_status hstatus, hwritten, hunsent (by decide), hunsent (by decide)⟩

theorem append_of_not_mem {α : Type} {first second before after : List α} {event : α}
    (h : first ++ second = before ++ event :: after) (hevent : event ∉ first) :
    ∃ middle, before = first ++ middle ∧ second = middle ++ event :: after := by
  rcases List.append_eq_append_iff.mp h with ⟨middle, hbefore, hsecond⟩ |
    ⟨middle, hfirst, hrest⟩
  · exact ⟨middle, hbefore, hsecond⟩
  · cases middle with
    | nil =>
        refine ⟨[], by simpa using hfirst.symm, by simpa using hrest.symm⟩
    | cons head middle =>
        cases hrest
        exact absurd (hfirst ▸ by simp) hevent

theorem rejected_transcript {server : ServerConfig} {control recv : RecvStream}
    {history : List ControlEvent} (h : Transcript server history)
    (hreads : Reads control history recv)
    (hrejected : ∀ authBytes, authFrame control = .ok authBytes →
      ¬AcceptsAuth server.cib authBytes "pin" (asBytes server.expectedPin)) :
    (∀ event ∈ history, ¬NeedsAuth event) ∧
      sentTypes history <+:
        [ControlFrameType.serverHello.toU8, ControlFrameType.authResult.toU8] ∧
      ((∀ authBytes method credential, authFrame control = .ok authBytes →
          ¬AcceptsAuth server.cib authBytes method credential) →
        sentTypes history <+: [ControlFrameType.serverHello.toU8]) := by
  have hguarded : ∀ event ∈ history, ¬NeedsAuth event := by
    rcases transcript_guarded h with hguarded | ⟨hello, auth, events, hstatus, -, rfl⟩
    · exact hguarded
    · exact absurd (accepts_of_status hstatus) (hrejected _ (reads_of_hello hreads).2)
  refine ⟨hguarded, ?_⟩
  have hanswered {auth : Auth server}
      (hauth : authFrame control = .ok auth.bytes) :
      ¬∀ authBytes method credential, authFrame control = .ok authBytes →
        ¬AcceptsAuth server.cib authBytes method credential :=
    fun hundecoded =>
      hundecoded _ _ _ hauth (receiveAuthRequest_eq_ok.mp auth.received)
  cases h with
  | greeting events hello =>
      cases hello <;> simp [sentTypes, readEvent, negotiationEvent, writeEvent]
  | authenticating hello events auth =>
      cases auth with
      | unsent auth error =>
          refine ⟨by simp [sentTypes, Hello.events, readEvent, negotiationEvent,
            writeEvent], fun hundecoded => ?_⟩
          exact absurd hundecoded (hanswered (reads_of_hello hreads).2)
      | _ => simp [sentTypes, Hello.events, readEvent, negotiationEvent, writeEvent]
  | denied hello auth status =>
      refine ⟨by simp [sentTypes, Hello.events, Auth.events, readEvent,
        negotiationEvent, writeEvent], fun hundecoded => ?_⟩
      exact absurd hundecoded (hanswered (reads_of_hello hreads).2)
  | serving hello auth status events serving =>
      exact absurd (accepts_of_status status) (hrejected _ (reads_of_hello hreads).2)

theorem authentication_gate {server : ServerConfig} {control : RecvStream}
    {session : State} (h : Reachable server control session) :
    (∀ before event after, session.history = before ++ event :: after →
      NeedsAuth event → Authenticated server control before) ∧
    ((∀ authBytes, authFrame control = .ok authBytes →
        ¬AcceptsAuth server.cib authBytes "pin" (asBytes server.expectedPin)) →
      (∀ event ∈ session.history, ¬NeedsAuth event) ∧
      sentTypes session.history <+:
        [ControlFrameType.serverHello.toU8, ControlFrameType.authResult.toU8] ∧
      ((∀ authBytes method credential, authFrame control = .ok authBytes →
          ¬AcceptsAuth server.cib authBytes method credential) →
        sentTypes session.history <+: [ControlFrameType.serverHello.toU8])) := by
  have hreads := reachable_reads h
  refine ⟨?_, fun hrejected => ?_⟩
  · intro before event after hhistory hevent
    have hmem : event ∈ session.history := hhistory ▸ by simp
    rcases transcript_guarded (reachable_transcript h) with hguarded |
      ⟨hello, auth, events, hstatus, hserving, hserved⟩
    · exact absurd hevent (hguarded event hmem)
    · rw [hserved] at hreads hhistory
      obtain ⟨hhello, hauth⟩ := reads_of_hello hreads
      obtain ⟨middle, rfl, hmiddle⟩ :=
        append_of_not_mem hhistory fun hmem => hello_guarded hello event hmem hevent
      obtain ⟨events, rfl, rfl⟩ :=
        append_of_not_mem hmiddle fun hmem => auth_guarded auth event hmem hevent
      exact authenticated_of_served hhello hauth hstatus hserving
  · exact rejected_transcript (reachable_transcript h) hreads hrejected

/-- The announcement of Display comes after both exchanges of a client with the PIN. -/
theorem authentication_gate_loopback :
    Authenticated (loopbackServer "493817") ⟨loopbackScript.bytes ++ [], [1, 5], none⟩
      (loopbackScript.helloEvents ++ (loopbackScript.authEvents ++ [])) := by
  have hdisplay : NeedsAuth (writeEvent .openChannel loopbackScript.displayPayload (.ok ())) :=
    .inl rfl
  refine (authentication_gate (loopbackScript.reachable reachable_start rfl rfl).2).1 _ _
    loopbackScript.openingEvents.tail ?_ hdisplay
  simp only [List.append_assoc, List.nil_append]
  rfl

end OpenRD.Session
