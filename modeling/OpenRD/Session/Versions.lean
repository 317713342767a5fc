import OpenRD.Proto.Intersection
import OpenRD.Server.FrameVersions
import OpenRD.Session.Gate

/-!
# Version discipline

The version appears in the envelope of every frame, in the client's hello, and in
both capability lists.  The server checks the envelope of the hello only, and echoes
the version in the hello without a look at the lists.
-/

namespace OpenRD.Session

open OpenRD.Foundation OpenRD.Proto OpenRD.Server

/-! ## Frames and the stages that read them -/

def stageOf : Task → Option Stage
  | .input _ => some .input
  | .clipboard _ => some .clipboard
  | .chat _ => some .chat
  | .file _ => some .file
  | .display _ | .cursor _ => none

/-- The hello exchange reads the first frame on Control, the PIN exchange the next. -/
inductive ReadBy (session : State) : Stage → List UInt8 → Prop where
  | hello {bytes : List UInt8} {rest : List ControlEvent}
      (first : session.history = readEvent bytes :: rest) : ReadBy session .hello bytes
  | auth {bytes : List UInt8} {first : ControlEvent} {rest : List ControlEvent}
      (history : session.history = first :: rest) (later : readEvent bytes ∈ rest) :
      ReadBy session .auth bytes
  | dispatch {bytes : List UInt8} (read : readOptEvent bytes ∈ session.history) :
      ReadBy session .dispatch bytes
  | handler {stage : Stage} {bytes : List UInt8} {spawned : Spawned}
      (running : spawned ∈ session.world.handlers)
      (reads : stageOf spawned.task = some stage)
      (read : frameRead bytes ∈ spawned.run.history) : ReadBy session stage bytes

theorem ReadBy.hello_unique {session : State} {bytes bytes' : List UInt8}
    (h : ReadBy session .hello bytes) (h' : ReadBy session .hello bytes') :
    bytes = bytes' := by
  have hfirst {bytes : List UInt8} (h : ReadBy session .hello bytes) :
      ∃ rest, session.history = readEvent bytes :: rest := by
    cases h with
    | hello first => exact ⟨_, first⟩
    | handler running reads read =>
        rename_i spawned
        cases htask : spawned.task <;> simp [stageOf, htask] at reads
  obtain ⟨rest, hrest⟩ := hfirst h
  obtain ⟨rest', hrest'⟩ := hfirst h'
  rw [hrest] at hrest'
  simpa [readEvent] using (List.cons.inj hrest').1

/-! ## What the versions should be, and when they are -/

/-- The server acts on frames of version 0, and says hello in the version negotiated. -/
structure VersionDiscipline (server : ServerConfig) (session : State) : Prop where
  frames : ∀ stage bytes frame n, ReadBy session stage bytes →
    Frame.parse bytes = .ok (frame, n) →
    stage.ActsOn server frame.header.version frame.header.frameType →
    frame.header.version = ProtocolVersion.v0
  hello : ∀ payload answer, writeEvent .serverHello payload answer ∈ session.history →
    ∃ bytes protoV clientName clientCaps p, ReadBy session .hello bytes ∧
      AcceptsHello server.cib bytes protoV clientName clientCaps ∧
      server.cib.intoWriter (.map [(.uint 1, .uint protoV),
        (.uint 2, .text "openrd-server/0.0.1"), (.uint 3, Capabilities.default.toCbor),
        (.uint 4, .bytes server.sessionId.toList), (.uint 5, .uint server.serverTime)]) =
          .ok payload ∧
      (∃ version ∈ Capabilities.default.protocolVersions, protoV = version.toUInt64) ∧
      NegotiatedProfile.negotiate clientCaps Capabilities.default = .ok p ∧
      protoV = p.version.toUInt64

/-- The client stamps what it sends after its hello with 0, and asks for what it gets. -/
structure KeepsVersion (server : ServerConfig) (session : State) : Prop where
  frames : ∀ stage bytes frame n, ReadBy session stage bytes → stage ≠ .hello →
    Frame.parse bytes = .ok (frame, n) → stage.Takes frame.header.frameType →
    frame.header.version = ProtocolVersion.v0
  hello : ∀ bytes protoV clientName clientCaps, ReadBy session .hello bytes →
    AcceptsHello server.cib bytes protoV clientName clientCaps →
    (∃ payload answer, writeEvent .serverHello payload answer ∈ session.history) →
    ∃ p, NegotiatedProfile.negotiate clientCaps Capabilities.default = .ok p ∧
      protoV = p.version.toUInt64

variable {server : ServerConfig} {control : RecvStream}

theorem serverHello_sent {history : List ControlEvent} (h : Transcript server history)
    {payload : List UInt8} {answer : Except Error Unit}
    (hmem : writeEvent .serverHello payload answer ∈ history) :
    ∃ hello : Hello server, ∃ rest : List ControlEvent,
      history = readEvent hello.bytes :: rest ∧ payload = hello.payload := by
  have hhello {hello : Hello server}
      (hmem : writeEvent .serverHello payload answer ∈ hello.events) :
      payload = hello.payload := by
    have hevent : (payload = hello.payload ∧ answer = .ok ()) := by
      simpa [Hello.events, readEvent, negotiationEvent, writeEvent] using hmem
    exact hevent.1
  have hpartialAuth {events : List ControlEvent} (hauth : PartialAuth server events) :
      writeEvent .serverHello payload answer ∉ events := by
    cases hauth <;> simp [readEvent, writeEvent, ControlFrameType.toU8]
  have hauth (auth : Auth server) :
      writeEvent .serverHello payload answer ∉ auth.events := by
    simp [Auth.events, readEvent, writeEvent, ControlFrameType.toU8]
  have hserving {events : List ControlEvent} (hserving : Serving server events) :
      writeEvent .serverHello payload answer ∉ events := by
    intro hmem
    rcases serving_sentTypes hserving (mem_sentTypes.mpr ⟨payload, answer, hmem⟩) with h | h
      <;> exact absurd h (by decide)
  cases h with
  | greeting events hello =>
      cases hello with
      | waiting => cases hmem
      | unread | refused | accepted => simp [writeEvent, readEvent, negotiationEvent] at hmem
      | unsent hello error =>
          refine ⟨hello, _, rfl, ?_⟩
          have hevent : payload = hello.payload ∧ answer = .error error := by
            simpa [readEvent, negotiationEvent, writeEvent] using hmem
          exact hevent.1
  | authenticating hello events auth =>
      refine ⟨hello, _, rfl, ?_⟩
      exact hhello ((List.mem_append.mp hmem).resolve_right (hpartialAuth auth))
  | denied hello auth status =>
      refine ⟨hello, _, rfl, ?_⟩
      exact hhello ((List.mem_append.mp hmem).resolve_right (hauth auth))
  | serving hello auth status events serving =>
      refine ⟨hello, _, rfl, ?_⟩
      refine hhello ((List.mem_append.mp hmem).resolve_right fun hmem => ?_)
      exact (List.mem_append.mp hmem).elim (hauth auth) (hserving serving)

theorem accepted_unique {cib : Ciborium} {bytes : List UInt8} {protoV protoV' : UInt64}
    {clientName clientName' : String} {clientCaps clientCaps' : Capabilities}
    (h : AcceptsHello cib bytes protoV clientName clientCaps)
    (h' : AcceptsHello cib bytes protoV' clientName' clientCaps') :
    protoV = protoV' ∧ clientCaps = clientCaps' := by
  cases (receiveClientHello_eq_ok.mpr h).symm.trans (receiveClientHello_eq_ok.mpr h')
  exact ⟨rfl, rfl⟩

/--
The discipline holds exactly when the client keeps to it: the server enforces nothing
but the version byte of the hello.
-/
theorem versionDiscipline_iff {session : State} (h : Reachable server control session) :
    VersionDiscipline server session ↔ KeepsVersion server session := by
  constructor
  · intro hdiscipline
    constructor
    · intro stage bytes frame n hread hstage hparse htakes
      exact hdiscipline.frames stage bytes frame n hread hparse
        ((actsOn_iff server).mpr ⟨htakes, fun hhello => absurd hhello hstage⟩)
    · rintro bytes protoV clientName clientCaps hread haccepts ⟨payload, answer, hsent⟩
      obtain ⟨bytes', protoV', clientName', clientCaps', p, hread', haccepts', -, -,
        hnegotiated, hversion⟩ := hdiscipline.hello payload answer hsent
      cases hread.hello_unique hread'
      obtain ⟨rfl, rfl⟩ := accepted_unique haccepts haccepts'
      exact ⟨p, hnegotiated, hversion⟩
  · intro hkeeps
    constructor
    · intro stage bytes frame n hread hparse hacts
      obtain ⟨htakes, hhello⟩ := (actsOn_iff server).mp hacts
      by_cases hstage : stage = .hello
      · exact hhello hstage
      · exact hkeeps.frames stage bytes frame n hread hstage hparse htakes
    · intro payload answer hsent
      obtain ⟨hello, rest, hhistory, rfl⟩ := serverHello_sent (reachable_transcript h) hsent
      have hread : ReadBy session .hello hello.bytes := .hello hhistory
      have haccepts := receiveClientHello_eq_ok.mp hello.received
      obtain ⟨p, hnegotiated, hversion⟩ :=
        hkeeps.hello _ _ _ _ hread haccepts ⟨_, _, hsent⟩
      have hoffered := (NegotiatedProfile.intersection_of_ok hnegotiated).version.1.2
      exact ⟨_, _, _, _, p, hread, haccepts, hello.written, ⟨_, hoffered, hversion⟩,
        hnegotiated, hversion⟩

/-! ## A client that keeps to the version, and one that does not -/

theorem version_of_encoded {frameType : UInt8} {payload : List UInt8} {frame : Frame}
    {n : Nat} (hfits : payload.length ≤ maxFrameLength)
    (hparse : Frame.parse (Frame.encode frameType payload []) = .ok (frame, n)) :
    frame.header.version = ProtocolVersion.v0 := by
  cases (Frame.parse_encode frameType hfits).symm.trans hparse
  rfl

theorem negotiate_default :
    ∃ p, NegotiatedProfile.negotiate Capabilities.default Capabilities.default = .ok p ∧
      (0 : UInt64) = p.version.toUInt64 :=
  ⟨_, rfl, by decide +kernel⟩

theorem versionDiscipline_loopback :
    ∃ session, Reachable (loopbackServer "493817") ⟨loopbackScript.bytes ++ [], [], none⟩
        session ∧
      session.history = loopbackScript.helloEvents ++ (loopbackScript.authEvents ++
        loopbackScript.openingEvents) ∧
      VersionDiscipline (loopbackServer "493817") session := by
  have hstart : Reachable (loopbackServer "493817") ⟨loopbackScript.bytes ++ [], [], none⟩ _ :=
    reachable_start
  obtain ⟨-, hserved⟩ := loopbackScript.reachable hstart rfl rfl
  refine ⟨_, hserved, rfl, (versionDiscipline_iff hserved).mpr ⟨?_, ?_⟩⟩
  · intro stage bytes frame n hread hstage hparse htakes
    cases hread with
    | hello first => exact absurd rfl hstage
    | auth history later =>
        have hmem : readEvent bytes ∈ loopbackScript.helloEvents ++
            (loopbackScript.authEvents ++ loopbackScript.openingEvents) :=
          Eq.mpr (congrArg (readEvent bytes ∈ ·) history) (List.mem_cons_of_mem _ later)
        simp [Script.helloEvents, Script.authEvents, Script.openingEvents, Hello.events,
          Auth.events, Opened.events, sentHello, sentAuth, readEvent, writeEvent,
          negotiationEvent] at hmem
        rcases hmem with rfl | rfl
        · exact version_of_encoded loopbackScript.hello.fits hparse
        · exact version_of_encoded loopbackScript.auth.fits hparse
    | dispatch read =>
        have hmem : readOptEvent bytes ∈ loopbackScript.helloEvents ++
            (loopbackScript.authEvents ++ loopbackScript.openingEvents) := read
        simp [Script.helloEvents, Script.authEvents, Script.openingEvents, Hello.events,
          Auth.events, Opened.events, readEvent, writeEvent, readOptEvent,
          negotiationEvent] at hmem
    | @handler stage bytes spawned running reads read =>
        have hmem : spawned ∈ [Spawned.start (loopbackServer "493817") (.display 0),
            Spawned.start (loopbackServer "493817") (.cursor 1)] := running
        simp only [List.mem_cons, List.not_mem_nil, or_false] at hmem
        rcases hmem with rfl | rfl <;> cases reads
  · intro bytes protoV clientName clientCaps hread haccepts hsent
    cases hread.hello_unique (.hello rfl)
    obtain ⟨rfl, rfl⟩ := accepted_unique haccepts (acceptsHello_sent loopbackScript.hello)
    exact negotiate_default

/-- A client that wants version 5 and stamps its PIN with version 7. -/
def laterHello : Cbor :=
  .map [(key 1, .uint 5), (key 2, .text "later-client"),
    (key 3, Capabilities.default.toCbor)]

theorem laterHello_fits : (CborWire.encode laterHello).length ≤ maxFrameLength := by
  decide +kernel

def laterHelloFrame : List UInt8 :=
  Frame.encode ControlFrameType.clientHello.toU8 (CborWire.encode laterHello) []

def laterAuthFrame : List UInt8 :=
  Frame.envelope ⟨7⟩ ControlFrameType.authRequest.toU8
    (CborWire.encode (TestClient.authRequest "pin" (asBytes "493817")))

def laterControl : RecvStream := ⟨laterHelloFrame ++ (laterAuthFrame ++ []), [], none⟩

theorem parseClientHello_later :
    parseClientHello laterHello = .ok (5, "later-client", Capabilities.default) := by
  simp [laterHello, parseClientHello, readMapOr, readFields, storeField,
    clientHelloFields, Field.replace, okOrElse, Capabilities.fromCbor_toCbor]

theorem acceptsAuth_envelope {cib : Ciborium} {method : String}
    {credential payload : List UInt8} (version : ProtocolVersion)
    (h : Carries cib (TestClient.authRequest method credential) payload) :
    AcceptsAuth cib (Frame.envelope version ControlFrameType.authRequest.toU8 payload)
      method credential :=
  ⟨_, _, _, Frame.parse_envelope version _ h.fits, rfl, h.readBack,
    parseAuthRequest_recovers method credential _ (.refl _ _)⟩

def laterExchange : Hello (loopbackServer "493817") where
  bytes := laterHelloFrame
  protoV := 5
  clientName := "later-client"
  clientCaps := Capabilities.default
  payload := _
  received := receiveClientHello_eq_ok.mpr
    (acceptsHello_of_carries (carries_rfc8949 laterHello_fits) parseClientHello_later)
  written := rfl

def laterAuth : Auth (loopbackServer "493817") where
  bytes := laterAuthFrame
  method := "pin"
  credential := asBytes "493817"
  payload := _
  received := receiveAuthRequest_eq_ok.mpr
    (acceptsAuth_envelope ⟨7⟩ (carries_rfc8949 authRequest_fits))
  written := rfl

theorem reachable_later :
    ∃ session, Reachable (loopbackServer "493817") laterControl session ∧
      ∃ rest : List ControlEvent,
        session.history = laterExchange.events ++ (laterAuth.events ++ rest) := by
  have hstart : Reachable (loopbackServer "493817") laterControl _ := reachable_start
  obtain ⟨cuts, hhello⟩ := readFrameWith_encode Server.readerTexts
    ControlFrameType.clientHello.toU8 laterHello_fits (laterAuthFrame ++ []) [] none
  obtain ⟨cuts', hauth⟩ := readFrameWith_envelope Server.readerTexts ⟨7⟩
    ControlFrameType.authRequest.toU8 authRequest_fits [] cuts none
  have hrest : (readFullFrame laterControl).2 = ⟨laterAuthFrame ++ [], cuts, none⟩ :=
    congrArg Prod.snd hhello
  have hauth : authFrame laterControl = .ok laterAuth.bytes := by
    rw [authFrame, hrest]
    exact congrArg Prod.fst hauth
  have hleads : (controlEnv (loopbackServer "493817")).Leads
      (handleControlStream (loopbackServer "493817")) (World.start laterControl)
      (laterExchange.events ++ (laterAuth.events ++ loopbackScript.openingEvents))
      (dispatching (loopbackServer "493817") [0, 1])
      (servedWorld (loopbackServer "493817") (World.start laterControl)) :=
    leads_dispatching (congrArg Prod.fst hhello) hauth rfl rfl rfl
  exact ⟨_, hstart.leads hleads, _, rfl⟩

/-- It is told that it got version 5, and its PIN is accepted. -/
theorem versions_unchecked :
    ∃ session, Reachable (loopbackServer "493817") laterControl session ∧
      writeEvent .serverHello laterExchange.payload (.ok ()) ∈ session.history ∧
      laterExchange.payload = CborWire.encode (.map [(.uint 1, .uint 5),
        (.uint 2, .text "openrd-server/0.0.1"), (.uint 3, Capabilities.default.toCbor),
        (.uint 4, .bytes (loopbackServer "493817").sessionId.toList),
        (.uint 5, .uint (loopbackServer "493817").serverTime)]) ∧
      5 ∉ Capabilities.default.protocolVersions ∧
      ReadBy session .auth laterAuthFrame ∧
      Stage.auth.ActsOn (loopbackServer "493817") ⟨7⟩ ControlFrameType.authRequest.toU8 ∧
      writeEvent .authResult laterAuth.payload (.ok ()) ∈ session.history ∧
      laterAuth.status = .ok ∧
      ¬VersionDiscipline (loopbackServer "493817") session := by
  obtain ⟨session, hreachable, rest, hhistory⟩ := reachable_later
  have hread : ReadBy session .auth laterAuthFrame := by
    refine .auth hhistory ?_
    simp [Auth.events, laterAuth]
  have hacts : Stage.auth.ActsOn (loopbackServer "493817") ⟨7⟩
      ControlFrameType.authRequest.toU8 :=
    (actsOn_iff _).mpr ⟨rfl, fun hhello => by cases hhello⟩
  refine ⟨session, hreachable, ?_, rfl, by decide, hread, hacts, ?_, rfl, fun hkept => ?_⟩
  · simp [hhistory, Hello.events]
  · simp [hhistory, Auth.events]
  · have hversion := hkept.frames .auth laterAuthFrame _ _ hread
      (Frame.parse_envelope _ _ authRequest_fits) hacts
    cases hversion

end OpenRD.Session
