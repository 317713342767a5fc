import OpenRD.Session.WebMessages

/-!
# The reference runs of the server and the web client

With the client's messages on the Control stream, the Control task gets to where it
waits for the Input stream.  With the server's frames before it, the client gets to the
third of them, which is not the acknowledgement it expects.
-/

namespace OpenRD.Session

open OpenRD.Foundation OpenRD.Proto OpenRD.Server

variable {server : ServerConfig}

/-! ## The server -/

namespace WebExchange

def helloExchanged (h : WebExchange server) : Hello server where
  bytes := Frame.encode ControlFrameType.clientHello.toU8 (CborWire.encode webHello) []
  protoV := 0
  clientName := "openrd-web/0.0.1"
  clientCaps := Capabilities.fromCbor webCapabilities
  payload := CborWire.encode (serverHello server 0)
  received := receiveClientHello_eq_ok.mpr
    (acceptsHello_of_carries h.hello parseClientHello_web)
  written := h.helloReply.written

def authenticated (h : WebExchange server) : Auth server :=
  sentAuth h.auth h.authReply.written

def displayOpened (h : WebExchange server) : Opened server displayChannel :=
  ⟨_, 0, h.announced.written⟩

def cursorOpened (h : WebExchange server) : Opened server cursorChannel :=
  ⟨_, 1, h.cursorAnnounced.written⟩

def inputAcked (h : WebExchange server) : Acked server :=
  sentOpen h.openRequest h.acked.written

/-- Up to the head of the dispatcher loop. -/
def servedEvents (h : WebExchange server) : List ControlEvent :=
  h.helloExchanged.events ++ (h.authenticated.events ++
    (h.displayOpened.events ++ h.cursorOpened.events))

def events (h : WebExchange server) : List ControlEvent :=
  h.servedEvents ++ h.inputAcked.events (.ok ())

/-- The frames the client has to send, and those the server answers with. -/
def requests (_h : WebExchange server) : List SentFrame :=
  [(ControlFrameType.clientHello.toU8, CborWire.encode webHello),
    (ControlFrameType.authRequest.toU8,
      CborWire.encode (TestClient.authRequest "pin" (asBytes server.expectedPin))),
    (ControlFrameType.openChannel.toU8, CborWire.encode openInput)]

def helloAnswer (_h : WebExchange server) : SentFrame :=
  (ControlFrameType.serverHello.toU8, CborWire.encode (serverHello server 0))

def authAnswer (_h : WebExchange server) : SentFrame :=
  (ControlFrameType.authResult.toU8, CborWire.encode (authAccepted server))

def announcement (_h : WebExchange server) : SentFrame :=
  (ControlFrameType.openChannel.toU8,
    CborWire.encode (openChannelAnnounce ChannelKind.display.toU64 100 0))

def cursorAnnouncement (_h : WebExchange server) : SentFrame :=
  (ControlFrameType.openChannel.toU8,
    CborWire.encode (openChannelAnnounce ChannelKind.cursor.toU64 101 0))

def replies (h : WebExchange server) : List SentFrame :=
  [h.helloAnswer, h.authAnswer, h.announcement, h.cursorAnnouncement,
    (ControlFrameType.openChannelAck.toU8, CborWire.encode (openChannelAck 1 0))]

theorem replies_fit (h : WebExchange server) :
    ∀ frame ∈ h.replies, frame.2.length ≤ maxFrameLength := by
  intro frame hmem
  simp only [replies, List.mem_cons, List.not_mem_nil, or_false] at hmem
  rcases hmem with rfl | rfl | rfl | rfl | rfl
  · exact h.helloReply.fits
  · exact h.authReply.fits
  · exact h.announced.fits
  · exact h.cursorAnnounced.fits
  · exact h.acked.fits

def reference (h : WebExchange server) (cuts : List Nat) : Reference :=
  ⟨⟨wire h.requests, cuts, none⟩, 0, [], []⟩

theorem leads_greeted (h : WebExchange server) (cuts : List Nat) :
    ∃ cuts', referenceEnv.Leads (handleControlStream server) (h.reference cuts)
      h.helloExchanged.events
      (authExchange server >>= fun accepted =>
        if accepted then serveChannels server else return ())
      ⟨⟨wire h.requests.tail, cuts', none⟩, 0, [], []⟩ := by
  obtain ⟨cuts', hhello⟩ := readFullFrame_wire
    (ControlFrameType.clientHello.toU8, CborWire.encode webHello) h.hello.fits
    h.requests.tail cuts none
  have hrest : (h.reference cuts).afterRead =
      ⟨⟨wire h.requests.tail, cuts', none⟩, 0, [], []⟩ :=
    congrArg (fun control => (⟨control, 0, [], []⟩ : Reference)) (congrArg Prod.snd hhello)
  exact ⟨cuts', hrest ▸ Reference.leads_hello (congrArg Prod.fst hhello)⟩

theorem leads_served (h : WebExchange server) (cuts : List Nat) :
    ∃ cuts', referenceEnv.Leads
      (authExchange server >>= fun accepted =>
        if accepted then serveChannels server else return ())
      ⟨⟨wire h.requests.tail, cuts, none⟩, 0, [], []⟩
      (h.authenticated.events ++ (h.displayOpened.events ++ h.cursorOpened.events))
      (dispatching server [0, 1])
      ⟨⟨wire [(ControlFrameType.openChannel.toU8, CborWire.encode openInput)], cuts',
        none⟩, 2, [], []⟩ := by
  obtain ⟨cuts', hauth⟩ := readFullFrame_wire
    (ControlFrameType.authRequest.toU8,
      CborWire.encode (TestClient.authRequest "pin" (asBytes server.expectedPin)))
    h.auth.fits [(ControlFrameType.openChannel.toU8, CborWire.encode openInput)] cuts none
  have hstatus : h.authenticated.status = .ok := by
    rw [Auth.status, authDecision_ok]
    exact ⟨rfl, rfl⟩
  let greeted : Reference := ⟨⟨wire h.requests.tail, cuts, none⟩, 0, [], []⟩
  have hread : (readFullFrame greeted.control).1 = .ok h.authenticated.bytes :=
    congrArg Prod.fst hauth
  have hdisplay : h.displayOpened.stream = greeted.serverStreams := rfl
  have hcursor : h.cursorOpened.stream = greeted.serverStreams + 1 := rfl
  have hrest := congrArg (fun control => (⟨control, 2, [], []⟩ : Reference))
    (congrArg Prod.snd hauth)
  exact ⟨cuts', hrest ▸ Reference.leads_dispatching hread hstatus hdisplay hcursor⟩

/-- The request is acknowledged, and the Control task waits for the stream. -/
theorem leads_accepting (h : WebExchange server) (cuts : List Nat) :
    ∃ next reference, referenceEnv.Leads (handleControlStream server) (h.reference cuts)
      h.events (Control.acceptUni >>= next) reference ∧ reference.uni = [] := by
  obtain ⟨cuts₁, hgreeted⟩ := h.leads_greeted cuts
  obtain ⟨cuts₂, hserved⟩ := h.leads_served cuts₁
  obtain ⟨cuts₃, hread⟩ := readFullFrameOpt_wire
    (ControlFrameType.openChannel.toU8, CborWire.encode openInput) h.openRequest.fits []
    cuts₂ none
  have hacked : referenceEnv.Leads (dispatch server [0, 1] >>= _)
      ⟨⟨wire [(ControlFrameType.openChannel.toU8, CborWire.encode openInput)], cuts₂,
        none⟩, 2, [], []⟩ (h.inputAcked.events (.ok ())) _ _ :=
    Reference.leads_acked (congrArg Prod.fst hread) rfl
      (Prog.afterPass (dispatch server) joinAll)
  have hrun := (hgreeted.trans hserved).trans ((Env.leads_into_pass _ _ _ _).trans hacked)
  rw [List.nil_append] at hrun
  have hkind : h.inputAcked.request.kind = ChannelKind.input.toU64 := rfl
  rw [startHandler, if_pos hkind, Prog.bind_assoc] at hrun
  exact ⟨_, _, hrun, rfl⟩

end WebExchange

/-! ## The client -/

/-- A reader that is handed the server's frames one by one. -/
def webReferenceEnv :
    Env Web.Request Web.Request.Answer Web.Output (List SentFrame) Unit where
  answer frames question _ :=
    match question with
    | .next =>
        match frames with
        | frame :: frames => some (.ok (some ⟨0, frame.1, frame.2⟩), frames)
        | [] => none
    | .write _ => some (.ok (), frames)
    | .createUnidirectionalStream => some (.ok (), frames)
    | .writeInput _ => some (.ok (), frames)
    | .closeInput => some (.ok (), frames)
    | .setTimeout _ => some ((), frames)
  perform frames _ := frames

def webWrite (bytes : List UInt8) : Web.ClientEvent := .asked (.write bytes) (.ok ())

def webNext (frame : SentFrame) : Web.ClientEvent :=
  .asked .next (.ok (some ⟨0, frame.1, frame.2⟩))

def webLog (line : Web.Line) : Web.ClientEvent := .told (.log line)

section Client

variable {frame : SentFrame} {frames : List SentFrame}

theorem completes_webWrite (bytes : List UInt8) :
    webReferenceEnv.Completes (Web.write bytes) frames [webWrite bytes] () frames :=
  .call () rfl rfl

theorem completes_webLog (line : Web.Line) :
    webReferenceEnv.Completes (Web.log line) frames [webLog line] () frames :=
  .say _

theorem completes_webNext :
    webReferenceEnv.Completes Web.next (frame :: frames) [webNext frame]
      (some ⟨0, frame.1, frame.2⟩) frames :=
  .call () rfl rfl

theorem completes_awaitFrame (type : UInt8) (payload : List UInt8) (name : String) :
    webReferenceEnv.Completes (Web.awaitFrame type name) ((type, payload) :: frames)
      [webNext (type, payload)] ⟨0, type, payload⟩ frames := by
  have hreturn : webReferenceEnv.Completes
      (if type ≠ type then Web.giveUp name (some ⟨0, type, payload⟩)
        else pure ⟨0, type, payload⟩ : Web.ClientProg Web.Frame) frames []
      ⟨0, type, payload⟩ frames := by
    rw [if_neg (not_not.mpr rfl)]
    exact .pure _
  exact .bind completes_webNext hreturn

/-- A frame of another type ends the flow. -/
theorem leads_awaitFrame {α : Type} {type : UInt8} (name : String) (hne : frame.1 ≠ type)
    (f : Web.Frame → Web.ClientProg α) :
    webReferenceEnv.Leads (Web.awaitFrame type name >>= f) (frame :: frames)
      [webNext frame,
        webLog (.text (Web.expectedText name (some ⟨0, frame.1, frame.2⟩)))]
      (.fail .returned) frames := by
  have hgiveUp : webReferenceEnv.Leads
      ((if frame.1 ≠ type then Web.giveUp name (some ⟨0, frame.1, frame.2⟩)
        else pure ⟨0, frame.1, frame.2⟩) >>= f) frames
      [webLog (.text (Web.expectedText name (some ⟨0, frame.1, frame.2⟩)))]
      (.fail .returned) frames := by
    rw [if_pos hne]
    exact fun _ => ⟨[], rfl⟩
  rw [Web.awaitFrame, Prog.bind_assoc]
  exact (completes_webNext _ _).trans hgiveUp

end Client

theorem readPayload_encode {value : Cbor} {stack : Nat} (hplain : Web.plain value = true)
    (hstack : Web.levels value ≤ stack)
    (hfits : (CborWire.encode value).length ≤ maxFrameLength) :
    Web.readPayload stack (CborWire.encode value) = .ok (Web.shown value) := by
  have hread := Web.readValue_encode value [] stack hplain
    (hfits.trans_lt (by decide)) hstack
  rw [List.append_nil] at hread
  rw [Web.readPayload, hread]

theorem readMap_encode {entries : List (Cbor × Cbor)} {stack : Nat}
    (hplain : Web.plain (.map entries) = true) (hstack : Web.levels (.map entries) ≤ stack)
    (hfits : (CborWire.encode (.map entries)).length ≤ maxFrameLength) :
    Web.readMap stack (CborWire.encode (.map entries)) = .ok (Web.shownEntries entries) := by
  have hread := Web.readValue_encode (.map entries) [] stack hplain
    (hfits.trans_lt (by decide)) hstack
  rw [List.append_nil] at hread
  exact Web.readMap_eq_ok.mpr ⟨_, hread⟩

/-- The entries of an accepting `AuthResult` as the client sees them. -/
def authEntries (server : ServerConfig) : List (Web.Value × Web.Value) :=
  [(.number 1, .number 0), (.number 2, .text (utf8 "interactive")),
    (.number 3, .text (utf8 ("pin-user-" ++ hexEncode server.idSeed.toList)))]

def authLine (server : ServerConfig) : Web.Line :=
  .authResult 0 (.text (utf8 "interactive"))
    (.text (utf8 ("pin-user-" ++ hexEncode server.idSeed.toList)))

namespace WebExchange

/-- What the client logs when it gives up. -/
def refusal : String := "expected OpenChannelAck, got type=0x6"

/-! The client's events, cut where it waits for a frame. -/

def helloSent (_h : WebExchange server) : List Web.ClientEvent :=
  [webWrite (Web.encodeFrame Web.Control.clientHello Web.encodeClientHello),
    webLog (.text "sent ClientHello")]

def authSent (h : WebExchange server) : List Web.ClientEvent :=
  [webNext h.helloAnswer, webLog (.serverHello (Web.shown (serverHello server 0))),
    webWrite (Web.encodeFrame Web.Control.authRequest
      (Web.encodeAuthRequest "pin" (utf8 server.expectedPin))),
    webLog (.text "sent AuthRequest (method=pin)")]

def refused (h : WebExchange server) : List Web.ClientEvent :=
  [webNext h.authAnswer, webLog (authLine server),
    webWrite (Web.encodeFrame Web.Control.openChannel
      (Web.encodeOpenChannel Web.ChannelKind.input Web.inputChannelId.toNat 2)),
    webLog (.text "sent OpenChannel(Input, channel_id=1)"),
    webNext h.announcement, webLog (.text refusal)]

def clientEvents (h : WebExchange server) : List Web.ClientEvent :=
  h.helloSent ++ (h.authSent ++ h.refused)

/-- The client takes the announcement of the Display channel for the answer. -/
theorem leads_rounds (h : WebExchange server) (textToInt32 : List UInt8 → Int)
    {stack : Nat} (hstack : 4 ≤ stack) :
    ∃ afterHello afterAuth, ∀ frames : List SentFrame,
      webReferenceEnv.Leads (Web.connect textToInt32 stack server.expectedPin) frames
        h.helloSent (Web.awaitFrame Web.Control.serverHello "ServerHello" >>= afterHello)
        frames ∧
      webReferenceEnv.Leads
        (Web.awaitFrame Web.Control.serverHello "ServerHello" >>= afterHello)
        (h.helloAnswer :: frames) h.authSent
        (Web.awaitFrame Web.Control.authResult "AuthResult" >>= afterAuth) frames ∧
      webReferenceEnv.Leads
        (Web.awaitFrame Web.Control.authResult "AuthResult" >>= afterAuth)
        (h.authAnswer :: h.announcement :: frames) h.refused (.fail .returned) frames := by
  have hhello : Web.readPayload stack h.helloAnswer.2 =
      .ok (Web.shown (serverHello server 0)) :=
    readPayload_encode rfl hstack h.helloReply.fits
  have hlevels : Web.levels (authAccepted server) = 2 := rfl
  have hauth : Web.readMap stack h.authAnswer.2 = .ok (authEntries server) :=
    readMap_encode rfl (hlevels.trans_le (by omega)) h.authReply.fits
  have hstatus : (Web.getNumber (authEntries server) 1).orZero.toInt32 textToInt32 = 0 := rfl
  have hannounced : h.announcement.1 ≠ Web.Control.openChannelAck :=
    show ControlFrameType.openChannel.toU8 ≠ Web.Control.openChannelAck by decide
  have htext : Web.expectedText "OpenChannelAck"
      (some ⟨0, h.announcement.1, h.announcement.2⟩) = refusal := by
    rw [announcement, Web.expectedText]
    decide +kernel
  simp only [Web.connect, Web.exchangeHello, Web.authenticate, Web.openInput,
    Prog.bind_assoc]
  apply Exists.intro
  apply Exists.intro
  intro frames
  refine ⟨?_, ?_, ?_⟩
  · exact (completes_webWrite _ _ _).trans (completes_webLog _ _ _)
  · refine (completes_awaitFrame _ _ _ _ _).trans ?_
    refine (Env.Completes.lift hhello _ _).trans ?_
    refine (completes_webLog _ _ _).trans ?_
    exact (completes_webWrite _ _ _).trans (completes_webLog _ _ _)
  · refine (completes_awaitFrame _ _ _ _ _).trans ?_
    refine (Env.Completes.lift hauth _ _).trans ?_
    rw [hstatus]
    refine (completes_webLog _ _ _).trans ?_
    refine (Env.Completes.pure () _ _).trans ?_
    refine (completes_webWrite _ _ _).trans ?_
    refine (completes_webLog _ _ _).trans ?_
    exact htext ▸ leads_awaitFrame "OpenChannelAck" hannounced _

theorem leads_refusal (h : WebExchange server) (textToInt32 : List UInt8 → Int)
    {stack : Nat} (hstack : 4 ≤ stack) :
    webReferenceEnv.Leads (Web.connect textToInt32 stack server.expectedPin) h.replies
      h.clientEvents (.fail .returned) (h.replies.drop 3) := by
  obtain ⟨_, _, hrounds⟩ := h.leads_rounds textToInt32 hstack
  exact (hrounds _).1.trans ((hrounds _).2.1.trans (hrounds _).2.2)

end WebExchange

end OpenRD.Session
