import OpenRD.Session.TestHandlers

/-!
# The test client's run

With the frames the server has for it on each stream, the client has one run: every frame
it waits for is there, and it returns.
-/

namespace OpenRD.Session

open OpenRD.Foundation OpenRD.Proto OpenRD.Server
open OpenRD.TestClient (Stream Receiver Line ClientEvent ClientProg)

/-! ## A world that has the server's frames -/

/-- What is left to read on each stream, and how many streams there have been. -/
structure ClientReference where
  left : Stream → List SentFrame
  openedUni : Nat
  openedBi : Nat
  accepted : Nat

def ClientReference.leave (reference : ClientReference) (stream : Stream)
    (frames : List SentFrame) : ClientReference :=
  { reference with
    left := fun other => if other = stream then frames else reference.left other }

/-- The client opens a unidirectional stream and three others, and accepts two. -/
def clientReferenceEnv :
    Env TestClient.Request TestClient.Request.Answer TestClient.Output ClientReference
      Unit where
  answer reference question _ :=
    match question with
    | .writeFrame .. => some (.ok (), reference)
    | .readFrame stream =>
        match reference.left stream with
        | frame :: frames => some (.ok frame.bytes, reference.leave stream frames)
        | [] => none
    | .finish _ => some (.ok (), reference)
    | .openUni =>
        if reference.openedUni < 1 then
          some (.ok reference.openedUni,
            { reference with openedUni := reference.openedUni + 1 })
        else none
    | .openBi =>
        if reference.openedBi < 3 then
          some (.ok reference.openedBi, { reference with openedBi := reference.openedBi + 1 })
        else none
    | .acceptUni =>
        if reference.accepted < 2 then
          some (.ok reference.accepted, { reference with accepted := reference.accepted + 1 })
        else none
    | .join _ => some (.ok (), reference)
    | .sleep _ => some ((), reference)
  perform reference _ := reference

/-! ## Its steps -/

def sentEvent (stream : Stream) (frame : SentFrame) : ClientEvent :=
  .asked (.writeFrame stream frame.1 frame.2) (.ok ())

def gotEvent (stream : Stream) (frame : SentFrame) : ClientEvent :=
  .asked (.readFrame stream) (.ok frame.bytes)

def printEvent (line : Line) : ClientEvent := .told (.print line)

section Steps

variable {reference : ClientReference} {cib : Ciborium}

theorem completes_clientWrite (stream : Stream) (frame : SentFrame) :
    clientReferenceEnv.Completes (TestClient.Client.writeFrame stream frame.1 frame.2)
      reference [sentEvent stream frame] () reference :=
  .call () rfl rfl

theorem completes_clientRead {stream : Stream} {frame : SentFrame} {frames : List SentFrame}
    (h : reference.left stream = frame :: frames) :
    clientReferenceEnv.Completes (TestClient.Client.readFrame stream) reference
      [gotEvent stream frame] frame.bytes (reference.leave stream frames) := by
  refine .call () ?_ rfl
  simp only [clientReferenceEnv, h]

theorem completes_clientFinish (stream : Stream) :
    clientReferenceEnv.Completes (TestClient.Client.finish stream) reference
      [.asked (.finish stream) (.ok ())] () reference :=
  .call () rfl rfl

theorem completes_openUni (hmore : reference.openedUni < 1) :
    clientReferenceEnv.Completes TestClient.Client.openUni reference
      [.asked .openUni (.ok reference.openedUni)] reference.openedUni
      { reference with openedUni := reference.openedUni + 1 } :=
  .call () (if_pos hmore) rfl

theorem completes_openBi (hmore : reference.openedBi < 3) :
    clientReferenceEnv.Completes TestClient.Client.openBi reference
      [.asked .openBi (.ok reference.openedBi)] reference.openedBi
      { reference with openedBi := reference.openedBi + 1 } :=
  .call () (if_pos hmore) rfl

theorem completes_acceptUni (hmore : reference.accepted < 2) :
    clientReferenceEnv.Completes TestClient.Client.acceptUni reference
      [.asked .acceptUni (.ok reference.accepted)] reference.accepted
      { reference with accepted := reference.accepted + 1 } :=
  .call () (if_pos hmore) rfl

theorem completes_print (line : Line) :
    clientReferenceEnv.Completes (TestClient.Client.print line) reference
      [printEvent line] () reference :=
  .say _

theorem completes_writeValue {value : Cbor} {payload : List UInt8}
    (h : cib.intoWriter value = .ok payload) (stream : Stream) (frameType : UInt8) :
    clientReferenceEnv.Completes (TestClient.writeValue cib stream frameType value) reference
      [sentEvent stream (frameType, payload)] () reference :=
  .bind (.lift (Ciborium.write_eq_ok.mpr h)) (completes_clientWrite stream (frameType, payload))

theorem expectValue_bytes {value : Cbor} {payload : List UInt8} (frameType : UInt8)
    (expected : String) (h : Carries cib value payload) :
    TestClient.expectValue cib frameType expected (SentFrame.bytes (frameType, payload)) =
      .ok value := by
  rw [TestClient.expectValue, SentFrame.bytes, Frame.parse_encode _ h.fits]
  change (if frameType ≠ frameType then _ else cib.read payload) = _
  rw [if_neg (not_not.mpr rfl)]
  exact Ciborium.read_eq_ok.mpr h.readBack

/-- A frame of the type the client expects, with a value it can read. -/
theorem completes_expect {stream : Stream} {frameType : UInt8} {value : Cbor}
    {payload : List UInt8} {frames : List SentFrame}
    (hleft : reference.left stream = (frameType, payload) :: frames)
    (h : Carries cib value payload) (expected : String) {α : Type}
    {next : Cbor → ClientProg α} {events : List ClientEvent} {result : α}
    {reference' : ClientReference}
    (hnext : clientReferenceEnv.Completes (next value) (reference.leave stream frames) events
      result reference') :
    clientReferenceEnv.Completes (do
        let bytes ← TestClient.Client.readFrame stream
        let v ← TestClient.expectValue cib frameType expected bytes
        next v) reference (gotEvent stream (frameType, payload) :: events) result
      reference' :=
  .bind (completes_clientRead hleft) (.bind (.lift (expectValue_bytes _ _ h)) hnext)

end Steps

/-! ## What the server has for it, and what it does -/

def agreedProfile : NegotiatedProfile :=
  (NegotiatedProfile.negotiate Capabilities.default Capabilities.default).toOption.get
    (by decide +kernel)

namespace TestSetup

variable (setup : TestSetup)

def ackFrame (channelId : UInt64) : SentFrame :=
  (ControlFrameType.openChannelAck.toU8, setup.payload (openChannelAck channelId 0))

def announceFrame (kind channelId : UInt64) : SentFrame :=
  (ControlFrameType.openChannel.toU8, setup.payload (openChannelAnnounce kind channelId 0))

/-- All that the server ever writes on a stream the client reads. -/
def replies : Stream → List SentFrame
  | .control =>
      [(ControlFrameType.serverHello.toU8, setup.payload (serverHello setup.server 0)),
        (ControlFrameType.authResult.toU8, setup.payload (authAccepted setup.server)),
        setup.announceFrame ChannelKind.display.toU64 100,
        setup.announceFrame ChannelKind.cursor.toU64 101, setup.ackFrame 1,
        setup.ackFrame 2, setup.ackFrame 3, setup.ackFrame 4]
  | .bi 0 => [(ClipboardFrameType.content.toU8, setup.payload contentAnswer)]
  | .bi 1 => [(ChatFrameType.chatMessage.toU8, setup.payload echoAnswer)]
  | .bi 2 => [(FileFrameType.ackChunk.toU8, ackChunk receivedChunk)]
  | _ => []

def clientStart : ClientReference := ⟨setup.replies, 0, 0, 0⟩

/-! The client's events, cut where it waits for a frame. -/

def openEvents (kind channelId streamId : UInt64) : List ClientEvent :=
  [sentEvent .control (setup.openFrame kind channelId streamId),
    gotEvent .control (setup.ackFrame channelId)]

def greetEvents : List ClientEvent :=
  [sentEvent .control (ControlFrameType.clientHello.toU8,
      setup.payload (TestClient.clientHello Capabilities.default)),
    gotEvent .control (ControlFrameType.serverHello.toU8,
      setup.payload (serverHello setup.server 0)),
    printEvent (.negotiated agreedProfile)]

def admitEvents : List ClientEvent :=
  [sentEvent .control (ControlFrameType.authRequest.toU8,
      setup.payload (TestClient.authRequest "pin" (asBytes setup.server.expectedPin))),
    gotEvent .control (ControlFrameType.authResult.toU8,
      setup.payload (authAccepted setup.server))]

def announcedEvents (kind channelId : UInt64) : List ClientEvent :=
  [gotEvent .control (setup.announceFrame kind channelId),
    printEvent (.announced (TestClient.parseOpenChannel
      (openChannelAnnounce kind channelId 0)))]

def acceptEvents : List ClientEvent :=
  [.asked .acceptUni (.ok 0), .asked .acceptUni (.ok 1), .told (.spawn .display 0),
    .told (.spawn .cursor 1)]

def inputEvents : List ClientEvent :=
  setup.openEvents ChannelKind.input.toU64 1 2 ++
    (.asked .openUni (.ok 0) :: ((setup.writes (.uni 0)).map (sentEvent (.uni 0)) ++
      [.asked (.finish (.uni 0)) (.ok ())]))

def clipboardEvents : List ClientEvent :=
  setup.openEvents ChannelKind.clipboard.toU64 2 6 ++
    [.asked .openBi (.ok 0),
      sentEvent (.bi 0) (ClipboardFrameType.offerTypes.toU8,
        setup.payload TestClient.offerTypes),
      sentEvent (.bi 0) (ClipboardFrameType.requestContent.toU8,
        setup.payload (TestClient.requestContent TestClient.plainText 42)),
      gotEvent (.bi 0) (ClipboardFrameType.content.toU8, setup.payload contentAnswer),
      printEvent (.content (TestClient.parseClipboardContent contentAnswer)),
      sentEvent (.bi 0) (ClipboardFrameType.content.toU8,
        setup.payload TestClient.contentToSend),
      .asked (.finish (.bi 0)) (.ok ())]

def chatEvents : List ClientEvent :=
  setup.openEvents ChannelKind.chat.toU64 3 10 ++
    [.asked .openBi (.ok 1),
      sentEvent (.bi 1) (ChatFrameType.typingIndicator.toU8,
        setup.payload (TestClient.typingIndicator "start")),
      sentEvent (.bi 1) (ChatFrameType.chatMessage.toU8,
        setup.payload TestClient.chatMessage),
      gotEvent (.bi 1) (ChatFrameType.chatMessage.toU8, setup.payload echoAnswer),
      printEvent (.echo (TestClient.parseChatMessageClient echoAnswer)),
      sentEvent (.bi 1) (ChatFrameType.typingIndicator.toU8,
        setup.payload (TestClient.typingIndicator "stop")),
      .asked (.finish (.bi 1)) (.ok ())]

def fileEvents : List ClientEvent :=
  setup.openEvents ChannelKind.file.toU64 4 14 ++
    [.asked .openBi (.ok 2),
      sentEvent (.bi 2) (FileFrameType.startTransfer.toU8, setup.payload TestClient.manifest),
      sentEvent (.bi 2) (FileFrameType.chunk.toU8, TestClient.chunk),
      gotEvent (.bi 2) (FileFrameType.ackChunk.toU8, ackChunk receivedChunk),
      printEvent (.ackChunk 1 TestClient.chunkIdx 0),
      sentEvent (.bi 2) (FileFrameType.endTransfer.toU8,
        setup.payload TestClient.endTransfer),
      .asked (.finish (.bi 2)) (.ok ())]

def closeEvents : List ClientEvent :=
  [.asked (.finish .control) (.ok ()), .asked (.join .display) (.ok ()),
    .asked (.join .cursor) (.ok ()), .asked (.sleep 150) (), .told (.close 0 "bye")]

def clientEvents : List ClientEvent :=
  setup.greetEvents ++ (setup.admitEvents ++
    (setup.announcedEvents ChannelKind.display.toU64 100 ++
      (setup.announcedEvents ChannelKind.cursor.toU64 101 ++ (acceptEvents ++
        (setup.inputEvents ++ (setup.clipboardEvents ++ (setup.chatEvents ++
          (setup.fileEvents ++ closeEvents))))))))

variable {setup}

namespace Agreed

variable (h : setup.Agreed) {reference : ClientReference} {frames : List SentFrame}

include h

theorem carries_client {value : Cbor} (hvalue : value ∈ clientValues setup.server) :
    Carries setup.server.cib value (setup.payload value) := h.exchange.fromClient hvalue

theorem carries_server {value : Cbor} (hvalue : value ∈ serverValues setup.server) :
    Carries setup.server.cib value (setup.payload value) := h.exchange.fromServer hvalue

theorem completes_greet
    (hleft : reference.left .control = (ControlFrameType.serverHello.toU8,
      setup.payload (serverHello setup.server 0)) :: frames) :
    clientReferenceEnv.Completes (TestClient.exchangeHello setup.server.cib) reference
      setup.greetEvents () (reference.leave .control frames) := by
  have hsent := h.carries_client (show TestClient.clientHello Capabilities.default ∈
    clientValues setup.server by simp [clientValues])
  have hanswer := h.carries_server (show serverHello setup.server 0 ∈
    serverValues setup.server by simp [serverValues])
  have hencode : TestClient.encodeClientHello setup.server.cib Capabilities.default =
      .ok (setup.payload (TestClient.clientHello Capabilities.default)) := by
    rw [TestClient.encodeClientHello, hsent.written]
    rfl
  have hreceived : TestClient.receiveServerHello setup.server.cib
      (SentFrame.bytes (ControlFrameType.serverHello.toU8,
        setup.payload (serverHello setup.server 0))) = .ok Capabilities.default :=
    receiveServerHello_sent hanswer
  have hprofile : TestClient.negotiateProfile Capabilities.default Capabilities.default =
      .ok agreedProfile := rfl
  exact .bind (.lift hencode) (.bind (completes_clientWrite .control (_, _))
    (.bind (completes_clientRead hleft) (.bind (.lift hreceived)
      (.bind (.lift hprofile) (completes_print _)))))

theorem completes_admit (hleft : reference.left .control =
      (ControlFrameType.authResult.toU8, setup.payload (authAccepted setup.server)) :: frames) :
    clientReferenceEnv.Completes (TestClient.authenticate setup.server.cib setup.pin) reference
      setup.admitEvents () (reference.leave .control frames) := by
  have hsent := h.carries_client (show TestClient.authRequest "pin"
    (asBytes setup.server.expectedPin) ∈ clientValues setup.server by simp [clientValues])
  have hanswer := h.carries_server (show authAccepted setup.server ∈
    serverValues setup.server by simp [serverValues])
  have hencode : TestClient.encodeAuthRequest setup.server.cib "pin" (asBytes setup.pin) =
      .ok (setup.payload (TestClient.authRequest "pin" (asBytes setup.server.expectedPin))) := by
    rw [h.pin, TestClient.encodeAuthRequest, hsent.written]
    rfl
  have hstatus : (TestClient.parseAuthResult (authAccepted setup.server)).status = 0 :=
    congrArg AuthResult.status (parseAuthResult_recovers 0 _ _ _ (.refl _ _))
  have hreceived : TestClient.receiveAuthResult setup.server.cib
      (SentFrame.bytes (ControlFrameType.authResult.toU8,
        setup.payload (authAccepted setup.server))) = .ok () :=
    receiveAuthResult_eq_ok.mpr ⟨_, ⟨_, _, Frame.parse_encode _ hanswer.fits, rfl,
      hanswer.readBack⟩, parseAuthResult_status.mp hstatus⟩
  exact .bind (.lift hencode) (.bind (completes_clientWrite .control (_, _))
    (.bind (completes_clientRead hleft) (.lift hreceived)))

theorem completes_announced {kind channelId : UInt64}
    (hvalue : openChannelAnnounce kind channelId 0 ∈ serverValues setup.server)
    (hleft : reference.left .control = setup.announceFrame kind channelId :: frames) :
    clientReferenceEnv.Completes (TestClient.readAnnouncement setup.server.cib) reference
      (setup.announcedEvents kind channelId) () (reference.leave .control frames) :=
  completes_expect hleft (h.carries_server hvalue) _ (completes_print _)

theorem completes_open (kind : ChannelKind) {channelId : UInt64} (streamId : UInt64)
    (hsent : TestClient.openChannel kind.toU64 channelId streamId ∈ clientValues setup.server)
    (hacked : openChannelAck channelId 0 ∈ serverValues setup.server)
    (hleft : reference.left .control = setup.ackFrame channelId :: frames) (label : String) :
    clientReferenceEnv.Completes
      (TestClient.openChannelOn setup.server.cib kind channelId streamId label) reference
      (setup.openEvents kind.toU64 channelId streamId) ()
      (reference.leave .control frames) := by
  have hanswer := h.carries_server hacked
  have hencode : TestClient.encodeOpenChannel setup.server.cib kind.toU64 channelId streamId =
      .ok (setup.payload (TestClient.openChannel kind.toU64 channelId streamId)) := by
    rw [TestClient.encodeOpenChannel, (h.carries_client hsent).written]
    rfl
  have hstatus : (TestClient.parseOpenChannelAck (openChannelAck channelId 0)).status = 0 :=
    congrArg OpenChannelAck.status (parseOpenChannelAck_recovers channelId 0 _ (.refl _ _))
  have hreceived : TestClient.expectAck setup.server.cib label
      (SentFrame.bytes (setup.ackFrame channelId)) = .ok () :=
    expectAck_eq_ok.mpr ⟨_, ⟨_, _, Frame.parse_encode _ hanswer.fits, rfl,
      hanswer.readBack⟩, parseOpenChannelAck_status.mp hstatus⟩
  exact .bind (.lift hencode) (.bind (completes_clientWrite .control (_, _))
    (.bind (completes_clientRead hleft) (.lift hreceived)))

omit h in
theorem completes_accept (hnone : reference.accepted = 0) :
    clientReferenceEnv.Completes TestClient.acceptStreams reference acceptEvents ()
      { reference with accepted := 2 } := by
  obtain ⟨left, openedUni, openedBi, accepted⟩ := reference
  cases hnone
  exact .bind (completes_acceptUni Nat.zero_lt_two) (.bind (completes_acceptUni Nat.one_lt_two)
    (.bind (.say _) (.say _)))

theorem completes_input (hleft : reference.left .control = setup.ackFrame 1 :: frames)
    (hnone : reference.openedUni = 0) :
    clientReferenceEnv.Completes
      (TestClient.openChannelAndExerciseInput setup.server.cib) reference setup.inputEvents ()
      { reference.leave .control frames with openedUni := 1 } := by
  have hopened := h.completes_open .input 2 (by simp [clientValues]) (by simp [serverValues])
    hleft "Input"
  obtain ⟨left, openedUni, openedBi, accepted⟩ := reference
  cases hnone
  exact hopened.bind (.bind (completes_openUni Nat.zero_lt_one)
    (.bind (completes_clientWrite (.uni 0) (_, _))
      (.bind (completes_clientWrite (.uni 0) (_, _))
        (.bind (completes_clientWrite (.uni 0) (_, _)) (completes_clientFinish (.uni 0))))))

theorem completes_clipboard (hleft : reference.left .control = setup.ackFrame 2 :: frames)
    (hcontent : reference.left (.bi 0) = setup.replies (.bi 0))
    (hnone : reference.openedBi = 0) :
    clientReferenceEnv.Completes
      (TestClient.openChannelAndExerciseClipboard setup.server.cib) reference
      setup.clipboardEvents ()
      { (reference.leave .control frames).leave (.bi 0) [] with openedBi := 1 } := by
  have hopened := h.completes_open .clipboard 6 (by simp [clientValues]) (by simp [serverValues])
    hleft "Clipboard"
  have hoffer := h.carries_client (show TestClient.offerTypes ∈ clientValues setup.server by
    simp [clientValues])
  have hrequest := h.carries_client (show TestClient.requestContent TestClient.plainText 42 ∈
    clientValues setup.server by simp [clientValues])
  have hback := h.carries_client (show TestClient.contentToSend ∈ clientValues setup.server by
    simp [clientValues])
  have hanswer := h.carries_server (show contentAnswer ∈ serverValues setup.server by
    simp [serverValues])
  have hcontent : ({ reference.leave .control frames with openedBi := 1 } :
      ClientReference).left (.bi 0) = setup.replies (.bi 0) := hcontent
  obtain ⟨left, openedUni, openedBi, accepted⟩ := reference
  cases hnone
  exact hopened.bind (.bind (completes_openBi (Nat.zero_lt_succ 2))
    (.bind (completes_writeValue hoffer.written (.bi 0) _)
      (.bind (completes_writeValue hrequest.written (.bi 0) _)
        (completes_expect hcontent hanswer _ (.bind (completes_print _)
          (.bind (completes_writeValue hback.written (.bi 0) _)
            (completes_clientFinish (.bi 0))))))))

theorem completes_chat (hleft : reference.left .control = setup.ackFrame 3 :: frames)
    (hecho : reference.left (.bi 1) = setup.replies (.bi 1)) (hone : reference.openedBi = 1) :
    clientReferenceEnv.Completes
      (TestClient.openChannelAndExerciseChat setup.server.cib) reference setup.chatEvents ()
      { (reference.leave .control frames).leave (.bi 1) [] with openedBi := 2 } := by
  have hopened := h.completes_open .chat 10 (by simp [clientValues]) (by simp [serverValues])
    hleft "Chat"
  have hstart := h.carries_client (show TestClient.typingIndicator "start" ∈
    clientValues setup.server by simp [clientValues])
  have hmessage := h.carries_client (show TestClient.chatMessage ∈ clientValues setup.server by
    simp [clientValues])
  have hstop := h.carries_client (show TestClient.typingIndicator "stop" ∈
    clientValues setup.server by simp [clientValues])
  have hanswer := h.carries_server (show echoAnswer ∈ serverValues setup.server by
    simp [serverValues])
  have hecho : ({ reference.leave .control frames with openedBi := 2 } :
      ClientReference).left (.bi 1) = setup.replies (.bi 1) := hecho
  obtain ⟨left, openedUni, openedBi, accepted⟩ := reference
  cases hone
  exact hopened.bind (.bind (completes_openBi (Nat.succ_lt_succ (Nat.zero_lt_succ 1)))
    (.bind (completes_writeValue hstart.written (.bi 1) _)
      (.bind (completes_writeValue hmessage.written (.bi 1) _)
        (completes_expect hecho hanswer _ (.bind (completes_print _)
          (.bind (completes_writeValue hstop.written (.bi 1) _)
            (completes_clientFinish (.bi 1))))))))

omit h in
theorem receiveAckChunk_sent :
    TestClient.receiveAckChunk
      (SentFrame.bytes (FileFrameType.ackChunk.toU8, ackChunk receivedChunk)) = .ok (1, 0) := by
  decide +kernel

theorem completes_file (hleft : reference.left .control = setup.ackFrame 4 :: frames)
    (hack : reference.left (.bi 2) = setup.replies (.bi 2)) (htwo : reference.openedBi = 2) :
    clientReferenceEnv.Completes
      (TestClient.openChannelAndExerciseFile setup.server.cib) reference setup.fileEvents ()
      { (reference.leave .control frames).leave (.bi 2) [] with openedBi := 3 } := by
  have hopened := h.completes_open .file 14 (by simp [clientValues]) (by simp [serverValues])
    hleft "File"
  have hmanifest := h.carries_client (show TestClient.manifest ∈ clientValues setup.server by
    simp [clientValues])
  have hend := h.carries_client (show TestClient.endTransfer ∈ clientValues setup.server by
    simp [clientValues])
  have hack : ({ reference.leave .control frames with openedBi := 3 } :
      ClientReference).left (.bi 2) = setup.replies (.bi 2) := hack
  obtain ⟨left, openedUni, openedBi, accepted⟩ := reference
  cases htwo
  exact hopened.bind (.bind (completes_openBi (Nat.lt_succ_self 2))
    (.bind (completes_writeValue hmanifest.written (.bi 2) _)
      (.bind (completes_clientWrite (.bi 2) (_, _))
        (.bind (completes_clientRead hack) (.bind (.lift receiveAckChunk_sent)
          (.bind (completes_print _) (.bind (completes_writeValue hend.written (.bi 2) _)
            (completes_clientFinish (.bi 2)))))))))

/-- The client returns, and all that it does is `clientEvents`. -/
theorem completes_main :
    ∃ reference, clientReferenceEnv.Completes (TestClient.main setup.server.cib setup.pin)
      setup.clientStart setup.clientEvents () reference := by
  have hdisplay : openChannelAnnounce ChannelKind.display.toU64 100 0 ∈
      serverValues setup.server := by simp [serverValues]
  have hcursor : openChannelAnnounce ChannelKind.cursor.toU64 101 0 ∈
      serverValues setup.server := by simp [serverValues]
  have hjoin (receiver : Receiver) (reference : ClientReference) :
      clientReferenceEnv.Completes (TestClient.Client.join receiver) reference
        [.asked (.join receiver) (.ok ())] () reference := .call () rfl rfl
  have hsleep (reference : ClientReference) :
      clientReferenceEnv.Completes (TestClient.Client.sleep 150) reference
        [.asked (.sleep 150) ()] () reference := .call () rfl rfl
  exact ⟨_, .bind (h.completes_greet rfl) (.bind (h.completes_admit rfl)
    (.bind (h.completes_announced hdisplay rfl) (.bind (h.completes_announced hcursor rfl)
      (.bind (completes_accept rfl) (.bind (h.completes_input rfl rfl)
        (.bind (h.completes_clipboard rfl rfl rfl) (.bind (h.completes_chat rfl rfl rfl)
          (.bind (h.completes_file rfl rfl rfl) (.bind (completes_clientFinish .control)
            (.bind (hjoin .display _) (.bind (hjoin .cursor _)
              (.bind (hsleep _) (.say _)))))))))))))⟩

end Agreed

end TestSetup

end OpenRD.Session
