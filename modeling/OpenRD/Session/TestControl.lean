import OpenRD.Session.Exchanges
import OpenRD.Session.Reference
import OpenRD.Session.TestMessages

/-!
# The Control task and the test client

With the client's messages on the Control stream and its streams to accept, the Control
task has one run: it answers each of them, and returns after all handlers.
-/

namespace OpenRD.Session

open OpenRD.Foundation OpenRD.Proto OpenRD.Server
open OpenRD.TestClient (Stream)

/-- The client presents the server's PIN, and what they exchange is carried. -/
structure TestSetup.Agreed (setup : TestSetup) : Prop where
  pin : setup.pin = setup.server.expectedPin
  exchange : TestExchange setup.server

/-! ## Its reads, writes and streams -/

namespace Reference

section Reads

variable {frame : SentFrame} (hfits : frame.2.length ≤ maxFrameLength)
  (frames : List SentFrame) (cuts : List Nat) (ending : Option Error) (serverStreams : Nat)
  (uni bi : List ClientStream)

include hfits

theorem completes_readFrame_wire :
    ∃ cuts', referenceEnv.Completes Control.readFrame
      ⟨⟨wire (frame :: frames), cuts, ending⟩, serverStreams, uni, bi⟩
      [readEvent frame.bytes] frame.bytes
      ⟨⟨wire frames, cuts', ending⟩, serverStreams, uni, bi⟩ := by
  obtain ⟨cuts', hread⟩ := readFullFrame_wire frame hfits frames cuts ending
  refine ⟨cuts', .call () ?_ rfl⟩
  simp only [referenceEnv, hread]

theorem completes_readFrameOpt_wire :
    ∃ cuts', referenceEnv.Completes Control.readFrameOpt
      ⟨⟨wire (frame :: frames), cuts, ending⟩, serverStreams, uni, bi⟩
      [readOptEvent frame.bytes] (some frame.bytes)
      ⟨⟨wire frames, cuts', ending⟩, serverStreams, uni, bi⟩ := by
  obtain ⟨cuts', hread⟩ := readFullFrameOpt_wire frame hfits frames cuts ending
  refine ⟨cuts', .call () ?_ rfl⟩
  simp only [referenceEnv, hread]

end Reads

theorem completes_readFrameOpt_ended (cuts : List Nat) (serverStreams : Nat)
    (uni bi : List ClientStream) :
    ∃ cuts', referenceEnv.Completes Control.readFrameOpt
      ⟨⟨[], cuts, none⟩, serverStreams, uni, bi⟩ [.asked .readFullFrameOpt (.ok none)] none
      ⟨⟨[], cuts', none⟩, serverStreams, uni, bi⟩ := by
  obtain ⟨cuts', hread⟩ := readFrameOptWith_ended Server.readerTexts cuts
  have hread : readFullFrameOpt ⟨[], cuts, none⟩ = (.ok none, ⟨[], cuts', none⟩) := hread
  refine ⟨cuts', .call () ?_ rfl⟩
  simp only [referenceEnv, hread]

variable {server : ServerConfig} {control : RecvStream} {serverStreams : Nat}
  {stream : ClientStream} {uni bi uni' bi' : List ClientStream} {handles : List Nat}

theorem accepts_uni : Accepts referenceEnv ChannelKind.input.toU64 stream
    ⟨control, serverStreams, stream :: uni, bi⟩ ⟨control, serverStreams, uni, bi⟩ where
  uni _ := .call () rfl rfl
  bi hne := absurd rfl hne

theorem accepts_bi {kind : UInt64} (hne : kind ≠ ChannelKind.input.toU64) :
    Accepts referenceEnv kind stream ⟨control, serverStreams, uni, stream :: bi⟩
      ⟨control, serverStreams, uni, bi⟩ where
  uni heq := absurd heq hne
  bi _ := .call () rfl rfl

theorem completes_served (acked : Acked server) {frame : SentFrame}
    (hfits : frame.2.length ≤ maxFrameLength) (hbytes : acked.bytes = frame.bytes)
    (hsupported : isSupportedClientChannel acked.request.kind = true)
    (haccepts : ∀ control, Accepts referenceEnv acked.request.kind stream
      ⟨control, serverStreams, uni, bi⟩ ⟨control, serverStreams, uni', bi'⟩)
    (frames : List SentFrame) (cuts : List Nat) (ending : Option Error) :
    ∃ cuts', referenceEnv.Completes (dispatch server handles)
      ⟨⟨wire (frame :: frames), cuts, ending⟩, serverStreams, uni, bi⟩
      (Turn.served acked hsupported stream).events (.inl (handles ++ [handles.length]))
      ⟨⟨wire frames, cuts', ending⟩, serverStreams, uni', bi'⟩ := by
  obtain ⟨cuts', hread⟩ :=
    completes_readFrameOpt_wire hfits frames cuts ending serverStreams uni bi
  rw [← hbytes] at hread
  exact ⟨cuts', completes_dispatch_served hread (completes_write _ _) (haccepts _)
    hsupported⟩

end Reference

/-! ## What it is sent -/

namespace TestSetup

variable (setup : TestSetup)

/-- A stream of the client's as the server accepts it. -/
def clientStream (stream : Stream) : ClientStream where
  number :=
    match stream with
    | .control => 0
    | .uni number | .bi number => number
  purpose := (purposeOf stream).toU64
  recv := setup.recv stream

def uniStreams : List ClientStream := [setup.clientStream (.uni 0)]

def biStreams : List ClientStream :=
  [setup.clientStream (.bi 0), setup.clientStream (.bi 1), setup.clientStream (.bi 2)]

def openFrame (kind channelId streamId : UInt64) : SentFrame :=
  (ControlFrameType.openChannel.toU8,
    setup.payload (TestClient.openChannel kind channelId streamId))

def reference : Reference := ⟨setup.recv .control, 0, setup.uniStreams, setup.biStreams⟩

variable {setup}

namespace Agreed

variable (h : setup.Agreed)

/-! ## What they exchange on Control -/

def hello : Hello setup.server :=
  sentHello
    (h.exchange.fromClient (show TestClient.clientHello .default ∈ clientValues setup.server
      by simp [clientValues]))
    (h.exchange.fromServer (show serverHello setup.server 0 ∈ serverValues setup.server
      by simp [serverValues])).written

def auth : Auth setup.server :=
  sentAuth
    (h.exchange.fromClient (show TestClient.authRequest "pin"
        (asBytes setup.server.expectedPin) ∈ clientValues setup.server
      by simp [clientValues]))
    (h.exchange.fromServer (show authAccepted setup.server ∈ serverValues setup.server
      by simp [serverValues])).written

def display : Opened setup.server displayChannel where
  payload := setup.payload (openChannelAnnounce ChannelKind.display.toU64 100 0)
  stream := 0
  written := (h.exchange.fromServer (show openChannelAnnounce ChannelKind.display.toU64 100 0
      ∈ serverValues setup.server
    by simp [serverValues])).written

def cursor : Opened setup.server cursorChannel where
  payload := setup.payload (openChannelAnnounce ChannelKind.cursor.toU64 101 0)
  stream := 1
  written := (h.exchange.fromServer (show openChannelAnnounce ChannelKind.cursor.toU64 101 0
      ∈ serverValues setup.server
    by simp [serverValues])).written

def input : Acked setup.server :=
  sentOpen
    (h.exchange.fromClient (show TestClient.openChannel ChannelKind.input.toU64 1 2 ∈
        clientValues setup.server
      by simp [clientValues]))
    (h.exchange.fromServer (show openChannelAck 1 0 ∈ serverValues setup.server
      by simp [serverValues])).written

def clipboard : Acked setup.server :=
  sentOpen
    (h.exchange.fromClient (show TestClient.openChannel ChannelKind.clipboard.toU64 2 6 ∈
        clientValues setup.server
      by simp [clientValues]))
    (h.exchange.fromServer (show openChannelAck 2 0 ∈ serverValues setup.server
      by simp [serverValues])).written

def chat : Acked setup.server :=
  sentOpen
    (h.exchange.fromClient (show TestClient.openChannel ChannelKind.chat.toU64 3 10 ∈
        clientValues setup.server
      by simp [clientValues]))
    (h.exchange.fromServer (show openChannelAck 3 0 ∈ serverValues setup.server
      by simp [serverValues])).written

def file : Acked setup.server :=
  sentOpen
    (h.exchange.fromClient (show TestClient.openChannel ChannelKind.file.toU64 4 14 ∈
        clientValues setup.server
      by simp [clientValues]))
    (h.exchange.fromServer (show openChannelAck 4 0 ∈ serverValues setup.server
      by simp [serverValues])).written

/-! ## The run -/

/-- The passes of the dispatcher loop, the last of which finds the stream ended. -/
def loopEvents : List ControlEvent :=
  (Turn.served h.input rfl (setup.clientStream (.uni 0))).events ++
    ((Turn.served h.clipboard rfl (setup.clientStream (.bi 0))).events ++
      ((Turn.served h.chat rfl (setup.clientStream (.bi 1))).events ++
        ((Turn.served h.file rfl (setup.clientStream (.bi 2))).events ++
          [.asked .readFullFrameOpt (.ok none)])))

def events : List ControlEvent :=
  h.hello.events ++ (h.auth.events ++ (h.display.events ++ (h.cursor.events ++
    (h.loopEvents ++ [0, 1, 2, 3, 4, 5].map joinEvent))))

theorem openFrame_fits {kind channelId streamId : UInt64}
    (h : setup.Agreed)
    (hvalue : TestClient.openChannel kind channelId streamId ∈ clientValues setup.server) :
    (setup.openFrame kind channelId streamId).2.length ≤ maxFrameLength :=
  (h.exchange.fromClient hvalue).fits

/-- The four requests, of which each has its stream. -/
theorem completes_loop (cuts : List Nat) :
    ∃ cuts', referenceEnv.Completes (Prog.iterate [0, 1] (dispatch setup.server))
      ⟨⟨wire ((setup.writes .control).drop 2), cuts, none⟩, 2, setup.uniStreams,
        setup.biStreams⟩
      h.loopEvents [0, 1, 2, 3, 4, 5] ⟨⟨[], cuts', none⟩, 2, [], []⟩ := by
  have hinput := h.openFrame_fits (show TestClient.openChannel ChannelKind.input.toU64 1 2 ∈
    clientValues setup.server by simp [clientValues])
  have hclipboard := h.openFrame_fits (show TestClient.openChannel
    ChannelKind.clipboard.toU64 2 6 ∈ clientValues setup.server by simp [clientValues])
  have hchat := h.openFrame_fits (show TestClient.openChannel ChannelKind.chat.toU64 3 10 ∈
    clientValues setup.server by simp [clientValues])
  have hfile := h.openFrame_fits (show TestClient.openChannel ChannelKind.file.toU64 4 14 ∈
    clientValues setup.server by simp [clientValues])
  obtain ⟨cuts₁, hinput⟩ := Reference.completes_served h.input hinput rfl rfl
    (fun _ => Reference.accepts_uni) ((setup.writes .control).drop 3) cuts none
  obtain ⟨cuts₂, hclipboard⟩ := Reference.completes_served h.clipboard hclipboard
    rfl rfl (fun _ => Reference.accepts_bi
      (show ChannelKind.clipboard.toU64 ≠ ChannelKind.input.toU64 by decide))
    ((setup.writes .control).drop 4)
    cuts₁ none
  obtain ⟨cuts₃, hchat⟩ := Reference.completes_served h.chat hchat
    rfl rfl (fun _ => Reference.accepts_bi
      (show ChannelKind.chat.toU64 ≠ ChannelKind.input.toU64 by decide))
    ((setup.writes .control).drop 5)
    cuts₂ none
  obtain ⟨cuts₄, hfile⟩ := Reference.completes_served h.file hfile
    rfl rfl (fun _ => Reference.accepts_bi
      (show ChannelKind.file.toU64 ≠ ChannelKind.input.toU64 by decide))
    [] cuts₃ none
  obtain ⟨cuts₅, hended⟩ := Reference.completes_readFrameOpt_ended cuts₄ 2 [] []
  exact ⟨cuts₅, .iterate_pass hinput (.iterate_pass hclipboard (.iterate_pass hchat
    (.iterate_pass hfile (.iterate_last (completes_dispatch_ended hended)))))⟩

theorem writes_control (h : setup.Agreed) : setup.writes .control =
    [(ControlFrameType.clientHello.toU8,
        setup.payload (TestClient.clientHello Capabilities.default)),
      (ControlFrameType.authRequest.toU8,
        setup.payload (TestClient.authRequest "pin" (asBytes setup.server.expectedPin))),
      setup.openFrame ChannelKind.input.toU64 1 2,
      setup.openFrame ChannelKind.clipboard.toU64 2 6,
      setup.openFrame ChannelKind.chat.toU64 3 10,
      setup.openFrame ChannelKind.file.toU64 4 14] := by
  rw [TestSetup.writes, h.pin]
  rfl

theorem completes_serveChannels (cuts : List Nat) :
    ∃ cuts', referenceEnv.Completes (serveChannels setup.server)
      ⟨⟨wire ((setup.writes .control).drop 2), cuts, none⟩, 0, setup.uniStreams,
        setup.biStreams⟩
      (h.display.events ++ (h.cursor.events ++ (h.loopEvents ++
        [0, 1, 2, 3, 4, 5].map joinEvent))) () ⟨⟨[], cuts', none⟩, 2, [], []⟩ := by
  obtain ⟨cuts', hloop⟩ := h.completes_loop cuts
  have hdisplay : h.display.stream = 0 := rfl
  have hcursor : h.cursor.stream = 1 := rfl
  exact ⟨cuts', .bind (Reference.completes_opened h.display hdisplay)
    (.bind (Reference.completes_opened h.cursor hcursor)
      (.bind hloop (completes_joinAll fun _ _ => .call () rfl rfl)))⟩

/-- The Control task returns, and all that it does is `h.events`. -/
theorem completes_control :
    ∃ reference, referenceEnv.Completes (handleControlStream setup.server) setup.reference
      h.events () reference := by
  let requests := (setup.writes .control).drop 2
  let authFrame : SentFrame := (ControlFrameType.authRequest.toU8,
    setup.payload (TestClient.authRequest "pin" (asBytes setup.server.expectedPin)))
  let helloFrame : SentFrame := (ControlFrameType.clientHello.toU8,
    setup.payload (TestClient.clientHello Capabilities.default))
  have hhello : helloFrame.2.length ≤ maxFrameLength :=
    (h.exchange.fromClient (by simp [clientValues])).fits
  have hauth : authFrame.2.length ≤ maxFrameLength :=
    (h.exchange.fromClient (by simp [clientValues])).fits
  have hstatus : h.auth.status = .ok := by
    rw [Auth.status, authDecision_ok]
    exact ⟨rfl, rfl⟩
  have hstart : setup.reference =
      ⟨⟨wire (helloFrame :: authFrame :: requests), setup.cuts .control, none⟩, 0,
        setup.uniStreams, setup.biStreams⟩ := by
    rw [TestSetup.reference, TestSetup.recv, h.writes_control]
    rfl
  rw [hstart]
  obtain ⟨cuts₁, hreadHello⟩ := Reference.completes_readFrame_wire hhello
    (authFrame :: requests) (setup.cuts .control) none 0 setup.uniStreams setup.biStreams
  obtain ⟨cuts₂, hreadAuth⟩ := Reference.completes_readFrame_wire hauth requests cuts₁
    none 0 setup.uniStreams setup.biStreams
  obtain ⟨cuts₃, hserved⟩ := h.completes_serveChannels cuts₂
  have hgreeted := Hello.completes h.hello hreadHello (Reference.completes_write _ _)
  have haccepted := Auth.completes h.auth hreadAuth (Reference.completes_write _ _)
  rw [hstatus, beq_self_eq_true] at haccepted
  exact ⟨_, .bind hgreeted (.bind haccepted hserved)⟩

end Agreed

end TestSetup

end OpenRD.Session
