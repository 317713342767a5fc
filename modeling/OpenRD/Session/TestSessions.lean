import OpenRD.Session.Video

/-!
# The test client in session with the server

The client's flow, its two receivers, the server's Control task and its handlers take
their steps in any order.  A write hands over a whole frame; a read waits until the frame
it is about is complete, or its stream has ended.
-/

namespace OpenRD.Session

open OpenRD.Foundation OpenRD.Proto OpenRD.Server
open OpenRD.TestClient (Stream Receiver ReceiverRequest ReceiverLog ReceiverProg)

/-! ## Reading -/

/-- More bytes are needed to tell what frame is at the front. -/
def incomplete (contents : List UInt8) : Bool :=
  match Frame.parse contents with
  | .error .shortHeader | .error .shortPayload => true
  | _ => false

/-- The stream holds `frames`, of which `read` bytes have been read. -/
def readSome {α : Type} (reader : Reader α) (frames : List SentFrame) (ended : Bool)
    (read : Nat) (cuts : List Nat) : Option (Except Error α × Nat) :=
  let contents := (wire frames).drop read
  if incomplete contents && !ended then none
  else
    let result := reader ⟨contents, cuts, none⟩
    some (result.1, (wire frames).length - result.2.items.length)

/-! ## Receivers -/

abbrev ReceiverRun :=
  Running ReceiverRequest ReceiverRequest.Answer ReceiverLog Nat Error Unit

/-- A receiver on a stream that holds `frames`; its dump file can be written. -/
def receiverEnv (frames : List SentFrame) (ended : Bool) :
    Env ReceiverRequest ReceiverRequest.Answer ReceiverLog Nat (List Nat) where
  answer read question cuts :=
    match question with
    | .readFrameOpt => readSome TestClient.readFrameOpt frames ended read cuts
    | .createDump _ => some (.ok (), read)
    | .writeDump _ => some (.ok (), read)
    | .flushDump => some (.ok (), read)
  perform read _ := read

structure Receiving where
  receiver : Receiver
  stream : Nat
  run : ReceiverRun

def Receiving.start (overflowChecks : Bool) (dumpPath : String) (receiver : Receiver)
    (stream : Nat) : Receiving where
  receiver
  stream
  run := (receiverEnv [] false).settle (receiver.program overflowChecks dumpPath) [] 0

/-! ## The client -/

/-- What the server has written for the client to read. -/
structure Incoming where
  frames : Stream → List SentFrame
  ended : Stream → Bool
  /-- How many unidirectional streams it has opened. -/
  pushed : Nat

structure ClientWorld where
  read : Stream → Nat
  openedUni : Nat
  openedBi : Nat
  accepted : Nat
  receivers : List Receiving

def ClientWorld.start : ClientWorld := ⟨fun _ => 0, 0, 0, 0, []⟩

def ClientWorld.readTo (world : ClientWorld) (stream : Stream) (read : Nat) : ClientWorld :=
  { world with read := fun other => if other = stream then read else world.read other }

abbrev ClientRun :=
  Running TestClient.Request TestClient.Request.Answer TestClient.Output ClientWorld Error
    Unit

def clientEnv (overflowChecks : Bool) (dumpPath : String) (incoming : Incoming) :
    Env TestClient.Request TestClient.Request.Answer TestClient.Output ClientWorld
      (List Nat) where
  answer world question cuts :=
    match question with
    | .writeFrame .. => some (.ok (), world)
    | .readFrame stream =>
        (readSome TestClient.readFrame (incoming.frames stream) (incoming.ended stream)
          (world.read stream) cuts).map fun (result, read) =>
            (result, world.readTo stream read)
    | .finish _ => some (.ok (), world)
    | .openUni => some (.ok world.openedUni, { world with openedUni := world.openedUni + 1 })
    | .openBi => some (.ok world.openedBi, { world with openedBi := world.openedBi + 1 })
    | .acceptUni =>
        if world.accepted < incoming.pushed then
          some (.ok world.accepted, { world with accepted := world.accepted + 1 })
        else none
    | .join receiver =>
        match world.receivers.find? (·.receiver == receiver) with
        | some receiving => receiving.run.outcome.map fun result => (result, world)
        | none => none
    | .sleep _ => some ((), world)
  perform world output :=
    match output with
    | .spawn receiver stream =>
        { world with
          receivers := world.receivers ++ [.start overflowChecks dumpPath receiver stream] }
    | _ => world

/-! ## What the client writes -/

structure TestSetup where
  server : ServerConfig
  pin : String
  dumpPath : String
  /-- Whether the client is built with overflow checks. -/
  clientChecks : Bool
  /-- How what the client writes on each stream will reach the server. -/
  cuts : Stream → List Nat

/-- A value as the library writes it. -/
def payloadOf (cib : Ciborium) (value : Cbor) : List UInt8 :=
  match cib.intoWriter value with
  | .ok payload => payload
  | .error _ => []

namespace TestSetup

variable (setup : TestSetup)

def clientEnv (incoming : Incoming) :
    Env TestClient.Request TestClient.Request.Answer TestClient.Output ClientWorld
      (List Nat) :=
  Session.clientEnv setup.clientChecks setup.dumpPath incoming

def payload (value : Cbor) : List UInt8 := payloadOf setup.server.cib value

/-- All that the client ever writes on a stream. -/
def writes : Stream → List SentFrame
  | .control =>
      [(ControlFrameType.clientHello.toU8,
          setup.payload (TestClient.clientHello Capabilities.default)),
        (ControlFrameType.authRequest.toU8,
          setup.payload (TestClient.authRequest "pin" (asBytes setup.pin))),
        (ControlFrameType.openChannel.toU8,
          setup.payload (TestClient.openChannel ChannelKind.input.toU64 1 2)),
        (ControlFrameType.openChannel.toU8,
          setup.payload (TestClient.openChannel ChannelKind.clipboard.toU64 2 6)),
        (ControlFrameType.openChannel.toU8,
          setup.payload (TestClient.openChannel ChannelKind.chat.toU64 3 10)),
        (ControlFrameType.openChannel.toU8,
          setup.payload (TestClient.openChannel ChannelKind.file.toU64 4 14))]
  | .uni 0 =>
      [(InputFrameType.keyEvent.toU8, TestClient.keyADown.writeTo []),
        (InputFrameType.keyEvent.toU8, { TestClient.keyADown with flags := 0x00 }.writeTo []),
        (InputFrameType.textInput.toU8, TextInput.writeTo ⟨"olá, mundo 🌍"⟩ [])]
  | .bi 0 =>
      [(ClipboardFrameType.offerTypes.toU8, setup.payload TestClient.offerTypes),
        (ClipboardFrameType.requestContent.toU8,
          setup.payload (TestClient.requestContent TestClient.plainText 42)),
        (ClipboardFrameType.content.toU8, setup.payload TestClient.contentToSend)]
  | .bi 1 =>
      [(ChatFrameType.typingIndicator.toU8,
          setup.payload (TestClient.typingIndicator "start")),
        (ChatFrameType.chatMessage.toU8, setup.payload TestClient.chatMessage),
        (ChatFrameType.typingIndicator.toU8,
          setup.payload (TestClient.typingIndicator "stop"))]
  | .bi 2 =>
      [(FileFrameType.startTransfer.toU8, setup.payload TestClient.manifest),
        (FileFrameType.chunk.toU8, TestClient.chunk),
        (FileFrameType.endTransfer.toU8, setup.payload TestClient.endTransfer)]
  | _ => []

def recv (stream : Stream) : RecvStream :=
  ⟨wire (setup.writes stream), setup.cuts stream, none⟩

end TestSetup

/-- What the client opens a stream for. -/
def purposeOf : Stream → ChannelKind
  | .control => .control
  | .uni _ => .input
  | .bi 0 => .clipboard
  | .bi 1 => .chat
  | .bi _ => .file

/-- The frames the client has written on a stream. -/
def clientFrames (stream : Stream) (history : List TestClient.ClientEvent) :
    List SentFrame :=
  history.filterMap fun
    | .asked (.writeFrame written frameType payload) (.ok ()) =>
        if written = stream then some (frameType, payload) else none
    | _ => none

def streamFinished (stream : Stream) (history : List TestClient.ClientEvent) : Bool :=
  history.any fun
    | .asked (.finish finished) _ => finished == stream
    | _ => false

/-! ## What the server writes -/

def handlerFrames (history : List HandlerEvent) : List SentFrame :=
  history.filterMap fun
    | .asked (.writeFrame frameType payload) (.ok ()) => some (frameType, payload)
    | _ => none

/-- The frames the Control task itself writes on a stream it opens. -/
def openingFrames (stream : Nat) (history : List ControlEvent) : List SentFrame :=
  history.filterMap fun
    | .asked (.writeUni written frameType payload) (.ok ()) =>
        if written = stream then some (frameType, payload) else none
    | _ => none

/-- The client's stream a task is about. -/
def taskStream : Task → Option Stream
  | .input stream => some (.uni stream.number)
  | .clipboard stream | .chat stream | .file stream => some (.bi stream.number)
  | .display _ | .cursor _ => none

/-- The server's stream a task writes on. -/
def taskPushed : Task → Option Nat
  | .display stream | .cursor stream => some stream
  | _ => none

namespace World

def handlerOn (world : World) (stream : Stream) : Option Spawned :=
  world.handlers.find? fun spawned => taskStream spawned.task == some stream

def handlerOf (world : World) (stream : Nat) : Option Spawned :=
  world.handlers.find? fun spawned => taskPushed spawned.task == some stream

end World

def framesOf : Option Spawned → List SentFrame
  | some spawned => handlerFrames spawned.run.history
  | none => []

/-! ## Steps -/

structure TestSession where
  server : State
  client : ClientRun

inductive TestAction where
  | control
  | handler (index : Nat) (choice : HandlerChoice)
  | client (cuts : List Nat)
  | receiver (index : Nat) (cuts : List Nat)

/-- Streams do not fail; the encoder may, or may return any units of at most this size. -/
def Reliable (spawned : Spawned) (choice : HandlerChoice) : Prop :=
  match spawned.run.program with
  | .ask .initEncoder _ | .ask (.encode _) _ =>
      ∀ nal ∈ choice.nals, nal.length ≤ maxNalLength
  | _ => choice.fault = none ∧ choice.nals = []

instance (spawned : Spawned) (choice : HandlerChoice) :
    Decidable (Reliable spawned choice) := by
  unfold Reliable
  split <;> infer_instance

namespace TestSession

/-- The frames on the server's stream `stream`. -/
def pushedFrames (session : TestSession) (stream : Nat) : List SentFrame :=
  openingFrames stream session.server.history ++
    framesOf (session.server.world.handlerOf stream)

def incoming (session : TestSession) : Incoming where
  frames
    | .control => controlFrames session.server.history
    | stream => framesOf (session.server.world.handlerOn stream)
  ended
    | .control => session.server.outcome.isSome
    | stream => (session.server.world.handlerOn stream).any Spawned.finished
  pushed := session.server.world.serverStreams

/-- What the client has yet to write on a stream. -/
def unsent (setup : TestSetup) (session : TestSession) (stream : Stream) : Nat :=
  (wire (setup.writes stream)).length -
    (wire (clientFrames stream session.client.history)).length

/-- The Control task has read no more than the client has written. -/
def ReadsControl (setup : TestSetup) (session : TestSession) (next : State) : Prop :=
  OnlySent (session.unsent setup .control) (streamFinished .control session.client.history)
    session.server.reading session.server.world.control next.world.control

/-- Neither has a handler of a client's stream. -/
def ReadsStream (setup : TestSetup) (session : TestSession) (spawned : Spawned)
    (next : HandlerRun) : Prop :=
  ∀ stream ∈ taskStream spawned.task,
    OnlySent (session.unsent setup stream) (streamFinished stream session.client.history)
      spawned.reading spawned.run.world.recv next.world.recv

instance (setup : TestSetup) (session : TestSession) (next : State) :
    Decidable (session.ReadsControl setup next) :=
  inferInstanceAs (Decidable (OnlySent ..))

instance (setup : TestSetup) (session : TestSession) (spawned : Spawned)
    (next : HandlerRun) : Decidable (session.ReadsStream setup spawned next) :=
  inferInstanceAs (Decidable (∀ stream ∈ taskStream spawned.task, OnlySent ..))

/-- A stream the client is about to open reaches the server with the client's step. -/
def opened (setup : TestSetup) (session : TestSession) : World :=
  match session.client.program with
  | .ask .openUni _ =>
      let stream := Stream.uni session.client.world.openedUni
      session.server.world.openUni (purposeOf stream).toU64 (setup.recv stream)
  | .ask .openBi _ =>
      let stream := Stream.bi session.client.world.openedBi
      session.server.world.openBi (purposeOf stream).toU64 (setup.recv stream)
  | _ => session.server.world

def step (setup : TestSetup) (session : TestSession) : TestAction → Option TestSession
  | .control => do
      let next ← (controlEnv setup.server).advance session.server none
      if session.ReadsControl setup next then
        return { session with server := next }
      else none
  | .handler index choice => do
      let spawned ← session.server.world.handlers[index]?
      let run ← handlerEnv.advance spawned.run choice
      if Reliable spawned choice ∧ session.ReadsStream setup spawned run then
        let world ← session.server.world.stepHandler index choice
        return { session with server.world := world }
      else none
  | .client cuts => do
      let client ← (setup.clientEnv session.incoming).advance session.client cuts
      return { server := { session.server with world := session.opened setup }, client }
  | .receiver index cuts => do
      let receiving ← session.client.world.receivers[index]?
      let ended := (session.server.world.handlerOf receiving.stream).any Spawned.finished
      let run ← (receiverEnv (session.pushedFrames receiving.stream) ended).advance
        receiving.run cuts
      return { session with
        client.world.receivers :=
          session.client.world.receivers.set index { receiving with run } }

/-- The Control stream is open. -/
def start (setup : TestSetup) : TestSession where
  server := Session.start setup.server (setup.recv .control)
  client := (setup.clientEnv ⟨fun _ => [], fun _ => false, 0⟩).settle
    (TestClient.main setup.server.cib setup.pin) [] .start

end TestSession

def TestReachable (setup : TestSetup) (session : TestSession) : Prop :=
  ∃ actions : List TestAction,
    actions.foldlM (TestSession.step setup) (.start setup) = some session

end OpenRD.Session
