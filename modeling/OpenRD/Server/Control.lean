import OpenRD.Foundation.Program
import OpenRD.Proto.Frame
import OpenRD.Server.Messages
import OpenRD.Server.Wire

/-!
# The Control task

`handleControlStream` as an interactive program.  It asks its environment for
frames, writes, streams and finished handlers, and announces the handlers it
spawns.
-/

namespace OpenRD.Server

open OpenRD.Foundation OpenRD.Proto

/-- What a session of the server depends on besides its peer. -/
structure ServerConfig where
  cib : Ciborium
  /-- Whether the build panics when an addition overflows. -/
  overflowChecks : Bool
  expectedPin : String
  /-- The random session id, the clock and the random identity seed. -/
  sessionId : Vector UInt8 16
  serverTime : UInt64
  idSeed : Vector UInt8 4

/-- A server over the library as RFC 8949 has it. -/
def ServerConfig.rfc8949 (overflowChecks : Bool) (expectedPin : String) : ServerConfig where
  cib := .rfc8949
  overflowChecks
  expectedPin
  sessionId := .replicate 16 0
  serverTime := 0
  idSeed := .replicate 4 0

/-- A stream the client opened, the `number`th of its direction. -/
structure ClientStream where
  number : Nat
  /-- The channel kind the client opened it for; the server does not see it. -/
  purpose : UInt64
  recv : RecvStream
  deriving DecidableEq

inductive Task where
  | display (stream : Nat)
  | cursor (stream : Nat)
  | input (stream : ClientStream)
  | clipboard (stream : ClientStream)
  | chat (stream : ClientStream)
  | file (stream : ClientStream)
  deriving DecidableEq

def Task.client : Task → Option (UInt64 × ClientStream)
  | .input stream => some (ChannelKind.input.toU64, stream)
  | .clipboard stream => some (ChannelKind.clipboard.toU64, stream)
  | .chat stream => some (ChannelKind.chat.toU64, stream)
  | .file stream => some (ChannelKind.file.toU64, stream)
  | .display _ | .cursor _ => none

def Task.isFile : Task → Bool
  | .file _ => true
  | _ => false

inductive Request where
  | readFullFrame
  | readFullFrameOpt
  | writeFrame (frameType : UInt8) (payload : List UInt8)
  | openUni
  | writeUni (stream : Nat) (frameType : UInt8) (payload : List UInt8)
  | acceptUni
  | acceptBi
  | join (handle : Nat)
  deriving DecidableEq

abbrev Request.Answer : Request → Type
  | .readFullFrame => Except Error (List UInt8)
  | .readFullFrameOpt => Except Error (Option (List UInt8))
  | .writeFrame .. => Except Error Unit
  | .openUni => Except Error Nat
  | .writeUni .. => Except Error Unit
  | .acceptUni => Except Error ClientStream
  | .acceptBi => Except Error ClientStream
  | .join _ => Unit

inductive Output where
  | logNegotiation (outcome : Except NegotiationError NegotiatedProfile)
  | spawn (task : Task)
  | panicking (text : String)

abbrev ControlProg := Prog Request Request.Answer Output Error

abbrev ControlEvent := Event Request Request.Answer Output

/-! ## The operations of the environment -/

namespace Control

def readFrame : ControlProg (List UInt8) := .call .readFullFrame id

def readFrameOpt : ControlProg (Option (List UInt8)) := .call .readFullFrameOpt id

def writeFrame (frameType : ControlFrameType) (payload : List UInt8) : ControlProg Unit :=
  .call (.writeFrame frameType.toU8 payload) id

def writeValue (server : ServerConfig) (frameType : ControlFrameType) (value : Cbor) :
    ControlProg Unit := do
  let payload ← server.cib.write value
  writeFrame frameType payload

def openUni : ControlProg Nat := .call .openUni id

def writeUni (stream : Nat) (frameType : UInt8) (payload : List UInt8) :
    ControlProg Unit :=
  .call (.writeUni stream frameType payload) id

def acceptUni : ControlProg ClientStream := .call .acceptUni id

def acceptBi : ControlProg ClientStream := .call .acceptBi id

def join (handle : Nat) : ControlProg Unit := .call (.join handle) .ok

/-- `tokio::spawn`; the handle is pushed. -/
def spawn (handles : List Nat) (task : Task) : ControlProg (List Nat) := do
  .say (.spawn task)
  return handles ++ [handles.length]

def panicWith {α : Type} (text : String) : ControlProg α := do
  .say (.panicking text)
  .fail (.panic text)

end Control

open Control

/-! ## Hello exchange -/

def receiveClientHello (cib : Ciborium) (frameBytes : List UInt8) :
    Except Error (UInt64 × String × Capabilities) := do
  let (frame, _) ← parsed (Frame.parse frameBytes)
  if frame.header.version ≠ ProtocolVersion.v0 then
    .error (.msg
      s!"unsupported protocol version ProtocolVersion({frame.header.version.value})")
  else if frame.header.frameType ≠ ControlFrameType.clientHello.toU8 then
    .error (.msg s!"expected ClientHello (0x01), got 0x{hexByte frame.header.frameType}")
  else do
    let hello ← withContext "decode ClientHello CBOR" (cib.read frame.payload)
    parseClientHello hello

def serverHello (server : ServerConfig) (protoV : UInt64) : Cbor :=
  buildServerHello protoV "openrd-server/0.0.1" Capabilities.default server.sessionId
    server.serverTime

def helloExchange (server : ServerConfig) : ControlProg Unit := do
  let frameBytes ← readFrame
  let (protoV, _, clientCaps) ← receiveClientHello server.cib frameBytes
  let serverCaps := Capabilities.default
  .say (.logNegotiation (NegotiatedProfile.negotiate clientCaps serverCaps))
  let payload ← withContext "encode ServerHello"
    (server.cib.write (serverHello server protoV))
  writeFrame .serverHello payload

/-! ## Auth -/

def receiveAuthRequest (cib : Ciborium) (authBytes : List UInt8) :
    Except Error (String × List UInt8) := do
  let (authFrame, _) ← parsed (Frame.parse authBytes)
  if authFrame.header.frameType ≠ ControlFrameType.authRequest.toU8 then
    .error (.msg
      s!"expected AuthRequest (0x03), got 0x{hexByte authFrame.header.frameType}")
  else do
    let authReq ← withContext "decode AuthRequest CBOR" (cib.read authFrame.payload)
    parseAuthRequest authReq

/-- The status, permission and identity an `AuthRequest` earns. -/
def authDecision (server : ServerConfig) (method : String) (credential : List UInt8) :
    ErrorCode × String × String :=
  if method = "pin" then
    if constantTimeEq credential (asBytes server.expectedPin) then
      (.ok, "interactive", "pin-user-" ++ hexEncode server.idSeed.toList)
    else (.authFailed, "view-only", "")
  else (.notImplemented, "view-only", "")

def authExchange (server : ServerConfig) : ControlProg Bool := do
  let authBytes ← readFrame
  let (method, credential) ← receiveAuthRequest server.cib authBytes
  let (status, permission, identity) := authDecision server method credential
  let payload ← withContext "encode AuthResult"
    (server.cib.write (buildAuthResult status.toU32 permission identity))
  writeFrame .authResult payload
  return status.toU32 == ErrorCode.ok.toU32

/-! ## Server-initiated channels -/

def sendOpenChannelAnnounce (server : ServerConfig) (kind channelId streamId : UInt64) :
    ControlProg Unit :=
  writeValue server .openChannel (openChannelAnnounce kind channelId streamId)

def displayWidth : Nat := 640

def displayHeight : Nat := 480

/-- `width` and `height` are `as u16` of the display size, the lengths `as u16`. -/
def buildStreamParameters (codec : UInt8) (width height : UInt16)
    (sps pps : List UInt8) : List UInt8 :=
  codec :: toLeBytes 2 width.toNat ++ toLeBytes 2 height.toNat ++
    toLeBytes 2 (sps.length % 2 ^ 16) ++ sps ++ toLeBytes 2 (pps.length % 2 ^ 16) ++ pps

def streamParameters : List UInt8 :=
  buildStreamParameters 0x01 (UInt16.ofNat displayWidth) (UInt16.ofNat displayHeight) [] []

def buildCursorShape : List UInt8 :=
  let pixels := (List.replicate 16 [0xFF, 0x00, 0x00, 0xFF]).flatten
  toLeBytes 2 4 ++ toLeBytes 2 4 ++ toLeBytes 2 0 ++ toLeBytes 2 0 ++ [0x01] ++
    u32ToLeBytes (UInt32.ofNat pixels.length) ++ pixels

structure ServerChannel where
  kind : ChannelKind
  channelId : UInt64
  frameType : UInt8
  first : List UInt8
  task : Nat → Task

def displayChannel : ServerChannel where
  kind := .display
  channelId := 100
  frameType := DisplayFrameType.streamParameters.toU8
  first := streamParameters
  task := .display

def cursorChannel : ServerChannel where
  kind := .cursor
  channelId := 101
  frameType := CursorFrameType.cursorShape.toU8
  first := buildCursorShape
  task := .cursor

def openServerChannel (server : ServerConfig) (channel : ServerChannel)
    (handles : List Nat) : ControlProg (List Nat) := do
  sendOpenChannelAnnounce server channel.kind.toU64 channel.channelId 0
  let stream ← openUni
  writeUni stream channel.frameType channel.first
  spawn handles (channel.task stream)

/-! ## Client-initiated channels -/

def isSupportedClientChannel (kind : UInt64) : Bool :=
  kind == ChannelKind.input.toU64 || kind == ChannelKind.clipboard.toU64 ||
    kind == ChannelKind.chat.toU64 || kind == ChannelKind.file.toU64

/-- The request in a Control frame; `none` for a frame of another type. -/
def receiveOpenChannel (cib : Ciborium) (frameBytes : List UInt8) :
    Except Error (Option OpenChannel) := do
  let (frame, _) ← parsed (Frame.parse frameBytes)
  if frame.header.frameType ≠ ControlFrameType.openChannel.toU8 then
    return none
  else do
    let val ← withContext "decode OpenChannel" (cib.read frame.payload)
    let request ← parseOpenChannel val
    return some request

def ackStatus (kind : UInt64) : ErrorCode :=
  if isSupportedClientChannel kind then .ok else .notImplemented

def sendOpenChannelAck (server : ServerConfig) (channelId : UInt64) (status : UInt32) :
    ControlProg Unit :=
  writeValue server .openChannelAck (openChannelAck channelId status)

def startHandler (handles : List Nat) (kind : UInt64) : ControlProg (List Nat) :=
  if kind = ChannelKind.input.toU64 then do
    let recvStream ← acceptUni
    spawn handles (.input recvStream)
  else if kind = ChannelKind.clipboard.toU64 then do
    let stream ← acceptBi
    spawn handles (.clipboard stream)
  else if kind = ChannelKind.chat.toU64 then do
    let stream ← acceptBi
    spawn handles (.chat stream)
  else if kind = ChannelKind.file.toU64 then do
    let stream ← acceptBi
    spawn handles (.file stream)
  else panicWith "internal error: entered unreachable code: filtered above"

def dispatch (server : ServerConfig) (handles : List Nat) :
    ControlProg (List Nat ⊕ List Nat) := do
  match ← readFrameOpt with
  | none => return .inr handles
  | some frameBytes =>
      match ← receiveOpenChannel server.cib frameBytes with
      | none => return .inl handles
      | some request => do
          let status := ackStatus request.kind
          sendOpenChannelAck server request.channelId status.toU32
          if status.toU32 ≠ ErrorCode.ok.toU32 then
            return .inl handles
          else do
            let handles ← startHandler handles request.kind
            return .inl handles

def joinAll : List Nat → ControlProg Unit
  | [] => return ()
  | handle :: handles => do
      join handle
      joinAll handles

def serveChannels (server : ServerConfig) : ControlProg Unit := do
  let handles ← openServerChannel server displayChannel []
  let handles ← openServerChannel server cursorChannel handles
  let handles ← Prog.iterate handles (dispatch server)
  joinAll handles

def handleControlStream (server : ServerConfig) : ControlProg Unit := do
  helloExchange server
  if ← authExchange server then
    serveChannels server
  else return ()

/-! ## What is accepted -/

/-- A frame with version 0 and type `ClientHello` whose payload parses. -/
def AcceptsHello (cib : Ciborium) (frameBytes : List UInt8) (protoV : UInt64)
    (clientName : String) (clientCaps : Capabilities) : Prop :=
  ∃ frame n hello, Frame.parse frameBytes = .ok (frame, n) ∧
    frame.header.version = ProtocolVersion.v0 ∧
    frame.header.frameType = ControlFrameType.clientHello.toU8 ∧
    cib.fromReader frame.payload = .ok hello ∧
    parseClientHello hello = .ok (protoV, clientName, clientCaps)

theorem receiveClientHello_eq_ok {cib : Ciborium} {frameBytes : List UInt8}
    {protoV : UInt64} {clientName : String} {clientCaps : Capabilities} :
    receiveClientHello cib frameBytes = .ok (protoV, clientName, clientCaps) ↔
      AcceptsHello cib frameBytes protoV clientName clientCaps := by
  simp only [receiveClientHello, AcceptsHello, bind_eq_ok, parsed_eq_ok, Prod.exists]
  refine exists_congr fun frame => exists_congr fun n => ?_
  by_cases hversion : frame.header.version = ProtocolVersion.v0
  · by_cases htype : frame.header.frameType = ControlFrameType.clientHello.toU8
    · simp [hversion, htype, bind_eq_ok]
    · simp [hversion, htype]
  · simp [hversion]

def AcceptsAuth (cib : Ciborium) (frameBytes : List UInt8) (method : String)
    (credential : List UInt8) : Prop :=
  ∃ frame n authReq, Frame.parse frameBytes = .ok (frame, n) ∧
    frame.header.frameType = ControlFrameType.authRequest.toU8 ∧
    cib.fromReader frame.payload = .ok authReq ∧
    parseAuthRequest authReq = .ok (method, credential)

theorem receiveAuthRequest_eq_ok {cib : Ciborium} {frameBytes : List UInt8}
    {method : String} {credential : List UInt8} :
    receiveAuthRequest cib frameBytes = .ok (method, credential) ↔
      AcceptsAuth cib frameBytes method credential := by
  simp only [receiveAuthRequest, AcceptsAuth, bind_eq_ok, parsed_eq_ok, Prod.exists]
  refine exists_congr fun frame => exists_congr fun n => ?_
  by_cases htype : frame.header.frameType = ControlFrameType.authRequest.toU8
  · simp [htype, bind_eq_ok]
  · simp [htype]

theorem authDecision_ok {server : ServerConfig} {method : String}
    {credential : List UInt8} :
    (authDecision server method credential).1 = .ok ↔
      method = "pin" ∧ credential = asBytes server.expectedPin := by
  simp only [authDecision, constantTimeEq_iff]
  by_cases hmethod : method = "pin"
  · by_cases hcredential : credential = asBytes server.expectedPin
    · simp [hmethod, hcredential]
    · simp [hmethod, hcredential]
  · simp [hmethod]

def AcceptsOpen (cib : Ciborium) (frameBytes : List UInt8) (request : OpenChannel) :
    Prop :=
  ∃ frame n val, Frame.parse frameBytes = .ok (frame, n) ∧
    frame.header.frameType = ControlFrameType.openChannel.toU8 ∧
    cib.fromReader frame.payload = .ok val ∧ parseOpenChannel val = .ok request

theorem receiveOpenChannel_eq_some {cib : Ciborium} {frameBytes : List UInt8}
    {request : OpenChannel} :
    receiveOpenChannel cib frameBytes = .ok (some request) ↔
      AcceptsOpen cib frameBytes request := by
  simp only [receiveOpenChannel, AcceptsOpen, bind_eq_ok, parsed_eq_ok, Prod.exists]
  refine exists_congr fun frame => exists_congr fun n => ?_
  by_cases htype : frame.header.frameType = ControlFrameType.openChannel.toU8
  · simp [htype, bind_eq_ok, pure, Except.pure]
  · simp [htype, pure, Except.pure]

end OpenRD.Server
