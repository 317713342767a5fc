import OpenRD.Proto.Frame
import OpenRD.Proto.Channel
import OpenRD.Proto.Messages

/-!
# The test client's message builders and parsers

All of the client's parsers are lenient: they start from default values and keep
them where an entry is missing or has the wrong type.
-/

namespace OpenRD.TestClient

open OpenRD.Foundation OpenRD.Proto

/-! ## Hello -/

def clientHello (caps : Capabilities) : Cbor :=
  .map [(key 1, .uint (UInt64.ofNat ProtocolVersion.v0.value.toNat)),
    (key 2, .text "openrd-test-client/0.0.1"),
    (key 3, caps.toCbor)]

/-- `into_writer(..).expect(text)`. -/
def expectWritten (text : String) : Except String (List UInt8) → Except Error (List UInt8)
  | .ok payload => .ok payload
  | .error _ => .error (.panic text)

def encodeClientHello (cib : Ciborium) (caps : Capabilities) :
    Except Error (List UInt8) :=
  expectWritten "encode ClientHello" (cib.intoWriter (clientHello caps))

/-- The one entry of a `ServerHello` that is kept. -/
def serverHelloFields : List (Field UInt64 Cbor Capabilities) :=
  [.replace 3 Capabilities.fromCbor fun serverCaps _ => serverCaps]

def describeServerHello : Cbor → Capabilities :=
  readMap serverHelloFields Capabilities.default

/-- What `describe_server_hello` prints about an entry it knows. -/
inductive HelloLine where
  | protocolVersion (n : UInt64)
  | serverName (text : String)
  | capabilities (profile : String) (authMethods displayCodecs : List String)
  | sessionId (text : String)
  | serverTime (n : UInt64)
  deriving DecidableEq, Repr

def helloLineFields : List (Field UInt64 Cbor (List HelloLine)) :=
  [.replace 1 (fun val => val.asU64.getD 0) fun n out => out ++ [.protocolVersion n],
   .replace 2 (fun val => val.asText.getD "?") fun text out => out ++ [.serverName text],
   .replace 3 Capabilities.fromCbor fun serverCaps out =>
    out ++ [.capabilities serverCaps.profile serverCaps.authMethods
      serverCaps.displayCodecs],
   .replace 4 (fun val => (val.asBytes.map hexEncode).getD "?") fun text out =>
    out ++ [.sessionId text],
   .replace 5 (fun val => val.asU64.getD 0) fun n out => out ++ [.serverTime n]]

def serverHelloLines : Cbor → List HelloLine := readMap helloLineFields []

/-! ## Authentication -/

def authRequest (method : String) (credential : List UInt8) : Cbor :=
  .map [(key 1, .text method), (key 2, .bytes credential)]

def encodeAuthRequest (cib : Ciborium) (method : String) (credential : List UInt8) :
    Except Error (List UInt8) :=
  expectWritten "encode AuthRequest" (cib.intoWriter (authRequest method credential))

/-- The status narrows with `as u32`. -/
def authResultFields : List (Field UInt64 Cbor AuthResult) :=
  [.keep 1 Cbor.asU64 fun n out => { out with status := n.toUInt32 },
   .keep 2 Cbor.asText fun permission out => { out with permission },
   .keep 3 Cbor.asText fun identity out => { out with identity }]

def parseAuthResult : Cbor → AuthResult := readMap authResultFields ⟨0, "", ""⟩

/-! ## Channels -/

def openChannel (kind channelId streamId : UInt64) : Cbor :=
  .map [(key 1, .uint kind),
    (key 2, .uint channelId),
    (key 3, .uint streamId),
    (key 4, .map [])]

def encodeOpenChannel (cib : Ciborium) (kind channelId streamId : UInt64) :
    Except Error (List UInt8) :=
  expectWritten "encode OpenChannel" (cib.intoWriter (openChannel kind channelId streamId))

def openChannelFields : List (Field UInt64 Cbor OpenChannel) :=
  [.keep 1 Cbor.asU64 fun kind out => { out with kind },
   .keep 2 Cbor.asU64 fun channelId out => { out with channelId },
   .keep 3 Cbor.asU64 fun streamId out => { out with streamId }]

def parseOpenChannel : Cbor → OpenChannel := readMap openChannelFields ⟨0, 0, 0⟩

def openChannelAckFields : List (Field UInt64 Cbor OpenChannelAck) :=
  [.keep 1 Cbor.asU64 fun channelId out => { out with channelId },
   .keep 2 Cbor.asU64 fun n out => { out with status := n.toUInt32 }]

def parseOpenChannelAck : Cbor → OpenChannelAck := readMap openChannelAckFields ⟨0, 0⟩

/-! ## Clipboard and chat -/

def requestContent (mime : String) (requestId : UInt64) : Cbor :=
  .map [(key 1, .text mime), (key 2, .uint requestId)]

def clipboardContentFields : List (Field UInt64 Cbor ClipboardContent) :=
  [.keep 1 Cbor.asU64 fun requestId out => { out with requestId },
   .keep 2 Cbor.asText fun mime out => { out with mime },
   .keep 3 Cbor.asBytes fun bytes out => { out with bytes }]

def parseClipboardContent : Cbor → ClipboardContent :=
  readMap clipboardContentFields ⟨0, "", []⟩

structure ChatMessageClient where
  msgId : UInt64
  sender : String
  body : String
  deriving DecidableEq, Repr

def chatMessageFields : List (Field UInt64 Cbor ChatMessageClient) :=
  [.keep 1 Cbor.asU64 fun msgId out => { out with msgId },
   .keep 2 Cbor.asText fun sender out => { out with sender },
   .keep 3 Cbor.asText fun body out => { out with body }]

def parseChatMessageClient : Cbor → ChatMessageClient :=
  readMap chatMessageFields ⟨0, "", ""⟩

/-! ## What the fields of each reader touch -/

theorem authResultFields_separate : Separate authResultFields := by
  simp [Separate, authResultFields]

theorem openChannelFields_separate : Separate openChannelFields := by
  simp [Separate, openChannelFields]

theorem openChannelAckFields_separate : Separate openChannelAckFields := by
  simp [Separate, openChannelAckFields]

theorem clipboardContentFields_separate : Separate clipboardContentFields := by
  simp [Separate, clipboardContentFields]

theorem chatMessageFields_separate : Separate chatMessageFields := by
  simp [Separate, chatMessageFields]

/-! ## The client's decisions -/

def receiveServerHello (cib : Ciborium) (bytes : List UInt8) :
    Except Error Capabilities := do
  let (frame, _) ← parsed (Frame.parse bytes)
  if frame.header.frameType ≠ ControlFrameType.serverHello.toU8 then
    .error (.msg s!"expected ServerHello (0x02), got 0x{hexByte frame.header.frameType}")
  else do
    let value ← withContext "decode ServerHello CBOR" (cib.read frame.payload)
    return describeServerHello value

def receiveAuthResult (cib : Ciborium) (bytes : List UInt8) : Except Error Unit := do
  let (frame, _) ← parsed (Frame.parse bytes)
  if frame.header.frameType ≠ ControlFrameType.authResult.toU8 then
    .error (.msg s!"expected AuthResult (0x05), got 0x{hexByte frame.header.frameType}")
  else do
    let authResult ← cib.read frame.payload
    if (parseAuthResult authResult).status ≠ 0 then
      .error (.msg "auth failed")
    else return ()

/-- `expect_ack`, once the frame has been read. -/
def expectAck (cib : Ciborium) (label : String) (bytes : List UInt8) :
    Except Error Unit := do
  let (frame, _) ← parsed (Frame.parse bytes)
  if frame.header.frameType ≠ ControlFrameType.openChannelAck.toU8 then
    .error (.msg
      s!"expected OpenChannelAck for {label}, got 0x{hexByte frame.header.frameType}")
  else do
    let v ← cib.read frame.payload
    let ack := parseOpenChannelAck v
    if ack.status ≠ 0 then
      .error (.msg s!"server refused {label}: status {ack.status}")
    else return ()

end OpenRD.TestClient
