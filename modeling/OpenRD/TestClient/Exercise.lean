import OpenRD.Foundation.Program
import OpenRD.Proto.Frame
import OpenRD.Proto.Input
import OpenRD.TestClient.Messages

/-!
# The test client's flow

`main`, from the open Control stream to the closed connection, as an interactive program.
The receivers it spawns for the server's streams are programs of their own.
-/

namespace OpenRD.TestClient

open OpenRD.Foundation OpenRD.Proto

/-- The streams the client sends on; the unidirectional ones it does not read. -/
inductive Stream where
  | control
  | uni (number : Nat)
  | bi (number : Nat)
  deriving DecidableEq

inductive Receiver where
  | display
  | cursor
  deriving DecidableEq

inductive Request where
  | writeFrame (stream : Stream) (frameType : UInt8) (payload : List UInt8)
  | readFrame (stream : Stream)
  | finish (stream : Stream)
  | openUni
  | openBi
  | acceptUni
  | join (receiver : Receiver)
  | sleep (millis : Nat)
  deriving DecidableEq

/-- Streams are numbered by the side that opens them, in the order it does. -/
abbrev Request.Answer : Request → Type
  | .writeFrame .. => Except Error Unit
  | .readFrame _ => Except Error (List UInt8)
  | .finish _ => Except Error Unit
  | .openUni => Except Error Nat
  | .openBi => Except Error Nat
  | .acceptUni => Except Error Nat
  | .join _ => Except Error Unit
  | .sleep _ => Unit

/-- Of the lines that are printed, those that show what was received. -/
inductive Line where
  | negotiated (profile : NegotiatedProfile)
  | announced (channel : OpenChannel)
  | content (content : ClipboardContent)
  | echo (message : ChatMessageClient)
  | ackChunk (ackTid chunkIdx : UInt32) (ackStatus : UInt8)

inductive Output where
  | print (line : Line)
  | spawn (receiver : Receiver) (stream : Nat)
  /-- `conn.close`. -/
  | close (code : UInt32) (reason : String)

abbrev ClientProg := Prog Request Request.Answer Output Error

abbrev ClientEvent := Event Request Request.Answer Output

/-! ## The operations of the environment -/

namespace Client

def writeFrame (stream : Stream) (frameType : UInt8) (payload : List UInt8) :
    ClientProg Unit :=
  .call (.writeFrame stream frameType payload) id

def readFrame (stream : Stream) : ClientProg (List UInt8) := .call (.readFrame stream) id

/-- `send.finish().await.ok()`. -/
def finish (stream : Stream) : ClientProg Unit := .call (.finish stream) fun _ => .ok ()

def openUni : ClientProg Nat := .call .openUni id

def openBi : ClientProg Nat := .call .openBi id

def acceptUni : ClientProg Nat := .call .acceptUni id

/-- `handle.await??`. -/
def join (receiver : Receiver) : ClientProg Unit := .call (.join receiver) id

def sleep (millis : Nat) : ClientProg Unit := .call (.sleep millis) .ok

def print (line : Line) : ClientProg Unit := .say (.print line)

end Client

open Client

variable (cib : Ciborium)

/-- `into_writer(..)?` into a fresh buffer, written as one frame. -/
def writeValue (stream : Stream) (frameType : UInt8) (value : Cbor) : ClientProg Unit := do
  let buf ← cib.write value
  writeFrame stream frameType buf

/-! ## Hello and authentication -/

def NegotiationError.text : NegotiationError → String
  | .noVersionOverlap => "no overlapping protocol version"
  | .noAuthMethod => "no shared auth method"
  | .noDisplayCodec => "no shared display codec"

def negotiateProfile (clientCaps serverCaps : Capabilities) :
    Except Error NegotiatedProfile :=
  match NegotiatedProfile.negotiate clientCaps serverCaps with
  | .ok profile => .ok profile
  | .error error =>
      .error (.context "capability negotiation failed" (.msg (NegotiationError.text error)))

def exchangeHello : ClientProg Unit := do
  let clientCaps := Capabilities.default
  let payload ← encodeClientHello cib clientCaps
  writeFrame .control ControlFrameType.clientHello.toU8 payload
  let bytes ← readFrame .control
  let serverCaps ← receiveServerHello cib bytes
  let profile ← negotiateProfile clientCaps serverCaps
  print (.negotiated profile)

def authenticate (pin : String) : ClientProg Unit := do
  let authPayload ← encodeAuthRequest cib "pin" (asBytes pin)
  writeFrame .control ControlFrameType.authRequest.toU8 authPayload
  let bytes ← readFrame .control
  receiveAuthResult cib bytes

/-! ## The server's channels -/

/-- A frame of the wanted type, and its payload as CBOR. -/
def expectValue (frameType : UInt8) (expected : String) (bytes : List UInt8) :
    Except Error Cbor := do
  let (frame, _) ← parsed (Frame.parse bytes)
  if frame.header.frameType ≠ frameType then
    .error (.msg s!"expected {expected}, got 0x{hexByte frame.header.frameType}")
  else cib.read frame.payload

def readAnnouncement : ClientProg Unit := do
  let bytes ← readFrame .control
  let v ← expectValue cib ControlFrameType.openChannel.toU8 "OpenChannel (0x06)" bytes
  print (.announced (parseOpenChannel v))

def acceptStreams : ClientProg Unit := do
  let displayStream ← acceptUni
  let cursorStream ← acceptUni
  .say (.spawn .display displayStream)
  .say (.spawn .cursor cursorStream)

/-! ## The client's channels -/

/-- Sends an `OpenChannel` and waits for its acknowledgement. -/
def openChannelOn (kind : ChannelKind) (channelId streamId : UInt64) (label : String) :
    ClientProg Unit := do
  let oc ← encodeOpenChannel cib kind.toU64 channelId streamId
  writeFrame .control ControlFrameType.openChannel.toU8 oc
  let bytes ← readFrame .control
  expectAck cib label bytes

def keyADown : KeyEvent where
  keysym := 0x0061
  scancode := 0x001E
  modifiers := ⟨0⟩
  flags := 0x01

def writeInputKeyevent (stream : Stream) (ev : KeyEvent) : ClientProg Unit :=
  writeFrame stream InputFrameType.keyEvent.toU8 (ev.writeTo [])

def writeInputTextinput (stream : Stream) (ev : TextInput) : ClientProg Unit :=
  writeFrame stream InputFrameType.textInput.toU8 (ev.writeTo [])

def openChannelAndExerciseInput : ClientProg Unit := do
  openChannelOn cib .input 1 2 "Input"
  let inputStream ← openUni
  writeInputKeyevent (.uni inputStream) keyADown
  let keyAUp := { keyADown with flags := 0x00 }
  writeInputKeyevent (.uni inputStream) keyAUp
  writeInputTextinput (.uni inputStream) ⟨"olá, mundo 🌍"⟩
  finish (.uni inputStream)

def plainText : String := "text/plain;charset=utf-8"

def offerTypes : Cbor := .array [.text plainText]

def contentToSend : Cbor :=
  .map [(key 1, .uint 100), (key 2, .text plainText),
    (key 3, .bytes (asBytes "client clipboard: hello back from the test client")),
    (key 4, .bool false)]

def openChannelAndExerciseClipboard : ClientProg Unit := do
  openChannelOn cib .clipboard 2 6 "Clipboard"
  let clip ← openBi
  writeValue cib (.bi clip) ClipboardFrameType.offerTypes.toU8 offerTypes
  writeValue cib (.bi clip) ClipboardFrameType.requestContent.toU8
    (requestContent plainText 42)
  let contentBytes ← readFrame (.bi clip)
  let v ← expectValue cib ClipboardFrameType.content.toU8 "Clipboard::Content (0x03)"
    contentBytes
  print (.content (parseClipboardContent v))
  writeValue cib (.bi clip) ClipboardFrameType.content.toU8 contentToSend
  finish (.bi clip)

def typingIndicator (state : String) : Cbor :=
  .map [(key 1, .text "openrd-test-client"), (key 2, .text state)]

def chatMessage : Cbor :=
  .map [(key 1, .uint 7), (key 2, .text "openrd-test-client"),
    (key 3, .text "olá from the test client! how are things server-side?"),
    (key 4, .uint 0)]

def openChannelAndExerciseChat : ClientProg Unit := do
  openChannelOn cib .chat 3 10 "Chat"
  let chat ← openBi
  writeValue cib (.bi chat) ChatFrameType.typingIndicator.toU8 (typingIndicator "start")
  writeValue cib (.bi chat) ChatFrameType.chatMessage.toU8 chatMessage
  let bytes ← readFrame (.bi chat)
  let v ← expectValue cib ChatFrameType.chatMessage.toU8 "Chat::ChatMessage echo (0x01)"
    bytes
  print (.echo (parseChatMessageClient v))
  writeValue cib (.bi chat) ChatFrameType.typingIndicator.toU8 (typingIndicator "stop")
  finish (.bi chat)

def payloadBytes : List UInt8 :=
  asBytes "Hello, world from the test client's file transfer!"

def transferId : UInt32 := 1

def fileIdx : UInt32 := 0

def chunkIdx : UInt32 := 0

def dummyHash : List UInt8 := List.replicate 32 0

def manifest : Cbor :=
  .map [(key 1, .uint transferId.toUInt64), (key 2, .text "upload"),
    (key 3, .text "/tmp/uploaded"),
    (key 4, .array [.map [(key 1, .text "hello.txt"),
      (key 2, .uint (UInt64.ofNat payloadBytes.length)), (key 3, .uint 0o644),
      (key 4, .uint 0), (key 5, .array [.bytes dummyHash])]]),
    (key 5, .uint 262144), (key 6, .bytes dummyHash)]

def chunk : List UInt8 :=
  u32ToLeBytes transferId ++ u32ToLeBytes fileIdx ++ u32ToLeBytes chunkIdx ++
    u32ToLeBytes (UInt32.ofNat payloadBytes.length) ++ payloadBytes

def endTransfer : Cbor := .map [(key 1, .uint transferId.toUInt64), (key 2, .uint 0)]

/-- The transfer id and the status in an `AckChunk`. -/
def receiveAckChunk (bytes : List UInt8) : Except Error (UInt32 × UInt8) := do
  let (frame, _) ← parsed (Frame.parse bytes)
  if frame.header.frameType ≠ FileFrameType.ackChunk.toU8 then
    .error (.msg
      s!"expected File::AckChunk (0x04), got 0x{hexByte frame.header.frameType}")
  else if frame.payload.length < 13 then
    .error (.msg "AckChunk payload too short")
  else return (u32OfLeBytes (frame.payload.take 4), frame.payload.getD 12 0)

def openChannelAndExerciseFile : ClientProg Unit := do
  openChannelOn cib .file 4 14 "File"
  let file ← openBi
  writeValue cib (.bi file) FileFrameType.startTransfer.toU8 manifest
  writeFrame (.bi file) FileFrameType.chunk.toU8 chunk
  let bytes ← readFrame (.bi file)
  let (ackTid, ackStatus) ← receiveAckChunk bytes
  print (.ackChunk ackTid chunkIdx ackStatus)
  writeValue cib (.bi file) FileFrameType.endTransfer.toU8 endTransfer
  finish (.bi file)

/-! ## The whole flow -/

def main (pin : String) : ClientProg Unit := do
  exchangeHello cib
  authenticate cib pin
  readAnnouncement cib
  readAnnouncement cib
  acceptStreams
  openChannelAndExerciseInput cib
  openChannelAndExerciseClipboard cib
  openChannelAndExerciseChat cib
  openChannelAndExerciseFile cib
  finish .control
  join .display
  join .cursor
  sleep 150
  .say (.close 0 "bye")

/-! ## Receivers -/

inductive ReceiverRequest where
  | readFrameOpt
  | createDump (dumpPath : String)
  | writeDump (bytes : List UInt8)
  | flushDump
  deriving DecidableEq

abbrev ReceiverRequest.Answer : ReceiverRequest → Type
  | .readFrameOpt => Except Error (Option (List UInt8))
  | .createDump _ => Except Error Unit
  | .writeDump _ => Except Error Unit
  | .flushDump => Except Error Unit

structure DisplaySummary where
  params : UInt32
  frames : UInt32
  slices : UInt32
  ends : UInt32
  wireBytes : UInt64
  nalBytes : UInt64

structure CursorSummary where
  shapes : UInt32
  moves : UInt32
  hidden : UInt32
  lastMove : Int × Int
  bytes : UInt64

inductive ReceiverLog where
  | streamParameters (codec : UInt8) (width height : UInt16)
  | displaySummary (summary : DisplaySummary)
  | cursorShape (w h : UInt16) (fmt : UInt8)
  | cursorSummary (summary : CursorSummary)
  | panicking (text : String)

abbrev ReceiverProg := Prog ReceiverRequest ReceiverRequest.Answer ReceiverLog Error

namespace Receiver

/-- `a + b` on machine words; `overflowChecks` is whether the build checks additions. -/
def add {α : Type} (overflowChecks : Bool) (wide bound : Nat) (sum : α) : ReceiverProg α :=
  if overflowChecks ∧ bound ≤ wide then do
    .say (.panicking "attempt to add with overflow")
    .fail (.panic "attempt to add with overflow")
  else return sum

def addU64 (overflowChecks : Bool) (a b : UInt64) : ReceiverProg UInt64 :=
  add overflowChecks (a.toNat + b.toNat) (2 ^ 64) (a + b)

def addU32 (overflowChecks : Bool) (a b : UInt32) : ReceiverProg UInt32 :=
  add overflowChecks (a.toNat + b.toNat) (2 ^ 32) (a + b)

end Receiver

/-- A frame's kind and payload. -/
def kindOf {α : Type} (fromU8 : UInt8 → Except ParseError α) (frameBytes : List UInt8) :
    Except Error (α × List UInt8) := do
  let (frame, _) ← parsed (Frame.parse frameBytes)
  let kind ← parsed (fromU8 frame.header.frameType)
  return (kind, frame.payload)

def u16OfLeBytes (bytes : List UInt8) : UInt16 := UInt16.ofNat (ofLeBytes bytes)

/-- The bytes of a slice, at most as many as it declares. -/
def sliceNal (payload : List UInt8) : List UInt8 :=
  let nalLen := (u32OfLeBytes ((payload.drop 6).take 4)).toNat
  (payload.drop 10).take (min nalLen (payload.length - 10))

def receiveDisplayFrame (overflowChecks : Bool) (summary : DisplaySummary)
    (kind : DisplayFrameType) (payload : List UInt8) : ReceiverProg DisplaySummary := do
  match kind with
  | .streamParameters => do
      if payload.length ≥ 5 then
        .say (.streamParameters (payload.getD 0 0)
          (u16OfLeBytes ((payload.drop 1).take 2)) (u16OfLeBytes ((payload.drop 3).take 2)))
      let params ← Receiver.addU32 overflowChecks summary.params 1
      return { summary with params }
  | .frameHeader => do
      let frames ← Receiver.addU32 overflowChecks summary.frames 1
      return { summary with frames }
  | .frameSlice =>
      if payload.length ≥ 10 then do
        let nal := sliceNal payload
        Prog.call (.writeDump [0, 0, 0, 1]) id
        Prog.call (.writeDump nal) id
        let nalBytes ← Receiver.addU64 overflowChecks summary.nalBytes
          (UInt64.ofNat nal.length)
        let slices ← Receiver.addU32 overflowChecks summary.slices 1
        return { summary with slices, nalBytes }
      else do
        let slices ← Receiver.addU32 overflowChecks summary.slices 1
        return { summary with slices }
  | .frameEnd => do
      let ends ← Receiver.addU32 overflowChecks summary.ends 1
      return { summary with ends }

/-- `dumpPath` is what `OPENRD_DISPLAY_DUMP` says. -/
def receiveDisplay (overflowChecks : Bool) (dumpPath : String) : ReceiverProg Unit := do
  Prog.call (.createDump dumpPath) (withContext s!"create dump file {dumpPath}")
  let summary ← Prog.iterate (⟨0, 0, 0, 0, 0, 0⟩ : DisplaySummary) fun summary => do
    match ← Prog.call .readFrameOpt id with
    | none => return .inr summary
    | some frameBytes => do
        let wireBytes ← Receiver.addU64 overflowChecks summary.wireBytes
          (UInt64.ofNat frameBytes.length)
        let (kind, payload) ← kindOf DisplayFrameType.fromU8 frameBytes
        let summary ←
          receiveDisplayFrame overflowChecks { summary with wireBytes } kind payload
        return .inl summary
  Prog.call .flushDump id
  .say (.displaySummary summary)

def i32OfLeBytes (bytes : List UInt8) : Int :=
  let n := (ofLeBytes bytes : Int)
  if n < 2 ^ 31 then n else n - 2 ^ 32

def receiveCursorFrame (overflowChecks : Bool) (summary : CursorSummary)
    (kind : CursorFrameType) (payload : List UInt8) : ReceiverProg CursorSummary := do
  match kind with
  | .cursorShape => do
      if payload.length ≥ 11 then
        .say (.cursorShape (u16OfLeBytes (payload.take 2))
          (u16OfLeBytes ((payload.drop 2).take 2)) (payload.getD 8 0))
      let shapes ← Receiver.addU32 overflowChecks summary.shapes 1
      return { summary with shapes }
  | .cursorMove => do
      let lastMove :=
        if payload.length ≥ 8 then
          (i32OfLeBytes (payload.take 4), i32OfLeBytes ((payload.drop 4).take 4))
        else summary.lastMove
      let moves ← Receiver.addU32 overflowChecks summary.moves 1
      return { summary with moves, lastMove }
  | .cursorHidden => do
      let hidden ← Receiver.addU32 overflowChecks summary.hidden 1
      return { summary with hidden }

def receiveCursor (overflowChecks : Bool) : ReceiverProg Unit := do
  let summary ← Prog.iterate (⟨0, 0, 0, (0, 0), 0⟩ : CursorSummary) fun summary => do
    match ← Prog.call .readFrameOpt id with
    | none => return .inr summary
    | some frameBytes => do
        let bytes ← Receiver.addU64 overflowChecks summary.bytes
          (UInt64.ofNat frameBytes.length)
        let (kind, payload) ← kindOf CursorFrameType.fromU8 frameBytes
        let summary ← receiveCursorFrame overflowChecks { summary with bytes } kind payload
        return .inl summary
  .say (.cursorSummary summary)

def Receiver.program (overflowChecks : Bool) (dumpPath : String) : Receiver → ReceiverProg Unit
  | .display => receiveDisplay overflowChecks dumpPath
  | .cursor => receiveCursor overflowChecks

end OpenRD.TestClient
