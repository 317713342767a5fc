import OpenRD.Proto.Input
import OpenRD.Server.Control

/-!
# Channel handlers

Each spawned handler as an interactive program on its own stream.  What a handler
writes to the log is announced, so that its effects are all in its history.
-/

namespace OpenRD.Server

open OpenRD.Foundation OpenRD.Proto

inductive HandlerRequest where
  | readFullFrameOpt
  | writeFrame (frameType : UInt8) (payload : List UInt8)
  | finish
  | initEncoder
  | encode (frameId : UInt32)
  | sleep (millis : Nat)
  deriving DecidableEq

abbrev HandlerRequest.Answer : HandlerRequest → Type
  | .readFullFrameOpt => Except Error (Option (List UInt8))
  | .writeFrame .. => Except Error Unit
  | .finish => Except Error Unit
  | .initEncoder => Except Error Unit
  | .encode _ => Except Error (List (List UInt8))
  | .sleep _ => Unit

inductive HandlerLog where
  | keyEvent (event : KeyEvent)
  | textInput (text : String)
  | inputUnhandled (kind : InputFrameType) (len : Nat)
  | inputClosed (count : UInt64)
  | offerTypes (types : List String)
  | requestContent (request : RequestContent)
  | contentSent (requestId : UInt64) (bodyLen : Nat)
  | contentReceived (requestId : UInt64) (mime : String) (len : Nat)
      (preview : List UInt8)
  | clipboardUnhandled (kind : ClipboardFrameType)
  | clipboardClosed
  | chatMessage (message : ChatMessage)
  | chatEchoed (body : String)
  | typingIndicator (typing : TypingIndicator)
  | chatAttachment (attachment : ChatAttachmentMeta)
  | chatClosed
  | manifest (manifest : FileManifest) (kind : FileFrameType)
  | chunk (tid fileIdx chunkIdx : UInt32) (bytes : Nat) (preview : List UInt8)
  | ackChunk (tid chunkIdx : UInt32)
  | endTransfer (transferId chunksAcked : UInt32)
  | fileUnhandled (kind : FileFrameType)
  | fileClosed
  | displayFrame (frameId : UInt32) (idr : Bool) (nSlices : UInt8) (totalBytes : Nat)
      (timestampUs : UInt64)
  | displayFinished
  | cursorMove (x y : Int) (seq : Nat)
  | cursorFinished
  | panicking (text : String)

abbrev HandlerProg := Prog HandlerRequest HandlerRequest.Answer HandlerLog Error

abbrev HandlerEvent := Event HandlerRequest HandlerRequest.Answer HandlerLog

namespace Handler

def readFrameOpt : HandlerProg (Option (List UInt8)) := .call .readFullFrameOpt id

def writeFrame (frameType : UInt8) (payload : List UInt8) : HandlerProg Unit :=
  .call (.writeFrame frameType payload) id

/-- `let _ = send.finish().await`. -/
def finish : HandlerProg Unit := .call .finish fun _ => .ok ()

def panicWith {α : Type} (text : String) : HandlerProg α := do
  .say (.panicking text)
  .fail (.panic text)

/-- `a + b` on machine words, of which `wide` is the exact sum. -/
def add {α : Type} (server : ServerConfig) (wide bound : Nat) (sum : α) :
    HandlerProg α :=
  if server.overflowChecks ∧ bound ≤ wide then panicWith "attempt to add with overflow"
  else return sum

def addU64 (server : ServerConfig) (a b : UInt64) : HandlerProg UInt64 :=
  add server (a.toNat + b.toNat) (2 ^ 64) (a + b)

def addU32 (server : ServerConfig) (a b : UInt32) : HandlerProg UInt32 :=
  add server (a.toNat + b.toNat) (2 ^ 32) (a + b)

/-- `elements[index]`. -/
def elementAt (elements : List UInt8) (index : Nat) : HandlerProg UInt8 :=
  match elements[index]? with
  | some element => return element
  | none => panicWith
      s!"index out of bounds: the len is {elements.length} but the index is {index}"

/-- `u32::from_le_bytes` of the four elements from `start` on. -/
def wordAt (elements : List UInt8) (start : Nat) : HandlerProg UInt32 := do
  let first ← elementAt elements start
  let second ← elementAt elements (start + 1)
  let third ← elementAt elements (start + 2)
  let fourth ← elementAt elements (start + 3)
  return u32OfLeBytes [first, second, third, fourth]

/-- `&elements[start..stop]`. -/
def sliceOf (elements : List UInt8) (start stop : Nat) : HandlerProg (List UInt8) :=
  if stop < start then panicWith s!"slice index starts at {start} but ends at {stop}"
  else if elements.length < stop then panicWith
    s!"range end index {stop} out of range for slice of length {elements.length}"
  else return (elements.drop start).take (stop - start)

def nextFrame {α : Type} (fromU8 : UInt8 → Except ParseError α) :
    HandlerProg (Option (α × List UInt8)) := do
  match ← readFrameOpt with
  | none => return none
  | some frameBytes =>
      let (frame, _) ← parsed (Frame.parse frameBytes)
      let kind ← parsed (fromU8 frame.header.frameType)
      return some (kind, frame.payload)

end Handler

open Handler

/-! ## Input -/

def handleInputFrame (kind : InputFrameType) (payload : List UInt8) :
    HandlerProg Unit := do
  match kind with
  | .keyEvent =>
      let event ← parsed (KeyEvent.parse payload)
      .say (.keyEvent event)
  | .textInput =>
      let event ← parsed (TextInput.parse payload)
      .say (.textInput event.text)
  | other => .say (.inputUnhandled other payload.length)

def handleInputStream (server : ServerConfig) : HandlerProg Unit := do
  let count ← Prog.iterate (0 : UInt64) fun count => do
    match ← nextFrame InputFrameType.fromU8 with
    | none => return .inr count
    | some (kind, payload) => do
        handleInputFrame kind payload
        let count ← addU64 server count 1
        return .inl count
  .say (.inputClosed count)

/-! ## Clipboard -/

def serverClipboardText : String := "server clipboard: olá from the OpenRD server"

def clipboardBody (mime : String) : List UInt8 :=
  if "text/plain".toList.isPrefixOf mime.toList then asBytes serverClipboardText else []

/-- At most the first 80 bytes; slicing inside a character panics. -/
def previewOf (bytes : List UInt8) : HandlerProg (List UInt8) :=
  let preview := fromUtf8Lossy bytes
  if preview.length > 80 then
    if isCharBoundary preview 80 then return preview.take 80 ++ asBytes "..."
    else panicWith "byte index 80 is not a char boundary"
  else return preview

def handleClipboardFrame (server : ServerConfig) (kind : ClipboardFrameType)
    (payload : List UInt8) : HandlerProg Unit := do
  match kind with
  | .offerTypes => do
      let val ← withContext "decode OfferTypes" (server.cib.read payload)
      .say (.offerTypes (((val.asArray).map (·.filterMap Cbor.asText)).getD []))
  | .requestContent => do
      let val ← withContext "decode RequestContent" (server.cib.read payload)
      let request := parseRequestContent val
      .say (.requestContent request)
      let body := clipboardBody request.mime
      let content := buildClipboardContent request.requestId request.mime body
      let payload ← server.cib.write content
      writeFrame ClipboardFrameType.content.toU8 payload
      .say (.contentSent request.requestId body.length)
  | .content => do
      let val ← withContext "decode Content" (server.cib.read payload)
      let content := parseClipboardContent val
      let preview ← previewOf content.bytes
      .say (.contentReceived content.requestId content.mime content.bytes.length preview)
  | other => .say (.clipboardUnhandled other)

def Handler.eachFrame {α : Type} (fromU8 : UInt8 → Except ParseError α)
    (handleFrame : α → List UInt8 → HandlerProg Unit) : HandlerProg Unit :=
  Prog.iterate () fun _ => do
    match ← nextFrame fromU8 with
    | none => return .inr ()
    | some (kind, payload) => do
        handleFrame kind payload
        return .inl ()

def handleClipboardStream (server : ServerConfig) : HandlerProg Unit := do
  eachFrame ClipboardFrameType.fromU8 (handleClipboardFrame server)
  .say .clipboardClosed
  finish

/-! ## Chat -/

def handleChatFrame (server : ServerConfig) (kind : ChatFrameType)
    (payload : List UInt8) : HandlerProg Unit := do
  match kind with
  | .chatMessage => do
      let v ← withContext "decode ChatMessage" (server.cib.read payload)
      let message := parseChatMessage v
      .say (.chatMessage message)
      let echoBody := "[server-echo] " ++ message.body
      let msgId ← addU64 server message.msgId 1000000
      let tsMs ← addU64 server message.tsMs 1
      let echo := buildChatMessage msgId "openrd-server/0.0.1" echoBody tsMs
      let payload ← server.cib.write echo
      writeFrame ChatFrameType.chatMessage.toU8 payload
      .say (.chatEchoed echoBody)
  | .typingIndicator => do
      let v ← withContext "decode TypingIndicator" (server.cib.read payload)
      .say (.typingIndicator (parseTypingIndicator v))
  | .chatAttachment => do
      let v ← withContext "decode ChatAttachment" (server.cib.read payload)
      .say (.chatAttachment (parseChatAttachmentMeta v))

def handleChatStream (server : ServerConfig) : HandlerProg Unit := do
  eachFrame ChatFrameType.fromU8 (handleChatFrame server)
  .say .chatClosed
  finish

/-! ## File -/

structure Chunk where
  tid : UInt32
  fileIdx : UInt32
  chunkIdx : UInt32
  bytes : List UInt8

/-- The binary layout of a chunk; its bytes end with the payload at the latest. -/
def parseChunk (payload : List UInt8) : HandlerProg Chunk := do
  if payload.length < 16 then
    .fail (.msg s!"Chunk payload too short ({payload.length} bytes)")
  else do
    let tid ← wordAt payload 0
    let fileIdx ← wordAt payload 4
    let chunkIdx ← wordAt payload 8
    let bytesLen ← wordAt payload 12
    let bytes ← sliceOf payload 16 (16 + min bytesLen.toNat (payload.length - 16))
    return ⟨tid, fileIdx, chunkIdx, bytes⟩

def ackChunk (chunk : Chunk) : List UInt8 :=
  u32ToLeBytes chunk.tid ++ u32ToLeBytes chunk.fileIdx ++ u32ToLeBytes chunk.chunkIdx ++
    [0x00]

structure FileState where
  transferIdSeen : UInt32
  chunksAcked : UInt32

def handleFileFrame (server : ServerConfig) (state : FileState) (kind : FileFrameType)
    (payload : List UInt8) : HandlerProg FileState := do
  match kind with
  | .startTransfer | .manifest => do
      let v ← withContext "decode StartTransfer/Manifest" (server.cib.read payload)
      let manifest := parseFileManifest v
      .say (.manifest manifest kind)
      return { state with transferIdSeen := manifest.transferId.toUInt32 }
  | .chunk => do
      let chunk ← parseChunk payload
      .say (.chunk chunk.tid chunk.fileIdx chunk.chunkIdx chunk.bytes.length
        (fromUtf8Lossy chunk.bytes))
      writeFrame FileFrameType.ackChunk.toU8 (ackChunk chunk)
      let chunksAcked ← addU32 server state.chunksAcked 1
      .say (.ackChunk chunk.tid chunk.chunkIdx)
      return { state with chunksAcked }
  | .endTransfer => do
      .say (.endTransfer state.transferIdSeen state.chunksAcked)
      return state
  | other => do
      .say (.fileUnhandled other)
      return state

def handleFileStream (server : ServerConfig) : HandlerProg Unit := do
  Prog.iterate (⟨0, 0⟩ : FileState) fun state => do
    match ← nextFrame FileFrameType.fromU8 with
    | none => return .inr ()
    | some (kind, payload) => do
        let state ← handleFileFrame server state kind payload
        return .inl state
  .say .fileClosed
  finish

/-! ## Display -/

def displayFps : Nat := 30

def displayFrameCount : Nat := 30

/-- The `FrameSlice` frames of a picture, numbered from `sliceIdx`. -/
def sendSlices (frameId : UInt32) (nSlices : UInt8) :
    Nat → List (List UInt8) → HandlerProg Unit
  | _, [] => return ()
  | sliceIdx, nal :: nals => do
      writeFrame DisplayFrameType.frameSlice.toU8
        (u32ToLeBytes frameId ++ [UInt8.ofNat sliceIdx, nSlices] ++
          u32ToLeBytes (UInt32.ofNat nal.length) ++ nal)
      sendSlices frameId nSlices (sliceIdx + 1) nals

def sendDisplayFrame (frameId : UInt32) : HandlerProg Unit := do
  let nals ← Prog.call (.encode frameId) id
  if nals.isEmpty then return ()
  else do
    let nSlices := UInt8.ofNat (min nals.length 255)
    let isIdr := frameId == 0
    let flags : UInt8 := if isIdr then 0x01 else 0x00
    let timestampUs := UInt64.ofNat (frameId.toNat * 1000000 / displayFps)
    writeFrame DisplayFrameType.frameHeader.toU8
      (u32ToLeBytes frameId ++ [flags] ++ toLeBytes 8 timestampUs.toNat ++ [nSlices, 0])
    sendSlices frameId nSlices 0 nals
    writeFrame DisplayFrameType.frameEnd.toU8 (u32ToLeBytes frameId)
    .say (.displayFrame frameId isIdr nSlices (nals.map List.length).sum timestampUs)
    .call (.sleep (1000 / displayFps)) .ok

def sendDisplayFrom : List Nat → HandlerProg Unit
  | [] => return ()
  | frameId :: frameIds => do
      sendDisplayFrame (UInt32.ofNat frameId)
      sendDisplayFrom frameIds

def sendDisplayFrames : HandlerProg Unit := do
  Prog.call .initEncoder id
  sendDisplayFrom (List.range displayFrameCount)
  finish
  .say .displayFinished

/-! ## Cursor -/

def i32ToLeBytes (n : Int) : List UInt8 := toLeBytes 4 (n % 2 ^ 32).toNat

def cursorMoves : List (Int × Int) :=
  [(100, 100), (200, 150), (300, 220), (450, 360), (640, 480)]

def sendMovesFrom : Nat → List (Int × Int) → HandlerProg Unit
  | _, [] => return ()
  | seq, (x, y) :: moves => do
      writeFrame CursorFrameType.cursorMove.toU8 (i32ToLeBytes x ++ i32ToLeBytes y)
      .say (.cursorMove x y seq)
      .call (.sleep 20) .ok
      sendMovesFrom (seq + 1) moves

def sendCursorMoves : HandlerProg Unit := do
  sendMovesFrom 0 cursorMoves
  finish
  .say .cursorFinished

/-! ## The handler of a task -/

def Task.program (server : ServerConfig) : Task → HandlerProg Unit
  | .display _ => sendDisplayFrames
  | .cursor _ => sendCursorMoves
  | .input _ => handleInputStream server
  | .clipboard _ => handleClipboardStream server
  | .chat _ => handleChatStream server
  | .file _ => handleFileStream server

/-! ## The layout of a chunk -/

/-- A word of a binary layout, which starts with words. -/
def layoutWord (payload : List UInt8) (index : Nat) : UInt32 :=
  u32OfLeBytes ((payload.drop (4 * index)).take 4)

/-- The chunk of a payload that holds its header. -/
def layoutChunk (payload : List UInt8) : Chunk where
  tid := layoutWord payload 0
  fileIdx := layoutWord payload 1
  chunkIdx := layoutWord payload 2
  bytes := (payload.drop 16).take (min (layoutWord payload 3).toNat (payload.length - 16))

section InBounds

variable {elements payload : List UInt8} {index start stop : Nat}

theorem elementAt_of_lt (h : index < elements.length) :
    elementAt elements index = pure elements[index] := by
  rw [elementAt, List.getElem?_eq_getElem h]

theorem wordAt_of_le (h : start + 4 ≤ elements.length) :
    wordAt elements start = pure (u32OfLeBytes ((elements.drop start).take 4)) := by
  have hword : (elements.drop start).take 4 =
      [elements[start], elements[start + 1], elements[start + 2], elements[start + 3]] := by
    rw [List.drop_eq_getElem_cons (by omega), List.drop_eq_getElem_cons (by omega),
      List.drop_eq_getElem_cons (by omega), List.drop_eq_getElem_cons (by omega)]
    rfl
  rw [wordAt, elementAt_of_lt (by omega), elementAt_of_lt (by omega),
    elementAt_of_lt (by omega), elementAt_of_lt (by omega), hword]
  rfl

theorem sliceOf_of_le (hstart : start ≤ stop) (hstop : stop ≤ elements.length) :
    sliceOf elements start stop = pure ((elements.drop start).take (stop - start)) := by
  rw [sliceOf, if_neg hstart.not_gt, if_neg hstop.not_gt]

theorem parseChunk_short (h : payload.length < 16) : parseChunk payload =
    .fail (.msg s!"Chunk payload too short ({payload.length} bytes)") :=
  if_pos h

/-- However many bytes are declared, every index and every slice is in bounds. -/
theorem parseChunk_long (h : 16 ≤ payload.length) :
    parseChunk payload = pure (layoutChunk payload) := by
  have hstop (declared : Nat) : 16 + min declared (payload.length - 16) ≤ payload.length := by
    omega
  rw [parseChunk, if_neg h.not_gt, wordAt_of_le (by omega), wordAt_of_le (by omega),
    wordAt_of_le (by omega), wordAt_of_le (by omega)]
  change (sliceOf payload 16 (16 + min (layoutWord payload 3).toNat (payload.length - 16)) >>=
    fun bytes => _) = _
  rw [sliceOf_of_le (Nat.le_add_right _ _) (hstop _), Nat.add_sub_cancel_left]
  rfl

variable {server : ServerConfig} {state : FileState}

theorem handleFileFrame_short (h : payload.length < 16) :
    handleFileFrame server state .chunk payload =
      .fail (.msg s!"Chunk payload too short ({payload.length} bytes)") := by
  rw [handleFileFrame, parseChunk_short h]
  rfl

theorem handleFileFrame_long (h : 16 ≤ payload.length) :
    handleFileFrame server state .chunk payload = (do
      let chunk := layoutChunk payload
      .say (.chunk chunk.tid chunk.fileIdx chunk.chunkIdx chunk.bytes.length
        (fromUtf8Lossy chunk.bytes))
      writeFrame FileFrameType.ackChunk.toU8 (ackChunk chunk)
      let chunksAcked ← addU32 server state.chunksAcked 1
      .say (.ackChunk chunk.tid chunk.chunkIdx)
      return { state with chunksAcked }) := by
  rw [handleFileFrame, parseChunk_long h]
  rfl

end InBounds

end OpenRD.Server
