import Mathlib.Data.List.Forall2
import OpenRD.Proto.Channel
import OpenRD.Proto.Messages

/-!
# The server's message builders and parsers

Strict parsers overwrite a field with whatever a known key carries and report the
fields that end up missing.  Lenient ones keep a field as it is when the value
under its key has the wrong type.
-/

namespace OpenRD.Server

open OpenRD.Foundation OpenRD.Proto

/-! ## Hello and authentication -/

structure ClientHelloFields where
  protoV : Option UInt64
  clientName : Option String
  caps : Capabilities

def clientHelloFields : List (Field UInt64 Cbor ClientHelloFields) :=
  [.replace 1 Cbor.asU64 fun protoV out => { out with protoV },
   .replace 2 Cbor.asText fun clientName out => { out with clientName },
   .replace 3 Capabilities.fromCbor fun caps out => { out with caps }]

def parseClientHello (v : Cbor) : Except Error (UInt64 × String × Capabilities) := do
  let fields ← readMapOr "ClientHello is not a CBOR map" clientHelloFields
    ⟨none, none, Capabilities.default⟩ v
  let protoV ← okOrElse "ClientHello missing key 1 (protocol_version)" fields.protoV
  return (protoV, fields.clientName.getD "<unknown>", fields.caps)

def buildServerHello (protoV : UInt64) (serverName : String) (caps : Capabilities)
    (sessionId : Vector UInt8 16) (serverTime : UInt64) : Cbor :=
  .map [(key 1, .uint protoV),
    (key 2, .text serverName),
    (key 3, caps.toCbor),
    (key 4, .bytes sessionId.toList),
    (key 5, .uint serverTime)]

structure AuthRequestFields where
  method : Option String
  credential : Option (List UInt8)

def authRequestFields : List (Field UInt64 Cbor AuthRequestFields) :=
  [.replace 1 Cbor.asText fun method out => { out with method },
   .replace 2 Cbor.asBytes fun credential out => { out with credential }]

def parseAuthRequest (v : Cbor) : Except Error (String × List UInt8) := do
  let fields ← readMapOr "AuthRequest not a map" authRequestFields ⟨none, none⟩ v
  let method ← okOrElse "AuthRequest missing key 1 (method)" fields.method
  let credential ← okOrElse "AuthRequest missing key 2 (credential)" fields.credential
  return (method, credential)

def buildAuthResult (status : UInt32) (permission identity : String) : Cbor :=
  .map [(key 1, .uint status.toUInt64),
    (key 2, .text permission),
    (key 3, .text identity)]

/-! ## Channels -/

structure OpenChannelFields where
  kind : Option UInt64
  channelId : Option UInt64
  streamId : UInt64

def openChannelFields : List (Field UInt64 Cbor OpenChannelFields) :=
  [.replace 1 Cbor.asU64 fun kind out => { out with kind },
   .replace 2 Cbor.asU64 fun channelId out => { out with channelId },
   .keep 3 Cbor.asU64 fun streamId out => { out with streamId }]

def parseOpenChannel (v : Cbor) : Except Error OpenChannel := do
  let fields ← readMapOr "OpenChannel not a map" openChannelFields ⟨none, none, 0⟩ v
  let kind ← okOrElse "OpenChannel missing key 1 (kind)" fields.kind
  let channelId ← okOrElse "OpenChannel missing key 2 (channel_id)" fields.channelId
  return ⟨kind, channelId, fields.streamId⟩

/-- The map `send_open_channel_announce` writes. -/
def openChannelAnnounce (kind channelId streamId : UInt64) : Cbor :=
  .map [(key 1, .uint kind),
    (key 2, .uint channelId),
    (key 3, .uint streamId),
    (key 4, .map [])]

/-- The map `send_open_channel_ack` writes. -/
def openChannelAck (channelId : UInt64) (status : UInt32) : Cbor :=
  .map [(key 1, .uint channelId),
    (key 2, .uint status.toUInt64),
    (key 3, .map [])]

/-! ## Clipboard -/

def requestContentFields : List (Field UInt64 Cbor RequestContent) :=
  [.keep 1 Cbor.asText fun mime out => { out with mime },
   .keep 2 Cbor.asU64 fun requestId out => { out with requestId }]

def parseRequestContent : Cbor → RequestContent := readMap requestContentFields ⟨0, ""⟩

def buildClipboardContent (requestId : UInt64) (mime : String) (bytes : List UInt8) :
    Cbor :=
  .map [(key 1, .uint requestId),
    (key 2, .text mime),
    (key 3, .bytes bytes),
    (key 4, .bool false)]

def clipboardContentFields : List (Field UInt64 Cbor ClipboardContent) :=
  [.keep 1 Cbor.asU64 fun requestId out => { out with requestId },
   .keep 2 Cbor.asText fun mime out => { out with mime },
   .keep 3 Cbor.asBytes fun bytes out => { out with bytes }]

def parseClipboardContent : Cbor → ClipboardContent :=
  readMap clipboardContentFields ⟨0, "", []⟩

/-! ## Chat -/

def chatMessageFields : List (Field UInt64 Cbor ChatMessage) :=
  [.keep 1 Cbor.asU64 fun msgId out => { out with msgId },
   .keep 2 Cbor.asText fun sender out => { out with sender },
   .keep 3 Cbor.asText fun body out => { out with body },
   .keep 4 Cbor.asU64 fun tsMs out => { out with tsMs }]

def parseChatMessage : Cbor → ChatMessage := readMap chatMessageFields ⟨0, "", "", 0⟩

def buildChatMessage (msgId : UInt64) (sender body : String) (tsMs : UInt64) : Cbor :=
  .map [(key 1, .uint msgId),
    (key 2, .text sender),
    (key 3, .text body),
    (key 4, .uint tsMs)]

def typingIndicatorFields : List (Field UInt64 Cbor TypingIndicator) :=
  [.keep 1 Cbor.asText fun sender out => { out with sender },
   .keep 2 Cbor.asText fun state out => { out with state }]

def parseTypingIndicator : Cbor → TypingIndicator :=
  readMap typingIndicatorFields ⟨"", ""⟩

structure ChatAttachmentMeta where
  msgId : UInt64
  sender : String
  mime : String
  len : Nat
  deriving DecidableEq, Repr

def chatAttachmentFields : List (Field UInt64 Cbor ChatAttachmentMeta) :=
  [.keep 1 Cbor.asU64 fun msgId out => { out with msgId },
   .keep 2 Cbor.asText fun sender out => { out with sender },
   .keep 3 Cbor.asText fun mime out => { out with mime },
   .keep 5 Cbor.asBytes fun bytes out => { out with len := bytes.length }]

def parseChatAttachmentMeta : Cbor → ChatAttachmentMeta :=
  readMap chatAttachmentFields ⟨0, "", "", 0⟩

/-! ## File -/

structure FileManifest where
  transferId : UInt64
  direction : String
  root : String
  entries : Nat
  chunkSize : UInt64
  deriving DecidableEq, Repr

def fileManifestFields : List (Field UInt64 Cbor FileManifest) :=
  [.keep 1 Cbor.asU64 fun transferId out => { out with transferId },
   .keep 2 Cbor.asText fun direction out => { out with direction },
   .keep 3 Cbor.asText fun root out => { out with root },
   .keep 4 Cbor.asArray fun items out => { out with entries := items.length },
   .keep 5 Cbor.asU64 fun chunkSize out => { out with chunkSize }]

def parseFileManifest : Cbor → FileManifest :=
  readMap fileManifestFields ⟨0, "", "", 0, 0⟩

/-! ## Credentials -/

/-- Compares without an early exit; the accumulator collects differing bits. -/
def constantTimeEq (a b : List UInt8) : Bool :=
  if a.length ≠ b.length then false
  else (a.zip b).foldl (fun diff pair => diff ||| (pair.1 ^^^ pair.2)) 0 == 0

theorem differing_eq_zero (pairs : List (UInt8 × UInt8)) (diff : UInt8) :
    pairs.foldl (fun diff pair => diff ||| (pair.1 ^^^ pair.2)) diff = 0 ↔
      diff = 0 ∧ ∀ pair ∈ pairs, pair.1 = pair.2 := by
  induction pairs generalizing diff with
  | nil => simp
  | cons pair pairs ih =>
      rw [List.foldl_cons, ih, UInt8.or_eq_zero_iff, UInt8.xor_eq_zero_iff]
      simp [and_assoc]

theorem constantTimeEq_iff {a b : List UInt8} : constantTimeEq a b = true ↔ a = b := by
  unfold constantTimeEq
  split
  · next hne =>
      simp only [Bool.false_eq_true, false_iff]
      rintro rfl
      exact hne rfl
  · next heq =>
      have hlen : a.length = b.length := by simpa using heq
      have hzip : List.Forall₂ Eq a b ↔ _ := List.forall₂_iff_zip
      rw [List.forall₂_eq_eq_eq] at hzip
      rw [beq_iff_eq, differing_eq_zero, hzip]
      simp [hlen]

/-! ## What each reader knows -/

theorem authRequestFields_separate : Separate authRequestFields := by
  simp [Separate, authRequestFields]

theorem openChannelFields_separate : Separate openChannelFields := by
  simp [Separate, openChannelFields]

theorem clipboardContentFields_separate : Separate clipboardContentFields := by
  simp [Separate, clipboardContentFields]

theorem chatMessageFields_separate : Separate chatMessageFields := by
  simp [Separate, chatMessageFields]

end OpenRD.Server
