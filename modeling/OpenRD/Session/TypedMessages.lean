import OpenRD.Server.Messages
import OpenRD.TestClient.Messages

/-!
# Typed messages against the hand-written readers

The derived serializers key their maps by text, the readers and builders written
by hand by integers.  A reader therefore skips every entry of a typed message, and
a derived decoder finds none of its fields in a map built by hand.
-/

namespace OpenRD.Session

open OpenRD.Foundation OpenRD.Proto OpenRD.Server

/-! ## Maps without integer keys -/

/-- A map none of whose keys is an unsigned integer. -/
def Unkeyed (v : Cbor) : Prop :=
  ∃ entries, v = .map entries ∧ ∀ entry ∈ entries, entry.1.asU64 = none

section Readers

variable {S : Type} {fields : List (Field UInt64 Cbor S)} {start : S} {v : Cbor}

theorem readFields_unkeyed {entries : List (Cbor × Cbor)}
    (h : ∀ entry ∈ entries, entry.1.asU64 = none) :
    readFields Cbor.asU64 fields start entries = start := by
  unfold readFields
  apply foldKeyed_unknown
  intro entry hmem key hkey
  have hnone := h entry hmem
  rw [hkey] at hnone
  cases hnone

theorem readMap_unkeyed (h : Unkeyed v) : readMap fields start v = start := by
  obtain ⟨entries, rfl, hkeys⟩ := h
  exact readFields_unkeyed hkeys

theorem readMapOr_unkeyed {notMap : String} (h : Unkeyed v) :
    readMapOr notMap fields start v = .ok start := by
  obtain ⟨entries, rfl, hkeys⟩ := h
  exact congrArg Except.ok (readFields_unkeyed hkeys)

end Readers

/-! ## What is read back of a typed message -/

/-- `v` is what the library reads back of the bytes it wrote for `sent`. -/
def Decoded (cib : Ciborium) (sent v : Cbor) : Prop :=
  ∃ payload, cib.intoWriter sent = .ok payload ∧ cib.fromReader payload = .ok v

def KeepsKeys (cib : Ciborium) (sent : Cbor) : Prop :=
  ∀ entries v, sent = .map entries → Decoded cib sent v →
    ∃ carrier, v = .map carrier ∧ carrier.map Prod.fst = entries.map Prod.fst

theorem keepsKeys_of_lossless {cib : Ciborium} {sent : Cbor} (h : cib.Lossless sent) :
    KeepsKeys cib sent := by
  intro entries v hsent hdecoded
  obtain ⟨payload, hwritten, hread⟩ := h
  obtain ⟨payload', hwritten', hread'⟩ := hdecoded
  cases hwritten.symm.trans hwritten'
  cases hread.symm.trans hread'
  exact ⟨entries, hsent, rfl⟩

theorem unkeyed_of_decoded {cib : Ciborium} {sent v : Cbor} (hsent : Unkeyed sent)
    (hkeys : KeepsKeys cib sent) (hdecoded : Decoded cib sent v) : Unkeyed v := by
  obtain ⟨entries, hmap, hnone⟩ := hsent
  obtain ⟨carrier, rfl, hsame⟩ := hkeys entries v hmap hdecoded
  refine ⟨carrier, rfl, ?_⟩
  intro entry hmem
  have hkey : entry.1 ∈ entries.map Prod.fst := by
    rw [← hsame]
    exact List.mem_map_of_mem hmem
  obtain ⟨entry', hmem', heq⟩ := List.mem_map.mp hkey
  rw [← heq]
  exact hnone entry' hmem'

theorem clientHello_unkeyed (hello : ClientHello) : Unkeyed hello.serialize := by
  refine ⟨_, rfl, ?_⟩
  cases hello.sessionIdHint with
  | none => simp [named, Cbor.asU64, Cbor.asInteger]
  | some hint => simp [named, Cbor.asU64, Cbor.asInteger]

theorem serverHello_unkeyed (hello : ServerHello) : Unkeyed hello.serialize :=
  ⟨_, rfl, by simp [named, Cbor.asU64, Cbor.asInteger]⟩

theorem chatMessage_unkeyed (message : ChatMessage) : Unkeyed message.serialize :=
  ⟨_, rfl, by simp [named, Cbor.asU64, Cbor.asInteger]⟩

theorem typingIndicator_unkeyed (typing : TypingIndicator) : Unkeyed typing.serialize :=
  ⟨_, rfl, by simp [named, Cbor.asU64, Cbor.asInteger]⟩

theorem chatAttachment_unkeyed (attachment : ChatAttachment) :
    Unkeyed attachment.serialize := by
  refine ⟨_, rfl, ?_⟩
  cases attachment.filename with
  | none => simp [named, Cbor.asU64, Cbor.asInteger]
  | some filename => simp [named, Cbor.asU64, Cbor.asInteger]

/-! ## Derived decoders -/

/-- The keys under which a derived decoder takes an entry for a field. -/
def IdentifiesField (index : Nat) (name : String) : Cbor → Prop
  | .tag _ inner => IdentifiesField index name inner
  | .text contents => contents = name
  | .bytes contents => contents = utf8 name
  | .integer n => n.value = index
  | _ => False

/-- `decode` succeeds on a map only if it finds an entry for each of the fields. -/
def NeedsFields {T : Type} (cib : Ciborium) (names : List String)
    (decode : List UInt8 → Except String T) : Prop :=
  ∀ payload entries value, cib.fromReader payload = .ok (.map entries) →
    decode payload = .ok value →
    ∀ index name, names[index]? = some name →
      ∃ entry ∈ entries, IdentifiesField index name entry.1

/-- The hand-written maps count from 1, so nothing in them stands for field 0. -/
theorem decode_ne_ok_of_keys {T : Type} {cib : Ciborium} {name : String}
    {names : List String} {decode : List UInt8 → Except String T}
    (hneeds : NeedsFields cib (name :: names) decode) {entries : List (Cbor × Cbor)}
    (hkeys : ∀ entry ∈ entries, ∃ n, n ≠ 0 ∧ entry.1 = key n)
    (hlossless : cib.Lossless (.map entries)) {payload : List UInt8}
    (hwritten : cib.intoWriter (.map entries) = .ok payload) (value : T) :
    decode payload ≠ .ok value := by
  intro hdecode
  obtain ⟨payload', hwritten', hread⟩ := hlossless
  cases hwritten.symm.trans hwritten'
  obtain ⟨entry, hmem, hfield⟩ := hneeds payload entries value hread hdecode 0 name rfl
  obtain ⟨n, hne, hkey⟩ := hkeys entry hmem
  rw [hkey] at hfield
  have hzero : (n.toUInt64.toNat : Int) = 0 := hfield
  apply hne
  apply UInt32.toNat_inj.mp
  simpa using hzero

/-! ## The readers on typed messages -/

/-- What `describe_server_hello` would print of the fields of `hello`. -/
def ownLines (hello : ServerHello) : List TestClient.HelloLine :=
  let caps := Capabilities.fromCbor hello.capabilities
  [.protocolVersion hello.protocolVersion.toUInt64,
    .serverName hello.serverName,
    .capabilities caps.profile caps.authMethods caps.displayCodecs,
    .sessionId (hexEncode hello.sessionId),
    .serverTime hello.serverTime]

theorem parseClientHello_unkeyed {v : Cbor} (h : Unkeyed v) :
    parseClientHello v = .error (.msg "ClientHello missing key 1 (protocol_version)") := by
  unfold parseClientHello
  rw [readMapOr_unkeyed h]
  rfl

theorem parseChatMessage_unkeyed {v : Cbor} (h : Unkeyed v) :
    parseChatMessage v = ⟨0, "", "", 0⟩ :=
  readMap_unkeyed h

theorem parseTypingIndicator_unkeyed {v : Cbor} (h : Unkeyed v) :
    parseTypingIndicator v = ⟨"", ""⟩ :=
  readMap_unkeyed h

theorem parseChatAttachmentMeta_unkeyed {v : Cbor} (h : Unkeyed v) :
    parseChatAttachmentMeta v = ⟨0, "", "", 0⟩ :=
  readMap_unkeyed h

theorem describeServerHello_unkeyed {v : Cbor} (h : Unkeyed v) :
    TestClient.describeServerHello v = Capabilities.default ∧
      TestClient.serverHelloLines v = [] :=
  ⟨readMap_unkeyed h, readMap_unkeyed h⟩

theorem buildServerHello_keys (protoV : UInt64) (serverName : String)
    (caps : Capabilities) (sessionId : Vector UInt8 16) (serverTime : UInt64) :
    ∃ entries, buildServerHello protoV serverName caps sessionId serverTime =
        .map entries ∧
      ∀ entry ∈ entries, ∃ n, n ≠ 0 ∧ entry.1 = key n := by
  refine ⟨_, rfl, ?_⟩
  simp only [List.forall_mem_cons, List.not_mem_nil, false_implies, implies_true, and_true]
  exact ⟨⟨1, by decide, rfl⟩, ⟨2, by decide, rfl⟩, ⟨3, by decide, rfl⟩,
    ⟨4, by decide, rfl⟩, ⟨5, by decide, rfl⟩⟩

theorem buildChatMessage_keys (msgId : UInt64) (sender body : String) (tsMs : UInt64) :
    ∃ entries, buildChatMessage msgId sender body tsMs = .map entries ∧
      ∀ entry ∈ entries, ∃ n, n ≠ 0 ∧ entry.1 = key n := by
  refine ⟨_, rfl, ?_⟩
  simp only [List.forall_mem_cons, List.not_mem_nil, false_implies, implies_true, and_true]
  exact ⟨⟨1, by decide, rfl⟩, ⟨2, by decide, rfl⟩, ⟨3, by decide, rfl⟩,
    ⟨4, by decide, rfl⟩⟩

/--
Which typed messages the hand-written readers recover: no `ClientHello` and no
`ServerHello`, and of the chat messages those whose fields are the readers'
defaults.  No map built by hand decodes as the typed message.
-/
theorem typed_messages_recovered_iff {cib : Ciborium} {client : ClientHello}
    {server : ServerHello} {message : ChatMessage} {typing : TypingIndicator}
    {attachment : ChatAttachment}
    (hkeys : ∀ sent ∈ [client.serialize, server.serialize, message.serialize,
      typing.serialize, attachment.serialize], KeepsKeys cib sent)
    {decodeServerHello : List UInt8 → Except String ServerHello}
    {decodeChatMessage : List UInt8 → Except String ChatMessage}
    (hserver : NeedsFields cib ["1", "2", "3", "4", "5"] decodeServerHello)
    (hchat : NeedsFields cib ["1", "2", "3", "4"] decodeChatMessage)
    {protoV : UInt64} {serverName : String} {caps : Capabilities}
    {sessionId : Vector UInt8 16} {serverTime : UInt64}
    {msgId : UInt64} {sender body : String} {tsMs : UInt64}
    (hbuiltServer :
      cib.Lossless (buildServerHello protoV serverName caps sessionId serverTime))
    (hbuiltChat : cib.Lossless (buildChatMessage msgId sender body tsMs)) :
    (∀ v, Decoded cib client.serialize v →
      parseClientHello v =
        .error (.msg "ClientHello missing key 1 (protocol_version)")) ∧
    (∀ v, Decoded cib server.serialize v →
      TestClient.serverHelloLines v ≠ ownLines server ∧
      (TestClient.describeServerHello v = Capabilities.fromCbor server.capabilities ↔
        Capabilities.fromCbor server.capabilities = Capabilities.default)) ∧
    (∀ v, Decoded cib message.serialize v →
      (parseChatMessage v = message ↔ message = ⟨0, "", "", 0⟩)) ∧
    (∀ v, Decoded cib typing.serialize v →
      (parseTypingIndicator v = typing ↔ typing = ⟨"", ""⟩)) ∧
    (∀ v, Decoded cib attachment.serialize v →
      (parseChatAttachmentMeta v =
          ⟨attachment.msgId, attachment.sender, attachment.mime,
            attachment.bytes.length⟩ ↔
        attachment.msgId = 0 ∧ attachment.sender = "" ∧ attachment.mime = "" ∧
          attachment.bytes = [])) ∧
    (∀ payload hello,
      cib.intoWriter (buildServerHello protoV serverName caps sessionId serverTime) =
        .ok payload → decodeServerHello payload ≠ .ok hello) ∧
    (∀ payload decoded,
      cib.intoWriter (buildChatMessage msgId sender body tsMs) = .ok payload →
        decodeChatMessage payload ≠ .ok decoded) := by
  simp only [List.forall_mem_cons, List.not_mem_nil, false_implies, implies_true,
    and_true] at hkeys
  obtain ⟨hclientKeys, hserverKeys, hmessageKeys, htypingKeys, hattachmentKeys⟩ := hkeys
  refine ⟨?_, ?_, ?_, ?_, ?_, ?_, ?_⟩
  · intro v hdecoded
    have hunkeyed := unkeyed_of_decoded (clientHello_unkeyed client) hclientKeys hdecoded
    exact parseClientHello_unkeyed hunkeyed
  · intro v hdecoded
    have hunkeyed := unkeyed_of_decoded (serverHello_unkeyed server) hserverKeys hdecoded
    obtain ⟨hcaps, hlines⟩ := describeServerHello_unkeyed hunkeyed
    rw [hcaps, hlines]
    exact ⟨by simp [ownLines], eq_comm⟩
  · intro v hdecoded
    have hunkeyed :=
      unkeyed_of_decoded (chatMessage_unkeyed message) hmessageKeys hdecoded
    rw [parseChatMessage_unkeyed hunkeyed]
    exact eq_comm
  · intro v hdecoded
    have hunkeyed :=
      unkeyed_of_decoded (typingIndicator_unkeyed typing) htypingKeys hdecoded
    rw [parseTypingIndicator_unkeyed hunkeyed]
    exact eq_comm
  · intro v hdecoded
    have hunkeyed :=
      unkeyed_of_decoded (chatAttachment_unkeyed attachment) hattachmentKeys hdecoded
    rw [parseChatAttachmentMeta_unkeyed hunkeyed, eq_comm]
    simp
  · intro payload hello hwritten
    obtain ⟨entries, hmap, hnonzero⟩ :=
      buildServerHello_keys protoV serverName caps sessionId serverTime
    rw [hmap] at hbuiltServer hwritten
    exact decode_ne_ok_of_keys hserver hnonzero hbuiltServer hwritten hello
  · intro payload decoded hwritten
    obtain ⟨entries, hmap, hnonzero⟩ := buildChatMessage_keys msgId sender body tsMs
    rw [hmap] at hbuiltChat hwritten
    exact decode_ne_ok_of_keys hchat hnonzero hbuiltChat hwritten decoded

/-! ## A derived decoder -/

def fieldNamed (name : String) (entries : List (Cbor × Cbor)) : Except String Cbor :=
  match entries.find? fun entry => entry.1.asText = some name with
  | some entry => .ok entry.2
  | none => .error s!"missing field {name}"

def decodeFields {T : Type} (cib : Ciborium) (names : List String)
    (build : List Cbor → Except String T) (payload : List UInt8) : Except String T := do
  match ← cib.fromReader payload with
  | .map entries => build (← names.mapM fun name => fieldNamed name entries)
  | _ => .error "expected map"

theorem fieldNamed_of_mapM {entries : List (Cbor × Cbor)} {names : List String}
    {values : List Cbor}
    (h : names.mapM (fun name => fieldNamed name entries) = .ok values) :
    ∀ name ∈ names, ∃ value, fieldNamed name entries = .ok value := by
  induction names generalizing values with
  | nil => simp
  | cons name names ih =>
      rw [List.mapM_cons, bind_eq_ok] at h
      obtain ⟨value, hfield, hrest⟩ := h
      obtain ⟨values', hvalues, -⟩ := bind_eq_ok.mp hrest
      rw [List.forall_mem_cons]
      exact ⟨⟨value, hfield⟩, ih hvalues⟩

theorem needsFields_decodeFields {T : Type} (cib : Ciborium) (names : List String)
    (build : List Cbor → Except String T) :
    NeedsFields cib names (decodeFields cib names build) := by
  intro payload entries value hread hdecode index name hname
  unfold decodeFields at hdecode
  rw [hread, ok_bind] at hdecode
  obtain ⟨values, hvalues, -⟩ := bind_eq_ok.mp hdecode
  obtain ⟨found, hfound⟩ :=
    fieldNamed_of_mapM hvalues name (List.mem_of_getElem? hname)
  unfold fieldNamed at hfound
  split at hfound
  · next entry hfind =>
      have htext : entry.1.asText = some name := by simpa using List.find?_some hfind
      refine ⟨entry, List.mem_of_find?_eq_some hfind, ?_⟩
      revert htext
      cases entry.1 <;> simp [Cbor.asText, IdentifiesField]
  · cases hfound

def serverHelloOf : List Cbor → Except String ServerHello
  | [version, name, capabilities, id, time] =>
      match version.asU64, name.asText, id.asBytes, time.asU64 with
      | some protocolVersion, some serverName, some sessionId, some serverTime =>
          if protocolVersion.toNat < 2 ^ 32 then
            .ok ⟨protocolVersion.toUInt32, serverName, capabilities, sessionId,
              serverTime⟩
          else .error "invalid value"
      | _, _, _, _ => .error "invalid type"
  | _ => .error "invalid length"

def chatMessageOf : List Cbor → Except String ChatMessage
  | [id, sender, body, time] =>
      match id.asU64, sender.asText, body.asText, time.asU64 with
      | some msgId, some sender, some body, some tsMs => .ok ⟨msgId, sender, body, tsMs⟩
      | _, _, _, _ => .error "invalid type"
  | _ => .error "invalid length"

theorem decodeFields_serialize {cib : Ciborium} (server : ServerHello)
    (message : ChatMessage) {payload payload' : List UInt8}
    (hserver : cib.fromReader payload = .ok server.serialize)
    (hmessage : cib.fromReader payload' = .ok message.serialize) :
    decodeFields cib ["1", "2", "3", "4", "5"] serverHelloOf payload = .ok server ∧
      decodeFields cib ["1", "2", "3", "4"] chatMessageOf payload' = .ok message := by
  unfold decodeFields
  rw [hserver, hmessage]
  have hfits := server.protocolVersion.toNat_lt
  constructor
  · simp [ServerHello.serialize, named, fieldNamed, serverHelloOf, pure, Except.pure]
    exact hfits
  · simp [ChatMessage.serialize, named, fieldNamed, chatMessageOf, pure, Except.pure]

/-- The library's own encoding, with the decoders above, on one value of each type. -/
theorem typed_messages_recovered_iff_sample :
    let client : ClientHello := ⟨0, "client", Capabilities.default.toCbor, none⟩
    let server : ServerHello := ⟨0, "server", Capabilities.default.toCbor, [1, 2], 5⟩
    let message : ChatMessage := ⟨7, "alice", "hello", 1⟩
    let typing : TypingIndicator := ⟨"alice", "start"⟩
    let attachment : ChatAttachment := ⟨8, "alice", "image/png", some "a.png", [1, 2, 3]⟩
    let cib := Ciborium.rfc8949
    let decodeServerHello := decodeFields cib ["1", "2", "3", "4", "5"] serverHelloOf
    let decodeChatMessage := decodeFields cib ["1", "2", "3", "4"] chatMessageOf
    let builtServer := buildServerHello 0 "openrd-server/0.0.1" Capabilities.default
      (Vector.replicate 16 0) 0
    let builtChat := buildChatMessage 7 "alice" "hello" 1
    (∀ v, Decoded cib client.serialize v →
      parseClientHello v =
        .error (.msg "ClientHello missing key 1 (protocol_version)")) ∧
    (∀ v, Decoded cib server.serialize v →
      TestClient.serverHelloLines v ≠ ownLines server ∧
      (TestClient.describeServerHello v = Capabilities.fromCbor server.capabilities ↔
        Capabilities.fromCbor server.capabilities = Capabilities.default)) ∧
    (∀ v, Decoded cib message.serialize v →
      (parseChatMessage v = message ↔ message = ⟨0, "", "", 0⟩)) ∧
    (∀ v, Decoded cib typing.serialize v →
      (parseTypingIndicator v = typing ↔ typing = ⟨"", ""⟩)) ∧
    (∀ v, Decoded cib attachment.serialize v →
      (parseChatAttachmentMeta v =
          ⟨attachment.msgId, attachment.sender, attachment.mime,
            attachment.bytes.length⟩ ↔
        attachment.msgId = 0 ∧ attachment.sender = "" ∧ attachment.mime = "" ∧
          attachment.bytes = [])) ∧
    (∀ payload hello, cib.intoWriter builtServer = .ok payload →
      decodeServerHello payload ≠ .ok hello) ∧
    (∀ payload decoded, cib.intoWriter builtChat = .ok payload →
      decodeChatMessage payload ≠ .ok decoded) := by
  refine typed_messages_recovered_iff ?_ (needsFields_decodeFields _ _ _)
    (needsFields_decodeFields _ _ _) ?_ ?_
  · simp only [List.forall_mem_cons, List.not_mem_nil, false_implies, implies_true,
      and_true]
    refine ⟨?_, ?_, ?_, ?_, ?_⟩ <;>
      exact keepsKeys_of_lossless (Ciborium.rfc8949_lossless (by decide +kernel))
  · exact Ciborium.rfc8949_lossless (by decide +kernel)
  · exact Ciborium.rfc8949_lossless (by decide +kernel)

/-- A typed hello the server refuses, and a typed chat message it reads as blank. -/
theorem typed_messages_not_recovered :
    (∃ v, Decoded Ciborium.rfc8949
        (ClientHello.serialize ⟨0, "client", Capabilities.default.toCbor, none⟩) v ∧
      parseClientHello v =
        .error (.msg "ClientHello missing key 1 (protocol_version)")) ∧
    ∃ v, Decoded Ciborium.rfc8949 (ChatMessage.serialize ⟨7, "alice", "hello", 1⟩) v ∧
      parseChatMessage v ≠ ⟨7, "alice", "hello", 1⟩ := by
  constructor
  · obtain ⟨payload, hwritten, hread⟩ : Ciborium.rfc8949.Lossless
        (ClientHello.serialize ⟨0, "client", Capabilities.default.toCbor, none⟩) :=
      Ciborium.rfc8949_lossless (by decide +kernel)
    exact ⟨_, ⟨payload, hwritten, hread⟩, rfl⟩
  · obtain ⟨payload, hwritten, hread⟩ : Ciborium.rfc8949.Lossless
        (ChatMessage.serialize ⟨7, "alice", "hello", 1⟩) :=
      Ciborium.rfc8949_lossless (by decide +kernel)
    exact ⟨_, ⟨payload, hwritten, hread⟩, by decide⟩

end OpenRD.Session
