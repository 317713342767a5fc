import OpenRD.Server.Messages
import OpenRD.TestClient.Messages

/-!
# One peer's builders against the other's parsers
-/

namespace OpenRD.Session

open OpenRD.Foundation OpenRD.Proto

/--
`parse` finds the same result in every map that carries the entries of `sent`, in
any order and among any entries under keys outside `known`.
-/
def Recovers {α : Type} (known : List UInt64) (sent : Cbor) (parse : Cbor → α)
    (result : α) : Prop :=
  ∀ v, ExtendsMap known sent v → parse v = result

section Recovers

variable {S α : Type} {fields : List (Field UInt64 Cbor S)} {sent : Cbor} {start : S}

theorem recovers_of_readMap {result : S} (hseparate : Separate fields)
    (hdistinct : DistinctlyKeyed sent) (hread : readMap fields start sent = result) :
    Recovers (fields.map Field.key) sent (readMap fields start) result := by
  intro v h
  rw [readMap_extendsMap hseparate hdistinct h, hread]

theorem recovers_of_readMapOr {notMap : String} {finish : S → Except Error α}
    {result : Except Error α} (hseparate : Separate fields)
    (hdistinct : DistinctlyKeyed sent)
    (hread : (readMapOr notMap fields start sent >>= finish) = result) :
    Recovers (fields.map Field.key) sent
      (fun v => readMapOr notMap fields start v >>= finish) result := by
  intro v h
  simp only [readMapOr_extendsMap notMap hseparate hdistinct h, hread]

theorem Recovers.of_lossless {known : List UInt64} {parse : Cbor → α} {result : α}
    {cib : Ciborium} (h : Recovers known sent parse result) (hlossless : cib.Lossless sent)
    (hmap : DistinctlyKeyed sent) :
    ∃ payload v, cib.intoWriter sent = .ok payload ∧ cib.fromReader payload = .ok v ∧
      parse v = result := by
  obtain ⟨payload, hwrite, hread⟩ := hlossless
  obtain ⟨entries, rfl, -⟩ := hmap
  exact ⟨payload, _, hwrite, hread, h _ (ExtendsMap.refl known entries)⟩

end Recovers

/-! ## Distinct keys -/

theorem authRequest_distinctlyKeyed (method : String) (credential : List UInt8) :
    DistinctlyKeyed (TestClient.authRequest method credential) :=
  ⟨_, rfl, by simp [DistinctKeys]⟩

theorem buildAuthResult_distinctlyKeyed (status : UInt32) (permission identity : String) :
    DistinctlyKeyed (Server.buildAuthResult status permission identity) :=
  ⟨_, rfl, by simp [DistinctKeys]⟩

theorem openChannel_distinctlyKeyed (kind channelId streamId : UInt64) :
    DistinctlyKeyed (TestClient.openChannel kind channelId streamId) :=
  ⟨_, rfl, by simp [DistinctKeys]⟩

theorem openChannelAnnounce_distinctlyKeyed (kind channelId streamId : UInt64) :
    DistinctlyKeyed (Server.openChannelAnnounce kind channelId streamId) :=
  openChannel_distinctlyKeyed kind channelId streamId

theorem openChannelAck_distinctlyKeyed (channelId : UInt64) (status : UInt32) :
    DistinctlyKeyed (Server.openChannelAck channelId status) :=
  ⟨_, rfl, by simp [DistinctKeys]⟩

theorem buildClipboardContent_distinctlyKeyed (requestId : UInt64) (mime : String)
    (bytes : List UInt8) :
    DistinctlyKeyed (Server.buildClipboardContent requestId mime bytes) :=
  ⟨_, rfl, by simp [DistinctKeys]⟩

theorem buildChatMessage_distinctlyKeyed (msgId : UInt64) (sender body : String)
    (tsMs : UInt64) :
    DistinctlyKeyed (Server.buildChatMessage msgId sender body tsMs) :=
  ⟨_, rfl, by simp [DistinctKeys]⟩

/-! ## The pairs -/

theorem parseAuthRequest_recovers (method : String) (credential : List UInt8) :
    Recovers [1, 2] (TestClient.authRequest method credential) Server.parseAuthRequest
      (.ok (method, credential)) := by
  refine recovers_of_readMapOr Server.authRequestFields_separate
    (authRequest_distinctlyKeyed method credential) ?_
  simp [TestClient.authRequest, readMapOr, readFields, storeField,
    Server.authRequestFields, Field.replace, okOrElse]

theorem parseAuthResult_recovers (status : UInt32) (permission identity : String) :
    Recovers [1, 2, 3] (Server.buildAuthResult status permission identity)
      TestClient.parseAuthResult ⟨status, permission, identity⟩ := by
  refine recovers_of_readMap TestClient.authResultFields_separate
    (buildAuthResult_distinctlyKeyed status permission identity) ?_
  simp [Server.buildAuthResult, readMap, readFields, storeField,
    TestClient.authResultFields, Field.keep]

theorem parseOpenChannel_recovers (kind channelId streamId : UInt64) :
    Recovers [1, 2, 3] (TestClient.openChannel kind channelId streamId)
      Server.parseOpenChannel (.ok ⟨kind, channelId, streamId⟩) := by
  refine recovers_of_readMapOr Server.openChannelFields_separate
    (openChannel_distinctlyKeyed kind channelId streamId) ?_
  simp [TestClient.openChannel, readMapOr, readFields, storeField,
    Server.openChannelFields, Field.replace, Field.keep, okOrElse]

theorem parseOpenChannel_announce_recovers (kind channelId streamId : UInt64) :
    Recovers [1, 2, 3] (Server.openChannelAnnounce kind channelId streamId)
      TestClient.parseOpenChannel ⟨kind, channelId, streamId⟩ := by
  refine recovers_of_readMap TestClient.openChannelFields_separate
    (openChannelAnnounce_distinctlyKeyed kind channelId streamId) ?_
  simp [Server.openChannelAnnounce, readMap, readFields, storeField,
    TestClient.openChannelFields, Field.keep]

theorem parseOpenChannelAck_recovers (channelId : UInt64) (status : UInt32) :
    Recovers [1, 2] (Server.openChannelAck channelId status)
      TestClient.parseOpenChannelAck ⟨channelId, status⟩ := by
  refine recovers_of_readMap TestClient.openChannelAckFields_separate
    (openChannelAck_distinctlyKeyed channelId status) ?_
  simp [Server.openChannelAck, readMap, readFields, storeField,
    TestClient.openChannelAckFields, Field.keep]

theorem parseClipboardContent_recovers (requestId : UInt64) (mime : String)
    (bytes : List UInt8) :
    Recovers [1, 2, 3] (Server.buildClipboardContent requestId mime bytes)
      TestClient.parseClipboardContent ⟨requestId, mime, bytes⟩ := by
  refine recovers_of_readMap TestClient.clipboardContentFields_separate
    (buildClipboardContent_distinctlyKeyed requestId mime bytes) ?_
  simp [Server.buildClipboardContent, readMap, readFields, storeField,
    TestClient.clipboardContentFields, Field.keep]

theorem parseChatMessage_recovers (msgId : UInt64) (sender body : String)
    (tsMs : UInt64) :
    Recovers [1, 2, 3, 4] (Server.buildChatMessage msgId sender body tsMs)
      Server.parseChatMessage ⟨msgId, sender, body, tsMs⟩ := by
  refine recovers_of_readMap Server.chatMessageFields_separate
    (buildChatMessage_distinctlyKeyed msgId sender body tsMs) ?_
  simp [Server.buildChatMessage, readMap, readFields, storeField,
    Server.chatMessageFields, Field.keep]

theorem parseChatMessageClient_recovers (msgId : UInt64) (sender body : String)
    (tsMs : UInt64) :
    Recovers [1, 2, 3] (Server.buildChatMessage msgId sender body tsMs)
      TestClient.parseChatMessageClient ⟨msgId, sender, body⟩ := by
  refine recovers_of_readMap TestClient.chatMessageFields_separate
    (buildChatMessage_distinctlyKeyed msgId sender body tsMs) ?_
  simp [Server.buildChatMessage, readMap, readFields, storeField,
    TestClient.chatMessageFields, Field.keep]

/--
For every pair of a builder and the other peer's parser, the parser recovers the
fields from any map that extends the builder's, and from the bytes a sender emits.
-/
theorem message_codecs_recover :
    (∀ method credential, Recovers [1, 2] (TestClient.authRequest method credential)
      Server.parseAuthRequest (.ok (method, credential))) ∧
    (∀ status permission identity, Recovers [1, 2, 3]
      (Server.buildAuthResult status permission identity)
      TestClient.parseAuthResult ⟨status, permission, identity⟩) ∧
    (∀ kind channelId streamId, Recovers [1, 2, 3]
      (TestClient.openChannel kind channelId streamId)
      Server.parseOpenChannel (.ok ⟨kind, channelId, streamId⟩)) ∧
    (∀ kind channelId streamId, Recovers [1, 2, 3]
      (Server.openChannelAnnounce kind channelId streamId)
      TestClient.parseOpenChannel ⟨kind, channelId, streamId⟩) ∧
    (∀ channelId status, Recovers [1, 2] (Server.openChannelAck channelId status)
      TestClient.parseOpenChannelAck ⟨channelId, status⟩) ∧
    (∀ requestId mime bytes, Recovers [1, 2, 3]
      (Server.buildClipboardContent requestId mime bytes)
      TestClient.parseClipboardContent ⟨requestId, mime, bytes⟩) ∧
    (∀ msgId sender body tsMs, Recovers [1, 2, 3, 4]
      (Server.buildChatMessage msgId sender body tsMs)
      Server.parseChatMessage ⟨msgId, sender, body, tsMs⟩) ∧
    (∀ msgId sender body tsMs, Recovers [1, 2, 3]
      (Server.buildChatMessage msgId sender body tsMs)
      TestClient.parseChatMessageClient ⟨msgId, sender, body⟩) ∧
    (∀ (cib : Ciborium) method credential,
      cib.Lossless (TestClient.authRequest method credential) →
      ∃ payload v, TestClient.encodeAuthRequest cib method credential = .ok payload ∧
        cib.fromReader payload = .ok v ∧
        Server.parseAuthRequest v = .ok (method, credential)) ∧
    (∀ (cib : Ciborium) kind channelId streamId,
      cib.Lossless (TestClient.openChannel kind channelId streamId) →
      ∃ payload v,
        TestClient.encodeOpenChannel cib kind channelId streamId = .ok payload ∧
        cib.fromReader payload = .ok v ∧
        Server.parseOpenChannel v = .ok ⟨kind, channelId, streamId⟩) := by
  refine ⟨parseAuthRequest_recovers, parseAuthResult_recovers,
    parseOpenChannel_recovers, parseOpenChannel_announce_recovers,
    parseOpenChannelAck_recovers, parseClipboardContent_recovers,
    parseChatMessage_recovers, parseChatMessageClient_recovers, ?_, ?_⟩
  · intro cib method credential hlossless
    obtain ⟨payload, v, hwrite, hread, hparse⟩ :=
      (parseAuthRequest_recovers method credential).of_lossless hlossless
        (authRequest_distinctlyKeyed method credential)
    refine ⟨payload, v, ?_, hread, hparse⟩
    rw [TestClient.encodeAuthRequest, hwrite, TestClient.expectWritten]
  · intro cib kind channelId streamId hlossless
    obtain ⟨payload, v, hwrite, hread, hparse⟩ :=
      (parseOpenChannel_recovers kind channelId streamId).of_lossless hlossless
        (openChannel_distinctlyKeyed kind channelId streamId)
    refine ⟨payload, v, ?_, hread, hparse⟩
    rw [TestClient.encodeOpenChannel, hwrite, TestClient.expectWritten]

end OpenRD.Session
