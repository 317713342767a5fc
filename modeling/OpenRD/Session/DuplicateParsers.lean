import OpenRD.Server.Messages
import OpenRD.TestClient.Messages

/-!
# Parsers that both programs have a copy of

The server's parser of `OpenChannel` overwrites a field with whatever a known key
carries, the test client's keeps what it had when the value is of the wrong type.
What the two have read so far then differs, but only in fields the server has lost;
it accepts a map whose last value under each required key is a good one, and there
they have read the same.
-/

namespace OpenRD.Session

open OpenRD.Foundation OpenRD.Proto

section Readers

variable {S S' : Type} {fields : List (Field UInt64 Cbor S)}
  {fields' : List (Field UInt64 Cbor S')} {R : S → S' → Prop} {start : S} {start' : S'}

theorem readMap_related (h : Simulates R fields fields') (hstart : R start start')
    (v : Cbor) : R (readMap fields start v) (readMap fields' start' v) := by
  unfold readMap
  cases v.asMap with
  | none => exact hstart
  | some map => exact h.readFields Cbor.asU64 hstart map

theorem readMapOr_related {notMap : String} {read : S} {v : Cbor}
    (h : Simulates R fields fields') (hstart : R start start')
    (hread : readMapOr notMap fields start v = .ok read) :
    R read (readMap fields' start' v) := by
  unfold readMapOr at hread
  unfold readMap
  cases hmap : v.asMap with
  | none =>
      rw [hmap] at hread
      cases hread
  | some map =>
      rw [hmap] at hread
      cases hread
      exact h.readFields Cbor.asU64 hstart map

end Readers

/-! ## Open channel -/

/-- What the strict parser still holds is what the lenient one has. -/
structure Holds (strict : Server.OpenChannelFields) (lenient : OpenChannel) : Prop where
  kind : ∀ kind, strict.kind = some kind → lenient.kind = kind
  channelId : ∀ channelId, strict.channelId = some channelId → lenient.channelId = channelId
  streamId : strict.streamId = lenient.streamId

theorem openChannelFields_simulates :
    Simulates Holds Server.openChannelFields TestClient.openChannelFields := by
  refine .cons rfl ?_ (.cons rfl ?_ (.cons rfl ?_ .nil))
  · intro value strict lenient h
    apply Field.related_replace_keep
    · intro content
      exact { h with kind := fun kind hkind => Option.some.inj hkind }
    · exact { h with kind := nofun }
  · intro value strict lenient h
    apply Field.related_replace_keep
    · intro content
      exact { h with channelId := fun channelId hid => Option.some.inj hid }
    · exact { h with channelId := nofun }
  · intro value strict lenient h
    apply Field.related_keep
    · intro content
      exact { h with streamId := rfl }
    · exact h

theorem parseOpenChannel_agrees {v : Cbor} {opened : OpenChannel}
    (h : Server.parseOpenChannel v = .ok opened) : TestClient.parseOpenChannel v = opened := by
  unfold Server.parseOpenChannel at h
  cases hread : readMapOr "OpenChannel not a map" Server.openChannelFields ⟨none, none, 0⟩ v with
  | error error =>
      rw [hread] at h
      cases h
  | ok strict =>
      have hstart : Holds ⟨none, none, 0⟩ ⟨0, 0, 0⟩ :=
        ⟨nofun, nofun, rfl⟩
      have hholds := readMapOr_related openChannelFields_simulates hstart hread
      rw [hread] at h
      obtain ⟨kind, channelId, streamId⟩ := strict
      cases kind with
      | none => cases h
      | some kind =>
          cases channelId with
          | none => cases h
          | some channelId =>
              cases h
              exact congr (congrArg₂ OpenChannel.mk (hholds.kind kind rfl)
                (hholds.channelId channelId rfl)) hholds.streamId.symm

/-! ## Clipboard and chat -/

theorem parseClipboardContent_agrees (v : Cbor) :
    Server.parseClipboardContent v = TestClient.parseClipboardContent v := rfl

def Shows (message : ChatMessage) (shown : TestClient.ChatMessageClient) : Prop :=
  shown = ⟨message.msgId, message.sender, message.body⟩

/-- The server also reads a time, which the client never asks for. -/
theorem chatMessageFields_simulates :
    Simulates Shows Server.chatMessageFields TestClient.chatMessageFields := by
  refine .cons rfl ?_ (.cons rfl ?_ (.cons rfl ?_ (.skip List.not_mem_nil ?_ .nil)))
  · rintro value message _ rfl
    apply Field.related_keep
    · exact fun content => rfl
    · rfl
  · rintro value message _ rfl
    apply Field.related_keep
    · exact fun content => rfl
    · rfl
  · rintro value message _ rfl
    apply Field.related_keep
    · exact fun content => rfl
    · rfl
  · rintro value message _ rfl
    apply Field.related_keep_alone
    · exact fun content => rfl
    · rfl

theorem parseChatMessageClient_agrees (v : Cbor) :
    Shows (Server.parseChatMessage v) (TestClient.parseChatMessageClient v) := by
  apply readMap_related chatMessageFields_simulates
  rfl

/-! ## On every value -/

/--
On any value at all: what the server makes of an `OpenChannel` it accepts the test
client makes of it too, and both read the same in clipboard contents and chat
messages.
-/
theorem duplicateParsers_agree (v : Cbor) :
    (∀ opened, Server.parseOpenChannel v = .ok opened →
      TestClient.parseOpenChannel v = opened) ∧
    Server.parseClipboardContent v = TestClient.parseClipboardContent v ∧
    TestClient.parseChatMessageClient v =
      ⟨(Server.parseChatMessage v).msgId, (Server.parseChatMessage v).sender,
        (Server.parseChatMessage v).body⟩ :=
  ⟨fun _ => parseOpenChannel_agrees, parseClipboardContent_agrees v,
    parseChatMessageClient_agrees v⟩

/-- An ill-typed kind between two good ones, under keys of several kinds. -/
theorem duplicateParsers_agree_overwritten :
    Server.parseOpenChannel (.map [(key 1, .uint 2), (.text "1", .uint 9),
      (key 1, .text ""), (key 2, .uint 5), (key 1, .uint 3)]) = .ok ⟨3, 5, 0⟩ ∧
    TestClient.parseOpenChannel (.map [(key 1, .uint 2), (.text "1", .uint 9),
      (key 1, .text ""), (key 2, .uint 5), (key 1, .uint 3)]) = ⟨3, 5, 0⟩ :=
  have hserver : Server.parseOpenChannel (.map [(key 1, .uint 2), (.text "1", .uint 9),
      (key 1, .text ""), (key 2, .uint 5), (key 1, .uint 3)]) = .ok ⟨3, 5, 0⟩ := by decide
  ⟨hserver, (duplicateParsers_agree _).1 _ hserver⟩

end OpenRD.Session
