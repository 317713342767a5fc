import OpenRD.Proto.CapabilityEntries

/-!
# Capabilities from any conforming encoder

Entries may come in any order, and entries that this version does not know may
stand among them, in the capability map as in the chat map inside it.
-/

namespace OpenRD.Proto

open OpenRD.Foundation

namespace Capabilities

/-- The entries with `chat` for what is under key 16. -/
def withChat (chat : Cbor) (entries : List (Cbor × Cbor)) : List (Cbor × Cbor) :=
  entries.map fun entry =>
    if entry.1.asU64 = some 16 then (entry.1, chat) else entry

/--
`v` holds the entries of `caps.toCbor` and its chat map those of the chat map, each in
any order and among entries under keys the reader does not know.
-/
def Reencodes (caps : Capabilities) (v : Cbor) : Prop :=
  ∃ entries chat chat', caps.toCbor = .map entries ∧ (key 16, chat) ∈ entries ∧
    ExtendsMap (chatFields.map Field.key) chat chat' ∧
    ExtendsMap (fields.map Field.key) (.map (withChat chat' entries)) v

/-- The entries of `caps.toCbor`, with `chat` as the chat map. -/
def sentEntries (caps : Capabilities) (chat : Cbor) : List (Cbor × Cbor) :=
  match caps.toCbor with
  | .map entries => withChat chat entries
  | _ => []

theorem distinctlyKeyed_sentEntries (caps : Capabilities) (chat : Cbor) :
    DistinctlyKeyed (.map (sentEntries caps chat)) := by
  refine ⟨_, rfl, ?_⟩
  simp [DistinctKeys, sentEntries, toCbor, withChat]

theorem fromCbor_sentEntries {caps : Capabilities} {chat : Cbor}
    (hchat : ∀ state, storeField fields 16 chat state =
      { state with
        chatEnabled := caps.chatEnabled
        chatMaxAttachment := caps.chatMaxAttachment }) :
    fromCbor (.map (sentEntries caps chat)) = caps := by
  simp [fromCbor, sentEntries, toCbor, withChat, readMap, readFields_cons, hchat]
  -- the rows other than the chat row meet the values that `toCbor` wrote for them
  simp [storeField, fields, Field.keep, Field.replace]

/-- The chat map that `caps.toCbor` holds under key 16. -/
def sentChat (caps : Capabilities) : Cbor :=
  .map [(key 1, .bool caps.chatEnabled), (key 2, .uint caps.chatMaxAttachment.toUInt64)]

theorem mem_toCbor_chat {caps : Capabilities} {entries : List (Cbor × Cbor)} {chat : Cbor}
    (hentries : caps.toCbor = .map entries) :
    (key 16, chat) ∈ entries ↔ chat = caps.sentChat := by
  cases hentries
  simp [key_inj, sentChat]

theorem storeChat_reencoded {caps : Capabilities} {chat : Cbor}
    (h : ExtendsMap (chatFields.map Field.key) caps.sentChat chat) (state : Capabilities) :
    storeField fields 16 chat state =
      { state with
        chatEnabled := caps.chatEnabled
        chatMaxAttachment := caps.chatMaxAttachment } := by
  have hdistinct : DistinctlyKeyed caps.sentChat := ⟨_, rfl, by simp [DistinctKeys]⟩
  obtain ⟨entries, carrier, hentries, rfl, hread⟩ :=
    readFields_extendsMap chatFields_separate hdistinct h state
  cases hentries
  refine Eq.trans hread ?_
  simp [readChat_eq, chatFlags, chatNumbers, readUnder]

theorem reencodes_toCbor (caps : Capabilities) : Reencodes caps caps.toCbor := by
  refine ⟨_, caps.sentChat, caps.sentChat, rfl, (mem_toCbor_chat rfl).mpr rfl, .refl _ _, ?_⟩
  simp [toCbor, withChat, sentChat, ExtendsMap.refl]

/-- One more entry, and then all of them backwards. -/
def reversedMap (unknown : Cbor × Cbor) : Cbor → Cbor
  | .map entries => .map (entries ++ [unknown]).reverse
  | v => v

theorem extendsMap_reversedMap {known : List UInt64} {unknown : Cbor × Cbor}
    (h : ∀ n ∈ known, unknown.1.asU64 ≠ some n) (entries : List (Cbor × Cbor)) :
    ExtendsMap known (.map entries) (reversedMap unknown (.map entries)) := by
  refine ⟨entries, [unknown], _, rfl, rfl, fun entry hmem n hknown hkey => ?_,
    List.reverse_perm _⟩
  rw [List.mem_singleton.mp hmem] at hkey
  exact h n hknown (by rw [hkey, Cbor.asU64_uint])

def reversedChat (caps : Capabilities) : Cbor :=
  reversedMap (.text "vendor", .null) caps.sentChat

/-- The capabilities as an encoder may write them that counts down and knows more keys. -/
def reversed (caps : Capabilities) : Cbor :=
  reversedMap (key 99, .bool true) (.map (sentEntries caps caps.reversedChat))

theorem reencodes_reversed (caps : Capabilities) : Reencodes caps caps.reversed := by
  refine ⟨_, caps.sentChat, caps.reversedChat, rfl, (mem_toCbor_chat rfl).mpr rfl,
    extendsMap_reversedMap ?_ _, extendsMap_reversedMap ?_ _⟩
  · simp [chatFields, Cbor.asU64, Cbor.asInteger]
  · simp [fields]

theorem fromCbor_of_reencodes {caps : Capabilities} {v : Cbor} (h : Reencodes caps v) :
    fromCbor v = caps := by
  obtain ⟨entries, chat, chat', hentries, hmem, hchat, hv⟩ := h
  rw [(mem_toCbor_chat hentries).mp hmem] at hchat
  have hsent : withChat chat' entries = sentEntries caps chat' := by
    simp only [sentEntries, hentries]
  rw [hsent] at hv
  calc fromCbor v
      = fromCbor (.map (sentEntries caps chat')) :=
        readMap_extendsMap fields_separate (distinctlyKeyed_sentEntries caps chat') hv _
    _ = caps := fromCbor_sentEntries (storeChat_reencoded hchat)

/-- Whatever conforming encoder wrote them, the capabilities arrive as they were sent. -/
theorem fromCbor_reencoded (caps : Capabilities) :
    fromCbor caps.toCbor = caps ∧ ∀ v, Reencodes caps v → fromCbor v = caps :=
  ⟨fromCbor_toCbor caps, fun _ => fromCbor_of_reencodes⟩

theorem fromCbor_reversed :
    Reencodes .default (reversed .default) ∧ fromCbor (reversed .default) = .default :=
  ⟨reencodes_reversed .default,
    (fromCbor_reencoded .default).2 _ (reencodes_reversed .default)⟩

end Capabilities

end OpenRD.Proto
