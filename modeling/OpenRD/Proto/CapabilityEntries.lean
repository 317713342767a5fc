import OpenRD.Proto.Capabilities

/-!
# The entries of a capability map, one key at a time

Every key of the map decides its own part of the capabilities, and no other key does.
-/

namespace OpenRD.Proto

open OpenRD.Foundation

namespace Capabilities

/-! ## The chat map -/

def chatFlags (chat : List (Cbor × Cbor)) : List Bool :=
  readUnder Cbor.asU64 1 Cbor.asBool chat

def chatNumbers (chat : List (Cbor × Cbor)) : List UInt64 :=
  readUnder Cbor.asU64 2 readU64 chat

theorem readChat_eq (caps : Capabilities) (chat : List (Cbor × Cbor)) :
    readFields Cbor.asU64 chatFields caps chat =
      { caps with
        chatEnabled := (chatFlags chat).getLast?.getD caps.chatEnabled
        chatMaxAttachment := ((chatNumbers chat).getLast?.map
          UInt64.toUInt32).getD caps.chatMaxAttachment } := by
  induction chat generalizing caps with
  | nil => rfl
  | cons entry chat ih =>
      simp only [readFields_cons, chatFlags, chatNumbers, readUnder_cons]
      cases hkey : entry.1.asU64 with
      | none => simpa [chatFlags, chatNumbers] using ih caps
      | some key =>
          rw [ih]
          by_cases hflag : key = 1
          · subst hflag
            cases hcast : entry.2.asBool <;>
              simp [storeField, chatFields, Field.keep, hcast, chatFlags, chatNumbers,
                List.getLast?_cons]
          · by_cases hnumber : key = 2
            · subst hnumber
              cases hcast : readU64 entry.2 <;>
                simp [storeField, chatFields, Field.keep, hcast, chatFlags, chatNumbers,
                  List.getLast?_cons]
            · have hstore : storeField chatFields key entry.2 caps = caps :=
                storeField_of_not_mem (by simp [chatFields, hflag, hnumber]) _ _
              simp [hstore, hflag, hnumber, chatFlags, chatNumbers]

theorem storeField_chat (value : Cbor) (caps : Capabilities) :
    storeField fields 16 value caps =
      match value.asMap with
      | some chat => readFields Cbor.asU64 chatFields caps chat
      | none => caps := by
  have hfind : fields.find? (fun field => field.key = 16) =
      some (.keep 16 Cbor.asMap fun chat out =>
        readFields Cbor.asU64 chatFields out chat) := rfl
  simp only [storeField, hfind, Field.keep]
  cases value.asMap <;> rfl

/-! ## Different keys, different parts -/

theorem chatFields_separate : Separate chatFields := by
  simp [Separate, chatFields]

theorem fields_separate : Separate fields := by
  simp [Separate, fields, readChat_eq]

/-! ## One part of the decoded capabilities -/

def entriesOf (v : Cbor) : List (Cbor × Cbor) := v.asMap.getD []

theorem fromCbor_eq (v : Cbor) :
    fromCbor v = readFields Cbor.asU64 fields default (entriesOf v) := by
  unfold fromCbor readMap entriesOf
  cases v.asMap with
  | none => rfl
  | some map => rfl

theorem part_fromCbor {T P : Type} (key : UInt64) (part : Capabilities → P)
    {cast : Cbor → Option T} {set : T → Capabilities → Capabilities} {view : T → P}
    (hfind : fields.find? (fun field => field.key = key) = some (.keep key cast set))
    (hset : ∀ content caps, part (set content caps) = view content)
    (hrow : ∀ field ∈ fields, field.key ≠ key → ∀ value caps,
      part (field.store value caps) = part caps) (v : Cbor) :
    part (fromCbor v) =
      ((readUnder Cbor.asU64 key cast (entriesOf v)).getLast?.map view).getD
        (part default) := by
  rw [fromCbor_eq]
  exact readFields_keep Cbor.asU64 key part hfind hset hrow default (entriesOf v)

end Capabilities

end OpenRD.Proto
