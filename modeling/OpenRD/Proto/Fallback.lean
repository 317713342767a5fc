import OpenRD.Proto.CapabilityEntries

/-!
# Entries of the wrong shape

An entry that does not have the shape its key asks for is meant to leave the default.
Where the reader keeps the old content it does; where it replaces the list, it does not.
-/

namespace OpenRD.Proto

open OpenRD.Foundation

namespace Capabilities

/-- The two hold the same under one key of the capability map. -/
def Agree (k : UInt64) (first second : Capabilities) : Prop :=
  match k with
  | 1 => first.protocolVersions = second.protocolVersions
  | 2 => first.profile = second.profile
  | 3 => first.authMethods = second.authMethods
  | 4 => first.displayCodecs = second.displayCodecs
  | 5 => first.displayMaxResolution = second.displayMaxResolution
  | 6 => first.displayMaxFps = second.displayMaxFps
  | 7 => first.audioCodecs = second.audioCodecs
  | 8 => first.clipboardTypes = second.clipboardTypes
  | 9 => first.fileMaxConcurrent = second.fileMaxConcurrent
  | 10 => first.fileMaxSizePerTransfer = second.fileMaxSizePerTransfer
  | 11 => first.fileChunkSizeRange = second.fileChunkSizeRange
  | 12 => first.clipboardMaxSize = second.clipboardMaxSize
  | 13 => first.resumptionWindowSeconds = second.resumptionWindowSeconds
  | 14 => first.transportFeatures = second.transportFeatures
  | 16 => first.chatEnabled = second.chatEnabled ∧
      first.chatMaxAttachment = second.chatMaxAttachment
  | _ => True

/-- The keys whose value is a list. -/
def listKeys : List UInt64 := [1, 3, 4, 7, 8, 14]

/-- `value` has not the type or shape that goes with key `k`. -/
def WrongShape (k : UInt64) (value : Cbor) : Prop :=
  match k with
  | 1 | 3 | 4 | 7 | 8 | 14 => value.asArray = none
  | 2 => value.asText = none
  | 5 | 11 => ∀ first second, value ≠ .array [.integer first, .integer second]
  | 6 | 9 | 10 | 12 | 13 => value.asU64 = none
  | 16 => value.asMap = none
  | _ => False

theorem agree_equivalence (k : UInt64) : Equivalence (Agree k) where
  refl caps := by
    unfold Agree
    split <;> simp
  symm {first second} h := by
    unfold Agree at *
    split at h <;> simp_all
  trans {first second third} h h' := by
    unfold Agree at *
    split at h <;> simp_all

theorem known_iff {k : UInt64} : k ∈ fields.map Field.key ↔
    k = 1 ∨ k = 2 ∨ k = 3 ∨ k = 4 ∨ k = 5 ∨ k = 6 ∨ k = 7 ∨ k = 8 ∨ k = 9 ∨ k = 10 ∨
      k = 11 ∨ k = 12 ∨ k = 13 ∨ k = 14 ∨ k = 16 := by
  simp [fields]

theorem agree_other {k : UInt64} (hk : k ∈ fields.map Field.key) :
    ∀ field ∈ fields, field.key ≠ k → ∀ value caps,
      Agree k (field.store value caps) caps := by
  obtain rfl | rfl | rfl | rfl | rfl | rfl | rfl | rfl | rfl | rfl | rfl | rfl | rfl |
    rfl | rfl := known_iff.mp hk
  all_goals simp [fields, Agree, Field.part_keep, Field.part_replace, readChat_eq]

theorem agree_row : ∀ field ∈ fields, ∀ value caps caps', Agree field.key caps caps' →
    Agree field.key (field.store value caps) (field.store value caps') := by
  simp only [fields, List.forall_mem_cons, List.not_mem_nil, false_imp_iff, implies_true,
    and_true, Field.key_keep, Field.key_replace]
  refine ⟨?_, ?_, ?_, ?_, ?_, ?_, ?_, ?_, ?_, ?_, ?_, ?_, ?_, ?_, ?_⟩
  all_goals intro value caps caps' h
  case refine_15 =>
    refine Field.related_keep (fun chat => ?_) h value
    simpa [Agree, readChat_eq] using ⟨congrArg _ h.1, congrArg _ h.2⟩
  all_goals first
    | rfl
    | refine Field.related_keep (fun _ => ?_) h value
      rfl

theorem agree_here {k : UInt64} (value : Cbor) (caps caps' : Capabilities)
    (h : Agree k caps caps') :
    Agree k (storeField fields k value caps) (storeField fields k value caps') := by
  refine storeField_related h fun field hmem hkey => ?_
  subst hkey
  exact agree_row field hmem value caps caps' h

/-- What is decoded under `k` depends on the entries under `k` alone. -/
theorem agree_fromCbor {k : UInt64} (hk : k ∈ fields.map Field.key)
    (entries : List (Cbor × Cbor)) :
    Agree k (fromCbor (.map entries))
      ((valuesUnder Cbor.asU64 k entries).foldl
        (fun caps value => storeField fields k value caps) default) :=
  readFields_valuesUnder Cbor.asU64 (agree_equivalence k) agree_here
    (fun _ hne => storeField_else (agree_equivalence k).refl (agree_other hk) hne)
    ((agree_equivalence k).refl default) entries

/-! ## The fallback -/

/-- `entries` without the one under `k`. -/
def without (k : UInt64) (entries : List (Cbor × Cbor)) : List (Cbor × Cbor) :=
  entries.filter fun entry => entry.1.asU64 ≠ some k

/-- Under `k` the default is decoded, and under the other keys what it is without `k`. -/
def FallsBack (k : UInt64) (entries : List (Cbor × Cbor)) : Prop :=
  Agree k (fromCbor (.map entries)) default ∧
    ∀ k' ∈ fields.map Field.key, k' ≠ k →
      Agree k' (fromCbor (.map entries)) (fromCbor (.map (without k entries)))

theorem agree_without {k k' : UInt64} (hk' : k' ∈ fields.map Field.key) (hne : k' ≠ k)
    (entries : List (Cbor × Cbor)) :
    Agree k' (fromCbor (.map entries)) (fromCbor (.map (without k entries))) := by
  have hwithout := agree_fromCbor hk' (without k entries)
  rw [without, valuesUnder_filter Cbor.asU64 hne] at hwithout
  exact (agree_equivalence k').trans (agree_fromCbor hk' entries)
    ((agree_equivalence k').symm hwithout)

theorem readPair_of_wrongShape {value : Cbor}
    (h : ∀ first second, value ≠ .array [.integer first, .integer second]) :
    readPair value = none := by
  by_contra hne
  obtain ⟨⟨n, m⟩, hsome⟩ := Option.ne_none_iff_exists'.mp hne
  unfold readPair at hsome
  cases value with
  | array items =>
      match items with
      | [first, second] =>
          cases first with
          | integer first =>
              cases second with
              | integer second => exact h first second rfl
              | _ => simp [readU64, Cbor.asU64, Cbor.asInteger] at hsome
          | _ => simp [readU64, Cbor.asU64, Cbor.asInteger] at hsome
      | [] | [_] | _ :: _ :: _ :: _ => simp at hsome
  | _ => simp [Cbor.asArray] at hsome

/-- Rows that keep the old content keep it for a value of the wrong shape. -/
theorem store_wrongShape {k : UInt64} (hk : k ∈ fields.map Field.key)
    (hlist : k ∉ listKeys) {value : Cbor} (h : WrongShape k value) (caps : Capabilities) :
    storeField fields k value caps = caps := by
  obtain rfl | rfl | rfl | rfl | rfl | rfl | rfl | rfl | rfl | rfl | rfl | rfl | rfl |
    rfl | rfl := known_iff.mp hk
  all_goals simp [listKeys] at hlist
  all_goals simp only [WrongShape] at h
  all_goals simp [storeField, fields, Field.keep, readU64, readPair_of_wrongShape, h]

theorem foldl_wrongShape {k : UInt64} (hk : k ∈ fields.map Field.key)
    (hlist : k ∉ listKeys) {values : List Cbor}
    (hshape : ∀ value ∈ values, WrongShape k value) (caps : Capabilities) :
    values.foldl (fun caps value => storeField fields k value caps) caps = caps := by
  induction values with
  | nil => rfl
  | cons value values ih =>
      rw [List.foldl_cons, store_wrongShape hk hlist (hshape value List.mem_cons_self)]
      exact ih fun value hmem => hshape value (List.mem_cons_of_mem _ hmem)

/-- Rows that replace a list make it empty for a value of the wrong shape. -/
theorem store_list_wrongShape {k : UInt64} (hlist : k ∈ listKeys) {value : Cbor}
    (h : WrongShape k value) (caps : Capabilities) :
    ¬ Agree k (storeField fields k value caps) default := by
  have hkeys : k = 1 ∨ k = 3 ∨ k = 4 ∨ k = 7 ∨ k = 8 ∨ k = 14 := by
    simpa [listKeys] using hlist
  obtain rfl | rfl | rfl | rfl | rfl | rfl := hkeys
  all_goals simp only [WrongShape] at h
  all_goals simp [Agree, storeField, fields, Field.replace, readArrU32, readArrText, h, default]

/-- Entries of the wrong shape fall back to the default, except under the list keys. -/
theorem fallsBack_iff {k : UInt64} (hk : k ∈ fields.map Field.key)
    {entries : List (Cbor × Cbor)}
    (hshape : ∀ value ∈ valuesUnder Cbor.asU64 k entries, WrongShape k value) :
    FallsBack k entries ↔ (k ∈ listKeys → valuesUnder Cbor.asU64 k entries = []) := by
  have hcolumn := agree_fromCbor hk entries
  constructor
  · intro hfalls hlist
    obtain hnil | ⟨before, value, heq⟩ :=
      List.eq_nil_or_concat (valuesUnder Cbor.asU64 k entries)
    · exact hnil
    · -- the last of them decides, and leaves an empty list
      rw [heq, List.concat_eq_append, List.foldl_append] at hcolumn
      have hlast := hshape value (by rw [heq]; simp)
      exact absurd ((agree_equivalence k).trans ((agree_equivalence k).symm hcolumn)
        hfalls.1) (store_list_wrongShape hlist hlast _)
  · intro hempty
    refine ⟨?_, fun k' hk' hne => agree_without hk' hne entries⟩
    by_cases hlist : k ∈ listKeys
    · rwa [hempty hlist] at hcolumn
    · rwa [foldl_wrongShape hk hlist hshape] at hcolumn

/-- A frame rate given as text, next to a profile. -/
theorem fallsBack_textual_fps :
    FallsBack 6 [(key 6, .text "fast"), (key 2, .text "openrd-v0-base")] := by
  refine (fallsBack_iff (by decide) ?_).mpr (by decide)
  have hvalues : valuesUnder Cbor.asU64 6
      [(key 6, Cbor.text "fast"), (key 2, Cbor.text "openrd-v0-base")] =
        [Cbor.text "fast"] := rfl
  rw [hvalues]
  simp [WrongShape, Cbor.asU64, Cbor.asInteger]

/-- Auth methods given as one text are decoded as no methods at all. -/
theorem authMethods_as_text :
    ¬ FallsBack 3 [(key 3, .text "pin")] ∧
      NegotiatedProfile.negotiate (fromCbor (.map [(key 3, .text "pin")])) default =
        .error .noAuthMethod := by
  refine ⟨fun h => ?_, by decide⟩
  have hagree : (fromCbor (.map [(key 3, .text "pin")])).authMethods =
      default.authMethods := h.1
  revert hagree
  decide

end Capabilities

end OpenRD.Proto
