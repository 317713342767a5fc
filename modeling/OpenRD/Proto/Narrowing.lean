import OpenRD.Proto.CapabilityEntries
import OpenRD.Proto.Intersection

/-!
# Numbers that narrow

The reader takes integers of up to 64 bits off the wire and keeps their low 32 bits
(`n as u32`).  A number that does not fit becomes another one, which no peer sent.
-/

namespace OpenRD.Proto

open OpenRD.Foundation

namespace Capabilities

/-- The limits that the capabilities hold as 32-bit numbers. -/
inductive Limit where
  | displayWidth
  | displayHeight
  | displayMaxFps
  | fileMaxConcurrent
  | fileChunkSizeLow
  | fileChunkSizeHigh
  | clipboardMaxSize
  | resumptionWindowSeconds
  | chatMaxAttachment
  deriving DecidableEq, Repr

namespace Limit

def get : Limit → Capabilities → UInt32
  | displayWidth, caps => caps.displayMaxResolution.1
  | displayHeight, caps => caps.displayMaxResolution.2
  | displayMaxFps, caps => caps.displayMaxFps
  | fileMaxConcurrent, caps => caps.fileMaxConcurrent
  | fileChunkSizeLow, caps => caps.fileChunkSizeRange.1
  | fileChunkSizeHigh, caps => caps.fileChunkSizeRange.2
  | clipboardMaxSize, caps => caps.clipboardMaxSize
  | resumptionWindowSeconds, caps => caps.resumptionWindowSeconds
  | chatMaxAttachment, caps => caps.chatMaxAttachment

/-- The integers that entries carry for a limit, in wire order. -/
def carried : Limit → List (Cbor × Cbor) → List UInt64
  | displayWidth, entries => (readUnder Cbor.asU64 5 readPair entries).map Prod.fst
  | displayHeight, entries => (readUnder Cbor.asU64 5 readPair entries).map Prod.snd
  | displayMaxFps, entries => readUnder Cbor.asU64 6 readU64 entries
  | fileMaxConcurrent, entries => readUnder Cbor.asU64 9 readU64 entries
  | fileChunkSizeLow, entries => (readUnder Cbor.asU64 11 readPair entries).map Prod.fst
  | fileChunkSizeHigh, entries => (readUnder Cbor.asU64 11 readPair entries).map Prod.snd
  | clipboardMaxSize, entries => readUnder Cbor.asU64 12 readU64 entries
  | resumptionWindowSeconds, entries => readUnder Cbor.asU64 13 readU64 entries
  | chatMaxAttachment, entries =>
    (readUnder Cbor.asU64 16 Cbor.asMap entries).flatMap chatNumbers

theorem chatMaxAttachment_fromCbor (v : Cbor) :
    (fromCbor v).chatMaxAttachment =
      ((chatMaxAttachment.carried (entriesOf v)).getLast?.map UInt64.toUInt32).getD
        default.chatMaxAttachment := by
  rw [fromCbor_eq, carried, ← getLast?_readUnder_bind, ← List.getLast?_map,
    ← readUnder_map]
  refine readFields_column Cbor.asU64 ?_ ?_ default (entriesOf v)
  · intro value caps
    rw [storeField_chat]
    cases value.asMap with
    | none => rfl
    | some chat => simp [readChat_eq]
  · intro key' hne
    refine part_storeField_else Capabilities.chatMaxAttachment ?_ hne
    simp [fields, Field.part_keep, Field.part_replace]

/-- The reader keeps the low 32 bits of the last integer carried. -/
theorem get_fromCbor (limit : Limit) (v : Cbor) :
    limit.get (fromCbor v) =
      ((limit.carried (entriesOf v)).getLast?.map UInt64.toUInt32).getD
        (limit.get default) := by
  cases limit with
  | displayWidth =>
      rw [carried, List.getLast?_map, Option.map_map]
      exact part_fromCbor 5 displayWidth.get rfl (fun _ _ => rfl)
        (by simp [fields, get, Field.part_keep, Field.part_replace, readChat_eq]) v
  | displayHeight =>
      rw [carried, List.getLast?_map, Option.map_map]
      exact part_fromCbor 5 displayHeight.get rfl (fun _ _ => rfl)
        (by simp [fields, get, Field.part_keep, Field.part_replace, readChat_eq]) v
  | displayMaxFps =>
      exact part_fromCbor 6 displayMaxFps.get rfl (fun _ _ => rfl)
        (by simp [fields, get, Field.part_keep, Field.part_replace, readChat_eq]) v
  | fileMaxConcurrent =>
      exact part_fromCbor 9 fileMaxConcurrent.get rfl (fun _ _ => rfl)
        (by simp [fields, get, Field.part_keep, Field.part_replace, readChat_eq]) v
  | fileChunkSizeLow =>
      rw [carried, List.getLast?_map, Option.map_map]
      exact part_fromCbor 11 fileChunkSizeLow.get rfl (fun _ _ => rfl)
        (by simp [fields, get, Field.part_keep, Field.part_replace, readChat_eq]) v
  | fileChunkSizeHigh =>
      rw [carried, List.getLast?_map, Option.map_map]
      exact part_fromCbor 11 fileChunkSizeHigh.get rfl (fun _ _ => rfl)
        (by simp [fields, get, Field.part_keep, Field.part_replace, readChat_eq]) v
  | clipboardMaxSize =>
      exact part_fromCbor 12 clipboardMaxSize.get rfl (fun _ _ => rfl)
        (by simp [fields, get, Field.part_keep, Field.part_replace, readChat_eq]) v
  | resumptionWindowSeconds =>
      exact part_fromCbor 13 resumptionWindowSeconds.get rfl (fun _ _ => rfl)
        (by simp [fields, get, Field.part_keep, Field.part_replace, readChat_eq]) v
  | chatMaxAttachment => exact chatMaxAttachment_fromCbor v

end Limit

/-- The integers of the arrays under key 1, array by array in wire order. -/
def versionArrays (entries : List (Cbor × Cbor)) : List (List UInt64) :=
  readUnder Cbor.asU64 1
    (fun value => some ((value.asArray.getD []).filterMap readU64)) entries

theorem readArrU32_eq (value : Cbor) :
    readArrU32 value =
      ((value.asArray.getD []).filterMap readU64).map UInt64.toUInt32 := by
  unfold readArrU32
  cases value.asArray with
  | none => rfl
  | some items =>
      rw [List.map_filterMap]
      rfl

theorem protocolVersions_fromCbor (v : Cbor) :
    (fromCbor v).protocolVersions =
      ((versionArrays (entriesOf v)).getLast?.map
        (List.map UInt64.toUInt32)).getD default.protocolVersions := by
  have hfind : fields.find? (fun field => field.key = 1) =
      some (.keep 1 (fun value => some (readArrU32 value))
        fun protocolVersions out => { out with protocolVersions }) := rfl
  have h := part_fromCbor 1 protocolVersions hfind (fun _ _ => rfl)
    (by simp [fields, Field.part_keep, Field.part_replace, readChat_eq]) v
  have hread : readUnder Cbor.asU64 1 (fun value => some (readArrU32 value)) (entriesOf v) =
      (versionArrays (entriesOf v)).map (List.map UInt64.toUInt32) := by
    rw [versionArrays, ← readUnder_map]
    simp only [readArrU32_eq, Option.map_some]
  rw [h, hread, List.getLast?_map, Option.map_id']

/-! ## When every number is one that was sent -/

/--
Every number of the decoded capabilities was sent, or is a default.  Of several entries
under a key the last one counts.
-/
structure NeverInvents (v : Cbor) : Prop where
  versions : ∀ array, (versionArrays (entriesOf v)).getLast? = some array →
    ∀ n ∈ (fromCbor v).protocolVersions, n.toUInt64 ∈ array
  limits : ∀ limit : Limit,
    (limit.carried (entriesOf v)).getLast? = some (limit.get (fromCbor v)).toUInt64 ∨
      limit.get (fromCbor v) = limit.get default
  selected : ∀ array, (versionArrays (entriesOf v)).getLast? = some array →
    ∀ server p, NegotiatedProfile.negotiate (fromCbor v) server = .ok p →
      p.version.toUInt64 ∈ array

/--
Every integer read for the versions and the limits fits 32 bits, or what is left of
it is itself in the array of versions, or is the limit's default.
-/
structure Fits (v : Cbor) : Prop where
  versions : ∀ array, (versionArrays (entriesOf v)).getLast? = some array →
    ∀ n ∈ array, n < 4294967296 ∨ n % 4294967296 ∈ array
  limits : ∀ (limit : Limit) n, (limit.carried (entriesOf v)).getLast? = some n →
    n < 4294967296 ∨ n % 4294967296 = (limit.get default).toUInt64

theorem toUInt64_toUInt32_eq (n : UInt64) : n.toUInt32.toUInt64 = n % 4294967296 :=
  UInt64.toUInt64_toUInt32 n

theorem toUInt64_toUInt32_eq_self_iff {n : UInt64} :
    n.toUInt32.toUInt64 = n ↔ n < 4294967296 := by
  have hmod : (n % 4294967296).toNat = n.toNat % 4294967296 := UInt64.toNat_mod n 4294967296
  rw [toUInt64_toUInt32_eq, ← UInt64.toNat_inj, hmod, UInt64.lt_iff_toNat_lt]
  exact Nat.mod_eq_iff_lt (by decide)

theorem neverInvents_of_fits {v : Cbor} (h : Fits v) : NeverInvents v := by
  have hversions (array : List UInt64)
      (hlast : (versionArrays (entriesOf v)).getLast? = some array) :
      ∀ n ∈ (fromCbor v).protocolVersions, n.toUInt64 ∈ array := by
    intro n hn
    rw [protocolVersions_fromCbor, hlast] at hn
    obtain ⟨m, hm, rfl⟩ := List.mem_map.mp hn
    obtain hfits | hcarried := h.versions array hlast m hm
    · rwa [toUInt64_toUInt32_eq_self_iff.mpr hfits]
    · rwa [toUInt64_toUInt32_eq]
  refine ⟨hversions, ?_, ?_⟩
  · intro limit
    rw [Limit.get_fromCbor]
    cases hlast : (limit.carried (entriesOf v)).getLast? with
    | none => exact .inr rfl
    | some n =>
        simp only [Option.map_some, Option.getD_some]
        obtain hfits | hdefault := h.limits limit n hlast
        · rw [toUInt64_toUInt32_eq_self_iff.mpr hfits]
          exact .inl rfl
        · rw [← toUInt64_toUInt32_eq, UInt32.toUInt64_inj] at hdefault
          exact .inr hdefault
  · intro array hlast server p hp
    exact hversions array hlast p.version
      (NegotiatedProfile.intersection_of_ok hp).version.1.1

theorem fits_of_neverInvents {v : Cbor} (h : NeverInvents v) : Fits v := by
  constructor
  · intro array hlast n hn
    have hmem : n.toUInt32 ∈ (fromCbor v).protocolVersions := by
      rw [protocolVersions_fromCbor, hlast]
      exact List.mem_map_of_mem hn
    have hcarried := h.versions array hlast _ hmem
    rw [toUInt64_toUInt32_eq] at hcarried
    exact .inr hcarried
  · intro limit n hlast
    have hlimit := h.limits limit
    rw [Limit.get_fromCbor, hlast, Option.map_some, Option.getD_some] at hlimit
    rw [← toUInt64_toUInt32_eq_self_iff, ← toUInt64_toUInt32_eq, UInt32.toUInt64_inj]
    exact hlimit.imp (fun hsame => (Option.some.inj hsame).symm) id

/-- Decoding invents no number exactly when all that it reads fits. -/
theorem neverInvents_iff (v : Cbor) : NeverInvents v ↔ Fits v :=
  ⟨fits_of_neverInvents, neverInvents_of_fits⟩

/-- A peer that offers only version 2^32 is taken to offer version 0. -/
theorem invents_version :
    let v := Cbor.map [(key 1, .array [.uint 4294967296])]
    (fromCbor v).protocolVersions = [0] ∧
      (∃ p, NegotiatedProfile.negotiate (fromCbor v) default = .ok p ∧ p.version = 0) ∧
      ¬ NeverInvents v := by
  intro v
  have hversions : (fromCbor v).protocolVersions = [0] := by decide
  refine ⟨hversions, ⟨_, rfl, rfl⟩, fun h => ?_⟩
  have hmem := h.versions [4294967296] (by decide) 0
    (by rw [hversions]; exact List.mem_singleton.mpr rfl)
  revert hmem
  decide

end Capabilities

end OpenRD.Proto
