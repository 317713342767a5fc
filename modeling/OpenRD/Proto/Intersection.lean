import OpenRD.Foundation.Selection
import OpenRD.Proto.Capabilities

/-!
# What the negotiated profile is

`negotiate` combines every field by the rule that fits it: the greatest common
version, ordered restrictions, first matches, and the tighter of two limits.
-/

namespace OpenRD.Proto

open OpenRD.Foundation

/-- `p` is what the two advertisements have in common. -/
structure Intersection (client server : Capabilities) (p : NegotiatedProfile) :
    Prop where
  version : IsGreatest
    {n | n ∈ client.protocolVersions ∧ n ∈ server.protocolVersions} p.version
  profile : p.profile = server.profile
  authMethods : RestrictedTo server.authMethods client.authMethods p.authMethods
  displayCodec : FirstIn client.displayCodecs server.displayCodecs p.displayCodec
  displayResolution : p.displayResolution =
    (min client.displayMaxResolution.1 server.displayMaxResolution.1,
      min client.displayMaxResolution.2 server.displayMaxResolution.2)
  displayMaxFps : p.displayMaxFps = min client.displayMaxFps server.displayMaxFps
  audioCodec : ∀ codec, p.audioCodec = some codec ↔
    FirstIn client.audioCodecs server.audioCodecs codec
  noAudioCodec : p.audioCodec = none ↔ ¬ Overlap client.audioCodecs server.audioCodecs
  clipboardTypes :
    RestrictedTo server.clipboardTypes client.clipboardTypes p.clipboardTypes
  fileMaxConcurrent :
    p.fileMaxConcurrent = min client.fileMaxConcurrent server.fileMaxConcurrent
  fileMaxSize : p.fileMaxSize =
    min client.fileMaxSizePerTransfer server.fileMaxSizePerTransfer
  fileChunkSizeLow : p.fileChunkSizeRange.1 =
    max client.fileChunkSizeRange.1 server.fileChunkSizeRange.1
  fileChunkSizeHigh : p.fileChunkSizeRange.2 =
    min client.fileChunkSizeRange.2 server.fileChunkSizeRange.2
  clipboardMaxSize :
    p.clipboardMaxSize = min client.clipboardMaxSize server.clipboardMaxSize
  resumptionWindow : p.resumptionWindow =
    min client.resumptionWindowSeconds server.resumptionWindowSeconds
  transportFeatures :
    RestrictedTo server.transportFeatures client.transportFeatures p.transportFeatures
  chatEnabled : p.chatEnabled = true ↔
    client.chatEnabled = true ∧ server.chatEnabled = true

namespace NegotiatedProfile

@[simp] theorem okOr_eq_ok {α : Type} {error : NegotiationError} {option : Option α}
    {value : α} : okOr error option = .ok value ↔ option = some value := by
  cases option <;> simp [okOr]

instance : Std.LawfulOrderMax UInt32 where
  max_eq_or first second := by
    have hmax : max first second = if first ≤ second then second else first := rfl
    grind
  max_le_iff first second bound := by
    have hmax : max first second = if first ≤ second then second else first := rfl
    grind

instance : Std.LawfulOrderMin UInt32 where
  min_eq_or first second := by
    have hmin : min first second = if first ≤ second then first else second := rfl
    grind
  le_min_iff bound first second := by
    have hmin : min first second = if first ≤ second then first else second := rfl
    grind

instance : Std.LawfulOrderMin UInt64 where
  min_eq_or first second := by
    have hmin : min first second = if first ≤ second then first else second := rfl
    grind
  le_min_iff bound first second := by
    have hmin : min first second = if first ≤ second then first else second := rfl
    grind

theorem max?_filter_eq_some {wanted offered : List UInt32} {version : UInt32} :
    (wanted.filter (offered.contains ·)).max? = some version ↔
      IsGreatest {n | n ∈ wanted ∧ n ∈ offered} version := by
  rw [List.max?_eq_some_iff]
  simp [IsGreatest, upperBounds]

theorem max?_filter_eq_none {wanted offered : List UInt32} :
    (wanted.filter (offered.contains ·)).max? = none ↔ ¬ Overlap wanted offered := by
  rw [List.max?_eq_none_iff, filter_contains_eq_nil]

theorem isEmpty_filter_contains {whole allowed : List String}
    (h : Overlap whole allowed) :
    (whole.filter (allowed.contains ·)).isEmpty = false := by
  rw [List.isEmpty_eq_false_iff]
  exact fun hnil => filter_contains_eq_nil.mp hnil h

variable {client server : Capabilities}

theorem negotiate_of_no_version
    (h : ¬ Overlap client.protocolVersions server.protocolVersions) :
    negotiate client server = .error .noVersionOverlap := by
  unfold negotiate
  rw [max?_filter_eq_none.mpr h]
  rfl

theorem negotiate_of_no_auth
    (hversion : Overlap client.protocolVersions server.protocolVersions)
    (h : ¬ Overlap server.authMethods client.authMethods) :
    negotiate client server = .error .noAuthMethod := by
  obtain ⟨version, hmax⟩ := Option.ne_none_iff_exists'.mp
    (fun hnone => max?_filter_eq_none.mp hnone hversion)
  unfold negotiate
  rw [hmax, filter_contains_eq_nil.mpr h]
  rfl

theorem negotiate_of_no_codec
    (hversion : Overlap client.protocolVersions server.protocolVersions)
    (hauth : Overlap server.authMethods client.authMethods)
    (h : ¬ Overlap client.displayCodecs server.displayCodecs) :
    negotiate client server = .error .noDisplayCodec := by
  obtain ⟨version, hmax⟩ := Option.ne_none_iff_exists'.mp
    (fun hnone => max?_filter_eq_none.mp hnone hversion)
  unfold negotiate
  rw [hmax, find?_contains_eq_none.mpr h]
  simp only [isEmpty_filter_contains hauth, Bool.false_eq_true, if_false]
  rfl

theorem negotiate_of_overlaps
    (hversion : Overlap client.protocolVersions server.protocolVersions)
    (hauth : Overlap server.authMethods client.authMethods)
    (hcodec : Overlap client.displayCodecs server.displayCodecs) :
    ∃ p, negotiate client server = .ok p ∧ Intersection client server p := by
  obtain ⟨version, hmax⟩ := Option.ne_none_iff_exists'.mp
    (fun hnone => max?_filter_eq_none.mp hnone hversion)
  obtain ⟨codec, hfind⟩ := Option.ne_none_iff_exists'.mp
    (fun hnone => find?_contains_eq_none.mp hnone hcodec)
  unfold negotiate
  rw [hmax, hfind]
  simp only [isEmpty_filter_contains hauth, Bool.false_eq_true, if_false]
  exact ⟨_, rfl, {
    version := max?_filter_eq_some.mp hmax
    profile := rfl
    authMethods := restrictedTo_filter _ _
    displayCodec := find?_contains_eq_some.mp hfind
    displayResolution := rfl
    displayMaxFps := rfl
    audioCodec := fun _ => find?_contains_eq_some
    noAudioCodec := find?_contains_eq_none
    clipboardTypes := restrictedTo_filter _ _
    fileMaxConcurrent := rfl
    fileMaxSize := rfl
    fileChunkSizeLow := rfl
    fileChunkSizeHigh := rfl
    clipboardMaxSize := rfl
    resumptionWindow := rfl
    transportFeatures := restrictedTo_filter _ _
    chatEnabled := Bool.and_eq_true_iff }⟩

/-! ## The three refusals, in order, and the success -/

theorem negotiate_cases (client server : Capabilities) :
    (¬ Overlap client.protocolVersions server.protocolVersions ∧
      negotiate client server = .error .noVersionOverlap) ∨
    (Overlap client.protocolVersions server.protocolVersions ∧
      ¬ Overlap server.authMethods client.authMethods ∧
      negotiate client server = .error .noAuthMethod) ∨
    (Overlap client.protocolVersions server.protocolVersions ∧
      Overlap server.authMethods client.authMethods ∧
      ¬ Overlap client.displayCodecs server.displayCodecs ∧
      negotiate client server = .error .noDisplayCodec) ∨
    (Overlap client.protocolVersions server.protocolVersions ∧
      Overlap server.authMethods client.authMethods ∧
      Overlap client.displayCodecs server.displayCodecs ∧
      ∃ p, negotiate client server = .ok p ∧ Intersection client server p) := by
  by_cases hversion : Overlap client.protocolVersions server.protocolVersions
  · by_cases hauth : Overlap server.authMethods client.authMethods
    · by_cases hcodec : Overlap client.displayCodecs server.displayCodecs
      · exact .inr (.inr (.inr ⟨hversion, hauth, hcodec,
          negotiate_of_overlaps hversion hauth hcodec⟩))
      · exact .inr (.inr (.inl ⟨hversion, hauth, hcodec,
          negotiate_of_no_codec hversion hauth hcodec⟩))
    · exact .inr (.inl ⟨hversion, hauth, negotiate_of_no_auth hversion hauth⟩)
  · exact .inl ⟨hversion, negotiate_of_no_version hversion⟩

theorem intersection_of_ok {p : NegotiatedProfile}
    (h : negotiate client server = .ok p) : Intersection client server p := by
  obtain ⟨-, heq⟩ | ⟨-, -, heq⟩ | ⟨-, -, -, heq⟩ | ⟨-, -, -, q, heq, hq⟩ :=
    negotiate_cases client server
  · rw [heq] at h
    cases h
  · rw [heq] at h
    cases h
  · rw [heq] at h
    cases h
  · rw [heq] at h
    cases h
    exact hq

/-- Negotiation computes the intersection of the two advertisements, or says why not. -/
theorem negotiate_intersection (client server : Capabilities) :
    (negotiate client server = .error .noVersionOverlap ↔
      ¬ Overlap client.protocolVersions server.protocolVersions) ∧
    (negotiate client server = .error .noAuthMethod ↔
      Overlap client.protocolVersions server.protocolVersions ∧
      ¬ Overlap server.authMethods client.authMethods) ∧
    (negotiate client server = .error .noDisplayCodec ↔
      Overlap client.protocolVersions server.protocolVersions ∧
      Overlap server.authMethods client.authMethods ∧
      ¬ Overlap client.displayCodecs server.displayCodecs) ∧
    ((∃ p, negotiate client server = .ok p) ↔
      Overlap client.protocolVersions server.protocolVersions ∧
      Overlap server.authMethods client.authMethods ∧
      Overlap client.displayCodecs server.displayCodecs) ∧
    ∀ p, negotiate client server = .ok p → Intersection client server p := by
  refine ⟨?_, ?_, ?_, ?_, fun p => intersection_of_ok⟩
  all_goals
    obtain ⟨hv, heq⟩ | ⟨hv, ha, heq⟩ | ⟨hv, ha, hc, heq⟩ | ⟨hv, ha, hc, p, heq, -⟩ :=
      negotiate_cases client server
    · simp [heq, hv]
    · simp [heq, hv, ha]
    · simp [heq, hv, ha, hc]
    · simp [heq, hv, ha, hc]

/-- The chunk range's lower end is the larger of the two, so above one side's. -/
theorem fileChunkSizeLow_above_client :
    ∃ p, negotiate Capabilities.default
        { Capabilities.default with fileChunkSizeRange := (8192, 4 * 1024 * 1024) } =
          .ok p ∧
      p.fileChunkSizeRange.1 ≠ min Capabilities.default.fileChunkSizeRange.1 8192 ∧
      Capabilities.default.fileChunkSizeRange.1 < p.fileChunkSizeRange.1 :=
  ⟨_, rfl, by decide, by decide⟩

end NegotiatedProfile

end OpenRD.Proto
