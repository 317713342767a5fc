import OpenRD.Proto.ChunkSizes

/-!
# Offering more

Capabilities extend others when they list and allow at least as much, and profiles
likewise.  Extending either peer's capabilities extends what is negotiated.
-/

namespace OpenRD.Proto

open OpenRD.Foundation

/-- `more` lists and allows all that `caps` does. -/
structure Capabilities.ExtendedBy (caps more : Capabilities) : Prop where
  protocolVersions : caps.protocolVersions ⊆ more.protocolVersions
  authMethods : caps.authMethods ⊆ more.authMethods
  displayCodecs : caps.displayCodecs ⊆ more.displayCodecs
  displayMaxWidth : caps.displayMaxResolution.1 ≤ more.displayMaxResolution.1
  displayMaxHeight : caps.displayMaxResolution.2 ≤ more.displayMaxResolution.2
  displayMaxFps : caps.displayMaxFps ≤ more.displayMaxFps
  audioCodecs : caps.audioCodecs ⊆ more.audioCodecs
  clipboardTypes : caps.clipboardTypes ⊆ more.clipboardTypes
  fileMaxConcurrent : caps.fileMaxConcurrent ≤ more.fileMaxConcurrent
  fileMaxSizePerTransfer : caps.fileMaxSizePerTransfer ≤ more.fileMaxSizePerTransfer
  fileChunkSizeRange : Within more.fileChunkSizeRange caps.fileChunkSizeRange
  clipboardMaxSize : caps.clipboardMaxSize ≤ more.clipboardMaxSize
  resumptionWindowSeconds : caps.resumptionWindowSeconds ≤ more.resumptionWindowSeconds
  transportFeatures : caps.transportFeatures ⊆ more.transportFeatures
  chatEnabled : caps.chatEnabled = true → more.chatEnabled = true
  chatMaxAttachment : caps.chatMaxAttachment ≤ more.chatMaxAttachment

/-- `more` settles on at least the version and allows all that `profile` does. -/
structure NegotiatedProfile.ExtendedBy (profile more : NegotiatedProfile) : Prop where
  version : profile.version ≤ more.version
  authMethods : profile.authMethods ⊆ more.authMethods
  displayWidth : profile.displayResolution.1 ≤ more.displayResolution.1
  displayHeight : profile.displayResolution.2 ≤ more.displayResolution.2
  displayMaxFps : profile.displayMaxFps ≤ more.displayMaxFps
  audioCodec : profile.audioCodec.isSome → more.audioCodec.isSome
  clipboardTypes : profile.clipboardTypes ⊆ more.clipboardTypes
  fileMaxConcurrent : profile.fileMaxConcurrent ≤ more.fileMaxConcurrent
  fileMaxSize : profile.fileMaxSize ≤ more.fileMaxSize
  fileChunkSizeRange : Within more.fileChunkSizeRange profile.fileChunkSizeRange
  clipboardMaxSize : profile.clipboardMaxSize ≤ more.clipboardMaxSize
  resumptionWindow : profile.resumptionWindow ≤ more.resumptionWindow
  transportFeatures : profile.transportFeatures ⊆ more.transportFeatures
  chatEnabled : profile.chatEnabled = true → more.chatEnabled = true

theorem Capabilities.ExtendedBy.refl (caps : Capabilities) : caps.ExtendedBy caps := by
  constructor <;> simp [Within]

namespace NegotiatedProfile

/-! ## Each way of combining two fields -/

section Limits

variable {α : Type} [LE α] [Std.IsPreorder α] {a b a' b' : α}

theorem min_extended [Min α] [Std.LawfulOrderInf α] (h : a ≤ a') (h' : b ≤ b') :
    min a b ≤ min a' b' :=
  Std.le_min_iff.mpr
    ⟨Std.le_trans Std.min_le_left h, Std.le_trans Std.min_le_right h'⟩

theorem max_extended [Max α] [Std.LawfulOrderSup α] (h : a ≤ a') (h' : b ≤ b') :
    max a b ≤ max a' b' :=
  Std.max_le_iff.mpr
    ⟨Std.le_trans h Std.left_le_max, Std.le_trans h' Std.right_le_max⟩

end Limits

variable {client server client' server' : Capabilities} {p p' : NegotiatedProfile}

theorem isSome_audioCodec (h : Intersection client server p) :
    p.audioCodec.isSome ↔ Overlap client.audioCodecs server.audioCodecs := by
  rw [← Option.ne_none_iff_isSome, ne_eq, h.noAudioCodec, not_not]

/-- What two extended pairs of capabilities have in common extends as they do. -/
theorem intersection_extended (hclient : client.ExtendedBy client')
    (hserver : server.ExtendedBy server') (h : Intersection client server p)
    (h' : Intersection client' server' p') : p.ExtendedBy p' where
  version :=
    h'.version.2 ⟨hclient.protocolVersions h.version.1.1,
      hserver.protocolVersions h.version.1.2⟩
  authMethods := h.authMethods.mono h'.authMethods hserver.authMethods hclient.authMethods
  displayWidth := by
    rw [h.displayResolution, h'.displayResolution]
    exact min_extended hclient.displayMaxWidth hserver.displayMaxWidth
  displayHeight := by
    rw [h.displayResolution, h'.displayResolution]
    exact min_extended hclient.displayMaxHeight hserver.displayMaxHeight
  displayMaxFps := by
    rw [h.displayMaxFps, h'.displayMaxFps]
    exact min_extended hclient.displayMaxFps hserver.displayMaxFps
  audioCodec hsome :=
    (isSome_audioCodec h').mpr
      (((isSome_audioCodec h).mp hsome).mono hclient.audioCodecs hserver.audioCodecs)
  clipboardTypes :=
    h.clipboardTypes.mono h'.clipboardTypes hserver.clipboardTypes hclient.clipboardTypes
  fileMaxConcurrent := by
    rw [h.fileMaxConcurrent, h'.fileMaxConcurrent]
    exact min_extended hclient.fileMaxConcurrent hserver.fileMaxConcurrent
  fileMaxSize := by
    rw [h.fileMaxSize, h'.fileMaxSize]
    exact min_extended hclient.fileMaxSizePerTransfer hserver.fileMaxSizePerTransfer
  fileChunkSizeRange := by
    rw [fileChunkSizeRange_eq h, fileChunkSizeRange_eq h']
    exact ⟨max_extended hclient.fileChunkSizeRange.1 hserver.fileChunkSizeRange.1,
      min_extended hclient.fileChunkSizeRange.2 hserver.fileChunkSizeRange.2⟩
  clipboardMaxSize := by
    rw [h.clipboardMaxSize, h'.clipboardMaxSize]
    exact min_extended hclient.clipboardMaxSize hserver.clipboardMaxSize
  resumptionWindow := by
    rw [h.resumptionWindow, h'.resumptionWindow]
    exact min_extended hclient.resumptionWindowSeconds hserver.resumptionWindowSeconds
  transportFeatures :=
    h.transportFeatures.mono h'.transportFeatures hserver.transportFeatures
      hclient.transportFeatures
  chatEnabled henabled := by
    obtain ⟨hc, hs⟩ := h.chatEnabled.mp henabled
    exact h'.chatEnabled.mpr ⟨hclient.chatEnabled hc, hserver.chatEnabled hs⟩

/-! ## Extending a peer -/

theorem listsOverlap_extended (hclient : client.ExtendedBy client')
    (hserver : server.ExtendedBy server') (h : ListsOverlap client server) :
    ListsOverlap client' server' := by
  obtain ⟨hversion, hauth, hcodec⟩ := h
  refine ⟨hversion.mono hclient.protocolVersions hserver.protocolVersions, ?_, ?_⟩
  · exact hauth.mono hserver.authMethods hclient.authMethods
  · exact hcodec.mono hclient.displayCodecs hserver.displayCodecs

theorem negotiate_extended (hclient : client.ExtendedBy client')
    (hserver : server.ExtendedBy server') (hok : negotiate client server = .ok p) :
    ∃ p', negotiate client' server' = .ok p' ∧ p.ExtendedBy p' := by
  have hlists := listsOverlap_extended hclient hserver (negotiate_ok_iff.mp ⟨p, hok⟩)
  obtain ⟨p', hok'⟩ := negotiate_ok_iff.mpr hlists
  exact ⟨p', hok', intersection_extended hclient hserver (intersection_of_ok hok)
    (intersection_of_ok hok')⟩

/-- A peer that offers more does not get less, whichever side it is on. -/
theorem negotiate_more {caps more : Capabilities} (h : caps.ExtendedBy more)
    (peer : Capabilities) :
    (∀ p, negotiate caps peer = .ok p →
      ∃ p', negotiate more peer = .ok p' ∧ p.ExtendedBy p') ∧
    ∀ p, negotiate peer caps = .ok p →
      ∃ p', negotiate peer more = .ok p' ∧ p.ExtendedBy p' :=
  ⟨fun _ => negotiate_extended h (.refl peer), fun _ => negotiate_extended (.refl peer) h⟩

/-- A peer that also speaks version 1. -/
theorem negotiate_next_version :
    ∃ p', negotiate { Capabilities.default with protocolVersions := [1, 0] } .default =
        .ok p' ∧ ∀ p, negotiate .default .default = .ok p → p.ExtendedBy p' := by
  have hmore : Capabilities.default.ExtendedBy
      { Capabilities.default with protocolVersions := [1, 0] } := by
    constructor <;> simp [Capabilities.default, Within]
  have hok : ∃ p, negotiate .default .default = .ok p := ⟨_, rfl⟩
  obtain ⟨p, hp⟩ := hok
  obtain ⟨p', hp', hextended⟩ := (negotiate_more hmore .default).1 p hp
  refine ⟨p', hp', fun q hq => ?_⟩
  cases hp.symm.trans hq
  exact hextended

end NegotiatedProfile

end OpenRD.Proto
