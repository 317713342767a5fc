import OpenRD.Session.Video

/-!
# The first header on the Display stream

The flag that marks a keyframe goes by the number of the picture, but a header is
written only for a picture with units.
-/

namespace OpenRD.Session

open OpenRD.Foundation OpenRD.Proto OpenRD.Server

/-- The payload of the first `FrameHeader`. -/
def firstHeader (frames : List SentFrame) : Option (List UInt8) :=
  (payloadsOf .frameHeader frames).head?

/-- Bit 0 of the flags that stand behind the picture's number. -/
def HasIdrFlag (header : List UInt8) : Prop := header.getD 4 0 &&& 0x01 ≠ 0

theorem firstHeader_begins {frames frames' : List SentFrame} {header : List UInt8}
    (h : frames <+: frames') (hheader : firstHeader frames = some header) :
    firstHeader frames' = some header := by
  have hbegins : payloadsOf .frameHeader frames <+: payloadsOf .frameHeader frames' :=
    h.filterMap _
  rw [firstHeader, ← List.singleton_prefix_iff_head?_eq_some] at hheader ⊢
  exact hheader.trans hbegins

theorem firstHeader_pictures {frameId : UInt32} {nals : List (List UInt8)}
    (hnals : nals ≠ []) (shown : List (UInt32 × List (List UInt8))) :
    firstHeader (pictures ((frameId, nals) :: shown)) =
      some (pictureHeader frameId (UInt8.ofNat (min nals.length 255))).2 := by
  have hclosing : Closing frameId [pictureEnd frameId] := .inr rfl
  have hgroup := (payloadsOf_group (UInt8.ofNat (min nals.length 255)) nals hclosing).1
  have hpictures : pictures ((frameId, nals) :: shown) =
      picture frameId nals ++ pictures shown := rfl
  rw [firstHeader, hpictures, payloadsOf_append, picture_of_units hnals, hgroup]
  rfl

theorem hasIdrFlag_pictureHeader (frameId : UInt32) (nSlices : UInt8) :
    HasIdrFlag (pictureHeader frameId nSlices).2 ↔ frameId = 0 := by
  have hflags : (pictureHeader frameId nSlices).2.getD 4 0 =
      if frameId == 0 then 0x01 else 0x00 := by
    simp [pictureHeader, u32ToLeBytes, toLeBytes]
  rw [HasIdrFlag, hflags]
  by_cases hzero : frameId = 0
  · simp [hzero]
  · simp [hzero]

/-! ## The first picture with units -/

theorem mem_shownPictures {outputs : UInt32 → List (List UInt8)}
    {shown : UInt32 × List (List UInt8)} (h : shown ∈ shownPictures outputs) :
    shown.2 = outputs shown.1 ∧ shown.2 ≠ [] := by
  refine ⟨?_, filled_shownPictures outputs shown h⟩
  obtain ⟨number, -, rfl⟩ := List.mem_map.mp (List.mem_filter.mp h).1
  rfl

/-- The first picture shown has number 0 exactly when the encoder starts with units. -/
theorem number_of_first {outputs : UInt32 → List (List UInt8)}
    {first : UInt32 × List (List UInt8)} {rest : List (UInt32 × List (List UInt8))}
    (h : shownPictures outputs = first :: rest) : first.1 = 0 ↔ outputs 0 ≠ [] := by
  constructor
  · intro hzero
    obtain ⟨houtput, hunits⟩ := mem_shownPictures (h ▸ List.mem_cons_self : first ∈ _)
    rwa [← hzero, ← houtput]
  · intro hunits
    have hencoder : encoderPictures outputs =
        (0, outputs 0) :: (encoderPictures outputs).tail := rfl
    rw [shownPictures, hencoder, List.filter_cons_of_pos (by simpa using hunits)] at h
    cases h
    rfl

/-- There is a picture with units. -/
def Produces (outputs : UInt32 → List (List UInt8)) : Prop :=
  ∃ frameId < displayFrameCount, outputs (UInt32.ofNat frameId) ≠ []

theorem exists_first {outputs : UInt32 → List (List UInt8)} (h : Produces outputs) :
    ∃ first rest, shownPictures outputs = first :: rest := by
  obtain ⟨frameId, hframe, hunits⟩ := h
  apply List.exists_cons_of_ne_nil
  apply List.ne_nil_of_mem (a := (UInt32.ofNat frameId, outputs (UInt32.ofNat frameId)))
  refine List.mem_filter.mpr ⟨?_, by simpa using hunits⟩
  exact List.mem_map_of_mem (List.mem_map_of_mem (List.mem_range.mpr hframe))

theorem firstHeader_shown {outputs : UInt32 → List (List UInt8)} (h : Produces outputs) :
    ∃ header, firstHeader (pictures (shownPictures outputs)) = some header ∧
      (HasIdrFlag header ↔ outputs 0 ≠ []) := by
  obtain ⟨⟨frameId, nals⟩, rest, hshown⟩ := exists_first h
  have hunits : nals ≠ [] :=
    (mem_shownPictures (hshown ▸ List.mem_cons_self : (frameId, nals) ∈ _)).2
  refine ⟨(pictureHeader frameId (UInt8.ofNat (min nals.length 255))).2, ?_, ?_⟩
  · rw [hshown, firstHeader_pictures hunits]
  · exact (hasIdrFlag_pictureHeader frameId _).trans (number_of_first hshown)

/-! ## On the stream -/

/--
At every moment of every run, the first `FrameHeader` begun on the stream has the IDR flag,
and a run that is over has sent one.
-/
structure StartsWithKeyframe (outputs : UInt32 → List (List UInt8)) : Prop where
  flagged : ∀ (events : List HandlerEvent) (status : Except HandlerStop Unit)
    (header : List UInt8),
    sendDisplayFrames.ComesTo events status → Encodes outputs events →
    firstHeader (framesBegun events status) = some header → HasIdrFlag header
  sent : ∀ events : List HandlerEvent, sendDisplayFrames.ComesTo events (.ok ()) →
    Encodes outputs events →
      ∃ header, firstHeader (framesWritten events) = some header ∧ HasIdrFlag header

theorem units_of_startsWithKeyframe {outputs : UInt32 → List (List UInt8)}
    (h : Produces outputs) (hstarts : StartsWithKeyframe outputs) : outputs 0 ≠ [] := by
  obtain ⟨header, hfirst, hflag⟩ := firstHeader_shown h
  obtain ⟨events, hcomes, hencodes, -⟩ := exists_run outputs
  obtain ⟨header', hheader', hidr⟩ := hstarts.sent events hcomes hencodes
  rw [framesWritten_eq_shownPictures hcomes hencodes, hfirst] at hheader'
  cases hheader'
  exact hflag.mp hidr

theorem startsWithKeyframe_of_units {outputs : UInt32 → List (List UInt8)}
    (h : Produces outputs) (hunits : outputs 0 ≠ []) : StartsWithKeyframe outputs := by
  obtain ⟨header, hfirst, hflag⟩ := firstHeader_shown h
  constructor
  · intro events status header' hcomes hencodes hheader'
    have hbegins := prefix_shownPictures hcomes hencodes
    cases hfirst.symm.trans (firstHeader_begins hbegins hheader')
    exact hflag.mpr hunits
  · intro events hcomes hencodes
    rw [framesWritten_eq_shownPictures hcomes hencodes]
    exact ⟨header, hfirst, hflag.mpr hunits⟩

/--
Among the encoders that produce some picture, the stream starts with a keyframe exactly for
those that produce the first one.
-/
theorem startsWithKeyframe_iff (outputs : UInt32 → List (List UInt8)) (h : Produces outputs) :
    StartsWithKeyframe outputs ↔ outputs 0 ≠ [] :=
  ⟨units_of_startsWithKeyframe h, startsWithKeyframe_of_units h⟩

theorem startsWithKeyframe_sample : StartsWithKeyframe (firstOnly [[0x67], [0x65, 0x88]]) :=
  (startsWithKeyframe_iff (firstOnly [[0x67], [0x65, 0x88]])
    ⟨0, by decide, by decide⟩).mpr (by decide)

/-- An encoder that skips the first picture and starts with an IDR at the second. -/
def lateEncoder : UInt32 → List (List UInt8) := fun frameId =>
  if frameId = 1 then [[0x67], [0x68], [0x65, 0x88]] else []

theorem lateEncoder_unflagged :
    Produces lateEncoder ∧ ¬ StartsWithKeyframe lateEncoder ∧
      ∃ events : List HandlerEvent, sendDisplayFrames.ComesTo events (.ok ()) ∧
        Encodes lateEncoder events ∧
        firstHeader (framesWritten events) =
          some [1, 0, 0, 0, 0x00, 0x35, 0x82, 0, 0, 0, 0, 0, 0, 3, 0] := by
  have hproduces : Produces lateEncoder := ⟨1, by decide, by decide⟩
  refine ⟨hproduces, fun h => ?_, ?_⟩
  · exact units_of_startsWithKeyframe hproduces h rfl
  · obtain ⟨events, hcomes, hencodes, -⟩ := exists_run lateEncoder
    refine ⟨events, hcomes, hencodes, ?_⟩
    rw [framesWritten_eq_shownPictures hcomes hencodes]
    rfl

end OpenRD.Session
