import OpenRD.Server.DisplayStream

/-!
# How slices are numbered

The header of a picture and each of its slices say in a byte how many slices there are, and
each slice says in a byte which one it is.  The number of NAL units stops at 255, the index
of a slice begins again after it.
-/

namespace OpenRD.Server

open OpenRD.Foundation OpenRD.Proto Handler

/-! ## The numbers of a picture -/

/-- The frames that carry this number. -/
def ofPicture (frameId : UInt32) (frames : List (UInt8 × List UInt8)) :
    List (UInt8 × List UInt8) :=
  frames.filter fun frame => u32OfLeBytes (frame.2.take 4) == frameId

def nSlicesOf (header : List UInt8) : UInt8 := header.getD 13 0

def sliceIdxOf (slice : List UInt8) : UInt8 := slice.getD 4 0

def totalSlicesOf (slice : List UInt8) : UInt8 := slice.getD 5 0

/-- The frames of one picture agree on its slices, which are all there before the end. -/
structure SlicesNumbered (frames : List (UInt8 × List UInt8)) : Prop where
  counted : payloadsOf .frameEnd frames ≠ [] → ∀ header ∈ payloadsOf .frameHeader frames,
    (nSlicesOf header).toNat = (payloadsOf .frameSlice frames).length
  totals : ∀ header ∈ payloadsOf .frameHeader frames,
    ∀ slice ∈ payloadsOf .frameSlice frames, totalSlicesOf slice = nSlicesOf header
  below : ∀ slice ∈ payloadsOf .frameSlice frames, sliceIdxOf slice < totalSlicesOf slice
  consecutive : (payloadsOf .frameSlice frames).map (fun slice => (sliceIdxOf slice).toNat) =
    List.range (payloadsOf .frameSlice frames).length

/-! ## The frames of one picture -/

section Picture

variable {frameId other : UInt32} {nSlices : UInt8} {nals : List (List UInt8)}
  {frames : List (UInt8 × List UInt8)} {encoded : List (UInt32 × List (List UInt8))}

theorem ofPicture_picture (h : other = frameId) :
    ofPicture frameId (picture other nals) = picture frameId nals := by
  subst h
  apply List.filter_eq_self.mpr
  intro frame hframe
  simpa using frameId_of_picture hframe

theorem ofPicture_picture_of_ne (h : other ≠ frameId) :
    ofPicture frameId (picture other nals) = [] := by
  apply List.filter_eq_nil_iff.mpr
  intro frame hframe
  simpa [frameId_of_picture hframe] using h

theorem ofPicture_pictures_of_notMem (h : frameId ∉ encoded.map Prod.fst) :
    ofPicture frameId (pictures encoded) = [] := by
  rw [ofPicture, pictures, List.filter_flatMap, List.flatMap_eq_nil_iff]
  rintro ⟨other, nals⟩ hmem
  apply ofPicture_picture_of_ne
  rintro rfl
  exact h (List.mem_map.mpr ⟨_, hmem, rfl⟩)

/-- The numbers of the pictures differ. -/
theorem ofPicture_pictures (hnodup : (encoded.map Prod.fst).Nodup)
    (h : (frameId, nals) ∈ encoded) :
    ofPicture frameId (pictures encoded) = picture frameId nals := by
  induction encoded with
  | nil => cases h
  | cons head encoded ih =>
      obtain ⟨other, nals'⟩ := head
      have hsplit : ofPicture frameId (pictures ((other, nals') :: encoded)) =
          ofPicture frameId (picture other nals') ++ ofPicture frameId (pictures encoded) :=
        List.filter_append _ _
      rw [List.map_cons, List.nodup_cons] at hnodup
      rw [hsplit]
      cases h with
      | head => rw [ofPicture_picture rfl, ofPicture_pictures_of_notMem hnodup.1, List.append_nil]
      | tail _ h =>
          have hne : other ≠ frameId := by
            rintro rfl
            exact hnodup.1 (List.mem_map.mpr ⟨_, h, rfl⟩)
          rw [ofPicture_picture_of_ne hne, ih hnodup.2 h, List.nil_append]

theorem prefix_pictureSlices {sliceIdx : Nat}
    (h : frames <+: pictureSlices frameId nSlices sliceIdx nals) :
    ∃ count, frames = pictureSlices frameId nSlices sliceIdx (nals.take count) := by
  induction nals generalizing frames sliceIdx with
  | nil => exact ⟨0, List.prefix_nil.mp h⟩
  | cons nal nals ih =>
      obtain rfl | ⟨tail, rfl, htail⟩ := List.prefix_cons_iff.mp h
      · exact ⟨0, rfl⟩
      · obtain ⟨count, rfl⟩ := ih htail
        exact ⟨count + 1, rfl⟩

/-- A picture that is being sent. -/
theorem prefix_picture (h : frames <+: picture frameId nals) :
    frames = [] ∨ frames = picture frameId nals ∨
      ∃ count, frames = pictureHeader frameId (UInt8.ofNat (min nals.length 255)) ::
        pictureSlices frameId (UInt8.ofNat (min nals.length 255)) 0 (nals.take count) := by
  by_cases hwhole : frames = picture frameId nals
  · exact .inr (.inl hwhole)
  · unfold picture at h hwhole
    split at h
    · exact .inl (List.prefix_nil.mp h)
    · rw [if_neg ‹_›] at hwhole
      obtain rfl | hpart := List.prefix_concat_iff.mp h
      · exact absurd rfl hwhole
      · obtain rfl | ⟨tail, rfl, htail⟩ := List.prefix_cons_iff.mp hpart
        · exact .inl rfl
        · obtain ⟨count, rfl⟩ := prefix_pictureSlices htail
          exact .inr (.inr ⟨count, rfl⟩)

/-! ## Numbers that agree -/

theorem totalSlicesOf_pictureSlices {sliceIdx : Nat} {slice : List UInt8}
    (h : slice ∈ (pictureSlices frameId nSlices sliceIdx nals).map Prod.snd) :
    totalSlicesOf slice = nSlices := by
  induction nals generalizing sliceIdx with
  | nil => cases h
  | cons nal nals ih =>
      cases h with
      | head => rfl
      | tail _ h => exact ih h

theorem sliceIdxOf_pictureSlices (frameId : UInt32) (nSlices : UInt8) (sliceIdx : Nat)
    (nals : List (List UInt8)) :
    ((pictureSlices frameId nSlices sliceIdx nals).map Prod.snd).map sliceIdxOf =
      (List.range' sliceIdx nals.length).map UInt8.ofNat := by
  induction nals generalizing sliceIdx with
  | nil => rfl
  | cons nal nals ih => exact congrArg (UInt8.ofNat sliceIdx :: ·) (ih (sliceIdx + 1))

/-- A byte holds the numbers of 256 slices. -/
theorem sliceNumbers_pictureSlices (frameId : UInt32) (nSlices : UInt8)
    (h : nals.length ≤ 256) :
    ((pictureSlices frameId nSlices 0 nals).map Prod.snd).map
        (fun slice => (sliceIdxOf slice).toNat) = List.range nals.length := by
  have hcomp : (fun slice => (sliceIdxOf slice).toNat) = UInt8.toNat ∘ sliceIdxOf := rfl
  rw [hcomp, ← List.map_map, sliceIdxOf_pictureSlices, ← List.range_eq_range', List.map_map]
  refine (List.map_congr_left fun index hindex => ?_).trans (List.map_id _)
  have hlt := List.mem_range.mp hindex
  exact UInt8.toNat_ofNat_of_lt' (by simp only [UInt8.size]; omega)

section Group

variable {closing : List (UInt8 × List UInt8)}

theorem slicesNumbered_of_count (nSlices : UInt8) (h : Closing frameId closing)
    (hcount : nals.length ≤ nSlices.toNat)
    (hall : closing ≠ [] → nals.length = nSlices.toNat) :
    SlicesNumbered (pictureHeader frameId nSlices ::
      pictureSlices frameId nSlices 0 nals ++ closing) := by
  have hbound := nSlices.toNat_lt
  have hlength : ((pictureSlices frameId nSlices 0 nals).map Prod.snd).length = nals.length := by
    rw [List.length_map, length_pictureSlices]
  have hnumbers := sliceNumbers_pictureSlices frameId nSlices (show nals.length ≤ 256 by omega)
  obtain ⟨hheaders, hslices, hends⟩ := payloadsOf_group nSlices nals h
  constructor
  · rw [hheaders, hslices, hends, hlength]
    intro hended header hheader
    rw [List.mem_singleton.mp hheader, hall fun hnone => hended (by rw [hnone]; rfl)]
    rfl
  · rw [hheaders, hslices]
    intro header hheader slice hslice
    rw [List.mem_singleton.mp hheader, totalSlicesOf_pictureSlices hslice]
    rfl
  · rw [hslices]
    intro slice hslice
    have hmem : (sliceIdxOf slice).toNat ∈ List.range nals.length :=
      hnumbers ▸ List.mem_map.mpr ⟨slice, hslice, rfl⟩
    have hlt := List.mem_range.mp hmem
    rw [totalSlicesOf_pictureSlices hslice, UInt8.lt_iff_toNat_lt]
    omega
  · rw [hslices, hlength]
    exact hnumbers

end Group

/-- At any moment a picture is sent, when its slices can be counted in a byte. -/
theorem slicesNumbered_of_prefix (hnals : nals.length ≤ 255)
    (h : frames <+: picture frameId nals) : SlicesNumbered frames := by
  have hcount : (UInt8.ofNat (min nals.length 255)).toNat = nals.length := by
    rw [Nat.min_eq_left hnals]
    exact UInt8.toNat_ofNat_of_lt' (by simp only [UInt8.size]; omega)
  obtain rfl | rfl | ⟨count, rfl⟩ := prefix_picture h
  · exact ⟨nofun, nofun, nofun, rfl⟩
  · unfold picture
    split
    · exact ⟨nofun, nofun, nofun, rfl⟩
    · exact slicesNumbered_of_count _ (.inr rfl) hcount.ge fun _ => hcount.symm
  · have htake : (nals.take count).length ≤ nals.length := by
      rw [List.length_take]
      omega
    have h := slicesNumbered_of_count _ (.inl rfl : Closing frameId []) (htake.trans hcount.ge)
      (absurd rfl)
    rwa [List.append_nil] at h

/-- The header of a larger picture says 255. -/
theorem not_slicesNumbered_picture (hnals : 255 < nals.length) :
    ¬ SlicesNumbered (picture frameId nals) := by
  intro h
  unfold picture at h
  have hfilled : ¬ nals.isEmpty = true := by
    rw [List.isEmpty_iff_length_eq_zero]
    omega
  rw [if_neg hfilled] at h
  obtain ⟨hheaders, hslices, hends⟩ := payloadsOf_group (UInt8.ofNat (min nals.length 255)) nals
    (.inr rfl : Closing frameId _)
  have hcounted := h.counted (by rw [hends]; exact nofun) _ (by rw [hheaders]; exact .head _)
  rw [hslices, List.length_map, length_pictureSlices] at hcounted
  have hbyte : (UInt8.ofNat (min nals.length 255)).toNat < 256 := UInt8.toNat_lt _
  have hnSlices : (nSlicesOf (pictureHeader frameId
      (UInt8.ofNat (min nals.length 255))).2).toNat = 255 := by
    rw [Nat.min_eq_right hnals.le]
    rfl
  omega

end Picture

/-! ## All pictures of a run -/

variable {events : List HandlerEvent} {status : Except HandlerStop Unit}

theorem nodup_numbers (h : sendDisplayFrames.ComesTo events status) :
    ((encodedPictures events).map Prod.fst).Nodup := by
  have hall : ((List.range displayFrameCount).map UInt32.ofNat).Nodup := by decide
  exact hall.sublist (displays_sendDisplayFrames events status h).numbers.sublist

/-- The frames of one picture that are begun are the first ones of it. -/
theorem ofPicture_framesBegun (h : sendDisplayFrames.ComesTo events status)
    (frameId : UInt32) :
    ofPicture frameId (framesBegun events status) = [] ∨
      ∃ nals, (frameId, nals) ∈ encodedPictures events ∧
        ofPicture frameId (framesBegun events status) <+: picture frameId nals := by
  have hbegun : ofPicture frameId (framesBegun events status) <+:
      ofPicture frameId (pictures (encodedPictures events)) :=
    (displays_sendDisplayFrames events status h).sent.begun.filter _
  by_cases hmem : frameId ∈ (encodedPictures events).map Prod.fst
  · obtain ⟨⟨_, nals⟩, hpicture, rfl⟩ := List.mem_map.mp hmem
    rw [ofPicture_pictures (nodup_numbers h) hpicture] at hbegun
    exact .inr ⟨nals, hpicture, hbegun⟩
  · rw [ofPicture_pictures_of_notMem hmem] at hbegun
    exact .inl (List.prefix_nil.mp hbegun)

/-- Whatever the encoder returns, the sender sends it. -/
theorem sends_pictures (outputs : UInt32 → List (List UInt8)) :
    ∃ events, sendDisplayFrames.ComesTo events (.ok ()) ∧ Encodes outputs events ∧
      ∀ frameId < displayFrameCount,
        (UInt32.ofNat frameId, outputs (UInt32.ofNat frameId)) ∈ encodedPictures events ∧
        ofPicture (UInt32.ofNat frameId) (framesBegun events (.ok () : Except HandlerStop Unit)) =
          picture (UInt32.ofNat frameId) (outputs (UInt32.ofNat frameId)) := by
  obtain ⟨events, hcomes, hencodes, hall⟩ := exists_run outputs
  refine ⟨events, hcomes, hencodes, fun frameId hframe => ⟨hall frameId hframe, ?_⟩⟩
  have hsent := (displays_sendDisplayFrames events _ hcomes).sent
  rw [framesBegun, hsent.called]
  exact (congrArg _ (List.append_nil _)).trans
    (ofPicture_pictures (nodup_numbers hcomes) (hall frameId hframe))

/-- The slices of every picture are numbered as the wire format says exactly when no picture
has more than 255 of them. -/
theorem slices_numbered_iff (outputs : UInt32 → List (List UInt8)) :
    (∀ (events : List HandlerEvent) (status : Except HandlerStop Unit),
      sendDisplayFrames.ComesTo events status → Encodes outputs events →
      ∀ frameId, SlicesNumbered (ofPicture frameId (framesBegun events status))) ↔
    ∀ frameId < displayFrameCount, (outputs (UInt32.ofNat frameId)).length ≤ 255 := by
  constructor
  · intro h frameId hframe
    obtain ⟨events, hcomes, hencodes, hpictures⟩ := sends_pictures outputs
    have hnumbered := h events (.ok ()) hcomes hencodes (UInt32.ofNat frameId)
    rw [(hpictures frameId hframe).2] at hnumbered
    by_contra hlarge
    exact not_slicesNumbered_picture (by omega) hnumbered
  · intro h events status hcomes hencodes frameId
    obtain hnone | ⟨nals, hmem, hprefix⟩ := ofPicture_framesBegun hcomes frameId
    · rw [hnone]
      exact ⟨nofun, nofun, nofun, rfl⟩
    · have hnumber : frameId ∈ (List.range displayFrameCount).map UInt32.ofNat :=
        (displays_sendDisplayFrames events status hcomes).numbers.subset
          (List.mem_map.mpr ⟨_, hmem, rfl⟩)
      obtain ⟨number, hrange, rfl⟩ := List.mem_map.mp hnumber
      apply slicesNumbered_of_prefix _ hprefix
      rw [hencodes _ _ hmem]
      exact h number (List.mem_range.mp hrange)

/-- The encoder returns 256 NAL units for the first picture. -/
theorem manySlices_misnumbered :
    ∃ events : List HandlerEvent, sendDisplayFrames.ComesTo events (.ok ()) ∧
      (0, List.replicate 256 [0x65]) ∈ encodedPictures events ∧
      ofPicture 0 (framesBegun events (.ok () : Except HandlerStop Unit)) =
        picture 0 (List.replicate 256 [0x65]) ∧
      ¬ SlicesNumbered (ofPicture 0 (framesBegun events (.ok () : Except HandlerStop Unit))) := by
  obtain ⟨events, hcomes, -, hpictures⟩ := sends_pictures fun _ => List.replicate 256 [0x65]
  obtain ⟨hmem, hfirst⟩ := hpictures 0 (by decide)
  refine ⟨events, hcomes, hmem, hfirst, fun hnumbered => ?_⟩
  apply not_slicesNumbered_picture _ (hfirst ▸ hnumbered)
  rw [List.length_replicate]
  omega

end OpenRD.Server
