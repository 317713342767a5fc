import OpenRD.Session.DisplayReceiver

/-!
# Video from the encoder to the dump

What the sender writes for the encoder's pictures is what the receiver can read, and the
units it cuts out of the slices are the encoder's.
-/

namespace OpenRD.Session

open OpenRD.Foundation OpenRD.Proto OpenRD.Server
open OpenRD.TestClient (sliceNal)

/-! ## The sender's pictures -/

/-- The frames of one picture: a header, a slice for each unit in order and an end, all with
its number. -/
structure IsGroup (frameId : UInt32) (nals : List (List UInt8)) (group : List SentFrame) :
    Prop where
  types : group.map Prod.fst = DisplayFrameType.frameHeader.toU8 ::
    List.replicate nals.length DisplayFrameType.frameSlice.toU8 ++
      [DisplayFrameType.frameEnd.toU8]
  numbers : ∀ frame ∈ group, u32OfLeBytes (frame.2.take 4) = frameId
  units : nalsOf group = nals

section Picture

variable {frameId : UInt32} {nals : List (List UInt8)}

/-- What is cut out of a slice after its first six bytes and its length field. -/
theorem sliceNal_append {first nal : List UInt8} {word : UInt32} (hfirst : first.length = 6)
    (hword : word.toNat = nal.length) : sliceNal (first ++ u32ToLeBytes word ++ nal) = nal := by
  have hlength : (first ++ u32ToLeBytes word).length = 10 := by
    rw [List.length_append, hfirst, length_u32ToLeBytes]
  have hfield : ((first ++ u32ToLeBytes word ++ nal).drop 6).take 4 = u32ToLeBytes word := by
    rw [List.append_assoc, List.drop_left' hfirst, List.take_left' (length_u32ToLeBytes word)]
  have hrest : (first ++ u32ToLeBytes word ++ nal).length - 10 = nal.length := by
    rw [List.length_append, hlength]
    omega
  rw [sliceNal, hfield, hrest, u32OfLeBytes_toLeBytes, hword, Nat.min_self, List.drop_left' hlength,
    List.take_length]

theorem length_pictureSlice (frameId : UInt32) (nSlices : UInt8) (sliceIdx : Nat)
    (nal : List UInt8) :
    (pictureSlice frameId nSlices sliceIdx nal).2.length = 10 + nal.length := by
  simp only [pictureSlice, List.length_append, length_u32ToLeBytes, List.length_cons,
    List.length_nil]

theorem nalsOf_pictureSlice (frameId : UInt32) (nSlices : UInt8) (sliceIdx : Nat)
    {nal : List UInt8} (h : nal.length ≤ maxFrameLength) :
    nalsOf [pictureSlice frameId nSlices sliceIdx nal] = [nal] := by
  have hword : (UInt32.ofNat nal.length).toNat = nal.length :=
    UInt32.toNat_ofNat_of_lt' (by simp only [maxFrameLength, UInt32.size] at h ⊢; omega)
  have hcut : sliceNal (pictureSlice frameId nSlices sliceIdx nal).2 = nal :=
    sliceNal_append (by simp) hword
  have hlong : (pictureSlice frameId nSlices sliceIdx nal).2.length ≥ 10 := by
    rw [length_pictureSlice]
    omega
  have hslice := nalsOf_slice (pictureSlice frameId nSlices sliceIdx nal).2
  rwa [if_pos hlong, hcut] at hslice

theorem nalsOf_pictureSlices (frameId : UInt32) (nSlices : UInt8) (sliceIdx : Nat)
    (h : ∀ nal ∈ nals, nal.length ≤ maxFrameLength) :
    nalsOf (pictureSlices frameId nSlices sliceIdx nals) = nals := by
  induction nals generalizing sliceIdx with
  | nil => rfl
  | cons nal nals ih =>
      rw [pictureSlices, ← List.singleton_append, nalsOf_append,
        nalsOf_pictureSlice _ _ _ (h nal (.head _)),
        ih (sliceIdx + 1) fun nal hnal => h nal (.tail _ hnal), List.singleton_append]

theorem types_pictureSlices (frameId : UInt32) (nSlices : UInt8) (sliceIdx : Nat)
    (nals : List (List UInt8)) :
    (pictureSlices frameId nSlices sliceIdx nals).map Prod.fst =
      List.replicate nals.length DisplayFrameType.frameSlice.toU8 := by
  induction nals generalizing sliceIdx with
  | nil => rfl
  | cons nal nals ih =>
      exact congrArg (DisplayFrameType.frameSlice.toU8 :: ·) (ih (sliceIdx + 1))

theorem picture_of_units (h : nals ≠ []) :
    picture frameId nals = pictureHeader frameId (UInt8.ofNat (min nals.length 255)) ::
      pictureSlices frameId (UInt8.ofNat (min nals.length 255)) 0 nals ++
        [pictureEnd frameId] := by
  cases nals with
  | nil => exact absurd rfl h
  | cons nal nals => rfl

theorem nalsOf_picture (h : ∀ nal ∈ nals, nal.length ≤ maxFrameLength) :
    nalsOf (picture frameId nals) = nals := by
  by_cases hnals : nals = []
  · rw [hnals]
    rfl
  · rw [picture_of_units hnals, ← List.singleton_append, nalsOf_append, nalsOf_append,
      nalsOf_pictureSlices _ _ _ h]
    exact List.append_nil nals

theorem isGroup_picture (hnals : nals ≠ [])
    (h : ∀ nal ∈ nals, nal.length ≤ maxFrameLength) :
    IsGroup frameId nals (picture frameId nals) := by
  refine ⟨?_, fun frame => frameId_of_picture, nalsOf_picture h⟩
  rw [picture_of_units hnals, List.map_append, List.map_cons, types_pictureSlices]
  rfl

/-- The most bytes a unit has when its slice is within the length cap. -/
def maxNalLength : Nat := maxFrameLength - 10

theorem displayFrames_picture (h : ∀ nal ∈ nals, nal.length ≤ maxNalLength) :
    DisplayFrames (picture frameId nals) := by
  have hslices (nSlices : UInt8) (sliceIdx : Nat) :
      DisplayFrames (pictureSlices frameId nSlices sliceIdx nals) := by
    induction nals generalizing sliceIdx with
    | nil => exact nofun
    | cons nal nals ih =>
        intro frame hframe
        cases hframe with
        | head =>
            refine ⟨⟨.frameSlice, rfl⟩, ?_⟩
            have hnal := h nal (.head _)
            rw [length_pictureSlice]
            simp only [maxNalLength, maxFrameLength] at hnal ⊢
            omega
        | tail _ hframe =>
            exact ih (fun nal hnal => h nal (.tail _ hnal)) (sliceIdx + 1) frame hframe
  by_cases hnals : nals = []
  · rw [hnals]
    exact nofun
  · rw [picture_of_units hnals]
    intro frame hframe
    simp only [List.mem_cons, List.mem_append, List.cons_append, List.not_mem_nil,
      or_false] at hframe
    rcases hframe with rfl | hframe | rfl
    · exact ⟨⟨.frameHeader, rfl⟩, by simp [pictureHeader, maxFrameLength]⟩
    · exact hslices _ _ frame hframe
    · exact ⟨⟨.frameEnd, rfl⟩, by simp [pictureEnd, maxFrameLength]⟩

theorem countOf_eq_count (kind : DisplayFrameType) (frames : List SentFrame) :
    countOf kind frames = (frames.map Prod.fst).count kind.toU8 := by
  induction frames with
  | nil => rfl
  | cons frame frames ih =>
      have hrest : (payloadsOf kind frames).length = (frames.map Prod.fst).count kind.toU8 := ih
      rw [List.map_cons, List.count_cons, ← hrest, countOf, payloadsOf, List.filterMap_cons]
      cases hkind : frame.1 == kind.toU8 <;> rfl

theorem IsGroup.countOf {group : List SentFrame} (h : IsGroup frameId nals group)
    (kind : DisplayFrameType) :
    countOf kind group =
      match kind with
      | .frameHeader => 1
      | .frameSlice => nals.length
      | .frameEnd => 1
      | .streamParameters => 0 := by
  rw [countOf_eq_count, h.types, List.count_append, List.count_cons, List.count_replicate]
  cases kind <;> simp [DisplayFrameType.toU8]

end Picture

section Pictures

/-- Pictures that have units. -/
def Filled (shown : List (UInt32 × List (List UInt8))) : Prop :=
  ∀ picture ∈ shown, picture.2 ≠ []

variable {shown : List (UInt32 × List (List UInt8))}

def unitsOf (shown : List (UInt32 × List (List UInt8))) : List (List UInt8) :=
  shown.flatMap Prod.snd

theorem nalsOf_pictures (h : ∀ nal ∈ unitsOf shown, nal.length ≤ maxFrameLength) :
    nalsOf (pictures shown) = unitsOf shown := by
  induction shown with
  | nil => rfl
  | cons head shown ih =>
      have hunits : unitsOf (head :: shown) = head.2 ++ unitsOf shown := rfl
      have hpictures : pictures (head :: shown) = picture head.1 head.2 ++ pictures shown := rfl
      rw [hunits] at h ⊢
      rw [hpictures, nalsOf_append, nalsOf_picture fun nal hnal => h nal (by simp [hnal]),
        ih fun nal hnal => h nal (by simp [hnal])]

theorem displayFrames_pictures (h : ∀ nal ∈ unitsOf shown, nal.length ≤ maxNalLength) :
    DisplayFrames (pictures shown) := by
  intro frame hframe
  obtain ⟨⟨frameId, nals⟩, hmem, hpicture⟩ := List.mem_flatMap.mp hframe
  exact displayFrames_picture (fun nal hnal => h nal (List.mem_flatMap.mpr ⟨_, hmem, hnal⟩))
    frame hpicture

theorem countOf_pictures (hfilled : Filled shown)
    (h : ∀ nal ∈ unitsOf shown, nal.length ≤ maxFrameLength) (kind : DisplayFrameType) :
    countOf kind (pictures shown) =
      match kind with
      | .frameHeader => shown.length
      | .frameSlice => (unitsOf shown).length
      | .frameEnd => shown.length
      | .streamParameters => 0 := by
  induction shown with
  | nil => cases kind <;> rfl
  | cons head shown ih =>
      have hunits : unitsOf (head :: shown) = head.2 ++ unitsOf shown := rfl
      have hpictures : pictures (head :: shown) = picture head.1 head.2 ++ pictures shown := rfl
      rw [hunits] at h
      have hgroup : IsGroup head.1 head.2 (picture head.1 head.2) :=
        isGroup_picture (hfilled _ (.head _)) fun nal hnal => h nal (by simp [hnal])
      rw [hpictures, countOf_append, hgroup.countOf,
        ih (fun picture hpicture => hfilled _ (.tail _ hpicture)) fun nal hnal =>
          h nal (by simp [hnal])]
      cases kind <;> simp [hunits, Nat.add_comm]

theorem length_pictures (hfilled : Filled shown) :
    (pictures shown).length = 2 * shown.length + (unitsOf shown).length := by
  induction shown with
  | nil => rfl
  | cons head shown ih =>
      have hunits : unitsOf (head :: shown) = head.2 ++ unitsOf shown := rfl
      have hpictures : pictures (head :: shown) = picture head.1 head.2 ++ pictures shown := rfl
      rw [hunits, hpictures, List.length_append, List.length_append,
        ih fun picture hpicture => hfilled _ (.tail _ hpicture),
        picture_of_units (hfilled _ (.head _))]
      simp only [List.length_append, List.length_cons, List.length_nil, length_pictureSlices]
      omega

theorem length_wire_le {frames : List SentFrame} (h : DisplayFrames frames) :
    (wire frames).length ≤ frames.length * (maxFrameLength + FrameHeader.size) := by
  induction frames with
  | nil => exact Nat.zero_le _
  | cons frame frames ih =>
      have hrest := ih fun frame hframe => h frame (.tail _ hframe)
      have hfits := (h frame (.head _)).2
      rw [wire_cons, List.length_append, SentFrame.bytes, length_encode, List.length_cons,
        Nat.add_mul]
      omega

theorem length_flatten_le {nals : List (List UInt8)} {bound : Nat}
    (h : ∀ nal ∈ nals, nal.length ≤ bound) : nals.flatten.length ≤ nals.length * bound := by
  induction nals with
  | nil => exact Nat.zero_le _
  | cons nal nals ih =>
      have hrest := ih fun nal hnal => h nal (.tail _ hnal)
      have hfirst := h nal (.head _)
      rw [List.flatten_cons, List.length_append, List.length_cons, Nat.add_mul]
      omega

/-- What the server writes on the Display stream for these pictures. -/
def displayFrames (shown : List (UInt32 × List (List UInt8))) : List SentFrame :=
  (DisplayFrameType.streamParameters.toU8, streamParameters) :: pictures shown

theorem displayFrames_fit (h : ∀ nal ∈ unitsOf shown, nal.length ≤ maxNalLength) :
    DisplayFrames (displayFrames shown) := by
  intro frame hframe
  cases hframe with
  | head => exact ⟨⟨.streamParameters, rfl⟩, by decide⟩
  | tail _ hframe => exact displayFrames_pictures h frame hframe

theorem nalsOf_displayFrames (h : ∀ nal ∈ unitsOf shown, nal.length ≤ maxNalLength) :
    nalsOf (displayFrames shown) = unitsOf shown := by
  rw [displayFrames, ← List.singleton_append, nalsOf_append, nalsOf_pictures fun nal hnal =>
    (h nal hnal).trans (Nat.sub_le _ _)]
  rfl

theorem countOf_displayFrames (hfilled : Filled shown)
    (h : ∀ nal ∈ unitsOf shown, nal.length ≤ maxNalLength) (kind : DisplayFrameType) :
    countOf kind (displayFrames shown) =
      match kind with
      | .frameHeader => shown.length
      | .frameSlice => (unitsOf shown).length
      | .frameEnd => shown.length
      | .streamParameters => 1 := by
  rw [displayFrames, ← List.singleton_append, countOf_append, countOf_pictures hfilled
    fun nal hnal => (h nal hnal).trans (Nat.sub_le _ _)]
  cases kind <;> simp [countOf, payloadsOf, DisplayFrameType.toU8]

theorem length_wire_displayFrames (hfilled : Filled shown)
    (h : ∀ nal ∈ unitsOf shown, nal.length ≤ maxNalLength)
    (hshown : shown.length ≤ displayFrameCount) (hcount : (unitsOf shown).length ≤ 2 ^ 32) :
    (wire (displayFrames shown)).length < 2 ^ 64 := by
  have hframes : (displayFrames shown).length ≤ 2 ^ 32 + 61 := by
    rw [displayFrames, List.length_cons, length_pictures hfilled]
    simp only [displayFrameCount] at hshown
    omega
  have hwire := length_wire_le (displayFrames_fit h)
  simp only [maxFrameLength, FrameHeader.size] at hwire
  omega

theorem countable_displayFrames (hfilled : Filled shown)
    (h : ∀ nal ∈ unitsOf shown, nal.length ≤ maxNalLength)
    (hshown : shown.length ≤ displayFrameCount) (hcount : (unitsOf shown).length < 2 ^ 32) :
    Countable (displayFrames shown) := by
  refine ⟨fun kind => ?_, length_wire_displayFrames hfilled h hshown hcount.le, ?_⟩
  · rw [countOf_displayFrames hfilled h]
    simp only [displayFrameCount] at hshown
    cases kind <;> simp only <;> omega
  · rw [nalBytesOf, nalsOf_displayFrames h]
    have hbytes := length_flatten_le h
    simp only [maxNalLength, maxFrameLength] at hbytes
    omega

end Pictures

/-! ## From the encoder to the dump -/

/-- What the encoder returns for each picture. -/
def encoderPictures (outputs : UInt32 → List (List UInt8)) :
    List (UInt32 × List (List UInt8)) :=
  ((List.range displayFrameCount).map UInt32.ofNat).map fun frameId => (frameId, outputs frameId)

/-- The pictures there are units of, in the order of their numbers. -/
def shownPictures (outputs : UInt32 → List (List UInt8)) : List (UInt32 × List (List UInt8)) :=
  (encoderPictures outputs).filter fun picture => !picture.2.isEmpty

theorem filled_shownPictures (outputs : UInt32 → List (List UInt8)) :
    Filled (shownPictures outputs) := by
  intro picture hpicture
  have hfilled := (List.mem_filter.mp hpicture).2
  rintro hnone
  rw [hnone] at hfilled
  cases hfilled

theorem length_shownPictures_le (outputs : UInt32 → List (List UInt8)) :
    (shownPictures outputs).length ≤ displayFrameCount := by
  refine (List.length_filter_le _ _).trans ?_
  rw [encoderPictures, List.length_map, List.length_map, List.length_range]

theorem increasing_shownPictures (outputs : UInt32 → List (List UInt8)) :
    ((shownPictures outputs).map Prod.fst).Pairwise (· < ·) := by
  have hall : ((List.range displayFrameCount).map UInt32.ofNat).Pairwise (· < ·) := by decide
  have hnumbers : (encoderPictures outputs).map Prod.fst =
      (List.range displayFrameCount).map UInt32.ofNat := by
    rw [encoderPictures, List.map_map]
    exact List.map_id _
  rw [← hnumbers] at hall
  exact hall.sublist (List.filter_sublist.map _)

theorem pictures_filter (encoded : List (UInt32 × List (List UInt8))) :
    pictures (encoded.filter fun picture => !picture.2.isEmpty) = pictures encoded := by
  induction encoded with
  | nil => rfl
  | cons head encoded ih =>
      obtain ⟨frameId, nals⟩ := head
      cases nals with
      | nil => exact ih
      | cons nal nals => exact congrArg (picture frameId (nal :: nals) ++ ·) ih

/-- The pictures encoded so far are the first ones. -/
theorem prefix_encoderPictures {outputs : UInt32 → List (List UInt8)}
    {events : List HandlerEvent} {status : Except HandlerStop Unit}
    (h : sendDisplayFrames.ComesTo events status) (hencodes : Encodes outputs events) :
    encodedPictures events <+: encoderPictures outputs := by
  have hself : encodedPictures events =
      ((encodedPictures events).map Prod.fst).map fun frameId => (frameId, outputs frameId) := by
    rw [List.map_map]
    refine ((List.map_congr_left fun picture hpicture => ?_).trans (List.map_id _)).symm
    exact Prod.ext rfl (hencodes _ _ hpicture).symm
  rw [hself]
  exact (displays_sendDisplayFrames events status h).numbers.map _

theorem prefix_shownPictures {outputs : UInt32 → List (List UInt8)}
    {events : List HandlerEvent} {status : Except HandlerStop Unit}
    (h : sendDisplayFrames.ComesTo events status) (hencodes : Encodes outputs events) :
    framesBegun events status <+: pictures (shownPictures outputs) := by
  obtain ⟨rest, hrest⟩ := prefix_encoderPictures h hencodes
  rw [shownPictures, pictures_filter, ← hrest, pictures, List.flatMap_append]
  exact (displays_sendDisplayFrames events status h).sent.begun.trans (List.prefix_append _ _)

theorem framesWritten_eq_shownPictures {outputs : UInt32 → List (List UInt8)}
    {events : List HandlerEvent} (h : sendDisplayFrames.ComesTo events (.ok ()))
    (hencodes : Encodes outputs events) :
    framesWritten events = pictures (shownPictures outputs) := by
  have hdisplayed := displays_sendDisplayFrames events _ h
  have hencoded : encodedPictures events = encoderPictures outputs := by
    refine (prefix_encoderPictures h hencodes).eq_of_length ?_
    have hlength := congrArg List.length (hdisplayed.all () rfl)
    rwa [List.length_map, ← List.length_map (fun frameId => (frameId, outputs frameId))]
      at hlength
  rw [shownPictures, pictures_filter, ← hencoded]
  exact hdisplayed.sent.all () rfl

theorem groups_shownPictures {outputs : UInt32 → List (List UInt8)}
    (h : ∀ nal ∈ unitsOf (shownPictures outputs), nal.length ≤ maxNalLength) :
    List.Forall₂ (fun shown group => IsGroup shown.1 shown.2 group) (shownPictures outputs)
      ((shownPictures outputs).map fun shown => picture shown.1 shown.2) := by
  rw [List.forall₂_map_right_iff]
  refine List.forall₂_same.mpr fun shown hshown => ?_
  apply isGroup_picture (filled_shownPictures outputs shown hshown)
  intro nal hnal
  have hbound := h nal (List.mem_flatMap.mpr ⟨shown, hshown, hnal⟩)
  exact hbound.trans (Nat.sub_le _ _)

/-- The receiver on what the server has written, and how its counters end. -/
theorem receiver_on_displayFrames {shown : List (UInt32 × List (List UInt8))}
    (hfilled : Filled shown) (hlength : shown.length ≤ displayFrameCount)
    (h : ∀ nal ∈ unitsOf shown, nal.length ≤ maxNalLength) (overflowChecks : Bool)
    (hcount : overflowChecks = true → (unitsOf shown).length < 2 ^ 32) (dumpPath : String)
    (cuts : List Nat) (old : List UInt8) :
    ∃ summary, EndsWith (receiverStart overflowChecks dumpPath (displayFrames shown) cuts old)
        (annexB (unitsOf shown)) summary ∧
      summary.frames = summary.ends ∧
      summary.slices.toNat = (unitsOf shown).length % 2 ^ 32 := by
  obtain ⟨summary, hsummary, hends⟩ := receiver_endsWith (displayFrames_fit h)
    (fun hchecks => countable_displayFrames hfilled h hlength (hcount hchecks)) dumpPath cuts old
  rw [nalsOf_displayFrames h] at hends
  refine ⟨summary, hends, ?_, ?_⟩
  · apply UInt32.toNat_inj.mp
    rw [hsummary.frames, hsummary.ends, countOf_displayFrames hfilled h,
      countOf_displayFrames hfilled h]
  · rw [hsummary.slices, countOf_displayFrames hfilled h]

theorem unitsOf_filter (encoded : List (UInt32 × List (List UInt8))) :
    unitsOf (encoded.filter fun picture => !picture.2.isEmpty) = unitsOf encoded := by
  induction encoded with
  | nil => rfl
  | cons head encoded ih =>
      obtain ⟨frameId, nals⟩ := head
      cases nals with
      | nil => exact ih
      | cons nal nals => exact congrArg (nal :: nals ++ ·) ih

/-- Units of the first picture only. -/
def firstOnly (nals : List (List UInt8)) : UInt32 → List (List UInt8) := fun frameId =>
  if frameId = 0 then nals else []

theorem unitsOf_firstOnly (nals : List (List UInt8)) :
    unitsOf (shownPictures (firstOnly nals)) = nals := by
  have hnumbers : (List.range displayFrameCount).map UInt32.ofNat =
      0 :: (List.range' 1 29).map UInt32.ofNat := by decide
  have hrest : ((List.range' 1 29).map UInt32.ofNat).flatMap (firstOnly nals) = [] := by
    rw [List.flatMap_eq_nil_iff]
    intro frameId hmem
    obtain ⟨number, hnumber, rfl⟩ := List.mem_map.mp hmem
    have hrange := List.mem_range'_1.mp hnumber
    refine if_neg fun hzero => ?_
    have hvalue : number % 2 ^ 32 = 0 := congrArg UInt32.toNat hzero
    omega
  have hunits : unitsOf (encoderPictures (firstOnly nals)) =
      ((List.range displayFrameCount).map UInt32.ofNat).flatMap (firstOnly nals) := by
    rw [unitsOf, encoderPictures, List.flatMap_map]
  rw [shownPictures, unitsOf_filter, hunits, hnumbers, List.flatMap_cons, hrest,
    List.append_nil, firstOnly, if_pos rfl]

/-- In a build that does not check additions the counter of slices wraps. -/
theorem slices_wrap (nals : List (List UInt8)) (h : ∀ nal ∈ nals, nal.length ≤ maxNalLength) :
    ∃ events : List HandlerEvent, sendDisplayFrames.ComesTo events (.ok ()) ∧
      Encodes (firstOnly nals) events ∧
      ∃ summary, EndsWith (receiverStart false "/tmp/openrd-display.h264"
          ((DisplayFrameType.streamParameters.toU8, streamParameters) ::
            framesWritten events) [] []) (annexB nals) summary ∧
        summary.slices.toNat = nals.length % 2 ^ 32 := by
  obtain ⟨events, hcomes, hencodes, -⟩ := exists_run (firstOnly nals)
  obtain ⟨summary, hends, -, hslices⟩ := receiver_on_displayFrames
    (filled_shownPictures (firstOnly nals)) (length_shownPictures_le _)
    ((unitsOf_firstOnly nals).symm ▸ h) false nofun
    "/tmp/openrd-display.h264" [] []
  rw [unitsOf_firstOnly] at hends hslices
  refine ⟨events, hcomes, hencodes, summary, ?_, hslices⟩
  rw [framesWritten_eq_shownPictures hcomes hencodes]
  exact hends

/--
The sender writes a group of frames for each picture that has units, in the order of their
numbers, and the receiver's dump is made of exactly these units.  Its counter of slices is a
word of 32 bits.
-/
theorem video_arrives (outputs : UInt32 → List (List UInt8))
    (hsizes : ∀ nal ∈ unitsOf (shownPictures outputs), nal.length ≤ maxNalLength) :
    (∃ events : List HandlerEvent, sendDisplayFrames.ComesTo events (.ok ()) ∧
      Encodes outputs events) ∧
    ((shownPictures outputs).map Prod.fst).Pairwise (· < ·) ∧
    ∃ groups, List.Forall₂ (fun shown group => IsGroup shown.1 shown.2 group)
        (shownPictures outputs) groups ∧
      ∀ (events : List HandlerEvent) (status : Except HandlerStop Unit),
        sendDisplayFrames.ComesTo events status → Encodes outputs events →
        framesBegun events status <+: groups.flatten ∧
        (status = .ok () → framesWritten events = groups.flatten ∧
          ∀ overflowChecks dumpPath cuts old,
            (overflowChecks = true → (unitsOf (shownPictures outputs)).length < 2 ^ 32) →
            ∃ summary, EndsWith (receiverStart overflowChecks dumpPath
                ((DisplayFrameType.streamParameters.toU8, streamParameters) ::
                  framesWritten events) cuts old)
                (annexB (unitsOf (shownPictures outputs))) summary ∧
              summary.frames = summary.ends ∧
              summary.slices.toNat = (unitsOf (shownPictures outputs)).length % 2 ^ 32) := by
  refine ⟨?_, increasing_shownPictures outputs, _, groups_shownPictures hsizes, ?_⟩
  · obtain ⟨events, hcomes, hencodes, -⟩ := exists_run outputs
    exact ⟨events, hcomes, hencodes⟩
  · intro events status hcomes hencodes
    have hgroups : ((shownPictures outputs).map fun shown => picture shown.1 shown.2).flatten =
        pictures (shownPictures outputs) := rfl
    rw [hgroups]
    refine ⟨prefix_shownPictures hcomes hencodes, ?_⟩
    rintro rfl
    rw [framesWritten_eq_shownPictures hcomes hencodes]
    refine ⟨rfl, fun overflowChecks dumpPath cuts old hcount => ?_⟩
    exact receiver_on_displayFrames (filled_shownPictures outputs)
      (length_shownPictures_le outputs) hsizes overflowChecks hcount dumpPath cuts old

/-- Three units in the first picture, and a build that checks additions. -/
theorem video_arrives_sample :
    ∃ events : List HandlerEvent, sendDisplayFrames.ComesTo events (.ok ()) ∧
      ∃ summary, EndsWith (receiverStart true "/tmp/openrd-display.h264"
          ((DisplayFrameType.streamParameters.toU8, streamParameters) ::
            framesWritten events) [3, 1] [0xFF])
          [0, 0, 0, 1, 0x67, 0x42, 0, 0, 0, 1, 0x68, 0, 0, 0, 1, 0x65, 0x88] summary ∧
        summary.frames = summary.ends ∧ summary.slices.toNat = 3 := by
  obtain ⟨⟨events, hcomes, hencodes⟩, -, groups, -, hruns⟩ :=
    video_arrives (firstOnly [[0x67, 0x42], [0x68], [0x65, 0x88]]) (by decide)
  obtain ⟨-, hall⟩ := hruns events (.ok ()) hcomes hencodes
  obtain ⟨-, hreceiver⟩ := hall rfl
  exact ⟨events, hcomes, hreceiver true "/tmp/openrd-display.h264" [3, 1] [0xFF]
    (fun _ => by decide)⟩

/-- As many units as bring the counter of slices back to zero. -/
theorem units_miscounted :
    (∀ nal ∈ List.replicate (2 ^ 32) ([0x65] : List UInt8), nal.length ≤ maxNalLength) ∧
    ∃ events : List HandlerEvent, sendDisplayFrames.ComesTo events (.ok ()) ∧
      Encodes (firstOnly (List.replicate (2 ^ 32) [0x65])) events ∧
      ∃ summary, EndsWith (receiverStart false "/tmp/openrd-display.h264"
          ((DisplayFrameType.streamParameters.toU8, streamParameters) ::
            framesWritten events) [] [])
          (annexB (List.replicate (2 ^ 32) [0x65])) summary ∧
        summary.slices.toNat ≠ (List.replicate (2 ^ 32) ([0x65] : List UInt8)).length := by
  have hsmall : ∀ nal ∈ List.replicate (2 ^ 32) ([0x65] : List UInt8),
      nal.length ≤ maxNalLength := by
    intro nal hnal
    rw [List.eq_of_mem_replicate hnal]
    decide
  refine ⟨hsmall, ?_⟩
  obtain ⟨events, hcomes, hencodes, summary, hends, hslices⟩ := slices_wrap _ hsmall
  refine ⟨events, hcomes, hencodes, summary, hends, ?_⟩
  rw [hslices, List.length_replicate]
  decide

end OpenRD.Session
