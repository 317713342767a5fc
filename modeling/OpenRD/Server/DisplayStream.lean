import OpenRD.Server.Passes

/-!
# The Display stream

For each picture the encoder returns, the sender writes a header, a slice for each NAL
unit and an end, in this order.
-/

namespace OpenRD.Server

open OpenRD.Foundation OpenRD.Proto Handler

/-! ## Programs that write given frames -/

/-- The frames begun are the first of `frames`, and all of them once the program is over. -/
structure Sent {α : Type} (frames : List (UInt8 × List UInt8)) (events : List HandlerEvent)
    (status : Except HandlerStop α) : Prop where
  begun : framesBegun events status <+: frames
  written : framesWritten events <+: framesCalled events
  all : ∀ value, status = .ok value → framesWritten events = frames

def Sends {α : Type} (frames : List (UInt8 × List UInt8)) (program : HandlerProg α) : Prop :=
  ∀ events status, program.ComesTo events status → Sent frames events status

section Sends

variable {α β : Type} {frames frames' : List (UInt8 × List UInt8)} {f : α → HandlerProg β}

theorem sends_pure (value : α) : Sends [] (pure value : HandlerProg α) := by
  intro events status h
  obtain ⟨rfl, rfl⟩ := Prog.comesTo_pure.mp h
  exact ⟨List.prefix_rfl, List.prefix_rfl, fun _ _ => rfl⟩

theorem sends_say_bind {output : HandlerLog} {f : Unit → HandlerProg β}
    (h : Sends frames (f ())) : Sends frames (.say output >>= f) := by
  intro events status hcomes
  obtain ⟨rest, rfl, hrest⟩ := Prog.comesTo_say_bind.mp hcomes
  obtain ⟨hbegun, hwritten, hall⟩ := h rest status hrest
  exact ⟨hbegun, hwritten, hall⟩

/-- What a program asks before it writes, and which answer it goes on with. -/
theorem sends_call_bind {question : HandlerRequest}
    {result : question.Answer → Except Error α}
    (hcall : ∀ answer, callOf (.asked question answer) = none)
    (haccepted : ∀ answer, acceptedOf (.asked question answer) = none)
    (hpending : pendingFrame (.error (.waiting question) : Except HandlerStop β) = none)
    (h : ∀ value, Sends frames (f value)) : Sends frames (.call question result >>= f) := by
  intro events status hcomes
  obtain ⟨rfl, rfl⟩ | ⟨answer, rest, rfl, hrest⟩ := Prog.comesTo_call_bind.mp hcomes
  · refine ⟨?_, List.prefix_rfl, nofun⟩
    rw [framesBegun, hpending]
    exact List.nil_prefix
  · have hcalled : framesCalled (.asked question answer :: rest) = framesCalled rest := by
      rw [framesCalled, List.filterMap_cons, hcall]
      rfl
    have hwritten : framesWritten (.asked question answer :: rest) = framesWritten rest := by
      rw [framesWritten, List.filterMap_cons, haccepted]
      rfl
    suffices hsent : Sent frames rest status by
      obtain ⟨hbegun, hprefix, hall⟩ := hsent
      refine ⟨?_, ?_, fun value hvalue => hwritten.trans (hall value hvalue)⟩
      · rwa [framesBegun, hcalled]
      · rwa [hwritten, hcalled]
    cases hresult : result answer with
    | ok value =>
        rw [hresult] at hrest
        exact h value rest status hrest
    | error error =>
        rw [hresult] at hrest
        obtain ⟨rfl, rfl⟩ := hrest
        exact ⟨List.nil_prefix, List.prefix_rfl, nofun⟩

theorem sends_call {question : HandlerRequest} {result : question.Answer → Except Error α}
    (hcall : ∀ answer, callOf (.asked question answer) = none)
    (haccepted : ∀ answer, acceptedOf (.asked question answer) = none)
    (hpending : pendingFrame (.error (.waiting question) : Except HandlerStop α) = none) :
    Sends [] (.call question result : HandlerProg α) := by
  rw [← Prog.bind_ret (.call question result)]
  exact sends_call_bind hcall haccepted hpending sends_pure

theorem sends_write_bind {frameType : UInt8} {payload : List UInt8}
    {f : Unit → HandlerProg β} (h : Sends frames (f ())) :
    Sends ((frameType, payload) :: frames) (writeFrame frameType payload >>= f) := by
  intro events status hcomes
  obtain ⟨rfl, rfl⟩ | ⟨answer, rest, rfl, hrest⟩ := Prog.comesTo_call_bind.mp hcomes
  · exact ⟨⟨frames, rfl⟩, List.prefix_rfl, nofun⟩
  · cases answer with
    | error error =>
        obtain ⟨rfl, rfl⟩ := hrest
        exact ⟨⟨frames, rfl⟩, List.nil_prefix, nofun⟩
    | ok value =>
        obtain ⟨hbegun, hwritten, hall⟩ := h rest status hrest
        exact ⟨List.cons_prefix_cons.mpr ⟨rfl, hbegun⟩,
          List.cons_prefix_cons.mpr ⟨rfl, hwritten⟩,
          fun value hvalue => congrArg ((frameType, payload) :: ·) (hall value hvalue)⟩

theorem Sent.called {value : α} {events : List HandlerEvent}
    (h : Sent frames events (.ok value : Except HandlerStop α)) :
    framesCalled events = frames := by
  have hbegun : framesCalled events <+: frames := by
    simpa [framesBegun, pendingFrame] using h.begun
  have hall := h.all value rfl
  exact hbegun.eq_of_length_le (hall ▸ h.written.length_le)

theorem Sent.append {value : α} {status : Except HandlerStop β} {first rest : List HandlerEvent}
    (h : Sent frames first (.ok value : Except HandlerStop α)) (hrest : Sent frames' rest status) :
    Sent (frames ++ frames') (first ++ rest) status := by
  obtain ⟨hbegun, hwritten, hall⟩ := hrest
  have hcalled := h.called
  have hfirst := h.all value rfl
  refine ⟨?_, ?_, fun value hvalue => ?_⟩
  · rw [framesBegun, framesCalled_append, hcalled, List.append_assoc]
    exact (List.prefix_append_right_inj frames).mpr hbegun
  · rw [framesWritten_append, framesCalled_append, hcalled, hfirst]
    exact (List.prefix_append_right_inj frames).mpr hwritten
  · rw [framesWritten_append, hfirst, hall value hvalue]

theorem Sent.stopped {stop : HandlerStop} {events : List HandlerEvent}
    (h : Sent frames events (.error stop : Except HandlerStop α)) :
    Sent frames events (.error stop : Except HandlerStop β) := by
  have hpending : pendingFrame (.error stop : Except HandlerStop β) =
      pendingFrame (.error stop : Except HandlerStop α) := pendingFrame_error stop
  refine ⟨?_, h.written, nofun⟩
  rw [framesBegun, hpending]
  exact h.begun

theorem Sent.mono {status : Except HandlerStop α} {events : List HandlerEvent}
    (h : Sent frames events status) (hstatus : ∀ value, status ≠ .ok value) :
    Sent (frames ++ frames') events status :=
  ⟨h.begun.trans (List.prefix_append _ _), h.written,
    fun value hvalue => absurd hvalue (hstatus value)⟩

theorem Sends.bind {program : HandlerProg α} (h : Sends frames program)
    (hnext : ∀ value, Sends frames' (f value)) : Sends (frames ++ frames') (program >>= f) := by
  intro events status hcomes
  obtain ⟨stop, hstop, rfl⟩ | ⟨value, first, rest, rfl, hfirst, hrest⟩ :=
    Prog.comesTo_bind.mp hcomes
  · exact (h events _ hstop).stopped.mono nofun
  · exact (h first _ hfirst).append (hnext value rest status hrest)

end Sends

/-! ## The frames of a picture -/

def pictureHeader (frameId : UInt32) (nSlices : UInt8) : UInt8 × List UInt8 :=
  let flags : UInt8 := if frameId == 0 then 0x01 else 0x00
  let timestampUs := UInt64.ofNat (frameId.toNat * 1000000 / displayFps)
  (DisplayFrameType.frameHeader.toU8,
    u32ToLeBytes frameId ++ [flags] ++ toLeBytes 8 timestampUs.toNat ++ [nSlices, 0])

def pictureSlice (frameId : UInt32) (nSlices : UInt8) (sliceIdx : Nat) (nal : List UInt8) :
    UInt8 × List UInt8 :=
  (DisplayFrameType.frameSlice.toU8, u32ToLeBytes frameId ++ [UInt8.ofNat sliceIdx, nSlices] ++
    u32ToLeBytes (UInt32.ofNat nal.length) ++ nal)

def pictureEnd (frameId : UInt32) : UInt8 × List UInt8 :=
  (DisplayFrameType.frameEnd.toU8, u32ToLeBytes frameId)

/-- The slices of NAL units, which are numbered from `sliceIdx`. -/
def pictureSlices (frameId : UInt32) (nSlices : UInt8) :
    Nat → List (List UInt8) → List (UInt8 × List UInt8)
  | _, [] => []
  | sliceIdx, nal :: nals =>
      pictureSlice frameId nSlices sliceIdx nal ::
        pictureSlices frameId nSlices (sliceIdx + 1) nals

/-- What is written for the NAL units of a picture. -/
def picture (frameId : UInt32) (nals : List (List UInt8)) : List (UInt8 × List UInt8) :=
  let nSlices := UInt8.ofNat (min nals.length 255)
  if nals.isEmpty then []
  else pictureHeader frameId nSlices :: pictureSlices frameId nSlices 0 nals ++
    [pictureEnd frameId]

theorem frameId_of_pictureSlices {frameId : UInt32} {nSlices : UInt8} {sliceIdx : Nat}
    {nals : List (List UInt8)} {frame : UInt8 × List UInt8}
    (h : frame ∈ pictureSlices frameId nSlices sliceIdx nals) :
    u32OfLeBytes (frame.2.take 4) = frameId := by
  induction nals generalizing sliceIdx with
  | nil => cases h
  | cons nal nals ih =>
      cases h with
      | head => exact u32OfLeBytes_toLeBytes frameId
      | tail _ h => exact ih h

theorem frameId_of_picture {frameId : UInt32} {nals : List (List UInt8)}
    {frame : UInt8 × List UInt8} (h : frame ∈ picture frameId nals) :
    u32OfLeBytes (frame.2.take 4) = frameId := by
  unfold picture at h
  split at h
  · cases h
  · simp only [List.mem_cons, List.mem_append, List.cons_append, List.not_mem_nil,
      or_false] at h
    rcases h with rfl | h | rfl
    · exact u32OfLeBytes_toLeBytes frameId
    · exact frameId_of_pictureSlices h
    · exact u32OfLeBytes_toLeBytes frameId

theorem sends_sendSlices (frameId : UInt32) (nSlices : UInt8) (sliceIdx : Nat)
    (nals : List (List UInt8)) :
    Sends (pictureSlices frameId nSlices sliceIdx nals)
      (sendSlices frameId nSlices sliceIdx nals) := by
  induction nals generalizing sliceIdx with
  | nil => exact sends_pure ()
  | cons nal nals ih => exact sends_write_bind (ih (sliceIdx + 1))

/-- What the sender does with the NAL units of a picture. -/
def sendNals (frameId : UInt32) (nals : List (List UInt8)) : HandlerProg Unit :=
  if nals.isEmpty then return ()
  else do
    let nSlices := UInt8.ofNat (min nals.length 255)
    let isIdr := frameId == 0
    let flags : UInt8 := if isIdr then 0x01 else 0x00
    let timestampUs := UInt64.ofNat (frameId.toNat * 1000000 / displayFps)
    writeFrame DisplayFrameType.frameHeader.toU8
      (u32ToLeBytes frameId ++ [flags] ++ toLeBytes 8 timestampUs.toNat ++ [nSlices, 0])
    sendSlices frameId nSlices 0 nals
    writeFrame DisplayFrameType.frameEnd.toU8 (u32ToLeBytes frameId)
    .say (.displayFrame frameId isIdr nSlices (nals.map List.length).sum timestampUs)
    .call (.sleep (1000 / displayFps)) .ok

theorem sendDisplayFrame_eq (frameId : UInt32) :
    sendDisplayFrame frameId = Prog.call (.encode frameId) id >>= sendNals frameId := rfl

theorem sends_sendNals (frameId : UInt32) (nals : List (List UInt8)) :
    Sends (picture frameId nals) (sendNals frameId nals) := by
  unfold sendNals picture
  split
  · exact sends_pure ()
  · refine sends_write_bind ((sends_sendSlices _ _ _ _).bind fun _ => ?_)
    refine sends_write_bind (sends_say_bind ?_)
    exact sends_call (fun _ => rfl) (fun _ => rfl) rfl

/-! ## Frames by their type -/

def payloadsOf (frameType : DisplayFrameType) (frames : List (UInt8 × List UInt8)) :
    List (List UInt8) :=
  frames.filterMap fun frame => if frame.1 == frameType.toU8 then some frame.2 else none

theorem payloadsOf_append (frameType : DisplayFrameType)
    (first rest : List (UInt8 × List UInt8)) :
    payloadsOf frameType (first ++ rest) =
      payloadsOf frameType first ++ payloadsOf frameType rest :=
  List.filterMap_append

theorem payloadsOf_pictureSlices (frameId : UInt32) (nSlices : UInt8) (sliceIdx : Nat)
    (nals : List (List UInt8)) :
    payloadsOf .frameSlice (pictureSlices frameId nSlices sliceIdx nals) =
      (pictureSlices frameId nSlices sliceIdx nals).map Prod.snd := by
  induction nals generalizing sliceIdx with
  | nil => rfl
  | cons nal nals ih => exact congrArg ((pictureSlice frameId nSlices sliceIdx nal).2 :: ·) (ih _)

theorem payloadsOf_pictureSlices_of_ne {frameType : DisplayFrameType}
    (h : DisplayFrameType.frameSlice.toU8 ≠ frameType.toU8) (frameId : UInt32)
    (nSlices : UInt8) (sliceIdx : Nat) (nals : List (List UInt8)) :
    payloadsOf frameType (pictureSlices frameId nSlices sliceIdx nals) = [] := by
  induction nals generalizing sliceIdx with
  | nil => rfl
  | cons nal nals ih =>
      have hhead : ((pictureSlice frameId nSlices sliceIdx nal).1 == frameType.toU8) = false :=
        beq_eq_false_iff_ne.mpr h
      rw [pictureSlices, payloadsOf, List.filterMap_cons, hhead]
      exact ih (sliceIdx + 1)

theorem length_pictureSlices (frameId : UInt32) (nSlices : UInt8) (sliceIdx : Nat)
    (nals : List (List UInt8)) :
    (pictureSlices frameId nSlices sliceIdx nals).length = nals.length := by
  induction nals generalizing sliceIdx with
  | nil => rfl
  | cons nal nals ih => exact congrArg (· + 1) (ih (sliceIdx + 1))

/-- What stands after the slices that are sent: nothing, or the end of the picture. -/
def Closing (frameId : UInt32) (closing : List (UInt8 × List UInt8)) : Prop :=
  closing = [] ∨ closing = [pictureEnd frameId]

section Closing

variable {frameId : UInt32} {closing : List (UInt8 × List UInt8)}

theorem payloadsOf_closing (h : Closing frameId closing) {frameType : DisplayFrameType}
    (hne : frameType ≠ .frameEnd) : payloadsOf frameType closing = [] := by
  rcases h with rfl | rfl
  · rfl
  · cases frameType <;> first | rfl | exact absurd rfl hne

/-- A picture's frames by type. -/
theorem payloadsOf_group (nSlices : UInt8) (nals : List (List UInt8))
    (h : Closing frameId closing) :
    payloadsOf .frameHeader (pictureHeader frameId nSlices ::
        pictureSlices frameId nSlices 0 nals ++ closing) =
      [(pictureHeader frameId nSlices).2] ∧
    payloadsOf .frameSlice (pictureHeader frameId nSlices ::
        pictureSlices frameId nSlices 0 nals ++ closing) =
      (pictureSlices frameId nSlices 0 nals).map Prod.snd ∧
    payloadsOf .frameEnd (pictureHeader frameId nSlices ::
        pictureSlices frameId nSlices 0 nals ++ closing) = closing.map Prod.snd := by
  rw [← List.singleton_append]
  simp only [payloadsOf_append]
  refine ⟨?_, ?_, ?_⟩
  · rw [payloadsOf_pictureSlices_of_ne (by decide), payloadsOf_closing h (by decide)]
    rfl
  · rw [payloadsOf_pictureSlices, payloadsOf_closing h (by decide), List.append_nil]
    rfl
  · rw [payloadsOf_pictureSlices_of_ne (by decide)]
    rcases h with rfl | rfl <;> rfl

end Closing

/-! ## The pictures of a run -/

/-- A picture's number and its NAL units, as the encoder returns them. -/
def encodedOf : HandlerEvent → Option (UInt32 × List (List UInt8))
  | .asked (.encode frameId) (.ok nals) => some (frameId, nals)
  | _ => none

def encodedPictures (events : List HandlerEvent) : List (UInt32 × List (List UInt8)) :=
  events.filterMap encodedOf

def pictures (encoded : List (UInt32 × List (List UInt8))) : List (UInt8 × List UInt8) :=
  encoded.flatMap fun (frameId, nals) => picture frameId nals

/-- The pictures with these numbers are encoded and sent one after the other. -/
structure Displayed {α : Type} (frameIds : List UInt32) (events : List HandlerEvent)
    (status : Except HandlerStop α) : Prop where
  sent : Sent (pictures (encodedPictures events)) events status
  numbers : (encodedPictures events).map Prod.fst <+: frameIds
  all : ∀ value, status = .ok value → (encodedPictures events).map Prod.fst = frameIds

def Displays {α : Type} (frameIds : List UInt32) (program : HandlerProg α) : Prop :=
  ∀ events status, program.ComesTo events status → Displayed frameIds events status

section Displays

variable {α β : Type} {frameIds frameIds' : List UInt32}

theorem displayed_nothing {events : List HandlerEvent} {status : Except HandlerStop α}
    (hsent : Sent [] events status) (hencoded : encodedPictures events = []) :
    Displayed [] events status :=
  ⟨by rwa [hencoded], by rw [hencoded]; exact List.prefix_rfl, fun _ _ => by rw [hencoded]; rfl⟩

theorem displays_nothing {program : HandlerProg α} (hsends : Sends [] program)
    (hleaves : program.Leaves encodedOf []) : Displays [] program :=
  fun events status hcomes =>
    displayed_nothing (hsends events status hcomes) (hleaves events status hcomes)

theorem Displays.bind {program : HandlerProg α} {f : α → HandlerProg β}
    (h : Displays frameIds program) (hnext : ∀ value, Displays frameIds' (f value)) :
    Displays (frameIds ++ frameIds') (program >>= f) := by
  intro events status hcomes
  obtain ⟨stop, hstop, rfl⟩ | ⟨value, first, rest, rfl, hfirst, hrest⟩ :=
    Prog.comesTo_bind.mp hcomes
  · obtain ⟨hsent, hnumbers, -⟩ := h events _ hstop
    exact ⟨hsent.stopped, hnumbers.trans (List.prefix_append _ _), nofun⟩
  · obtain ⟨hsent, -, hall⟩ := h first _ hfirst
    obtain ⟨hsent', hnumbers', hall'⟩ := hnext value rest status hrest
    have hencoded : encodedPictures (first ++ rest) =
        encodedPictures first ++ encodedPictures rest := List.filterMap_append
    have hpictures : pictures (encodedPictures (first ++ rest)) =
        pictures (encodedPictures first) ++ pictures (encodedPictures rest) := by
      rw [hencoded, pictures, pictures, pictures, List.flatMap_append]
    refine ⟨hpictures ▸ hsent.append hsent', ?_, fun value hvalue => ?_⟩
    · rw [hencoded, List.map_append, hall _ rfl]
      exact (List.prefix_append_right_inj frameIds).mpr hnumbers'
    · rw [hencoded, List.map_append, hall _ rfl, hall' value hvalue]

theorem leaves_sendSlices (frameId : UInt32) (nSlices : UInt8) (sliceIdx : Nat)
    (nals : List (List UInt8)) :
    (sendSlices frameId nSlices sliceIdx nals).Leaves encodedOf [] := by
  induction nals generalizing sliceIdx with
  | nil => exact Prog.leaves_pure ()
  | cons nal nals ih => exact Prog.leaves_call_bind (fun _ => rfl) fun _ => ih (sliceIdx + 1)

theorem leaves_sendNals (frameId : UInt32) (nals : List (List UInt8)) :
    (sendNals frameId nals).Leaves encodedOf [] := by
  unfold sendNals
  split
  · exact Prog.leaves_pure ()
  · refine Prog.leaves_call_bind (fun _ => rfl) fun _ => ?_
    refine (leaves_sendSlices _ _ _ _).bind_nil fun _ => ?_
    refine Prog.leaves_call_bind (fun _ => rfl) fun _ => Prog.leaves_say_bind ?_
    exact Prog.leaves_call fun _ => rfl

theorem displays_sendDisplayFrame (frameId : UInt32) :
    Displays [frameId] (sendDisplayFrame frameId) := by
  intro events status hcomes
  rw [sendDisplayFrame_eq] at hcomes
  obtain ⟨rfl, rfl⟩ | ⟨answer, rest, rfl, hrest⟩ := Prog.comesTo_call_bind.mp hcomes
  · exact ⟨⟨List.prefix_rfl, List.prefix_rfl, nofun⟩, List.nil_prefix, nofun⟩
  · cases answer with
    | error error =>
        obtain ⟨rfl, rfl⟩ := hrest
        exact ⟨⟨List.prefix_rfl, List.prefix_rfl, nofun⟩, List.nil_prefix, nofun⟩
    | ok nals =>
        have hnone : encodedPictures rest = [] := leaves_sendNals frameId nals rest status hrest
        have hencoded : encodedPictures (.asked (.encode frameId) (.ok nals) :: rest) =
            [(frameId, nals)] := congrArg ((frameId, nals) :: ·) hnone
        obtain ⟨hbegun, hwritten, hall⟩ := sends_sendNals frameId nals rest status hrest
        have hpictures : pictures [(frameId, nals)] = picture frameId nals :=
          List.append_nil _
        refine ⟨?_, ?_, fun _ _ => ?_⟩
        · rw [hencoded, hpictures]
          exact ⟨hbegun, hwritten, hall⟩
        · rw [hencoded]
          exact List.prefix_rfl
        · rw [hencoded]
          rfl

theorem displays_sendDisplayFrom (frameIds : List Nat) :
    Displays (frameIds.map UInt32.ofNat) (sendDisplayFrom frameIds) := by
  induction frameIds with
  | nil => exact displays_nothing (sends_pure ()) (Prog.leaves_pure ())
  | cons frameId frameIds ih => exact (displays_sendDisplayFrame _).bind fun _ => ih

/-- At every moment of the sender. -/
theorem displays_sendDisplayFrames :
    Displays ((List.range displayFrameCount).map UInt32.ofNat) sendDisplayFrames := by
  have hinit : Displays [] (Prog.call .initEncoder id : HandlerProg Unit) :=
    displays_nothing (sends_call (fun _ => rfl) (fun _ => rfl) rfl)
      (Prog.leaves_call fun _ => rfl)
  have hsay : Sends [] (.say .displayFinished : HandlerProg Unit) := by
    rw [← Prog.bind_ret (.say .displayFinished : HandlerProg Unit)]
    exact sends_say_bind (sends_pure ())
  have hclosing : Displays [] (do
      finish
      .say .displayFinished : HandlerProg Unit) := by
    apply displays_nothing
    · exact sends_call_bind (fun _ => rfl) (fun _ => rfl) rfl fun _ => hsay
    · exact Prog.leaves_call_bind (fun _ => rfl) fun _ => Prog.leaves_say _
  have hall := hinit.bind fun _ => (displays_sendDisplayFrom (List.range displayFrameCount)).bind
    fun _ => hclosing
  rwa [List.nil_append, List.append_nil] at hall

end Displays

/-! ## A run for given outputs of the encoder -/

/-- The encoder returns these NAL units for the pictures with these numbers. -/
def Encodes (outputs : UInt32 → List (List UInt8)) (events : List HandlerEvent) : Prop :=
  ∀ frameId nals, (frameId, nals) ∈ encodedPictures events → nals = outputs frameId

/-- The encoder returns these units, and nothing fails. -/
def encoderEnv (outputs : UInt32 → List (List UInt8)) :
    Env HandlerRequest HandlerRequest.Answer HandlerLog Unit Unit where
  answer _ question _ :=
    match question with
    | .readFullFrameOpt => none
    | .writeFrame .. => some (.ok (), ())
    | .finish => some (.ok (), ())
    | .initEncoder => some (.ok (), ())
    | .encode frameId => some (.ok (outputs frameId), ())
    | .sleep _ => some ((), ())
  perform _ _ := ()

/-- The program then has a run to its end, in which these pictures are encoded. -/
def Finishes (outputs : UInt32 → List (List UInt8))
    (encoded : List (UInt32 × List (List UInt8))) (program : HandlerProg Unit) : Prop :=
  ∃ events, (encoderEnv outputs).Completes program () events () () ∧
    encodedPictures events = encoded

section Finishes

variable {outputs : UInt32 → List (List UInt8)}
  {encoded encoded' : List (UInt32 × List (List UInt8))}

theorem finishes_return : Finishes outputs [] (pure ()) := ⟨[], .pure (), rfl⟩

theorem finishes_say_bind {output : HandlerLog} {f : Unit → HandlerProg Unit}
    (h : Finishes outputs encoded (f ())) : Finishes outputs encoded (.say output >>= f) := by
  obtain ⟨events, hcompletes, hencoded⟩ := h
  exact ⟨_, .bind (.say output) hcompletes, hencoded⟩

theorem finishes_call_bind {α : Type} (question : HandlerRequest)
    {result : question.Answer → Except Error α} {f : α → HandlerProg Unit}
    (answer : question.Answer) (value : α)
    (hanswer : (encoderEnv outputs).answer () question () = some (answer, ()))
    (hresult : result answer = .ok value) (h : Finishes outputs encoded (f value)) :
    Finishes outputs ((encodedOf (.asked question answer)).toList ++ encoded)
      (.call question result >>= f) := by
  obtain ⟨events, hcompletes, hencoded⟩ := h
  refine ⟨_, .bind (.call () hanswer hresult) hcompletes, ?_⟩
  rw [← hencoded, List.singleton_append, encodedPictures, encodedPictures,
    List.filterMap_cons]
  cases encodedOf (.asked question answer) <;> rfl

theorem finishes_write_bind {frameType : UInt8} {payload : List UInt8}
    {f : Unit → HandlerProg Unit} (h : Finishes outputs encoded (f ())) :
    Finishes outputs encoded (writeFrame frameType payload >>= f) :=
  finishes_call_bind (.writeFrame frameType payload) (.ok ()) () rfl rfl h

theorem Finishes.bind {program : HandlerProg Unit} {f : Unit → HandlerProg Unit}
    (h : Finishes outputs encoded program) (hnext : Finishes outputs encoded' (f ())) :
    Finishes outputs (encoded ++ encoded') (program >>= f) := by
  obtain ⟨first, hfirst, rfl⟩ := h
  obtain ⟨rest, hrest, rfl⟩ := hnext
  exact ⟨first ++ rest, hfirst.bind hrest, List.filterMap_append⟩

theorem finishes_sendSlices (frameId : UInt32) (nSlices : UInt8) (sliceIdx : Nat)
    (nals : List (List UInt8)) :
    Finishes outputs [] (sendSlices frameId nSlices sliceIdx nals) := by
  induction nals generalizing sliceIdx with
  | nil => exact finishes_return
  | cons nal nals ih => exact finishes_write_bind (ih (sliceIdx + 1))

theorem finishes_sendNals (frameId : UInt32) (nals : List (List UInt8)) :
    Finishes outputs [] (sendNals frameId nals) := by
  unfold sendNals
  split
  · exact finishes_return
  · apply finishes_write_bind
    apply (finishes_sendSlices frameId _ 0 nals).bind
    apply finishes_write_bind
    apply finishes_say_bind
    exact ⟨[.asked (.sleep _) ()], .call () rfl rfl, rfl⟩

variable (outputs) in
theorem finishes_sendDisplayFrom (frameIds : List Nat) :
    Finishes outputs (frameIds.map fun frameId =>
        (UInt32.ofNat frameId, outputs (UInt32.ofNat frameId)))
      (sendDisplayFrom frameIds) := by
  induction frameIds with
  | nil => exact finishes_return
  | cons frameId frameIds ih =>
      have hframe : Finishes outputs
          [(UInt32.ofNat frameId, outputs (UInt32.ofNat frameId))]
          (sendDisplayFrame (UInt32.ofNat frameId)) := by
        rw [sendDisplayFrame_eq]
        exact finishes_call_bind (.encode _) (.ok (outputs (UInt32.ofNat frameId))) _ rfl rfl
          (finishes_sendNals _ _)
      exact hframe.bind ih

variable (outputs) in
/-- Whatever the encoder returns, the sender can go through with it. -/
theorem finishes_sendDisplayFrames :
    Finishes outputs ((List.range displayFrameCount).map fun frameId =>
        (UInt32.ofNat frameId, outputs (UInt32.ofNat frameId)))
      sendDisplayFrames := by
  have hclosing : Finishes outputs [] (do
      finish
      .say .displayFinished : HandlerProg Unit) := by
    apply finishes_call_bind .finish (.ok ()) () rfl rfl
    exact ⟨[.told .displayFinished], .say _, rfl⟩
  rw [← List.append_nil (List.map _ _)]
  exact finishes_call_bind .initEncoder (.ok ()) () rfl rfl
    ((finishes_sendDisplayFrom outputs (List.range displayFrameCount)).bind hclosing)

theorem encodes_finished {events : List HandlerEvent}
    (h : encodedPictures events = (List.range displayFrameCount).map fun frameId =>
      (UInt32.ofNat frameId, outputs (UInt32.ofNat frameId))) : Encodes outputs events := by
  intro frameId nals hmem
  rw [h] at hmem
  obtain ⟨number, -, hpicture⟩ := List.mem_map.mp hmem
  cases hpicture
  rfl

/-- The run in which the encoder returns these units and nothing fails. -/
theorem exists_run (outputs : UInt32 → List (List UInt8)) :
    ∃ events, sendDisplayFrames.ComesTo events (.ok ()) ∧ Encodes outputs events ∧
      ∀ frameId < displayFrameCount,
        (UInt32.ofNat frameId, outputs (UInt32.ofNat frameId)) ∈ encodedPictures events := by
  obtain ⟨events, hcompletes, hencoded⟩ := finishes_sendDisplayFrames outputs
  refine ⟨events, hcompletes.comesTo, encodes_finished hencoded, fun frameId hframe => ?_⟩
  rw [hencoded]
  exact List.mem_map.mpr ⟨frameId, List.mem_range.mpr hframe, rfl⟩

end Finishes

end OpenRD.Server
