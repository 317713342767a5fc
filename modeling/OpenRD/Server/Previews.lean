import OpenRD.Server.ClipboardChannel

/-!
# Previews of received content

The handler cuts a preview off the text of the content it receives, and panics when the
cut falls inside a character.
-/

namespace OpenRD.Server

open OpenRD.Foundation OpenRD.Proto Handler

variable {server : ServerConfig} {cib : Ciborium} {events : List HandlerEvent}
  {status : Except HandlerStop Unit} {bytes payload : List UInt8}

/-- The content a frame carries. -/
def contentOf (cib : Ciborium) (bytes : List UInt8) : Option ClipboardContent :=
  (valueOf cib ClipboardFrameType.fromU8 .content bytes).map parseClipboardContent

/-- The text is cut, and the cut falls inside a character. -/
def CutInside (bytes : List UInt8) : Prop :=
  80 < (fromUtf8Lossy bytes).length ∧ isCharBoundary (fromUtf8Lossy bytes) 80 = false

instance (bytes : List UInt8) : Decidable (CutInside bytes) :=
  inferInstanceAs (Decidable (_ ∧ _))

def previewText (bytes : List UInt8) : List UInt8 :=
  if (fromUtf8Lossy bytes).length > 80 then (fromUtf8Lossy bytes).take 80 ++ asBytes "..."
  else fromUtf8Lossy bytes

def previewed (content : ClipboardContent) : HandlerLog :=
  .contentReceived content.requestId content.mime content.bytes.length
    (previewText content.bytes)

theorem previewOf_eq (bytes : List UInt8) :
    previewOf bytes = if CutInside bytes then
        panicWith "byte index 80 is not a char boundary"
      else pure (previewText bytes) := by
  unfold previewOf previewText
  dsimp only
  by_cases hlong : (fromUtf8Lossy bytes).length > 80
  · by_cases hboundary : isCharBoundary (fromUtf8Lossy bytes) 80 = true
    · have hcut : ¬ CutInside bytes := fun h => by simp [CutInside, hboundary] at h
      rw [if_pos hlong, if_pos hboundary, if_neg hcut, if_pos hlong]
    · have hcut : CutInside bytes := ⟨hlong, by simpa using hboundary⟩
      rw [if_pos hlong, if_neg hboundary, if_pos hcut]
  · have hcut : ¬ CutInside bytes := fun h => hlong h.1
    rw [if_neg hlong, if_neg hcut, if_neg hlong]

/-! ## What a frame leaves in the log -/

/-- What the log says of received content: its preview, or a panic. -/
def previewNoteOf : HandlerEvent → Option HandlerLog
  | .told (.contentReceived requestId mime len preview) =>
      some (.contentReceived requestId mime len preview)
  | .told (.panicking text) => some (.panicking text)
  | _ => none

def previewNote (cib : Ciborium) (bytes : List UInt8) : Option HandlerLog :=
  (contentOf cib bytes).map fun content =>
    if CutInside content.bytes then .panicking "byte index 80 is not a char boundary"
    else previewed content

theorem contentOf_other {kind : ClipboardFrameType}
    (h : received ClipboardFrameType.fromU8 bytes = .ok (kind, payload))
    (hkind : kind ≠ .content) : contentOf cib bytes = none := by
  simp [contentOf, valueOf_received h, hkind]

/-- A `Content` frame fails to decode, makes the handler panic, or is previewed. -/
theorem comesTo_content (h : received ClipboardFrameType.fromU8 bytes = .ok (.content, payload))
    (hcomes : (handleClipboardFrame server .content payload).ComesTo events status) :
    (contentOf server.cib bytes = none ∧ events = [] ∧
      ∃ error, status = .error (.failed error)) ∨
    ∃ content, contentOf server.cib bytes = some content ∧
      if CutInside content.bytes then
        events = [.told (.panicking "byte index 80 is not a char boundary")] ∧
          ∃ error, status = .error (.failed error)
      else events = [.told (previewed content)] ∧ status = .ok () := by
  have hvalue : valueOf server.cib ClipboardFrameType.fromU8 .content bytes = _ :=
    valueOf_received h
  have hcomes := Prog.comesTo_lift_bind.mp hcomes
  cases hread : withContext "decode Content" (server.cib.read payload) with
  | error error =>
      rw [hread] at hcomes
      obtain ⟨rfl, rfl⟩ := hcomes
      refine .inl ⟨?_, rfl, error, rfl⟩
      simp [contentOf, hvalue, Ciborium.decoded_of_error hread]
  | ok val =>
      rw [hread] at hcomes
      refine .inr ⟨parseClipboardContent val, ?_, ?_⟩
      · simp [contentOf, hvalue, Ciborium.decoded_of_ok hread]
      · change (previewOf _ >>= fun preview => _).ComesTo events status at hcomes
        rw [previewOf_eq] at hcomes
        split
        · next hcut =>
            rw [if_pos hcut] at hcomes
            obtain ⟨rfl, rfl⟩ := comesTo_panic_bind.mp hcomes
            exact ⟨rfl, _, rfl⟩
        · next hcut =>
            rw [if_neg hcut] at hcomes
            exact Prog.comesTo_say.mp hcomes

theorem handleClipboardFrame_quiet {kind : ClipboardFrameType} (hkind : kind ≠ .content) :
    (handleClipboardFrame server kind payload).Leaves previewNoteOf [] := by
  cases kind with
  | content => exact absurd rfl hkind
  | offerTypes => exact Prog.leaves_lift_bind (fun _ _ => rfl) fun _ _ => Prog.leaves_say _
  | requestContent =>
      refine Prog.leaves_lift_bind (fun _ _ => rfl) fun _ _ => Prog.leaves_say_bind ?_
      refine Prog.leaves_lift_bind (fun _ _ => rfl) fun _ _ => ?_
      exact Prog.leaves_call_bind (fun _ => rfl) fun _ => Prog.leaves_say _
  | _ => exact Prog.leaves_say _

theorem handleClipboardFrame_leaves {kind : ClipboardFrameType}
    (h : received ClipboardFrameType.fromU8 bytes = .ok (kind, payload)) :
    (handleClipboardFrame server kind payload).Leaves previewNoteOf
      (previewNote server.cib bytes).toList := by
  by_cases hkind : kind = .content
  · subst hkind
    intro events status hcomes
    obtain ⟨hnone, rfl, -⟩ | ⟨content, hcontent, hcase⟩ := comesTo_content h hcomes
    · simp [previewNote, hnone]
    · split at hcase
      · next hcut =>
          obtain ⟨rfl, -⟩ := hcase
          simp [previewNote, hcontent, hcut, previewNoteOf]
      · next hcut =>
          obtain ⟨rfl, -⟩ := hcase
          simp [previewNote, hcontent, hcut, previewNoteOf, previewed]
  · rw [previewNote, contentOf_other h hkind]
    exact handleClipboardFrame_quiet hkind

/-- Each frame read is noted in the log at once, and nothing else is. -/
theorem handleClipboardStream_notes
    (h : (handleClipboardStream server).ComesTo events status) :
    events.filterMap previewNoteOf =
      (framesRead events).filterMap (previewNote server.cib) := by
  refine leaves_closed rfl (fun _ => rfl) (fun events status hloop => ?_) h
  rw [eachFrame_eq] at hloop
  refine frameLoop_leaves (fun _ => rfl) ?_ ?_ ?_ hloop
  · intro bytes error hreceived
    simp [previewNote, contentOf, valueOf, hreceived]
  · exact fun _ _ _ _ hreceived => (handleClipboardFrame_delivers hreceived).unread
  · exact fun _ bytes kind payload hreceived => handleClipboardFrame_leaves hreceived

/-! ## After a preview -/

/-- What follows a preview is the next frame. -/
def GoesOn (events : List HandlerEvent) (status : Except HandlerStop Unit) : Prop :=
  ∀ content, events.getLast? = some (.told (previewed content)) →
    status = .error .turning ∨ status = .error (.waiting .readFullFrameOpt)

theorem goesOn_of_last {event : HandlerEvent}
    (h : ∀ content, event ≠ .told (previewed content)) : GoesOn (events ++ [event]) status := by
  intro content hlast
  rw [List.getLast?_concat] at hlast
  exact absurd (Option.some.inj hlast) (h content)

theorem mem_of_getLast?_frameRead {rest : List HandlerEvent} {content : ClipboardContent}
    (h : (events ++ frameRead bytes :: rest).getLast? = some (.told (previewed content))) :
    .told (previewed content) ∈ rest := by
  rw [List.getLast?_append, List.getLast?_cons, Option.some_or] at h
  cases hlast : rest.getLast? with
  | none =>
      rw [hlast] at h
      cases h
  | some event =>
      rw [hlast] at h
      cases h
      exact List.mem_of_getLast? hlast

theorem unpreviewed_of_stop {kind : ClipboardFrameType} {stop : HandlerStop}
    (h : received ClipboardFrameType.fromU8 bytes = .ok (kind, payload))
    (hstop : (handleClipboardFrame server kind payload).ComesTo events (.error stop))
    (content : ClipboardContent) : .told (previewed content) ∉ events := by
  intro hmem
  by_cases hkind : kind = .content
  · subst hkind
    obtain ⟨-, rfl, -⟩ | ⟨content', -, hcase⟩ := comesTo_content h hstop
    · cases hmem
    · split at hcase
      · obtain ⟨rfl, -⟩ := hcase
        simp [previewed] at hmem
      · cases hcase.2
  · have hnone := handleClipboardFrame_quiet hkind events _ hstop
    rw [List.filterMap_eq_nil_iff] at hnone
    cases hnone _ hmem

theorem handleClipboardStream_goesOn
    (h : (handleClipboardStream server).ComesTo events status) : GoesOn events status := by
  refine closed_induction (fun status events => GoesOn events status) ?_ ?_ ?_ h
  rotate_left
  · exact fun _ _ => goesOn_of_last fun _ => nofun
  · exact fun _ _ _ => goesOn_of_last fun _ => nofun
  intro events status hloop
  refine frameLoop_induction (fun _ _ => True) (fun status events => GoesOn events status)
    trivial (fun _ _ _ _ _ _ _ _ _ _ => trivial) ?_ ?_ ?_ ?_ hloop
  · exact fun _ events _ => ⟨fun _ _ => .inl rfl, fun _ _ => .inr rfl,
      goesOn_of_last fun _ => nofun⟩
  · exact fun _ _ _ _ => goesOn_of_last fun _ => nofun
  · exact fun _ _ _ _ _ _ => goesOn_of_last fun _ => nofun
  · intro _ events bytes kind payload rest stop _ hreceived hcomes content hlast
    have hmem := mem_of_getLast?_frameRead hlast
    exact absurd hmem (unpreviewed_of_stop hreceived hcomes content)

/-! ## No cut inside a character -/

/--
At every moment, the handler has not panicked, it has previewed the content of each frame
read, in order, and it has gone on to the next frame after each preview, exactly when no
content read has its eightieth byte inside a character.
-/
theorem contents_previewed_iff (h : (handleClipboardStream server).ComesTo events status) :
    ((∀ text, .told (.panicking text) ∉ events) ∧
      events.filterMap previewNoteOf =
        (framesRead events).filterMap (fun bytes =>
          (contentOf server.cib bytes).map previewed) ∧
      GoesOn events status) ↔
    ∀ bytes ∈ framesRead events, ∀ content, contentOf server.cib bytes = some content →
      ¬ CutInside content.bytes := by
  have hnotes := handleClipboardStream_notes h
  constructor
  · rintro ⟨hpanic, -, -⟩ bytes hbytes content hcontent hcut
    refine hpanic "byte index 80 is not a char boundary" ?_
    have hmem : .panicking "byte index 80 is not a char boundary" ∈
        (framesRead events).filterMap (previewNote server.cib) :=
      List.mem_filterMap.mpr ⟨bytes, hbytes, by simp [previewNote, hcontent, hcut]⟩
    rw [← hnotes] at hmem
    obtain ⟨event, hevent, hnote⟩ := List.mem_filterMap.mp hmem
    unfold previewNoteOf at hnote
    split at hnote
    · cases hnote
    · cases hnote
      exact hevent
    · cases hnote
  · intro hwhole
    have hviews : events.filterMap previewNoteOf = (framesRead events).filterMap (fun bytes =>
        (contentOf server.cib bytes).map previewed) := by
      rw [hnotes]
      refine List.filterMap_congr fun bytes hbytes => ?_
      unfold previewNote
      cases hcontent : contentOf server.cib bytes with
      | none => rfl
      | some content => exact congrArg some (if_neg (hwhole bytes hbytes content hcontent))
    refine ⟨fun text hmem => ?_, hviews, handleClipboardStream_goesOn h⟩
    have hnoted : .panicking text ∈ events.filterMap previewNoteOf :=
      List.mem_filterMap.mpr ⟨_, hmem, rfl⟩
    rw [hviews] at hnoted
    obtain ⟨bytes, -, hbytes⟩ := List.mem_filterMap.mp hnoted
    obtain ⟨content, -, hcontent⟩ := Option.map_eq_some_iff.mp hbytes
    cases hcontent

/-- A `Content` frame with text. -/
def textFrame (body : List UInt8) : List UInt8 :=
  Frame.encode ClipboardFrameType.content.toU8
    (CborWire.encode (buildClipboardContent 7 "text/plain" body)) []

section Text

variable {body : List UInt8}

theorem received_textFrame (h : (CborWire.encode
      (buildClipboardContent 7 "text/plain" body)).length ≤ maxFrameLength) :
    received ClipboardFrameType.fromU8 (textFrame body) =
      .ok (.content, CborWire.encode (buildClipboardContent 7 "text/plain" body)) :=
  received_encode rfl h

theorem contentOf_textFrame (h : (CborWire.encode
      (buildClipboardContent 7 "text/plain" body)).length ≤ maxFrameLength) :
    contentOf .rfc8949 (textFrame body) = some ⟨7, "text/plain", body⟩ := by
  have hread := Ciborium.rfc8949_read (h.trans_lt (by decide))
  rw [contentOf, valueOf_received (received_textFrame h), if_pos rfl, hread]
  rfl

theorem comesTo_decoded (server : ServerConfig) {content : Cbor}
    (hread : server.cib.fromReader payload = .ok content) :
    ∃ status, (handleClipboardFrame server .content payload).ComesTo
      [.told (if CutInside (parseClipboardContent content).bytes then
        .panicking "byte index 80 is not a char boundary"
        else previewed (parseClipboardContent content))] status ∧
      ∀ value, status = .ok value ∨ ∃ error, status = .error (.failed error) := by
  have hval : withContext "decode Content" (server.cib.read payload) = .ok content :=
    withContext_eq_ok.mpr (Ciborium.read_eq_ok.mpr hread)
  by_cases hcut : CutInside (parseClipboardContent content).bytes
  · refine ⟨.error (.failed (.panic "byte index 80 is not a char boundary")), ?_, ?_⟩
    · refine Prog.comesTo_lift_bind.mpr ?_
      rw [hval, if_pos hcut]
      change (previewOf _ >>= fun preview => _).ComesTo _ _
      rw [previewOf_eq, if_pos hcut]
      exact comesTo_panic_bind.mpr ⟨rfl, rfl⟩
    · exact fun _ => .inr ⟨_, rfl⟩
  · refine ⟨.ok (), ?_, fun _ => .inl rfl⟩
    refine Prog.comesTo_lift_bind.mpr ?_
    rw [hval, if_neg hcut]
    change (previewOf _ >>= fun preview => _).ComesTo _ _
    rw [previewOf_eq, if_neg hcut]
    exact Prog.comesTo_say.mpr ⟨rfl, rfl⟩

/-- The handler panics over the text or previews it. -/
theorem comesTo_textFrame (h : (CborWire.encode
      (buildClipboardContent 7 "text/plain" body)).length ≤ maxFrameLength) :
    ∃ status, (handleClipboardStream (.rfc8949 true "493817")).ComesTo
      [frameRead (textFrame body), .told (if CutInside body then
        .panicking "byte index 80 is not a char boundary"
        else previewed ⟨7, "text/plain", body⟩)] status := by
  have hread := Ciborium.rfc8949_read (h.trans_lt (by decide))
  obtain ⟨status, hcomes, hstatus⟩ :=
    comesTo_decoded (.rfc8949 true "493817") hread
  suffices hloop : ∃ stop, (frameLoop ClipboardFrameType.fromU8
      (fun _ => handleClipboardFrame (.rfc8949 true "493817")) ()).ComesTo
      [frameRead (textFrame body), .told (if CutInside body then
        .panicking "byte index 80 is not a char boundary"
        else previewed ⟨7, "text/plain", body⟩)] (.error stop) by
    obtain ⟨stop, hstop⟩ := hloop
    exact ⟨.error stop, hstop.stopped _⟩
  obtain rfl | ⟨error, rfl⟩ := hstatus ()
  · exact ⟨_, frameLoop_handled (received_textFrame h) hcomes⟩
  · exact ⟨_, frameLoop_stops (received_textFrame h) hcomes⟩

end Text

/-- Seventy-nine letters and an accented one, the last two bytes of the text. -/
def straddlingText : List UInt8 := List.replicate 79 0x61 ++ [0xC3, 0xA9]

theorem straddlingText_panics : ∃ status,
    (handleClipboardStream (.rfc8949 true "493817")).ComesTo
      [frameRead (textFrame straddlingText),
        .told (.panicking "byte index 80 is not a char boundary")] status ∧
    contentOf .rfc8949 (textFrame straddlingText) = some ⟨7, "text/plain", straddlingText⟩ ∧
    ofUtf8? straddlingText ≠ none := by
  have hfits : (CborWire.encode
      (buildClipboardContent 7 "text/plain" straddlingText)).length ≤ maxFrameLength := by
    decide +kernel
  have hcut : CutInside straddlingText := by decide +kernel
  obtain ⟨status, hcomes⟩ := comesTo_textFrame hfits
  rw [if_pos hcut] at hcomes
  exact ⟨status, hcomes, contentOf_textFrame hfits, by decide +kernel⟩

/-- The accented letter ends where the text is cut. -/
def accentedText : List UInt8 := List.replicate 78 0x61 ++ [0xC3, 0xA9, 0x61]

theorem accentedText_previewed : ∃ events status,
    (handleClipboardStream (.rfc8949 true "493817")).ComesTo events status ∧
    events.filterMap previewNoteOf = [previewed ⟨7, "text/plain", accentedText⟩] ∧
    (∀ text, .told (.panicking text) ∉ events) ∧ GoesOn events status := by
  have hfits : (CborWire.encode
      (buildClipboardContent 7 "text/plain" accentedText)).length ≤ maxFrameLength := by
    decide +kernel
  have hcontent := contentOf_textFrame hfits
  obtain ⟨status, hcomes⟩ := comesTo_textFrame hfits
  have hwhole : ∀ bytes ∈ [textFrame accentedText], ∀ content,
      contentOf .rfc8949 bytes = some content → ¬ CutInside content.bytes := by
    rintro bytes hbytes content hbytes'
    rw [List.mem_singleton.mp hbytes, hcontent] at hbytes'
    cases hbytes'
    decide +kernel
  obtain ⟨hpanic, hnotes, hon⟩ := (contents_previewed_iff hcomes).mpr hwhole
  refine ⟨_, status, hcomes, ?_, hpanic, hon⟩
  rw [hnotes]
  change [textFrame accentedText].filterMap
    (fun bytes => (contentOf .rfc8949 bytes).map previewed) = _
  simp [hcontent]

end OpenRD.Server
