import OpenRD.Server.Passes

/-!
# What the clipboard handler answers
-/

namespace OpenRD.Server

open OpenRD.Foundation OpenRD.Proto Handler

/-- A `RequestContent` frame whose payload can be read. -/
def RequestsContent (cib : Ciborium) (bytes : List UInt8) (request : RequestContent) :
    Prop :=
  ∃ frame n val, Frame.parse bytes = .ok (frame, n) ∧
    ClipboardFrameType.fromU8 frame.header.frameType = .ok .requestContent ∧
    cib.fromReader frame.payload = .ok val ∧ parseRequestContent val = request

def contentWritten (payload : List UInt8) (answer : Except Error Unit) : HandlerEvent :=
  .asked (.writeFrame ClipboardFrameType.content.toU8 payload) answer

def Answered (server : ServerConfig) (events : List HandlerEvent) : Prop :=
  ∀ payload answer, contentWritten payload answer ∈ events →
    ∃ bytes request, frameRead bytes ∈ events ∧
      RequestsContent server.cib bytes request ∧
      server.cib.intoWriter (buildClipboardContent request.requestId request.mime
        (clipboardBody request.mime)) = .ok payload

variable {server : ServerConfig}

theorem answered_of_unwritten {events : List HandlerEvent}
    (h : ∀ payload answer, contentWritten payload answer ∉ events) :
    Answered server events :=
  fun payload answer hmem => absurd hmem (h payload answer)

theorem Answered.append {first second : List HandlerEvent} (hfirst : Answered server first)
    (hsecond : Answered server second) : Answered server (first ++ second) := by
  intro payload answer hmem
  rcases List.mem_append.mp hmem with hmem | hmem
  · obtain ⟨bytes, request, hread, hrest⟩ := hfirst payload answer hmem
    exact ⟨bytes, request, List.mem_append_left _ hread, hrest⟩
  · obtain ⟨bytes, request, hread, hrest⟩ := hsecond payload answer hmem
    exact ⟨bytes, request, List.mem_append_right _ hread, hrest⟩

theorem nextFrame_adds {α : Type} (fromU8 : UInt8 → Except ParseError α) :
    (nextFrame fromU8).Adds
      (fun events => events = [] ∨ ∃ answer, events = [.asked .readFullFrameOpt answer])
      fun result events =>
        match result with
        | none => events = [.asked .readFullFrameOpt (.ok none)]
        | some (kind, payload) => ∃ bytes frame n, events = [frameRead bytes] ∧
            Frame.parse bytes = .ok (frame, n) ∧
            fromU8 frame.header.frameType = .ok kind ∧ frame.payload = payload := by
  refine Prog.adds_call_bind (.inl rfl) ?_ ?_
  · rintro answer error rfl
    exact .inr ⟨_, rfl⟩
  · rintro answer result rfl
    cases result with
    | none => exact Prog.adds_pure rfl
    | some bytes =>
        refine Prog.adds_lift_bind (fun _ _ => .inr ⟨_, rfl⟩) ?_
        rintro ⟨frame, n⟩ hparse
        refine Prog.adds_lift_bind (fun _ _ => .inr ⟨_, rfl⟩) ?_
        intro kind hkind
        exact Prog.adds_pure ⟨bytes, frame, n, rfl, parsed_eq_ok.mp hparse,
          parsed_eq_ok.mp hkind, rfl⟩

theorem previewOf_adds (contents : List UInt8) :
    (previewOf contents).Adds
      (fun events => ∀ payload answer, contentWritten payload answer ∉ events)
      fun _ events => events = [] := by
  unfold previewOf
  dsimp only
  split
  · split
    · exact Prog.adds_pure rfl
    · exact Prog.adds_say_bind (Prog.adds_fail (by simp [contentWritten]))
  · exact Prog.adds_pure rfl

theorem handleClipboardFrame_adds {bytes : List UInt8} {frame : Frame} {n : Nat}
    {kind : ClipboardFrameType} (hparse : Frame.parse bytes = .ok (frame, n))
    (hkind : ClipboardFrameType.fromU8 frame.header.frameType = .ok kind) :
    (handleClipboardFrame server kind frame.payload).Adds
      (fun events => Answered server (frameRead bytes :: events))
      fun _ events => Answered server (frameRead bytes :: events) := by
  have hread {events : List HandlerEvent}
      (h : ∀ payload answer, contentWritten payload answer ∉ events) :
      Answered server (frameRead bytes :: events) := by
    refine answered_of_unwritten fun payload answer hmem => ?_
    rcases List.mem_cons.mp hmem with hmem | hmem
    · cases hmem
    · exact h payload answer hmem
  cases kind with
  | offerTypes =>
      refine Prog.adds_lift_bind (fun _ _ => hread (by simp)) fun val hval => ?_
      exact Prog.adds_say (hread (by simp [contentWritten]))
  | requestContent =>
      refine Prog.adds_lift_bind (fun _ _ => hread (by simp)) fun val hval => ?_
      have hrequest : RequestsContent server.cib bytes (parseRequestContent val) :=
        ⟨frame, n, val, hparse, hkind, by simpa using hval, rfl⟩
      refine Prog.adds_say_bind (Prog.adds_lift_bind ?_ fun payload hpayload => ?_)
      · exact fun _ _ => hread (by simp [contentWritten])
      · have hanswered {events : List HandlerEvent}
            (h : ∀ payload' answer, contentWritten payload' answer ∈ events →
              payload' = payload) : Answered server (frameRead bytes :: events) := by
          intro payload' answer hmem
          refine ⟨bytes, _, List.mem_cons_self, hrequest, ?_⟩
          rcases List.mem_cons.mp hmem with hmem | hmem
          · cases hmem
          · rw [h payload' answer hmem]
            simpa using hpayload
        refine Prog.adds_call_bind ?_ ?_ ?_
        · exact hanswered (by simp [contentWritten])
        · rintro answer error -
          exact hanswered (by simp [contentWritten])
        · rintro answer value -
          exact Prog.adds_say (hanswered (by simp [contentWritten]))
  | content =>
      refine Prog.adds_lift_bind (fun _ _ => hread (by simp)) fun val hval => ?_
      refine Prog.adds_bind (previewOf_adds _) (fun events h => hread h) ?_
      rintro preview events rfl
      exact Prog.adds_say (hread (by simp [contentWritten]))
  | _ => exact Prog.adds_say (hread (by simp [contentWritten]))

theorem handleClipboardStream_answered (server : ServerConfig) :
    (handleClipboardStream server).Safe (Answered server) []
      fun _ => Answered server := by
  have hnil : Answered server [] := answered_of_unwritten (by simp)
  have happend (first second : List HandlerEvent) (hfirst : Answered server first)
      (hsecond : Answered server second) : Answered server (first ++ second) :=
    hfirst.append hsecond
  have hframes : (eachFrame ClipboardFrameType.fromU8 (handleClipboardFrame server)).Adds
      (Answered server) fun _ => Answered server := by
    refine Prog.adds_iterate_closed hnil happend fun _ => ?_
    refine Prog.adds_bind (nextFrame_adds _) ?_ ?_
    · rintro events (rfl | ⟨answer, rfl⟩) <;>
        exact answered_of_unwritten (by simp [contentWritten])
    intro result events hevents
    cases result with
    | none =>
        subst hevents
        exact Prog.adds_pure (answered_of_unwritten (by simp [contentWritten]))
    | some next =>
        obtain ⟨kind, payload⟩ := next
        obtain ⟨bytes, frame, n, rfl, hparse, hkind, rfl⟩ := hevents
        refine Prog.adds_bind (handleClipboardFrame_adds hparse hkind) (fun _ => id) ?_
        intro _ events hevents
        exact Prog.adds_pure (by simpa using hevents)
  have hclosing : (do
      .say .clipboardClosed
      finish : HandlerProg Unit).Adds (Answered server) fun _ => Answered server := by
    refine Prog.adds_say_bind (Prog.adds_call ?_ ?_ ?_)
    · exact answered_of_unwritten (by simp [contentWritten])
    · exact fun _ _ _ => answered_of_unwritten (by simp [contentWritten])
    · exact fun _ _ _ => answered_of_unwritten (by simp [contentWritten])
  refine (Prog.adds_bind_closed happend hframes (fun _ => hclosing) []).weaken ?_ ?_
  · rintro history ⟨events, rfl, hevents⟩
    exact hevents
  · rintro result history ⟨events, rfl, hevents⟩
    cases result <;> exact hevents

end OpenRD.Server
