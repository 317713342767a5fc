import OpenRD.Server.Answering

/-!
# What a frame is written for

A handler that writes a frame has begun to do so after some history.  In the loop of its
passes, that history ends with the frame the handler has read and what it did since.
-/

namespace OpenRD.Server

open OpenRD.Foundation OpenRD.Proto Handler

theorem concat_prefix_append {γ : Type} {before first second : List γ} {x : γ} :
    before ++ [x] <+: first ++ second ↔
      before ++ [x] <+: first ∨ ∃ rest, before = first ++ rest ∧ rest ++ [x] <+: second := by
  constructor
  · rintro ⟨last, hlast⟩
    obtain ⟨middle, hfirst, -⟩ | ⟨middle, hmiddle, hsecond⟩ :=
      List.append_eq_append_iff.mp hlast
    · exact .inl ⟨middle, hfirst.symm⟩
    · obtain rfl | ⟨rest, y, rfl⟩ := List.eq_nil_or_concat middle
      · rw [List.append_nil] at hmiddle
        exact .inl (hmiddle ▸ List.prefix_rfl)
      · rw [List.concat_eq_append, ← List.append_assoc] at hmiddle
        obtain ⟨rfl, hx⟩ := List.append_inj' hmiddle rfl
        cases hx
        exact .inr ⟨rest, rfl, last, by simp [hsecond]⟩
  · rintro (h | ⟨rest, rfl, h⟩)
    · exact h.trans (List.prefix_append first second)
    · rw [List.append_assoc]
      exact (List.prefix_append_right_inj first).mpr h

theorem tail_of_concat_prefix_cons {γ : Type} {first rest : List γ} {x y : γ}
    (h : first ++ [x] <+: y :: rest) (hne : x ≠ y) :
    ∃ tail, first = y :: tail ∧ tail ++ [x] <+: rest := by
  cases first with
  | nil => exact absurd (List.cons_prefix_cons.mp h).1 hne
  | cons head tail =>
      obtain ⟨rfl, htail⟩ := List.cons_prefix_cons.mp h
      exact ⟨tail, rfl, htail⟩

/-! ## When a frame is written -/

/-- The handler, having done `before`, began to write the frame. -/
def BegunAfter {α : Type} (events : List HandlerEvent) (status : Except HandlerStop α)
    (before : List HandlerEvent) (frame : UInt8 × List UInt8) : Prop :=
  (∃ answer, before ++ [.asked (.writeFrame frame.1 frame.2) answer] <+: events) ∨
    (before = events ∧ pendingFrame status = some frame)

section Begun

variable {α σ : Type} {fromU8 : UInt8 → Except ParseError α}
  {handle : σ → α → List UInt8 → HandlerProg σ} {start : σ}
  {events rest before : List HandlerEvent} {frame : UInt8 × List UInt8} {bytes : List UInt8}
  {caused : List UInt8 → List HandlerEvent → UInt8 × List UInt8 → Prop}

/-- The frame is written for one that has been read. -/
def CausedBy (caused : List UInt8 → List HandlerEvent → UInt8 × List UInt8 → Prop)
    (events before : List HandlerEvent) (frame : UInt8 × List UInt8) : Prop :=
  ∃ earlier bytes first, earlier ++ [frameRead bytes] <+: events ∧
    before = earlier ++ frameRead bytes :: first ∧ caused bytes first frame

theorem begunAfter_append {β : Type} {status : Except HandlerStop β} :
    BegunAfter (events ++ frameRead bytes :: rest) status before frame ↔
      BegunAfter events (.ok () : Except HandlerStop Unit) before frame ∨
      ∃ first, before = events ++ frameRead bytes :: first ∧
        BegunAfter rest status first frame := by
  constructor
  · rintro (⟨answer, h⟩ | ⟨rfl, hpending⟩)
    · obtain hfirst | ⟨first, rfl, hrest⟩ := concat_prefix_append.mp h
      · exact .inl (.inl ⟨answer, hfirst⟩)
      · obtain ⟨tail, rfl, htail⟩ := tail_of_concat_prefix_cons hrest nofun
        exact .inr ⟨tail, rfl, .inl ⟨answer, htail⟩⟩
    · exact .inr ⟨rest, rfl, .inr ⟨rfl, hpending⟩⟩
  · rintro ((⟨answer, h⟩ | ⟨-, hpending⟩) | ⟨first, rfl, ⟨answer, h⟩ | ⟨rfl, hpending⟩⟩)
    · exact .inl ⟨answer, concat_prefix_append.mpr (.inl h)⟩
    · cases hpending
    · refine .inl ⟨answer, concat_prefix_append.mpr (.inr ⟨_, rfl, ?_⟩)⟩
      exact List.cons_prefix_cons.mpr ⟨rfl, h⟩
    · exact .inr ⟨rfl, hpending⟩

theorem causedBy_append (hread : framesRead rest = []) :
    CausedBy caused (events ++ frameRead bytes :: rest) before frame ↔
      CausedBy caused events before frame ∨
      ∃ first, before = events ++ frameRead bytes :: first ∧ caused bytes first frame := by
  constructor
  · rintro ⟨earlier, bytes', first, h, rfl, hcaused⟩
    obtain h | ⟨last, rfl, hlast⟩ := concat_prefix_append.mp h
    · exact .inl ⟨earlier, bytes', first, h, rfl, hcaused⟩
    · cases last with
      | nil =>
          obtain ⟨hbytes, -⟩ := List.cons_prefix_cons.mp hlast
          cases hbytes
          rw [List.append_nil]
          exact .inr ⟨first, rfl, hcaused⟩
      | cons head tail =>
          obtain ⟨rfl, htail⟩ := List.cons_prefix_cons.mp hlast
          have hmem : bytes' ∈ framesRead rest :=
            List.mem_filterMap.mpr ⟨frameRead bytes', htail.mem (by simp), rfl⟩
          rw [hread] at hmem
          cases hmem
  · rintro (⟨earlier, bytes', first, h, rfl, hcaused⟩ | ⟨first, rfl, hcaused⟩)
    · exact ⟨earlier, bytes', first, h.trans (List.prefix_append _ _), rfl, hcaused⟩
    · refine ⟨events, bytes, first, ?_, rfl, hcaused⟩
      exact (List.prefix_append_right_inj events).mpr (List.cons_prefix_cons.mpr
        ⟨rfl, List.nil_prefix⟩)

theorem begunAfter_congr {γ δ : Type} {status : Except HandlerStop γ}
    {status' : Except HandlerStop δ} (h : pendingFrame status = pendingFrame status') :
    BegunAfter events status before frame ↔ BegunAfter events status' before frame := by
  rw [BegunAfter, BegunAfter, h]

theorem begunAfter_quiet {γ : Type} {status : Except HandlerStop γ} {event : HandlerEvent}
    (hstatus : pendingFrame status = none) (hevent : callOf event = none) :
    BegunAfter (events ++ [event]) status before frame ↔
      BegunAfter events (.ok () : Except HandlerStop Unit) before frame := by
  constructor
  · rintro (⟨answer, h⟩ | ⟨-, hpending⟩)
    · obtain hsame | hbefore := List.prefix_concat_iff.mp h
      · cases (List.append_inj' hsame rfl).2
        cases hevent
      · exact .inl ⟨answer, hbefore⟩
    · rw [hstatus] at hpending
      cases hpending
  · rintro (⟨answer, h⟩ | ⟨-, hpending⟩)
    · exact .inl ⟨answer, h.trans (List.prefix_append _ _)⟩
    · cases hpending

theorem causedBy_quiet {event : HandlerEvent} (hevent : readFrameOf event = none) :
    CausedBy caused (events ++ [event]) before frame ↔ CausedBy caused events before frame := by
  constructor
  · rintro ⟨earlier, bytes, first, h, rfl, hcaused⟩
    obtain hsame | hbefore := List.prefix_concat_iff.mp h
    · cases (List.append_inj' hsame rfl).2
      cases hevent
    · exact ⟨earlier, bytes, first, hbefore, rfl, hcaused⟩
  · rintro ⟨earlier, bytes, first, h, rfl, hcaused⟩
    exact ⟨earlier, bytes, first, h.trans (List.prefix_append _ _), rfl, hcaused⟩

/-- Each frame written is one that a frame read causes by itself. -/
theorem frameLoop_begunAfter {status : Except HandlerStop Unit}
    (hmalformed : ∀ bytes error first frame, received fromU8 bytes = .error error →
      ¬ caused bytes first frame)
    (hunread : ∀ state bytes kind payload, received fromU8 bytes = .ok (kind, payload) →
      (handle state kind payload).Leaves readFrameOf [])
    (hframe : ∀ state bytes kind payload rest status,
      received fromU8 bytes = .ok (kind, payload) →
      (handle state kind payload).ComesTo rest status → ∀ first frame,
        BegunAfter rest status first frame ↔ caused bytes first frame)
    (h : (frameLoop fromU8 handle start).ComesTo events status) (before : List HandlerEvent)
    (frame : UInt8 × List UInt8) :
    BegunAfter events status before frame ↔ CausedBy caused events before frame := by
  have hread {events rest : List HandlerEvent} {bytes : List UInt8}
      {status : Except HandlerStop Unit}
      (hevents : ∀ before frame,
        BegunAfter events (.ok () : Except HandlerStop Unit) before frame ↔
          CausedBy caused events before frame)
      (hrest : framesRead rest = [])
      (hcaused : ∀ first frame, BegunAfter rest status first frame ↔
        caused bytes first frame) (before frame) :
      BegunAfter (events ++ frameRead bytes :: rest) status before frame ↔
        CausedBy caused (events ++ frameRead bytes :: rest) before frame := by
    rw [begunAfter_append, causedBy_append hrest, hevents]
    exact or_congr_right (exists_congr fun first => and_congr_right fun _ => hcaused _ _)
  refine frameLoop_induction
    (fun _ events => ∀ before frame,
      BegunAfter events (.ok () : Except HandlerStop Unit) before frame ↔
        CausedBy caused events before frame)
    (fun status events => ∀ before frame, BegunAfter events status before frame ↔
      CausedBy caused events before frame) ?_ ?_ ?_ ?_ ?_ ?_ h before frame
  · intro before frame
    constructor
    · rintro (⟨answer, hbefore⟩ | ⟨-, hpending⟩)
      · simp at hbefore
      · cases hpending
    · rintro ⟨earlier, bytes, first, hearlier, -⟩
      simp at hearlier
  · intro state events bytes kind payload rest next hevents hreceived hcomes
    refine hread hevents (hunread state bytes kind payload hreceived _ _ hcomes) ?_
    intro first frame
    rw [← hframe state bytes kind payload rest _ hreceived hcomes]
    exact begunAfter_congr rfl
  · refine fun state events hevents => ⟨fun before frame => ?_, fun before frame => ?_,
      fun before frame => ?_⟩
    · exact (begunAfter_congr rfl).trans (hevents before frame)
    · exact (begunAfter_congr rfl).trans (hevents before frame)
    · exact (begunAfter_quiet rfl rfl).trans
        ((hevents before frame).trans (causedBy_quiet rfl).symm)
  · intro state events error hevents before frame
    exact (begunAfter_quiet rfl rfl).trans
      ((hevents before frame).trans (causedBy_quiet rfl).symm)
  · intro state events bytes error hevents hreceived
    refine hread hevents rfl fun first frame => ?_
    refine iff_of_false ?_ (hmalformed bytes error first frame hreceived)
    rintro (⟨answer, hbefore⟩ | ⟨-, hpending⟩)
    · simp at hbefore
    · cases hpending
  · intro state events bytes kind payload rest stop hevents hreceived hcomes
    refine hread hevents (hunread state bytes kind payload hreceived _ _ hcomes) ?_
    intro first frame
    rw [← hframe state bytes kind payload rest _ hreceived hcomes]
    exact begunAfter_congr (pendingFrame_error stop)

theorem begunAfter_closed {loop : HandlerProg Unit} {output : HandlerLog}
    {status : Except HandlerStop Unit}
    (hloop : ∀ events status, loop.ComesTo events status → ∀ before frame,
      BegunAfter events status before frame ↔ CausedBy caused events before frame)
    (h : (do
      loop
      .say output
      finish : HandlerProg Unit).ComesTo events status) (before : List HandlerEvent)
    (frame : UInt8 × List UInt8) :
    BegunAfter events status before frame ↔ CausedBy caused events before frame := by
  refine closed_induction
    (fun status events => ∀ before frame, BegunAfter events status before frame ↔
      CausedBy caused events before frame) hloop ?_ ?_ h before frame
  · exact fun events hevents before frame => (begunAfter_quiet rfl rfl).trans
      ((hevents before frame).trans (causedBy_quiet rfl).symm)
  · exact fun events answer hevents before frame => (begunAfter_quiet rfl rfl).trans
      ((begunAfter_congr rfl).trans ((hevents before frame).trans (causedBy_quiet rfl).symm))

end Begun

end OpenRD.Server
