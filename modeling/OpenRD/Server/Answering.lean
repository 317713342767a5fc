import Mathlib.Data.List.Forall2
import OpenRD.Server.Passes

/-!
# Handlers that answer frames

A handler that answers each frame it reads with one frame at most has begun to write, at
every moment, the answers to the frames it has read, and nothing else.
-/

namespace OpenRD.Server

open OpenRD.Foundation OpenRD.Proto Handler

abbrev ReplyFrame := UInt8 × List UInt8

/-- The handler is not writing, and has not failed. -/
def Idle {α : Type} : Except HandlerStop α → Prop
  | .error (.failed _) => False
  | .error (.waiting (.writeFrame ..)) => False
  | _ => True

/-! ## One frame -/

/-- What a program that reads nothing has written of `reply`, if there is one. -/
structure Delivered {α : Type} (reply : Option ReplyFrame) (events : List HandlerEvent)
    (status : Except HandlerStop α) : Prop where
  unread : framesRead events = []
  begun : framesBegun events status = reply.toList
  written : framesWritten events <+: reply.toList
  idle : Idle status → framesWritten events = reply.toList

def Delivers {α : Type} (reply : Option ReplyFrame) (program : HandlerProg α) : Prop :=
  ∀ events status, program.ComesTo events status → Delivered reply events status

theorem Delivers.unread {α : Type} {reply : Option ReplyFrame} {program : HandlerProg α}
    (h : Delivers reply program) : program.Leaves readFrameOf [] :=
  fun events status hcomes => (h events status hcomes).unread

section Steps

variable {α β : Type} {reply : Option ReplyFrame} {f : α → HandlerProg β}

theorem delivered_nothing {α : Type} {status : Except HandlerStop α}
    (h : pendingFrame status = none) : Delivered none [] status where
  unread := rfl
  begun := by simp [framesBegun, framesCalled, h]
  written := List.nil_prefix
  idle _ := rfl

theorem delivers_pure (value : α) : Delivers none (pure value : HandlerProg α) := by
  intro events status h
  obtain ⟨rfl, rfl⟩ := Prog.comesTo_pure.mp h
  exact delivered_nothing rfl

theorem delivers_fail (error : Error) : Delivers none (.fail error : HandlerProg α) := by
  intro events status h
  obtain ⟨rfl, rfl⟩ := Prog.comesTo_fail.mp h
  exact delivered_nothing rfl

theorem delivers_say_bind {output : HandlerLog} {f : Unit → HandlerProg β}
    (h : Delivers reply (f ())) : Delivers reply (.say output >>= f) := by
  intro events status hcomes
  obtain ⟨rest, rfl, hrest⟩ := Prog.comesTo_say_bind.mp hcomes
  exact ⟨(h rest status hrest).unread, (h rest status hrest).begun,
    (h rest status hrest).written, (h rest status hrest).idle⟩

theorem delivers_say (output : HandlerLog) : Delivers none (.say output : HandlerProg Unit) := by
  rw [← Prog.bind_ret (.say output)]
  exact delivers_say_bind (delivers_pure ())

theorem delivers_lift_bind {result : Except Error α}
    (herror : ∀ error, result = .error error → reply = none)
    (hok : ∀ value, result = .ok value → Delivers reply (f value)) :
    Delivers reply ((liftM result : HandlerProg α) >>= f) := by
  intro events status hcomes
  rw [Prog.comesTo_lift_bind] at hcomes
  cases result with
  | ok value => exact hok value rfl events status hcomes
  | error error =>
      obtain ⟨rfl, rfl⟩ := hcomes
      rw [herror error rfl]
      exact delivered_nothing rfl

theorem delivers_write_bind {frameType : UInt8} {payload : List UInt8}
    {f : Unit → HandlerProg β} (h : Delivers none (f ())) :
    Delivers (some (frameType, payload)) (writeFrame frameType payload >>= f) := by
  intro events status hcomes
  obtain ⟨rfl, rfl⟩ | ⟨answer, rest, rfl, hrest⟩ := Prog.comesTo_call_bind.mp hcomes
  · exact ⟨rfl, rfl, List.nil_prefix, fun hidle => absurd hidle id⟩
  · cases answer with
    | error error =>
        obtain ⟨rfl, rfl⟩ := hrest
        exact ⟨rfl, rfl, List.nil_prefix, fun hidle => absurd hidle id⟩
    | ok value =>
        obtain ⟨hunread, hbegun, hwritten, -⟩ := h rest status hrest
        have hreply : framesWritten
            (.asked (.writeFrame frameType payload) (.ok value) :: rest) =
              [(frameType, payload)] :=
          congrArg ((frameType, payload) :: ·) (List.prefix_nil.mp hwritten)
        refine ⟨hunread, congrArg ((frameType, payload) :: ·) hbegun, ?_, fun _ => hreply⟩
        rw [hreply]
        exact List.prefix_rfl

theorem delivers_panic (text : String) : Delivers none (panicWith text : HandlerProg α) :=
  delivers_say_bind (delivers_fail _)

theorem delivers_panic_bind {text : String} {f : α → HandlerProg β} :
    Delivers none (panicWith text >>= f) := by
  intro events status hcomes
  obtain ⟨rfl, rfl⟩ := comesTo_panic_bind.mp hcomes
  exact ⟨rfl, rfl, List.nil_prefix, fun hidle => absurd hidle id⟩

/-- An addition panics, without a reply, or has its sum. -/
theorem delivers_add_bind {server : ServerConfig} {wide bound : Nat} {sum : α}
    (hpanic : server.overflowChecks ∧ bound ≤ wide → reply = none)
    (hsum : ¬ (server.overflowChecks ∧ bound ≤ wide) → Delivers reply (f sum)) :
    Delivers reply (add server wide bound sum >>= f) := by
  unfold add
  split
  · next hoverflow =>
      rw [hpanic hoverflow]
      exact delivers_panic_bind
  · next hfits => exact hsum hfits

/-- What ends without a reply may be followed by the reply. -/
theorem Delivers.bind {program : HandlerProg α} (h : Delivers none program)
    (herror : ∀ events stop, program.ComesTo events (.error stop) → reply = none)
    (hok : ∀ events value, program.ComesTo events (.ok value) → Delivers reply (f value)) :
    Delivers reply (program >>= f) := by
  intro events status hcomes
  obtain ⟨stop, hstop, rfl⟩ | ⟨value, first, rest, rfl, hfirst, hrest⟩ :=
    Prog.comesTo_bind.mp hcomes
  · obtain ⟨hunread, hbegun, hwritten, hidle⟩ := h events _ hstop
    rw [herror events stop hstop]
    refine ⟨hunread, ?_, hwritten, ?_⟩
    · cases stop with
      | waiting question => cases question <;> exact hbegun
      | _ => exact hbegun
    · cases stop with
      | waiting question => cases question <;> exact hidle
      | _ => exact hidle
  · obtain ⟨hunread, hbegun, hwritten, -⟩ := h first _ hfirst
    obtain ⟨hunread', hbegun', hwritten', hidle'⟩ := hok first value hfirst rest status hrest
    have hcalled : framesCalled first = [] := by simpa [framesBegun, pendingFrame] using hbegun
    have hnone : framesWritten first = [] := List.prefix_nil.mp hwritten
    refine ⟨by simp [hunread, hunread'], ?_, ?_, fun hidle => ?_⟩
    · rw [← hbegun', framesBegun, framesBegun, framesCalled_append, hcalled, List.nil_append]
    · rw [framesWritten_append, hnone]
      exact hwritten'
    · rw [framesWritten_append, hnone]
      exact hidle' hidle

end Steps

/-! ## What a frame carries -/

/-- The payload of a frame of type `kind`, as CBOR. -/
def valueOf {α : Type} [DecidableEq α] (cib : Ciborium)
    (fromU8 : UInt8 → Except ParseError α) (kind : α) (bytes : List UInt8) : Option Cbor :=
  match received fromU8 bytes with
  | .ok (kind', payload) =>
      if kind' = kind then (cib.fromReader payload).toOption else none
  | .error _ => none

theorem valueOf_received {α : Type} [DecidableEq α] {cib : Ciborium}
    {fromU8 : UInt8 → Except ParseError α} {kind kind' : α} {bytes payload : List UInt8}
    (h : received fromU8 bytes = .ok (kind', payload)) :
    valueOf cib fromU8 kind bytes =
      if kind' = kind then (cib.fromReader payload).toOption else none := by
  unfold valueOf
  rw [h]

/-- Two selections from one list match, when they do for each of its elements. -/
theorem forall₂_filterMap {α β γ : Type} {f : α → Option β} {g : α → Option γ}
    {R : β → γ → Prop} {elements : List α}
    (h : ∀ x ∈ elements, Option.Rel R (f x) (g x)) :
    List.Forall₂ R (elements.filterMap f) (elements.filterMap g) := by
  induction elements with
  | nil => exact .nil
  | cons x elements ih =>
      have hrest := ih fun y hy => h y (List.mem_cons_of_mem _ hy)
      have hfirst := h x List.mem_cons_self
      rw [List.filterMap_cons, List.filterMap_cons]
      cases hf : f x with
      | none =>
          rw [hf] at hfirst
          cases hg : g x with
          | none => exact hrest
          | some c =>
              rw [hg] at hfirst
              cases hfirst
      | some b =>
          rw [hf] at hfirst
          cases hg : g x with
          | none =>
              rw [hg] at hfirst
              cases hfirst
          | some c =>
              rw [hg] at hfirst
              cases hfirst with
              | some hR => exact .cons hR hrest

/-- A match of two selections, of which the second leaves out what the first does, is one
of each element by itself. -/
theorem rel_of_forall₂_filterMap {α β γ : Type} {f : α → Option β} {g : α → Option γ}
    {R : β → γ → Prop} {elements : List α}
    (hnone : ∀ x ∈ elements, f x = none → g x = none)
    (h : List.Forall₂ R (elements.filterMap f) (elements.filterMap g)) :
    ∀ x ∈ elements, Option.Rel R (f x) (g x) := by
  induction elements with
  | nil => exact nofun
  | cons x elements ih =>
      have hrest (y : α) (hy : y ∈ elements) : f y = none → g y = none :=
        hnone y (List.mem_cons_of_mem _ hy)
      rw [List.filterMap_cons, List.filterMap_cons] at h
      cases hf : f x with
      | none =>
          have hg := hnone x List.mem_cons_self hf
          rw [hf, hg] at h
          rw [List.forall_mem_cons, hf, hg]
          exact ⟨.none, ih hrest h⟩
      | some b =>
          rw [hf] at h
          cases hg : g x with
          | none =>
              rw [hg] at h
              have hlength := h.length_eq
              have hle : elements.countP (fun y => (g y).isSome) ≤
                  elements.countP (fun y => (f y).isSome) := by
                refine List.countP_mono_left fun y hy hsome => ?_
                refine Option.isSome_iff_ne_none.mpr fun hy' => ?_
                rw [hrest y hy hy'] at hsome
                cases hsome
              rw [List.length_cons, List.length_filterMap_eq_countP,
                List.length_filterMap_eq_countP] at hlength
              omega
          | some c =>
              rw [hg] at h
              rw [List.forall_mem_cons, hf, hg]
              cases h with
              | cons hR h => exact ⟨.some hR, ih hrest h⟩

/-! ## The whole handler -/

/-- The frames begun are the answers to the frames read, and all but the last are written. -/
structure Answering {α : Type} (reply : List UInt8 → Option ReplyFrame)
    (events : List HandlerEvent) (status : Except HandlerStop α) : Prop where
  begun : framesBegun events status = (framesRead events).filterMap reply
  written : framesWritten events <+: framesBegun events status
  idle : Idle status → framesWritten events = framesBegun events status

section Whole

variable {α σ : Type} {fromU8 : UInt8 → Except ParseError α}
  {handle : σ → α → List UInt8 → HandlerProg σ} {start : σ}
  {reply : List UInt8 → Option ReplyFrame} {events rest : List HandlerEvent}

/-- Between frames, all answers are written. -/
def AllAnswered (reply : List UInt8 → Option ReplyFrame) (events : List HandlerEvent) : Prop :=
  framesCalled events = (framesRead events).filterMap reply ∧
    framesWritten events = framesCalled events

theorem AllAnswered.answering {status : Except HandlerStop Unit}
    (h : AllAnswered reply events) (hstatus : pendingFrame status = none) :
    Answering reply events status := by
  have hbegun : framesBegun events status = framesCalled events := by
    simp [framesBegun, hstatus]
  have hwritten : framesWritten events = framesBegun events status := h.2.trans hbegun.symm
  exact ⟨hbegun.trans h.1, hwritten ▸ List.prefix_rfl, fun _ => hwritten⟩

theorem Answering.allAnswered {status : Except HandlerStop Unit}
    (h : Answering reply events status) (hstatus : pendingFrame status = none)
    (hidle : Idle status) : AllAnswered reply events := by
  have hbegun : framesBegun events status = framesCalled events := by
    simp [framesBegun, hstatus]
  exact ⟨hbegun ▸ h.begun, hbegun ▸ h.idle hidle⟩

/-- What reads no frame and writes none changes nothing. -/
theorem AllAnswered.quiet (h : AllAnswered reply events) (hread : framesRead rest = [])
    (hcalled : framesCalled rest = []) (hwritten : framesWritten rest = []) :
    AllAnswered reply (events ++ rest) := by
  simpa [AllAnswered, hread, hcalled, hwritten] using h

theorem AllAnswered.frame {bytes : List UInt8} {next : σ} (h : AllAnswered reply events)
    (hframe : Delivered (reply bytes) rest (.ok next : Except HandlerStop σ)) :
    AllAnswered reply (events ++ frameRead bytes :: rest) := by
  have hcalled : framesCalled rest = (reply bytes).toList := by
    simpa [framesBegun, pendingFrame] using hframe.begun
  have hwritten : framesWritten rest = (reply bytes).toList := hframe.idle trivial
  refine ⟨?_, ?_⟩
  · rw [filterMap_frameRead bytes hframe.unread, ← h.1, framesCalled_append]
    exact congrArg (framesCalled events ++ ·) hcalled
  · rw [framesCalled_append, framesWritten_append, h.2]
    exact congrArg (framesCalled events ++ ·) (hwritten.trans hcalled.symm)

theorem AllAnswered.stopped {bytes : List UInt8} {stop : HandlerStop}
    (h : AllAnswered reply events)
    (hframe : Delivered (reply bytes) rest (.error stop : Except HandlerStop σ)) :
    Answering reply (events ++ frameRead bytes :: rest)
      (.error stop : Except HandlerStop Unit) := by
  have hpending : pendingFrame (.error stop : Except HandlerStop Unit) =
      pendingFrame (.error stop : Except HandlerStop σ) := pendingFrame_error stop
  have hidle : Idle (.error stop : Except HandlerStop Unit) →
      Idle (.error stop : Except HandlerStop σ) := by
    cases stop with
    | waiting question => cases question <;> exact id
    | _ => exact id
  have hbegun : framesBegun (events ++ frameRead bytes :: rest)
      (.error stop : Except HandlerStop Unit) =
        framesCalled events ++ (reply bytes).toList := by
    rw [← hframe.begun, framesBegun, framesBegun, hpending, framesCalled_append,
      List.append_assoc]
    rfl
  have hwritten : framesWritten (events ++ frameRead bytes :: rest) =
      framesCalled events ++ framesWritten rest := by
    rw [framesWritten_append, h.2]
    rfl
  refine ⟨?_, ?_, fun hstop => ?_⟩
  · rw [hbegun, filterMap_frameRead bytes hframe.unread, h.1]
  · rw [hbegun, hwritten]
    exact (List.prefix_append_right_inj _).mpr hframe.written
  · rw [hbegun, hwritten, hframe.idle (hidle hstop)]

/-- A loop that answers each frame by itself answers them all. -/
theorem frameLoop_answering {status : Except HandlerStop Unit}
    (hmalformed : ∀ bytes error, received fromU8 bytes = .error error → reply bytes = none)
    (hframe : ∀ state bytes kind payload, received fromU8 bytes = .ok (kind, payload) →
      Delivers (reply bytes) (handle state kind payload))
    (h : (frameLoop fromU8 handle start).ComesTo events status) :
    Answering reply events status := by
  refine frameLoop_induction (fun _ events => AllAnswered reply events)
    (fun status events => Answering reply events status) ⟨rfl, rfl⟩ ?_ ?_ ?_ ?_ ?_ h
  · intro state events bytes kind payload rest next hall hreceived hcomes
    exact hall.frame (hframe state bytes kind payload hreceived _ _ hcomes)
  · exact fun state events hall => ⟨hall.answering rfl, hall.answering rfl,
      (hall.quiet rfl rfl rfl).answering rfl⟩
  · exact fun state events error hall => (hall.quiet rfl rfl rfl).answering rfl
  · intro state events bytes error hall hreceived
    have hnothing : Delivered (reply bytes) []
        (.error (.failed error) : Except HandlerStop Unit) :=
      hmalformed bytes error hreceived ▸ delivered_nothing rfl
    exact hall.stopped hnothing
  · intro state events bytes kind payload rest stop hall hreceived hcomes
    exact hall.stopped (hframe state bytes kind payload hreceived _ _ hcomes)

/-- What a handler does once its stream has ended. -/
theorem answering_closed {loop : HandlerProg Unit} {output : HandlerLog}
    {status : Except HandlerStop Unit}
    (hloop : ∀ events status, loop.ComesTo events status → Answering reply events status)
    (h : (do
      loop
      .say output
      finish : HandlerProg Unit).ComesTo events status) : Answering reply events status := by
  refine closed_induction (fun status events => Answering reply events status) hloop ?_ ?_ h
  · intro events hanswering
    have hall := hanswering.allAnswered rfl trivial
    exact (hall.quiet rfl rfl rfl).answering rfl
  · intro events answer hanswering
    have hall := hanswering.allAnswered rfl trivial
    exact (hall.quiet rfl rfl rfl).answering rfl

end Whole

end OpenRD.Server
