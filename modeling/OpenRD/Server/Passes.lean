import OpenRD.Foundation.Moments
import OpenRD.Server.Handlers

/-!
# The passes of a handler's loop

A handler that reads frames deals with one in every pass of its loop.  Its history says
which frames it has read, and which it has begun to write.
-/

namespace OpenRD.Server

open OpenRD.Foundation OpenRD.Proto Handler

abbrev HandlerStop := Stop HandlerRequest Error

/-! ## Frames read and frames written -/

def frameRead (bytes : List UInt8) : HandlerEvent :=
  .asked .readFullFrameOpt (.ok (some bytes))

def readFrameOf : HandlerEvent → Option (List UInt8)
  | .asked .readFullFrameOpt (.ok (some bytes)) => some bytes
  | _ => none

/-- A frame as `write_frame` is given it. -/
def callOf : HandlerEvent → Option (UInt8 × List UInt8)
  | .asked (.writeFrame frameType payload) _ => some (frameType, payload)
  | _ => none

def acceptedOf : HandlerEvent → Option (UInt8 × List UInt8)
  | .asked (.writeFrame frameType payload) (.ok ()) => some (frameType, payload)
  | _ => none

def framesRead (events : List HandlerEvent) : List (List UInt8) :=
  events.filterMap readFrameOf

/-- The frames whose writing is over, whether it went well or not. -/
def framesCalled (events : List HandlerEvent) : List (UInt8 × List UInt8) :=
  events.filterMap callOf

def framesWritten (events : List HandlerEvent) : List (UInt8 × List UInt8) :=
  events.filterMap acceptedOf

/-- The frame that is being written. -/
def pendingFrame {α : Type} : Except HandlerStop α → Option (UInt8 × List UInt8)
  | .error (.waiting (.writeFrame frameType payload)) => some (frameType, payload)
  | _ => none

theorem pendingFrame_error {α β : Type} (stop : HandlerStop) :
    pendingFrame (.error stop : Except HandlerStop α) =
      pendingFrame (.error stop : Except HandlerStop β) := by
  cases stop with
  | waiting question => cases question <;> rfl
  | _ => rfl

/-- The frames a handler has begun to write. -/
def framesBegun {α : Type} (events : List HandlerEvent) (status : Except HandlerStop α) :
    List (UInt8 × List UInt8) :=
  framesCalled events ++ (pendingFrame status).toList

section Views

variable (events : List HandlerEvent)

@[simp] theorem framesRead_nil : framesRead [] = [] := rfl

@[simp] theorem framesRead_told (output : HandlerLog) :
    framesRead (.told output :: events) = framesRead events := rfl

@[simp] theorem framesRead_write (frameType : UInt8) (payload : List UInt8)
    (answer : Except Error Unit) :
    framesRead (.asked (.writeFrame frameType payload) answer :: events) =
      framesRead events := rfl

@[simp] theorem framesRead_read (bytes : List UInt8) :
    framesRead (.asked .readFullFrameOpt (.ok (some bytes)) :: events) =
      bytes :: framesRead events := rfl

@[simp] theorem framesRead_finish (answer : Except Error Unit) :
    framesRead (.asked .finish answer :: events) = framesRead events := rfl

variable (first second : List HandlerEvent)

@[simp] theorem framesRead_append :
    framesRead (first ++ second) = framesRead first ++ framesRead second :=
  List.filterMap_append

@[simp] theorem framesCalled_append :
    framesCalled (first ++ second) = framesCalled first ++ framesCalled second :=
  List.filterMap_append

@[simp] theorem framesWritten_append :
    framesWritten (first ++ second) = framesWritten first ++ framesWritten second :=
  List.filterMap_append

end Views

theorem comesTo_panic_bind {α β : Type} {text : String} {f : α → HandlerProg β}
    {events : List HandlerEvent} {status : Except HandlerStop β} :
    (panicWith text >>= f).ComesTo events status ↔
      events = [.told (.panicking text)] ∧ status = .error (.failed (.panic text)) := by
  constructor
  · intro h
    have h : (.say (.panicking text) >>= fun _ => .fail (.panic text) :
        HandlerProg β).ComesTo events status := h
    obtain ⟨rest, rfl, hrest⟩ := Prog.comesTo_say_bind.mp h
    obtain ⟨rfl, rfl⟩ := Prog.comesTo_fail.mp hrest
    exact ⟨rfl, rfl⟩
  · rintro ⟨rfl, rfl⟩
    exact .told (.fail _)

/-- An addition panics or has its sum. -/
theorem comesTo_add_bind {α β : Type} {server : ServerConfig} {wide bound : Nat} {sum : α}
    {f : α → HandlerProg β} {events : List HandlerEvent} {status : Except HandlerStop β}
    (h : (add server wide bound sum >>= f).ComesTo events status) :
    ((server.overflowChecks ∧ bound ≤ wide) ∧
      events = [.told (.panicking "attempt to add with overflow")] ∧
      status = .error (.failed (.panic "attempt to add with overflow"))) ∨
    ¬ (server.overflowChecks ∧ bound ≤ wide) ∧ (f sum).ComesTo events status := by
  unfold add at h
  split at h
  · next hoverflow => exact .inl ⟨hoverflow, comesTo_panic_bind.mp h⟩
  · next hfits => exact .inr ⟨hfits, h⟩

/-! ## A frame is read -/

/-- The kind and the payload of a frame. -/
def received {α : Type} (fromU8 : UInt8 → Except ParseError α) (bytes : List UInt8) :
    Except Error (α × List UInt8) := do
  let (frame, _) ← parsed (Frame.parse bytes)
  let kind ← parsed (fromU8 frame.header.frameType)
  return (kind, frame.payload)

theorem received_encode {α : Type} {fromU8 : UInt8 → Except ParseError α} {frameType : UInt8}
    {kind : α} {payload : List UInt8} (hkind : fromU8 frameType = .ok kind)
    (h : payload.length ≤ maxFrameLength) :
    received fromU8 (Frame.encode frameType payload []) = .ok (kind, payload) := by
  simp only [received, Frame.parse_encode frameType h]
  exact congrArg (fun kind => (do
    let kind ← parsed kind
    return (kind, payload) : Except Error (α × List UInt8))) hkind

/-- The ways a pass begins. -/
inductive Begins {α β : Type} (fromU8 : UInt8 → Except ParseError α)
    (body : Option (α × List UInt8) → HandlerProg β) :
    List HandlerEvent → Except HandlerStop β → Prop where
  | waiting : Begins fromU8 body [] (.error (.waiting .readFullFrameOpt))
  | unread (error : Error) :
      Begins fromU8 body [.asked .readFullFrameOpt (.error error)] (.error (.failed error))
  | malformed (bytes : List UInt8) (error : Error)
      (hreceived : received fromU8 bytes = .error error) :
      Begins fromU8 body [frameRead bytes] (.error (.failed error))
  | ended (rest : List HandlerEvent) (status : Except HandlerStop β)
      (h : (body none).ComesTo rest status) :
      Begins fromU8 body (.asked .readFullFrameOpt (.ok none) :: rest) status
  | frame (bytes : List UInt8) (kind : α) (payload : List UInt8) (rest : List HandlerEvent)
      (status : Except HandlerStop β)
      (hreceived : received fromU8 bytes = .ok (kind, payload))
      (h : (body (some (kind, payload))).ComesTo rest status) :
      Begins fromU8 body (frameRead bytes :: rest) status

theorem nextFrame_eq {α : Type} (fromU8 : UInt8 → Except ParseError α) :
    nextFrame fromU8 = do
      match ← readFrameOpt with
      | none => return none
      | some bytes => do
          let next ← received fromU8 bytes
          return some next := by
  unfold nextFrame received
  refine congrArg _ (funext fun answer => ?_)
  cases answer with
  | none => rfl
  | some bytes =>
      dsimp only
      cases Frame.parse bytes with
      | error error => rfl
      | ok result =>
          change (liftM (parsed (fromU8 result.1.header.frameType)) >>= fun kind =>
            (pure (some (kind, result.1.payload)) : HandlerProg _)) = liftM (do
              let kind ← parsed (fromU8 result.1.header.frameType)
              return (kind, result.1.payload)) >>= fun next => pure (some next)
          cases fromU8 result.1.header.frameType <;> rfl

theorem comesTo_nextFrame {α β : Type} {fromU8 : UInt8 → Except ParseError α}
    {body : Option (α × List UInt8) → HandlerProg β} {events : List HandlerEvent}
    {status : Except HandlerStop β} :
    (nextFrame fromU8 >>= body).ComesTo events status ↔ Begins fromU8 body events status := by
  rw [nextFrame_eq, Prog.bind_assoc]
  constructor
  · intro hcomes
    obtain ⟨rfl, rfl⟩ | ⟨answer, rest, rfl, h⟩ := Prog.comesTo_call_bind.mp hcomes
    · exact .waiting
    · cases answer with
      | error error =>
          obtain ⟨rfl, rfl⟩ := h
          exact .unread error
      | ok read =>
          cases read with
          | none => exact .ended rest status h
          | some bytes =>
              have h : ((liftM (received fromU8 bytes) >>= fun next =>
                pure (some next)) >>= body).ComesTo rest status := h
              rw [Prog.bind_assoc, Prog.comesTo_lift_bind] at h
              cases hreceived : received fromU8 bytes with
              | error error =>
                  rw [hreceived] at h
                  obtain ⟨rfl, rfl⟩ := h
                  exact .malformed bytes error hreceived
              | ok next =>
                  rw [hreceived] at h
                  exact .frame bytes next.1 next.2 rest status hreceived h
  · intro h
    refine Prog.comesTo_call_bind.mpr ?_
    cases h with
    | waiting => exact .inl ⟨rfl, rfl⟩
    | unread error => exact .inr ⟨_, _, rfl, rfl, rfl⟩
    | malformed bytes error hreceived =>
        refine .inr ⟨_, _, rfl, ?_⟩
        change ((liftM (received fromU8 bytes) >>= fun next => pure (some next)) >>=
          body).ComesTo [] _
        rw [Prog.bind_assoc, Prog.comesTo_lift_bind, hreceived]
        exact ⟨rfl, rfl⟩
    | ended rest status h => exact .inr ⟨_, _, rfl, h⟩
    | frame bytes kind payload rest status hreceived h =>
        refine .inr ⟨_, _, rfl, ?_⟩
        change ((liftM (received fromU8 bytes) >>= fun next => pure (some next)) >>=
          body).ComesTo rest _
        rw [Prog.bind_assoc, Prog.comesTo_lift_bind, hreceived]
        exact h

/-! ## The loop -/

/-- The loop of a handler that keeps a state from frame to frame. -/
def frameLoop {α σ : Type} (fromU8 : UInt8 → Except ParseError α)
    (handle : σ → α → List UInt8 → HandlerProg σ) (state : σ) : HandlerProg Unit :=
  Prog.iterate state fun state => do
    match ← nextFrame fromU8 with
    | none => return .inr ()
    | some (kind, payload) => do
        let state ← handle state kind payload
        return .inl state

theorem eachFrame_eq {α : Type} (fromU8 : UInt8 → Except ParseError α)
    (handleFrame : α → List UInt8 → HandlerProg Unit) :
    eachFrame fromU8 handleFrame = frameLoop fromU8 (fun _ => handleFrame) () := rfl

section Loop

variable {α σ : Type} {fromU8 : UInt8 → Except ParseError α}
  {handle : σ → α → List UInt8 → HandlerProg σ} {start : σ} {events : List HandlerEvent}
  {status : Except HandlerStop Unit}

theorem comesTo_handled {state : σ} {kind : α} {payload : List UInt8}
    {rest : List HandlerEvent} {status : Except HandlerStop (σ ⊕ Unit)}
    (h : (handle state kind payload >>= fun state => pure (.inl state)).ComesTo rest status) :
    (∃ stop, status = .error stop ∧
      (handle state kind payload).ComesTo rest (.error stop)) ∨
    ∃ next, status = .ok (.inl next) ∧ (handle state kind payload).ComesTo rest (.ok next) := by
  obtain ⟨stop, hstop, rfl⟩ | ⟨next, first, last, rfl, hnext, hlast⟩ :=
    Prog.comesTo_bind.mp h
  · exact .inl ⟨stop, rfl, hstop⟩
  · obtain ⟨rfl, rfl⟩ := Prog.comesTo_pure.mp hlast
    rw [List.append_nil]
    exact .inr ⟨next, rfl, hnext⟩

/-- One pass of the loop. -/
def framePass (fromU8 : UInt8 → Except ParseError α)
    (handle : σ → α → List UInt8 → HandlerProg σ) (state : σ) : HandlerProg (σ ⊕ Unit) := do
  match ← nextFrame fromU8 with
  | none => return .inr ()
  | some (kind, payload) => do
      let state ← handle state kind payload
      return .inl state

/-- A pass that is followed by another has handled a frame. -/
theorem comesTo_framePass {state next : σ} {rest : List HandlerEvent}
    (h : (framePass fromU8 handle state).ComesTo rest (.ok (.inl next))) :
    ∃ bytes kind payload last, rest = frameRead bytes :: last ∧
      received fromU8 bytes = .ok (kind, payload) ∧
      (handle state kind payload).ComesTo last (.ok next) := by
  generalize hresult : (.ok (.inl next) : Except HandlerStop (σ ⊕ Unit)) = result at h
  cases comesTo_nextFrame.mp h with
  | ended rest status hended =>
      obtain ⟨rfl, rfl⟩ := Prog.comesTo_pure.mp hended
      cases hresult
  | frame bytes kind payload rest status hreceived hhandled =>
      obtain ⟨stop, rfl, -⟩ | ⟨next, rfl, hnext⟩ := comesTo_handled hhandled
      · cases hresult
      · cases hresult
        exact ⟨bytes, kind, payload, rest, rfl, hreceived, hnext⟩
  | _ => cases hresult

/-- What holds between the frames. -/
theorem turns_induction (inv : σ → List HandlerEvent → Prop) (hinit : inv start [])
    (hframe : ∀ state events bytes kind payload rest next, inv state events →
      received fromU8 bytes = .ok (kind, payload) →
      (handle state kind payload).ComesTo rest (.ok next) →
      inv next (events ++ frameRead bytes :: rest))
    {state : σ} (h : Prog.Turns (framePass fromU8 handle) start events state) :
    inv state events := by
  induction h with
  | none => exact hinit
  | more before last ih =>
      obtain ⟨bytes, kind, payload, rest, rfl, hreceived, hnext⟩ := comesTo_framePass last
      exact hframe _ _ _ _ _ _ _ ih hreceived hnext

/-- The rule for a handler's loop: `inv` holds between the frames. -/
theorem frameLoop_induction (inv : σ → List HandlerEvent → Prop)
    (post : Except HandlerStop Unit → List HandlerEvent → Prop) (hinit : inv start [])
    (hframe : ∀ state events bytes kind payload rest next, inv state events →
      received fromU8 bytes = .ok (kind, payload) →
      (handle state kind payload).ComesTo rest (.ok next) →
      inv next (events ++ frameRead bytes :: rest))
    (hidle : ∀ state events, inv state events →
      post (.error .turning) events ∧ post (.error (.waiting .readFullFrameOpt)) events ∧
      post (.ok ()) (events ++ [.asked .readFullFrameOpt (.ok none)]))
    (hunread : ∀ state events error, inv state events →
      post (.error (.failed error)) (events ++ [.asked .readFullFrameOpt (.error error)]))
    (hmalformed : ∀ state events bytes error, inv state events →
      received fromU8 bytes = .error error →
      post (.error (.failed error)) (events ++ [frameRead bytes]))
    (hstop : ∀ state events bytes kind payload rest stop, inv state events →
      received fromU8 bytes = .ok (kind, payload) →
      (handle state kind payload).ComesTo rest (.error stop) →
      post (.error stop) (events ++ frameRead bytes :: rest))
    (h : (frameLoop fromU8 handle start).ComesTo events status) : post status events := by
  refine Prog.iterate_induction inv hinit ?_ ?_ ?_ ?_ h
  · intro state next events rest hinv hpass
    obtain ⟨bytes, kind, payload, rest, rfl, hreceived, hnext⟩ := comesTo_framePass hpass
    exact hframe _ _ _ _ _ _ _ hinv hreceived hnext
  · exact fun state events hinv => (hidle state events hinv).1
  · intro state events rest stop hinv hpass
    generalize hresult : (.error stop : Except HandlerStop (σ ⊕ Unit)) = result at hpass
    cases comesTo_nextFrame.mp hpass with
    | waiting =>
        cases hresult
        rw [List.append_nil]
        exact (hidle state events hinv).2.1
    | unread error =>
        cases hresult
        exact hunread state events error hinv
    | malformed bytes error hreceived =>
        cases hresult
        exact hmalformed state events bytes error hinv hreceived
    | ended rest status hended =>
        obtain ⟨rfl, rfl⟩ := Prog.comesTo_pure.mp hended
        cases hresult
    | frame bytes kind payload rest status hreceived hhandled =>
        obtain ⟨stop, rfl, hstopped⟩ | ⟨next, rfl, -⟩ := comesTo_handled hhandled
        · cases hresult
          exact hstop _ _ _ _ _ _ _ hinv hreceived hstopped
        · cases hresult
  · intro state events rest value hinv hpass
    generalize hresult : (.ok (.inr value) : Except HandlerStop (σ ⊕ Unit)) = result at hpass
    cases comesTo_nextFrame.mp hpass with
    | ended rest status hended =>
        obtain ⟨rfl, rfl⟩ := Prog.comesTo_pure.mp hended
        cases hresult
        exact (hidle state events hinv).2.2
    | frame bytes kind payload rest status hreceived hhandled =>
        obtain ⟨stop, rfl, -⟩ | ⟨next, rfl, -⟩ := comesTo_handled hhandled
        · cases hresult
        · cases hresult
    | _ => cases hresult

/-- The rule for a handler whose loop is over: it says so and finishes its stream. -/
theorem closed_induction {loop : HandlerProg Unit} {output : HandlerLog}
    (post : Except HandlerStop Unit → List HandlerEvent → Prop)
    (hloop : ∀ events status, loop.ComesTo events status → post status events)
    (hsaid : ∀ events, post (.ok ()) events →
      post (.error (.waiting .finish)) (events ++ [.told output]))
    (hfinished : ∀ events answer, post (.error (.waiting .finish)) events →
      post (.ok ()) (events ++ [.asked .finish answer]))
    (h : (do
      loop
      .say output
      finish : HandlerProg Unit).ComesTo events status) : post status events := by
  obtain ⟨stop, hstop, rfl⟩ | ⟨value, first, rest, rfl, hfirst, hrest⟩ :=
    Prog.comesTo_bind.mp h
  · exact hloop events _ hstop
  · have hwaiting := hsaid first (hloop first _ hfirst)
    obtain ⟨last, rfl, hlast⟩ := Prog.comesTo_say_bind.mp hrest
    obtain ⟨rfl, rfl⟩ | ⟨answer, rfl, rfl⟩ := Prog.comesTo_call.mp hlast
    · exact hwaiting
    · rw [List.append_cons]
      exact hfinished _ answer hwaiting

end Loop

/-! ## What the frames leave in the history -/

theorem filterMap_frameRead {β : Type} {left : List UInt8 → Option β}
    {events rest : List HandlerEvent} (bytes : List UInt8) (hread : framesRead rest = []) :
    (framesRead (events ++ frameRead bytes :: rest)).filterMap left =
      (framesRead events).filterMap left ++ (left bytes).toList := by
  have hframe : framesRead (frameRead bytes :: rest) = [bytes] := congrArg (bytes :: ·) hread
  rw [framesRead_append, hframe, List.filterMap_append]
  cases hleft : left bytes <;> simp [hleft]

section Leaves

variable {α β σ : Type} {fromU8 : UInt8 → Except ParseError α}
  {handle : σ → α → List UInt8 → HandlerProg σ} {start : σ} {events : List HandlerEvent}
  {status : Except HandlerStop Unit} {view : HandlerEvent → Option β}
  {left : List UInt8 → Option β}

/-- Each frame leaves what it leaves by itself, in the order of the frames. -/
theorem frameLoop_leaves (hview : ∀ answer, view (.asked .readFullFrameOpt answer) = none)
    (hmalformed : ∀ bytes error, received fromU8 bytes = .error error → left bytes = none)
    (hunread : ∀ state bytes kind payload, received fromU8 bytes = .ok (kind, payload) →
      (handle state kind payload).Leaves readFrameOf [])
    (hframe : ∀ state bytes kind payload, received fromU8 bytes = .ok (kind, payload) →
      (handle state kind payload).Leaves view (left bytes).toList)
    (h : (frameLoop fromU8 handle start).ComesTo events status) :
    events.filterMap view = (framesRead events).filterMap left := by
  have hread {events rest : List HandlerEvent} {bytes : List UInt8}
      (hevents : events.filterMap view = (framesRead events).filterMap left)
      (hrest : framesRead rest = []) (hleft : rest.filterMap view = (left bytes).toList) :
      (events ++ frameRead bytes :: rest).filterMap view =
        (framesRead (events ++ frameRead bytes :: rest)).filterMap left := by
    rw [filterMap_frameRead bytes hrest, List.filterMap_append, hevents, frameRead,
      List.filterMap_cons, hview, ← hleft]
  have hquiet {events : List HandlerEvent} {event : HandlerEvent}
      (hevents : events.filterMap view = (framesRead events).filterMap left)
      (hread : readFrameOf event = none) (hevent : view event = none) :
      (events ++ [event]).filterMap view =
        (framesRead (events ++ [event])).filterMap left := by
    have hnone : framesRead [event] = [] := by simp [framesRead, hread]
    rw [List.filterMap_append, framesRead_append, hnone, hevents, List.append_nil]
    simp [hevent]
  refine frameLoop_induction
    (fun _ events => events.filterMap view = (framesRead events).filterMap left)
    (fun _ events => events.filterMap view = (framesRead events).filterMap left)
    rfl ?_ ?_ ?_ ?_ ?_ h
  · intro state events bytes kind payload rest next hevents hreceived hcomes
    exact hread hevents (hunread state bytes kind payload hreceived _ _ hcomes)
      (hframe state bytes kind payload hreceived _ _ hcomes)
  · exact fun state events hevents => ⟨hevents, hevents, hquiet hevents rfl (hview _)⟩
  · exact fun state events error hevents => hquiet hevents rfl (hview _)
  · intro state events bytes error hevents hreceived
    exact hread hevents rfl (by rw [hmalformed bytes error hreceived]; rfl)
  · intro state events bytes kind payload rest stop hevents hreceived hcomes
    exact hread hevents (hunread state bytes kind payload hreceived _ _ hcomes)
      (hframe state bytes kind payload hreceived _ _ hcomes)

/-- The end of the stream adds nothing that is in `view`. -/
theorem leaves_closed {loop : HandlerProg Unit} {output : HandlerLog}
    (houtput : view (.told output) = none)
    (hfinish : ∀ answer, view (.asked .finish answer) = none)
    (hloop : ∀ events status, loop.ComesTo events status →
      events.filterMap view = (framesRead events).filterMap left)
    (h : (do
      loop
      .say output
      finish : HandlerProg Unit).ComesTo events status) :
    events.filterMap view = (framesRead events).filterMap left := by
  refine closed_induction
    (fun _ events => events.filterMap view = (framesRead events).filterMap left)
    hloop ?_ ?_ h
  · intro events hevents
    rw [List.filterMap_append, hevents, framesRead_append]
    simp [houtput]
  · intro events answer hevents
    rw [List.filterMap_append, hevents, framesRead_append]
    simp [hfinish]

end Leaves

/-! ## Moments of a loop -/

section Reached

variable {α σ : Type} {fromU8 : UInt8 → Except ParseError α}
  {handle : σ → α → List UInt8 → HandlerProg σ} {state next : σ} {bytes payload : List UInt8}
  {kind : α} {rest events : List HandlerEvent}

theorem frameLoop_waits : (frameLoop fromU8 handle state).ComesTo []
    (.error (.waiting .readFullFrameOpt)) :=
  Prog.comesTo_iterate.mpr ⟨[], state, [], rfl, .none state,
    .inr (.inl ⟨_, comesTo_nextFrame.mpr .waiting, rfl⟩)⟩

theorem frameLoop_stops {stop : HandlerStop}
    (hreceived : received fromU8 bytes = .ok (kind, payload))
    (hstop : (handle state kind payload).ComesTo rest (.error stop)) :
    (frameLoop fromU8 handle state).ComesTo (frameRead bytes :: rest) (.error stop) := by
  refine Prog.comesTo_iterate.mpr ⟨[], state, _, rfl, .none state, .inr (.inl ⟨stop, ?_, rfl⟩)⟩
  exact comesTo_nextFrame.mpr (.frame bytes kind payload rest _ hreceived (hstop.stopped _))

theorem frameLoop_continues {status : Except HandlerStop Unit}
    (hreceived : received fromU8 bytes = .ok (kind, payload))
    (hframe : (handle state kind payload).ComesTo rest (.ok next))
    (h : (frameLoop fromU8 handle next).ComesTo events status) :
    (frameLoop fromU8 handle state).ComesTo (frameRead bytes :: rest ++ events) status := by
  obtain ⟨turns, reached, last, rfl, hturns, hlast⟩ := Prog.comesTo_iterate.mp h
  refine Prog.comesTo_iterate.mpr
    ⟨frameRead bytes :: rest ++ turns, reached, last, by simp, hturns.cons ?_, hlast⟩
  have hnext : (handle state kind payload >>= fun next => pure (Sum.inl next)).ComesTo
      (rest ++ []) (.ok (Sum.inl next : σ ⊕ Unit)) :=
    hframe.followed (Prog.comesTo_pure.mpr ⟨rfl, rfl⟩)
  rw [List.append_nil] at hnext
  exact comesTo_nextFrame.mpr (.frame bytes kind payload rest _ hreceived hnext)

theorem frameLoop_handled (hreceived : received fromU8 bytes = .ok (kind, payload))
    (hframe : (handle state kind payload).ComesTo rest (.ok next)) :
    (frameLoop fromU8 handle state).ComesTo (frameRead bytes :: rest)
      (.error (.waiting .readFullFrameOpt)) := by
  have hnext := frameLoop_continues hreceived hframe frameLoop_waits
  rwa [List.append_nil] at hnext

end Reached

end OpenRD.Server
