import Mathlib.Data.List.Chain
import Mathlib.Data.List.Forall2
import OpenRD.Session.Progress

/-!
# The dispatcher loop

A session's history is a list of passes of the dispatcher loop between events that
have no part in it.  Requests, acknowledgements, accepted streams and handlers are
read off the history, and compared pass by pass.
-/

namespace OpenRD.Session

open OpenRD.Foundation OpenRD.Proto OpenRD.Server

variable {server : ServerConfig}

/-! ## The passes in a history -/

/-- An event that is no part of a pass of the dispatcher loop. -/
inductive Outside : ControlEvent → Prop where
  | read (answer : Except Error (List UInt8)) : Outside (.asked .readFullFrame answer)
  | negotiation (outcome : Except NegotiationError NegotiatedProfile) :
      Outside (.told (.logNegotiation outcome))
  | serverHello (payload : List UInt8) (answer : Except Error Unit) :
      Outside (writeEvent .serverHello payload answer)
  | authResult (payload : List UInt8) (answer : Except Error Unit) :
      Outside (writeEvent .authResult payload answer)
  | announce (payload : List UInt8) (answer : Except Error Unit) :
      Outside (writeEvent .openChannel payload answer)
  | openUni (answer : Except Error Nat) : Outside (.asked .openUni answer)
  | writeUni (stream : Nat) (frameType : UInt8) (payload : List UInt8)
      (answer : Except Error Unit) :
      Outside (.asked (.writeUni stream frameType payload) answer)
  | display (stream : Nat) : Outside (.told (.spawn (.display stream)))
  | cursor (stream : Nat) : Outside (.told (.spawn (.cursor stream)))
  | join (handle : Nat) : Outside (joinEvent handle)

inductive Trailing (server : ServerConfig) : List ControlEvent → Prop where
  | turn (events : List ControlEvent) (turn : PartialTurn server events) :
      Trailing server events
  | closed (joined : List Nat) :
      Trailing server (.asked .readFullFrameOpt (.ok none) :: joined.map joinEvent)

theorem outside_of_opening {channel : ServerChannel}
    (hchannel : channel = displayChannel ∨ channel = cursorChannel) {event : ControlEvent}
    (h : OpeningEvent server channel event) : Outside event := by
  cases h with
  | announce payload answer written => exact .announce payload answer
  | openUni answer => exact .openUni answer
  | first stream answer => exact .writeUni stream _ _ answer
  | spawn stream =>
      rcases hchannel with rfl | rfl
      · exact .display stream
      · exact .cursor stream

theorem outside_of_hello (hello : Hello server) : ∀ event ∈ hello.events, Outside event := by
  simp [Hello.events, readEvent, negotiationEvent, Outside.read, Outside.negotiation,
    Outside.serverHello]

theorem outside_of_auth (auth : Auth server) : ∀ event ∈ auth.events, Outside event := by
  simp [Auth.events, readEvent, Outside.read, Outside.authResult]

theorem outside_of_partialHello {events : List ControlEvent}
    (h : PartialHello server events) : ∀ event ∈ events, Outside event := by
  cases h <;> simp [readEvent, negotiationEvent, Outside.read, Outside.negotiation,
    Outside.serverHello]

theorem outside_of_partialAuth {events : List ControlEvent}
    (h : PartialAuth server events) : ∀ event ∈ events, Outside event := by
  cases h <;> simp [readEvent, Outside.read, Outside.authResult]

/-- A history consists of outside events, complete passes, and what trails them. -/
inductive Dispatched (server : ServerConfig) : List ControlEvent → Prop where
  | intro (before : List ControlEvent) (turns : List (Turn server))
      (trailing : List ControlEvent) (outside : ∀ event ∈ before, Outside event)
      (trails : Trailing server trailing) :
      Dispatched server (before ++ (turnEvents turns ++ trailing))

theorem Dispatched.of_outside {events : List ControlEvent}
    (h : ∀ event ∈ events, Outside event) : Dispatched server events := by
  simpa [turnEvents] using
    (Dispatched.intro events [] [] h (.turn [] .waiting) : Dispatched server _)

theorem Dispatched.prepend {events history : List ControlEvent}
    (hevents : ∀ event ∈ events, Outside event) (h : Dispatched server history) :
    Dispatched server (events ++ history) := by
  obtain ⟨before, turns, trailing, outside, trails⟩ := h
  rw [← List.append_assoc]
  refine .intro (events ++ before) turns trailing (fun event hmem => ?_) trails
  rcases List.mem_append.mp hmem with hmem | hmem
  · exact hevents event hmem
  · exact outside event hmem

theorem dispatched_of_turns (turns : List (Turn server)) {trailing : List ControlEvent}
    (h : Trailing server trailing) : Dispatched server (turnEvents turns ++ trailing) :=
  .intro [] turns trailing (by simp) h

theorem dispatched_of_serving {events : List ControlEvent} (h : Serving server events) :
    Dispatched server events := by
  have hdisplay {events : List ControlEvent}
      (h : ∀ event ∈ events, OpeningEvent server displayChannel event) :
      ∀ event ∈ events, Outside event :=
    fun event hmem => outside_of_opening (.inl rfl) (h event hmem)
  have hcursor {events : List ControlEvent}
      (h : ∀ event ∈ events, OpeningEvent server cursorChannel event) :
      ∀ event ∈ events, Outside event :=
    fun event hmem => outside_of_opening (.inr rfl) (h event hmem)
  cases h with
  | display events opening => exact .of_outside (hdisplay opening)
  | cursor display events opening =>
      exact .prepend (hdisplay display.opening) (.of_outside (hcursor opening))
  | dispatching display cursor turns events turn =>
      exact .prepend (hdisplay display.opening) (.prepend (hcursor cursor.opening)
        (dispatched_of_turns turns (.turn events turn)))
  | closing display cursor turns joined =>
      exact .prepend (hdisplay display.opening) (.prepend (hcursor cursor.opening)
        (dispatched_of_turns turns (.closed joined)))

theorem dispatched_of_transcript {history : List ControlEvent}
    (h : Transcript server history) : Dispatched server history := by
  cases h with
  | greeting events hello => exact .of_outside (outside_of_partialHello hello)
  | authenticating hello events auth =>
      exact .prepend (outside_of_hello hello) (.of_outside (outside_of_partialAuth auth))
  | denied hello auth status =>
      exact .prepend (outside_of_hello hello) (.of_outside (outside_of_auth auth))
  | serving hello auth status events serving =>
      exact .prepend (outside_of_hello hello) (.prepend (outside_of_auth auth)
        (dispatched_of_serving serving))

/-! ## What a history shows of the passes -/

/-- A Control frame received after authentication. -/
def frameOf : ControlEvent → Option (List UInt8)
  | .asked .readFullFrameOpt (.ok (some bytes)) => some bytes
  | _ => none

def ackOf : ControlEvent → Option (List UInt8)
  | .asked (.writeFrame frameType payload) _ =>
      if frameType = ControlFrameType.openChannelAck.toU8 then some payload else none
  | _ => none

inductive Direction where
  | uni
  | bi
  deriving DecidableEq

def direction (kind : UInt64) : Direction :=
  if kind = ChannelKind.input.toU64 then .uni else .bi

def acceptOf : ControlEvent → Option (Direction × ClientStream)
  | .asked .acceptUni (.ok stream) => some (.uni, stream)
  | .asked .acceptBi (.ok stream) => some (.bi, stream)
  | _ => none

def startOf : ControlEvent → Option (UInt64 × ClientStream)
  | .told (.spawn task) => task.client
  | _ => none

def requestOf (cib : Ciborium) (event : ControlEvent) : Option OpenChannel :=
  (frameOf event).bind fun bytes => (receiveOpenChannel cib bytes).toOption.join

theorem frameOf_eq_some {event : ControlEvent} {bytes : List UInt8} :
    frameOf event = some bytes ↔ event = readOptEvent bytes := by
  constructor
  · intro h
    unfold frameOf at h
    split at h
    · cases h
      rfl
    · cases h
  · rintro rfl
    rfl

theorem requestOf_eq_some {cib : Ciborium} {event : ControlEvent} {request : OpenChannel} :
    requestOf cib event = some request ↔
      ∃ bytes, event = readOptEvent bytes ∧ AcceptsOpen cib bytes request := by
  simp only [requestOf, Option.bind_eq_some_iff, frameOf_eq_some,
    ← receiveOpenChannel_eq_some]
  refine exists_congr fun bytes => and_congr_right fun _ => ?_
  cases receiveOpenChannel cib bytes <;> simp [Except.toOption]

theorem filterMap_dispatched {β : Type} {view : ControlEvent → Option β}
    {shown : Turn server → Option β}
    (hview : ∀ event, Outside event → view event = none)
    (hturn : ∀ turn : Turn server, turn.events.filterMap view = (shown turn).toList)
    {before : List ControlEvent} (houtside : ∀ event ∈ before, Outside event)
    (turns : List (Turn server)) (trailing : List ControlEvent) :
    (before ++ (turnEvents turns ++ trailing)).filterMap view =
      turns.filterMap shown ++ trailing.filterMap view := by
  have hbefore : before.filterMap view = [] :=
    List.filterMap_eq_nil_iff.mpr fun event hmem => hview event (houtside event hmem)
  rw [List.filterMap_append, hbefore, List.nil_append, List.filterMap_append, turnEvents,
    List.filterMap_flatMap, List.filterMap_eq_flatMap_toList shown]
  simp only [hturn]

theorem frameOf_outside : ∀ event, Outside event → frameOf event = none := by
  rintro _ ⟨⟩ <;> rfl

theorem ackOf_outside : ∀ event, Outside event → ackOf event = none := by
  rintro _ ⟨⟩ <;> rfl

theorem requestOf_outside (cib : Ciborium) :
    ∀ event, Outside event → requestOf cib event = none := by
  rintro _ ⟨⟩ <;> rfl

theorem acceptOf_outside : ∀ event, Outside event → acceptOf event = none := by
  rintro _ ⟨⟩ <;> rfl

theorem startOf_outside : ∀ event, Outside event → startOf event = none := by
  rintro _ ⟨⟩ <;> rfl

/-! ## What the views show of a pass -/

section Shown

variable (bytes payload : List UInt8) (written : Except Error Unit) (kind : UInt64)
  (stream : ClientStream) (task : Task) (cib : Ciborium)

@[simp] theorem ackOf_read : ackOf (readOptEvent bytes) = none := rfl

@[simp] theorem acceptOf_read : acceptOf (readOptEvent bytes) = none := rfl

@[simp] theorem startOf_read : startOf (readOptEvent bytes) = none := rfl

@[simp] theorem requestOf_ack :
    requestOf cib (writeEvent .openChannelAck payload written) = none := rfl

@[simp] theorem ackOf_ack :
    ackOf (writeEvent .openChannelAck payload written) = some payload := rfl

@[simp] theorem acceptOf_ack :
    acceptOf (writeEvent .openChannelAck payload written) = none := rfl

@[simp] theorem startOf_ack :
    startOf (writeEvent .openChannelAck payload written) = none := rfl

@[simp] theorem requestOf_accept (answer : Except Error ClientStream) :
    requestOf cib (acceptEvent kind answer) = none := by
  rw [acceptEvent]
  split <;> rfl

@[simp] theorem ackOf_accept (answer : Except Error ClientStream) :
    ackOf (acceptEvent kind answer) = none := by
  rw [acceptEvent]
  split <;> rfl

@[simp] theorem startOf_accept (answer : Except Error ClientStream) :
    startOf (acceptEvent kind answer) = none := by
  rw [acceptEvent]
  split <;> rfl

@[simp] theorem acceptOf_accept :
    acceptOf (acceptEvent kind (.ok stream)) = some (direction kind, stream) := by
  rw [acceptEvent, direction]
  split <;> rfl

@[simp] theorem acceptOf_accept_error (error : Error) :
    acceptOf (acceptEvent kind (.error error)) = none := by
  rw [acceptEvent]
  split <;> rfl

@[simp] theorem requestOf_spawn : requestOf cib (.told (.spawn task)) = none := rfl

@[simp] theorem ackOf_spawn : ackOf (.told (.spawn task)) = none := rfl

@[simp] theorem acceptOf_spawn : acceptOf (.told (.spawn task)) = none := rfl

variable {bytes kind cib} in
theorem requestOf_read {request : Option OpenChannel}
    (h : receiveOpenChannel cib bytes = .ok request) :
    requestOf cib (readOptEvent bytes) = request := by
  simp [requestOf, readOptEvent, frameOf, h, Except.toOption]

variable {bytes cib} in
theorem requestOf_malformed {error : Error}
    (h : receiveOpenChannel cib bytes = .error error) :
    requestOf cib (readOptEvent bytes) = none := by
  simp [requestOf, readOptEvent, frameOf, h, Except.toOption]

variable {kind} in
theorem startOf_spawn (h : isSupportedClientChannel kind = true) :
    startOf (.told (.spawn (clientTask kind stream))) = some (kind, stream) := by
  rcases isSupportedClientChannel_iff.mp h with rfl | rfl | rfl | rfl <;> rfl

end Shown

theorem requestOf_turn (turn : Turn server) :
    turn.events.filterMap (requestOf server.cib) =
      (turn.acked?.map Acked.request).toList := by
  cases turn with
  | skipped bytes received =>
      simp [Turn.events, Turn.acked?, requestOf_read received]
  | refused acked unsupported =>
      simp [List.filterMap_cons, Turn.events, Turn.acked?, Acked.events,
        requestOf_read acked.received]
  | served acked supported stream =>
      simp [List.filterMap_cons, Turn.events, Turn.acked?, Acked.events,
        requestOf_read acked.received]

theorem ackOf_turn (turn : Turn server) :
    turn.events.filterMap ackOf = (turn.acked?.map Acked.payload).toList := by
  cases turn <;> simp [List.filterMap_cons, Turn.events, Turn.acked?, Acked.events]

theorem acceptOf_turn (turn : Turn server) :
    turn.events.filterMap acceptOf =
      (turn.served?.map fun served =>
        (direction served.1.request.kind, served.2)).toList := by
  cases turn <;> simp [List.filterMap_cons, Turn.events, Turn.served?, Acked.events]

theorem startOf_turn (turn : Turn server) :
    turn.events.filterMap startOf =
      (turn.served?.map fun served => (served.1.request.kind, served.2)).toList := by
  cases turn with
  | skipped | refused => simp [List.filterMap_cons, Turn.events, Turn.served?, Acked.events]
  | served acked supported stream =>
      simp [List.filterMap_cons, Turn.events, Turn.served?, Acked.events,
        startOf_spawn stream supported]

/-! ## Requests, acknowledgements and handlers -/

/-- The requests that were acknowledged, and those of them that were given a stream. -/
structure Accounted (server : ServerConfig) (history : List ControlEvent)
    (acked : List (Acked server)) (served : List (Acked server × ClientStream)) :
    Prop where
  requested : acked.map Acked.request <+: history.filterMap (requestOf server.cib)
  latest : (history.filterMap (requestOf server.cib)).length ≤ acked.length + 1
  replied : history.filterMap ackOf = acked.map Acked.payload
  supported : served.map Prod.fst <+:
    acked.filter fun acked => isSupportedClientChannel acked.request.kind
  accepted : history.filterMap acceptOf =
    served.map fun served => (direction served.1.request.kind, served.2)
  started : history.filterMap startOf =
    served.map fun served => (served.1.request.kind, served.2)

theorem accounted_of_silent {events : List ControlEvent}
    (h : ∀ event ∈ events, frameOf event = none ∧ ackOf event = none ∧
      acceptOf event = none ∧ startOf event = none) : Accounted server events [] [] := by
  have hnone {β : Type} {view : ControlEvent → Option β}
      (hview : ∀ event ∈ events, view event = none) : events.filterMap view = [] :=
    List.filterMap_eq_nil_iff.mpr hview
  have hrequests : events.filterMap (requestOf server.cib) = [] :=
    hnone fun event hmem => by rw [requestOf, (h event hmem).1, Option.bind_none]
  have hacks := hnone fun event hmem => (h event hmem).2.1
  have haccepts := hnone fun event hmem => (h event hmem).2.2.1
  have hstarts := hnone fun event hmem => (h event hmem).2.2.2
  constructor <;> simp [hrequests, hacks, haccepts, hstarts]

theorem accounted_of_partialTurn {events : List ControlEvent}
    (h : PartialTurn server events) :
    ∃ acked : Option (Acked server), Accounted server events acked.toList [] := by
  cases h with
  | waiting => exact ⟨none, by constructor <;> simp⟩
  | unread error =>
      refine ⟨none, accounted_of_silent fun event hmem => ?_⟩
      exact List.mem_singleton.mp hmem ▸ ⟨rfl, rfl, rfl, rfl⟩
  | malformed bytes error received =>
      refine ⟨none, ?_⟩
      constructor <;> simp [List.filterMap_cons, requestOf_malformed received]
  | received bytes request received =>
      refine ⟨none, ?_⟩
      constructor <;> simp [List.filterMap_cons, requestOf_read received]
  | unacknowledged acked error =>
      refine ⟨some acked, ?_⟩
      constructor <;>
        simp [List.filterMap_cons, Acked.events, requestOf_read acked.received]
  | accepting acked supported =>
      refine ⟨some acked, ?_⟩
      constructor <;>
        simp [List.filterMap_cons, Acked.events, requestOf_read acked.received]
  | unaccepted acked supported error =>
      refine ⟨some acked, ?_⟩
      constructor <;>
        simp [List.filterMap_cons, Acked.events, requestOf_read acked.received]

theorem accounted_of_trailing {trailing : List ControlEvent}
    (h : Trailing server trailing) :
    ∃ acked : Option (Acked server), Accounted server trailing acked.toList [] := by
  cases h with
  | turn events turn => exact accounted_of_partialTurn turn
  | closed joined =>
      refine ⟨none, accounted_of_silent fun event hmem => ?_⟩
      rcases List.mem_cons.mp hmem with rfl | hmem
      · exact ⟨rfl, rfl, rfl, rfl⟩
      · obtain ⟨handle, -, rfl⟩ := List.mem_map.mp hmem
        exact ⟨rfl, rfl, rfl, rfl⟩

theorem served_eq_supported (turns : List (Turn server)) :
    (turns.filterMap Turn.acked?).filter
        (fun acked => isSupportedClientChannel acked.request.kind) =
      (turns.filterMap Turn.served?).map Prod.fst := by
  induction turns with
  | nil => rfl
  | cons turn turns ih =>
      cases turn with
      | skipped bytes received => exact ih
      | refused acked unsupported =>
          simp [List.filterMap_cons, Turn.acked?, Turn.served?, unsupported, ih]
      | served acked supported stream =>
          simp [Turn.acked?, Turn.served?, supported, ih]

theorem accounted_of_dispatched {history : List ControlEvent}
    (h : Dispatched server history) :
    ∃ acked served, Accounted server history acked served := by
  obtain ⟨before, turns, trailing, houtside, htrailing⟩ := h
  obtain ⟨last, hlast⟩ := accounted_of_trailing htrailing
  have hrequests := filterMap_dispatched (requestOf_outside server.cib) requestOf_turn
    houtside turns trailing
  have hacks := filterMap_dispatched ackOf_outside ackOf_turn houtside turns trailing
  have haccepts := filterMap_dispatched acceptOf_outside acceptOf_turn houtside turns
    trailing
  have hstarts := filterMap_dispatched startOf_outside startOf_turn houtside turns trailing
  refine ⟨turns.filterMap Turn.acked? ++ last.toList, turns.filterMap Turn.served?, ?_⟩
  constructor
  · rw [hrequests, List.map_append, List.map_filterMap]
    exact (List.prefix_append_right_inj _).mpr hlast.requested
  · have := hlast.latest
    rw [hrequests]
    simp only [List.length_append, ← List.map_filterMap, List.length_map]
    omega
  · rw [hacks, hlast.replied, List.map_append, List.map_filterMap]
  · rw [List.filter_append, served_eq_supported]
    exact List.prefix_append _ _
  · rw [haccepts, hlast.accepted, List.map_filterMap]
    simp
  · rw [hstarts, hlast.started, List.map_filterMap]
    simp

/-! ## Frames without a reply -/

/-- A frame of another type is followed by nothing but the next read. -/
def NoReply (event next : ControlEvent) : Prop :=
  ∀ bytes frame n, event = readOptEvent bytes → Frame.parse bytes = .ok (frame, n) →
    frame.header.frameType ≠ ControlFrameType.openChannel.toU8 →
    ∃ answer, next = .asked .readFullFrameOpt answer

theorem noReply_of_frameOf {event : ControlEvent} (h : frameOf event = none)
    (next : ControlEvent) : NoReply event next := by
  rintro bytes frame n rfl
  cases h

theorem noReply_of_acked (acked : Acked server) (next : ControlEvent) :
    NoReply (readOptEvent acked.bytes) next := by
  intro bytes frame n hevent hparse htype
  simp only [readOptEvent, Event.asked.injEq, heq_eq_eq, true_and, Except.ok.injEq,
    Option.some.injEq] at hevent
  obtain ⟨frame', n', -, hparse', htype', -⟩ :=
    receiveOpenChannel_eq_some.mp acked.received
  rw [hevent] at hparse'
  cases hparse.symm.trans hparse'
  exact absurd htype' htype

theorem noReply_of_acked_events (acked : Acked server) (answer : Except Error Unit) :
    ∀ event ∈ acked.events answer, ∀ next, NoReply event next := by
  intro event hmem
  simp only [Acked.events, List.mem_cons, List.not_mem_nil, or_false] at hmem
  rcases hmem with rfl | rfl
  · exact noReply_of_acked acked
  · exact noReply_of_frameOf rfl

theorem frameOf_accept (kind : UInt64) (answer : Except Error ClientStream) :
    frameOf (acceptEvent kind answer) = none := by
  rw [acceptEvent]
  split <;> rfl

theorem isChain_append_of_all {events rest : List ControlEvent}
    (h : ∀ event ∈ events, ∀ next, NoReply event next) (hrest : rest.IsChain NoReply) :
    (events ++ rest).IsChain NoReply := by
  induction events with
  | nil => exact hrest
  | cons event events ih =>
      refine List.isChain_cons.mpr ⟨fun next _ => h event List.mem_cons_self next, ih ?_⟩
      exact fun event hmem => h event (List.mem_cons_of_mem _ hmem)

def StartsWithRead (events : List ControlEvent) : Prop :=
  ∀ event ∈ events.head?, ∃ answer, event = .asked .readFullFrameOpt answer

theorem startsWithRead_turns {turns : List (Turn server)} {trailing : List ControlEvent}
    (h : StartsWithRead trailing) : StartsWithRead (turnEvents turns ++ trailing) := by
  cases turns with
  | nil => exact h
  | cons turn turns => cases turn <;> simp [StartsWithRead, turnEvents, Turn.events,
      Acked.events, readOptEvent]

theorem isChain_turns {turns : List (Turn server)} {trailing : List ControlEvent}
    (hstarts : StartsWithRead trailing) (hchain : trailing.IsChain NoReply) :
    (turnEvents turns ++ trailing).IsChain NoReply := by
  induction turns with
  | nil => exact hchain
  | cons turn turns ih =>
      rw [turnEvents, List.flatMap_cons, List.append_assoc]
      cases turn with
      | skipped bytes received =>
          refine List.isChain_cons.mpr ⟨fun next hnext => ?_, ih⟩
          exact fun _ _ _ _ _ _ => startsWithRead_turns hstarts next hnext
      | refused acked unsupported =>
          exact isChain_append_of_all (noReply_of_acked_events acked _) ih
      | served acked supported stream =>
          refine isChain_append_of_all (fun event hmem => ?_) ih
          rcases List.mem_append.mp hmem with hmem | hmem
          · exact noReply_of_acked_events acked _ event hmem
          · simp only [List.mem_cons, List.not_mem_nil, or_false] at hmem
            rcases hmem with rfl | rfl
            · exact noReply_of_frameOf (frameOf_accept _ _)
            · exact noReply_of_frameOf rfl

theorem startsWithRead_of_trailing {trailing : List ControlEvent}
    (h : Trailing server trailing) : StartsWithRead trailing := by
  cases h with
  | turn events turn =>
      cases turn <;> simp [StartsWithRead, Acked.events, readOptEvent]
  | closed joined => simp [StartsWithRead]

theorem isChain_of_trailing {trailing : List ControlEvent}
    (h : Trailing server trailing) : trailing.IsChain NoReply := by
  have hacked (acked : Acked server) (answer : Except Error Unit) :
      (acked.events answer).IsChain NoReply := by
    simpa using isChain_append_of_all (noReply_of_acked_events acked answer) .nil
  cases h with
  | turn events turn =>
      cases turn with
      | waiting => exact .nil
      | unread | malformed | received => exact .singleton _
      | unacknowledged acked error => exact hacked acked _
      | accepting acked supported => exact hacked acked _
      | unaccepted acked supported error =>
          exact isChain_append_of_all (noReply_of_acked_events acked _) (.singleton _)
  | closed joined =>
      refine List.isChain_cons.mpr ⟨fun next _ => noReply_of_frameOf rfl next, ?_⟩
      have hjoined : ∀ event ∈ joined.map joinEvent, ∀ next, NoReply event next := by
        intro event hmem
        obtain ⟨handle, -, rfl⟩ := List.mem_map.mp hmem
        exact noReply_of_frameOf rfl
      simpa using isChain_append_of_all hjoined .nil

theorem isChain_of_dispatched {history : List ControlEvent}
    (h : Dispatched server history) : history.IsChain NoReply := by
  obtain ⟨before, turns, trailing, houtside, htrailing⟩ := h
  refine isChain_append_of_all (fun event hmem => ?_)
    (isChain_turns (startsWithRead_of_trailing htrailing) (isChain_of_trailing htrailing))
  exact noReply_of_frameOf (frameOf_outside event (houtside event hmem))

/-! ## The unreachable arm -/

theorem not_panicking_of_dispatch {event : ControlEvent} (h : DispatchEvent server event)
    (text : String) : event ≠ .told (.panicking text) := by
  cases h with
  | read | ack | spawn => simp [writeEvent]
  | accept kind supported answer =>
      rw [acceptEvent]
      split <;> simp

theorem not_panicking_of_trailing {trailing : List ControlEvent}
    (h : Trailing server trailing) (text : String) : .told (.panicking text) ∉ trailing := by
  intro hmem
  cases h with
  | turn events turn => exact not_panicking_of_dispatch (turn.dispatching _ hmem) text rfl
  | closed joined => simp [joinEvent] at hmem

theorem not_panicking_of_dispatched {history : List ControlEvent}
    (h : Dispatched server history) (text : String) :
    .told (.panicking text) ∉ history := by
  obtain ⟨before, turns, trailing, houtside, htrailing⟩ := h
  intro hmem
  rcases List.mem_append.mp hmem with hmem | hmem
  · cases houtside _ hmem
  · rcases List.mem_append.mp hmem with hmem | hmem
    · obtain ⟨turn, -, hturn⟩ := List.mem_flatMap.mp hmem
      exact not_panicking_of_dispatch (turn.dispatching _ hturn) text rfl
    · exact not_panicking_of_trailing htrailing text hmem

/-! ## The dispatcher -/

def ClientKind (kind : UInt64) : Prop :=
  kind = ChannelKind.input.toU64 ∨ kind = ChannelKind.clipboard.toU64 ∨
    kind = ChannelKind.chat.toU64 ∨ kind = ChannelKind.file.toU64

instance (kind : UInt64) : Decidable (ClientKind kind) :=
  inferInstanceAs (Decidable (_ ∨ _))

theorem decide_clientKind (kind : UInt64) :
    decide (ClientKind kind) = isSupportedClientChannel kind := by
  rw [Bool.eq_iff_iff, decide_eq_true_iff, isSupportedClientChannel_iff, ClientKind]

/-- `payload` carries the id of `request` and a status, which is 0 if it is supported. -/
def Acknowledges (cib : Ciborium) (request : OpenChannel) (payload : List UInt8) : Prop :=
  ∃ status : UInt32,
    cib.intoWriter (.map [(.uint 1, .uint request.channelId),
      (.uint 2, .uint status.toUInt64), (.uint 3, .map [])]) = .ok payload ∧
      (status = 0 ↔ ClientKind request.kind) ∧
      (¬ClientKind request.kind → status = ErrorCode.notImplemented.toU32)

theorem acknowledges_of_acked (acked : Acked server) :
    Acknowledges server.cib acked.request acked.payload := by
  have hkind := decide_clientKind acked.request.kind
  refine ⟨_, acked.written, ?_⟩
  by_cases hclient : ClientKind acked.request.kind
  · simp [ackStatus, ← hkind, hclient, ErrorCode.toU32]
  · simp [ackStatus, ← hkind, hclient, ErrorCode.toU32]

/--
The first requests of a history, in their order, are acknowledged one by one; of the
supported ones among them the first are given the accepted streams, one by one, and a
handler of the requested kind.
-/
structure AnsweredInOrder (cib : Ciborium) (history : List ControlEvent)
    (acked served : List OpenChannel) : Prop where
  requested : acked <+: history.filterMap (requestOf cib)
  latest : (history.filterMap (requestOf cib)).length ≤ acked.length + 1
  acknowledged : List.Forall₂ (Acknowledges cib) acked (history.filterMap ackOf)
  supported : served <+: acked.filter fun request => ClientKind request.kind
  accepted : (history.filterMap acceptOf).map Prod.fst =
    served.map fun request => direction request.kind
  started : history.filterMap startOf =
    (served.map OpenChannel.kind).zip ((history.filterMap acceptOf).map Prod.snd)

theorem answered_of_reachable {server : ServerConfig} {control : RecvStream}
    {session : State} (h : Reachable server control session) :
    ∃ acked served, AnsweredInOrder server.cib session.history acked served := by
  have hdispatched := dispatched_of_transcript (reachable_transcript h)
  obtain ⟨acked, served, haccounted⟩ := accounted_of_dispatched hdispatched
  refine ⟨acked.map Acked.request, served.map fun served => served.1.request, ?_⟩
  constructor
  · exact haccounted.requested
  · simpa using haccounted.latest
  · rw [haccounted.replied, List.forall₂_map_left_iff, List.forall₂_map_right_iff,
      List.forall₂_same]
    exact fun acked _ => acknowledges_of_acked acked
  · simp only [decide_clientKind, List.filter_map]
    simpa [Function.comp_def] using haccounted.supported.map Acked.request
  · rw [haccounted.accepted]
    simp
  · rw [haccounted.started, haccounted.accepted]
    simp [List.zip_map', Function.comp_def]

theorem open_channel_dispatch {server : ServerConfig} {control : RecvStream}
    {session : State} (h : Reachable server control session) :
    (∃ acked served, AnsweredInOrder server.cib session.history acked served) ∧
      session.history.IsChain NoReply ∧
      ∀ text, .told (.panicking text) ∉ session.history := by
  have hdispatched := dispatched_of_transcript (reachable_transcript h)
  exact ⟨answered_of_reachable h, isChain_of_dispatched hdispatched,
    not_panicking_of_dispatched hdispatched⟩

theorem open_channel_dispatch_loopback :
    ∃ session, Reachable (loopbackServer "493817") loopbackControl session ∧
      session.history.filterMap startOf =
        [(ChannelKind.input.toU64, loopbackUni), (ChannelKind.clipboard.toU64, loopbackBi)] ∧
      ∃ acked served,
        AnsweredInOrder Ciborium.rfc8949 session.history acked served := by
  obtain ⟨session, hreachable, hhistory, -⟩ := reachable_loopback
  refine ⟨session, hreachable, ?_, (open_channel_dispatch hreachable).1⟩
  rw [hhistory]
  rfl

end OpenRD.Session
