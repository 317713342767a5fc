import OpenRD.Foundation.Progress
import OpenRD.Server.Transcript

/-!
# How the Control task ends

The task joins every handler it has spawned when the client ends the Control stream
between two frames.  On an error it returns at once.
-/

namespace OpenRD.Server

open OpenRD.Foundation OpenRD.Proto Control

variable (server : ServerConfig)

/-! ## Spawned handlers and joined ones -/

def taskOf : ControlEvent → Option Task
  | .told (.spawn task) => some task
  | _ => none

def spawned (history : List ControlEvent) : List Task := history.filterMap taskOf

def AllJoined (history : List ControlEvent) : Prop :=
  ∀ handle < (spawned history).length, joinEvent handle ∈ history

/-! ## Answers that end the task -/

/-- The answers on which the task returns an error. -/
def BreaksOff : (question : Request) → question.Answer → Prop
  | .readFullFrame, answer => ∃ error, answer = .error error
  | .readFullFrameOpt, answer =>
      match answer with
      | .error _ => True
      | .ok none => False
      | .ok (some bytes) =>
          match receiveOpenChannel server.cib bytes with
          | .error _ => True
          | .ok none => False
          | .ok (some request) =>
              ∃ error, server.cib.write
                (openChannelAck request.channelId (ackStatus request.kind).toU32) =
                  .error error
  | .writeFrame .., answer | .writeUni .., answer => ∃ error, answer = .error error
  | .openUni, answer => ∃ error, answer = .error error
  | .acceptUni, answer | .acceptBi, answer => ∃ error, answer = .error error
  | .join _, _ => False

def Breaking : ControlEvent → Prop
  | .asked question answer => BreaksOff server question answer
  | .told _ => False

def Unbroken (history : List ControlEvent) : Prop := ∀ event ∈ history, ¬Breaking server event

def BrokenOff (history : List ControlEvent) : Prop :=
  ∃ earlier event, history = earlier ++ [event] ∧ Breaking server event

/-- The handlers spawned so far, if any, are left running by an error only. -/
def Ended : Except Error Unit → List ControlEvent → Prop
  | .ok _, history => Unbroken server history ∧ AllJoined history
  | .error _, history => spawned history = [] ∨ BrokenOff server history

variable {server}

theorem unbroken_nil : Unbroken server [] := by simp [Unbroken]

@[simp] theorem unbroken_asked {history : List ControlEvent} {question : Request}
    {answer : question.Answer} :
    Unbroken server (history ++ [.asked question answer]) ↔
      Unbroken server history ∧ ¬BreaksOff server question answer := by
  simp [Unbroken, Breaking, or_imp, forall_and]

@[simp] theorem unbroken_told {history : List ControlEvent} {output : Output} :
    Unbroken server (history ++ [.told output]) ↔ Unbroken server history := by
  simp [Unbroken, Breaking, or_imp, forall_and]

theorem brokenOff_asked {history : List ControlEvent} {question : Request}
    {answer : question.Answer} (h : BreaksOff server question answer) :
    BrokenOff server (history ++ [.asked question answer]) :=
  ⟨history, _, rfl, h⟩

@[simp] theorem spawned_nil : spawned [] = [] := rfl

@[simp] theorem spawned_asked {history : List ControlEvent} {question : Request}
    {answer : question.Answer} :
    spawned (history ++ [.asked question answer]) = spawned history := by
  simp [spawned, taskOf]

@[simp] theorem spawned_told {history : List ControlEvent} {task : Task} :
    spawned (history ++ [.told (.spawn task)]) = spawned history ++ [task] := by
  simp [spawned, taskOf]

@[simp] theorem spawned_logged {history : List ControlEvent}
    {outcome : Except NegotiationError NegotiatedProfile} :
    spawned (history ++ [.told (.logNegotiation outcome)]) = spawned history := by
  simp [spawned, taskOf]

/-! ## Before the first handler -/

/-- No answer has ended the task, and no handler runs yet. -/
structure Early (server : ServerConfig) (history : List ControlEvent) : Prop where
  unbroken : Unbroken server history
  unspawned : spawned history = []

/-- An exchange that spawns nothing. -/
def Exchanged (server : ServerConfig) {α : Type} :
    Except Error α → List ControlEvent → Prop
  | .ok _, history => Early server history
  | .error _, history => spawned history = []

variable {history : List ControlEvent}

theorem Unbroken.answered {question : Request} {answer : question.Answer}
    (h : Unbroken server history) (hanswer : ¬BreaksOff server question answer) :
    Unbroken server (history ++ [.asked question answer]) :=
  unbroken_asked.mpr ⟨h, hanswer⟩

theorem Early.answered {question : Request} {answer : question.Answer}
    (h : Early server history) (hanswer : ¬BreaksOff server question answer) :
    Early server (history ++ [.asked question answer]) :=
  ⟨h.unbroken.answered hanswer, by rw [spawned_asked, h.unspawned]⟩

theorem writeFrame_early {frameType : ControlFrameType} {payload : List UInt8}
    (h : Early server history) :
    (writeFrame frameType payload).Safe (Unbroken server) history (Exchanged server) := by
  refine (Prog.safe_call _ _).mpr ⟨h.unbroken, fun answer => ?_⟩
  cases answer with
  | error error => exact spawned_asked.trans h.unspawned
  | ok value => exact h.answered (by simp [BreaksOff])

theorem readFrame_early {α : Type} {f : List UInt8 → ControlProg α}
    (h : Early server history)
    (hread : ∀ bytes history, Early server history →
      (f bytes).Safe (Unbroken server) history (Exchanged server)) :
    (readFrame >>= f).Safe (Unbroken server) history (Exchanged server) := by
  refine Prog.safe_call_bind h.unbroken ?_ ?_
  · exact fun answer error _ => spawned_asked.trans h.unspawned
  · rintro answer bytes rfl
    exact hread bytes _ (h.answered (by simp [BreaksOff]))

theorem helloExchange_early (h : Early server history) :
    (helloExchange server).Safe (Unbroken server) history (Exchanged server) := by
  refine readFrame_early h fun bytes history h => ?_
  refine Prog.safe_lift_bind (fun _ _ => h.unspawned) ?_
  rintro ⟨protoV, clientName, clientCaps⟩ -
  have hlogged : Early server (history ++ [negotiationEvent clientCaps]) :=
    ⟨unbroken_told.mpr h.unbroken, spawned_logged.trans h.unspawned⟩
  refine Prog.safe_say_bind (Prog.safe_lift_bind (fun _ _ => hlogged.unspawned) ?_)
  exact fun payload _ => writeFrame_early hlogged

theorem authExchange_early (h : Early server history) :
    (authExchange server).Safe (Unbroken server) history (Exchanged server) := by
  refine readFrame_early h fun bytes history h => ?_
  refine Prog.safe_lift_bind (fun _ _ => h.unspawned) ?_
  rintro ⟨method, credential⟩ -
  refine Prog.safe_lift_bind (fun _ _ => h.unspawned) fun payload _ => ?_
  refine (writeFrame_early h).bind (fun _ _ hwritten => hwritten) ?_
  exact fun _ _ hwritten => hwritten

/-! ## While handlers run -/

/-- The handles are those of all handlers spawned, and no answer has ended the task. -/
structure Serves (server : ServerConfig) (handles : List Nat)
    (history : List ControlEvent) : Prop where
  unbroken : Unbroken server history
  handles : handles = List.range (spawned history).length

/-- A part of the task that breaks off with the answer just given. -/
def Served (server : ServerConfig) {α : Type} (handles : α → List Nat) :
    Except Error α → List ControlEvent → Prop
  | .ok value, history => Serves server (handles value) history
  | .error _, history => BrokenOff server history

variable {handles : List Nat}

theorem Serves.answered {question : Request} {answer : question.Answer}
    (h : Serves server handles history) (hanswer : ¬BreaksOff server question answer) :
    Serves server handles (history ++ [.asked question answer]) :=
  ⟨h.unbroken.answered hanswer, by rw [spawned_asked, h.handles]⟩

theorem Serves.spawned (h : Serves server handles history) (task : Task) :
    Serves server (handles ++ [handles.length]) (history ++ [.told (.spawn task)]) :=
  ⟨unbroken_told.mpr h.unbroken, by simp [h.handles, List.range_succ]⟩

theorem call_served {α β : Type} {question : Request}
    {result : question.Answer → Except Error α} {f : α → ControlProg β}
    {post : Except Error β → List ControlEvent → Prop}
    (h : Serves server handles history)
    (hbreaks : ∀ answer, BreaksOff server question answer ↔
      ∃ error, result answer = .error error)
    (hbroken : ∀ error history, BrokenOff server history → post (.error error) history)
    (hok : ∀ value history, Serves server handles history →
      (f value).Safe (Unbroken server) history post) :
    (Prog.call question result >>= f).Safe (Unbroken server) history post := by
  refine Prog.safe_call_bind h.unbroken ?_ ?_
  · intro answer error herror
    exact hbroken error _ (brokenOff_asked ((hbreaks answer).mpr ⟨error, herror⟩))
  · intro answer value hvalue
    refine hok value _ (h.answered fun hbreaksOff => ?_)
    obtain ⟨error, herror⟩ := (hbreaks answer).mp hbreaksOff
    cases hvalue.symm.trans herror

theorem writeValue_served {α : Type} {frameType : ControlFrameType} {value : Cbor}
    {f : Unit → ControlProg α} {post : Except Error α → List ControlEvent → Prop}
    (hunwritten : ∀ error, server.cib.write value = .error error →
      post (.error error) history)
    (hwritten : ∀ payload, server.cib.write value = .ok payload →
      Serves server handles history)
    (hbroken : ∀ error history, BrokenOff server history → post (.error error) history)
    (hok : ∀ history, Serves server handles history →
      (f ()).Safe (Unbroken server) history post) :
    (writeValue server frameType value >>= f).Safe (Unbroken server) history post := by
  rw [writeValue, Prog.bind_assoc]
  refine Prog.safe_lift_bind hunwritten fun payload hpayload => ?_
  exact call_served (hwritten payload hpayload) (fun _ => Iff.rfl) hbroken fun _ => hok

theorem openServerChannel_served {channel : ServerChannel}
    (h : Serves server handles history)
    (hunannounced : ∀ error, server.cib.write
      (openChannelAnnounce channel.kind.toU64 channel.channelId 0) = .error error →
        spawned history = []) :
    (openServerChannel server channel handles).Safe (Unbroken server) history
      fun result history =>
        match result with
        | .ok handles => Serves server handles history
        | .error error => Ended server (.error error) history := by
  have hbroken (error : Error) (history : List ControlEvent)
      (h : BrokenOff server history) : Ended server (.error error) history := .inr h
  refine writeValue_served (fun error herror => .inl (hunannounced error herror))
    (fun _ _ => h) hbroken fun history h => ?_
  refine call_served h (fun _ => Iff.rfl) hbroken fun stream history h => ?_
  refine call_served h (fun _ => Iff.rfl) hbroken fun _ history h => ?_
  exact h.spawned _

theorem startHandler_served {kind : UInt64} (h : Serves server handles history)
    (hsupported : isSupportedClientChannel kind = true) :
    (startHandler handles kind).Safe (Unbroken server) history (Served server id) := by
  rcases isSupportedClientChannel_iff.mp hsupported with rfl | rfl | rfl | rfl <;>
    exact call_served h (fun _ => Iff.rfl) (fun _ _ => id) fun _ _ h => h.spawned _

theorem dispatch_served (h : Serves server handles history) :
    (dispatch server handles).Safe (Unbroken server) history
      (Served server (Sum.elim id id)) := by
  refine Prog.safe_call_bind h.unbroken ?_ ?_
  · rintro answer error rfl
    exact brokenOff_asked trivial
  rintro answer frameBytes rfl
  cases frameBytes with
  | none => exact h.answered (by simp [BreaksOff])
  | some bytes =>
      refine Prog.safe_lift_bind ?_ fun request hreceived => ?_
      · intro error hreceived
        exact brokenOff_asked (by simp [BreaksOff, hreceived])
      cases request with
      | none => exact h.answered (by simp [BreaksOff, hreceived])
      | some request =>
          have hacked {payload : List UInt8} (hpayload : server.cib.write
              (openChannelAck request.channelId (ackStatus request.kind).toU32) =
                .ok payload) :
              Serves server handles (history ++ [readOptEvent bytes]) :=
            h.answered (by simp [BreaksOff, hreceived, hpayload])
          refine writeValue_served ?_ (fun _ => hacked) (fun _ _ => id) ?_
          · intro error hack
            exact brokenOff_asked (by simp [BreaksOff, hreceived, hack])
          intro history h
          split
          · exact h
          next hstatus =>
            have hsupported : isSupportedClientChannel request.kind = true := by
              cases hkind : isSupportedClientChannel request.kind with
              | true => rfl
              | false => exact absurd (by simp [ackStatus, hkind, ErrorCode.toU32]) hstatus
            exact (startHandler_served h hsupported).bind (fun _ _ => id) fun _ _ => id

/-- What `joinAll` adds to a history with all handlers of `handles` left to join. -/
theorem joinAll_served {handles : List Nat} (h : Unbroken server history)
    (hjoined : ∀ handle < (spawned history).length,
      joinEvent handle ∈ history ∨ handle ∈ handles) :
    (joinAll handles).Safe (Unbroken server) history (Ended server) := by
  induction handles generalizing history with
  | nil => exact ⟨h, fun handle hlt => (hjoined handle hlt).resolve_right (by simp)⟩
  | cons handle handles ih =>
      refine Prog.safe_call_bind h (fun _ _ => nofun) fun answer _ _ => ?_
      refine ih (h.answered (by simp [BreaksOff])) fun other hlt => ?_
      rw [spawned_asked] at hlt
      rcases hjoined other hlt with hmem | hmem
      · exact .inl (List.mem_append_left _ hmem)
      · rcases List.mem_cons.mp hmem with rfl | hmem
        · exact .inl (List.mem_append_right _ (List.mem_singleton.mpr rfl))
        · exact .inr hmem

/-! ## The whole task -/

theorem serveChannels_ends {payload : List UInt8}
    (hcursor : server.cib.intoWriter
      (openChannelAnnounce cursorChannel.kind.toU64 cursorChannel.channelId 0) = .ok payload)
    (h : Early server history) :
    (serveChannels server).Safe (Unbroken server) history (Ended server) := by
  have hbroken (error : Error) (history : List ControlEvent)
      (h : BrokenOff server history) : Ended server (.error error) history := .inr h
  have hserves : Serves server [] history := ⟨h.unbroken, by rw [h.unspawned]; rfl⟩
  refine (openServerChannel_served hserves fun _ _ => h.unspawned).bind ?_ fun _ _ => id
  intro handles history h
  refine (openServerChannel_served h ?_).bind ?_ fun _ _ => id
  · intro error herror
    cases (Ciborium.write_eq_ok.mpr hcursor).symm.trans herror
  intro handles history h
  have hloop : (Prog.iterate handles (dispatch server)).Safe (Unbroken server) history
      (Served server id) := by
    refine Prog.safe_iterate (Serves server) h fun handles history h => ?_
    refine ⟨h.unbroken, (dispatch_served h).mono fun result history hresult => ?_⟩
    match result with
    | .ok (.inl handles) => exact hresult
    | .ok (.inr handles) => exact hresult
    | .error error => exact hresult
  refine hloop.bind (fun handles history h => ?_) hbroken
  have hhandles : handles = List.range (spawned history).length := h.handles
  refine joinAll_served h.unbroken fun handle hlt => .inr ?_
  rw [hhandles]
  exact List.mem_range.mpr hlt

theorem handleControlStream_ends {payload : List UInt8}
    (hcursor : server.cib.intoWriter
      (openChannelAnnounce cursorChannel.kind.toU64 cursorChannel.channelId 0) =
        .ok payload) :
    (handleControlStream server).Safe (Unbroken server) [] (Ended server) := by
  have hunspawned {α : Type} (error : Error) (history : List ControlEvent)
      (h : Exchanged server (.error error : Except Error α) history) :
      Ended server (.error error) history := .inl h
  refine (helloExchange_early ⟨unbroken_nil, rfl⟩).bind ?_ hunspawned
  intro _ history h
  refine (authExchange_early h).bind ?_ hunspawned
  intro success history h
  cases success with
  | true => exact serveChannels_ends hcursor h
  | false => exact ⟨h.unbroken, fun handle hlt => by simp [h.unspawned] at hlt⟩

end OpenRD.Server
