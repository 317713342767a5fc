import OpenRD.Foundation.Alike
import OpenRD.Server.Handlers

/-!
# The server's tasks side by side

The Control task, and a handler, run beside themselves on streams that are read alike.  The
server can be built with and without overflow checks: a handler of the checked build runs
beside one of the other until an addition overflows.
-/

namespace OpenRD.Server

open OpenRD.Foundation OpenRD.Proto Prog

/-- The server with the overflow checks of another build. -/
def ServerConfig.built (server : ServerConfig) (checks : Bool) : ServerConfig :=
  { server with overflowChecks := checks }

/-! ## Streams that are read alike -/

/-- A relation of streams that every frame read keeps, and cannot see. -/
structure ReadAlike (same : RecvStream → RecvStream → Prop) : Prop where
  refl (recv : RecvStream) : same recv recv
  readFullFrame {recv recv' : RecvStream} (h : same recv recv') :
    (readFullFrame recv).1 = (readFullFrame recv').1 ∧
      same (readFullFrame recv).2 (readFullFrame recv').2
  readFullFrameOpt {recv recv' : RecvStream} (h : same recv recv') :
    (readFullFrameOpt recv).1 = (readFullFrameOpt recv').1 ∧
      same (readFullFrameOpt recv).2 (readFullFrameOpt recv').2

theorem readAlike_sameContents : ReadAlike Source.SameContents where
  refl _ := ⟨rfl, rfl⟩
  readFullFrame := readFrameWith_uniform readerTexts _ _
  readFullFrameOpt := readFrameOptWith_uniform readerTexts _ _

structure ClientStream.Alike (same : RecvStream → RecvStream → Prop)
    (stream stream' : ClientStream) : Prop where
  number : stream'.number = stream.number
  purpose : stream'.purpose = stream.purpose
  recv : same stream.recv stream'.recv

inductive Task.Alike (same : RecvStream → RecvStream → Prop) : Task → Task → Prop where
  | display (stream : Nat) : Task.Alike same (.display stream) (.display stream)
  | cursor (stream : Nat) : Task.Alike same (.cursor stream) (.cursor stream)
  | input {stream stream' : ClientStream} (h : stream.Alike same stream') :
      Task.Alike same (.input stream) (.input stream')
  | clipboard {stream stream' : ClientStream} (h : stream.Alike same stream') :
      Task.Alike same (.clipboard stream) (.clipboard stream')
  | chat {stream stream' : ClientStream} (h : stream.Alike same stream') :
      Task.Alike same (.chat stream) (.chat stream')
  | file {stream stream' : ClientStream} (h : stream.Alike same stream') :
      Task.Alike same (.file stream) (.file stream')

/-! ## The Control task -/

inductive AcceptedAlike (same : RecvStream → RecvStream → Prop) :
    Except Error ClientStream → Except Error ClientStream → Prop where
  | ok {stream stream' : ClientStream} (h : stream.Alike same stream') :
      AcceptedAlike same (.ok stream) (.ok stream')
  | error (error : Error) : AcceptedAlike same (.error error) (.error error)

inductive Output.Alike (same : RecvStream → RecvStream → Prop) : Output → Output → Prop where
  | logNegotiation (outcome : Except NegotiationError NegotiatedProfile) :
      Output.Alike same (.logNegotiation outcome) (.logNegotiation outcome)
  | spawn {task task' : Task} (h : task.Alike same task') :
      Output.Alike same (.spawn task) (.spawn task')
  | panicking (text : String) : Output.Alike same (.panicking text) (.panicking text)

/-- The same in everything but the streams the client opened, which are alike. -/
def controlLike (same : RecvStream → RecvStream → Prop) :
    Likeness Request Request.Answer Output where
  answers
    | .acceptUni => AcceptedAlike same
    | .acceptBi => AcceptedAlike same
    | .readFullFrame | .readFullFrameOpt | .writeFrame .. | .openUni | .writeUni .. | .join _ =>
      Eq
  outputs := Output.Alike same
  quits _ := False

section Control

open Control

variable {same : RecvStream → RecvStream → Prop} (server : ServerConfig)

theorem alike_writeValue (frameType : ControlFrameType) (value : Cbor) :
    (writeValue server frameType value).Alike (controlLike same)
      (writeValue server frameType value) Eq := by
  refine .bind_eq (.lift _) fun payload => ?_
  exact .call_eq _ fun _ _ => id

theorem alike_helloExchange :
    (helloExchange server).Alike (controlLike same) (helloExchange server) Eq := by
  refine .bind_eq (.call_eq _ fun _ _ => id) fun frameBytes => ?_
  refine .bind_eq (.lift _) ?_
  rintro ⟨protoV, clientName, clientCaps⟩
  refine .bind_eq (.say (.logNegotiation _)) fun _ => ?_
  refine .bind_eq (.lift _) fun payload => ?_
  exact .call_eq _ fun _ _ => id

theorem alike_authExchange :
    (authExchange server).Alike (controlLike same) (authExchange server) Eq := by
  refine .bind_eq (.call_eq _ fun _ _ => id) fun authBytes => ?_
  refine .bind_eq (.lift _) ?_
  rintro ⟨method, credential⟩
  refine .bind_eq (.lift _) fun payload => ?_
  refine .bind_eq (.call_eq _ fun _ _ => id) fun _ => ?_
  exact .pure rfl

theorem alike_spawn (handles : List Nat) {task task' : Task} (h : task.Alike same task') :
    (spawn handles task).Alike (controlLike same) (spawn handles task') Eq := by
  refine .bind_eq (.say (.spawn h)) fun _ => ?_
  exact .pure rfl

theorem alike_openServerChannel (channel : ServerChannel) (handles : List Nat)
    (htask : ∀ stream, (channel.task stream).Alike same (channel.task stream)) :
    (openServerChannel server channel handles).Alike (controlLike same)
      (openServerChannel server channel handles) Eq := by
  refine .bind_eq (alike_writeValue server _ _) fun _ => ?_
  refine .bind_eq (.call_eq _ fun _ _ => id) fun stream => ?_
  refine .bind_eq (.call_eq _ fun _ _ => id) fun _ => ?_
  exact alike_spawn handles (htask stream)

theorem alike_acceptUni :
    acceptUni.Alike (controlLike same) acceptUni (ClientStream.Alike same) := by
  refine .call ?_
  rintro _ _ (h | error)
  · exact .pure h
  · exact rfl

theorem alike_acceptBi :
    acceptBi.Alike (controlLike same) acceptBi (ClientStream.Alike same) := by
  refine .call ?_
  rintro _ _ (h | error)
  · exact .pure h
  · exact rfl

theorem alike_startHandler (handles : List Nat) (kind : UInt64) :
    (startHandler handles kind).Alike (controlLike same) (startHandler handles kind) Eq := by
  unfold startHandler
  split_ifs
  · exact .bind alike_acceptUni fun _ _ h => alike_spawn handles (.input h)
  · exact .bind alike_acceptBi fun _ _ h => alike_spawn handles (.clipboard h)
  · exact .bind alike_acceptBi fun _ _ h => alike_spawn handles (.chat h)
  · exact .bind alike_acceptBi fun _ _ h => alike_spawn handles (.file h)
  · refine .bind_eq (.say (.panicking _)) fun _ => ?_
    exact rfl

theorem alike_dispatch (handles : List Nat) :
    (dispatch server handles).Alike (controlLike same) (dispatch server handles)
      (Sum.LiftRel Eq Eq) := by
  refine .bind_eq (.call_eq _ fun _ _ => id) ?_
  rintro (_ | frameBytes)
  · exact .pure (.inr rfl)
  · refine .bind_eq (.lift _) ?_
    rintro (_ | request)
    · exact .pure (.inl rfl)
    · refine .bind_eq (alike_writeValue server _ _) fun _ => ?_
      split_ifs
      · exact .pure (.inl rfl)
      · refine .bind_eq (alike_startHandler handles request.kind) fun handles => ?_
        exact .pure (.inl rfl)

theorem alike_joinAll (handles : List Nat) :
    (joinAll handles).Alike (controlLike same) (joinAll handles) Eq := by
  induction handles with
  | nil => exact .pure rfl
  | cons handle handles ih =>
      refine .bind_eq (.call_eq _ fun _ _ => id) fun _ => ?_
      exact ih

theorem alike_handleControlStream :
    (handleControlStream server).Alike (controlLike same) (handleControlStream server) Eq := by
  refine .bind_eq (alike_helloExchange server) fun _ => ?_
  refine .bind_eq (alike_authExchange server) fun admitted => ?_
  split_ifs
  · refine .bind_eq (alike_openServerChannel server displayChannel [] .display) fun handles => ?_
    refine .bind_eq (alike_openServerChannel server cursorChannel handles .cursor) fun handles => ?_
    exact .bind_eq (.iterate_eq (alike_dispatch server)) (alike_joinAll)
  · exact .pure rfl

end Control

/-! ## The handlers -/

/-- The same but for an overflow that only the first build checks. -/
def handlerLike (server : ServerConfig) (checks : Bool) :
    Likeness HandlerRequest HandlerRequest.Answer HandlerLog where
  answers _ := Eq
  outputs := Eq
  quits output :=
    checks ≠ server.overflowChecks ∧ output = .panicking "attempt to add with overflow"

section Handlers

variable {server : ServerConfig} {checks : Bool}

theorem alike_self {α : Type} (program : HandlerProg α) :
    program.Alike (handlerLike server checks) program Eq :=
  .refl (fun _ _ _ => id) (fun _ => rfl) program

open Handler

variable (hchecks : checks → server.overflowChecks)

include hchecks

theorem alike_add {α : Type} (wide bound : Nat) (sum : α) :
    (add server wide bound sum).Alike (handlerLike server checks)
      (add (server.built checks) wide bound sum) Eq := by
  by_cases hsame : checks = server.overflowChecks
  · subst hsame
    exact alike_self _
  · have hfalse : checks = false := by
      cases checks
      · rfl
      · exact absurd (hchecks rfl).symm hsame
    have hbuilt : add (server.built checks) wide bound sum = pure sum := by
      rw [add, hfalse, if_neg (by simp [ServerConfig.built])]
    rw [hbuilt, add]
    split_ifs
    · exact .quit ⟨hsame, rfl⟩
    · exact .pure rfl

theorem alike_handleInputStream :
    (handleInputStream server).Alike (handlerLike server checks)
      (handleInputStream (server.built checks)) Eq := by
  refine .bind_eq (.iterate_eq ?_) ?_
  · intro count
    refine .bind_eq (alike_self _) ?_
    rintro (_ | ⟨kind, payload⟩)
    · exact .pure (.inr rfl)
    · refine .bind_eq (alike_self _) fun _ => ?_
      refine .bind_eq (alike_add hchecks _ _ _) fun count => ?_
      exact .pure (.inl rfl)
  · intro count
    exact .say rfl

theorem alike_handleChatFrame (kind : ChatFrameType) (payload : List UInt8) :
    (handleChatFrame server kind payload).Alike (handlerLike server checks)
      (handleChatFrame (server.built checks) kind payload) Eq := by
  cases kind with
  | chatMessage =>
      refine .bind_eq (.lift _) fun v => ?_
      refine .bind_eq (.say rfl) fun _ => ?_
      refine .bind_eq (alike_add hchecks _ _ _) fun msgId => ?_
      refine .bind_eq (alike_add hchecks _ _ _) fun tsMs => ?_
      exact alike_self _
  | typingIndicator => exact alike_self _
  | chatAttachment => exact alike_self _

theorem alike_handleChatStream :
    (handleChatStream server).Alike (handlerLike server checks)
      (handleChatStream (server.built checks)) Eq := by
  refine .bind_eq (.iterate_eq ?_) ?_
  · intro _
    refine .bind_eq (alike_self _) ?_
    rintro (_ | ⟨kind, payload⟩)
    · exact .pure (.inr rfl)
    · refine .bind_eq (alike_handleChatFrame hchecks kind payload) fun _ => ?_
      exact .pure (.inl rfl)
  · intro _
    exact alike_self _

theorem alike_handleFileFrame (state : FileState) (kind : FileFrameType)
    (payload : List UInt8) :
    (handleFileFrame server state kind payload).Alike (handlerLike server checks)
      (handleFileFrame (server.built checks) state kind payload) Eq := by
  cases kind with
  | chunk =>
      refine .bind_eq (alike_self _) fun chunk => ?_
      refine .bind_eq (.say rfl) fun _ => ?_
      refine .bind_eq (.call_eq _ fun _ _ => id) fun _ => ?_
      refine .bind_eq (alike_add hchecks _ _ _) fun chunksAcked => ?_
      exact alike_self _
  | _ => exact alike_self _

theorem alike_handleFileStream :
    (handleFileStream server).Alike (handlerLike server checks)
      (handleFileStream (server.built checks)) Eq := by
  refine .bind_eq (.iterate_eq ?_) ?_
  · intro state
    refine .bind_eq (alike_self _) ?_
    rintro (_ | ⟨kind, payload⟩)
    · exact .pure (.inr rfl)
    · refine .bind_eq (alike_handleFileFrame hchecks state kind payload) fun state => ?_
      exact .pure (.inl rfl)
  · intro _
    exact alike_self _

theorem Task.Alike.program {same : RecvStream → RecvStream → Prop} {task task' : Task}
    (h : task.Alike same task') :
    (task.program server).Alike (handlerLike server checks)
      (task'.program (server.built checks)) Eq := by
  cases h with
  | display stream => exact alike_self sendDisplayFrames
  | cursor stream => exact alike_self sendCursorMoves
  | input _ => exact alike_handleInputStream hchecks
  | clipboard _ => exact alike_self (handleClipboardStream server)
  | chat _ => exact alike_handleChatStream hchecks
  | file _ => exact alike_handleFileStream hchecks

end Handlers

end OpenRD.Server
