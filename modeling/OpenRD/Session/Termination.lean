import OpenRD.Foundation.Termination
import OpenRD.Session.Endings

/-!
# Sessions come to rest

Every loop of the server reads a frame in each pass, so no task goes on for ever over what a
client has sent, and the tasks of a session cannot keep one another going.  When none of
them can take a step, every handler is over, and the Control task is too unless it waits for
a stream that the client has not opened.
-/

namespace OpenRD.Session

open OpenRD.Foundation OpenRD.Proto OpenRD.Server

/-! ## Reading -/

section Reading

variable (texts : ReaderTexts) {recv rest : RecvStream} {bytes : List UInt8}

theorem items_readFrameWith_le :
    (readFrameWith texts recv).2.items.length ≤ recv.items.length :=
  (readFrameWith_leavesEnd texts recv).length_le

theorem items_readFrameOptWith_le :
    (readFrameOptWith texts recv).2.items.length ≤ recv.items.length :=
  (readFrameOptWith_leavesEnd texts recv).length_le

/-- A frame that is read is no longer there. -/
theorem items_readFrameOptWith_lt
    (h : readFrameOptWith texts recv = (.ok (some bytes), rest)) :
    rest.items.length < recv.items.length := by
  cases hparse : Frame.parse recv.items with
  | ok parsed =>
      obtain ⟨frame, n⟩ := parsed
      obtain ⟨-, hn, hle, -⟩ := Frame.parse_eq_ok.mp hparse
      obtain ⟨cuts, hread⟩ := readFrameOptWith_of_parse texts recv hparse
      rw [hread] at h
      cases h
      rw [List.length_drop]
      simp only [FrameHeader.size] at hn
      omega
  | error error =>
      rcases readFrameOptWith_of_parse_error texts recv hparse with
        ⟨-, -, rest', hread⟩ | ⟨-, error, rest', hread⟩ <;> simp [hread] at h

end Reading

/-! ## Handlers -/

/-- A frame that is read is paid for with a part of the stream. -/
def handlerPaid : (question : HandlerRequest) → question.Answer → Bool
  | .readFullFrameOpt, .ok (some _) => true
  | _, _ => false

abbrev HandlerEnds {α : Type} (program : HandlerProg α) : Prop := program.Ends handlerPaid

section Handlers

variable {α : Type} {server : ServerConfig}

theorem ends_handlerPanic (text : String) : HandlerEnds (Handler.panicWith text : HandlerProg α) :=
  .bind (.say _) fun _ => .fail _

theorem ends_handlerAdd (wide bound : Nat) (sum : α) :
    HandlerEnds (Handler.add server wide bound sum) := by
  unfold Handler.add
  split
  · exact ends_handlerPanic _
  · exact .pure _

/-- Each frame that is read uses up part of the stream. -/
theorem spends_nextFrame (fromU8 : UInt8 → Except ParseError α) :
    (Handler.nextFrame fromU8).Spends handlerPaid
      fun frame => frame.isSome.toNat := by
  have hread : Handler.readFrameOpt.Spends handlerPaid fun frame => frame.isSome.toNat := by
    refine .call fun answer frame hframe => ?_
    cases hframe
    cases frame <;> exact le_rfl
  refine hread.bind fun frame => ?_
  cases frame with
  | none => exact .pure rfl
  | some frameBytes =>
      refine .free ?_ fun result => Nat.sub_eq_zero_of_le (Bool.toNat_le _)
      exact .bind (.lift _) fun _ => .bind (.lift _) fun _ => .pure _

/-- One pass of a loop over frames. -/
theorem spends_framePass {σ β : Type} {fromU8 : UInt8 → Except ParseError α}
    {next : Option (α × List UInt8) → HandlerProg (σ ⊕ β)}
    (hnone : ∃ value, next none = pure (.inr value))
    (hsome : ∀ kind payload, HandlerEnds (next (some (kind, payload)))) :
    (Handler.nextFrame fromU8 >>= next).Spends handlerPaid
      fun result => result.isLeft.toNat := by
  refine (spends_nextFrame fromU8).bind fun frame => ?_
  cases frame with
  | none =>
      obtain ⟨value, hvalue⟩ := hnone
      rw [hvalue]
      exact .pure rfl
  | some frame =>
      exact .free (hsome frame.1 frame.2) fun result => Nat.sub_eq_zero_of_le (Bool.toNat_le _)

theorem ends_frames {σ β : Type} {body : σ → HandlerProg (σ ⊕ β)}
    (h : ∀ state, (body state).Spends handlerPaid
      fun result => result.isLeft.toNat) (state : σ) : HandlerEnds (.iterate state body) :=
  .iterate h (fun _ => Nat.one_pos) state

theorem ends_input : HandlerEnds (handleInputStream server) := by
  refine .bind (ends_frames (fun count => ?_) _) fun count => .say _
  refine spends_framePass ⟨_, rfl⟩ fun kind payload => ?_
  refine .bind ?_ fun _ => .bind (ends_handlerAdd _ _ _) fun _ => .pure _
  cases kind with
  | keyEvent | textInput => exact .bind (.lift _) fun _ => .say _
  | _ => exact .say _

theorem ends_clipboardFrame (kind : ClipboardFrameType) (payload : List UInt8) :
    HandlerEnds (handleClipboardFrame server kind payload) := by
  cases kind with
  | offerTypes => exact .bind (.lift _) fun _ => .say _
  | requestContent =>
      exact .bind (.lift _) fun _ => .bind (.say _) fun _ =>
        .bind (.lift _) fun _ => .bind (.call _ _) fun _ =>
          .say _
  | content =>
      refine .bind (.lift _) fun _ => .bind ?_ fun _ => .say _
      simp only [previewOf]
      split
      · split
        · exact .pure _
        · exact ends_handlerPanic _
      · exact .pure _
  | _ => exact .say _

theorem ends_chatFrame (kind : ChatFrameType) (payload : List UInt8) :
    HandlerEnds (handleChatFrame server kind payload) := by
  cases kind with
  | chatMessage =>
      exact .bind (.lift _) fun _ => .bind (.say _) fun _ =>
        .bind (ends_handlerAdd _ _ _) fun _ => .bind (ends_handlerAdd _ _ _) fun _ =>
          .bind (.lift _) fun _ => .bind (.call _ _) fun _ =>
            .say _
  | typingIndicator | chatAttachment => exact .bind (.lift _) fun _ => .say _

theorem ends_parseChunk (payload : List UInt8) : HandlerEnds (parseChunk payload) := by
  by_cases hlong : 16 ≤ payload.length
  · rw [parseChunk_long hlong]
    exact .pure _
  · rw [parseChunk_short (by omega)]
    exact .fail _

theorem ends_fileFrame (state : FileState) (kind : FileFrameType) (payload : List UInt8) :
    HandlerEnds (handleFileFrame server state kind payload) := by
  cases kind with
  | startTransfer | manifest =>
      exact .bind (.lift _) fun _ => .bind (.say _) fun _ => .pure _
  | chunk =>
      exact .bind (ends_parseChunk payload) fun _ => .bind (.say _) fun _ =>
        .bind (.call _ _) fun _ => .bind (ends_handlerAdd _ _ _) fun _ =>
          .bind (.say _) fun _ => .pure _
  | _ => exact .bind (.say _) fun _ => .pure _

theorem ends_sendSlices (frameId : UInt32) (nSlices : UInt8) (sliceIdx : Nat)
    (nals : List (List UInt8)) : HandlerEnds (sendSlices frameId nSlices sliceIdx nals) := by
  induction nals generalizing sliceIdx with
  | nil => exact .pure _
  | cons nal nals ih => exact .bind (.call _ _) fun _ => ih _

theorem ends_sendDisplayFrame (frameId : UInt32) : HandlerEnds (sendDisplayFrame frameId) := by
  refine .bind (.call _ _) fun nals => ?_
  split
  · exact .pure _
  · exact .bind (.call _ _) fun _ => .bind (ends_sendSlices _ _ _ _)
      fun _ => .bind (.call _ _) fun _ => .bind (.say _)
        fun _ => .call _ _

theorem ends_sendDisplayFrom (frameIds : List Nat) : HandlerEnds (sendDisplayFrom frameIds) := by
  induction frameIds with
  | nil => exact .pure _
  | cons frameId frameIds ih => exact .bind (ends_sendDisplayFrame _) fun _ => ih

theorem ends_sendMovesFrom (seq : Nat) (moves : List (Int × Int)) :
    HandlerEnds (sendMovesFrom seq moves) := by
  induction moves generalizing seq with
  | nil => exact .pure _
  | cons move moves ih =>
      exact .bind (.call _ _) fun _ => .bind (.say _) fun _ =>
        .bind (.call _ _) fun _ => ih _

theorem ends_program (task : Task) : HandlerEnds (task.program server) := by
  cases task with
  | display =>
      exact .bind (.call _ _) fun _ => .bind (ends_sendDisplayFrom _)
        fun _ => .bind (.call _ _) fun _ => .say _
  | cursor =>
      exact .bind (ends_sendMovesFrom _ _) fun _ => .bind (.call _ _)
        fun _ => .say _
  | input => exact ends_input
  | clipboard =>
      refine .bind (ends_frames (fun _ => ?_) _) fun _ =>
        .bind (.say _) fun _ => .call _ _
      refine spends_framePass ⟨_, rfl⟩ fun kind payload => ?_
      exact .bind (ends_clipboardFrame kind payload) fun _ => .pure _
  | chat =>
      refine .bind (ends_frames (fun _ => ?_) _) fun _ =>
        .bind (.say _) fun _ => .call _ _
      refine spends_framePass ⟨_, rfl⟩ fun kind payload => ?_
      exact .bind (ends_chatFrame kind payload) fun _ => .pure _
  | file =>
      refine .bind (ends_frames (fun state => ?_) _) fun _ =>
        .bind (.say _) fun _ => .call _ _
      refine spends_framePass ⟨_, rfl⟩ fun kind payload => ?_
      exact .bind (ends_fileFrame state kind payload) fun _ => .pure _

end Handlers

/-! ## The Control task -/

def controlPaid : (question : Request) → question.Answer → Bool
  | .readFullFrameOpt, .ok (some _) => true
  | _, _ => false

abbrev ControlEnds {α : Type} (program : ControlProg α) : Prop := program.Ends controlPaid

section Control

variable {server : ServerConfig}

theorem ends_writeValue (frameType : ControlFrameType) (value : Cbor) :
    ControlEnds (Control.writeValue server frameType value) :=
  .bind (.lift _) fun _ => .call _ _

theorem ends_spawn (handles : List Nat) (task : Task) : ControlEnds (Control.spawn handles task) :=
  .bind (.say _) fun _ => .pure _

theorem ends_openServerChannel (channel : ServerChannel) (handles : List Nat) :
    ControlEnds (openServerChannel server channel handles) :=
  .bind (ends_writeValue _ _) fun _ => .bind (.call _ _) fun _ =>
    .bind (.call _ _) fun _ => ends_spawn _ _

theorem ends_startHandler (handles : List Nat) (kind : UInt64) :
    ControlEnds (startHandler handles kind) := by
  unfold startHandler
  split_ifs
  · exact .bind (.call _ _) fun _ => ends_spawn _ _
  · exact .bind (.call _ _) fun _ => ends_spawn _ _
  · exact .bind (.call _ _) fun _ => ends_spawn _ _
  · exact .bind (.call _ _) fun _ => ends_spawn _ _
  · exact .bind (.say _) fun _ => .fail _

theorem spends_dispatch (handles : List Nat) :
    (dispatch server handles).Spends controlPaid fun result => result.isLeft.toNat := by
  have hread : Control.readFrameOpt.Spends controlPaid fun frame => frame.isSome.toNat := by
    refine .call fun answer frame hframe => ?_
    cases hframe
    cases frame <;> exact le_rfl
  refine hread.bind fun frame => ?_
  cases frame with
  | none => exact .pure rfl
  | some frameBytes =>
      refine .free ?_ fun result => Nat.sub_eq_zero_of_le (Bool.toNat_le _)
      refine .bind (.lift _) fun request => ?_
      cases request with
      | none => exact .pure _
      | some request =>
          refine .bind (ends_writeValue _ _) fun _ => ?_
          split
          · exact .pure _
          · exact .bind (ends_startHandler _ _) fun _ => .pure _

theorem ends_joinAll (handles : List Nat) : ControlEnds (joinAll handles) := by
  induction handles with
  | nil => exact .pure _
  | cons handle handles ih => exact .bind (.call _ _) fun _ => ih

theorem ends_handleControlStream : ControlEnds (handleControlStream server) := by
  have hhello : ControlEnds (helloExchange server) :=
    .bind (.call _ _) fun _ => .bind (.lift _) fun _ =>
      .bind (.say _) fun _ => .bind (.lift _) fun _ => .call _ _
  have hauth : ControlEnds (authExchange server) :=
    .bind (.call _ _) fun _ => .bind (.lift _) fun _ =>
      .bind (.lift _) fun _ => .bind (.call _ _) fun _ => .pure _
  have hserve : ControlEnds (serveChannels server) :=
    .bind (ends_openServerChannel _ _) fun _ =>
      .bind (ends_openServerChannel _ _) fun _ =>
        .bind (.iterate spends_dispatch (fun _ => Nat.one_pos) _) fun _ => ends_joinAll _
  refine .bind hhello fun _ => .bind hauth fun admitted => ?_
  cases admitted with
  | true => exact hserve
  | false => exact .pure _

end Control

/-! ## The tasks of a session -/

def HandlerWorld.left (world : HandlerWorld) : ℕ := world.recv.items.length

def World.left (world : World) : ℕ := world.control.items.length

theorem handlerEnv_pays : handlerEnv.Pays handlerPaid HandlerWorld.left := by
  refine ⟨fun {world question choice answer world'} hanswer => ?_, fun _ _ => le_rfl⟩
  cases question with
  | readFullFrameOpt =>
      cases hanswer
      cases hread : (readFullFrameOpt world.recv).1 with
      | error error => exact items_readFrameOptWith_le _
      | ok frame =>
          cases frame with
          | none => exact items_readFrameOptWith_le _
          | some bytes => exact items_readFrameOptWith_lt _ (Prod.ext hread rfl)
  | writeFrame | finish | initEncoder | encode | sleep =>
      cases hanswer
      exact le_rfl

theorem controlEnv_pays (server : ServerConfig) :
    (controlEnv server).Pays controlPaid World.left := by
  refine ⟨fun {world question choice answer world'} hanswer => ?_, fun world output => ?_⟩
  · cases question with
    | readFullFrame =>
        cases hanswer
        exact items_readFrameWith_le _
    | readFullFrameOpt =>
        cases hanswer
        cases hread : (readFullFrameOpt world.control).1 with
        | error error => exact items_readFrameOptWith_le _
        | ok frame =>
            cases frame with
            | none => exact items_readFrameOptWith_le _
            | some bytes => exact items_readFrameOptWith_lt _ (Prod.ext hread rfl)
    | writeFrame | openUni | writeUni =>
        cases hanswer
        exact le_rfl
    | acceptUni | acceptBi | join =>
        simp only [controlEnv] at hanswer
        split at hanswer <;> cases hanswer <;> exact le_rfl
  · cases output <;> exact le_rfl

/-- What is left to do of a handler or of the Control task, and to read. -/
abbrev ServerTask := (HandlerProg Unit × ℕ) ⊕ (ControlProg Unit × ℕ)

def Spawned.serverTask (spawned : Spawned) : ServerTask :=
  .inl (spawned.run.program, spawned.run.world.left)

def State.tasks (session : State) : Multiset ServerTask :=
  .inr (session.program, session.world.left) ::ₘ
    (session.world.handlers.map Spawned.serverTask : List ServerTask)

variable {server : ServerConfig} {control : RecvStream} {session next : State}

/-- What a task may become or start. -/
inductive Below (server : ServerConfig) : ServerTask → ServerTask → Prop where
  | handler {task task' : HandlerProg Unit × ℕ}
      (lowers : Env.Lowers (fun _ : Unit => handlerEnv) (fun _ => HandlerWorld.left) task' task) :
      Below server (.inl task') (.inl task)
  | control {task task' : ControlProg Unit × ℕ}
      (lowers : Env.Lowers (fun _ : Unit => controlEnv server) (fun _ => World.left) task' task) :
      Below server (.inr task') (.inr task)
  | spawned (task : Task) (control : ControlProg Unit × ℕ) :
      Below server (Spawned.start server task).serverTask (.inr control)

theorem acc_handlerTask {task : HandlerProg Unit × ℕ} (h : HandlerEnds task.1) :
    Acc (Below server) (.inl task) := by
  have hacc : Acc _ task := Env.acc_lowers (fun _ : Unit => handlerEnv_pays) h task.2
  clear h
  induction hacc with
  | intro task _ ih =>
    refine .intro _ fun below hbelow => ?_
    cases hbelow with
    | handler lowers => exact ih _ lowers

theorem acc_controlTask {task : ControlProg Unit × ℕ} (h : ControlEnds task.1) :
    Acc (Below server) (.inr task) := by
  have hacc : Acc _ task := Env.acc_lowers (fun _ : Unit => controlEnv_pays server) h task.2
  clear h
  induction hacc with
  | intro task _ ih =>
    refine .intro _ fun below hbelow => ?_
    cases hbelow with
    | control lowers => exact ih _ lowers
    | spawned task => exact acc_handlerTask (Env.ends_settle (ends_program task) [] _)

/-! ## Their steps -/

theorem poolStep_control {fault : Option String}
    (hstep : (controlEnv server).advance session fault = some next) :
    PoolStep (Below server) next.tasks session.tasks := by
  obtain ⟨asked, outputs, -, -, hhandlers⟩ := control_adds hstep
  let started := (outputs.filterMap spawnOf).map (Spawned.start server)
  refine ⟨_, _, .inr (next.program, next.world.left) ::ₘ
    (started.map Spawned.serverTask : List ServerTask), rfl, ?_, ?_⟩
  · rw [State.tasks, hhandlers, List.map_append, ← Multiset.coe_add, Multiset.add_cons]
  · intro below hmem
    rcases Multiset.mem_cons.mp hmem with rfl | hmem
    · exact .control ⟨(), session, next, fault, hstep, rfl, rfl⟩
    · obtain ⟨spawned, hspawned, rfl⟩ := List.mem_map.mp (Multiset.mem_coe.mp hmem)
      obtain ⟨task, -, rfl⟩ := List.mem_map.mp hspawned
      exact .spawned task _

theorem poolStep_handler {index : Nat} {choice : HandlerChoice} {world : World}
    (hworld : session.world.stepHandler index choice = some world) :
    PoolStep (Below server) (State.tasks { session with world }) session.tasks := by
  obtain ⟨spawned, run, hspawned, hrun, rfl⟩ := World.stepHandler_eq_some.mp hworld
  exact (poolStep_set Spawned.serverTask hspawned
    (.handler ⟨(), _, run, choice, hrun, rfl, rfl⟩)).cons _

/-- A step of the Control task or of a handler. -/
def Action.ofTask : Action → Prop
  | .control _ | .handler _ _ => True
  | .openUni _ _ | .openBi _ _ => False

def TaskStep (server : ServerConfig) (next session : State) : Prop :=
  ∃ action : Action, action.ofTask ∧ step server session action = some next

theorem TaskStep.poolStep (h : TaskStep server next session) :
    PoolStep (Below server) next.tasks session.tasks := by
  obtain ⟨action, hof, hstep⟩ := h
  cases action with
  | openUni purpose recv | openBi purpose recv => cases hof
  | control fault => exact poolStep_control hstep
  | handler index choice =>
      obtain ⟨world, hworld, rfl⟩ := step_handler_eq_some.mp hstep
      exact poolStep_handler hworld

/-! ## Every session -/

theorem reachable_handlers_end (h : Reachable server control session) :
    ∀ spawned ∈ session.world.handlers, HandlerEnds spawned.run.program :=
  reachable_each_handler (P := fun _ run => HandlerEnds run.program)
    (fun task => Env.ends_settle (ends_program task) [] _)
    (fun _ _ _ _ hends hrun => Env.ends_advance hends hrun) h

theorem reachable_control_ends (h : Reachable server control session) :
    ControlEnds session.program := by
  refine reachable_induction (P := fun session => ControlEnds session.program) ?_ ?_ h
  · exact Env.ends_settle ends_handleControlStream [] _
  · intro session action next hends hstep
    cases action with
    | control fault => exact Env.ends_advance hends hstep
    | handler index choice =>
        obtain ⟨world, -, rfl⟩ := step_handler_eq_some.mp hstep
        exact hends
    | openUni purpose recv | openBi purpose recv =>
        cases hstep
        exact hends

theorem acc_tasks (hcontrol : ControlEnds session.program)
    (hhandlers : ∀ spawned ∈ session.world.handlers, HandlerEnds spawned.run.program) :
    Acc (PoolStep (Below server)) session.tasks := by
  refine acc_poolStep fun task hmem => ?_
  rcases Multiset.mem_cons.mp hmem with rfl | hmem
  · exact acc_controlTask hcontrol
  · obtain ⟨spawned, hspawned, rfl⟩ := List.mem_map.mp (Multiset.mem_coe.mp hmem)
    exact acc_handlerTask (hhandlers spawned hspawned)

/-- The tasks of a session cannot keep one another going. -/
theorem acc_taskStep (h : Reachable server control session) :
    Acc (TaskStep server) session :=
  Subrelation.accessible TaskStep.poolStep (InvImage.accessible State.tasks
    (acc_tasks (reachable_control_ends h) (reachable_handlers_end h)))

end OpenRD.Session
