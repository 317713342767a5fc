import OpenRD.Foundation.Moments
import OpenRD.Server.Handlers
import OpenRD.Server.Transcript

/-!
# Sessions

A session is the Control task in its world: the bytes the client sends on Control,
the streams it opens, and the handlers the task has spawned.  The client opens
streams, and the Control task and the handlers take their steps, in any order.
Streams are accepted in the order in which the client opened them.
-/

namespace OpenRD.Session

open OpenRD.Foundation OpenRD.Proto OpenRD.Server

/-! ## Handlers -/

structure HandlerWorld where
  recv : RecvStream

structure HandlerChoice where
  /-- The error of a write or of the encoder, if it fails. -/
  fault : Option String
  nals : List (List UInt8)
  deriving Inhabited

def attempt {α : Type} (fault : Option String) (value : α) : Except Error α :=
  match fault with
  | none => .ok value
  | some text => .error (.transport text)

def handlerEnv :
    Env HandlerRequest HandlerRequest.Answer HandlerLog HandlerWorld HandlerChoice where
  answer world question choice :=
    match question with
    | .readFullFrameOpt =>
        let read := readFullFrameOpt world.recv
        some (read.1, { world with recv := read.2 })
    | .writeFrame .. => some (attempt choice.fault (), world)
    | .finish => some (attempt choice.fault (), world)
    | .initEncoder => some (attempt choice.fault (), world)
    | .encode _ => some (attempt choice.fault choice.nals, world)
    | .sleep _ => some ((), world)
  perform world _ := world

abbrev HandlerRun :=
  Running HandlerRequest HandlerRequest.Answer HandlerLog HandlerWorld Error Unit

structure Spawned where
  task : Task
  run : HandlerRun

def taskRecv : Task → RecvStream
  | .input stream | .clipboard stream | .chat stream | .file stream => stream.recv
  | .display _ | .cursor _ => ⟨[], [], none⟩

def Spawned.start (server : ServerConfig) (task : Task) : Spawned where
  task
  run := handlerEnv.settle (task.program server) [] ⟨taskRecv task⟩

/-- The handler has returned, failed or panicked. -/
def Spawned.finished (spawned : Spawned) : Bool :=
  match spawned.run.program with
  | .ret _ | .fail _ => true
  | _ => false

/-! ## The world of the Control task -/

structure World where
  control : RecvStream
  /-- The client's streams of each direction, and those not accepted yet. -/
  openedUni : List ClientStream
  pendingUni : List ClientStream
  openedBi : List ClientStream
  pendingBi : List ClientStream
  serverStreams : Nat
  handlers : List Spawned

def World.start (control : RecvStream) : World :=
  ⟨control, [], [], [], [], 0, []⟩

def controlEnv (server : ServerConfig) :
    Env Request Request.Answer Output World (Option String) where
  answer world question fault :=
    match question with
    | .readFullFrame =>
        let read := readFullFrame world.control
        some (read.1, { world with control := read.2 })
    | .readFullFrameOpt =>
        let read := readFullFrameOpt world.control
        some (read.1, { world with control := read.2 })
    | .writeFrame .. => some (attempt fault (), world)
    | .openUni =>
        some (attempt fault world.serverStreams,
          { world with serverStreams := world.serverStreams + 1 })
    | .writeUni .. => some (attempt fault (), world)
    | .acceptUni =>
        match fault, world.pendingUni with
        | some text, _ => some (.error (.transport text), world)
        | none, stream :: pendingUni => some (.ok stream, { world with pendingUni })
        | none, [] => none
    | .acceptBi =>
        match fault, world.pendingBi with
        | some text, _ => some (.error (.transport text), world)
        | none, stream :: pendingBi => some (.ok stream, { world with pendingBi })
        | none, [] => none
    | .join handle =>
        if (world.handlers[handle]?).any Spawned.finished then some ((), world) else none
  perform world output :=
    match output with
    | .spawn task => { world with handlers := world.handlers ++ [.start server task] }
    | _ => world

/-! ## Sessions -/

abbrev State := Running Request Request.Answer Output World Error Unit

inductive Action where
  | control (fault : Option String)
  | handler (index : Nat) (choice : HandlerChoice)
  | openUni (purpose : UInt64) (recv : RecvStream)
  | openBi (purpose : UInt64) (recv : RecvStream)

def World.openUni (world : World) (purpose : UInt64) (recv : RecvStream) : World :=
  let stream : ClientStream := ⟨world.openedUni.length, purpose, recv⟩
  { world with
    openedUni := world.openedUni ++ [stream]
    pendingUni := world.pendingUni ++ [stream] }

def World.openBi (world : World) (purpose : UInt64) (recv : RecvStream) : World :=
  let stream : ClientStream := ⟨world.openedBi.length, purpose, recv⟩
  { world with
    openedBi := world.openedBi ++ [stream]
    pendingBi := world.pendingBi ++ [stream] }

def World.stepHandler (world : World) (index : Nat) (choice : HandlerChoice) :
    Option World := do
  let spawned ← world.handlers[index]?
  let run ← handlerEnv.advance spawned.run choice
  return { world with handlers := world.handlers.set index { spawned with run } }

def step (server : ServerConfig) (session : State) : Action → Option State
  | .control fault => (controlEnv server).advance session fault
  | .handler index choice => do
      let world ← session.world.stepHandler index choice
      return { session with world }
  | .openUni purpose recv =>
      some { session with world := session.world.openUni purpose recv }
  | .openBi purpose recv =>
      some { session with world := session.world.openBi purpose recv }

theorem World.stepHandler_eq_some {world world' : World} {index : Nat}
    {choice : HandlerChoice} :
    world.stepHandler index choice = some world' ↔
      ∃ spawned run, world.handlers[index]? = some spawned ∧
        handlerEnv.advance spawned.run choice = some run ∧
        world' =
          { world with handlers := world.handlers.set index { spawned with run } } := by
  simp only [stepHandler, Option.bind_eq_bind, Option.bind_eq_some_iff, Option.pure_def,
    Option.some.injEq]
  constructor
  · rintro ⟨spawned, hspawned, run, hrun, rfl⟩
    exact ⟨spawned, run, hspawned, hrun, rfl⟩
  · rintro ⟨spawned, run, hspawned, hrun, rfl⟩
    exact ⟨spawned, hspawned, run, hrun, rfl⟩

theorem step_handler_eq_some {server : ServerConfig} {session next : State} {index : Nat}
    {choice : HandlerChoice} :
    step server session (.handler index choice) = some next ↔
      ∃ world, session.world.stepHandler index choice = some world ∧
        next = { session with world } := by
  simp only [step, Option.bind_eq_bind, Option.bind_eq_some_iff, Option.pure_def,
    Option.some.injEq]
  exact exists_congr fun world => and_congr_right fun _ => eq_comm

/-- A session whose client will send what `control` holds on the Control stream. -/
def start (server : ServerConfig) (control : RecvStream) : State :=
  (controlEnv server).settle (handleControlStream server) [] (World.start control)

def Reachable (server : ServerConfig) (control : RecvStream) (session : State) : Prop :=
  ∃ actions : List Action,
    actions.foldlM (step server) (start server control) = some session

theorem reachable_induction {server : ServerConfig} {control : RecvStream}
    {P : State → Prop} (hstart : P (start server control))
    (hstep : ∀ session action next, P session → step server session action = some next →
      P next) {session : State} (h : Reachable server control session) : P session := by
  obtain ⟨actions, hrun⟩ := h
  exact invariant_of_run P hstep hstart hrun

theorem reachable_guarded {server : ServerConfig} {control : RecvStream}
    {I : List ControlEvent → Prop} {post : Except Error Unit → List ControlEvent → Prop}
    (hsafe : (handleControlStream server).Safe I [] post) {session : State}
    (h : Reachable server control session) : session.Guarded I post := by
  refine reachable_induction (P := fun session => session.Guarded I post) ?_ ?_ h
  · exact .settle hsafe
  · intro session action next hguarded hnext
    cases action with
    | control fault => exact Running.guarded_of_advance hguarded.safe hnext
    | handler index choice =>
        obtain ⟨world, -, rfl⟩ := step_handler_eq_some.mp hnext
        exact ⟨hguarded.safe, hguarded.settled⟩
    | openUni purpose recv | openBi purpose recv =>
        cases hnext
        exact ⟨hguarded.safe, hguarded.settled⟩

/-- At every moment, the Control task has done what one of the transcripts says. -/
theorem reachable_transcript {server : ServerConfig} {control : RecvStream}
    {session : State} (h : Reachable server control session) :
    Transcript server session.history := by
  have hsafe : (handleControlStream server).Safe (Transcript server) []
      fun _ => Transcript server := by
    refine (handleControlStream_adds server []).weaken ?_ ?_
    · rintro history ⟨events, rfl, htranscript⟩
      exact htranscript
    · rintro result history ⟨events, rfl, htranscript⟩
      cases result <;> exact htranscript
  have hsound : session.Sound (Transcript server) fun _ => Transcript server :=
    (reachable_guarded hsafe h).sound fun _ _ => id
  exact hsound.invariant

theorem reachable_ties {server : ServerConfig} {control : RecvStream}
    {J : List ControlEvent → World → Prop} (hstart : J [] (World.start control))
    (hanswer : ∀ history world question fault answer world', J history world →
      (controlEnv server).answer world question fault = some (answer, world') →
      J (history ++ [.asked question answer]) world')
    (hperform : ∀ history world output, J history world →
      J (history ++ [.told output]) ((controlEnv server).perform world output))
    (hhandler : ∀ history world index choice world', J history world →
      world.stepHandler index choice = some world' → J history world')
    (huni : ∀ history world purpose recv, J history world →
      J history (world.openUni purpose recv))
    (hbi : ∀ history world purpose recv, J history world →
      J history (world.openBi purpose recv))
    {session : State} (h : Reachable server control session) :
    J session.history session.world := by
  refine reachable_induction (P := fun session => J session.history session.world)
    ?_ ?_ h
  · exact Running.settle_ties hperform hstart
  · intro session action next hties hnext
    cases action with
    | control fault => exact Running.advance_ties hanswer hperform hties hnext
    | handler index choice =>
        obtain ⟨world, hworld, rfl⟩ := step_handler_eq_some.mp hnext
        exact hhandler _ _ _ _ _ hties hworld
    | openUni purpose recv =>
        cases hnext
        exact huni _ _ _ _ hties
    | openBi purpose recv =>
        cases hnext
        exact hbi _ _ _ _ hties

/-! ## What the handlers do -/

theorem handlers_answer {server : ServerConfig} {world world' : World}
    {question : Request} {fault : Option String} {answer : question.Answer}
    (h : (controlEnv server).answer world question fault = some (answer, world')) :
    world'.handlers = world.handlers := by
  cases question with
  | readFullFrame | readFullFrameOpt | writeFrame | openUni | writeUni =>
      simp only [controlEnv, Option.some.injEq, Prod.mk.injEq] at h
      obtain ⟨-, rfl⟩ := h
      rfl
  | acceptUni | acceptBi =>
      simp only [controlEnv] at h
      split at h <;> cases h <;> rfl
  | join =>
      simp only [controlEnv] at h
      split at h <;> cases h
      rfl

/-- What holds of every handler when it is spawned, and is kept by its steps. -/
theorem reachable_each_handler {server : ServerConfig} {control : RecvStream}
    {P : Task → HandlerRun → Prop} (hstart : ∀ task, P task (Spawned.start server task).run)
    (hadvance : ∀ task run run' choice, P task run →
      handlerEnv.advance run choice = some run' → P task run')
    {session : State} (h : Reachable server control session) :
    ∀ spawned ∈ session.world.handlers, P spawned.task spawned.run := by
  refine reachable_ties (J := fun _ world => ∀ spawned ∈ world.handlers,
    P spawned.task spawned.run) ?_ ?_ ?_ ?_ ?_ ?_ h
  · intro spawned hmem
    cases hmem
  · intro history world question fault answer world' hhandlers hanswer
    rw [handlers_answer hanswer]
    exact hhandlers
  · intro history world output hhandlers
    cases output with
    | spawn task =>
        intro spawned hmem
        rcases List.mem_append.mp hmem with hmem | hmem
        · exact hhandlers spawned hmem
        · rw [List.mem_singleton.mp hmem]
          exact hstart task
    | _ => exact hhandlers
  · intro history world index choice world' hhandlers hworld
    obtain ⟨spawned, run, hspawned, hrun, rfl⟩ := World.stepHandler_eq_some.mp hworld
    intro stepped hmem
    rcases List.mem_or_eq_of_mem_set hmem with hmem | rfl
    · exact hhandlers stepped hmem
    · exact hadvance _ _ _ _ (hhandlers spawned (List.mem_of_getElem? hspawned)) hrun
  · exact fun _ _ _ _ hhandlers => hhandlers
  · exact fun _ _ _ _ hhandlers => hhandlers

theorem reachable_handlers_sound {server : ServerConfig} {control : RecvStream}
    {I : Task → List HandlerEvent → Prop}
    {R : Task → Except Error Unit → List HandlerEvent → Prop}
    (hpost : ∀ task result history, R task result history → I task history)
    (hsafe : ∀ task : Task, (task.program server).Safe (I task) [] (R task))
    {session : State} (h : Reachable server control session) :
    ∀ spawned ∈ session.world.handlers,
      spawned.run.Sound (I spawned.task) (R spawned.task) :=
  reachable_each_handler (P := fun task run => run.Sound (I task) (R task))
    (fun task => .settle (hpost task) (hsafe task))
    (fun task _ _ _ hsound hrun => hsound.advance (hpost task) hrun) h

/-- Every handler of a session is at one of the moments of its program. -/
theorem reachable_handlers_comeTo {server : ServerConfig} {control : RecvStream}
    {session : State} (h : Reachable server control session) :
    ∀ spawned ∈ session.world.handlers,
      (spawned.task.program server).ComesTo spawned.run.history spawned.run.status := by
  intro spawned hmem
  refine (reachable_each_handler (P := fun task run => run.Resumes (task.program server))
    ?_ ?_ h spawned hmem).comesTo
  · exact fun task => .settle fun _ _ hcomes => hcomes
  · exact fun task run run' choice hresumes hrun => hresumes.advance hrun

theorem reachable_handlers {server : ServerConfig} {control : RecvStream}
    {I : Task → List HandlerEvent → Prop}
    (hsafe : ∀ task : Task, (task.program server).Safe (I task) [] fun _ => I task)
    {session : State} (h : Reachable server control session) :
    ∀ spawned ∈ session.world.handlers, I spawned.task spawned.run.history :=
  fun spawned hmem => (reachable_handlers_sound (R := fun task _ => I task)
    (fun _ _ _ => id) hsafe h spawned hmem).invariant

/-! ## What the Control task reads -/

def helloFrame (control : RecvStream) : Except Error (List UInt8) :=
  (readFullFrame control).1

def authFrame (control : RecvStream) : Except Error (List UInt8) :=
  (readFullFrame (readFullFrame control).2).1

/-- The reads in a history are those of the stream `recv`, which is left as `recv'`. -/
def Reads (recv : RecvStream) : List ControlEvent → RecvStream → Prop
  | [], recv' => recv' = recv
  | .asked .readFullFrame answer :: history, recv' =>
      answer = (readFullFrame recv).1 ∧ Reads (readFullFrame recv).2 history recv'
  | .asked .readFullFrameOpt answer :: history, recv' =>
      answer = (readFullFrameOpt recv).1 ∧ Reads (readFullFrameOpt recv).2 history recv'
  | _ :: history, recv' => Reads recv history recv'

theorem reads_append {recv recv' : RecvStream} {history rest : List ControlEvent} :
    Reads recv (history ++ rest) recv' ↔
      ∃ middle, Reads recv history middle ∧ Reads middle rest recv' := by
  induction history generalizing recv with
  | nil => simp [Reads]
  | cons event history ih =>
      cases event with
      | told output => exact ih
      | asked question answer =>
          cases question <;> simp only [List.cons_append, Reads, ih, exists_and_left,
            and_assoc]

theorem reachable_reads {server : ServerConfig} {control : RecvStream} {session : State}
    (h : Reachable server control session) :
    Reads control session.history session.world.control := by
  refine reachable_ties (J := fun history world => Reads control history world.control)
    rfl ?_ ?_ ?_ ?_ ?_ h
  · intro history world question fault answer world' hreads hanswer
    refine reads_append.mpr ⟨_, hreads, ?_⟩
    cases question with
    | readFullFrame | readFullFrameOpt =>
        simp only [controlEnv, Option.some.injEq, Prod.mk.injEq] at hanswer
        obtain ⟨rfl, rfl⟩ := hanswer
        exact ⟨rfl, rfl⟩
    | writeFrame | openUni | writeUni =>
        simp only [controlEnv, Option.some.injEq, Prod.mk.injEq] at hanswer
        obtain ⟨-, rfl⟩ := hanswer
        rfl
    | acceptUni | acceptBi =>
        simp only [controlEnv] at hanswer
        split at hanswer <;> cases hanswer <;> rfl
    | join =>
        simp only [controlEnv] at hanswer
        split at hanswer <;> cases hanswer
        rfl
  · intro history world output hreads
    refine reads_append.mpr ⟨_, hreads, ?_⟩
    cases output <;> rfl
  · intro history world index choice world' hreads hworld
    obtain ⟨spawned, run, -, -, rfl⟩ := World.stepHandler_eq_some.mp hworld
    exact hreads
  · exact fun _ _ _ _ hreads => hreads
  · exact fun _ _ _ _ hreads => hreads

end OpenRD.Session
