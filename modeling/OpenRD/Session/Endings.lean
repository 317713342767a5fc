import OpenRD.Server.Endings
import OpenRD.Session.ReplySizes
import OpenRD.Session.Starts

/-!
# Handlers at the end of the Control task

When the client ends the Control stream between two frames, the task returns after
every handler it has spawned.  When an answer breaks it off, the handlers go on.
-/

namespace OpenRD.Session

open OpenRD.Foundation OpenRD.Proto OpenRD.Server

variable {server : ServerConfig} {control : RecvStream}

/-- `handle_control_stream` has returned, successfully or with an error. -/
def State.Returned (session : State) : Prop := session.outcome ≠ none

def HandlersFinished (world : World) : Prop :=
  ∀ spawned ∈ world.handlers, spawned.finished = true

/-- In this step the Control task gets an answer that breaks it off. -/
def Interrupts (server : ServerConfig) (session : State) (action : Action) : Prop :=
  ∃ fault question answer world, action = .control fault ∧ Waits session question ∧
    (controlEnv server).answer session.world question fault = some (answer, world) ∧
    BreaksOff server question answer

/-! ## The handlers in the history -/

theorem length_handlers {session : State} (h : Reachable server control session) :
    session.world.handlers.length = (spawned session.history).length := by
  refine reachable_ties (J := fun history world =>
    world.handlers.length = (spawned history).length) rfl ?_ ?_ ?_ ?_ ?_ h
  · intro history world question fault answer world' hlength hanswer
    rw [handlers_answer hanswer, hlength, spawned_asked]
  · intro history world output hlength
    cases output with
    | spawn task => simpa [controlEnv] using hlength
    | logNegotiation outcome | panicking text =>
        simpa [controlEnv, spawned, taskOf, List.filterMap_cons] using hlength
  · intro history world index choice world' hlength hworld
    obtain ⟨stepped, run, -, -, rfl⟩ := World.stepHandler_eq_some.mp hworld
    simpa using hlength
  · exact fun _ _ _ _ hlength => hlength
  · exact fun _ _ _ _ hlength => hlength

theorem reachable_joined {session : State} (h : Reachable server control session) :
    ∀ handle, joinEvent handle ∈ session.history →
      (session.world.handlers[handle]?).any Spawned.finished = true := by
  refine reachable_ties (J := fun history world => ∀ handle, joinEvent handle ∈ history →
    (world.handlers[handle]?).any Spawned.finished = true) (by simp) ?_ ?_ ?_ ?_ ?_ h
  · intro history world question fault answer world' hjoined hanswer handle hmem
    rw [handlers_answer hanswer]
    rcases List.mem_append.mp hmem with hmem | hmem
    · exact hjoined handle hmem
    · cases List.mem_singleton.mp hmem
      simp only [controlEnv] at hanswer
      split at hanswer
      · next hfinished => exact hfinished
      · cases hanswer
  · intro history world output hjoined handle hmem
    have hmem : joinEvent handle ∈ history := by simpa [joinEvent] using hmem
    have hfinished := hjoined handle hmem
    cases output with
    | spawn task =>
        rw [Option.any_eq_true] at hfinished ⊢
        obtain ⟨spawned, hspawned, hfinished⟩ := hfinished
        have hlt := (List.getElem?_eq_some_iff.mp hspawned).1
        exact ⟨spawned, (List.getElem?_append_left hlt).trans hspawned, hfinished⟩
    | _ => exact hfinished
  · intro history world index choice world' hjoined hworld handle hmem
    obtain ⟨stepped, run, hstepped, hrun, rfl⟩ := World.stepHandler_eq_some.mp hworld
    have hfinished := hjoined handle hmem
    have hne : index ≠ handle := by
      rintro rfl
      rw [hstepped, Option.any_some, unfinished_of_advance hrun] at hfinished
      cases hfinished
    rw [List.getElem?_set_ne hne]
    exact hfinished
  · exact fun _ _ _ _ hjoined => hjoined
  · exact fun _ _ _ _ hjoined => hjoined

theorem finished_of_joined {session : State} (h : Reachable server control session)
    (hjoined : AllJoined session.history) : HandlersFinished session.world := by
  intro spawned hmem
  obtain ⟨handle, hlt, rfl⟩ := List.mem_iff_getElem.mp hmem
  have hfinished := reachable_joined h handle (hjoined handle (length_handlers h ▸ hlt))
  rwa [List.getElem?_eq_getElem hlt] at hfinished

/-! ## One step -/

/-- What the server relies on once the Display channel is open. -/
def CursorAnnounced (server : ServerConfig) : Prop :=
  ∃ payload, server.cib.intoWriter
    (openChannelAnnounce cursorChannel.kind.toU64 cursorChannel.channelId 0) = .ok payload

theorem reachable_ends (hcursor : CursorAnnounced server) {session : State}
    (h : Reachable server control session) :
    session.Guarded (Unbroken server) (Ended server) := by
  obtain ⟨payload, hcursor⟩ := hcursor
  exact reachable_guarded (handleControlStream_ends hcursor) h

/-- An interrupted task has returned, and has left its handlers as they were. -/
theorem returned_of_interrupts (hcursor : CursorAnnounced server) {session : State}
    {action : Action} (h : Reachable server control session)
    (hinterrupts : Interrupts server session action) :
    ∃ next, step server session action = some next ∧ next.Returned ∧
      ∀ spawned ∈ session.world.handlers, spawned ∈ next.world.handlers := by
  obtain ⟨fault, question, answer, world, rfl, ⟨rest, hprogram⟩, hanswer, hbreaks⟩ :=
    hinterrupts
  have hstep : (controlEnv server).advance session fault =
      some ((controlEnv server).settle (rest answer)
        (session.history ++ [.asked question answer]) world) := by
    simp only [Env.advance, hprogram, hanswer, Option.map_some]
  refine ⟨_, hstep, fun houtcome => ?_, fun spawned hmem => ?_⟩
  · have hunbroken := (reachable_ends hcursor (h.step (.control fault) hstep)).invariant
      houtcome
    have hmem := ((controlEnv server).prefix_settle (rest answer)
      (session.history ++ [.asked question answer]) world).subset
      (List.mem_append_right _ (List.mem_singleton.mpr rfl))
    exact hunbroken _ hmem hbreaks
  · obtain ⟨asked, outputs, -, -, hhandlers⟩ := control_adds hstep
    rw [hhandlers]
    exact List.mem_append_left _ hmem

/-- An error is returned for the answer just given, before anything is announced. -/
theorem finished_of_brokenOff {session next : State} {fault : Option String}
    (hunbroken : Unbroken server session.history) (hbroken : BrokenOff server next.history)
    (hstep : (controlEnv server).advance session fault = some next)
    (hcondition : Interrupts server session (.control fault) →
      HandlersFinished session.world) : HandlersFinished next.world := by
  obtain ⟨asked, outputs, hasked, hhistory, hhandlers⟩ := control_adds hstep
  obtain ⟨earlier, event, hlast, hbreaking⟩ := hbroken
  rw [hhistory] at hlast
  rcases outputs.eq_nil_or_concat' with rfl | ⟨before, output, rfl⟩
  · have hsame : next.world.handlers = session.world.handlers := by simpa using hhandlers
    cases hasked with
    | nothing =>
        rw [List.map_nil, List.append_nil, List.append_nil] at hlast
        exact absurd hbreaking (hunbroken event (by rw [hlast]; simp))
    | question question answer world waits answered =>
        have hevent : event = .asked question answer := by
          simpa using (List.append_inj' hlast rfl).2.symm
        rw [hevent] at hbreaking
        have hfinished := hcondition
          ⟨fault, question, answer, world, rfl, waits, answered, hbreaking⟩
        rw [HandlersFinished, hsame]
        exact hfinished
  · rw [List.map_append, ← List.append_assoc, ← List.append_assoc] at hlast
    have hevent : event = .told output := by
      simpa using (List.append_inj' hlast rfl).2.symm
    rw [hevent] at hbreaking
    exact hbreaking.elim

theorem finished_of_step (hcursor : CursorAnnounced server) {session next : State}
    {action : Action} (h : Reachable server control session)
    (hstep : step server session action = some next)
    (hbefore : session.Returned → HandlersFinished session.world)
    (hcondition : Interrupts server session action → HandlersFinished session.world)
    (hreturned : next.Returned) : HandlersFinished next.world := by
  cases action with
  | control fault =>
      have hnext := h.step (.control fault) hstep
      have hunbroken := (reachable_ends hcursor h).invariant
        (Running.outcome_of_advance hstep)
      obtain ⟨result, houtcome⟩ := Option.ne_none_iff_exists'.mp hreturned
      have hended := (reachable_ends hcursor hnext).ended houtcome
      cases result with
      | ok value => exact finished_of_joined hnext hended.2
      | error error =>
          rcases hended with hunspawned | hbroken
          · refine finished_of_joined hnext fun handle hlt => ?_
            rw [hunspawned] at hlt
            exact absurd hlt (Nat.not_lt_zero handle)
          · exact finished_of_brokenOff hunbroken hbroken hstep hcondition
  | handler index choice =>
      obtain ⟨world, hworld, rfl⟩ := step_handler_eq_some.mp hstep
      obtain ⟨stepped, run, hstepped, hrun, -⟩ := World.stepHandler_eq_some.mp hworld
      have hfinished := hbefore hreturned stepped (List.mem_of_getElem? hstepped)
      rw [unfinished_of_advance hrun] at hfinished
      cases hfinished
  | openUni purpose recv | openBi purpose recv =>
      cases hstep
      exact hbefore hreturned

/-! ## Whole runs -/

/-- The session that the actions lead to. -/
def Reaches (server : ServerConfig) (control : RecvStream) (actions : List Action)
    (session : State) : Prop :=
  actions.foldlM (step server) (start server control) = some session

theorem reaches_append {actions : List Action} {action : Action} {session : State} :
    Reaches server control (actions ++ [action]) session ↔
      ∃ before, Reaches server control actions before ∧
        step server before action = some session := by
  simp [Reaches, List.foldlM_append, Option.bind_eq_some_iff]

/-- Whenever the task has returned along the run, so has every handler it spawned. -/
def NoneOutlives (server : ServerConfig) (control : RecvStream) (actions : List Action) :
    Prop :=
  ∀ before session, before <+: actions → Reaches server control before session →
    session.Returned → HandlersFinished session.world

/-- Along the run, no answer breaks the task off while a handler runs. -/
def InterruptedAlone (server : ServerConfig) (control : RecvStream)
    (actions : List Action) : Prop :=
  ∀ before action session, before ++ [action] <+: actions →
    Reaches server control before session → Interrupts server session action →
      HandlersFinished session.world

theorem noneOutlives_of_interruptedAlone (hcursor : CursorAnnounced server)
    {actions : List Action} (h : InterruptedAlone server control actions) :
    NoneOutlives server control actions := by
  intro before
  induction before using List.reverseRecOn with
  | nil =>
      rintro session - hreaches hreturned
      cases hreaches
      exact absurd rfl hreturned
  | append_singleton before action ih =>
      intro session hinitial hreaches hreturned
      obtain ⟨earlier, hearlier, hstep⟩ := reaches_append.mp hreaches
      have hbefore := ih earlier ((List.prefix_append before [action]).trans hinitial) hearlier
      exact finished_of_step hcursor ⟨before, hearlier⟩ hstep hbefore
        (h before action earlier hinitial hearlier) hreturned

theorem interruptedAlone_of_noneOutlives (hcursor : CursorAnnounced server)
    {actions : List Action} (h : NoneOutlives server control actions) :
    InterruptedAlone server control actions := by
  intro before action session hinitial hreaches hinterrupts spawned hmem
  obtain ⟨next, hstep, hreturned, hkept⟩ :=
    returned_of_interrupts hcursor ⟨before, hreaches⟩ hinterrupts
  have hnext := reaches_append.mpr ⟨session, hreaches, hstep⟩
  exact h _ next hinitial hnext hreturned spawned (hkept spawned hmem)

theorem noneOutlives_iff (hcursor : CursorAnnounced server) (control : RecvStream)
    (actions : List Action) :
    NoneOutlives server control actions ↔ InterruptedAlone server control actions :=
  ⟨interruptedAlone_of_noneOutlives hcursor, noneOutlives_of_interruptedAlone hcursor⟩

theorem State.Returned.step {session next : State} {action : Action} (h : session.Returned)
    (hstep : step server session action = some next) : next.Returned := by
  cases action with
  | control fault => exact absurd (Running.outcome_of_advance hstep) h
  | handler index choice =>
      obtain ⟨world, -, rfl⟩ := step_handler_eq_some.mp hstep
      exact h
  | openUni purpose recv | openBi purpose recv =>
      cases hstep
      exact h

/-- A run that ends with the last step of the Control task. -/
theorem noneOutlives_of_last {actions : List Action} {fault : Option String} {session : State}
    (hreaches : Reaches server control (actions ++ [.control fault]) session)
    (hfinished : HandlersFinished session.world) :
    NoneOutlives server control (actions ++ [.control fault]) := by
  intro before early hinitial hearly hreturned
  obtain rfl | ⟨rest, rfl⟩ := List.prefix_concat_iff.mp hinitial
  · cases hearly.symm.trans hreaches
    exact hfinished
  · -- a task that has returned takes no last step
    obtain ⟨last, hlast, hstep⟩ := reaches_append.mp hreaches
    rw [Reaches, List.foldlM_append, show List.foldlM _ _ before = _ from hearly] at hlast
    have hlater : last.Returned := invariant_of_run (fun session => session.Returned)
      (fun _ _ _ h hnext => h.step hnext) hreturned hlast
    exact absurd (Running.outcome_of_advance hstep) hlater

/-! ## A malformed request -/

/-- An `OpenChannel` frame without a payload. -/
def emptyRequest : List UInt8 := Frame.encode ControlFrameType.openChannel.toU8 [] []

def brokenControl : RecvStream :=
  ⟨loopbackScript.bytes ++ (loopbackClipboard.bytes ++ (emptyRequest ++ [])), [], none⟩

theorem cursorAnnounced_loopback (pin : String) : CursorAnnounced (loopbackServer pin) :=
  ⟨_, rfl⟩

theorem receiveOpenChannel_emptyRequest :
    ∃ error, receiveOpenChannel Ciborium.rfc8949 emptyRequest = .error error :=
  ⟨_, rfl⟩

/-- The dispatcher loop reads a frame it cannot decode. -/
theorem Reachable.broken {pin : String} {handles : List Nat} {history : List ControlEvent}
    {world : World} (h : Reachable (loopbackServer pin) control
      (.at (loopbackServer pin) (dispatching (loopbackServer pin) handles) history world))
    {rest : List UInt8} {cuts : List Nat}
    (hcontrol : world.control = ⟨emptyRequest ++ rest, cuts, none⟩) :
    ∃ session, Reachable (loopbackServer pin) control session ∧ session.Returned ∧
      ∀ spawned ∈ world.handlers, spawned ∈ session.world.handlers := by
  have hpass := h.step (.control none) rfl
  have hnil : ([] : List UInt8).length ≤ maxFrameLength := Nat.zero_le _
  obtain ⟨cuts', hread⟩ := readFrameOptWith_encode Server.readerTexts
    ControlFrameType.openChannel.toU8 hnil rest cuts none
  have hanswer : (readFullFrameOpt world.control).1 = .ok (some emptyRequest) := by
    rw [hcontrol]
    exact congrArg Prod.fst hread
  have hbreaks : BreaksOff (loopbackServer pin) .readFullFrameOpt
      (.ok (some emptyRequest)) := by
    obtain ⟨error, hreceived⟩ := receiveOpenChannel_emptyRequest
    have hreceived : receiveOpenChannel (loopbackServer pin).cib emptyRequest =
        .error error := hreceived
    simp only [BreaksOff, hreceived]
  obtain ⟨session, hstep, hreturned, hkept⟩ :=
    returned_of_interrupts (cursorAnnounced_loopback pin) hpass
      ⟨none, .readFullFrameOpt, _, world.afterReadOpt, rfl, ⟨_, rfl⟩,
        congrArg some (Prod.ext hanswer rfl), hbreaks⟩
  exact ⟨session, hpass.step _ hstep, hreturned, hkept⟩

theorem reachable_broken :
    ∃ session, Reachable (loopbackServer "493817") brokenControl session ∧
      session.Returned ∧ ∃ index : Nat, session.world.handlers[index]? =
        some (.start (loopbackServer "493817")
          (.clipboard (requestStream "text/plain;charset=utf-8" 42))) := by
  obtain ⟨history, world, hreachable, ⟨cuts, hcontrol⟩, hspawned⟩ := reachable_clipboard
    (requestStream "text/plain;charset=utf-8" 42).recv (emptyRequest ++ [])
  obtain ⟨session, hbroken, hreturned, hkept⟩ := hreachable.broken hcontrol
  exact ⟨session, hbroken, hreturned,
    List.mem_iff_getElem?.mp (hkept _ (List.mem_of_getElem? hspawned))⟩

/-! ## A clean end -/

def cleanControl : RecvStream := ⟨loopbackScript.bytes ++ [], [], none⟩

/-- A transport that fails ends a handler that is about to use it. -/
theorem Reachable.fault {history : List ControlEvent} {handles : List Nat} {world : World}
    (h : Reachable server control (.at server (dispatching server handles) history world))
    (index : Nat) {task : Task} (hspawned : world.handlers[index]? = some (.start server task))
    (htask : (∃ stream, task = .display stream) ∨ ∃ stream, task = .cursor stream) :
    ∃ run, (Spawned.mk task run).finished = true ∧
      Reachable server control (.at server (dispatching server handles) history
        { world with handlers := world.handlers.set index ⟨task, run⟩ }) := by
  obtain ⟨run, hrun, hfinished⟩ : ∃ run,
      handlerEnv.advance (Spawned.start server task).run ⟨some "closed", []⟩ = some run ∧
        (Spawned.mk task run).finished = true := by
    obtain ⟨stream, rfl⟩ | ⟨stream, rfl⟩ := htask <;> exact ⟨_, rfl, rfl⟩
  refine ⟨run, hfinished, h.step (.handler index ⟨some "closed", []⟩)
    (step_handler_eq_some.mpr ⟨_, World.stepHandler_eq_some.mpr
      ⟨_, _, hspawned, hrun, rfl⟩, rfl⟩)⟩

/-- The client closes Control; the task waits for its handlers, and returns. -/
theorem leads_returned {handles : List Nat} {world : World} {cuts : List Nat}
    (hcontrol : world.control = ⟨[], cuts, none⟩)
    (hfinished : ∀ handle ∈ handles, (world.handlers[handle]?).any Spawned.finished = true) :
    (controlEnv server).Leads (dispatching server handles) world
      (.asked .readFullFrameOpt (.ok none) :: handles.map fun handle => joinEvent handle)
      (.ret ()) world.afterReadOpt := by
  obtain ⟨cuts', hread⟩ := readFrameOptWith_ended Server.readerTexts cuts
  have hnone : (readFullFrameOpt world.control).1 = .ok none := by
    rw [hcontrol]
    exact congrArg Prod.fst hread
  have hended : (controlEnv server).Completes Control.readFrameOpt world
      [.asked .readFullFrameOpt (.ok none)] none world.afterReadOpt := by
    rw [← hnone]
    exact .call none rfl hnone
  have hjoined : (controlEnv server).Completes (joinAll handles) world.afterReadOpt
      (handles.map joinEvent) () world.afterReadOpt :=
    completes_joinAll fun handle hmem => .call none (if_pos (hfinished handle hmem)) rfl
  exact (Env.Completes.bind (.iterate_last (completes_dispatch_ended hended)) hjoined).leads

/-- Both handlers of the server's own channels have ended, and the client sends no more. -/
theorem reachable_idle :
    ∃ history world cuts, Reachable (loopbackServer "493817") cleanControl
        (.at (loopbackServer "493817") (dispatching (loopbackServer "493817") [0, 1]) history
          world) ∧
      world.control = ⟨[], cuts, none⟩ ∧ world.handlers.length = 2 ∧
      HandlersFinished world := by
  have hstart : Reachable (loopbackServer "493817") cleanControl _ := reachable_start
  obtain ⟨⟨cuts, hcontrol⟩, hserved⟩ := loopbackScript.reachable hstart rfl rfl
  obtain ⟨display, hdisplay, hserved⟩ := hserved.fault 0 rfl (.inl ⟨0, rfl⟩)
  obtain ⟨cursor, hcursor, hserved⟩ := hserved.fault 1 rfl (.inr ⟨1, rfl⟩)
  refine ⟨_, _, cuts, hserved, hcontrol, rfl, fun spawned hmem => ?_⟩
  obtain rfl | hmem := List.mem_cons.mp hmem
  · exact hdisplay
  · obtain rfl := List.mem_singleton.mp hmem
    exact hcursor

theorem Reaches.choices {actions : List Action} {session final : State}
    {choices : List (Option String)} (h : Reaches server control actions session)
    (hrun : choices.foldlM (controlEnv server).advance session = some final) :
    Reaches server control (actions ++ choices.map .control) final := by
  rw [Reaches, List.foldlM_append, show List.foldlM _ _ actions = _ from h,
    Option.bind_eq_bind, Option.bind_some, List.foldlM_map]
  exact hrun

theorem reaches_clean :
    ∃ actions fault session, Reaches (loopbackServer "493817") cleanControl
        (actions ++ [.control fault]) session ∧
      session.outcome = some (.ok ()) ∧ session.world.handlers.length = 2 ∧
      HandlersFinished session.world := by
  obtain ⟨history, world, cuts, ⟨actions, hreaches⟩, hcontrol, hlength, hfinished⟩ :=
    reachable_idle
  have hjoined : ∀ handle ∈ [0, 1],
      (world.handlers[handle]?).any Spawned.finished = true := by
    intro handle hmem
    have hlt : handle < world.handlers.length := by
      rw [hlength]
      simp at hmem
      omega
    rw [List.getElem?_eq_getElem hlt, Option.any_some]
    exact hfinished _ (List.getElem_mem hlt)
  obtain ⟨choices, hreturned⟩ :=
    @leads_returned (loopbackServer "493817") _ _ _ hcontrol hjoined history
  obtain rfl | ⟨first, fault, rfl⟩ := choices.eq_nil_or_concat'
  · cases congrArg Running.outcome (Option.some.inj hreturned)
  · have hlast := Reaches.choices hreaches hreturned
    rw [List.map_append, List.map_singleton, ← List.append_assoc] at hlast
    exact ⟨_, fault, _, hlast, rfl, hlength, hfinished⟩

/-- A malformed request breaks the task off; a client that closes Control does not. -/
theorem noneOutlives_loopback :
    (∃ actions, ¬InterruptedAlone (loopbackServer "493817") brokenControl actions) ∧
    ∃ actions session, Reaches (loopbackServer "493817") cleanControl actions session ∧
      session.outcome = some (.ok ()) ∧ session.world.handlers.length = 2 ∧
      InterruptedAlone (loopbackServer "493817") cleanControl actions := by
  constructor
  · obtain ⟨session, ⟨actions, hreaches⟩, hreturned, index, hspawned⟩ := reachable_broken
    refine ⟨actions, fun halone => ?_⟩
    have hnone := (noneOutlives_iff (cursorAnnounced_loopback "493817") brokenControl
      actions).mpr halone
    cases hnone actions session List.prefix_rfl hreaches hreturned _
      (List.mem_of_getElem? hspawned)
  · obtain ⟨actions, fault, session, hreaches, houtcome, hlength, hfinished⟩ := reaches_clean
    exact ⟨_, session, hreaches, houtcome, hlength,
      (noneOutlives_iff (cursorAnnounced_loopback "493817") cleanControl _).mp
        (noneOutlives_of_last hreaches hfinished)⟩

/--
The Control task returns an error for the malformed request, and the clipboard handler
reads a frame and answers it afterwards.
-/
theorem handler_outlives :
    ∃ session world, Reachable (loopbackServer "493817") brokenControl session ∧
      session.Returned ∧ ¬HandlersFinished session.world ∧
      Reachable (loopbackServer "493817") brokenControl { session with world } ∧
      ∃ spawned ∈ world.handlers,
        spawned.task = .clipboard (requestStream "text/plain;charset=utf-8" 42) ∧
        spawned.run.history = requestEvents "text/plain;charset=utf-8" 42
          (CborWire.encode textRequest) (contentReply "text/plain;charset=utf-8" 42) := by
  obtain ⟨session, hbroken, hreturned, index, hspawned⟩ := reachable_broken
  obtain ⟨world, hlater, hanswered⟩ := hbroken.requested hspawned textRequest_fits
  refine ⟨session, world, hbroken, hreturned, fun hfinished => ?_, hlater, hanswered⟩
  cases hfinished _ (List.mem_of_getElem? hspawned)

end OpenRD.Session
