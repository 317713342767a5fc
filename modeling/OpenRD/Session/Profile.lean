import Mathlib.Tactic.IntervalCases
import OpenRD.Session.Negotiation
import OpenRD.Session.Starts

/-!
# The negotiated profile

The profile is meant to govern the rest of the session.  The server computes it,
writes it to its log and drops it; whether the session stays within it depends on
what the client asks for.
-/

namespace OpenRD.Session

open OpenRD.Foundation OpenRD.Proto OpenRD.Server

variable {server : ServerConfig} {control : RecvStream} {p : NegotiatedProfile}

/-! ## Steps that keep to the profile -/

def lastRequest (cib : Ciborium) (history : List ControlEvent) : Option OpenChannel :=
  (history.filterMap (requestOf cib)).getLast?

/--
Before a step of the Control task: a PIN that is about to be read may be used, a
request for Chat may be made, a File channel about to be opened is one more than
those open, and a stream about to be announced fits the resolution.
-/
structure ControlWithin (server : ServerConfig) (p : NegotiatedProfile) (session : State)
    (fault : Option String) : Prop where
  auth : ∀ bytes, Waits session .readFullFrame →
    (readFullFrame session.world.control).1 = .ok bytes →
    AcceptsAuth server.cib bytes "pin" (asBytes server.expectedPin) →
    "pin" ∈ p.authMethods
  chat : ∀ bytes request, Waits session .readFullFrameOpt →
    (readFullFrameOpt session.world.control).1 = .ok (some bytes) →
    AcceptsOpen server.cib bytes request → request.kind = ChannelKind.chat.toU64 →
    p.chatEnabled = true
  files : ∀ request, Waits session .acceptBi → fault = none →
    lastRequest server.cib session.history = some request →
    request.kind = ChannelKind.file.toU64 →
    session.world.runningFiles < p.fileMaxConcurrent.toNat
  display : ∀ stream payload,
    Waits session (.writeUni stream DisplayFrameType.streamParameters.toU8 payload) →
    displayWidth ≤ p.displayResolution.1.toNat ∧
      displayHeight ≤ p.displayResolution.2.toNat

/-- Before a step of a clipboard handler: a request about to be read has a type with
content in the profile. -/
def ClipboardWithin (server : ServerConfig) (p : NegotiatedProfile) (spawned : Spawned) :
    Prop :=
  ∀ stream bytes request, spawned.task = .clipboard stream →
    (∃ next, spawned.run.program = .ask .readFullFrameOpt next) →
    (readFullFrameOpt spawned.run.world.recv).1 = .ok (some bytes) →
    RequestsContent server.cib bytes request → clipboardBody request.mime ≠ [] →
    request.mime ∈ p.clipboardTypes

def Within (server : ServerConfig) (p : NegotiatedProfile) (session : State) :
    Action → Prop
  | .control fault => ControlWithin server p session fault
  | .handler index _ => ∀ spawned, session.world.handlers[index]? = some spawned →
      ClipboardWithin server p spawned
  | .openUni .. | .openBi .. => True

/-- The states of the runs whose hello negotiates `p` and whose steps keep to it. -/
inductive KeepsTo (server : ServerConfig) (control : RecvStream) (p : NegotiatedProfile) :
    State → Prop where
  | start (bytes : List UInt8) (protoV : UInt64) (clientName : String)
      (clientCaps : Capabilities) (hello : helloFrame control = .ok bytes)
      (accepts : AcceptsHello server.cib bytes protoV clientName clientCaps)
      (negotiated : NegotiatedProfile.negotiate clientCaps Capabilities.default = .ok p) :
      KeepsTo server control p (start server control)
  | step {session next : State} {action : Action} (before : KeepsTo server control p session)
      (within : Within server p session action)
      (taken : step server session action = some next) : KeepsTo server control p next

theorem KeepsTo.reachable {session : State} (h : KeepsTo server control p session) :
    Reachable server control session := by
  induction h with
  | start => exact ⟨[], rfl⟩
  | @step session next action before within taken ih =>
      obtain ⟨actions, hrun⟩ := ih
      refine ⟨actions ++ [action], ?_⟩
      rw [List.foldlM_append, hrun]
      simpa using taken

/-! ## What keeping to the profile keeps -/

structure Kept (server : ServerConfig) (p : NegotiatedProfile) (session : State) :
    Prop where
  auth : ∀ bytes method credential, readEvent bytes ∈ session.history →
    AcceptsAuth server.cib bytes method credential →
    (authDecision server method credential).1 = .ok → method ∈ p.authMethods
  chat : ∀ request ∈ session.history.filterMap (requestOf server.cib),
    request.kind = ChannelKind.chat.toU64 → p.chatEnabled = true
  files : session.world.runningFiles ≤ p.fileMaxConcurrent.toNat
  clipboard : ∀ spawned ∈ session.world.handlers, ∀ stream bytes request,
    spawned.task = .clipboard stream → frameRead bytes ∈ spawned.run.history →
    RequestsContent server.cib bytes request → clipboardBody request.mime ≠ [] →
    request.mime ∈ p.clipboardTypes
  display : ∀ stream payload answer,
    .asked (.writeUni stream DisplayFrameType.streamParameters.toU8 payload) answer ∈
      session.history →
    displayWidth ≤ p.displayResolution.1.toNat ∧
      displayHeight ≤ p.displayResolution.2.toNat

theorem frameRead_start (task : Task) (bytes : List UInt8) :
    frameRead bytes ∉ (Spawned.start server task).run.history := by
  obtain ⟨outputs, hhistory, -⟩ :=
    handlerEnv.settle_adds (task.program server) [] ⟨taskRecv task⟩
  rw [Spawned.start, hhistory]
  simp [frameRead]

theorem kept_start : Kept server p (start server control) := by
  have hstart : start server control =
      ⟨(start server control).program, [], World.start control⟩ := rfl
  rw [hstart]
  exact ⟨by simp, by simp, Nat.zero_le _, by simp [World.start], by simp⟩

theorem accepts_of_file_start {session next : State} {fault : Option String}
    {asked : List ControlEvent} {outputs : List Output} {stream : ClientStream}
    (hasked : Asks server session fault asked)
    (hhistory : next.history = session.history ++ (asked ++ outputs.map .told))
    (hsession : Dispatched server session.history) (hnext : Dispatched server next.history)
    (hmem : .spawn (.file stream) ∈ outputs) :
    Waits session .acceptBi ∧ fault = none ∧ ∃ request,
      lastRequest server.cib session.history = some request ∧
      request.kind = ChannelKind.file.toU64 := by
  obtain ⟨hstarts, -⟩ := starts_le_one hsession hnext hasked hhistory
  obtain ⟨first, rest, rfl⟩ := List.append_of_mem hmem
  have hsplit : next.history = (session.history ++ (asked ++ first.map .told)) ++
      .told (.spawn (.file stream)) :: rest.map .told := by
    rw [hhistory]
    simp
  rw [hsplit] at hnext
  obtain ⟨earlier, acked, hkind, hbefore⟩ := start_after_accept rfl hnext
  rw [acceptEvent, if_neg (by decide), ← List.append_assoc earlier] at hbefore
  cases hasked with
  | nothing =>
      simp [spawnOf, Task.client, List.filterMap_append] at hstarts
  | question question answer world waits answered =>
      -- the acceptance is the step's answer, for an output is no acceptance
      rcases List.eq_nil_or_concat first with rfl | ⟨init, output, rfl⟩
      · have hlast : session.history ++ [.asked question answer] =
            (earlier ++ acked.events (.ok ())) ++ [.asked .acceptBi (.ok stream)] := hbefore
        obtain ⟨hhead, hevent⟩ := List.append_inj' hlast rfl
        cases hevent
        refine ⟨waits, ?_, acked.request, ?_, hkind⟩
        · cases fault with
          | none => rfl
          | some text => cases answered
        · rw [lastRequest, hhead]
          simp [Acked.events, List.filterMap_cons, requestOf_read acked.received]
      · rw [List.concat_eq_append, List.map_append, ← List.append_assoc,
          ← List.append_assoc] at hbefore
        obtain ⟨-, hevent⟩ := List.append_inj' hbefore rfl
        cases hevent

theorem files_control {session next : State} {fault : Option String}
    (h : Reachable server control session) (h' : Reachable server control next)
    (hwithin : ControlWithin server p session fault)
    (hstep : (controlEnv server).advance session fault = some next)
    (hfiles : session.world.runningFiles ≤ p.fileMaxConcurrent.toNat) :
    next.world.runningFiles ≤ p.fileMaxConcurrent.toNat := by
  obtain ⟨asked, outputs, hasked, hhistory, hhandlers⟩ := control_adds hstep
  have hsession := dispatched_of_transcript (reachable_transcript h)
  have hnext := dispatched_of_transcript (reachable_transcript h')
  obtain ⟨hstarts, hone⟩ := starts_le_one hsession hnext hasked hhistory
  have hcount : next.world.runningFiles ≤
      session.world.runningFiles + (outputs.filterMap spawnOf).countP Task.isFile := by
    unfold World.runningFiles
    rw [hhandlers, List.countP_append, List.countP_map]
    refine Nat.add_le_add_left (List.countP_mono_left fun task _ hrunning => ?_) _
    simp only [Function.comp_apply, Spawned.start, Bool.and_eq_true] at hrunning
    exact hrunning.1
  have hclients : (outputs.filterMap spawnOf).countP Task.isFile ≤
      ((outputs.filterMap spawnOf).filterMap Task.client).length := by
    rw [List.length_filterMap_eq_countP]
    refine List.countP_mono_left fun task _ hfile => ?_
    cases task <;> first | rfl | cases hfile
  by_cases hfile : ∃ stream, Task.file stream ∈ outputs.filterMap spawnOf
  · obtain ⟨stream, hmem⟩ := hfile
    obtain ⟨output, houtput, hspawn⟩ := List.mem_filterMap.mp hmem
    cases output with
    | spawn task =>
        cases hspawn
        obtain ⟨hwaits, hfault, request, hlast, hkind⟩ :=
          accepts_of_file_start hasked hhistory hsession hnext houtput
        have hroom := hwithin.files request hwaits hfault hlast hkind
        omega
    | _ => cases hspawn
  · have hzero : (outputs.filterMap spawnOf).countP Task.isFile = 0 := by
      refine List.countP_eq_zero.mpr fun task hmem htask => ?_
      cases task with
      | file stream => exact hfile ⟨stream, hmem⟩
      | _ => cases htask
    omega

/-! ## Each step -/

theorem kept_control {session next : State} {fault : Option String}
    (h : Reachable server control session) (h' : Reachable server control next)
    (hwithin : ControlWithin server p session fault)
    (hstep : (controlEnv server).advance session fault = some next)
    (hkept : Kept server p session) : Kept server p next where
  auth bytes method credential hmem haccepts hdecision := by
    rcases Env.mem_advance hstep hmem with hmem | ⟨hwaits, world, hanswer⟩
    · exact hkept.auth bytes method credential hmem haccepts hdecision
    · obtain ⟨rfl, rfl⟩ := authDecision_ok.mp hdecision
      simp only [controlEnv, Option.some.injEq, Prod.mk.injEq] at hanswer
      exact hwithin.auth bytes hwaits hanswer.1 haccepts
  chat request hmem hkind := by
    obtain ⟨event, hevent, hrequest⟩ := List.mem_filterMap.mp hmem
    obtain ⟨bytes, rfl, haccepts⟩ := requestOf_eq_some.mp hrequest
    rcases Env.mem_advance hstep hevent with hold | ⟨hwaits, world, hanswer⟩
    · exact hkept.chat request (List.mem_filterMap.mpr ⟨_, hold, hrequest⟩) hkind
    · simp only [controlEnv, Option.some.injEq, Prod.mk.injEq] at hanswer
      exact hwithin.chat bytes request hwaits hanswer.1 haccepts hkind
  files := files_control h h' hwithin hstep hkept.files
  clipboard spawned hmem stream bytes request htask hread hrequest hbody := by
    obtain ⟨asked, outputs, -, -, hhandlers⟩ := control_adds hstep
    rw [hhandlers] at hmem
    rcases List.mem_append.mp hmem with hmem | hmem
    · exact hkept.clipboard spawned hmem stream bytes request htask hread hrequest hbody
    · obtain ⟨task, -, rfl⟩ := List.mem_map.mp hmem
      exact absurd hread (frameRead_start task bytes)
  display stream payload answer hmem := by
    rcases Env.mem_advance hstep hmem with hmem | ⟨hwaits, -⟩
    · exact hkept.display stream payload answer hmem
    · exact hwithin.display stream payload hwaits

theorem kept_handler {session : State} {world : World} {index : Nat}
    {choice : HandlerChoice}
    (hwithin : ∀ spawned, session.world.handlers[index]? = some spawned →
      ClipboardWithin server p spawned)
    (hstep : session.world.stepHandler index choice = some world)
    (hkept : Kept server p session) : Kept server p { session with world } where
  auth := hkept.auth
  chat := hkept.chat
  files := (runningFiles_stepHandler hstep).trans hkept.files
  clipboard := by
    obtain ⟨spawned, run, hspawned, hrun, rfl⟩ := World.stepHandler_eq_some.mp hstep
    intro stepped hmem stream bytes request htask hread hrequest hbody
    rcases List.mem_or_eq_of_mem_set hmem with hmem | rfl
    · exact hkept.clipboard stepped hmem stream bytes request htask hread hrequest hbody
    · rcases Env.mem_advance hrun hread with hread | ⟨hwaits, world, hanswer⟩
      · exact hkept.clipboard spawned (List.mem_of_getElem? hspawned) stream bytes request
          htask hread hrequest hbody
      · simp only [handlerEnv, Option.some.injEq, Prod.mk.injEq] at hanswer
        exact hwithin spawned hspawned stream bytes request htask hwaits hanswer.1 hrequest
          hbody
  display := hkept.display

theorem KeepsTo.kept {session : State} (h : KeepsTo server control p session) :
    Kept server p session := by
  induction h with
  | start => exact kept_start
  | @step session next action before within taken ih =>
      have hnext : Reachable server control next :=
        (KeepsTo.step before within taken).reachable
      cases action with
      | control fault => exact kept_control before.reachable hnext within taken ih
      | handler index choice =>
          obtain ⟨world, hworld, rfl⟩ := step_handler_eq_some.mp taken
          exact kept_handler within hworld ih
      | openUni purpose recv | openBi purpose recv =>
          cases taken
          exact ⟨ih.auth, ih.chat, ih.files, ih.clipboard, ih.display⟩

/-! ## A profile with room for all that was asked for -/

/-- There are fewer File channels than allowed, and what was requested is allowed. -/
structure HasRoom (server : ServerConfig) (p : NegotiatedProfile) (world : World) : Prop where
  files : (world.handlers.map Spawned.task).countP Task.isFile < p.fileMaxConcurrent.toNat
  clipboard : ∀ spawned ∈ world.handlers, ∀ stream bytes request,
    spawned.task = .clipboard stream → frameRead bytes ∈ spawned.run.history →
    RequestsContent server.cib bytes request → clipboardBody request.mime ≠ [] →
    request.mime ∈ p.clipboardTypes

theorem HasRoom.of_grown {before after : World} (h : HasRoom server p after)
    (hgrown : Grown before after) : HasRoom server p before := by
  constructor
  · exact hgrown.tasks.sublist.countP_le.trans_lt h.files
  · intro spawned hmem stream bytes request htask hread
    obtain ⟨index, hindex⟩ := List.getElem?_of_mem hmem
    obtain ⟨later, hlater, hsame, hhistory⟩ := hgrown index spawned hindex
    exact h.clipboard later (List.mem_of_getElem? hlater) stream bytes request
      (hsame.trans htask) (hhistory.subset hread)

theorem HasRoom.runningFiles_lt {world : World} (h : HasRoom server p world) :
    world.runningFiles < p.fileMaxConcurrent.toNat := by
  refine Nat.lt_of_le_of_lt ?_ h.files
  rw [World.runningFiles, List.countP_map]
  refine List.countP_mono_left fun spawned _ hrunning => ?_
  exact (Bool.and_eq_true _ _ ▸ hrunning).1

/-- A clipboard handler's step reads what it is about to read. -/
theorem clipboardWithin_of_hasRoom {world world' : World} {index : Nat} {spawned : Spawned}
    {choice : HandlerChoice} (hstep : world.stepHandler index choice = some world')
    (hspawned : world.handlers[index]? = some spawned) (hroom : HasRoom server p world') :
    ClipboardWithin server p spawned := by
  rintro stream bytes request htask ⟨rest, hprogram⟩ hread
  obtain ⟨before, run, hbefore, hrun, rfl⟩ := World.stepHandler_eq_some.mp hstep
  cases hspawned.symm.trans hbefore
  have hlater : (world.handlers.set index { spawned with run })[index]? =
      some { spawned with run } :=
    List.getElem?_set_self (List.getElem?_eq_some_iff.mp hspawned).1
  have hsettled : run = handlerEnv.settle (rest (.ok (some bytes)))
      (spawned.run.history ++ [frameRead bytes])
      ⟨(readFullFrameOpt spawned.run.world.recv).2⟩ := by
    simp only [Env.advance, hprogram, handlerEnv, Option.map_some, hread] at hrun
    exact (Option.some.inj hrun).symm
  refine hroom.clipboard _ (List.mem_of_getElem? hlater) stream bytes request htask ?_
  rw [hsettled]
  exact (Env.prefix_settle _ _ _ _).subset (by simp)

/-- A run whose last state leaves room kept to the profile all along. -/
theorem keepsTo_of_hasRoom (hstart : KeepsTo server control p (start server control))
    (hauth : "pin" ∈ p.authMethods) (hchat : p.chatEnabled = true)
    (hwidth : displayWidth ≤ p.displayResolution.1.toNat)
    (hheight : displayHeight ≤ p.displayResolution.2.toNat) {session : State}
    (h : Reachable server control session) (hroom : HasRoom server p session.world) :
    KeepsTo server control p session := by
  refine reachable_induction (P := fun session => HasRoom server p session.world →
    KeepsTo server control p session) (fun _ => hstart) ?_ h hroom
  intro session action next ih hnext hroom
  have hbefore := hroom.of_grown (grown_step hnext)
  refine .step (ih hbefore) ?_ hnext
  cases action with
  | control fault =>
      exact ⟨fun _ _ _ _ => hauth, fun _ _ _ _ _ _ => hchat,
        fun _ _ _ _ _ => hbefore.runningFiles_lt, fun _ _ _ => ⟨hwidth, hheight⟩⟩
  | handler index choice =>
      obtain ⟨world, hworld, rfl⟩ := step_handler_eq_some.mp hnext
      exact fun spawned hspawned => clipboardWithin_of_hasRoom hworld hspawned hroom
  | openUni | openBi => trivial

/-! ## The session stays within its profile -/

def announcedSize (payload : List UInt8) : Nat × Nat :=
  (ofLeBytes ((payload.drop 1).take 2), ofLeBytes ((payload.drop 3).take 2))

theorem announcedSize_buildStreamParameters (codec : UInt8) (width height : UInt16)
    (sps pps : List UInt8) :
    announcedSize (buildStreamParameters codec width height sps pps) =
      (width.toNat, height.toNat) := by
  have hfield (n : UInt16) (rest : List UInt8) :
      ofLeBytes ((toLeBytes 2 n.toNat ++ rest).take 2) = n.toNat := by
    rw [List.take_left' (length_toLeBytes 2 n.toNat), ofLeBytes_toLeBytes n.toNat_lt]
  have hwidth : (buildStreamParameters codec width height sps pps).drop 1 =
      toLeBytes 2 width.toNat ++ (toLeBytes 2 height.toNat ++
        (toLeBytes 2 (sps.length % 2 ^ 16) ++ (sps ++
          (toLeBytes 2 (pps.length % 2 ^ 16) ++ pps)))) := by
    simp [buildStreamParameters]
  have hheight : (buildStreamParameters codec width height sps pps).drop 3 =
      toLeBytes 2 height.toNat ++ (toLeBytes 2 (sps.length % 2 ^ 16) ++ (sps ++
        (toLeBytes 2 (pps.length % 2 ^ 16) ++ pps))) := by
    rw [show 3 = 1 + 2 from rfl, ← List.drop_drop, hwidth,
      List.drop_left' (length_toLeBytes 2 width.toNat)]
  rw [announcedSize, hwidth, hheight, hfield, hfield]

theorem streamParameters_of_mem {history : List ControlEvent}
    (h : Transcript server history) {stream : Nat} {payload : List UInt8}
    {answer : Except Error Unit}
    (hmem : .asked (.writeUni stream DisplayFrameType.streamParameters.toU8 payload)
      answer ∈ history) : payload = streamParameters := by
  generalize hevent : (Event.asked
    (.writeUni stream DisplayFrameType.streamParameters.toU8 payload) answer :
      ControlEvent) = event at hmem
  have hneeds : NeedsAuth event := hevent ▸ trivial
  rcases transcript_guarded h with hguarded | ⟨hello, auth, events, -, hserving, rfl⟩
  · exact absurd hneeds (hguarded event hmem)
  · simp only [List.mem_append] at hmem
    rcases hmem with hmem | hmem | hmem
    · exact absurd hneeds (hello_guarded hello event hmem)
    · exact absurd hneeds (auth_guarded auth event hmem)
    · cases hserving.mem event hmem with
      | display opening =>
          cases opening with
          | first => cases hevent; rfl
          | announce | openUni | spawn => cases hevent
      | cursor opening =>
          cases opening with
          | first =>
              injection hevent with hquestion
              injection hquestion with _ htype
              exact absurd htype (by decide)
          | announce | openUni | spawn => cases hevent
      | dispatch dispatching =>
          cases dispatching with
          | read | ack | spawn => cases hevent
          | accept kind supported answer =>
              rw [acceptEvent] at hevent
              split at hevent <;> cases hevent
      | join handle => cases hevent

structure StaysWithin (server : ServerConfig) (p : NegotiatedProfile) (session : State) :
    Prop where
  /-- Authentication succeeds only with a method in the profile. -/
  auth : ∀ bytes method credential, readEvent bytes ∈ session.history →
    AcceptsAuth server.cib bytes method credential →
    (authDecision server method credential).1 = .ok → method ∈ p.authMethods
  /-- Chat is acknowledged, and that with status 0, only if the profile enables it. -/
  chat : ∃ acked served, AnsweredInOrder server.cib session.history acked served ∧
    ∀ request ∈ acked, request.kind = ChannelKind.chat.toU64 → p.chatEnabled = true
  files : session.world.runningFiles ≤ p.fileMaxConcurrent.toNat
  /-- Every `Content` answers a request, with bytes only for a type in the profile. -/
  clipboard : ∀ spawned ∈ session.world.handlers, ∀ stream payload answer,
    spawned.task = .clipboard stream →
    contentWritten payload answer ∈ spawned.run.history →
    ∃ bytes request, frameRead bytes ∈ spawned.run.history ∧
      RequestsContent server.cib bytes request ∧
      server.cib.intoWriter (buildClipboardContent request.requestId request.mime
        (clipboardBody request.mime)) = .ok payload ∧
      (clipboardBody request.mime ≠ [] → request.mime ∈ p.clipboardTypes)
  display : ∀ stream payload answer,
    .asked (.writeUni stream DisplayFrameType.streamParameters.toU8 payload) answer ∈
      session.history →
    (announcedSize payload).1 ≤ p.displayResolution.1.toNat ∧
      (announcedSize payload).2 ≤ p.displayResolution.2.toNat

theorem clipboard_answered {session : State} (h : Reachable server control session) :
    ∀ spawned ∈ session.world.handlers, ∀ stream, spawned.task = .clipboard stream →
      Answered server spawned.run.history := by
  refine reachable_handlers (I := fun task events => ∀ stream, task = .clipboard stream →
    Answered server events) ?_ h
  intro task
  cases task with
  | clipboard stream =>
      refine (handleClipboardStream_answered server).weaken ?_ ?_
      · exact fun history hanswered _ _ => hanswered
      · exact fun _ history hanswered _ _ => hanswered
  | _ =>
      refine (Prog.safe_trivial _ _).weaken ?_ ?_
      · rintro history - stream ⟨⟩
      · rintro result history - stream ⟨⟩

/-- A session whose steps keep to the negotiated profile stays within it. -/
theorem session_within_profile {session : State} (h : KeepsTo server control p session) :
    StaysWithin server p session := by
  have hkept := h.kept
  obtain ⟨acked, served, hanswered⟩ := answered_of_reachable h.reachable
  constructor
  · exact hkept.auth
  · refine ⟨acked, served, hanswered, fun request hmem => ?_⟩
    exact hkept.chat request (hanswered.requested.subset hmem)
  · exact hkept.files
  · intro spawned hmem stream payload answer htask hcontent
    obtain ⟨bytes, request, hread, hrequest, hwritten⟩ :=
      clipboard_answered h.reachable spawned hmem stream htask payload answer hcontent
    exact ⟨bytes, request, hread, hrequest, hwritten,
      hkept.clipboard spawned hmem stream bytes request htask hread hrequest⟩
  · intro stream payload answer hmem
    have hpayload := streamParameters_of_mem (reachable_transcript h.reachable) hmem
    have hsize : announcedSize payload = (displayWidth, displayHeight) := by
      rw [hpayload, streamParameters, announcedSize_buildStreamParameters]
      rfl
    rw [hsize]
    exact hkept.display stream payload answer hmem

/-! ## A client that asks for three channels -/

theorem openChat_fits :
    (CborWire.encode (TestClient.openChannel ChannelKind.chat.toU64 3 0)).length ≤
      maxFrameLength := by
  decide +kernel

theorem openFile_fits :
    (CborWire.encode (TestClient.openChannel ChannelKind.file.toU64 4 0)).length ≤
      maxFrameLength := by
  decide +kernel

def loopbackChat : Acked (loopbackServer "493817") :=
  loopbackRequest ChannelKind.chat.toU64 3 openChat_fits

def loopbackFile : Acked (loopbackServer "493817") :=
  loopbackRequest ChannelKind.file.toU64 4 openFile_fits

def chatStream : ClientStream := ⟨0, ChannelKind.chat.toU64, ⟨[], [], none⟩⟩

def fileStream : ClientStream := ⟨1, ChannelKind.file.toU64, ⟨[], [], none⟩⟩

def clipboardStream : ClientStream :=
  ⟨2, ChannelKind.clipboard.toU64,
    ⟨Frame.encode ClipboardFrameType.requestContent.toU8 (CborWire.encode textRequest) [] ++
      [], [3], none⟩⟩

def textContent : List UInt8 :=
  CborWire.encode (buildClipboardContent 42 "text/plain;charset=utf-8"
    (clipboardBody "text/plain;charset=utf-8"))

def channelTurns : List (Turn (loopbackServer "493817")) :=
  [.served loopbackChat rfl chatStream, .served loopbackFile rfl fileStream,
    .served loopbackClipboard loopbackClipboard_supported clipboardStream]

def channelTasks : List Task :=
  [.display 0, .cursor 1, .chat chatStream, .file fileStream, .clipboard clipboardStream]

theorem index_of_clipboard {index : Nat} {stream : ClientStream}
    (h : channelTasks[index]? = some (.clipboard stream)) : index = 4 := by
  have hlt : index < 5 := (List.getElem?_eq_some_iff.mp h).1
  interval_cases index
  · cases h
  · cases h
  · cases h
  · cases h
  · rfl

section Channels

variable {caps : Capabilities} (script : Script (loopbackServer "493817") caps)

def channelsControl : RecvStream :=
  ⟨script.bytes ++
    (loopbackChat.bytes ++ (loopbackFile.bytes ++ (loopbackClipboard.bytes ++ []))), [4],
    none⟩

theorem reachable_channels :
    ∃ session, Reachable (loopbackServer "493817") (channelsControl script) session ∧
      session.history = script.helloEvents ++ (script.authEvents ++
        script.openingEvents) ++ turnEvents channelTurns ∧
      session.world.runningFiles = 1 ∧
      session.world.handlers.map Spawned.task = channelTasks ∧
      ∀ spawned ∈ session.world.handlers, ∀ stream, spawned.task = .clipboard stream →
        ∃ outputs : List HandlerLog, spawned.run.history =
          requestEvents "text/plain;charset=utf-8" 42 (CborWire.encode textRequest)
            textContent ++ outputs.map .told := by
  have hstart : Reachable (loopbackServer "493817") (channelsControl script) _ :=
    reachable_start
  have hopened := reachable_openBi (reachable_openBi
    (reachable_openBi hstart chatStream.purpose chatStream.recv) fileStream.purpose
    fileStream.recv) clipboardStream.purpose clipboardStream.recv
  obtain ⟨hcontrol, hserved⟩ := script.reachable hopened rfl rfl
  obtain ⟨hcontrol, hchat⟩ := hserved.turn (.served loopbackChat rfl chatStream)
    hcontrol (by decide +kernel) rfl rfl
  obtain ⟨hcontrol, hfile⟩ := hchat.turn (.served loopbackFile rfl fileStream)
    hcontrol (by decide +kernel) rfl rfl
  obtain ⟨-, hclipboard⟩ := hfile.turn
    (.served loopbackClipboard loopbackClipboard_supported clipboardStream) hcontrol
    (by decide +kernel) rfl rfl
  obtain ⟨cuts, hleads⟩ : ∃ cuts, handlerEnv.Leads
      (handleClipboardStream (loopbackServer "493817")) ⟨clipboardStream.recv⟩
      (requestEvents "text/plain;charset=utf-8" 42 (CborWire.encode textRequest) textContent)
      (handleClipboardStream (loopbackServer "493817")) ⟨⟨[], cuts, none⟩⟩ :=
    leads_requestContent (carries_rfc8949 textRequest_fits) rfl [] [3] none
  obtain ⟨choices, hrun⟩ := hleads []
  obtain ⟨world, hreachable, hhandlers⟩ :=
    @Reachable.handler _ _ _ 4 _ _ hclipboard rfl choices hrun
  refine ⟨_, hreachable, ?_, ?_, ?_, ?_⟩
  · simp only [channelTurns, turnEvents, List.flatMap_cons, List.flatMap_nil, List.append_nil]
    rw [← List.append_assoc, ← List.append_assoc]
    rfl
  · rw [World.runningFiles, hhandlers]
    rfl
  · rw [hhandlers]
    rfl
  · intro spawned hmem stream htask
    obtain ⟨index, hindex⟩ := List.getElem?_of_mem hmem
    have hkind : channelTasks[index]? = some (.clipboard stream) := by
      have htasks : world.handlers.map Spawned.task = channelTasks := by rw [hhandlers]; rfl
      rw [← htasks, List.getElem?_map, hindex, ← htask]
      rfl
    obtain rfl : index = 4 := index_of_clipboard hkind
    have hspawned := hindex
    rw [hhandlers] at hspawned
    cases hspawned
    obtain ⟨outputs, hhistory, -⟩ := handlerEnv.settle_adds _ _ _
    exact ⟨outputs, hhistory⟩

theorem exists_contentWritten {handlers : List Spawned}
    (htasks : handlers.map Spawned.task = channelTasks)
    (hclipboards : ∀ spawned ∈ handlers, ∀ stream, spawned.task = .clipboard stream →
      ∃ outputs : List HandlerLog, spawned.run.history =
        requestEvents "text/plain;charset=utf-8" 42 (CborWire.encode textRequest)
          textContent ++ outputs.map .told) :
    ∃ spawned ∈ handlers, spawned.task = .clipboard clipboardStream ∧
      contentWritten textContent (.ok ()) ∈ spawned.run.history := by
  have htask : Task.clipboard clipboardStream ∈ handlers.map Spawned.task := by
    rw [htasks]
    exact List.mem_of_getElem? (i := 4) rfl
  obtain ⟨spawned, hmem, htask⟩ := List.mem_map.mp htask
  obtain ⟨outputs, hhistory⟩ := hclipboards spawned hmem _ htask
  exact ⟨spawned, hmem, htask, by simp [hhistory, requestEvents]⟩

end Channels

/-- A client with capabilities of its own, which leave room for what it will ask for. -/
def modestClient : Capabilities :=
  { Capabilities.default with
    authMethods := ["pin"]
    displayMaxResolution := (800, 600)
    clipboardTypes := ["text/plain;charset=utf-8"]
    fileMaxConcurrent := 2 }

theorem modestClient_fits :
    (CborWire.encode (TestClient.clientHello modestClient)).length ≤ maxFrameLength := by
  decide +kernel

def modestScript : Script (loopbackServer "493817") modestClient :=
  .loopback modestClient_fits authRequest_fits

def modestHello : List UInt8 :=
  Frame.encode ControlFrameType.clientHello.toU8 modestScript.helloPayload []

theorem requestsContent_sent {cib : Ciborium} {mime : String} {requestId : UInt64}
    {payload : List UInt8} {request : RequestContent}
    (h : Carries cib (TestClient.requestContent mime requestId) payload)
    (hrequest : RequestsContent cib
      (Frame.encode ClipboardFrameType.requestContent.toU8 payload []) request) :
    request = ⟨requestId, mime⟩ := by
  obtain ⟨frame, n, val, hparse, -, hread, rfl⟩ := hrequest
  cases hparse.symm.trans (Frame.parse_encode _ h.fits)
  cases hread.symm.trans h.readBack
  exact parseRequestContent_sent mime requestId

/-- Its PIN is in the profile, and so are Chat, the File channel, the text that it
pulls, and the stream it is shown. -/
theorem session_within_profile_modest :
    ∃ p session,
      NegotiatedProfile.negotiate modestClient Capabilities.default = .ok p ∧
      session.history = modestScript.helloEvents ++ (modestScript.authEvents ++
        modestScript.openingEvents) ++ turnEvents channelTurns ∧
      session.world.runningFiles = 1 ∧
      (∃ spawned ∈ session.world.handlers, spawned.task = .clipboard clipboardStream ∧
        contentWritten textContent (.ok ()) ∈ spawned.run.history) ∧
      StaysWithin (loopbackServer "493817") p session := by
  obtain ⟨p, hnegotiated, hauth, hchat, hfiles, hclipboard, hwidth, hheight⟩ : ∃ p,
      NegotiatedProfile.negotiate modestClient Capabilities.default = .ok p ∧
        "pin" ∈ p.authMethods ∧ p.chatEnabled = true ∧ p.fileMaxConcurrent = 2 ∧
        "text/plain;charset=utf-8" ∈ p.clipboardTypes ∧
        displayWidth ≤ p.displayResolution.1.toNat ∧
        displayHeight ≤ p.displayResolution.2.toNat :=
    ⟨_, rfl, by decide +kernel⟩
  obtain ⟨session, hreachable, hhistory, hrunning, htasks, hclipboards⟩ :=
    reachable_channels modestScript
  refine ⟨p, session, hnegotiated, hhistory, hrunning,
    exists_contentWritten htasks hclipboards, session_within_profile
    (keepsTo_of_hasRoom ?_ hauth hchat hwidth hheight hreachable ⟨?_, ?_⟩)⟩
  · exact .start modestHello 0 _ modestClient modestScript.helloFrame
      (acceptsHello_sent modestScript.hello) hnegotiated
  · rw [htasks, hfiles]
    decide
  · intro spawned hmem stream bytes request htask hread hrequest hbody
    obtain ⟨outputs, hspawned⟩ := hclipboards spawned hmem stream htask
    have hbytes : bytes = Frame.encode ClipboardFrameType.requestContent.toU8
        (CborWire.encode textRequest) [] := by
      simpa [hspawned, requestEvents, frameRead, contentWritten] using hread
    subst hbytes
    rwa [requestsContent_sent (carries_rfc8949 textRequest_fits) hrequest]

/-- A client whose capabilities exclude all that it will ask for. -/
def smallClient : Capabilities :=
  { Capabilities.default with
    authMethods := ["token"]
    displayMaxResolution := (320, 240)
    clipboardTypes := []
    fileMaxConcurrent := 0
    chatEnabled := false }

theorem smallClient_fits :
    (CborWire.encode (TestClient.clientHello smallClient)).length ≤ maxFrameLength := by
  decide +kernel

def smallScript : Script (loopbackServer "493817") smallClient :=
  .loopback smallClient_fits authRequest_fits

def smallControl : RecvStream := channelsControl smallScript

def smallHello : List UInt8 :=
  Frame.encode ControlFrameType.clientHello.toU8 smallScript.helloPayload []

/-- Its PIN is accepted, it is shown 640×480, and gets the channels and the content. -/
theorem profile_exceeded :
    ∃ p session,
      helloFrame smallControl = .ok smallHello ∧
      AcceptsHello (loopbackServer "493817").cib smallHello 0 "openrd-test-client/0.0.1"
        smallClient ∧
      NegotiatedProfile.negotiate smallClient Capabilities.default = .ok p ∧
      Reachable (loopbackServer "493817") smallControl session ∧
      (writeEvent .authResult smallScript.authReply (.ok ()) ∈ session.history ∧
        "pin" ∉ p.authMethods) ∧
      ((ChannelKind.chat.toU64, chatStream) ∈ session.history.filterMap startOf ∧
        p.chatEnabled = false) ∧
      (session.world.runningFiles = 1 ∧ p.fileMaxConcurrent = 0) ∧
      ((∃ spawned ∈ session.world.handlers, spawned.task = .clipboard clipboardStream ∧
          contentWritten textContent (.ok ()) ∈ spawned.run.history) ∧
        p.clipboardTypes = []) ∧
      (.asked (.writeUni 0 DisplayFrameType.streamParameters.toU8 streamParameters) (.ok ()) ∈
          session.history ∧ announcedSize streamParameters = (640, 480) ∧
        p.displayResolution = (320, 240)) ∧
      ¬StaysWithin (loopbackServer "493817") p session := by
  obtain ⟨p, hnegotiated, hauth, hchat, hfiles, hclipboard, hdisplay⟩ : ∃ p,
      NegotiatedProfile.negotiate smallClient Capabilities.default = .ok p ∧
        "pin" ∉ p.authMethods ∧ p.chatEnabled = false ∧ p.fileMaxConcurrent = 0 ∧
        p.clipboardTypes = [] ∧ p.displayResolution = (320, 240) :=
    ⟨_, rfl, by decide +kernel⟩
  obtain ⟨session, hreachable, hhistory, hrunning, htasks, hclipboards⟩ :=
    reachable_channels smallScript
  have hcontent : ∃ spawned ∈ session.world.handlers,
      spawned.task = .clipboard clipboardStream ∧
        contentWritten textContent (.ok ()) ∈ spawned.run.history :=
    exists_contentWritten htasks hclipboards
  refine ⟨p, session, smallScript.helloFrame, acceptsHello_sent smallScript.hello,
    hnegotiated, hreachable, ⟨?_, hauth⟩, ⟨?_, hchat⟩, ⟨hrunning, hfiles⟩,
    ⟨hcontent, hclipboard⟩, ⟨?_, rfl, hdisplay⟩, fun hstays => ?_⟩
  · rw [hhistory]
    simp [Script.authEvents, sentAuth, Auth.events]
  · have hstarts : (turnEvents channelTurns).filterMap startOf =
        [(ChannelKind.chat.toU64, chatStream), (ChannelKind.file.toU64, fileStream),
          (ChannelKind.clipboard.toU64, clipboardStream)] := rfl
    rw [hhistory, List.filterMap_append, hstarts]
    exact List.mem_append_right _ List.mem_cons_self
  · rw [hhistory]
    simp [Script.openingEvents, Opened.events, displayChannel]
  · have hfiles' := hstays.files
    rw [hrunning, hfiles] at hfiles'
    exact absurd hfiles' (by decide)

end OpenRD.Session
