import OpenRD.Session.CounterPanics
import OpenRD.Session.TestArrivals

/-!
# A Display receiver that panics

A client built with overflow checks, against an encoder that returns as many units as bring
its counter of slices to its bound.
-/

namespace OpenRD.Session

open OpenRD.Foundation OpenRD.Proto OpenRD.Server
open OpenRD.TestClient (Stream Receiver)

def TestStep (setup : TestSetup) (session next : TestSession) : Prop :=
  ∃ action : TestAction, session.step setup action = some next

section Steps

variable {setup : TestSetup} {session later : TestSession}

theorem TestReachable.trans (h : TestReachable setup session)
    (hsteps : Relation.ReflTransGen (TestStep setup) session later) :
    TestReachable setup later := by
  induction hsteps with
  | refl => exact h
  | tail _ hstep ih =>
      obtain ⟨actions, hrun⟩ := ih
      obtain ⟨action, hstep⟩ := hstep
      refine ⟨actions ++ [action], ?_⟩
      rw [List.foldlM_append, hrun]
      simpa using hstep

end Steps

/-! ## The sender goes on -/

/-- The encoder returns these units when it is asked. -/
def encoderChoice (outputs : UInt32 → List (List UInt8)) (program : HandlerProg Unit) :
    HandlerChoice :=
  match program with
  | .ask (.encode frameId) _ => ⟨none, outputs frameId⟩
  | _ => default

section Display

variable {setup : TestSetup} {session : TestSession} {outputs : UInt32 → List (List UInt8)}
  {rest : List Spawned}

theorem reliable_encoderChoice
    (hsizes : ∀ frameId, ∀ nal ∈ outputs frameId, nal.length ≤ maxNalLength)
    (spawned : Spawned) : Reliable spawned (encoderChoice outputs spawned.run.program) := by
  unfold Reliable encoderChoice
  cases hprogram : spawned.run.program with
  | ask question next =>
      cases question with
      | encode frameId => exact hsizes frameId
      | initEncoder => exact nofun
      | _ => exact ⟨rfl, rfl⟩
  | _ => exact ⟨rfl, rfl⟩

/-- Only the sender, the first of the handlers, has gone on since `start`. -/
structure SenderAt (start : TestSession) (rest : List Spawned)
    (state : Running HandlerRequest HandlerRequest.Answer HandlerLog Unit Error Unit)
    (session : TestSession) (run : HandlerRun) : Prop where
  client : session.client = start.client
  history : session.server.history = start.server.history
  handlers : session.server.world.handlers = ⟨.display 0, run⟩ :: rest
  tracks : state.Tracks (fun _ _ => True) run

theorem SenderAt.step {start : TestSession} {run : HandlerRun}
    {state state' : Running HandlerRequest HandlerRequest.Answer HandlerLog Unit Error Unit}
    (h : SenderAt start rest state session run)
    (hsizes : ∀ frameId, ∀ nal ∈ outputs frameId, nal.length ≤ maxNalLength)
    (hnext : (encoderEnv outputs).advance state () = some state') :
    ∃ next run', TestStep setup session next ∧ SenderAt start rest state' next run' := by
  obtain ⟨run', hrun, htracks⟩ : ∃ run',
      handlerEnv.advance run (encoderChoice outputs run.program) = some run' ∧
        state'.Tracks (fun _ _ => True) run' := by
    refine h.tracks.follow hnext _ (fun _ _ _ _ => trivial) ?_
    intro question next answer _ hprogram hanswer
    rw [h.tracks.program, hprogram]
    cases question with
    | readFullFrameOpt => cases hanswer
    | writeFrame | finish | initEncoder | encode | sleep =>
        cases hanswer
        exact ⟨_, rfl, trivial⟩
  have hspawned : session.server.world.handlers[0]? = some ⟨.display 0, run⟩ := by
    rw [h.handlers]
    rfl
  have hreads : session.ReadsStream setup ⟨.display 0, run⟩ run' := nofun
  obtain ⟨world, -, hhandlers, hstep⟩ := TestSession.step_handler hspawned
    (reliable_encoderChoice hsizes ⟨.display 0, run⟩) hrun hreads
  refine ⟨_, run', ⟨_, hstep⟩, h.client, h.history, ?_, htracks⟩
  rw [hhandlers, h.handlers, List.set_cons_zero]

/-- The sender can go through with these units. -/
theorem display_runs
    (hsizes : ∀ frameId, ∀ nal ∈ outputs frameId, nal.length ≤ maxNalLength)
    (hhandlers : session.server.world.handlers = .start setup.server (.display 0) :: rest) :
    ∃ later run, Relation.ReflTransGen (TestStep setup) session later ∧
      later.client = session.client ∧ later.server.history = session.server.history ∧
      later.server.world.handlers = ⟨.display 0, run⟩ :: rest ∧
      run.outcome = some (.ok ()) ∧ sendDisplayFrames.ComesTo run.history (.ok ()) ∧
      Encodes outputs run.history := by
  obtain ⟨events, hcompletes, hencoded⟩ := finishes_sendDisplayFrames outputs
  have hfinal := hcompletes.leads.reaches []
  have htracks : ((encoderEnv outputs).settle sendDisplayFrames [] ()).Tracks
      (fun _ _ => True) (handlerEnv.settle sendDisplayFrames [] ⟨taskRecv (.display 0)⟩) :=
    tracks_settle (fun _ _ _ _ => trivial) trivial
  obtain ⟨later, hsteps, run, hsender⟩ : ∃ later,
      Relation.ReflTransGen (TestStep setup) session later ∧ ∃ run, SenderAt session rest
        ((encoderEnv outputs).settle (.ret ()) ([] ++ events) ()) later run := by
    refine hfinal.drive (P := fun state s => ∃ run, SenderAt session rest state s run) ?_
      (fun _ => id) ⟨_, rfl, rfl, hhandlers, htracks⟩
    rintro state state' s hnext ⟨run, hsender⟩
    obtain ⟨next, run', hstep, hsender'⟩ := hsender.step hsizes hnext
    exact .inr ⟨next, hstep, run', hsender'⟩
  obtain ⟨hclient, hhistory, hhandlers', hprogram, hevents, -⟩ := hsender
  have hsame : run.history = events := hevents
  refine ⟨later, run, hsteps, hclient, hhistory, hhandlers', ?_, ?_, ?_⟩
  · rw [Running.outcome, hprogram]
    rfl
  · exact hsame ▸ hcompletes.comesTo
  · exact hsame ▸ encodes_finished hencoded

end Display

/-! ## The receiver goes on -/

/-- On a stream that has ended, what the receiver would be given of the whole is there. -/
theorem ReadTo.answered {frames : List SentFrame} {world world' : VideoWorld} {read : Nat}
    (h : ReadTo frames frames world read)
    (hfits : ∀ frame ∈ frames, frame.2.length ≤ maxFrameLength)
    {result : Except Error (Option (List UInt8))}
    (hanswer : videoEnv.answer world .readFrameOpt () = some (result, world')) :
    ∃ read', readSome TestClient.readFrameOpt frames true read [] = some (result, read') ∧
      ReadTo frames frames world' read' := by
  obtain ⟨⟨items, cuts, ending⟩, dump⟩ := world
  obtain ⟨seen, left, _, rfl, hseen, hrecv, rfl⟩ := h
  cases hrecv
  cases left with
  | nil =>
      obtain ⟨cuts', hended⟩ := readFrameOptWith_ended TestClient.readerTexts cuts
      have hended : TestClient.readFrameOpt ⟨wire [], cuts, none⟩ =
        (.ok none, ⟨[], cuts', none⟩) := hended
      simp only [videoEnv, hended] at hanswer
      cases hanswer
      rw [List.append_nil, readSome_ended]
      exact ⟨_, rfl, seen, [], cuts', (List.append_nil seen).symm, List.prefix_rfl, rfl, rfl⟩
  | cons frame left =>
      have hframe : frame.2.length ≤ maxFrameLength := hfits frame (by simp)
      obtain ⟨cuts', hread⟩ := answer_frame hframe left cuts dump
      cases hread.symm.trans hanswer
      rw [readSome_frame takesFrame_readFrameOpt hframe]
      exact ⟨_, rfl, seen ++ [frame], left, cuts', by simp, ⟨left, by simp⟩, rfl, rfl⟩

section Receiver

variable {setup : TestSetup} {session start : TestSession} {frames : List SentFrame}
  {others : List Receiving}

/-- Only the Display receiver, the first of the receivers, has gone on since `start`. -/
structure ReceiverAt (start : TestSession) (frames : List SentFrame) (others : List Receiving)
    (state : Running TestClient.ReceiverRequest TestClient.ReceiverRequest.Answer
      TestClient.ReceiverLog VideoWorld Error Unit)
    (session : TestSession) (run : ReceiverRun) : Prop where
  server : session.server = start.server
  client : session.client =
    { start.client with world.receivers := ⟨.display, 0, run⟩ :: others }
  tracks : state.Tracks (ReadTo frames frames) run

theorem ReceiverAt.step {run : ReceiverRun}
    {state state' : Running TestClient.ReceiverRequest TestClient.ReceiverRequest.Answer
      TestClient.ReceiverLog VideoWorld Error Unit}
    (h : ReceiverAt start frames others state session run)
    (hpushed : start.pushedFrames 0 = frames) (hended : start.pushedEnded 0 = true)
    (hfits : ∀ frame ∈ frames, frame.2.length ≤ maxFrameLength)
    (hnext : videoEnv.advance state () = some state') :
    ∃ next run', TestStep setup session next ∧
      ReceiverAt start frames others state' next run' := by
  obtain ⟨run', hrun, htracks⟩ : ∃ run', (receiverEnv frames true).advance run [] = some run' ∧
      state'.Tracks (ReadTo frames frames) run' := by
    refine h.tracks.follow hnext [] (fun _ _ _ => id) ?_
    intro question next answer world _ hanswer
    cases question with
    | readFrameOpt => exact h.tracks.world.answered hfits hanswer
    | createDump | writeDump | flushDump =>
        cases hanswer
        exact ⟨_, rfl, h.tracks.world⟩
  have hreceiving : session.client.world.receivers[0]? = some ⟨.display, 0, run⟩ := by
    rw [h.client]
    rfl
  have hframes : session.pushedFrames 0 = frames := by
    rw [← hpushed, TestSession.pushedFrames, TestSession.pushedFrames, h.server]
  have hover : (session.server.world.handlerOf 0).any Spawned.finished = true := by
    rw [h.server]
    exact hended
  refine ⟨{ session with
    client.world.receivers := session.client.world.receivers.set 0 ⟨.display, 0, run'⟩ }, run',
    ⟨.receiver 0 [], ?_⟩, h.server, ?_, htracks⟩
  · simp only [TestSession.step, hreceiving, Option.bind_eq_bind, Option.bind_some, hframes, hover,
      hrun]
    rfl
  · simp only [h.client, List.set_cons_zero]

/-- The receiver goes as far as it would on the whole stream at once. -/
theorem receiver_runs
    (hreceivers : session.client.world.receivers =
      .start setup.clientChecks setup.dumpPath .display 0 :: others)
    (hpushed : session.pushedFrames 0 = frames) (hended : session.pushedEnded 0 = true)
    (hfits : ∀ frame ∈ frames, frame.2.length ≤ maxFrameLength)
    {final : Running TestClient.ReceiverRequest TestClient.ReceiverRequest.Answer
      TestClient.ReceiverLog VideoWorld Error Unit}
    (hfinal : videoEnv.Reaches (setup.receiving .display frames) final) :
    ∃ later run, Relation.ReflTransGen (TestStep setup) session later ∧
      later.client = { session.client with world.receivers := ⟨.display, 0, run⟩ :: others } ∧
      run.outcome = final.outcome := by
  have htracks : (setup.receiving .display frames).Tracks (ReadTo frames frames)
      ((receiverEnv [] false).settle
        (Receiver.display.program setup.clientChecks setup.dumpPath) [] 0) :=
    tracks_settle (fun _ _ _ => id) ⟨[], frames, [], rfl, List.nil_prefix, rfl, rfl⟩
  have hclient : session.client = { session.client with
      world.receivers :=
        Receiving.start setup.clientChecks setup.dumpPath .display 0 :: others } := by
    rw [← hreceivers]
  obtain ⟨later, hsteps, run, hreceiver⟩ : ∃ later,
      Relation.ReflTransGen (TestStep setup) session later ∧ ∃ run,
        ReceiverAt session frames others final later run := by
    refine hfinal.drive (P := fun state s => ∃ run, ReceiverAt session frames others state s run)
      ?_ (fun _ => id) ⟨_, rfl, hclient, htracks⟩
    rintro state state' s hnext ⟨run, hreceiver⟩
    obtain ⟨next, run', hstep, hreceiver'⟩ := hreceiver.step hpushed hended hfits hnext
    exact .inr ⟨next, hstep, run', hreceiver'⟩
  refine ⟨later, run, hsteps, hreceiver.client, ?_⟩
  rw [Running.outcome, Running.outcome, hreceiver.tracks.program]

end Receiver

/-! ## Before the sender and the receivers go on -/

/-- The step is neither the first handler's nor a receiver's. -/
def TestAction.sparing : TestAction → Bool
  | .handler 0 _ | .receiver .. => false
  | _ => true

/-- Neither the first handler nor a receiver has gone on. -/
structure Fresh (setup : TestSetup) (session : TestSession) : Prop where
  handler : ∀ spawned ∈ session.server.world.handlers[0]?,
    spawned = .start setup.server spawned.task
  receivers : Started (fun receiving => receiving =
    .start setup.clientChecks setup.dumpPath receiving.receiver receiving.stream)
    session.client.history session.client.world

namespace Fresh

variable {setup : TestSetup} {session next : TestSession}

theorem start : Fresh setup (.start setup) :=
  ⟨nofun, Running.settle_ties (fun _ _ output h => h.perform (fun _ _ => rfl) output) nofun⟩

theorem step (h : Fresh setup session) {action : TestAction} (hsparing : action.sparing = true)
    (hstep : session.step setup action = some next) : Fresh setup next := by
  cases Stepped.of_step hstep with
  | control hserver =>
      obtain ⟨asked, outputs, -, -, hhandlers⟩ := control_adds hserver
      refine ⟨fun spawned hspawned => ?_, h.receivers⟩
      rw [hhandlers] at hspawned
      cases hold : session.server.world.handlers with
      | cons first rest =>
          rw [hold, List.cons_append] at hspawned
          exact h.handler spawned (hold ▸ hspawned)
      | nil =>
          rw [hold, List.nil_append] at hspawned
          obtain ⟨task, -, rfl⟩ := List.mem_map.mp (List.mem_of_getElem? hspawned)
          rfl
  | @handler index choice spawned world _ _ hworld =>
      obtain ⟨_, run, -, -, rfl⟩ := World.stepHandler_eq_some.mp hworld
      refine ⟨fun first hfirst => h.handler first ?_, h.receivers⟩
      cases index with
      | zero => cases hsparing
      | succ index =>
          rwa [List.getElem?_set_ne (Nat.succ_ne_zero index)] at hfirst
  | client hclient =>
      refine ⟨fun first hfirst => h.handler first ?_, h.receivers.advance (fun _ _ => rfl) hclient⟩
      rwa [session.handlers_opened] at hfirst
  | receiver => cases hsparing

theorem of_run {actions : List TestAction} (hsparing : actions.all TestAction.sparing = true)
    (hrun : actions.foldlM (TestSession.step setup) session = some next)
    (h : Fresh setup session) : Fresh setup next := by
  induction actions generalizing session with
  | nil =>
      cases hrun
      exact h
  | cons action actions ih =>
      simp only [List.foldlM_cons, Option.bind_eq_bind, Option.bind_eq_some_iff] at hrun
      obtain ⟨middle, hmiddle, hrest⟩ := hrun
      rw [List.all_cons, Bool.and_eq_true] at hsparing
      exact ih hsparing.2 hrest (h.step hsparing.1 hmiddle)

/-- The first handler is the Display sender. -/
theorem sender (hfresh : Fresh setup session) (h : setup.Agreed)
    (htogether : TestTogether setup session) (hsome : session.server.world.handlers ≠ []) :
    ∃ rest, session.server.world.handlers = .start setup.server (.display 0) :: rest := by
  have htasks := htogether.server.tasks
  obtain ⟨later, hlater⟩ := (htogether.server.prefix_events h).filterMap spawnedTask
  rw [h.spawned_events, ← htasks] at hlater
  cases hhandlers : session.server.world.handlers with
  | nil => exact absurd hhandlers hsome
  | cons first rest =>
      rw [hhandlers] at hlater
      have htask : first.task = .display 0 := (List.cons.inj hlater).1
      have hstart := hfresh.handler first (by rw [hhandlers]; rfl)
      rw [htask] at hstart
      exact ⟨rest, by rw [← hstart]⟩

theorem receiver (hfresh : Fresh setup session) (h : setup.Agreed)
    (htogether : TestTogether setup session) {first : Receiving} {others : List Receiving}
    (hreceivers : session.client.world.receivers = first :: others)
    (hdisplay : first.receiver = .display) :
    first = .start setup.clientChecks setup.dumpPath .display 0 := by
  have hmem : first ∈ session.client.world.receivers := by simp [hreceivers]
  have hstream : first.stream = 0 := by
    rcases htogether.receiver_stream h hmem with ⟨-, hstream⟩ | ⟨hcursor, -⟩
    · exact hstream
    · rw [hdisplay] at hcursor
      cases hcursor
  have hstart : first = .start setup.clientChecks setup.dumpPath first.receiver first.stream :=
    (hfresh.receivers first hmem).1
  rwa [hdisplay, hstream] at hstart

end Fresh

/-! ## A client that joins a receiver that panicked -/

section Panics

variable {setup : TestSetup} {session : TestSession} {units : List (List UInt8)}

theorem sizes_firstOnly (hsizes : ∀ nal ∈ units, nal.length ≤ maxNalLength) (frameId : UInt32) :
    ∀ nal ∈ firstOnly units frameId, nal.length ≤ maxNalLength := by
  unfold firstOnly
  split
  · exact hsizes
  · exact nofun

/-- The sender can write these units, all of the first picture, and end. -/
theorem sender_writes (h : setup.Agreed) (htogether : TestTogether setup session)
    (hfresh : Fresh setup session) (hsome : session.server.world.handlers ≠ [])
    (hsizes : ∀ nal ∈ units, nal.length ≤ maxNalLength) :
    ∃ later, Relation.ReflTransGen (TestStep setup) session later ∧
      later.client = session.client ∧ later.pushedEnded 0 = true ∧
      later.pushedFrames 0 = displayFrames (shownPictures (firstOnly units)) := by
  obtain ⟨rest, hhandlers⟩ := hfresh.sender h htogether hsome
  obtain ⟨later, run, hsteps, hclient, hhistory, hhandlers', houtcome, hcomes, hencodes⟩ :=
    display_runs (sizes_firstOnly hsizes) hhandlers
  have hbefore : session.server.world.handlerOf 0 =
      some (.start setup.server (.display 0)) := by
    rw [World.handlerOf, hhandlers]
    rfl
  have hafter : later.server.world.handlerOf 0 = some ⟨.display 0, run⟩ := by
    rw [World.handlerOf, hhandlers']
    rfl
  obtain ⟨channel, hchannel, -, hopening⟩ := htogether.server.opened h hbefore
  cases hchannel
  refine ⟨later, hsteps, hclient, ?_, ?_⟩
  · rw [TestSession.pushedEnded, hafter]
    exact (Spawned.finished_iff ⟨.display 0, run⟩).mpr ⟨_, houtcome⟩
  · rw [TestSession.pushedFrames, hafter, hhistory, hopening, framesOf, handlerFrames_eq,
      framesWritten_eq_shownPictures hcomes hencodes]
    rfl

/-- An encoder that returns as many units as a counter of 32 bits can count, and one more. -/
theorem receiver_may_panic (h : setup.Agreed) (hchecks : setup.clientChecks = true)
    (htogether : TestTogether setup session) (hfresh : Fresh setup session)
    (hsome : session.server.world.handlers ≠ []) {first : Receiving} {others : List Receiving}
    (hreceivers : session.client.world.receivers = first :: others)
    (hdisplay : first.receiver = .display) :
    ∃ later run, Relation.ReflTransGen (TestStep setup) session later ∧
      later.client = { session.client with world.receivers := ⟨.display, 0, run⟩ :: others } ∧
      run.outcome = some (.error additionPanic) := by
  have hsizes : ∀ nal ∈ List.replicate (2 ^ 32) ([0x65] : List UInt8),
      nal.length ≤ maxNalLength := by
    intro nal hnal
    rw [List.eq_of_mem_replicate hnal]
    decide
  obtain ⟨middle, hsteps, hclient, hended, hframes⟩ :=
    sender_writes h htogether hfresh hsome hsizes
  have hshown := filled_shownPictures (firstOnly (List.replicate (2 ^ 32) ([0x65] : List UInt8)))
  have hunits := unitsOf_firstOnly (List.replicate (2 ^ 32) ([0x65] : List UInt8))
  have hcount : (unitsOf (shownPictures (firstOnly (List.replicate (2 ^ 32)
      ([0x65] : List UInt8))))).length = 2 ^ 32 := by
    rw [hunits, List.length_replicate]
  rw [← hunits] at hsizes
  have hfit := displayFrames_fit hsizes
  obtain ⟨final, hpanic, hfinal⟩ := receiver_panics hfit
    (length_wire_displayFrames hshown hsizes (length_shownPictures_le _) hcount.le)
    ⟨.frameSlice, ((countOf_displayFrames hshown hsizes .frameSlice).trans hcount).ge⟩
    setup.dumpPath [] []
  rw [← hchecks] at hfinal
  obtain ⟨later, run, hsteps', hclient', houtcome⟩ := receiver_runs
    (by rw [hclient, hreceivers, hfresh.receiver h htogether hreceivers hdisplay])
    hframes hended (fun frame hframe => (hfit frame hframe).2) hfinal
  refine ⟨later, run, hsteps.trans hsteps', ?_, houtcome.trans hpanic⟩
  rw [hclient', hclient]

/-- The panic is passed on to the client that awaits the receiver. -/
theorem client_may_fail (h : setup.Agreed) (hchecks : setup.clientChecks = true)
    (htogether : TestTogether setup session) (hfresh : Fresh setup session)
    (hsome : session.server.world.handlers ≠ []) {first : Receiving} {others : List Receiving}
    (hreceivers : session.client.world.receivers = first :: others)
    (hdisplay : first.receiver = .display)
    {next : Except Error Unit → TestClient.ClientProg Unit} {error : Error}
    (hprogram : session.client.program = .ask (.join .display) next)
    (hnext : next (.error additionPanic) = .fail error) :
    ∃ later, Relation.ReflTransGen (TestStep setup) session later ∧
      later.client.outcome = some (.error error) := by
  obtain ⟨later, run, hsteps, hclient, houtcome⟩ :=
    receiver_may_panic h hchecks htogether hfresh hsome hreceivers hdisplay
  have hanswer : (setup.clientEnv later.incoming).answer later.client.world (.join .display) [] =
      some (.error additionPanic, later.client.world) := by
    rw [hclient]
    simp [TestSetup.clientEnv, clientEnv, houtcome]
  have hwaits : later.client.program = .ask (.join .display) next := by
    rw [hclient]
    exact hprogram
  obtain ⟨client, hjoins, hfails⟩ : ∃ client,
      (setup.clientEnv later.incoming).advance later.client [] = some client ∧
        client.outcome = some (.error error) := by
    simp only [Env.advance, hwaits, hanswer, Option.map_some, hnext]
    exact ⟨_, rfl, rfl⟩
  refine ⟨{ server := { later.server with world := later.opened setup }, client },
    hsteps.tail ⟨.client [], ?_⟩, hfails⟩
  simp only [TestSession.step, hjoins, Option.bind_eq_bind, Option.bind_some]
  rfl

end Panics

end OpenRD.Session
