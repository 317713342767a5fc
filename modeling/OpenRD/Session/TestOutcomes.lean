import OpenRD.Session.TestJoins

/-!
# How a session of the test client goes

In every session with a server whose PIN it presents, the client does the one thing it was
written to do, unless its Display receiver panics.
-/

namespace OpenRD.Session

open OpenRD.Foundation OpenRD.Proto OpenRD.Server
open OpenRD.TestClient (Receiver)

/-! ## What the receivers are passed -/

/-- The server's stream is this channel's: no other task writes on it. -/
structure TestSession.CarriesChannel (session : TestSession) (channel : ServerChannel)
    (stream : Nat) : Prop where
  writers : ∀ spawned ∈ session.server.world.handlers,
    taskPushed spawned.task = some stream ↔ ∃ other, spawned.task = channel.task other
  holds : session.pushedFrames stream <+: [openingOf channel] ∨
    ∃ spawned ∈ session.server.world.handlers, spawned.task = channel.task stream ∧
      session.pushedFrames stream = openingOf channel :: framesWritten spawned.run.history

section Passed

variable {setup : TestSetup} {session : TestSession} {channel : ServerChannel} {stream : Nat}

theorem serverChannel_eq_some (h : serverChannel stream = some channel) :
    (stream = 0 ∧ channel = displayChannel) ∨ (stream = 1 ∧ channel = cursorChannel) := by
  unfold serverChannel at h
  split at h <;> cases h
  · exact .inl ⟨rfl, rfl⟩
  · exact .inr ⟨rfl, rfl⟩

theorem TestTogether.writers (h : setup.Agreed) (htogether : TestTogether setup session)
    (hchannel : serverChannel stream = some channel) :
    ∀ spawned ∈ session.server.world.handlers,
      taskPushed spawned.task = some stream ↔ ∃ other, spawned.task = channel.task other := by
  intro spawned hmem
  have htask := htogether.server.task_mem h hmem
  simp only [TestSetup.tasks, List.mem_cons, List.not_mem_nil, or_false] at htask
  rcases serverChannel_eq_some hchannel with ⟨rfl, rfl⟩ | ⟨rfl, rfl⟩ <;>
    rcases htask with htask | htask | htask | htask | htask | htask <;>
      simp [htask, taskPushed, displayChannel, cursorChannel]

theorem TestTogether.carriesChannel (h : setup.Agreed) (htogether : TestTogether setup session)
    (hchannel : serverChannel stream = some channel) :
    session.CarriesChannel channel stream := by
  refine ⟨htogether.writers h hchannel, ?_⟩
  cases hfound : session.server.world.handlerOf stream with
  | none =>
      have hopening := htogether.server.openingFrames_prefix h stream
      rw [hchannel] at hopening
      rw [TestSession.pushedFrames, hfound, framesOf, List.append_nil]
      exact .inl hopening
  | some spawned =>
      obtain ⟨channel', hchannel', htask, hopening⟩ := htogether.server.opened h hfound
      cases hchannel.symm.trans hchannel'
      refine .inr ⟨spawned, (handlerOf_some hfound).1, htask, ?_⟩
      rw [TestSession.pushedFrames, hfound, hopening]
      rfl

end Passed

/-! ## On a server of the library's own encoding -/

theorem length_authRequest_le {pin : String} (h : (asBytes pin).length ≤ 2 ^ 16) :
    (CborWire.encode (TestClient.authRequest "pin" (asBytes pin))).length ≤ maxFrameLength := by
  have hsplit : CborWire.encode (TestClient.authRequest "pin" (asBytes pin)) =
      [0xA2, 0x01, 0x63, 0x70, 0x69, 0x6E, 0x02] ++
        (CborWire.encodeHead 2 (asBytes pin).length ++ asBytes pin) := by
    rw [← List.append_nil (_ ++ asBytes pin)]
    rfl
  have hhead : CborWire.headSize (asBytes pin).length ≤ 9 := by
    unfold CborWire.headSize
    split_ifs <;> omega
  rw [hsplit, List.length_append, List.length_append, CborWire.length_encodeHead]
  simp only [List.length_cons, List.length_nil, maxFrameLength]
  omega

theorem testExchange_loopback {pin : String} (h : (asBytes pin).length ≤ 2 ^ 16) :
    TestExchange (loopbackServer pin) := by
  have hsame : clientValues (loopbackServer pin) ++ serverValues (loopbackServer pin) =
      (clientValues (loopbackServer "")).take 1 ++
        TestClient.authRequest "pin" (asBytes pin) ::
          ((clientValues (loopbackServer "")).drop 2 ++ serverValues (loopbackServer "")) := rfl
  have hfits : ∀ value ∈ clientValues (loopbackServer "") ++ serverValues (loopbackServer ""),
      (CborWire.encode value).length ≤ maxFrameLength := by
    decide +kernel
  intro value hvalue
  refine carries_rfc8949 ?_
  rw [hsame] at hvalue
  rcases List.mem_append.mp hvalue with hfirst | hvalue
  · exact hfits value (List.mem_append_left _ (List.mem_of_mem_take hfirst))
  · rcases List.mem_cons.mp hvalue with rfl | hvalue
    · exact length_authRequest_le h
    · rcases List.mem_append.mp hvalue with hlater | hserver
      · exact hfits value (List.mem_append_left _ (List.mem_of_mem_drop hlater))
      · exact hfits value (List.mem_append_right _ hserver)

/-- A client that presents `pin` to a server that expects it. -/
def loopbackSetup (pin : String) (clientChecks : Bool) : TestSetup where
  server := loopbackServer pin
  pin
  dumpPath := "/tmp/openrd-display.h264"
  clientChecks
  cuts _ := []

theorem loopbackSetup_agreed {pin : String} (h : (asBytes pin).length ≤ 2 ^ 16)
    (clientChecks : Bool) : (loopbackSetup pin clientChecks).Agreed :=
  ⟨rfl, testExchange_loopback h⟩

/-! ## A session up to the joins -/

/-- The client waits for its Display receiver, and would pass on its panic. -/
def TestSession.awaitsDisplay (session : TestSession) : Bool :=
  match session.client.program with
  | .ask (.join .display) next =>
      match next (.error additionPanic) with
      | .fail error => error == additionPanic
      | _ => false
  | _ => false

theorem TestSession.of_awaitsDisplay {session : TestSession}
    (h : session.awaitsDisplay = true) :
    ∃ next, session.client.program = .ask (.join .display) next ∧
      next (.error additionPanic) = .fail additionPanic := by
  unfold awaitsDisplay at h
  split at h
  · next next hprogram =>
      split at h
      · next error hnext => exact ⟨next, hprogram, by rw [hnext, beq_iff_eq.mp h]⟩
      · cases h
  · cases h

/-- Its receivers and the server's handlers are there, and nothing has been encoded. -/
def TestSession.beforeVideo (session : TestSession) : Bool :=
  session.encodedUnits.isEmpty && !session.server.world.handlers.isEmpty &&
    session.client.world.receivers.head?.map Receiving.receiver == some .display

/-- Steps of the client (0), of the Control task (1) and of the handlers from the second on. -/
def upToJoins : List TestAction :=
  [(0, 1), (1, 2), (0, 2), (1, 2), (0, 1), (1, 1), (0, 1), (1, 3), (0, 2), (1, 1), (0, 2),
    (1, 4), (0, 7), (1, 4), (0, 4), (1, 2), (2, 8), (3, 5), (0, 4), (1, 2), (0, 4), (1, 2),
    (3, 5), (4, 5), (0, 4), (1, 2), (0, 4), (1, 2), (4, 5), (5, 5), (0, 4), (1, 1),
    (5, 5)].flatMap fun (party, count) =>
      List.replicate count <| match party with
        | 0 => .client []
        | 1 => .control
        | index => .handler index default

theorem exists_upToJoins :
    ∃ session, upToJoins.foldlM (TestSession.step (loopbackSetup "493817026" true))
        (.start (loopbackSetup "493817026" true)) = some session ∧
      session.awaitsDisplay = true ∧ session.beforeVideo = true := by
  have hruns : (upToJoins.foldlM (TestSession.step (loopbackSetup "493817026" true))
      (.start (loopbackSetup "493817026" true))).any
        (fun session => session.awaitsDisplay && session.beforeVideo) = true := by
    decide +kernel
  obtain ⟨session, hrun, hthere⟩ := Option.any_eq_true _ _ |>.mp hruns
  exact ⟨session, hrun, Bool.and_eq_true_iff.mp hthere⟩

/-! ## Every session -/

structure TestSession.GoesWell (setup : TestSetup) (session : TestSession) : Prop where
  /-- The client does not end in an error. -/
  outcome : ∀ result, session.client.outcome = some result → result = .ok ()
  /-- It has sent and received no other than its messages and the answers to them. -/
  history : session.client.history <+: setup.clientEvents
  /-- Whatever it waits for before it joins its receivers, the server can give it. -/
  arrives : ∀ question next, session.client.program = .ask question next →
    (∀ receiver, question ≠ .join receiver) →
    ∃ later, Relation.ReflTransGen (ServerStep setup) session later ∧
      later.client = session.client ∧
      ∀ cuts, ∃ after, later.step setup (.client cuts) = some after
  display : ∀ receiving ∈ session.client.world.receivers, receiving.receiver = .display →
    session.CarriesChannel displayChannel receiving.stream ∧
      ∃ shown, session.pushedFrames receiving.stream <+: displayFrames shown
  cursor : ∀ receiving ∈ session.client.world.receivers, receiving.receiver = .cursor →
    session.CarriesChannel cursorChannel receiving.stream ∧
      session.pushedFrames receiving.stream <+: cursorFrames

/--
With a server whose PIN it presents, and an encoder whose units its counters can count in a
build that checks additions, the client takes no error exit in any order of steps, and each
receiver is passed the stream of its channel.
-/
theorem testClient_goesWell {setup : TestSetup} {session : TestSession} (h : setup.Agreed)
    (hreachable : TestReachable setup session)
    (hcounts : setup.clientChecks = true → session.encodedUnits.length < 2 ^ 32) :
    session.GoesWell setup := by
  have htogether := TestTogether.of_reachable h hreachable hcounts
  have hstream {receiving : Receiving} (hmem : receiving ∈ session.client.world.receivers) :=
    htogether.receiver_stream h hmem
  refine ⟨fun _ => htogether.client_outcome h, htogether.client_history h,
    fun _ _ => htogether.client_goes_on h, fun receiving hmem hreceiver => ?_,
    fun receiving hmem hreceiver => ?_⟩
  · rcases hstream hmem with ⟨-, hstream⟩ | ⟨hcursor, -⟩
    · obtain ⟨shown, hshown, -⟩ := htogether.server.pushed_display h
      rw [hstream]
      exact ⟨htogether.carriesChannel h rfl, shown, hshown⟩
    · cases hreceiver.symm.trans hcursor
  · rcases hstream hmem with ⟨hdisplay, -⟩ | ⟨-, hstream⟩
    · cases hreceiver.symm.trans hdisplay
    · rw [hstream]
      exact ⟨htogether.carriesChannel h rfl, htogether.server.pushed_cursor h⟩

theorem testClient_goesWell_upToJoins :
    (loopbackSetup "493817026" true).Agreed ∧
      ∃ session, TestReachable (loopbackSetup "493817026" true) session ∧
        session.awaitsDisplay = true ∧ session.GoesWell (loopbackSetup "493817026" true) := by
  have hagreed := @loopbackSetup_agreed "493817026" (by decide +kernel) true
  obtain ⟨session, hrun, hawaits, hbefore⟩ := exists_upToJoins
  simp only [TestSession.beforeVideo, Bool.and_eq_true, List.isEmpty_iff] at hbefore
  refine ⟨hagreed, session, ⟨_, hrun⟩, hawaits, ?_⟩
  refine testClient_goesWell hagreed ⟨_, hrun⟩ fun _ => ?_
  rw [hbefore.1.1]
  decide

/-- The encoder returns as many units as the receiver can count, and one more. -/
theorem client_fails_with_receiver :
    (loopbackSetup "493817026" true).Agreed ∧
      ∃ session, TestReachable (loopbackSetup "493817026" true) session ∧
        session.client.outcome = some (.error additionPanic) := by
  have hagreed := @loopbackSetup_agreed "493817026" (by decide +kernel) true
  obtain ⟨session, hrun, hawaits, hbefore⟩ := exists_upToJoins
  simp only [TestSession.beforeVideo, Bool.and_eq_true, List.isEmpty_iff, Bool.not_eq_true',
    List.isEmpty_eq_false_iff, beq_iff_eq, Option.map_eq_some_iff] at hbefore
  obtain ⟨⟨hunits, hhandlers⟩, first, hfirst, hdisplay⟩ := hbefore
  obtain ⟨others, hreceivers⟩ := List.head?_eq_some_iff.mp hfirst
  have hreachable : TestReachable (loopbackSetup "493817026" true) session := ⟨_, hrun⟩
  have htogether := TestTogether.of_reachable hagreed hreachable (by
    intro _
    rw [hunits]
    decide)
  have hfresh := Fresh.start.of_run (by decide +kernel) hrun
  obtain ⟨next, hprogram, hnext⟩ := session.of_awaitsDisplay hawaits
  obtain ⟨later, hsteps, houtcome⟩ := client_may_fail hagreed rfl htogether hfresh hhandlers
    hreceivers hdisplay hprogram hnext
  exact ⟨hagreed, later, hreachable.trans hsteps, houtcome⟩

end OpenRD.Session
