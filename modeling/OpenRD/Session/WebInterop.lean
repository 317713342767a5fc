import OpenRD.Session.WebRuns

/-!
# The web client against the server

After the `AuthResult` the server announces its own channels before it reads the client's
request, and the client takes the next frame for the answer to it.  So every session with
the right PIN goes the same way, and in none of them does the client take the answer.
-/

namespace OpenRD.Session

open OpenRD.Foundation OpenRD.Proto OpenRD.Server

/-! ## What has reached the client's reader -/

/-- The reader has returned all `frames` but `left`, and holds what was delivered since. -/
def Arrived (frames : List SentFrame) (sent : List UInt8) (left : List SentFrame)
    (world : WebWorld) : Prop :=
  ∃ read, frames = read ++ left ∧
    wire read ++ world.reader.contents = sent.take world.delivered ∧
    world.delivered ≤ sent.length

section Arrived

variable {frames left : List SentFrame} {sent sent' : List UInt8} {world : WebWorld}

theorem Arrived.mono (h : Arrived frames sent left world) (hsent : sent <+: sent') :
    Arrived frames sent' left world := by
  obtain ⟨read, hframes, hcontents, hdelivered⟩ := h
  obtain ⟨rest, rfl⟩ := hsent
  refine ⟨read, hframes, ?_, hdelivered.trans (by simp)⟩
  rw [hcontents, List.take_append_of_le_length hdelivered]

theorem frameInBuf_bytes (frame : SentFrame) (hfits : frame.2.length ≤ maxFrameLength)
    (rest : List UInt8) :
    Web.FrameReader.frameInBuf (frame.bytes ++ rest) =
      some (⟨0, frame.1, frame.2⟩, rest) := by
  have hframe := frameInBuf_of_parse (Frame.parse_encode_append frame.1 hfits rest)
  rw [List.drop_left] at hframe
  exact hframe

theorem Arrived.next (h : Arrived frames sent left world) (hsent : sent <+: wire frames)
    (hfits : ∀ frame ∈ frames, frame.2.length ≤ maxFrameLength) {received : Web.Frame}
    {reader : Web.FrameReader}
    (hnext : world.reader.next = (.ok (some received), reader)) :
    ∃ frame left', left = frame :: left' ∧ received = ⟨0, frame.1, frame.2⟩ ∧
      Arrived frames sent left' { world with reader } := by
  obtain ⟨read, rfl, hcontents, hdelivered⟩ := h
  have hfront : world.reader.contents <+: wire left :=
    prefix_rest hsent (hcontents ▸ List.take_prefix _ _) (wire_append read left)
  obtain ⟨more, hmore⟩ := hfront
  cases hbuf : Web.FrameReader.frameInBuf world.reader.contents with
  | none =>
      obtain ⟨rest, hrest⟩ := Web.FrameReader.next_of_none hbuf
      rw [hrest] at hnext
      cases hnext
  | some found =>
      obtain ⟨frame', rest⟩ := found
      obtain ⟨reader', hreader, hleft⟩ := Web.FrameReader.next_of_some hbuf
      cases hreader.symm.trans hnext
      have hwhole := Web.FrameReader.frameInBuf_append hbuf more
      rw [hmore] at hwhole
      cases left with
      | nil => cases hwhole
      | cons frame left' =>
          rw [wire_cons, frameInBuf_bytes frame (hfits frame (by simp))] at hwhole
          obtain ⟨rfl, hleft'⟩ := Prod.mk.inj (Option.some.inj hwhole)
          refine ⟨frame, left', rfl, rfl, read ++ [frame], by simp, ?_, hdelivered⟩
          have hcut : world.reader.contents = frame.bytes ++ rest := by
            rw [wire_cons, hleft', ← List.append_assoc] at hmore
            exact List.append_cancel_right hmore
          rw [← hcontents, hcut, wire_append, wire_cons, wire_nil, List.append_nil,
            List.append_assoc, hleft]

theorem Arrived.deliver {session : WebSession}
    (h : Arrived frames session.sent left session.client.world) (count : Nat) :
    Arrived frames session.sent left (session.deliver count).client.world := by
  obtain ⟨read, hframes, hcontents, hdelivered⟩ := h
  have hreader : (session.deliver count).client.world.reader.contents =
      session.client.world.reader.contents ++
        (session.sent.drop session.client.world.delivered).take count := by
    simp [WebSession.deliver, Web.FrameReader.contents]
  refine ⟨read, hframes, ?_, ?_⟩
  · rw [hreader, ← List.append_assoc, hcontents]
    simp only [WebSession.deliver, List.length_take, List.length_drop]
    rw [List.take_add, ← List.length_drop, ← List.take_eq_take_min]
  · simp only [WebSession.deliver, List.length_take, List.length_drop]
    omega

end Arrived

/-! ## Both sides keep to their reference runs -/

variable {server : ServerConfig} {textToInt32 : List UInt8 → Int} {stack : Nat}
  {cuts : List Nat} {session next : WebSession}

/-- Both sides are where their reference runs have been. -/
structure Together (h : WebExchange server) (textToInt32 : List UInt8 → Int) (stack : Nat)
    (cuts : List Nat) (session : WebSession) : Prop where
  control : session.server.Follows referenceEnv
    (referenceEnv.settle (handleControlStream server) [] (h.reference cuts)) (Agrees [] [])
  client : session.client.Follows webReferenceEnv
    (webReferenceEnv.settle (Web.connect textToInt32 stack server.expectedPin) [] h.replies)
    (Arrived h.replies session.sent)

namespace Together

variable {h : WebExchange server}

theorem start (h : WebExchange server) (textToInt32 : List UInt8 → Int) (stack : Nat)
    (cuts : List Nat) : Together h textToInt32 stack cuts
      (.start server textToInt32 stack server.expectedPin cuts) := by
  have hcontrol : (⟨webControl server.expectedPin, cuts, none⟩ : RecvStream) =
      (h.reference cuts).control := by
    rw [webControl_eq]
    rfl
  refine ⟨follows_settle (fun _ _ output hagrees => hagrees.perform output) ?_, ?_⟩
  · exact ⟨hcontrol, rfl, rfl, rfl⟩
  · have harrived : Arrived h.replies
        (WebSession.start server textToInt32 stack server.expectedPin cuts).sent h.replies
        ⟨⟨[], []⟩, 0⟩ := ⟨[], rfl, rfl, Nat.zero_le _⟩
    exact follows_settle (fun _ _ _ harrived => harrived) harrived

/-- The Control task never gets past waiting for the Input stream. -/
theorem server_history (htogether : Together h textToInt32 stack cuts session) :
    session.server.history <+: h.events ∧ session.server.outcome = none := by
  obtain ⟨rest, reference, hleads, huni⟩ := h.leads_accepting cuts
  have hstops : referenceEnv.advance
      (referenceEnv.settle (Control.acceptUni >>= rest) ([] ++ h.events) reference) () =
        none := by
    change Option.map _ (referenceEnv.answer reference .acceptUni ()) = none
    simp only [referenceEnv, huni, Option.map_none]
  refine ⟨htogether.control.prefix_history (hleads.reaches []) hstops, ?_⟩
  cases houtcome : session.server.outcome with
  | none => rfl
  | some result =>
      have hended := (htogether.control.ended (hleads.reaches []) hstops houtcome).1
      cases hended

theorem prefix_sent (htogether : Together h textToInt32 stack cuts session) :
    session.sent <+: wire h.replies :=
  prefix_wire (prefix_controlFrames htogether.server_history.1)

theorem client_final (h : WebExchange server) (textToInt32 : List UInt8 → Int) {stack : Nat}
    (hstack : 4 ≤ stack) :
    webReferenceEnv.Reaches
      (webReferenceEnv.settle (Web.connect textToInt32 stack server.expectedPin) []
        h.replies)
      ⟨.fail .returned, h.clientEvents, h.replies.drop 3⟩ :=
  (h.leads_refusal textToInt32 hstack).reaches []

theorem client_history (htogether : Together h textToInt32 stack cuts session)
    (hstack : 4 ≤ stack) : session.client.history <+: h.clientEvents :=
  htogether.client.prefix_history (client_final h textToInt32 hstack) rfl

/-- It never gets to opening the Input stream. -/
theorem opened_eq (htogether : Together h textToInt32 stack cuts session)
    (hstack : 4 ≤ stack) (cuts' : List Nat) : session.opened cuts' = session.server.world := by
  obtain ⟨state, hreaches, htracks⟩ := htogether.client
  have hfinal := hreaches.to_final (client_final h textToInt32 hstack) rfl
  unfold WebSession.opened
  split
  · next hprogram =>
      rcases hfinal.asked (htracks.program.symm.trans hprogram) with rfl | ⟨answer, hasked⟩
      · cases htracks.program.symm.trans hprogram
      · simp [WebExchange.clientEvents, WebExchange.helloSent, WebExchange.authSent,
          WebExchange.refused, webWrite, webNext, webLog] at hasked
  · rfl

theorem advance_control (htogether : Together h textToInt32 stack cuts session)
    {server' : State}
    (hnext : (controlEnv server).advance session.server none = some server') :
    Together h textToInt32 stack cuts { session with server := server' } := by
  obtain ⟨state, hreaches, htracks⟩ := htogether.client
  have hsent : session.sent <+: wire (controlFrames server'.history) :=
    prefix_wire (prefix_controlFrames (Env.prefix_advance hnext))
  refine ⟨?_, state, hreaches, htracks.mono fun _ _ harrived => harrived.mono hsent⟩
  exact htogether.control.advance hnext (fun _ _ output hagrees => hagrees.perform output)
    fun _ _ _ _ _ _ htracks _ hanswer => htracks.world.answer hanswer

theorem step_handler (htogether : Together h textToInt32 stack cuts session) {index : Nat}
    {choice : HandlerChoice} {world : World}
    (hworld : session.server.world.stepHandler index choice = some world) :
    Together h textToInt32 stack cuts { session with server.world := world } := by
  obtain ⟨state, hreaches, htracks⟩ := htogether.control
  exact ⟨⟨state, hreaches, htracks.program, htracks.history,
    htracks.world.stepHandler hworld⟩, htogether.client⟩

theorem deliver (htogether : Together h textToInt32 stack cuts session) (count : Nat) :
    Together h textToInt32 stack cuts (session.deliver count) := by
  obtain ⟨state, hreaches, htracks⟩ := htogether.client
  exact ⟨htogether.control, state, hreaches, htracks.program, htracks.history,
    htracks.world.deliver count⟩

theorem advance_client (htogether : Together h textToInt32 stack cuts session)
    {client : WebRun}
    (hnext : (webEnv session.ended).advance session.client () = some client) :
    Together h textToInt32 stack cuts { session with client } := by
  have hended : session.ended = false := by
    rw [WebSession.ended, htogether.server_history.2]
    rfl
  rw [hended] at hnext
  refine ⟨htogether.control, htogether.client.advance hnext (fun _ _ _ => id) ?_⟩
  intro state question next answer world hreaches htracks _ hanswer
  cases question with
  | next =>
      simp only [webEnv, Bool.false_eq_true, if_false] at hanswer
      split at hanswer
      · next received reader hread =>
          obtain ⟨frame, left, hleft, rfl, harrived⟩ :=
            htracks.world.next htogether.prefix_sent h.replies_fit hread
          cases hanswer
          exact ⟨left, by simp only [webReferenceEnv, hleft], harrived⟩
      · cases hanswer
  | _ =>
      cases hanswer
      exact ⟨_, rfl, htracks.world⟩

theorem step (htogether : Together h textToInt32 stack cuts session) (hstack : 4 ≤ stack)
    {action : WebAction}
    (hstep : session.step server server.expectedPin action = some next) :
    Together h textToInt32 stack cuts next := by
  cases action with
  | control =>
      simp only [WebSession.step, Option.bind_eq_bind, Option.bind_eq_some_iff,
        Option.ite_none_right_eq_some, Option.pure_def, Option.some.injEq] at hstep
      obtain ⟨server', hadvance, -, rfl⟩ := hstep
      exact htogether.advance_control hadvance
  | handler index choice =>
      simp only [WebSession.step, Option.bind_eq_bind, Option.bind_eq_some_iff,
        Option.ite_none_right_eq_some, Option.pure_def, Option.some.injEq] at hstep
      obtain ⟨spawned, -, run, -, -, world, hworld, rfl⟩ := hstep
      exact htogether.step_handler hworld
  | deliver count =>
      cases hstep
      exact htogether.deliver count
  | client cuts' =>
      simp only [WebSession.step, Option.bind_eq_bind, Option.bind_eq_some_iff,
        Option.pure_def, Option.some.injEq] at hstep
      obtain ⟨client, hadvance, rfl⟩ := hstep
      rw [htogether.opened_eq hstack]
      exact htogether.advance_client hadvance

end Together

theorem together_of_reachable (h : WebExchange server) (hstack : 4 ≤ stack)
    (hreachable : WebReachable server textToInt32 stack server.expectedPin cuts session) :
    Together h textToInt32 stack cuts session := by
  obtain ⟨actions, hrun⟩ := hreachable
  exact invariant_of_run (Together h textToInt32 stack cuts)
    (fun _ _ _ htogether hstep => htogether.step hstack hstep) (.start h textToInt32 stack cuts)
    hrun

end OpenRD.Session
