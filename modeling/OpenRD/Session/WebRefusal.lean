import OpenRD.Session.WebInterop

/-!
# A run in which the web client gives up

Whatever the server's configuration, the two sides can take turns: each writes, the
other reads all of it.  After two exchanges the client has the two announcements before
the answer to its request.
-/

namespace OpenRD.Session

open OpenRD.Foundation OpenRD.Proto OpenRD.Server

variable {server : ServerConfig} {pin : String} {session session' session'' : WebSession}

namespace WebSession

def Runs (server : ServerConfig) (pin : String) (session session' : WebSession) : Prop :=
  ∃ actions : List WebAction, actions.foldlM (step server pin) session = some session'

theorem Runs.refl (session : WebSession) : session.Runs server pin session := ⟨[], rfl⟩

theorem Runs.trans (h : session.Runs server pin session')
    (h' : session'.Runs server pin session'') : session.Runs server pin session'' := by
  obtain ⟨actions, hrun⟩ := h
  obtain ⟨actions', hrun'⟩ := h'
  exact ⟨actions ++ actions', by
    rw [List.foldlM_append, hrun, Option.bind_eq_bind, Option.bind_some, hrun']⟩

theorem Runs.step {action : WebAction} (h : session.step server pin action = some session')
    (h' : session'.Runs server pin session'') : session.Runs server pin session'' := by
  obtain ⟨actions, hrun⟩ := h'
  exact ⟨action :: actions, by
    rw [List.foldlM_cons, h, Option.bind_eq_bind, Option.bind_some, hrun]⟩

/-! ## The server's turn -/

/-- What the client has yet to write on the Control stream. -/
def unsent (pin : String) (session : WebSession) : Nat :=
  (webControl pin).length - (webWritten session.client.history).length

/-- The server goes on as long as it reads no further than the client has written. -/
theorem runs_server
    {state state' : Running Request Request.Answer Output Reference Error Unit}
    (hreaches : referenceEnv.Reaches state state')
    (hjoins : ∀ handle answer, .asked (.join handle) answer ∉ state'.history)
    (hunsent : session.unsent pin ≤ state'.world.control.items.length)
    (hsome : 0 < session.unsent pin) (htracks : state.Tracks (Agrees [] []) session.server) :
    ∃ session', session.Runs server pin session' ∧ session'.client = session.client ∧
      state'.Tracks (Agrees [] []) session'.server := by
  induction hreaches using Relation.ReflTransGen.head_induction_on generalizing session with
  | refl => exact ⟨session, .refl session, rfl, htracks⟩
  | @head state next hnext hrest ih =>
      have hleft := control_suffix hrest
      have hanswers : ∀ question after answer v,
          state.program = .ask question after →
          referenceEnv.answer state.world question () = some (answer, v) →
          ∃ w, (controlEnv server).answer session.server.world question none =
            some (answer, w) ∧ Agrees [] [] v w := by
        intro question after answer v hprogram hanswer
        refine htracks.world.answered (fun handle hjoin => ?_) hanswer
        subst hjoin
        obtain ⟨answer, hasked⟩ := Env.asked_of_advance hnext hprogram
        have hinitial : next.history <+: state'.history := Env.Reaches.prefix_history hrest
        exact hjoins handle answer (hinitial.subset hasked)
      obtain ⟨server', hadvance, htracks'⟩ := htracks.follow hnext none
        (fun _ _ output hagrees => hagrees.perform output) hanswers
      have hreads : session.ReadsControl pin server' := by
        refine ⟨?_, fun _ hnil => ?_⟩
        · rw [htracks'.world.control]
          exact hunsent.trans hleft.length_le
        · have hall := hleft.trans (control_suffix (.single hnext))
          rw [← htracks.world.control, hnil] at hall
          have := hall.length_le
          simp only [List.length_nil] at this
          omega
      have hstep : session.step server pin .control =
          some { session with server := server' } := by
        simp only [step, hadvance, Option.bind_eq_bind, Option.bind_some, if_pos hreads,
          Option.pure_def]
      obtain ⟨final, hruns, hsame, hfinal⟩ :=
        @ih ⟨server', session.client⟩ hunsent hsome htracks'
      exact ⟨final, .step hstep hruns, hsame, hfinal⟩

end WebSession

/-! ## The client's turn -/

/-- The reader holds `frames` of the `delivered` bytes, and nothing else. -/
structure Holding (delivered : Nat) (frames : List SentFrame) (world : WebWorld) : Prop where
  delivered : world.delivered = delivered
  contents : world.reader.contents = wire frames
  fits : ∀ frame ∈ frames, frame.2.length ≤ maxFrameLength

theorem Holding.answered {delivered : Nat} {frames frames' : List SentFrame}
    {world : WebWorld} {ended : Bool} {question : Web.Request} {answer : question.Answer}
    (h : Holding delivered frames world)
    (hanswer : webReferenceEnv.answer frames question () = some (answer, frames')) :
    ∃ world', (webEnv ended).answer world question () = some (answer, world') ∧
      Holding delivered frames' world' := by
  cases question with
  | next =>
      cases frames with
      | nil => cases hanswer
      | cons frame rest =>
          have hfits := h.fits frame (by simp)
          have hbuf := frameInBuf_bytes frame hfits (wire rest)
          rw [← wire_cons, ← h.contents] at hbuf
          obtain ⟨reader, hnext, hrest⟩ := Web.FrameReader.next_of_some hbuf
          cases hanswer
          refine ⟨{ world with reader }, ?_, h.delivered, hrest, ?_⟩
          · simp only [webEnv, hnext]
          · exact fun frame hmem => h.fits frame (List.mem_cons_of_mem _ hmem)
  | _ =>
      cases hanswer
      exact ⟨_, rfl, h⟩

namespace WebSession

/-- The client goes on as long as it has the frames, and opens no stream. -/
theorem runs_client {delivered : Nat}
    {state state' : Running Web.Request Web.Request.Answer Web.Output (List SentFrame)
      Web.Stop Unit}
    (hreaches : webReferenceEnv.Reaches state state')
    (hopens : ∀ answer, .asked .createUnidirectionalStream answer ∉ state'.history)
    (htracks : state.Tracks (Holding delivered) session.client) :
    ∃ session', session.Runs server pin session' ∧ session'.server = session.server ∧
      state'.Tracks (Holding delivered) session'.client := by
  induction hreaches using Relation.ReflTransGen.head_induction_on generalizing session with
  | refl => exact ⟨session, .refl session, rfl, htracks⟩
  | @head state next hnext hrest ih =>
      have hanswers : ∀ question after answer v,
          state.program = .ask question after →
          webReferenceEnv.answer state.world question () = some (answer, v) →
          ∃ w, (webEnv session.ended).answer session.client.world question () =
            some (answer, w) ∧ Holding delivered v w :=
        fun _ _ _ _ _ hanswer => htracks.world.answered hanswer
      have hperform : ∀ frames world output, Holding delivered frames world →
          Holding delivered (webReferenceEnv.perform frames output)
            ((webEnv session.ended).perform world output) := fun _ _ _ hholding => hholding
      obtain ⟨client', hadvance, htracks'⟩ := htracks.follow hnext () hperform hanswers
      have hopened : session.opened [] = session.server.world := by
        unfold opened
        split
        · next hprogram =>
            obtain ⟨answer, hasked⟩ := Env.asked_of_advance hnext
              (htracks.program.symm.trans hprogram)
            have hinitial : next.history <+: state'.history :=
              Env.Reaches.prefix_history hrest
            exact absurd (hinitial.subset hasked) (hopens answer)
        · rfl
      have hstep : session.step server pin (.client []) =
          some { session with client := client' } := by
        simp only [step, hadvance, hopened, Option.bind_eq_bind, Option.bind_some,
          Option.pure_def]
      obtain ⟨final, hruns, hsame, hfinal⟩ := @ih ⟨session.server, client'⟩ htracks'
      exact ⟨final, .step hstep hruns, hsame, hfinal⟩

/-- Everything the server has written since arrives at once. -/
theorem runs_deliver
    {program : Web.ClientProg Unit} {history : List Web.ClientEvent}
    {frames more : List SentFrame}
    (hsent : session.sent = wire (frames ++ more))
    (hfits : ∀ frame ∈ more, frame.2.length ≤ maxFrameLength)
    (htracks : Running.Tracks (Holding (wire frames).length) ⟨program, history, []⟩
      session.client) :
    ∃ session', session.Runs server pin session' ∧ session'.server = session.server ∧
      Running.Tracks (Holding (wire (frames ++ more)).length) ⟨program, history, more⟩
        session'.client := by
  obtain ⟨hprogram, hhistory, hdelivered, hcontents, -⟩ := htracks
  have hrest : session.sent.drop session.client.world.delivered = wire more := by
    rw [hsent, hdelivered, wire_append, List.drop_left]
  refine ⟨session.deliver (wire more).length, ⟨[.deliver _], rfl⟩, rfl, hprogram,
    hhistory, ?_, ?_, hfits⟩
  · simp only [deliver, hrest, List.take_length]
    rw [hdelivered, wire_append, List.length_append]
  · simp only [deliver, hrest, List.take_length, Web.FrameReader.contents,
      List.flatten_append, List.flatten_cons, List.flatten_nil, List.append_nil,
      ← List.append_assoc]
    rw [Web.FrameReader.contents, wire_nil] at hcontents
    rw [hcontents, List.nil_append]

end WebSession

/-! ## Taking turns -/

/-- The server writes `more`, and the client reads it. -/
theorem WebSession.runs_turn {frames more : List SentFrame}
    {state state' : Running Request Request.Answer Output Reference Error Unit}
    {program : Web.ClientProg Unit} {history : List Web.ClientEvent}
    {final : Running Web.Request Web.Request.Answer Web.Output (List SentFrame)
      Web.Stop Unit}
    (hserver : state.Tracks (Agrees [] []) session.server)
    (hclient : Running.Tracks (Holding (wire frames).length) ⟨program, history, []⟩
      session.client)
    (hwrites : referenceEnv.Reaches state state')
    (hjoins : ∀ handle answer, .asked (.join handle) answer ∉ state'.history)
    (hunsent : session.unsent pin ≤ state'.world.control.items.length)
    (hsome : 0 < session.unsent pin) (hsent : controlFrames state'.history = frames ++ more)
    (hfits : ∀ frame ∈ more, frame.2.length ≤ maxFrameLength)
    (hreads : webReferenceEnv.Reaches ⟨program, history, more⟩ final)
    (hopens : ∀ answer, .asked .createUnidirectionalStream answer ∉ final.history) :
    ∃ session', session.Runs server pin session' ∧
      state'.Tracks (Agrees [] []) session'.server ∧
      final.Tracks (Holding (wire (frames ++ more)).length) session'.client := by
  obtain ⟨session₁, hruns₁, hsame₁, hserver⟩ :=
    runs_server hwrites hjoins hunsent hsome hserver
  have hall : session₁.sent = wire (frames ++ more) := by
    rw [sent, hserver.history, hsent]
  rw [← hsame₁] at hclient
  obtain ⟨session₂, hruns₂, hsame₂, hclient⟩ := runs_deliver hall hfits hclient
  obtain ⟨session₃, hruns₃, hsame₃, hclient⟩ := runs_client hreads hopens hclient
  rw [← hsame₂, ← hsame₃] at hserver
  exact ⟨session₃, hruns₁.trans (hruns₂.trans hruns₃), hserver, hclient⟩

theorem wire_pos (frame : SentFrame) (frames : List SentFrame) :
    0 < (wire (frame :: frames)).length := by
  rw [wire_cons, List.length_append, SentFrame.bytes, length_encode, FrameHeader.size]
  omega

theorem WebSession.unsent_eq {read rest : List SentFrame}
    (hcontrol : webControl pin = wire (read ++ rest))
    (hwritten : webWritten session.client.history = wire read) :
    session.unsent pin = (wire rest).length := by
  rw [unsent, hcontrol, hwritten, wire_append, List.length_append, Nat.add_sub_cancel_left]

namespace WebExchange

theorem webWritten_helloSent (h : WebExchange server) :
    webWritten h.helloSent = wire (h.requests.take 1) := by
  change (Web.encodeFrame Web.Control.clientHello Web.encodeClientHello) ++ [] = _ ++ []
  rw [encodeFrame_eq, encodeClientHello_eq]
  rfl

theorem webWritten_authSent (h : WebExchange server) :
    webWritten (h.helloSent ++ h.authSent) = wire (h.requests.take 2) := by
  change (Web.encodeFrame Web.Control.clientHello Web.encodeClientHello) ++
    (Web.encodeFrame Web.Control.authRequest
      (Web.encodeAuthRequest "pin" (utf8 server.expectedPin)) ++ []) = _
  rw [encodeFrame_eq, encodeFrame_eq, encodeClientHello_eq, encodeAuthRequest_eq]
  rfl

theorem tracks_start (h : WebExchange server) (textToInt32 : List UInt8 → Int)
    (stack : Nat) (cuts : List Nat) :
    (referenceEnv.settle (handleControlStream server) [] (h.reference cuts)).Tracks
        (Agrees [] [])
        (WebSession.start server textToInt32 stack server.expectedPin cuts).server ∧
      (webReferenceEnv.settle (Web.connect textToInt32 stack server.expectedPin) []
        []).Tracks (Holding 0)
        (WebSession.start server textToInt32 stack server.expectedPin cuts).client := by
  have hperform : ∀ reference world output, Agrees [] [] reference world →
      Agrees [] [] (referenceEnv.perform reference output)
        ((controlEnv server).perform world output) :=
    fun _ _ output hagrees => hagrees.perform output
  have hperform' : ∀ frames world output, Holding 0 frames world →
      Holding 0 (webReferenceEnv.perform frames output)
        ((webEnv false).perform world output) := fun _ _ _ hholding => hholding
  have hcontrol : (⟨webControl server.expectedPin, cuts, none⟩ : RecvStream) =
      (h.reference cuts).control := by
    rw [webControl_eq]
    rfl
  exact ⟨tracks_settle hperform ⟨hcontrol, rfl, rfl, rfl⟩,
    tracks_settle hperform' ⟨rfl, rfl, fun _ hmem => by cases hmem⟩⟩

/-- The client can get to the frame that makes it give up. -/
theorem runs_refused (h : WebExchange server) (textToInt32 : List UInt8 → Int)
    {stack : Nat} (hstack : 4 ≤ stack) (cuts : List Nat) :
    ∃ session, WebReachable server textToInt32 stack server.expectedPin cuts session ∧
      session.client.outcome = some (.error .returned) ∧
      session.client.history = h.clientEvents := by
  obtain ⟨afterHello, afterAuth, hrounds⟩ := h.leads_rounds textToInt32 hstack
  obtain ⟨cuts₁, hgreeted⟩ := h.leads_greeted cuts
  obtain ⟨cuts₂, hserved⟩ := h.leads_served cuts₁
  obtain ⟨hserver, hclient⟩ := h.tracks_start textToInt32 stack cuts
  have hcontrol : webControl server.expectedPin = wire h.requests :=
    webControl_eq server.expectedPin
  let awaitHello := Web.awaitFrame Web.Control.serverHello "ServerHello" >>= afterHello
  let awaitAuth := Web.awaitFrame Web.Control.authResult "AuthResult" >>= afterAuth
  -- the hello is sent
  have hreach : webReferenceEnv.Reaches _ ⟨awaitHello, h.helloSent, []⟩ :=
    (hrounds []).1.reaches []
  obtain ⟨session₁, hruns₁, hsame₁, hclient⟩ :=
    WebSession.runs_client hreach (by simp [helloSent, webWrite, webLog]) hclient
  rw [← hsame₁] at hserver
  -- the hello is answered, and the PIN sent
  have hunsent : session₁.unsent server.expectedPin = (wire h.requests.tail).length :=
    WebSession.unsent_eq hcontrol
      ((congrArg webWritten hclient.history).trans h.webWritten_helloSent)
  have hwrites : referenceEnv.Reaches _ ⟨authExchange server >>= _,
      h.helloExchanged.events, _⟩ := hgreeted.reaches []
  have hclient : Running.Tracks (Holding (wire []).length) ⟨awaitHello, h.helloSent, []⟩
      session₁.client := hclient
  have hreads : webReferenceEnv.Reaches ⟨awaitHello, h.helloSent, [h.helloAnswer]⟩
      ⟨awaitAuth, h.helloSent ++ h.authSent, []⟩ := (hrounds []).2.1.reaches _
  have hsent : controlFrames h.helloExchanged.events = [] ++ [h.helloAnswer] := rfl
  have hfits : ∀ frame ∈ [h.helloAnswer], frame.2.length ≤ maxFrameLength :=
    fun frame hmem => h.replies_fit frame (by simp [replies, List.mem_singleton.mp hmem])
  obtain ⟨session₂, hruns₂, hserver, hclient⟩ := WebSession.runs_turn hserver hclient
    hwrites (by simp [Hello.events, readEvent, negotiationEvent, writeEvent]) hunsent.le
    (hunsent ▸ wire_pos _ _) hsent hfits hreads
    (by simp [helloSent, authSent, webWrite, webNext, webLog])
  -- the announcements follow the answer to the PIN
  have hunsent : session₂.unsent server.expectedPin =
      (wire (h.requests.drop 2)).length :=
    WebSession.unsent_eq hcontrol
      ((congrArg webWritten hclient.history).trans h.webWritten_authSent)
  have hwrites : referenceEnv.Reaches _ ⟨dispatching server [0, 1], h.servedEvents, _⟩ :=
    hserved.reaches h.helloExchanged.events
  have hreads : webReferenceEnv.Reaches
      ⟨awaitAuth, h.helloSent ++ h.authSent,
        [h.authAnswer, h.announcement, h.cursorAnnouncement]⟩
      ⟨.fail .returned, h.helloSent ++ h.authSent ++ h.refused, [h.cursorAnnouncement]⟩ :=
    (hrounds [h.cursorAnnouncement]).2.2.reaches _
  have hsent : controlFrames h.servedEvents =
      [h.helloAnswer] ++ [h.authAnswer, h.announcement, h.cursorAnnouncement] := rfl
  have hfits : ∀ frame ∈ [h.authAnswer, h.announcement, h.cursorAnnouncement],
      frame.2.length ≤ maxFrameLength := fun frame hmem =>
    h.replies_fit frame (List.mem_cons_of_mem _ (List.mem_append_left [_] hmem))
  obtain ⟨session₃, hruns₃, -, hclient⟩ := WebSession.runs_turn hserver hclient
    hwrites (by simp [servedEvents, Hello.events, Auth.events, Opened.events, readEvent,
      negotiationEvent, writeEvent]) hunsent.le
    (hunsent ▸ wire_pos _ _) hsent hfits hreads
    (by simp [helloSent, authSent, refused, webWrite, webNext, webLog])
  refine ⟨session₃, hruns₁.trans (hruns₂.trans hruns₃), ?_, ?_⟩
  · rw [Running.outcome, hclient.program]
  · rw [hclient.history, List.append_assoc]
    rfl

end WebExchange

/-! ## What the client can and cannot reach -/

/-- The client has logged that a frame was not the one it expected. -/
def GaveUp (history : List Web.ClientEvent) : Prop :=
  ∃ name received, webLog (.text (Web.expectedText name received)) ∈ history

/-- The client has taken an `OpenChannelAck` with status 0 for its answer. -/
def TookAck (history : List Web.ClientEvent) : Prop :=
  webLog (.openChannelAck 0) ∈ history

/-- With the server's PIN, in every order of the steps. -/
structure Interoperates (server : ServerConfig) (textToInt32 : List UInt8 → Int)
    (stack : Nat) (cuts : List Nat) : Prop where
  expected : ∀ session,
    WebReachable server textToInt32 stack server.expectedPin cuts session →
      ¬GaveUp session.client.history
  /-- A client that has stopped was greeted, admitted and given its channel. -/
  acked : ∀ session,
    WebReachable server textToInt32 stack server.expectedPin cuts session →
      session.client.outcome.isSome →
        (∃ hello, webLog (.serverHello hello) ∈ session.client.history) ∧
          (∃ permission identity,
            webLog (.authResult 0 permission identity) ∈ session.client.history) ∧
          TookAck session.client.history

namespace WebExchange

theorem gaveUp (h : WebExchange server) : GaveUp h.clientEvents := by
  refine ⟨"OpenChannelAck", some ⟨0, 6, []⟩, ?_⟩
  have htext : Web.expectedText "OpenChannelAck" (some ⟨0, 6, []⟩) = refusal := by
    rw [Web.expectedText]
    decide +kernel
  rw [htext]
  simp [clientEvents, refused]

theorem not_tookAck (h : WebExchange server) {history : List Web.ClientEvent}
    (hinitial : history <+: h.clientEvents) : ¬TookAck history := by
  intro hacked
  have hmem := hinitial.subset hacked
  simp [clientEvents, helloSent, authSent, refused, webWrite, webNext, webLog, authLine]
    at hmem

theorem not_interoperates (h : WebExchange server) (textToInt32 : List UInt8 → Int)
    {stack : Nat} (hstack : 4 ≤ stack) (cuts : List Nat) :
    ¬Interoperates server textToInt32 stack cuts := by
  intro hinterop
  obtain ⟨session, hreachable, -, hhistory⟩ := h.runs_refused textToInt32 hstack cuts
  exact hinterop.expected session hreachable (hhistory ▸ h.gaveUp)

end WebExchange

/--
Whatever the server's configuration and the order of the steps, the client never gets
its channel, and whenever it stops it has given up.
-/
theorem webClient_refused {server : ServerConfig} (h : WebExchange server)
    (textToInt32 : List UInt8 → Int) {stack : Nat} (hstack : 4 ≤ stack) (cuts : List Nat) :
    ¬Interoperates server textToInt32 stack cuts ∧
      ∀ session, WebReachable server textToInt32 stack server.expectedPin cuts session →
        ¬TookAck session.client.history ∧
          (session.client.outcome.isSome → GaveUp session.client.history) := by
  refine ⟨h.not_interoperates textToInt32 hstack cuts, fun session hreachable => ?_⟩
  have htogether := together_of_reachable h hstack hreachable
  refine ⟨h.not_tookAck (htogether.client_history hstack), fun hstopped => ?_⟩
  obtain ⟨result, houtcome⟩ := Option.isSome_iff_exists.mp hstopped
  have hended := htogether.client.ended (Together.client_final h textToInt32 hstack) rfl
    houtcome
  exact hended.2 ▸ h.gaveUp

/-! ## Over a library that follows RFC 8949 -/

theorem webExchange_loopback : WebExchange (loopbackServer "493817026") := by
  have hfits : ∀ value ∈ webValues (loopbackServer "493817026"),
      (CborWire.encode value).length ≤ maxFrameLength := by
    decide +kernel
  exact fun value hmem => carries_rfc8949 (hfits value hmem)

theorem webClient_refused_loopback :
    ¬Interoperates (loopbackServer "493817026") (fun _ => 0) 64 [1, 5] ∧
      ∀ session, WebReachable (loopbackServer "493817026") (fun _ => 0) 64 "493817026"
          [1, 5] session →
        ¬TookAck session.client.history ∧
          (session.client.outcome.isSome → GaveUp session.client.history) :=
  webClient_refused webExchange_loopback (fun _ => 0) (by decide) [1, 5]

/-- The announcement of the Display channel comes before the answer. -/
theorem announced_before_ack :
    ¬Interoperates (loopbackServer "493817026") (fun _ => 0) 64 [] ∧
      ∃ session, WebReachable (loopbackServer "493817026") (fun _ => 0) 64 "493817026" []
          session ∧
        webLog (.text "expected OpenChannelAck, got type=0x6") ∈ session.client.history ∧
        session.client.outcome = some (.error .returned) := by
  refine ⟨webExchange_loopback.not_interoperates _ (by decide) _, ?_⟩
  obtain ⟨session, hreachable, houtcome, hhistory⟩ :=
    webExchange_loopback.runs_refused (fun _ => 0) (by decide : 4 ≤ 64) []
  refine ⟨session, hreachable, ?_, houtcome⟩
  rw [hhistory]
  simp [WebExchange.clientEvents, WebExchange.refused, WebExchange.refusal]

end OpenRD.Session
