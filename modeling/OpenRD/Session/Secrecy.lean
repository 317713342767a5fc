import OpenRD.Server.Decision
import OpenRD.Session.Alike
import OpenRD.Session.Delivery

/-!
# What a session tells about the PIN

To a client that does not send it the PIN is invisible: two servers that expect different
PINs, neither of which the client sends, go through the same session under every schedule.
-/

namespace OpenRD.Session

open OpenRD.Foundation OpenRD.Proto OpenRD.Server Prog

variable {server : ServerConfig} {pin pin' : String} {control : RecvStream}

/-- The server with another PIN. -/
def expecting (server : ServerConfig) (pin : String) : ServerConfig :=
  { server with expectedPin := pin }

/-- A frame that is not an `AuthRequest` with one of the two PINs. -/
def Uninformed (server : ServerConfig) (pin pin' : String) (bytes : List UInt8) : Prop :=
  ∀ method credential, receiveAuthRequest server.cib bytes = .ok (method, credential) →
    credential ≠ asBytes pin ∧ credential ≠ asBytes pin'

/-- What can be left of a stream after some reads. -/
inductive ReadsTo (recv : RecvStream) : RecvStream → Prop where
  | refl : ReadsTo recv recv
  | frame {rest : RecvStream} (h : ReadsTo recv rest) : ReadsTo recv (readFullFrame rest).2
  | frameOpt {rest : RecvStream} (h : ReadsTo recv rest) : ReadsTo recv (readFullFrameOpt rest).2

/-- None of the frames on the stream carries one of the two PINs. -/
def Withholds (server : ServerConfig) (pin pin' : String) (control : RecvStream) : Prop :=
  ∀ rest bytes, ReadsTo control rest → (readFullFrame rest).1 = .ok bytes →
    Uninformed server pin pin' bytes

def pinLike (server : ServerConfig) (pin pin' : String) :
    Likeness Request Request.Answer Output where
  answers
    | .readFullFrame => fun answer answer' =>
        answer = answer' ∧ ∀ bytes, answer = .ok bytes → Uninformed server pin pin' bytes
    | .readFullFrameOpt | .writeFrame .. | .openUni | .writeUni .. | .acceptUni | .acceptBi
    | .join _ => Eq
  outputs := Eq
  quits _ := False

theorem pinLike_answers (question : Request) (answer answer' : question.Answer)
    (h : (pinLike server pin pin').answers question answer answer') : answer = answer' := by
  cases question with
  | readFullFrame => exact h.1
  | _ => exact h

/-! ## The Control task -/

theorem authDecision_expecting {method : String} {credential : List UInt8}
    (hpin : credential ≠ asBytes pin) (hpin' : credential ≠ asBytes pin') :
    authDecision (expecting server pin) method credential =
      authDecision (expecting server pin') method credential := by
  have hwrong {pin : String} (h : credential ≠ asBytes pin) :
      ¬ constantTimeEq credential (asBytes (expecting server pin).expectedPin) = true :=
    fun hequal => h (constantTimeEq_iff.mp hequal)
  rw [authDecision, authDecision, if_neg (hwrong hpin), if_neg (hwrong hpin')]

theorem pinLike_authExchange :
    (authExchange (expecting server pin)).Alike (pinLike server pin pin')
      (authExchange (expecting server pin')) Eq := by
  have hframe : Control.readFrame.Alike (pinLike server pin pin') Control.readFrame
      fun bytes bytes' => bytes = bytes' ∧ Uninformed server pin pin' bytes := by
    refine .call ?_
    rintro (error | bytes) _ ⟨rfl, huninformed⟩
    · exact rfl
    · exact .pure ⟨rfl, huninformed bytes rfl⟩
  refine .bind hframe ?_
  rintro bytes _ ⟨rfl, huninformed⟩
  refine .bind (.lift_ok _) ?_
  rintro ⟨method, credential⟩ _ ⟨rfl, hreceived⟩
  obtain ⟨hpin, hpin'⟩ := huninformed method credential hreceived
  simp only [authDecision_expecting hpin hpin']
  exact .refl pinLike_answers (fun _ => rfl) _

theorem pinLike_handleControlStream :
    (handleControlStream (expecting server pin)).Alike (pinLike server pin pin')
      (handleControlStream (expecting server pin')) Eq := by
  refine .bind_eq (.refl pinLike_answers (fun _ => rfl) (helloExchange server)) fun _ => ?_
  refine .bind_eq pinLike_authExchange fun admitted => ?_
  exact .refl pinLike_answers (fun _ => rfl)
    (if admitted then serveChannels server else pure ())

/-! ## Sessions -/

/-- The same world, whose Control stream is what is left of one that withholds the PINs. -/
def SameWorld (control : RecvStream) (world world' : World) : Prop :=
  world' = world ∧ ReadsTo control world.control

theorem start_expecting (task : Task) :
    Spawned.start (expecting server pin) task = .start server task := by
  cases task <;> rfl

theorem controlEnv_expecting : controlEnv (expecting server pin) = controlEnv server := by
  unfold controlEnv
  simp only [start_expecting]

theorem pinLike_likens (h : Withholds server pin pin' control) :
    (controlEnv server).Likens (pinLike server pin pin') (SameWorld control)
      (controlEnv server) where
  answer := by
    rintro world next _ question fault answer ⟨rfl, hreads⟩ hanswer
    refine ⟨answer, next, hanswer, ?_, rfl, ?_⟩
    · cases question with
      | readFullFrame =>
          cases hanswer
          exact ⟨rfl, fun bytes hbytes => h _ bytes hreads hbytes⟩
      | _ => rfl
    · cases question with
      | readFullFrame =>
          cases hanswer
          exact .frame hreads
      | readFullFrameOpt =>
          cases hanswer
          exact .frameOpt hreads
      | writeFrame | openUni | writeUni =>
          cases hanswer
          exact hreads
      | acceptUni | acceptBi =>
          simp only [controlEnv] at hanswer
          split at hanswer <;> cases hanswer <;> exact hreads
      | join =>
          simp only [controlEnv] at hanswer
          split at hanswer <;> cases hanswer
          exact hreads
  perform := by
    rintro world _ output _ ⟨rfl, hreads⟩ rfl
    refine ⟨rfl, ?_⟩
    cases output <;> exact hreads

/-- The two sessions do the same, though their servers expect different PINs. -/
def Indistinct (server : ServerConfig) (pin pin' : String) (control : RecvStream) :
    State → State → Prop :=
  Running.Beside (pinLike server pin pin') (SameWorld control) Eq

theorem Indistinct.start (h : Withholds server pin pin' control) :
    Indistinct server pin pin' control (start (expecting server pin) control)
      (start (expecting server pin') control) := by
  unfold Session.start
  rw [controlEnv_expecting, controlEnv_expecting]
  exact (pinLike_likens h).settle pinLike_handleControlStream .nil ⟨rfl, .refl⟩ fun _ _ => id

theorem Indistinct.step (h : Withholds server pin pin' control) {session session' next : State}
    {action : Action} (hsame : Indistinct server pin pin' control session session')
    (hstep : step (expecting server pin) session action = some next) :
    ∃ next', Session.step (expecting server pin') session' action = some next' ∧
      Indistinct server pin pin' control next next' := by
  obtain ⟨hworld, hreads⟩ := hsame.world
  cases action with
  | control fault =>
      simp only [Session.step, controlEnv_expecting] at hstep ⊢
      exact (pinLike_likens h).advance hsame hstep fun _ _ => id
  | handler index choice =>
      obtain ⟨world, hafter, rfl⟩ := step_handler_eq_some.mp hstep
      have hcontrol : world.control = session.world.control := by
        obtain ⟨spawned, run, -, -, rfl⟩ := World.stepHandler_eq_some.mp hafter
        rfl
      refine ⟨_, step_handler_eq_some.mpr ⟨world, hworld ▸ hafter, rfl⟩, ?_⟩
      exact { hsame with world := ⟨rfl, hcontrol ▸ hreads⟩ }
  | openUni purpose recv | openBi purpose recv =>
      cases hstep
      refine ⟨_, rfl, { hsame with world := ⟨?_, hreads⟩ }⟩
      rw [hworld]

/--
A client that sends neither of two PINs cannot tell which of them the server expects:
whatever it does, and however the parties are scheduled, it meets the same session.
-/
theorem pin_unobservable (h : Withholds server pin pin' control) {actions : List Action}
    {session : State} (hrun : actions.foldlM (step (expecting server pin))
      (start (expecting server pin) control) = some session) :
    ∃ session', actions.foldlM (step (expecting server pin'))
        (start (expecting server pin') control) = some session' ∧
      session'.history = session.history ∧ session'.outcome = session.outcome ∧
      session'.world = session.world := by
  have hevents {history history' : List ControlEvent}
      (hsame : List.Forall₂ (pinLike server pin pin').Events history history') :
      history' = history := by
    induction hsame with
    | nil => rfl
    | cons hevent _ ih =>
        rw [ih]
        cases hevent with
        | asked hanswer => rw [pinLike_answers _ _ _ hanswer]
        | told houtput =>
            cases houtput
            rfl
  obtain ⟨session', hrun', hsame⟩ := follows_run (P := fun _ => True) (fun _ _ _ _ _ => trivial)
    (fun _ _ _ _ _ hsame haction hstep _ => haction ▸ hsame.step h hstep)
    (List.forall₂_same.mpr fun _ _ => rfl) (Indistinct.start h) hrun trivial
  exact ⟨session', hrun', hevents hsame.history, hsame.outcome, hsame.world.1⟩

/-! ## A client that guesses -/

/-- Reads of a stream of whole frames come to the end of a frame. -/
theorem readsTo_wire {frames : List SentFrame}
    (hfits : ∀ frame ∈ frames, frame.2.length ≤ maxFrameLength) {cuts : List ℕ}
    {rest : RecvStream} (h : ReadsTo ⟨wire frames, cuts, none⟩ rest) :
    ∃ later cuts', later <:+ frames ∧ rest = ⟨wire later, cuts', none⟩ := by
  induction h with
  | refl => exact ⟨frames, cuts, List.suffix_rfl, rfl⟩
  | frame _ ih =>
      obtain ⟨later, cuts', hlater, rfl⟩ := ih
      cases later with
      | nil =>
          obtain ⟨error, cuts', hread⟩ := readFrameWith_ended readerTexts cuts'
          exact ⟨[], cuts', List.nil_suffix, congrArg Prod.snd hread⟩
      | cons frame later =>
          obtain ⟨cuts', hread⟩ :=
            readFullFrame_wire frame (hfits frame (hlater.subset (.head _))) later cuts' none
          exact ⟨later, cuts', (List.suffix_cons _ _).trans hlater, congrArg Prod.snd hread⟩
  | frameOpt _ ih =>
      obtain ⟨later, cuts', hlater, rfl⟩ := ih
      cases later with
      | nil =>
          obtain ⟨cuts', hread⟩ := readFrameOptWith_ended readerTexts cuts'
          exact ⟨[], cuts', List.nil_suffix, congrArg Prod.snd hread⟩
      | cons frame later =>
          obtain ⟨cuts', hread⟩ :=
            readFullFrameOpt_wire frame (hfits frame (hlater.subset (.head _))) later cuts' none
          exact ⟨later, cuts', (List.suffix_cons _ _).trans hlater, congrArg Prod.snd hread⟩

theorem withholds_wire {frames : List SentFrame}
    (hfits : ∀ frame ∈ frames, frame.2.length ≤ maxFrameLength)
    (huninformed : ∀ frame ∈ frames, Uninformed server pin pin' frame.bytes) (cuts : List ℕ) :
    Withholds server pin pin' ⟨wire frames, cuts, none⟩ := by
  intro rest bytes hreads hread
  obtain ⟨later, cuts', hlater, rfl⟩ := readsTo_wire hfits hreads
  cases later with
  | nil =>
      obtain ⟨error, _, hended⟩ := readFrameWith_ended readerTexts cuts'
      cases hread.symm.trans (congrArg Prod.fst hended)
  | cons frame later =>
      have hmem := hlater.subset (List.mem_cons_self)
      obtain ⟨_, hframe⟩ := readFullFrame_wire frame (hfits frame hmem) later cuts' none
      cases hread.symm.trans (congrArg Prod.fst hframe)
      exact huninformed frame hmem

def guessRequest : Cbor := TestClient.authRequest "pin" (asBytes "111111")

theorem carries_guess : Carries Ciborium.rfc8949 guessRequest (CborWire.encode guessRequest) :=
  carries_rfc8949 (by decide +kernel)

/-- A hello and a wrong PIN. -/
def guessFrames : List SentFrame :=
  [(ControlFrameType.clientHello.toU8, loopbackScript.helloPayload),
    (ControlFrameType.authRequest.toU8, CborWire.encode guessRequest)]

def guessControl : RecvStream := ⟨wire guessFrames, [3], none⟩

def guessAuth : Auth (loopbackServer "493817") where
  bytes := Frame.encode ControlFrameType.authRequest.toU8 (CborWire.encode guessRequest) []
  method := "pin"
  credential := asBytes "111111"
  payload := CborWire.encode (buildAuthResult ErrorCode.authFailed.toU32 "view-only" "")
  received := receiveAuthRequest_sent carries_guess
  written := by
    rw [authDecision_denied (by decide)]
    rfl

theorem withholds_guess :
    Withholds (loopbackServer "493817") "493817" "605114" guessControl := by
  refine withholds_wire ?_ ?_ [3]
  · rintro frame (_ | ⟨_, _ | ⟨_, ⟨⟩⟩⟩)
    · exact clientHello_fits
    · exact carries_guess.fits
  · rintro frame (_ | ⟨_, _ | ⟨_, ⟨⟩⟩⟩) method credential hreceived
    · obtain ⟨parsed, n, _, hparse, htype, -⟩ := receiveAuthRequest_eq_ok.mp hreceived
      cases hparse.symm.trans (Frame.parse_encode _ clientHello_fits)
      cases htype
    · cases hreceived.symm.trans (receiveAuthRequest_sent carries_guess)
      decide

theorem pin_unobservable_guess : ∃ (actions : List Action) (session session' : State),
    actions.foldlM (step (expecting (loopbackServer "493817") "493817"))
        (start (expecting (loopbackServer "493817") "493817") guessControl) = some session ∧
      actions.foldlM (step (expecting (loopbackServer "493817") "605114"))
        (start (expecting (loopbackServer "493817") "605114") guessControl) = some session' ∧
      session.outcome = some (.ok ()) ∧ session'.history = session.history := by
  have hstart : Reachable (expecting (loopbackServer "493817") "493817") guessControl _ :=
    reachable_start
  obtain ⟨cuts, hhello⟩ := readFullFrame_wire
    (ControlFrameType.clientHello.toU8, loopbackScript.helloPayload) clientHello_fits
    (guessFrames.drop 1) [3] none
  obtain ⟨_, hauth⟩ := readFullFrame_wire
    (ControlFrameType.authRequest.toU8, CborWire.encode guessRequest) carries_guess.fits
    [] cuts none
  have hrest : (readFullFrame guessControl).2 = ⟨wire (guessFrames.drop 1), cuts, none⟩ :=
    congrArg Prod.snd hhello
  have hgreeted := hstart.leads (completes_helloExchange
    (sentHello (carries_rfc8949 clientHello_fits) rfl) (congrArg Prod.fst hhello) _ _)
  obtain ⟨actions, hrun⟩ := hgreeted.leads (completes_authExchange guessAuth
    ((congrArg (fun recv => (readFullFrame recv).1) hrest).trans (congrArg Prod.fst hauth)) _ _)
  obtain ⟨session', hrun', hhistory, -⟩ := pin_unobservable withholds_guess hrun
  exact ⟨actions, _, session', hrun, hrun', rfl, hhistory⟩

end OpenRD.Session
