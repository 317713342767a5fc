import OpenRD.Foundation.Reference
import OpenRD.Session.Progress

/-!
# The Control task in a world without choices

Over a transport that works, the answers the Control task gets depend on nothing but
the bytes its client sends and the order in which it opens its streams.  A `Reference`
holds just these, and answers at once where a session may have to wait.
-/

namespace OpenRD.Session

open OpenRD.Foundation OpenRD.Proto OpenRD.Server

structure Reference where
  control : RecvStream
  serverStreams : Nat
  /-- The streams the client opens that are not accepted yet. -/
  uni : List ClientStream
  bi : List ClientStream

def referenceEnv : Env Request Request.Answer Output Reference Unit where
  answer reference question _ :=
    match question with
    | .readFullFrame =>
        let read := readFullFrame reference.control
        some (read.1, { reference with control := read.2 })
    | .readFullFrameOpt =>
        let read := readFullFrameOpt reference.control
        some (read.1, { reference with control := read.2 })
    | .writeFrame .. => some (.ok (), reference)
    | .openUni =>
        some (.ok reference.serverStreams,
          { reference with serverStreams := reference.serverStreams + 1 })
    | .writeUni .. => some (.ok (), reference)
    | .acceptUni =>
        match reference.uni with
        | stream :: uni => some (.ok stream, { reference with uni })
        | [] => none
    | .acceptBi =>
        match reference.bi with
        | stream :: bi => some (.ok stream, { reference with bi })
        | [] => none
    | .join _ => some ((), reference)
  perform reference _ := reference

/-! ## A session's world against it -/

/-- The world has come as far as the reference, and the client has yet to open the rest. -/
structure Agrees (laterUni laterBi : List ClientStream) (reference : Reference)
    (world : World) : Prop where
  control : world.control = reference.control
  serverStreams : world.serverStreams = reference.serverStreams
  uni : reference.uni = world.pendingUni ++ laterUni
  bi : reference.bi = world.pendingBi ++ laterBi

variable {server : ServerConfig} {laterUni laterBi : List ClientStream}
  {reference : Reference} {world world' : World}

theorem Agrees.answer (h : Agrees laterUni laterBi reference world) {question : Request}
    {answer : question.Answer}
    (hanswer : (controlEnv server).answer world question none = some (answer, world')) :
    ∃ reference', referenceEnv.answer reference question () = some (answer, reference') ∧
      Agrees laterUni laterBi reference' world' := by
  obtain ⟨control, streams, uni, bi⟩ := reference
  obtain ⟨rfl, rfl, rfl, rfl⟩ := h
  cases question with
  | readFullFrame | readFullFrameOpt | writeFrame | openUni | writeUni =>
      simp only [controlEnv, Option.some.injEq, Prod.mk.injEq] at hanswer
      obtain ⟨rfl, rfl⟩ := hanswer
      exact ⟨_, rfl, ⟨rfl, rfl, rfl, rfl⟩⟩
  | acceptUni =>
      simp only [controlEnv] at hanswer
      cases hpending : world.pendingUni with
      | nil =>
          rw [hpending] at hanswer
          cases hanswer
      | cons stream pendingUni =>
          rw [hpending] at hanswer
          cases hanswer
          exact ⟨⟨_, _, pendingUni ++ laterUni, _⟩, rfl, ⟨rfl, rfl, rfl, rfl⟩⟩
  | acceptBi =>
      simp only [controlEnv] at hanswer
      cases hpending : world.pendingBi with
      | nil =>
          rw [hpending] at hanswer
          cases hanswer
      | cons stream pendingBi =>
          rw [hpending] at hanswer
          cases hanswer
          exact ⟨⟨_, _, _, pendingBi ++ laterBi⟩, rfl, ⟨rfl, rfl, rfl, rfl⟩⟩
  | join handle =>
      simp only [controlEnv] at hanswer
      split at hanswer <;> cases hanswer
      exact ⟨_, rfl, ⟨rfl, rfl, rfl, rfl⟩⟩

theorem uni_of_accepted {answer : Except Error ClientStream} {reference' : Reference}
    (h : referenceEnv.answer reference .acceptUni () = some (answer, reference')) :
    0 < reference.uni.length := by
  simp only [referenceEnv] at h
  split at h
  · next hmore => exact hmore ▸ Nat.succ_pos _
  · cases h

theorem bi_of_accepted {answer : Except Error ClientStream} {reference' : Reference}
    (h : referenceEnv.answer reference .acceptBi () = some (answer, reference')) :
    0 < reference.bi.length := by
  simp only [referenceEnv] at h
  split at h
  · next hmore => exact hmore ▸ Nat.succ_pos _
  · cases h

/-- Unless it has to wait for a stream or a handler, the world has the reference's answer. -/
theorem Agrees.answered_of (h : Agrees laterUni laterBi reference world) {question : Request}
    {answer : question.Answer} {reference' : Reference}
    (hjoin : ∀ handle, question ≠ .join handle)
    (huni : question = .acceptUni → laterUni.length < reference.uni.length)
    (hbi : question = .acceptBi → laterBi.length < reference.bi.length)
    (hanswer : referenceEnv.answer reference question () = some (answer, reference')) :
    ∃ world', (controlEnv server).answer world question none = some (answer, world') ∧
      Agrees laterUni laterBi reference' world' := by
  obtain ⟨control, streams, uni, bi⟩ := reference
  obtain ⟨rfl, rfl, rfl, rfl⟩ := h
  cases question with
  | readFullFrame | readFullFrameOpt | writeFrame | openUni | writeUni =>
      cases hanswer
      exact ⟨_, rfl, ⟨rfl, rfl, rfl, rfl⟩⟩
  | acceptUni =>
      cases hpending : world.pendingUni with
      | nil =>
          rw [hpending] at huni
          exact absurd (huni rfl) (lt_irrefl _)
      | cons stream pendingUni =>
          simp only [referenceEnv, hpending] at hanswer
          cases hanswer
          simp only [controlEnv, hpending]
          exact ⟨_, rfl, rfl, rfl, rfl, rfl⟩
  | acceptBi =>
      cases hpending : world.pendingBi with
      | nil =>
          rw [hpending] at hbi
          exact absurd (hbi rfl) (lt_irrefl _)
      | cons stream pendingBi =>
          simp only [referenceEnv, hpending] at hanswer
          cases hanswer
          simp only [controlEnv, hpending]
          exact ⟨_, rfl, rfl, rfl, rfl, rfl⟩
  | join handle => exact absurd rfl (hjoin handle)

/-- With no stream to come, the world has the reference's answer ready, but for a join. -/
theorem Agrees.answered (h : Agrees [] [] reference world) {question : Request}
    {answer : question.Answer} {reference' : Reference}
    (hjoin : ∀ handle, question ≠ .join handle)
    (hanswer : referenceEnv.answer reference question () = some (answer, reference')) :
    ∃ world', (controlEnv server).answer world question none = some (answer, world') ∧
      Agrees [] [] reference' world' := by
  refine h.answered_of hjoin ?_ ?_ hanswer
  · rintro rfl
    exact uni_of_accepted hanswer
  · rintro rfl
    exact bi_of_accepted hanswer

theorem Agrees.perform (h : Agrees laterUni laterBi reference world) (output : Output) :
    Agrees laterUni laterBi (referenceEnv.perform reference output)
      ((controlEnv server).perform world output) := by
  cases output <;> exact ⟨h.control, h.serverStreams, h.uni, h.bi⟩

theorem Agrees.stepHandler (h : Agrees laterUni laterBi reference world) {index : Nat}
    {choice : HandlerChoice} (hstep : world.stepHandler index choice = some world') :
    Agrees laterUni laterBi reference world' := by
  obtain ⟨spawned, run, -, -, rfl⟩ := World.stepHandler_eq_some.mp hstep
  exact ⟨h.control, h.serverStreams, h.uni, h.bi⟩

theorem Agrees.openUni {purpose : UInt64} {recv : RecvStream}
    (h : Agrees (⟨world.openedUni.length, purpose, recv⟩ :: laterUni) laterBi reference
      world) : Agrees laterUni laterBi reference (world.openUni purpose recv) := by
  refine ⟨h.control, h.serverStreams, ?_, h.bi⟩
  rw [h.uni, World.openUni, List.append_assoc]
  rfl

theorem Agrees.openBi {purpose : UInt64} {recv : RecvStream}
    (h : Agrees laterUni (⟨world.openedBi.length, purpose, recv⟩ :: laterBi) reference
      world) : Agrees laterUni laterBi reference (world.openBi purpose recv) := by
  refine ⟨h.control, h.serverStreams, h.uni, ?_⟩
  rw [h.bi, World.openBi, List.append_assoc]
  rfl

theorem control_suffix
    {state state' : Running Request Request.Answer Output Reference Error Unit}
    (h : referenceEnv.Reaches state state') :
    state'.world.control.items <:+ state.world.control.items := by
  induction h with
  | refl => exact List.suffix_rfl
  | tail _ hnext ih =>
      refine Running.advance_ties
        (J := fun _ world => world.control.items <:+ state.world.control.items) ?_ ?_ ih hnext
      · intro _ reference question _ answer reference' hsuffix hanswer
        cases question with
        | readFullFrame =>
            cases hanswer
            exact (readFrameWith_leavesEnd Server.readerTexts reference.control).trans hsuffix
        | readFullFrameOpt =>
            cases hanswer
            exact (readFrameOptWith_leavesEnd Server.readerTexts reference.control).trans
              hsuffix
        | writeFrame | openUni | writeUni | join =>
            cases hanswer
            exact hsuffix
        | acceptUni | acceptBi =>
            simp only [referenceEnv] at hanswer
            split at hanswer <;> cases hanswer
            exact hsuffix
      · exact fun _ _ _ hsuffix => hsuffix

/-! ## The reference run, exchange by exchange -/

namespace Reference

def afterRead (reference : Reference) : Reference :=
  { reference with control := (readFullFrame reference.control).2 }

def afterReadOpt (reference : Reference) : Reference :=
  { reference with control := (readFullFrameOpt reference.control).2 }

theorem completes_write (frameType : ControlFrameType) (payload : List UInt8) :
    referenceEnv.Completes (Control.writeFrame frameType payload) reference
      [writeEvent frameType payload (.ok ())] () reference :=
  .call () rfl rfl

theorem completes_readFrame {bytes : List UInt8}
    (h : (readFullFrame reference.control).1 = .ok bytes) :
    referenceEnv.Completes Control.readFrame reference [readEvent bytes] bytes
      reference.afterRead := by
  rw [readEvent, ← h]
  exact .call () rfl h

theorem completes_readFrameOpt {bytes : List UInt8}
    (h : (readFullFrameOpt reference.control).1 = .ok (some bytes)) :
    referenceEnv.Completes Control.readFrameOpt reference [readOptEvent bytes]
      (some bytes) reference.afterReadOpt := by
  rw [readOptEvent, ← h]
  exact .call () rfl h

theorem completes_opened {channel : ServerChannel} {handles : List Nat}
    (opened : Opened server channel) (hstream : opened.stream = reference.serverStreams) :
    referenceEnv.Completes (openServerChannel server channel handles) reference
      opened.events (handles ++ [handles.length])
      { reference with serverStreams := reference.serverStreams + 1 } := by
  have hopen : referenceEnv.Completes Control.openUni reference
      [.asked .openUni (.ok opened.stream)] opened.stream
      { reference with serverStreams := reference.serverStreams + 1 } := by
    rw [hstream]
    exact .call () rfl rfl
  exact Opened.completes opened (completes_write _ _) hopen (.call () rfl rfl)

theorem leads_hello {hello : Hello server}
    (hhello : (readFullFrame reference.control).1 = .ok hello.bytes) :
    referenceEnv.Leads (handleControlStream server) reference hello.events
      (authExchange server >>= fun accepted =>
        if accepted then serveChannels server else return ()) reference.afterRead :=
  Hello.completes hello (completes_readFrame hhello) (completes_write _ _) _ _

theorem leads_dispatching {auth : Auth server} {display : Opened server displayChannel}
    {cursor : Opened server cursorChannel}
    (hauth : (readFullFrame reference.control).1 = .ok auth.bytes)
    (hstatus : auth.status = .ok) (hdisplay : display.stream = reference.serverStreams)
    (hcursor : cursor.stream = reference.serverStreams + 1) :
    referenceEnv.Leads
      (authExchange server >>= fun accepted =>
        if accepted then serveChannels server else return ()) reference
      (auth.events ++ (display.events ++ cursor.events)) (dispatching server [0, 1])
      { reference.afterRead with serverStreams := reference.serverStreams + 1 + 1 } := by
  refine (Auth.completes auth (completes_readFrame hauth) (completes_write _ _) _ _).trans ?_
  rw [hstatus, beq_self_eq_true, if_pos rfl, serveChannels]
  have hdisplay : display.stream = reference.afterRead.serverStreams := hdisplay
  refine (completes_opened display hdisplay _ _).trans ?_
  exact completes_opened cursor hcursor _ _

/-- A pass about a channel the server supports, up to where it accepts the stream. -/
theorem leads_acked {α : Type} {acked : Acked server} {handles : List Nat}
    (hread : (readFullFrameOpt reference.control).1 = .ok (some acked.bytes))
    (hsupported : isSupportedClientChannel acked.request.kind = true)
    (f : List Nat ⊕ List Nat → ControlProg α) :
    referenceEnv.Leads (dispatch server handles >>= f) reference (acked.events (.ok ()))
      (startHandler handles acked.request.kind >>= fun handles => f (.inl handles))
      reference.afterReadOpt := by
  have hstatus : ¬(ackStatus acked.request.kind).toU32 ≠ ErrorCode.ok.toU32 := by
    simp [ackStatus, hsupported]
  rw [dispatch, Prog.bind_assoc]
  refine (completes_readFrameOpt hread _ _).trans ?_
  rw [Prog.bind_assoc]
  refine (Env.Completes.lift acked.received _ _).trans ?_
  rw [Prog.bind_assoc]
  refine (WritesFrame.value (completes_write _ _) acked.written _ _).trans ?_
  rw [if_neg hstatus, Prog.bind_assoc]
  exact .refl _ _

end Reference

end OpenRD.Session
