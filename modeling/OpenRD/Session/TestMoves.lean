import OpenRD.Session.TestRuns

/-!
# Who waits for whom

Of the events of the test client, the Control task and a handler only those are kept that
another party can wait for, or that wait for another party.
-/

namespace OpenRD.Session

open OpenRD.Foundation OpenRD.Proto OpenRD.Server
open OpenRD.TestClient (Stream ClientEvent)

/-! ## The moves of the parties -/

inductive ClientMove where
  | writes (stream : Stream)
  | reads (stream : Stream)
  | opensUni
  | opensBi
  | accepts
  deriving DecidableEq

def clientMove : ClientEvent → Option ClientMove
  | .asked (.writeFrame stream ..) (.ok ()) => some (.writes stream)
  | .asked (.readFrame stream) _ => some (.reads stream)
  | .asked .openUni _ => some .opensUni
  | .asked .openBi _ => some .opensBi
  | .asked .acceptUni _ => some .accepts
  | _ => none

inductive ControlMove where
  | reads
  | writes
  | opens
  | acceptsUni
  | acceptsBi
  | spawns (stream : Option Stream)
  | joins
  deriving DecidableEq

def controlMove : ControlEvent → Option ControlMove
  | .asked .readFullFrame _ | .asked .readFullFrameOpt _ => some .reads
  | .asked (.writeFrame ..) (.ok ()) => some .writes
  | .asked .openUni _ => some .opens
  | .asked .acceptUni _ => some .acceptsUni
  | .asked .acceptBi _ => some .acceptsBi
  | .asked (.join _) _ => some .joins
  | .told (.spawn task) => some (.spawns (taskStream task))
  | _ => none

theorem controlMove_spawns {event : ControlEvent} {stream : Option Stream}
    (h : controlMove event = some (.spawns stream)) :
    ∃ task, event = .told (.spawn task) ∧ taskStream task = stream := by
  cases event with
  | told output =>
      cases output with
      | spawn task =>
          cases h
          exact ⟨task, rfl, rfl⟩
      | logNegotiation outcome | panicking text => cases h
  | asked question answer =>
      cases question with
      | writeFrame frameType payload => cases answer <;> cases h
      | _ => cases h

/-- The client opens a channel, and the Control task acknowledges it. -/
def openMoves : List ClientMove := [.writes .control, .reads .control]

/-- It sends three frames on the channel's stream, and waits for an answer to the second. -/
def exerciseMoves (stream : Stream) : List ClientMove :=
  [.opensBi, .writes stream, .writes stream, .reads stream, .writes stream]

def clientMoves : List ClientMove :=
  [.writes .control, .reads .control, .writes .control, .reads .control, .reads .control,
    .reads .control, .accepts, .accepts] ++ openMoves ++
  [.opensUni, .writes (.uni 0), .writes (.uni 0), .writes (.uni 0)] ++ openMoves ++
  exerciseMoves (.bi 0) ++ openMoves ++ exerciseMoves (.bi 1) ++ openMoves ++
  exerciseMoves (.bi 2)

def controlMoves : List ControlMove :=
  [.reads, .writes, .reads, .writes, .writes, .opens, .spawns none, .writes, .opens,
    .spawns none, .reads, .writes, .acceptsUni, .spawns (some (.uni 0)), .reads, .writes,
    .acceptsBi, .spawns (some (.bi 0)), .reads, .writes, .acceptsBi, .spawns (some (.bi 1)),
    .reads, .writes, .acceptsBi, .spawns (some (.bi 2)), .reads, .joins, .joins, .joins,
    .joins, .joins, .joins]

/-- The client has done what these moves of the Control task wait for. -/
structure Allows (done : List ClientMove) (moves : List ControlMove) : Prop where
  reads : moves.count .reads ≤ done.count (.writes .control)
  uni : moves.count .acceptsUni ≤ done.count .opensUni
  bi : moves.count .acceptsBi ≤ done.count .opensBi
  joins : .joins ∉ moves

instance (done : List ClientMove) (moves : List ControlMove) : Decidable (Allows done moves) :=
  decidable_of_iff (moves.count .reads ≤ done.count (.writes .control) ∧
      moves.count .acceptsUni ≤ done.count .opensUni ∧
      moves.count .acceptsBi ≤ done.count .opensBi ∧ .joins ∉ moves)
    ⟨fun h => ⟨h.1, h.2.1, h.2.2.1, h.2.2.2⟩, fun h => ⟨h.reads, h.uni, h.bi, h.joins⟩⟩

theorem Allows.mono {done : List ClientMove} {moves moves' : List ControlMove}
    (h : Allows done moves') (hmoves : moves <+: moves') : Allows done moves := by
  refine ⟨?_, ?_, ?_, fun hjoins => h.joins (hmoves.subset hjoins)⟩
  · exact (hmoves.sublist.count_le _).trans h.reads
  · exact (hmoves.sublist.count_le _).trans h.uni
  · exact (hmoves.sublist.count_le _).trans h.bi

/-- After these moves of the Control task, and the answer of a handler, the client goes on. -/
def Awaits (done : List ClientMove) (moves : List ControlMove) : ClientMove → Prop
  | .reads .control => done.count (.reads .control) < moves.count .writes
  | .reads stream => .spawns (some stream) ∈ moves ∧ 2 ≤ done.count (.writes stream) ∧
      done.count (.reads stream) = 0
  | .accepts => done.count .accepts < moves.count .opens
  | _ => True

instance (done : List ClientMove) (moves : List ControlMove) (move : ClientMove) :
    Decidable (Awaits done moves move) := by
  unfold Awaits
  split <;> infer_instance

/-- Whatever the client waits for, the Control task can do before it has to wait for more. -/
theorem allows_awaited : ∀ n < clientMoves.length, ∀ move ∈ clientMoves[n]?,
    ∃ m ≤ controlMoves.length, Allows (clientMoves.take n) (controlMoves.take m) ∧
      Awaits (clientMoves.take n) (controlMoves.take m) move := by
  decide +kernel

/-! ## The client's moves -/

section Client

variable {setup : TestSetup} {session : TestSession}

theorem length_clientFrames (stream : Stream) (history : List ClientEvent) :
    (clientFrames stream history).length =
      (history.filterMap clientMove).count (.writes stream) := by
  induction history with
  | nil => rfl
  | cons event history ih =>
      rw [clientFrames] at ih
      rw [clientFrames, List.filterMap_cons, List.filterMap_cons]
      cases event with
      | told output => exact ih
      | asked question answer =>
          cases question with
          | writeFrame written frameType payload =>
              cases answer with
              | error error => exact ih
              | ok value =>
                  simp only [clientMove]
                  by_cases hsame : written = stream
                  · rw [if_pos hsame, hsame, List.count_cons_self, List.length_cons, ih]
                  · rw [if_neg hsame, List.count_cons_of_ne (by simpa using hsame), ih]
          | readFrame read => simpa [clientMove] using ih
          | openUni | openBi | acceptUni => simpa [clientMove] using ih
          | finish | join | sleep => exact ih

theorem TestSetup.Agreed.clientFrames_events (h : setup.Agreed) (stream : Stream) :
    clientFrames stream setup.clientEvents = setup.writes stream := by
  match stream with
  | .control =>
      rw [h.writes_control]
      rfl
  | .uni 0 => rfl
  | .bi 0 => rfl
  | .bi 1 => rfl
  | .bi 2 => rfl
  | .uni (_ + 1) => rfl
  | .bi (_ + 3) => rfl

/-- What the client has written on a stream is as much of it as it has made moves. -/
theorem TestTogether.clientFrames_eq (h : setup.Agreed) (htogether : TestTogether setup session)
    (stream : Stream) : clientFrames stream session.client.history =
      (setup.writes stream).take
        ((session.client.history.filterMap clientMove).count (.writes stream)) := by
  have hbegins : clientFrames stream session.client.history <+: setup.writes stream := by
    rw [← h.clientFrames_events stream]
    exact (htogether.client_history h).filterMap _
  rw [← length_clientFrames]
  exact List.prefix_iff_eq_take.mp hbegins

theorem TestTogether.written_le (h : setup.Agreed) (htogether : TestTogether setup session)
    (stream : Stream) : (session.client.history.filterMap clientMove).count (.writes stream) ≤
      (setup.writes stream).length := by
  rw [← length_clientFrames, htogether.clientFrames_eq h]
  exact List.length_take_le' _ _

/-- The reference client after these events. -/
structure ClientDone (setup : TestSetup) (history : List ClientEvent)
    (reference : ClientReference) : Prop where
  openedUni : reference.openedUni = (history.filterMap clientMove).count .opensUni
  openedBi : reference.openedBi = (history.filterMap clientMove).count .opensBi
  accepted : reference.accepted = (history.filterMap clientMove).count .accepts
  left : ∀ stream, reference.left stream =
    (setup.replies stream).drop ((history.filterMap clientMove).count (.reads stream))

theorem ClientDone.told {history : List ClientEvent} {reference : ClientReference}
    (h : ClientDone setup history reference) (output : TestClient.Output) :
    ClientDone setup (history ++ [.told output]) reference := by
  have hsame : (history ++ [Event.told output]).filterMap clientMove =
      history.filterMap clientMove := by
    rw [List.filterMap_append]
    exact List.append_nil _
  obtain ⟨huni, hbi, haccepted, hleft⟩ := h
  rw [← hsame] at huni hbi haccepted hleft
  exact ⟨huni, hbi, haccepted, hleft⟩

theorem ClientDone.answer {history : List ClientEvent} {reference reference' : ClientReference}
    (h : ClientDone setup history reference) {question : TestClient.Request}
    {answer : question.Answer}
    (hanswer : clientReferenceEnv.answer reference question () = some (answer, reference')) :
    ClientDone setup (history ++ [.asked question answer]) reference' := by
  obtain ⟨huni, hbi, haccepted, hleft⟩ := h
  cases question with
  | writeFrame | finish | sleep | join =>
      cases hanswer
      constructor <;> simpa [clientMove]
  | openUni | openBi | acceptUni =>
      simp only [clientReferenceEnv, Option.ite_none_right_eq_some] at hanswer
      obtain ⟨-, hanswer⟩ := hanswer
      cases hanswer
      constructor <;> simpa [clientMove]
  | readFrame stream =>
      simp only [clientReferenceEnv] at hanswer
      split at hanswer
      · next frame frames hfront =>
          cases hanswer
          constructor
          · simpa [clientMove]
          · simpa [clientMove]
          · simpa [clientMove]
          · intro other
            by_cases hother : other = stream
            · subst hother
              have hrest : frames = ((setup.replies other).drop
                  ((history.filterMap clientMove).count (.reads other))).tail := by
                rw [← hleft, hfront, List.tail_cons]
              simpa [clientMove, ClientReference.leave] using hrest
            · simpa [clientMove, ClientReference.leave, hother, Ne.symm hother] using hleft other
      · cases hanswer

theorem TestTogether.client_done (htogether : TestTogether setup session) :
    ∃ reference, ClientDone setup session.client.history reference ∧
      ClientAt setup session.incoming.frames reference session.client.world := by
  obtain ⟨state, hreaches, htracks⟩ := htogether.client
  rw [htracks.history]
  refine ⟨state.world, ?_, htracks.world⟩
  refine hreaches.ties (J := ClientDone setup) (fun _ _ _ _ _ hdone => hdone.answer)
    (fun _ _ output hdone => hdone.told output) ?_
  exact Running.settle_ties (fun _ _ output hdone => hdone.told output)
    ⟨rfl, rfl, rfl, fun _ => rfl⟩

/-- What the client waits for is the next of its moves. -/
theorem TestTogether.client_next (h : setup.Agreed) (htogether : TestTogether setup session)
    {question : TestClient.Request} {next : question.Answer → TestClient.ClientProg Unit}
    (hprogram : session.client.program = .ask question next) {move : ClientMove}
    (hmove : ∀ answer, clientMove (.asked question answer) = some move) :
    session.client.history.filterMap clientMove ++ [move] <+: clientMoves := by
  obtain ⟨reference, hcompletes⟩ := h.completes_main
  obtain ⟨answer, hnext⟩ :=
    htogether.client.next_event (hcompletes.leads.reaches []) rfl hprogram
  have hmoves := hnext.filterMap clientMove
  rw [List.filterMap_append, List.filterMap_cons_some (hmove answer)] at hmoves
  exact hmoves

end Client

/-! ## The moves of the Control task -/

section Reads

variable {frames : List SentFrame} {read : Nat} {recv : RecvStream}

/-- A read takes the next frame, if there is one. -/
theorem rest_of_read {α : Type} {reader : Reader α}
    (hleaves : ∀ recv, (reader recv).2.items <:+ recv.items)
    (htakes : ∀ (frame : SentFrame) frames cuts ending, frame.2.length ≤ maxFrameLength →
      (reader ⟨wire (frame :: frames), cuts, ending⟩).2.items = wire frames)
    (hfits : ∀ frame ∈ frames, frame.2.length ≤ maxFrameLength)
    (h : recv.items = wire (frames.drop read)) :
    (reader recv).2.items = wire (frames.drop (read + 1)) := by
  obtain ⟨items, cuts, ending⟩ := recv
  cases h
  rw [← List.tail_drop]
  cases hleft : frames.drop read with
  | nil => exact List.suffix_nil.mp (hleaves ⟨wire [], cuts, ending⟩)
  | cons frame rest =>
      have hmem : frame ∈ frames := List.mem_of_mem_drop (hleft ▸ List.mem_cons_self)
      exact htakes frame rest cuts ending (hfits frame hmem)

theorem rest_of_readFullFrame (hfits : ∀ frame ∈ frames, frame.2.length ≤ maxFrameLength)
    (h : recv.items = wire (frames.drop read)) :
    (readFullFrame recv).2.items = wire (frames.drop (read + 1)) := by
  refine rest_of_read (readFrameWith_leavesEnd Server.readerTexts) ?_ hfits h
  intro frame rest cuts ending hframe
  obtain ⟨cuts', htaken⟩ := readFullFrame_wire frame hframe rest cuts ending
  rw [htaken]

theorem rest_of_readFullFrameOpt (hfits : ∀ frame ∈ frames, frame.2.length ≤ maxFrameLength)
    (h : recv.items = wire (frames.drop read)) :
    (readFullFrameOpt recv).2.items = wire (frames.drop (read + 1)) := by
  refine rest_of_read (readFrameOptWith_leavesEnd Server.readerTexts) ?_ hfits h
  intro frame rest cuts ending hframe
  obtain ⟨cuts', htaken⟩ := readFullFrameOpt_wire frame hframe rest cuts ending
  rw [htaken]

theorem eq_nil_of_wire (h : wire frames = []) : frames = [] := by
  cases frames with
  | nil => rfl
  | cons frame frames =>
      have hlength := congrArg List.length h
      rw [wire_cons, List.length_append, SentFrame.bytes, length_encode] at hlength
      simp only [FrameHeader.size, List.length_nil] at hlength
      omega

/-- A read of a frame that has been written is one of what has been sent. -/
theorem onlySent_written {written : Nat} {finished reading : Bool} {before after : RecvStream}
    (hread : read ≤ written) (hafter : after.items = wire (frames.drop read))
    (hreading : reading = true → before.items ≠ []) :
    OnlySent ((wire frames).length - (wire (frames.take written)).length) finished reading
      before after := by
  refine ⟨?_, fun hreads hempty => absurd hempty (hreading hreads)⟩
  have hsplit : (wire frames).length =
      (wire (frames.take written)).length + (wire (frames.drop written)).length := by
    rw [← List.length_append, ← wire_append, List.take_append_drop]
  obtain ⟨taken, htaken⟩ := List.drop_suffix (written - read) (frames.drop read)
  rw [List.drop_drop, Nat.add_sub_cancel' hread] at htaken
  rw [hafter, hsplit, Nat.add_sub_cancel_left, ← htaken, wire_append, List.length_append]
  exact Nat.le_add_left _ _

end Reads

section Control

variable {setup : TestSetup} {session : TestSession} {history : List ControlEvent}
  {reference reference' : Reference}

theorem length_controlFrames (history : List ControlEvent) :
    (controlFrames history).length = (history.filterMap controlMove).count .writes := by
  induction history with
  | nil => rfl
  | cons event history ih =>
      rw [controlFrames] at ih
      rw [controlFrames, List.filterMap_cons, List.filterMap_cons]
      cases event with
      | told output => cases output <;> simpa [controlMove] using ih
      | asked question answer =>
          cases question with
          | writeFrame frameType payload =>
              cases answer with
              | error error => exact ih
              | ok value => simpa [controlMove] using ih
          | writeUni => exact ih
          | readFullFrame | readFullFrameOpt | openUni | acceptUni | acceptBi | join =>
              simpa [controlMove] using ih

/-- The reference of the Control task after these events. -/
structure ControlDone (setup : TestSetup) (history : List ControlEvent)
    (reference : Reference) : Prop where
  opened : reference.serverStreams = (history.filterMap controlMove).count .opens
  control : reference.control.items =
    wire ((setup.writes .control).drop ((history.filterMap controlMove).count .reads))
  uni : reference.uni = setup.uniStreams.drop ((history.filterMap controlMove).count .acceptsUni)
  bi : reference.bi = setup.biStreams.drop ((history.filterMap controlMove).count .acceptsBi)

theorem ControlDone.told (h : ControlDone setup history reference) (output : Output) :
    ControlDone setup (history ++ [.told output]) reference := by
  obtain ⟨hopened, hcontrol, huni, hbi⟩ := h
  cases output with
  | spawn task => constructor <;> simpa [controlMove]
  | logNegotiation outcome | panicking text => constructor <;> simpa [controlMove]

theorem ControlDone.answer (h : ControlDone setup history reference)
    (hfits : ∀ frame ∈ setup.writes .control, frame.2.length ≤ maxFrameLength)
    {question : Request} {answer : question.Answer}
    (hanswer : referenceEnv.answer reference question () = some (answer, reference')) :
    ControlDone setup (history ++ [.asked question answer]) reference' := by
  obtain ⟨hopened, hcontrol, huni, hbi⟩ := h
  cases question with
  | readFullFrame =>
      cases hanswer
      have hrest := rest_of_readFullFrame hfits hcontrol
      constructor <;> simpa [controlMove]
  | readFullFrameOpt =>
      cases hanswer
      have hrest := rest_of_readFullFrameOpt hfits hcontrol
      constructor <;> simpa [controlMove]
  | writeFrame | openUni | writeUni | join =>
      cases hanswer
      constructor <;> simpa [controlMove]
  | acceptUni =>
      simp only [referenceEnv] at hanswer
      split at hanswer
      · next stream uni hmore =>
          cases hanswer
          have hrest : uni = setup.uniStreams.drop
              ((history.filterMap controlMove).count .acceptsUni + 1) := by
            rw [← List.tail_drop, ← huni, hmore, List.tail_cons]
          constructor <;> simpa [controlMove]
      · cases hanswer
  | acceptBi =>
      simp only [referenceEnv] at hanswer
      split at hanswer
      · next stream bi hmore =>
          cases hanswer
          have hrest : bi = setup.biStreams.drop
              ((history.filterMap controlMove).count .acceptsBi + 1) := by
            rw [← List.tail_drop, ← hbi, hmore, List.tail_cons]
          constructor <;> simpa [controlMove]
      · cases hanswer

end Control

end OpenRD.Session
