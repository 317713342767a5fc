import OpenRD.Session.TestSessions

/-!
# The client's receivers

What a receiver gets of a stream that is still being written is what it gets of the whole
stream, as far as it has come.  So a receiver of Display or Cursor frames never fails.
-/

namespace OpenRD.Session

open OpenRD.Foundation OpenRD.Proto OpenRD.Server
open OpenRD.TestClient (Receiver ReceiverProg CursorSummary kindOf receiveCursor
  receiveCursorFrame)

/-! ## Reading what has been written -/

/-- A reader that takes a frame off the front of a stream. -/
def TakesFrame {α : Type} (reader : Reader α) (wrap : List UInt8 → α) : Prop :=
  ∀ (frame : SentFrame) (frames : List SentFrame) (cuts : List Nat),
    frame.2.length ≤ maxFrameLength →
      ∃ cuts', reader ⟨wire (frame :: frames), cuts, none⟩ =
        (.ok (wrap frame.bytes), ⟨wire frames, cuts', none⟩)

theorem takesFrame_readFrame : TakesFrame TestClient.readFrame id :=
  fun frame frames cuts hfits =>
    readFrameWith_encode TestClient.readerTexts frame.1 hfits (wire frames) cuts none

theorem takesFrame_readFrameOpt : TakesFrame TestClient.readFrameOpt some :=
  fun frame frames cuts hfits =>
    readFrameOptWith_encode TestClient.readerTexts frame.1 hfits (wire frames) cuts none

section Reading

variable {α : Type} {reader : Reader α} {wrap : List UInt8 → α} {seen more : List SentFrame}
  {frame : SentFrame}

theorem incomplete_wire (hfits : frame.2.length ≤ maxFrameLength) :
    incomplete (wire (frame :: more)) = false := by
  rw [incomplete, wire_cons, SentFrame.bytes, Frame.parse_encode_append frame.1 hfits]

theorem readSome_frame (hreader : TakesFrame reader wrap)
    (hfits : frame.2.length ≤ maxFrameLength) (ended : Bool) (cuts : List Nat) :
    readSome reader (seen ++ frame :: more) ended (wire seen).length cuts =
      some (.ok (wrap frame.bytes), (wire (seen ++ [frame])).length) := by
  obtain ⟨cuts', hread⟩ := hreader frame more cuts hfits
  have hrest : (wire (seen ++ frame :: more)).drop (wire seen).length =
      wire (frame :: more) := by
    rw [wire_append, List.drop_left]
  have hlength : (wire (seen ++ frame :: more)).length - (wire more).length =
      (wire (seen ++ [frame])).length := by
    rw [← List.singleton_append, ← List.append_assoc, wire_append, List.length_append,
      Nat.add_sub_cancel]
  rw [readSome, hrest, incomplete_wire hfits, hread]
  exact congrArg (fun read => some (_, read)) hlength

theorem readSome_waits (cuts : List Nat) :
    readSome reader seen false (wire seen).length cuts = none := by
  rw [readSome, List.drop_length]
  rfl

theorem readSome_ended (cuts : List Nat) :
    readSome TestClient.readFrameOpt seen true (wire seen).length cuts =
      some (.ok none, (wire seen).length) := by
  obtain ⟨cuts', hread⟩ := readFrameOptWith_ended TestClient.readerTexts cuts
  have hread : TestClient.readFrameOpt ⟨[], cuts, none⟩ = (.ok none, ⟨[], cuts', none⟩) :=
    hread
  rw [readSome, List.drop_length, hread]
  rfl

end Reading

/-! ## The Cursor receiver -/

/-- Frames of the Cursor channel, which the reader's length cap lets through. -/
def CursorFrames (frames : List SentFrame) : Prop :=
  ∀ frame ∈ frames, (∃ kind : CursorFrameType, frame.1 = kind.toU8) ∧
    frame.2.length ≤ maxFrameLength

/-- No counter is ahead of the number of frames. -/
structure BoundedBy (summary : CursorSummary) (count : Nat) : Prop where
  shapes : summary.shapes.toNat ≤ count
  moves : summary.moves.toNat ≤ count
  hidden : summary.hidden.toNat ≤ count

section Cursor

variable (overflowChecks : Bool) {summary : CursorSummary} {count : Nat}
  {seen frames : List SentFrame}

theorem toNat_add_one_le {counter : UInt32} (h : counter.toNat ≤ count) :
    (counter + 1).toNat ≤ count + 1 := by
  have hsum : (counter + 1).toNat = (counter.toNat + 1) % 2 ^ 32 := UInt32.toNat_add _ _
  omega

theorem completes_receiveCursorFrame (hroom : count + 1 < 2 ^ 32) (h : BoundedBy summary count)
    (kind : CursorFrameType) (payload : List UInt8) (world : VideoWorld) :
    ∃ events summary', videoEnv.Completes
        (receiveCursorFrame overflowChecks summary kind payload) world events summary' world ∧
      BoundedBy summary' (count + 1) ∧ summary'.bytes = summary.bytes := by
  obtain ⟨hshapes, hmoves, hhidden⟩ := h
  have hshapes' := Nat.le_succ_of_le hshapes
  have hmoves' := Nat.le_succ_of_le hmoves
  have hhidden' := Nat.le_succ_of_le hhidden
  have hadd {counter : UInt32} (hcounter : counter.toNat ≤ count) :
      videoEnv.Completes (TestClient.Receiver.addU32 overflowChecks counter 1) world []
        (counter + 1) world := by
    refine completes_addU32 fun _ => ?_
    have hone : (1 : UInt32).toNat = 1 := rfl
    omega
  cases kind with
  | cursorShape =>
      have hcounted : videoEnv.Completes (do
          let shapes ← TestClient.Receiver.addU32 overflowChecks summary.shapes 1
          return { summary with shapes } : ReceiverProg CursorSummary) world [] _ world :=
        (hadd hshapes).bind (.pure _)
      have hwithin : BoundedBy { summary with shapes := summary.shapes + 1 } (count + 1) :=
        ⟨toNat_add_one_le hshapes, hmoves', hhidden'⟩
      unfold receiveCursorFrame
      by_cases hlong : payload.length ≥ 11
      · simp only [if_pos hlong]
        exact ⟨_, _, (Env.Completes.say _).bind hcounted, hwithin, rfl⟩
      · simp only [if_neg hlong]
        exact ⟨_, _, hcounted, hwithin, rfl⟩
  | cursorMove =>
      exact ⟨_, _, (hadd hmoves).bind (.pure _), ⟨hshapes', toNat_add_one_le hmoves, hhidden'⟩,
        rfl⟩
  | cursorHidden =>
      exact ⟨_, _, (hadd hhidden).bind (.pure _), ⟨hshapes', hmoves', toNat_add_one_le hhidden⟩,
        rfl⟩

def cursorPass (overflowChecks : Bool) (summary : CursorSummary) :
    ReceiverProg (CursorSummary ⊕ CursorSummary) := do
  match ← Prog.call .readFrameOpt id with
  | none => return .inr summary
  | some frameBytes => do
      let bytes ← TestClient.Receiver.addU64 overflowChecks summary.bytes
        (UInt64.ofNat frameBytes.length)
      let (kind, payload) ← kindOf CursorFrameType.fromU8 frameBytes
      let summary ← receiveCursorFrame overflowChecks { summary with bytes } kind payload
      return .inl summary

theorem kindOf_cursor (kind : CursorFrameType) {payload : List UInt8}
    (h : payload.length ≤ maxFrameLength) :
    kindOf CursorFrameType.fromU8 (SentFrame.bytes (kind.toU8, payload)) =
      .ok (kind, payload) := by
  have hkind : CursorFrameType.fromU8 kind.toU8 = .ok kind := by cases kind <;> rfl
  rw [kindOf, SentFrame.bytes, Frame.parse_encode kind.toU8 h]
  change parsed (CursorFrameType.fromU8 kind.toU8) >>= _ = _
  rw [hkind]
  rfl

theorem completes_cursorPasses (hframes : CursorFrames frames)
    (hcount : count + frames.length < 2 ^ 32)
    (hbytes : summary.bytes.toNat + (wire frames).length < 2 ^ 64) (h : BoundedBy summary count)
    (cuts : List Nat) (dump : List UInt8) :
    ∃ events summary' world', videoEnv.Completes
      (.iterate summary (cursorPass overflowChecks)) ⟨⟨wire frames, cuts, none⟩, dump⟩ events
      summary' world' := by
  induction frames generalizing summary count cuts with
  | nil =>
      obtain ⟨cuts', hread⟩ := readFrameOptWith_ended TestClient.readerTexts cuts
      have hread : TestClient.readFrameOpt ⟨[], cuts, none⟩ = (.ok none, ⟨[], cuts', none⟩) :=
        hread
      have hanswer : videoEnv.answer ⟨⟨wire [], cuts, none⟩, dump⟩ .readFrameOpt () =
          some (.ok none, ⟨⟨[], cuts', none⟩, dump⟩) := by
        simp only [videoEnv, wire_nil, hread]
      exact ⟨_, summary, _, .iterate_last ((Env.Completes.call () hanswer rfl).bind (.pure _))⟩
  | cons frame frames ih =>
      obtain ⟨frameType, payload⟩ := frame
      obtain ⟨⟨kind, rfl⟩, hfits⟩ := hframes _ (.head _)
      obtain ⟨cuts', hread⟩ := takesFrame_readFrameOpt (kind.toU8, payload) frames cuts hfits
      have hanswer : videoEnv.answer ⟨⟨wire ((kind.toU8, payload) :: frames), cuts, none⟩, dump⟩
          .readFrameOpt () = some (.ok (some (SentFrame.bytes (kind.toU8, payload))),
            ⟨⟨wire frames, cuts', none⟩, dump⟩) := by
        simp only [videoEnv, hread]
      rw [wire_cons, List.length_append] at hbytes
      rw [List.length_cons] at hcount
      have hadded : (summary.bytes + UInt64.ofNat
          (SentFrame.bytes (kind.toU8, payload)).length).toNat =
          summary.bytes.toNat + (SentFrame.bytes (kind.toU8, payload)).length := by
        rw [UInt64.toNat_add, UInt64.toNat_ofNat']
        omega
      have hroom : summary.bytes.toNat + (UInt64.ofNat
          (SentFrame.bytes (kind.toU8, payload)).length).toNat < 2 ^ 64 := by
        rw [UInt64.toNat_ofNat']
        omega
      set bytes := summary.bytes + UInt64.ofNat (SentFrame.bytes (kind.toU8, payload)).length
      have hwithin : BoundedBy { summary with bytes } count := ⟨h.shapes, h.moves, h.hidden⟩
      obtain ⟨events, summary', hframe, hwithin', hsame⟩ := completes_receiveCursorFrame
        overflowChecks (by omega) hwithin kind payload
        ⟨⟨wire frames, cuts', none⟩, dump⟩
      have hpass : videoEnv.Completes (cursorPass overflowChecks summary) _ _ (.inl summary') _ :=
        (Env.Completes.call () hanswer rfl).bind ((completes_addU64 fun _ => hroom).bind
          ((Env.Completes.lift (kindOf_cursor kind hfits)).bind (hframe.bind (.pure _))))
      have hbytes' : summary'.bytes.toNat + (wire frames).length < 2 ^ 64 := by
        rw [hsame, hadded]
        omega
      obtain ⟨events', summary'', world', hrest⟩ := ih
        (fun frame hframe => hframes frame (.tail _ hframe)) (by omega) hbytes' hwithin' cuts'
      exact ⟨_, _, _, hpass.iterate_pass hrest⟩

theorem boundedBy_nothing : BoundedBy ⟨0, 0, 0, (0, 0), 0⟩ 0 := ⟨le_rfl, le_rfl, le_rfl⟩

end Cursor

/-! ## A receiver's run -/

section Run

variable {setup : TestSetup} {receiver : Receiver} {written frames : List SentFrame}

/-- The receiver at the start of a stream that holds all of `frames`. -/
def TestSetup.receiving (setup : TestSetup) (receiver : Receiver) (frames : List SentFrame) :=
  videoEnv.settle (receiver.program setup.clientChecks setup.dumpPath) []
    ⟨⟨wire frames, [], none⟩, []⟩

/-- Its one run ends well. -/
def Finishing (setup : TestSetup) (receiver : Receiver) (frames : List SentFrame) : Prop :=
  ∃ final, final.outcome = some (.ok ()) ∧
    videoEnv.Reaches (setup.receiving receiver frames) final

theorem finishing_display (hframes : DisplayFrames frames)
    (hcounts : setup.clientChecks = true → Countable frames) :
    Finishing setup .display frames := by
  obtain ⟨summary, -, final, houtcome, -, -, hfinal⟩ :=
    receiver_endsWith hframes hcounts setup.dumpPath [] []
  exact ⟨final, houtcome, hfinal _ .refl⟩

theorem finishing_cursor (hframes : CursorFrames frames) (hcount : frames.length < 2 ^ 32)
    (hbytes : (wire frames).length < 2 ^ 64) : Finishing setup .cursor frames := by
  have hstart : (0 : UInt64).toNat + (wire frames).length < 2 ^ 64 := by
    rwa [UInt64.toNat_zero, Nat.zero_add]
  obtain ⟨events, summary, world, hpasses⟩ := completes_cursorPasses
    setup.clientChecks hframes (by rwa [Nat.zero_add]) hstart
    boundedBy_nothing [] []
  have hall : videoEnv.Completes (receiveCursor setup.clientChecks) _ _ () _ :=
    hpasses.bind (.say (TestClient.ReceiverLog.cursorSummary summary))
  exact ⟨_, rfl, hall.leads.reaches []⟩

/-- The receiver has read part of what has been written of `frames`. -/
def ReadTo (written frames : List SentFrame) (world : VideoWorld) (read : Nat) : Prop :=
  ∃ seen left cuts, frames = seen ++ left ∧ seen <+: written ∧
    world.recv = ⟨wire left, cuts, none⟩ ∧ read = (wire seen).length

theorem ReadTo.mono {written' : List SentFrame} {world : VideoWorld} {read : Nat}
    (h : ReadTo written frames world read) (hwritten : written <+: written') :
    ReadTo written' frames world read := by
  obtain ⟨seen, left, cuts, hframes, hseen, hworld⟩ := h
  exact ⟨seen, left, cuts, hframes, hseen.trans hwritten, hworld⟩

abbrev FollowsReceiver (setup : TestSetup) (receiver : Receiver)
    (written frames : List SentFrame) (run : ReceiverRun) : Prop :=
  run.Follows videoEnv (setup.receiving receiver frames) (ReadTo written frames)

theorem followsReceiver_start (stream : Nat) :
    FollowsReceiver setup receiver written frames
      (Receiving.start setup.clientChecks setup.dumpPath receiver stream).run :=
  follows_settle (fun _ _ _ => id) ⟨[], frames, [], rfl, List.nil_prefix, rfl, rfl⟩

theorem ReadTo.answer {world : VideoWorld} {read read' : Nat} {ended : Bool}
    {cuts : List Nat} (h : ReadTo written frames world read)
    (hfits : ∀ frame ∈ written, frame.2.length ≤ maxFrameLength)
    (hwritten : written <+: frames) (hended : ended = true → frames = written)
    {result : Except Error (Option (List UInt8))}
    (hread : readSome TestClient.readFrameOpt written ended read cuts = some (result, read')) :
    ∃ world', videoEnv.answer world .readFrameOpt () = some (result, world') ∧
      ReadTo written frames world' read' := by
  obtain ⟨⟨items, cuts', ending⟩, dump⟩ := world
  obtain ⟨seen, left, _, rfl, ⟨more, rfl⟩, hrecv, rfl⟩ := h
  cases hrecv
  cases more with
  | nil =>
      rw [List.append_nil] at hread hended
      cases ended with
      | false =>
          rw [readSome_waits] at hread
          cases hread
      | true =>
          obtain rfl : left = [] := List.append_right_eq_self.mp (hended rfl)
          rw [readSome_ended] at hread
          cases hread
          obtain ⟨cuts', hnone⟩ := readFrameOptWith_ended TestClient.readerTexts cuts'
          have hnone : TestClient.readFrameOpt ⟨wire [], _, none⟩ =
            (.ok none, ⟨[], cuts', none⟩) := hnone
          refine ⟨⟨⟨[], cuts', none⟩, dump⟩, ?_, seen, [], cuts', rfl, ?_, rfl, rfl⟩
          · simp only [videoEnv, hnone]
          · exact (List.append_nil seen).symm ▸ List.prefix_rfl
  | cons frame more =>
      obtain ⟨later, rfl⟩ := (List.prefix_append_right_inj seen).mp hwritten
      have hframe : frame.2.length ≤ maxFrameLength := hfits frame (by simp)
      rw [readSome_frame takesFrame_readFrameOpt hframe] at hread
      cases hread
      obtain ⟨cuts'', htaken⟩ := takesFrame_readFrameOpt frame (more ++ later) cuts' hframe
      refine ⟨⟨⟨wire (more ++ later), cuts'', none⟩, dump⟩, ?_, seen ++ [frame], more ++ later,
        cuts'', by simp, ⟨more, by simp⟩, rfl, rfl⟩
      simp only [videoEnv, List.cons_append, htaken]

theorem FollowsReceiver.advance {run run' : ReceiverRun} {ended : Bool} {cuts : List Nat}
    (h : FollowsReceiver setup receiver written frames run)
    (hfits : ∀ frame ∈ written, frame.2.length ≤ maxFrameLength)
    (hwritten : written <+: frames) (hended : ended = true → frames = written)
    (hstep : (receiverEnv written ended).advance run cuts = some run') :
    FollowsReceiver setup receiver written frames run' := by
  refine Running.Follows.advance h hstep (fun _ _ _ => id) ?_
  intro state question next answer read _ htracks _ hanswer
  cases question with
  | readFrameOpt => exact htracks.world.answer hfits hwritten hended hanswer
  | createDump | writeDump | flushDump =>
      cases hanswer
      exact ⟨_, rfl, htracks.world⟩

/-- However the stream goes on, a receiver that is over has returned. -/
theorem FollowsReceiver.outcome {run : ReceiverRun} {result : Except Error Unit}
    (h : FollowsReceiver setup receiver written frames run)
    (hfinishing : Finishing setup receiver frames) (houtcome : run.outcome = some result) :
    result = .ok () := by
  obtain ⟨final, hfinal, hreaches⟩ := hfinishing
  have hstops : videoEnv.advance final () = none :=
    Env.advance_ended (by rw [hfinal]; rfl)
  have hended := (Running.Follows.ended h hreaches hstops houtcome).1
  rw [hfinal] at hended
  exact (Option.some.inj hended).symm

end Run

end OpenRD.Session
