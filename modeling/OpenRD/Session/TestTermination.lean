import OpenRD.Session.Termination
import OpenRD.Session.TestJoins

/-!
# Runs of the test client come to an end

A session of the test client is a session of the server.  The client has no loop, and its
receivers read a frame in each pass of theirs, so no run of the whole is without end.
-/

namespace OpenRD.Session

open OpenRD.Foundation OpenRD.Proto OpenRD.Server
open OpenRD.TestClient (Stream Receiver ClientProg ReceiverProg ReceiverRequest kindOf
  DisplaySummary CursorSummary receiveDisplay receiveDisplayFrame receiveCursor
  receiveCursorFrame)

/-! ## The server's side -/

/-- What the server does with the test client it may do with some client. -/
theorem TestReachable.server {setup : TestSetup} {session : TestSession}
    (h : TestReachable setup session) :
    Reachable setup.server (setup.recv .control) session.server := by
  obtain ⟨actions, hrun⟩ := h
  refine invariant_of_run (fun session : TestSession =>
    Reachable setup.server (setup.recv .control) session.server) ?_ ⟨[], rfl⟩ hrun
  intro before action after hreachable hstep
  cases Stepped.of_step hstep with
  | control hserver => exact hreachable.step (.control none) hserver
  | handler hspawned hreliable hworld =>
      exact hreachable.step (.handler _ _) (step_handler_eq_some.mpr ⟨_, hworld, rfl⟩)
  | client hclient =>
      unfold TestSession.opened
      split
      · exact hreachable.step (.openUni _ _) rfl
      · exact hreachable.step (.openBi _ _) rfl
      · exact hreachable
  | receiver hreceiving hrun => exact hreachable

/-! ## The client -/

abbrev ClientEnds {α : Type} (program : ClientProg α) : Prop := program.Ends fun _ _ => false

section Client

variable (cib : Ciborium)

theorem ends_clientValue (stream : Stream) (frameType : UInt8) (value : Cbor) :
    ClientEnds (TestClient.writeValue cib stream frameType value) :=
  .bind (.lift _) fun _ => .call _ _

theorem ends_openChannelOn (kind : ChannelKind) (channelId streamId : UInt64) (label : String) :
    ClientEnds (TestClient.openChannelOn cib kind channelId streamId label) :=
  .bind (.lift _) fun _ => .bind (.call _ _) fun _ =>
    .bind (.call _ _) fun _ => .lift _

theorem ends_exchangeHello : ClientEnds (TestClient.exchangeHello cib) :=
  .bind (.lift _) fun _ => .bind (.call _ _) fun _ =>
    .bind (.call _ _) fun _ => .bind (.lift _) fun _ => .bind (.lift _) fun _ =>
      .say _

theorem ends_authenticate (pin : String) : ClientEnds (TestClient.authenticate cib pin) :=
  .bind (.lift _) fun _ => .bind (.call _ _) fun _ =>
    .bind (.call _ _) fun _ => .lift _

theorem ends_readAnnouncement : ClientEnds (TestClient.readAnnouncement cib) :=
  .bind (.call _ _) fun _ => .bind (.lift _) fun _ => .say _

theorem ends_acceptStreams : ClientEnds TestClient.acceptStreams :=
  .bind (.call _ _) fun _ => .bind (.call _ _) fun _ =>
    .bind (.say _) fun _ => .say _

theorem ends_exerciseInput : ClientEnds (TestClient.openChannelAndExerciseInput cib) :=
  .bind (ends_openChannelOn cib _ _ _ _) fun _ => .bind (.call _ _) fun _ =>
    .bind (.call _ _) fun _ => .bind (.call _ _) fun _ =>
      .bind (.call _ _) fun _ => .call _ _

/-- What the client does on a channel whose answer it reads and prints. -/
theorem ends_exercised {α : Type} {stream : Stream} {first second : ClientProg Unit}
    {receive : List UInt8 → Except Error α} {line : α → TestClient.Line}
    {last : ClientProg Unit} (hfirst : ClientEnds first) (hsecond : ClientEnds second)
    (hlast : ClientEnds last) :
    ClientEnds (do
      first
      second
      let bytes ← TestClient.Client.readFrame stream
      let value ← receive bytes
      TestClient.Client.print (line value)
      last
      TestClient.Client.finish stream) :=
  .bind hfirst fun _ => .bind hsecond fun _ => .bind (.call _ _) fun _ =>
    .bind (.lift _) fun _ => .bind (.say _) fun _ => .bind hlast fun _ => .call _ _

theorem ends_exerciseClipboard : ClientEnds (TestClient.openChannelAndExerciseClipboard cib) :=
  .bind (ends_openChannelOn cib _ _ _ _) fun _ => .bind (.call _ _) fun _ =>
    ends_exercised (ends_clientValue cib _ _ _) (ends_clientValue cib _ _ _)
      (ends_clientValue cib _ _ _)

theorem ends_exerciseChat : ClientEnds (TestClient.openChannelAndExerciseChat cib) :=
  .bind (ends_openChannelOn cib _ _ _ _) fun _ => .bind (.call _ _) fun _ =>
    ends_exercised (ends_clientValue cib _ _ _) (ends_clientValue cib _ _ _)
      (ends_clientValue cib _ _ _)

theorem ends_exerciseFile : ClientEnds (TestClient.openChannelAndExerciseFile cib) :=
  .bind (ends_openChannelOn cib _ _ _ _) fun _ => .bind (.call _ _) fun _ =>
    ends_exercised (ends_clientValue cib _ _ _) (.call _ _)
      (ends_clientValue cib _ _ _)

theorem ends_main (pin : String) : ClientEnds (TestClient.main cib pin) :=
  .bind (ends_exchangeHello cib) fun _ => .bind (ends_authenticate cib pin) fun _ =>
    .bind (ends_readAnnouncement cib) fun _ => .bind (ends_readAnnouncement cib) fun _ =>
      .bind ends_acceptStreams fun _ => .bind (ends_exerciseInput cib) fun _ =>
        .bind (ends_exerciseClipboard cib) fun _ => .bind (ends_exerciseChat cib) fun _ =>
          .bind (ends_exerciseFile cib) fun _ => .bind (.call _ _) fun _ =>
            .bind (.call _ _) fun _ => .bind (.call _ _) fun _ =>
              .bind (.call _ _) fun _ => .say _

end Client

/-! ## The receivers -/

def receiverPaid : (question : ReceiverRequest) → question.Answer → Bool
  | .readFrameOpt, .ok (some _) => true
  | _, _ => false

abbrev ReceiverEnds {α : Type} (program : ReceiverProg α) : Prop := program.Ends receiverPaid

section Receivers

variable {overflowChecks : Bool}

theorem ends_receiverAdd {α : Type} (wide bound : Nat) (sum : α) :
    ReceiverEnds (Receiver.add overflowChecks wide bound sum) := by
  unfold Receiver.add
  split
  · exact .bind (.say _) fun _ => .fail _
  · exact .pure _

theorem ends_receiveDisplayFrame (summary : DisplaySummary) (kind : DisplayFrameType)
    (payload : List UInt8) :
    ReceiverEnds (receiveDisplayFrame overflowChecks summary kind payload) := by
  cases kind with
  | streamParameters =>
      simp only [receiveDisplayFrame]
      split
      · exact .bind (.say _) fun _ => .bind (ends_receiverAdd _ _ _) fun _ => .pure _
      · exact .bind (ends_receiverAdd _ _ _) fun _ => .pure _
  | frameSlice =>
      simp only [receiveDisplayFrame]
      split
      · exact .bind (.call _ _) fun _ => .bind (.call _ _) fun _ =>
          .bind (ends_receiverAdd _ _ _) fun _ => .bind (ends_receiverAdd _ _ _) fun _ => .pure _
      · exact .bind (ends_receiverAdd _ _ _) fun _ => .pure _
  | frameHeader | frameEnd => exact .bind (ends_receiverAdd _ _ _) fun _ => .pure _

theorem ends_receiveCursorFrame (summary : CursorSummary) (kind : CursorFrameType)
    (payload : List UInt8) :
    ReceiverEnds (receiveCursorFrame overflowChecks summary kind payload) := by
  cases kind with
  | cursorShape =>
      simp only [receiveCursorFrame]
      split
      · exact .bind (.say _) fun _ => .bind (ends_receiverAdd _ _ _) fun _ => .pure _
      · exact .bind (ends_receiverAdd _ _ _) fun _ => .pure _
  | cursorMove | cursorHidden => exact .bind (ends_receiverAdd _ _ _) fun _ => .pure _

/-- A loop that reads a frame in each pass. -/
theorem ends_receiving {σ β : Type} {next : σ → Option (List UInt8) → ReceiverProg (σ ⊕ β)}
    (hnone : ∀ state, ∃ value, next state none = pure (.inr value))
    (hsome : ∀ state bytes, ReceiverEnds (next state (some bytes))) (start : σ) :
    ReceiverEnds (Prog.iterate start fun state => Prog.call .readFrameOpt id >>= next state) := by
  refine @Prog.Ends.iterate _ _ _ _ _ _ _ _ (fun result => result.isLeft.toNat)
    (fun state => ?_) (fun _ => Nat.one_pos) start
  have hread : (Prog.call .readFrameOpt id : ReceiverProg _).Spends receiverPaid
      fun frame => frame.isSome.toNat := by
    refine .call fun answer frame hframe => ?_
    cases hframe
    cases frame <;> exact le_rfl
  refine hread.bind fun frame => ?_
  cases frame with
  | none =>
      obtain ⟨value, hvalue⟩ := hnone state
      rw [hvalue]
      exact .pure rfl
  | some bytes =>
      exact .free (hsome state bytes) fun result => Nat.sub_eq_zero_of_le (Bool.toNat_le _)

theorem ends_receiver (dumpPath : String) (receiver : Receiver) :
    ReceiverEnds (receiver.program overflowChecks dumpPath) := by
  cases receiver with
  | display =>
      refine .bind (.call _ _) fun _ => .bind ?_ fun _ => .bind (.call _ _) fun _ => .say _
      refine ends_receiving (fun summary => ⟨summary, rfl⟩) (fun summary bytes => ?_) _
      exact .bind (ends_receiverAdd _ _ _) fun _ => .bind (.lift _) fun _ =>
        .bind (ends_receiveDisplayFrame _ _ _) fun _ => .pure _
  | cursor =>
      refine .bind ?_ fun _ => .say _
      refine ends_receiving (fun summary => ⟨summary, rfl⟩) (fun summary bytes => ?_) _
      exact .bind (ends_receiverAdd _ _ _) fun _ => .bind (.lift _) fun _ =>
        .bind (ends_receiveCursorFrame _ _ _) fun _ => .pure _

end Receivers

/-! ## Their steps -/

def TestSession.clientTask (session : TestSession) : ClientProg Unit × ℕ :=
  (session.client.program, 0)

/-- Every party's program ends. -/
structure TestSession.Ends (session : TestSession) : Prop where
  client : ClientEnds session.client.program
  control : ControlEnds session.server.program
  handlers : ∀ spawned ∈ session.server.world.handlers, HandlerEnds spawned.run.program
  receivers : ∀ receiving ∈ session.client.world.receivers, ReceiverEnds receiving.run.program

section Steps

variable {setup : TestSetup} {session next : TestSession}

abbrev Receiving.Ends (receiving : Receiving) : Prop := ReceiverEnds receiving.run.program

theorem ends_receiving_start (receiver : Receiver) (stream : Nat) :
    (Receiving.start setup.clientChecks setup.dumpPath receiver stream).Ends :=
  Env.ends_settle (ends_receiver setup.dumpPath receiver) [] 0

theorem TestReachable.ends (h : TestReachable setup session) : session.Ends := by
  have hserver := h.server
  obtain ⟨actions, hrun⟩ := h
  obtain ⟨hclient, hreceivers⟩ : ClientEnds session.client.program ∧
      Started Receiving.Ends session.client.history session.client.world := by
    refine invariant_of_run (fun session : TestSession => ClientEnds session.client.program ∧
      Started Receiving.Ends session.client.history session.client.world) ?_ ?_ hrun
    · rintro before action after ⟨hclient, hreceivers⟩ hstep
      cases Stepped.of_step hstep with
      | control hserver | handler hspawned hreliable hworld => exact ⟨hclient, hreceivers⟩
      | client hadvance =>
          exact ⟨Env.ends_advance hclient hadvance,
            hreceivers.advance ends_receiving_start hadvance⟩
      | receiver hreceiving hadvance =>
          refine ⟨hclient, fun receiving hmem => ?_⟩
          rcases List.mem_or_eq_of_mem_set hmem with hmem | rfl
          · exact hreceivers receiving hmem
          · obtain ⟨hends, hspawned⟩ := hreceivers _ (List.mem_of_getElem? hreceiving)
            exact ⟨Env.ends_advance hends hadvance, hspawned⟩
    · refine ⟨Env.ends_settle (ends_main _ _) [] _, ?_⟩
      exact Running.settle_ties (fun _ _ output h => h.perform ends_receiving_start output) nofun
  exact ⟨hclient, reachable_control_ends hserver, reachable_handlers_end hserver,
    fun receiving hmem => (hreceivers receiving hmem).1⟩

end Steps

end OpenRD.Session
