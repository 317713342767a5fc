import OpenRD.Session.Reference

/-!
# What has been sent and what may be read

Streams are reliable and in order, so what a peer reads of a stream is a part of what
the other has written on it.
-/

namespace OpenRD.Session

open OpenRD.Foundation OpenRD.Proto OpenRD.Server

/-! ## Frames on the wire -/

/-- A frame as it is written: its type and its payload. -/
abbrev SentFrame := UInt8 × List UInt8

def SentFrame.bytes (frame : SentFrame) : List UInt8 := Frame.encode frame.1 frame.2 []

def wire (frames : List SentFrame) : List UInt8 := frames.flatMap SentFrame.bytes

@[simp] theorem wire_nil : wire [] = [] := rfl

@[simp] theorem wire_cons (frame : SentFrame) (frames : List SentFrame) :
    wire (frame :: frames) = frame.bytes ++ wire frames := rfl

theorem wire_append (frames frames' : List SentFrame) :
    wire (frames ++ frames') = wire frames ++ wire frames' := List.flatMap_append

theorem prefix_wire {frames frames' : List SentFrame} (h : frames <+: frames') :
    wire frames <+: wire frames' := by
  obtain ⟨rest, rfl⟩ := h
  rw [wire_append]
  exact List.prefix_append _ _

section Reading

variable (frame : SentFrame) (hfits : frame.2.length ≤ maxFrameLength)
  (frames : List SentFrame) (cuts : List Nat) (ending : Option Error)

include hfits

theorem readFullFrame_wire :
    ∃ cuts', readFullFrame ⟨wire (frame :: frames), cuts, ending⟩ =
      (.ok frame.bytes, ⟨wire frames, cuts', ending⟩) :=
  readFrameWith_encode Server.readerTexts frame.1 hfits (wire frames) cuts ending

theorem readFullFrameOpt_wire :
    ∃ cuts', readFullFrameOpt ⟨wire (frame :: frames), cuts, ending⟩ =
      (.ok (some frame.bytes), ⟨wire frames, cuts', ending⟩) :=
  readFrameOptWith_encode Server.readerTexts frame.1 hfits (wire frames) cuts ending

end Reading

/-- The frames the server has written on the Control stream. -/
def controlFrames (history : List ControlEvent) : List SentFrame :=
  history.filterMap fun
    | .asked (.writeFrame frameType payload) (.ok ()) => some (frameType, payload)
    | _ => none

theorem prefix_controlFrames {history history' : List ControlEvent}
    (h : history <+: history') : controlFrames history <+: controlFrames history' :=
  h.filterMap _

/-- What fits at the front of a stream is there once enough of the stream is. -/
theorem prefix_rest {read contents sent all : List UInt8} {rest : List UInt8}
    (hsent : sent <+: all) (hread : read ++ contents <+: sent) (hall : all = read ++ rest) :
    contents <+: rest := by
  have hinitial : read ++ contents <+: read ++ rest := hall ▸ hread.trans hsent
  exact (List.prefix_append_right_inj read).mp hinitial

/-! ## Reading only what was sent -/

/--
A read that leaves `after` of what it found, `before`, stays clear of the last `unsent`
bytes, and reports the end only of a stream that was finished.
-/
structure OnlySent (unsent : Nat) (finished reading : Bool) (before after : RecvStream) :
    Prop where
  sent : unsent ≤ after.items.length
  ending : reading = true → before.items = [] → finished = true

instance (unsent : Nat) (finished reading : Bool) (before after : RecvStream) :
    Decidable (OnlySent unsent finished reading before after) :=
  decidable_of_iff (unsent ≤ after.items.length ∧
      (reading = true → before.items = [] → finished = true))
    ⟨fun h => ⟨h.1, h.2⟩, fun h => ⟨h.sent, h.ending⟩⟩

def isInput : Task → Bool
  | .input _ => true
  | _ => false

/-- A handler is about to read. -/
def Spawned.reading (spawned : Spawned) : Bool :=
  match spawned.run.program with
  | .ask .readFullFrameOpt _ => true
  | _ => false

/-- The Control task is about to read. -/
def State.reading (session : State) : Bool :=
  match session.program with
  | .ask .readFullFrame _ | .ask .readFullFrameOpt _ => true
  | _ => false

end OpenRD.Session
