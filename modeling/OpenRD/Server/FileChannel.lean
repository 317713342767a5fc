import OpenRD.Server.Causes

/-!
# The File channel

The handler acknowledges each chunk it has read, and counts its acknowledgements.
-/

namespace OpenRD.Server

open OpenRD.Foundation OpenRD.Proto Handler

variable {server : ServerConfig} {events : List HandlerEvent}
  {status : Except HandlerStop Unit} {bytes payload : List UInt8} {kind : FileFrameType}

/-! ## Chunks -/

/-- The payload of a `Chunk` frame, when it holds the header. -/
def chunkOf (bytes : List UInt8) : Option (List UInt8) :=
  match received FileFrameType.fromU8 bytes with
  | .ok (.chunk, payload) => if 16 ≤ payload.length then some payload else none
  | _ => none

def ackOf (payload : List UInt8) : ReplyFrame :=
  (FileFrameType.ackChunk.toU8, ackChunk (layoutChunk payload))

def fileReply (bytes : List UInt8) : Option ReplyFrame := (chunkOf bytes).map ackOf

theorem chunkOf_received (h : received FileFrameType.fromU8 bytes = .ok (.chunk, payload)) :
    chunkOf bytes = if 16 ≤ payload.length then some payload else none := by
  rw [chunkOf, h]

theorem chunkOf_other (h : received FileFrameType.fromU8 bytes = .ok (kind, payload))
    (hkind : kind ≠ .chunk) : chunkOf bytes = none := by
  rw [chunkOf, h]
  cases kind with
  | chunk => exact absurd rfl hkind
  | _ => rfl

theorem handleFileFrame_delivers {state : FileState}
    (h : received FileFrameType.fromU8 bytes = .ok (kind, payload)) :
    Delivers (fileReply bytes) (handleFileFrame server state kind payload) := by
  cases kind with
  | chunk =>
      have hchunk : chunkOf bytes = _ := chunkOf_received h
      by_cases hlong : 16 ≤ payload.length
      · rw [fileReply, hchunk, if_pos hlong, handleFileFrame_long hlong]
        refine delivers_say_bind (delivers_write_bind (delivers_add_bind (fun _ => rfl) ?_))
        exact fun _ => delivers_say_bind (delivers_pure _)
      · rw [fileReply, hchunk, if_neg hlong, handleFileFrame_short (by omega)]
        exact delivers_fail _
  | startTransfer | manifest =>
      rw [fileReply, chunkOf_other h nofun]
      exact delivers_lift_bind (fun _ _ => rfl) fun v hv => delivers_say_bind (delivers_pure _)
  | _ =>
      rw [fileReply, chunkOf_other h nofun]
      exact delivers_say_bind (delivers_pure _)

theorem handleFileStream_eq (server : ServerConfig) : handleFileStream server = (do
    frameLoop FileFrameType.fromU8 (handleFileFrame server) ⟨0, 0⟩
    .say .fileClosed
    finish) := by
  refine congrArg (· >>= fun _ => .say .fileClosed >>= fun _ => finish) ?_
  refine congrArg (Prog.iterate _) (funext fun state => congrArg (Prog.bind _) ?_)
  funext next
  cases next <;> rfl

theorem handleFileStream_stopped {stop : HandlerStop}
    (h : (frameLoop FileFrameType.fromU8 (handleFileFrame server) ⟨0, 0⟩).ComesTo events
      (.error stop)) : (handleFileStream server).ComesTo events (.error stop) := by
  rw [handleFileStream_eq]
  exact h.stopped _

/-- The handler writes the acknowledgement of each chunk it has read, and nothing else. -/
theorem handleFileStream_answering (h : (handleFileStream server).ComesTo events status) :
    Answering fileReply events status := by
  rw [handleFileStream_eq] at h
  refine answering_closed (fun events status hloop => ?_) h
  refine frameLoop_answering ?_ ?_ hloop
  · intro bytes error hreceived
    simp [fileReply, chunkOf, hreceived]
  · exact fun _ bytes kind payload hreceived => handleFileFrame_delivers hreceived

/-! ## All a frame can lead to -/

def chunkLogged (payload : List UInt8) : HandlerEvent :=
  let chunk := layoutChunk payload
  .told (.chunk chunk.tid chunk.fileIdx chunk.chunkIdx chunk.bytes.length
    (fromUtf8Lossy chunk.bytes))

def ackWritten (payload : List UInt8) (answer : Except Error Unit) : HandlerEvent :=
  .asked (.writeFrame FileFrameType.ackChunk.toU8 (ackChunk (layoutChunk payload))) answer

inductive FilePass (server : ServerConfig) (state : FileState) (payload : List UInt8) :
    FileFrameType → List HandlerEvent → Except HandlerStop FileState → Prop where
  | undecoded (kind : FileFrameType) (error : Error) (hkind : kind ≠ .chunk) :
      FilePass server state payload kind [] (.error (.failed error))
  | manifest (kind : FileFrameType) (v : Cbor)
      (hkind : kind = .startTransfer ∨ kind = .manifest)
      (hread : server.cib.fromReader payload = .ok v) :
      FilePass server state payload kind [.told (.manifest (parseFileManifest v) kind)]
        (.ok { state with transferIdSeen := (parseFileManifest v).transferId.toUInt32 })
  | short (h : payload.length < 16) : FilePass server state payload .chunk []
      (.error (.failed (.msg s!"Chunk payload too short ({payload.length} bytes)")))
  | writing (h : 16 ≤ payload.length) :
      FilePass server state payload .chunk [chunkLogged payload]
        (.error (.waiting (.writeFrame FileFrameType.ackChunk.toU8
          (ackChunk (layoutChunk payload)))))
  | unwritten (h : 16 ≤ payload.length) (error : Error) :
      FilePass server state payload .chunk [chunkLogged payload, ackWritten payload (.error error)]
        (.error (.failed error))
  | overflow (h : 16 ≤ payload.length) (hchecks : server.overflowChecks)
      (hcount : 2 ^ 32 ≤ state.chunksAcked.toNat + 1) :
      FilePass server state payload .chunk [chunkLogged payload, ackWritten payload (.ok ()),
          .told (.panicking "attempt to add with overflow")]
        (.error (.failed (.panic "attempt to add with overflow")))
  | acked (h : 16 ≤ payload.length) :
      FilePass server state payload .chunk [chunkLogged payload, ackWritten payload (.ok ()),
          .told (.ackChunk (layoutWord payload 0) (layoutWord payload 2))]
        (.ok { state with chunksAcked := state.chunksAcked + 1 })
  | ended : FilePass server state payload .endTransfer
      [.told (.endTransfer state.transferIdSeen state.chunksAcked)] (.ok state)
  | unhandled (kind : FileFrameType) (hkind : kind = .ackChunk ∨ kind = .cancelTransfer) :
      FilePass server state payload kind [.told (.fileUnhandled kind)] (.ok state)

theorem comesTo_manifest {state : FileState} {rest : List HandlerEvent}
    {status : Except HandlerStop FileState}
    (hkind : kind = .startTransfer ∨ kind = .manifest)
    (h : (do
      let v ← withContext "decode StartTransfer/Manifest" (server.cib.read payload)
      .say (.manifest (parseFileManifest v) kind)
      return { state with transferIdSeen := (parseFileManifest v).transferId.toUInt32 } :
        HandlerProg FileState).ComesTo rest status) :
    FilePass server state payload kind rest status := by
  have hcontinued := Prog.comesTo_lift_bind.mp h
  cases hread : withContext "decode StartTransfer/Manifest" (server.cib.read payload) with
  | error error =>
      rw [hread] at hcontinued
      obtain ⟨rfl, rfl⟩ := hcontinued
      refine .undecoded kind error ?_
      rintro rfl
      simp at hkind
  | ok v =>
      rw [hread] at hcontinued
      obtain ⟨last, rfl, hlast⟩ := Prog.comesTo_say_bind.mp hcontinued
      obtain ⟨rfl, rfl⟩ := Prog.comesTo_pure.mp hlast
      exact .manifest kind v hkind (Ciborium.read_eq_ok.mp (withContext_eq_ok.mp hread))

theorem comesTo_chunk {state : FileState} {rest : List HandlerEvent}
    {status : Except HandlerStop FileState}
    (h : (handleFileFrame server state .chunk payload).ComesTo rest status) :
    FilePass server state payload .chunk rest status := by
  by_cases hlong : 16 ≤ payload.length
  · rw [handleFileFrame_long hlong] at h
    obtain ⟨written, rfl, hwritten⟩ := Prog.comesTo_say_bind.mp h
    obtain ⟨rfl, rfl⟩ | ⟨answer, counted, rfl, hcounted⟩ := Prog.comesTo_call_bind.mp hwritten
    · exact .writing hlong
    · cases answer with
      | error error =>
          obtain ⟨rfl, rfl⟩ := hcounted
          exact .unwritten hlong error
      | ok value =>
          obtain ⟨⟨hchecks, hcount⟩, rfl, rfl⟩ | ⟨-, hsaid⟩ := comesTo_add_bind hcounted
          · exact .overflow hlong hchecks hcount
          · obtain ⟨last, rfl, hlast⟩ := Prog.comesTo_say_bind.mp hsaid
            obtain ⟨rfl, rfl⟩ := Prog.comesTo_pure.mp hlast
            exact .acked hlong
  · rw [handleFileFrame_short (by omega)] at h
    obtain ⟨rfl, rfl⟩ := Prog.comesTo_fail.mp h
    exact .short (by omega)

theorem comesTo_fileFrame {state : FileState} {rest : List HandlerEvent}
    {status : Except HandlerStop FileState}
    (h : (handleFileFrame server state kind payload).ComesTo rest status) :
    FilePass server state payload kind rest status := by
  cases kind with
  | startTransfer => exact comesTo_manifest (.inl rfl) h
  | manifest => exact comesTo_manifest (.inr rfl) h
  | chunk => exact comesTo_chunk h
  | endTransfer =>
      obtain ⟨last, rfl, hlast⟩ := Prog.comesTo_say_bind.mp h
      obtain ⟨rfl, rfl⟩ := Prog.comesTo_pure.mp hlast
      exact .ended
  | ackChunk =>
      obtain ⟨last, rfl, hlast⟩ := Prog.comesTo_say_bind.mp h
      obtain ⟨rfl, rfl⟩ := Prog.comesTo_pure.mp hlast
      exact .unhandled _ (.inl rfl)
  | cancelTransfer =>
      obtain ⟨last, rfl, hlast⟩ := Prog.comesTo_say_bind.mp h
      obtain ⟨rfl, rfl⟩ := Prog.comesTo_pure.mp hlast
      exact .unhandled _ (.inr rfl)

/-! ## The count -/

/-- Each count in the log is that of the acknowledgements written before it. -/
def CountsReported (events : List HandlerEvent) : Prop :=
  ∀ before tid acked, before ++ [.told (.endTransfer tid acked)] <+: events →
    acked.toNat = (framesWritten before).length % 2 ^ 32

section Count

variable {state next : FileState} {rest : List HandlerEvent}

theorem FilePass.counts (h : FilePass server state payload kind rest (.ok next)) :
    next.chunksAcked.toNat = (state.chunksAcked.toNat + (framesWritten rest).length) % 2 ^ 32 := by
  generalize hstatus : (.ok next : Except HandlerStop FileState) = status at h
  cases h with
  | acked =>
      cases hstatus
      exact UInt32.toNat_add _ _
  | manifest | ended | unhandled =>
      cases hstatus
      exact (Nat.mod_eq_of_lt state.chunksAcked.toNat_lt).symm
  | _ => cases hstatus

theorem FilePass.reports {status : Except HandlerStop FileState}
    (h : FilePass server state payload kind rest status) {before : List HandlerEvent}
    {tid acked : UInt32} (hreport : before ++ [.told (.endTransfer tid acked)] <+: rest) :
    before = [] ∧ acked = state.chunksAcked := by
  have hmem : .told (.endTransfer tid acked) ∈ rest := hreport.mem (by simp)
  cases h with
  | ended =>
      cases before with
      | nil =>
          cases (List.cons_prefix_cons.mp hreport).1
          exact ⟨rfl, rfl⟩
      | cons head tail => simp at hreport
  | _ => simp [chunkLogged, ackWritten] at hmem

theorem CountsReported.frame {status : Except HandlerStop FileState}
    (h : CountsReported events)
    (hcount : state.chunksAcked.toNat = (framesWritten events).length % 2 ^ 32)
    (hpass : FilePass server state payload kind rest status) :
    CountsReported (events ++ frameRead bytes :: rest) := by
  intro before tid acked hreport
  obtain hevents | ⟨last, rfl, hlast⟩ := concat_prefix_append.mp hreport
  · exact h before tid acked hevents
  · obtain ⟨tail, rfl, htail⟩ := tail_of_concat_prefix_cons hlast nofun
    obtain ⟨rfl, rfl⟩ := hpass.reports htail
    have hnone : framesWritten [frameRead bytes] = [] := rfl
    rw [hcount, framesWritten_append, hnone, List.append_nil]

theorem CountsReported.quiet {event : HandlerEvent} (h : CountsReported events)
    (hevent : ∀ tid acked, event ≠ .told (.endTransfer tid acked)) :
    CountsReported (events ++ [event]) := by
  intro before tid acked hreport
  obtain hsame | hbefore := List.prefix_concat_iff.mp hreport
  · exact absurd (List.cons.inj (List.append_inj' hsame rfl).2).1.symm (hevent tid acked)
  · exact h before tid acked hbefore

/-- What holds of the counter between frames. -/
structure Counted (state : FileState) (events : List HandlerEvent) : Prop where
  count : state.chunksAcked.toNat = (framesWritten events).length % 2 ^ 32
  reports : CountsReported events

theorem counted_nil : Counted ⟨0, 0⟩ [] :=
  ⟨rfl, fun before tid acked hreport => by simp at hreport⟩

theorem Counted.frame (h : Counted state events)
    (hcomes : (handleFileFrame server state kind payload).ComesTo rest (.ok next)) :
    Counted next (events ++ frameRead bytes :: rest) := by
  have hpass := comesTo_fileFrame hcomes
  refine ⟨?_, h.reports.frame h.count hpass⟩
  rw [hpass.counts, h.count, framesWritten_append, List.length_append, Nat.mod_add_mod]
  rfl

theorem turns_counted (h : Prog.Turns (framePass FileFrameType.fromU8
      (handleFileFrame server)) ⟨0, 0⟩ events state) : Counted state events :=
  turns_induction Counted counted_nil (fun _ _ _ _ _ _ _ hcounted _ => hcounted.frame) h

theorem handleFileStream_counts (h : (handleFileStream server).ComesTo events status) :
    CountsReported events := by
  rw [handleFileStream_eq] at h
  have hloop {events : List HandlerEvent} {status : Except HandlerStop Unit}
      (h : (frameLoop FileFrameType.fromU8 (handleFileFrame server) ⟨0, 0⟩).ComesTo
        events status) : CountsReported events := by
    refine frameLoop_induction Counted (fun _ events => CountsReported events) counted_nil
      (fun _ _ _ _ _ _ _ hcounted _ => hcounted.frame) ?_ ?_ ?_ ?_ h
    · exact fun _ _ hcounted => ⟨hcounted.reports, hcounted.reports,
        hcounted.reports.quiet fun _ _ => nofun⟩
    · exact fun _ _ _ hcounted => hcounted.reports.quiet fun _ _ => nofun
    · exact fun _ _ _ _ hcounted _ => hcounted.reports.quiet fun _ _ => nofun
    · exact fun _ _ _ _ _ _ _ hcounted _ hcomes =>
        hcounted.reports.frame hcounted.count (comesTo_fileFrame hcomes)
  refine closed_induction (fun _ events => CountsReported events) (fun _ _ => hloop) ?_ ?_ h
  · exact fun _ hcounted => hcounted.quiet fun _ _ => nofun
  · exact fun _ _ hcounted => hcounted.quiet fun _ _ => nofun

end Count

/-! ## Chunks that are too short -/

/-- Each chunk read holds its header. -/
def HeadersRead (events : List HandlerEvent) : Prop :=
  ∀ bytes ∈ framesRead events, ∀ payload,
    received FileFrameType.fromU8 bytes = .ok (.chunk, payload) → 16 ≤ payload.length

/-- Each chunk read holds its header, or the last one did not and the handler failed. -/
def HeadersChecked (status : Except HandlerStop Unit) (events : List HandlerEvent) : Prop :=
  HeadersRead events ∨
    ∃ before bytes payload, events = before ++ [frameRead bytes] ∧ HeadersRead before ∧
      received FileFrameType.fromU8 bytes = .ok (.chunk, payload) ∧ payload.length < 16 ∧
      status =
        .error (.failed (.msg s!"Chunk payload too short ({payload.length} bytes)"))

section Headers

variable {state : FileState} {rest : List HandlerEvent}

theorem HeadersRead.quiet (h : HeadersRead events) (hread : framesRead rest = []) :
    HeadersRead (events ++ rest) := by
  intro bytes hbytes
  rw [framesRead_append, hread, List.append_nil] at hbytes
  exact h bytes hbytes

theorem HeadersRead.frame (h : HeadersRead events)
    (hreceived : received FileFrameType.fromU8 bytes = .ok (kind, payload))
    (hread : framesRead rest = []) (hlong : kind = .chunk → 16 ≤ payload.length) :
    HeadersRead (events ++ frameRead bytes :: rest) := by
  intro bytes' hbytes payload' hreceived'
  have hframe : framesRead (frameRead bytes :: rest) = [bytes] := congrArg (bytes :: ·) hread
  rw [framesRead_append, hframe] at hbytes
  rcases List.mem_append.mp hbytes with hbytes | hbytes
  · exact h bytes' hbytes payload' hreceived'
  · rw [List.mem_singleton.mp hbytes, hreceived] at hreceived'
    cases hreceived'
    exact hlong rfl

theorem FilePass.unread {status : Except HandlerStop FileState}
    (h : FilePass server state payload kind rest status) : framesRead rest = [] := by
  cases h <;> rfl

theorem FilePass.long {next : FileState}
    (h : FilePass server state payload kind rest (.ok next)) (hkind : kind = .chunk) :
    16 ≤ payload.length := by
  generalize hstatus : (.ok next : Except HandlerStop FileState) = status at h
  cases h with
  | acked hlong => exact hlong
  | manifest _ _ hmanifest | unhandled _ hmanifest => simp [hkind] at hmanifest
  | ended => cases hkind
  | _ => cases hstatus

theorem FilePass.long_or_short {stop : HandlerStop}
    (h : FilePass server state payload kind rest (.error stop)) :
    (kind = .chunk → 16 ≤ payload.length) ∨
      kind = .chunk ∧ payload.length < 16 ∧ rest = [] ∧
        stop = .failed (.msg s!"Chunk payload too short ({payload.length} bytes)") := by
  generalize hstatus : (.error stop : Except HandlerStop FileState) = status at h
  cases h with
  | undecoded _ _ hkind => exact .inl fun hchunk => absurd hchunk hkind
  | short hshort =>
      cases hstatus
      exact .inr ⟨rfl, hshort, rfl, rfl⟩
  | writing hlong | unwritten hlong | overflow hlong => exact .inl fun _ => hlong
  | _ => cases hstatus

end Headers

theorem handleFileStream_headers (h : (handleFileStream server).ComesTo events status) :
    HeadersChecked status events := by
  rw [handleFileStream_eq] at h
  have hok {events : List HandlerEvent} {status : Except HandlerStop Unit}
      (h : HeadersChecked status events)
      (hstatus : ∀ error, status ≠ .error (.failed error)) : HeadersRead events := by
    obtain hread | ⟨_, _, _, _, _, _, _, hfailed⟩ := h
    · exact hread
    · exact absurd hfailed (hstatus _)
  refine closed_induction HeadersChecked (fun events status hloop => ?_) ?_ ?_ h
  · refine frameLoop_induction (fun _ events => HeadersRead events) HeadersChecked
      (fun bytes hbytes => by cases hbytes) ?_ ?_ ?_ ?_ ?_ hloop
    · intro state events bytes kind payload rest next hread hreceived hcomes
      have hpass := comesTo_fileFrame hcomes
      exact hread.frame hreceived hpass.unread hpass.long
    · exact fun state events hread => ⟨.inl hread, .inl hread, .inl (hread.quiet rfl)⟩
    · exact fun state events error hread => .inl (hread.quiet rfl)
    · intro state events bytes error hread hreceived
      refine .inl fun bytes' hbytes payload' hreceived' => ?_
      rw [framesRead_append] at hbytes
      rcases List.mem_append.mp hbytes with hbytes | hbytes
      · exact hread bytes' hbytes payload' hreceived'
      · rw [List.mem_singleton.mp hbytes, hreceived] at hreceived'
        cases hreceived'
    · intro state events bytes kind payload rest stop hread hreceived hcomes
      have hpass := comesTo_fileFrame hcomes
      obtain hlong | ⟨rfl, hshort, rfl, rfl⟩ := hpass.long_or_short
      · exact .inl (hread.frame hreceived hpass.unread hlong)
      · exact .inr ⟨events, bytes, payload, rfl, hread, hreceived, hshort, rfl⟩
  · exact fun events hchecked => .inl ((hok hchecked nofun).quiet rfl)
  · exact fun events answer hchecked => .inl ((hok hchecked nofun).quiet rfl)

/-! ## Panics -/

/-- The handler panics for want of room in its counter only, never at an index or a slice. -/
def PanicsAtLimit (server : ServerConfig) (events : List HandlerEvent) : Prop :=
  ∀ text, .told (.panicking text) ∈ events →
    text = "attempt to add with overflow" ∧ server.overflowChecks ∧
      2 ^ 32 ≤ (framesWritten events).length

section Panics

variable {state next : FileState} {rest : List HandlerEvent} {text : String}

theorem FilePass.overflowed {status : Except HandlerStop FileState}
    (h : FilePass server state payload kind rest status)
    (hmem : .told (.panicking text) ∈ rest) :
    text = "attempt to add with overflow" ∧ server.overflowChecks ∧
      2 ^ 32 ≤ state.chunksAcked.toNat + (framesWritten rest).length ∧
      ∀ next, status ≠ .ok next := by
  cases h with
  | overflow _ hchecks hcount =>
      simp [chunkLogged, ackWritten] at hmem
      exact ⟨hmem, hchecks, hcount, nofun⟩
  | _ => simp [chunkLogged, ackWritten] at hmem

/-- Between frames the counter is right, and nothing has panicked. -/
structure Steady (state : FileState) (events : List HandlerEvent) : Prop where
  counted : Counted state events
  calm : ∀ text, .told (.panicking text) ∉ events

theorem Steady.frame (h : Steady state events)
    (hcomes : (handleFileFrame server state kind payload).ComesTo rest (.ok next)) :
    Steady next (events ++ frameRead bytes :: rest) := by
  refine ⟨h.counted.frame hcomes, fun text hmem => ?_⟩
  obtain hmem | hmem := List.mem_append.mp hmem
  · exact h.calm text hmem
  · obtain hmem | hmem := List.mem_cons.mp hmem
    · cases hmem
    · exact ((comesTo_fileFrame hcomes).overflowed hmem).2.2.2 next rfl

theorem Steady.panicsAtLimit (h : Steady state events)
    (hrest : ∀ text, .told (.panicking text) ∉ rest) :
    PanicsAtLimit server (events ++ rest) := by
  intro text hmem
  obtain hmem | hmem := List.mem_append.mp hmem
  · exact absurd hmem (h.calm text)
  · exact absurd hmem (hrest text)

theorem Steady.stopped {status : Except HandlerStop FileState} (h : Steady state events)
    (hcomes : (handleFileFrame server state kind payload).ComesTo rest status) :
    PanicsAtLimit server (events ++ frameRead bytes :: rest) := by
  intro text hmem
  obtain hmem | hmem := List.mem_append.mp hmem
  · exact absurd hmem (h.calm text)
  · obtain hmem | hmem := List.mem_cons.mp hmem
    · cases hmem
    · obtain ⟨htext, hchecks, hlimit, -⟩ := (comesTo_fileFrame hcomes).overflowed hmem
      have hcount := h.counted.count
      have hmod := Nat.mod_le (framesWritten events).length (2 ^ 32)
      have hread : framesWritten (frameRead bytes :: rest) = framesWritten rest := rfl
      refine ⟨htext, hchecks, ?_⟩
      rw [framesWritten_append, List.length_append, hread]
      omega

theorem PanicsAtLimit.quiet (h : PanicsAtLimit server events) {event : HandlerEvent}
    (hevent : ∀ text, event ≠ .told (.panicking text)) :
    PanicsAtLimit server (events ++ [event]) := by
  intro text hmem
  obtain hmem | hmem := List.mem_append.mp hmem
  · obtain ⟨htext, hchecks, hlimit⟩ := h text hmem
    refine ⟨htext, hchecks, hlimit.trans ?_⟩
    rw [framesWritten_append, List.length_append]
    exact Nat.le_add_right _ _
  · exact absurd (List.mem_singleton.mp hmem).symm (hevent text)

theorem handleFileStream_panics (h : (handleFileStream server).ComesTo events status) :
    PanicsAtLimit server events := by
  rw [handleFileStream_eq] at h
  refine closed_induction (fun _ events => PanicsAtLimit server events)
    (fun events status hloop => ?_) ?_ ?_ h
  · refine frameLoop_induction Steady (fun _ events => PanicsAtLimit server events)
      ⟨counted_nil, fun _ => List.not_mem_nil⟩ ?_ ?_ ?_ ?_ ?_ hloop
    · exact fun _ _ _ _ _ _ _ hsteady _ hcomes => hsteady.frame hcomes
    · intro state events hsteady
      have hnow : PanicsAtLimit server events :=
        fun text hmem => absurd hmem (hsteady.calm text)
      exact ⟨hnow, hnow, hnow.quiet (by simp)⟩
    · exact fun _ _ _ hsteady => hsteady.panicsAtLimit (by simp)
    · exact fun _ _ _ _ hsteady _ => hsteady.panicsAtLimit (by simp [frameRead])
    · exact fun _ _ _ _ _ _ _ hsteady _ hcomes => hsteady.stopped hcomes
  · exact fun _ hpanics => hpanics.quiet (by simp)
  · exact fun _ _ hpanics => hpanics.quiet (by simp)

end Panics

/-! ## One acknowledgement for each chunk -/

/-- The frame acknowledges the chunk; its words are read as those of the header are. -/
structure AckFor (payload : List UInt8) (frame : ReplyFrame) : Prop where
  type : frame.1 = FileFrameType.ackChunk.toU8
  length : frame.2.length = 13
  transferId : layoutWord frame.2 0 = layoutWord payload 0
  fileIndex : layoutWord frame.2 1 = layoutWord payload 1
  chunkIndex : layoutWord frame.2 2 = layoutWord payload 2
  status : frame.2[12]? = some 0

theorem layoutWord_append {index : Nat} (words rest : List UInt8) (word : UInt32)
    (h : words.length = 4 * index) :
    layoutWord (words ++ (u32ToLeBytes word ++ rest)) index = word := by
  have hlength : (u32ToLeBytes word).length = 4 := length_u32ToLeBytes word
  rw [layoutWord, ← h, List.drop_left, ← hlength, List.take_left, u32OfLeBytes_toLeBytes]

theorem ackFor_ackOf (payload : List UInt8) : AckFor payload (ackOf payload) := by
  have hframe : (ackOf payload).2 = u32ToLeBytes (layoutWord payload 0) ++
      (u32ToLeBytes (layoutWord payload 1) ++ (u32ToLeBytes (layoutWord payload 2) ++ [0])) := by
    simp [ackOf, ackChunk, layoutChunk]
  refine ⟨rfl, by simp [hframe], ?_, ?_, ?_, by simp [hframe]⟩
  · rw [hframe]
    exact layoutWord_append [] _ _ rfl
  · rw [hframe]
    exact layoutWord_append _ _ _ (length_u32ToLeBytes _)
  · rw [hframe, ← List.append_assoc]
    exact layoutWord_append _ _ _ (by simp)

/--
At every moment, the handler has begun to write one acknowledgement for each chunk it has
read, in order, and nothing else, and its counter and its log hold their number.  A chunk
without a header stops it, and none of any length makes it index or slice out of bounds.
-/
theorem chunks_acknowledged (h : (handleFileStream server).ComesTo events status) :
    List.Forall₂ AckFor ((framesRead events).filterMap chunkOf) (framesBegun events status) ∧
    framesWritten events <+: framesBegun events status ∧
    (Idle status → framesWritten events = framesBegun events status) ∧
    CountsReported events ∧
    (∀ state, Prog.Turns (framePass FileFrameType.fromU8 (handleFileFrame server)) ⟨0, 0⟩
      events state → state.chunksAcked.toNat = (framesWritten events).length % 2 ^ 32) ∧
    HeadersChecked status events ∧
    PanicsAtLimit server events ∧
    ∀ bytes kind payload, received FileFrameType.fromU8 bytes = .ok (kind, payload) →
      kind ≠ .chunk → chunkOf bytes = none := by
  have hanswering := handleFileStream_answering h
  refine ⟨?_, hanswering.written, hanswering.idle, handleFileStream_counts h,
    fun state hturns => (turns_counted hturns).count, handleFileStream_headers h,
    handleFileStream_panics h, fun _ _ _ => chunkOf_other⟩
  rw [hanswering.begun]
  refine forall₂_filterMap fun bytes _ => ?_
  unfold fileReply
  cases chunkOf bytes with
  | none => exact .none
  | some payload => exact .some (ackFor_ackOf payload)

/-! ## A chunk is acknowledged -/

theorem comesTo_acked {state : FileState} (hlong : 16 ≤ payload.length)
    (hfits : ¬ (server.overflowChecks ∧ 2 ^ 32 ≤ state.chunksAcked.toNat + 1)) :
    (handleFileFrame server state .chunk payload).ComesTo
      [chunkLogged payload, ackWritten payload (.ok ()),
        .told (.ackChunk (layoutWord payload 0) (layoutWord payload 2))]
      (.ok { state with chunksAcked := state.chunksAcked + 1 }) := by
  have hsum : addU32 server state.chunksAcked 1 = pure (state.chunksAcked + 1) := if_neg hfits
  rw [handleFileFrame_long hlong]
  refine .told (Prog.comesTo_call_bind.mpr (.inr ⟨.ok (), _, rfl, ?_⟩))
  change (addU32 server state.chunksAcked 1 >>= fun chunksAcked => _).ComesTo _ _
  rw [hsum]
  exact .told (.ret _)

def chunkPayload (tid declared : UInt32) (bytes : List UInt8) : List UInt8 :=
  u32ToLeBytes tid ++ (u32ToLeBytes 0 ++ (u32ToLeBytes 0 ++ (u32ToLeBytes declared ++ bytes)))

def chunkFrame (tid declared : UInt32) (bytes : List UInt8) : List UInt8 :=
  Frame.encode FileFrameType.chunk.toU8 (chunkPayload tid declared bytes) []

theorem received_chunkFrame {tid declared : UInt32} {bytes : List UInt8}
    (h : (chunkPayload tid declared bytes).length ≤ maxFrameLength) :
    received FileFrameType.fromU8 (chunkFrame tid declared bytes) =
      .ok (.chunk, chunkPayload tid declared bytes) :=
  received_encode rfl h

theorem chunkOf_chunkFrame {tid declared : UInt32} {bytes : List UInt8}
    (h : (chunkPayload tid declared bytes).length ≤ maxFrameLength) :
    chunkOf (chunkFrame tid declared bytes) = some (chunkPayload tid declared bytes) := by
  rw [chunkOf_received (received_chunkFrame h), if_pos (by simp [chunkPayload]; omega)]

def endTransferFrame : List UInt8 := Frame.encode FileFrameType.endTransfer.toU8 [] []

/-- A chunk, and then the end of its transfer. -/
theorem chunk_acknowledged :
    ∃ events, (handleFileStream (.rfc8949 true "493817")).ComesTo events
        (.error (.waiting .readFullFrameOpt)) ∧
      List.Forall₂ AckFor [chunkPayload 7 3 [1, 2, 3]] (framesWritten events) ∧
      .told (.endTransfer 0 1) ∈ events := by
  have hfits : (chunkPayload 7 3 [1, 2, 3]).length ≤ maxFrameLength := by decide
  have hended : (frameLoop FileFrameType.fromU8 (handleFileFrame (.rfc8949 true "493817"))
      ⟨0, 1⟩).ComesTo [frameRead endTransferFrame, .told (.endTransfer 0 1)]
        (.error (.waiting .readFullFrameOpt)) :=
    frameLoop_handled (received_encode rfl (by decide)) (.told (.ret _))
  have hcomes := handleFileStream_stopped (frameLoop_continues (received_chunkFrame hfits)
    (comesTo_acked (by decide) (by decide)) hended)
  obtain ⟨hacks, -, hidle, -⟩ := chunks_acknowledged hcomes
  refine ⟨_, hcomes, ?_, by simp⟩
  rw [hidle trivial]
  have hchunks : [chunkFrame 7 3 [1, 2, 3], endTransferFrame].filterMap chunkOf =
      [chunkPayload 7 3 [1, 2, 3]] := by
    have hother : chunkOf endTransferFrame = none :=
      chunkOf_other (received_encode rfl (by decide)) nofun
    simp [chunkOf_chunkFrame hfits, hother]
  rw [← hchunks]
  exact hacks

end OpenRD.Server
