import OpenRD.Server.FileChannel

/-!
# Which chunks are acknowledged

The handler acknowledges a chunk as soon as it has read it.  It compares neither the bytes
of the chunk with their declared number nor its transfer with those that were announced.
-/

namespace OpenRD.Server

open OpenRD.Foundation OpenRD.Proto Handler

variable {server : ServerConfig} {cib : Ciborium} {events before : List HandlerEvent}
  {status : Except HandlerStop Unit} {bytes payload : List UInt8} {frame : ReplyFrame}

/-! ## When an acknowledgement is written -/

/-- A chunk is logged and acknowledged before anything else is done. -/
def AckCaused (bytes : List UInt8) (first : List HandlerEvent) (frame : ReplyFrame) : Prop :=
  ∃ payload, chunkOf bytes = some payload ∧ first = [chunkLogged payload] ∧
    frame = ackOf payload

section Caused

variable {σ : Type} {status : Except HandlerStop σ} {rest first : List HandlerEvent}

theorem not_begunAfter (hcalled : framesCalled rest = []) (hpending : pendingFrame status = none) :
    ¬ BegunAfter rest status first frame := by
  rintro (⟨answer, h⟩ | ⟨-, hframe⟩)
  · have hevent : .asked (.writeFrame frame.1 frame.2) answer ∈ rest := h.mem (by simp)
    have hmem : frame ∈ framesCalled rest := List.mem_filterMap.mpr ⟨_, hevent, rfl⟩
    rw [hcalled] at hmem
    cases hmem
  · rw [hpending] at hframe
    cases hframe

theorem begunAfter_acked {answer : Except Error Unit} (hcalled : framesCalled rest = [])
    (hpending : pendingFrame status = none) :
    BegunAfter (chunkLogged payload :: ackWritten payload answer :: rest) status first frame ↔
      first = [chunkLogged payload] ∧ frame = ackOf payload := by
  obtain ⟨frameType, ack⟩ := frame
  constructor
  · rintro (⟨given, h⟩ | ⟨-, hframe⟩)
    · obtain ⟨tail, rfl, htail⟩ := tail_of_concat_prefix_cons h nofun
      cases tail with
      | nil =>
          cases (List.cons_prefix_cons.mp htail).1
          exact ⟨rfl, rfl⟩
      | cons head tail =>
          have hbegun : BegunAfter rest status tail (frameType, ack) :=
            .inl ⟨given, (List.cons_prefix_cons.mp htail).2⟩
          exact absurd hbegun (not_begunAfter hcalled hpending)
    · rw [hpending] at hframe
      cases hframe
  · rintro ⟨rfl, hframe⟩
    cases hframe
    exact .inl ⟨answer, List.prefix_append [chunkLogged payload, ackWritten payload answer] rest⟩

theorem FilePass.begunAfter {state : FileState} {kind : FileFrameType}
    {status : Except HandlerStop FileState}
    (h : FilePass server state payload kind rest status)
    (hreceived : received FileFrameType.fromU8 bytes = .ok (kind, payload)) :
    BegunAfter rest status first frame ↔ AckCaused bytes first frame := by
  have hlong (hlong : 16 ≤ payload.length)
      (hreceived : received FileFrameType.fromU8 bytes = .ok (.chunk, payload)) :
      AckCaused bytes first frame ↔ first = [chunkLogged payload] ∧ frame = ackOf payload := by
    rw [AckCaused, chunkOf_received hreceived, if_pos hlong]
    simp
  have hnone (hnone : chunkOf bytes = none) : ¬ AckCaused bytes first frame := by
    rintro ⟨payload, hpayload, -⟩
    rw [hnone] at hpayload
    cases hpayload
  cases h with
  | undecoded _ _ hkind =>
      exact iff_of_false (not_begunAfter rfl rfl) (hnone (chunkOf_other hreceived hkind))
  | manifest _ _ hkind =>
      refine iff_of_false (not_begunAfter rfl rfl) (hnone (chunkOf_other hreceived ?_))
      rintro rfl
      simp at hkind
  | short hshort =>
      refine iff_of_false (not_begunAfter rfl rfl) (hnone ?_)
      rw [chunkOf_received hreceived, if_neg hshort.not_ge]
  | writing h =>
      refine Iff.trans ?_ (hlong h hreceived).symm
      constructor
      · rintro (⟨answer, hbefore⟩ | ⟨rfl, hpending⟩)
        · obtain ⟨tail, -, htail⟩ := tail_of_concat_prefix_cons hbefore nofun
          simp at htail
        · exact ⟨rfl, (Option.some.inj hpending).symm⟩
      · rintro ⟨rfl, rfl⟩
        exact .inr ⟨rfl, rfl⟩
  | unwritten h => exact (begunAfter_acked rfl rfl).trans (hlong h hreceived).symm
  | overflow h => exact (begunAfter_acked rfl rfl).trans (hlong h hreceived).symm
  | acked h => exact (begunAfter_acked rfl rfl).trans (hlong h hreceived).symm
  | ended => exact iff_of_false (not_begunAfter rfl rfl) (hnone (chunkOf_other hreceived nofun))
  | unhandled _ hkind =>
      refine iff_of_false (not_begunAfter rfl rfl) (hnone (chunkOf_other hreceived ?_))
      rintro rfl
      simp at hkind

end Caused

theorem handleFileStream_begunAfter (h : (handleFileStream server).ComesTo events status)
    (before : List HandlerEvent) (frame : ReplyFrame) :
    BegunAfter events status before frame ↔ CausedBy AckCaused events before frame := by
  rw [handleFileStream_eq] at h
  refine begunAfter_closed (fun events status hloop => ?_) h before frame
  refine frameLoop_begunAfter ?_ ?_ ?_ hloop
  · rintro bytes error first frame hreceived ⟨payload, hpayload, -⟩
    simp [chunkOf, hreceived] at hpayload
  · exact fun _ _ _ _ hreceived => (handleFileFrame_delivers hreceived).unread
  · exact fun _ bytes kind payload rest status hreceived hcomes first frame =>
      (comesTo_fileFrame hcomes).begunAfter hreceived

/-! ## Whole chunks of announced transfers -/

/-- The value a `StartTransfer` or `Manifest` frame carries. -/
def announcementOf (cib : Ciborium) (bytes : List UInt8) : Option Cbor :=
  (valueOf cib FileFrameType.fromU8 .startTransfer bytes).or
    (valueOf cib FileFrameType.fromU8 .manifest bytes)

/-- The transfer a map names, with its last unsigned integer under key 1. -/
def transferIdOf (v : Cbor) : Option UInt64 :=
  v.asMap.bind fun entries => (readUnder Cbor.asU64 1 Cbor.asU64 entries).getLast?

/-- An announcement read before names the transfer, as the whole integer it carries. -/
def Announced (cib : Ciborium) (earlier : List HandlerEvent) (tid : UInt32) : Prop :=
  ∃ bytes ∈ framesRead earlier, ∃ v, announcementOf cib bytes = some v ∧
    ∃ transferId, transferIdOf v = some transferId ∧ transferId.toNat = tid.toNat

/-- All bytes the chunk declares follow its header, and no others. -/
def Whole (payload : List UInt8) : Prop :=
  (layoutWord payload 3).toNat = payload.length - 16

/-- Each acknowledgement is that the last frame read was a whole chunk, announced before. -/
def AcksJustified (cib : Ciborium) (events : List HandlerEvent)
    (status : Except HandlerStop Unit) : Prop :=
  ∀ before frame, BegunAfter events status before frame →
    frame.1 = FileFrameType.ackChunk.toU8 → frame.2[12]? = some 0 →
      ∃ earlier bytes rest payload, before = earlier ++ frameRead bytes :: rest ∧
        framesRead rest = [] ∧ chunkOf bytes = some payload ∧ Whole payload ∧
        Announced cib earlier (layoutWord payload 0)

theorem frameRead_of_append {last middle rest : List HandlerEvent} {bytes bytes' : List UInt8}
    (h : frameRead bytes :: last = middle ++ frameRead bytes' :: rest)
    (hlast : framesRead last = []) : middle = [] ∧ bytes = bytes' := by
  cases middle with
  | nil =>
      cases h
      exact ⟨rfl, rfl⟩
  | cons head tail =>
      obtain ⟨-, rfl⟩ := List.cons.inj h
      simp [frameRead] at hlast

theorem last_frameRead {earlier earlier' rest rest' : List HandlerEvent}
    {bytes bytes' : List UInt8}
    (h : earlier ++ frameRead bytes :: rest = earlier' ++ frameRead bytes' :: rest')
    (hrest : framesRead rest = []) (hrest' : framesRead rest' = []) :
    earlier = earlier' ∧ bytes = bytes' := by
  obtain ⟨middle, hearlier, hlast⟩ | ⟨middle, hearlier, hlast⟩ := List.append_eq_append_iff.mp h
  · obtain ⟨rfl, rfl⟩ := frameRead_of_append hlast hrest
    exact ⟨by simpa using hearlier.symm, rfl⟩
  · obtain ⟨rfl, rfl⟩ := frameRead_of_append hlast hrest'
    exact ⟨by simpa using hearlier, rfl⟩

/--
At every moment, the handler has begun to write an acknowledgement only for whole chunks of
transfers announced before, exactly when all chunks it has read are such.
-/
theorem acks_justified_iff (h : (handleFileStream server).ComesTo events status) :
    AcksJustified server.cib events status ↔
      ∀ earlier bytes payload, earlier ++ [frameRead bytes] <+: events →
        chunkOf bytes = some payload →
          Whole payload ∧ Announced server.cib earlier (layoutWord payload 0) := by
  have hbegun := handleFileStream_begunAfter h
  constructor
  · intro hacks earlier bytes payload hread hchunk
    have hcaused : CausedBy AckCaused events
        (earlier ++ frameRead bytes :: [chunkLogged payload]) (ackOf payload) :=
      ⟨earlier, bytes, _, hread, rfl, payload, hchunk, rfl, rfl⟩
    have hack := ackFor_ackOf payload
    obtain ⟨earlier', bytes', rest, payload', hsame, hrest, hchunk', hwhole, hannounced⟩ :=
      hacks _ _ ((hbegun _ _).mpr hcaused) hack.type hack.status
    obtain ⟨rfl, rfl⟩ := last_frameRead hsame rfl hrest
    cases hchunk.symm.trans hchunk'
    exact ⟨hwhole, hannounced⟩
  · intro hchunks before frame hframe _ _
    obtain ⟨earlier, bytes, first, hread, rfl, payload, hchunk, rfl, rfl⟩ :=
      (hbegun before frame).mp hframe
    obtain ⟨hwhole, hannounced⟩ := hchunks earlier bytes payload hread hchunk
    exact ⟨earlier, bytes, _, payload, rfl, rfl, hchunk, hwhole, hannounced⟩

/-! ## A truncated chunk and a whole one -/

/-- Of ten bytes declared three arrive, in no transfer that was announced. -/
theorem truncated_acknowledged :
    ∃ earlier rest, (handleFileStream (.rfc8949 true "493817")).ComesTo
        (earlier ++ frameRead (chunkFrame 7 10 [1, 2, 3]) :: rest)
        (.error (.waiting .readFullFrameOpt)) ∧
      chunkOf (chunkFrame 7 10 [1, 2, 3]) = some (chunkPayload 7 10 [1, 2, 3]) ∧
      framesWritten rest =
        [(FileFrameType.ackChunk.toU8, [7, 0, 0, 0, 0, 0, 0, 0, 0, 0, 0, 0, 0])] ∧
      ¬ Whole (chunkPayload 7 10 [1, 2, 3]) ∧
      ¬ Announced .rfc8949 earlier (layoutWord (chunkPayload 7 10 [1, 2, 3]) 0) := by
  have hfits : (chunkPayload 7 10 [1, 2, 3]).length ≤ maxFrameLength := by decide
  refine ⟨[], _, handleFileStream_stopped (frameLoop_handled (received_chunkFrame hfits)
    (comesTo_acked (by decide) (by decide))), chunkOf_chunkFrame hfits, ?_, ?_, ?_⟩
  · decide
  · unfold Whole
    decide
  · rintro ⟨bytes, hbytes, -⟩
    cases hbytes

def announcement : Cbor := .map [(key 1, .uint 7)]

def announcementFrame : List UInt8 :=
  Frame.encode FileFrameType.startTransfer.toU8 (CborWire.encode announcement) []

theorem comesTo_announced (server : ServerConfig) {state : FileState} {v : Cbor}
    (hread : server.cib.fromReader payload = .ok v) :
    (handleFileFrame server state .startTransfer payload).ComesTo
      [.told (.manifest (parseFileManifest v) .startTransfer)]
      (.ok { state with transferIdSeen := (parseFileManifest v).transferId.toUInt32 }) := by
  have hval : withContext "decode StartTransfer/Manifest" (server.cib.read payload) = .ok v :=
    withContext_eq_ok.mpr (Ciborium.read_eq_ok.mpr hread)
  refine Prog.comesTo_lift_bind.mpr ?_
  rw [hval]
  exact .told (.ret _)

/-- The transfer is announced, and its chunk comes whole. -/
theorem whole_acknowledged :
    ∃ events, (handleFileStream (.rfc8949 true "493817")).ComesTo events
        (.error (.waiting .readFullFrameOpt)) ∧
      framesWritten events =
        [(FileFrameType.ackChunk.toU8, [7, 0, 0, 0, 0, 0, 0, 0, 0, 0, 0, 0, 0])] ∧
      AcksJustified .rfc8949 events (.error (.waiting .readFullFrameOpt)) := by
  have hannounced : received FileFrameType.fromU8 announcementFrame =
      .ok (.startTransfer, CborWire.encode announcement) := received_encode rfl (by decide)
  have hread : Ciborium.rfc8949.fromReader (CborWire.encode announcement) = .ok announcement :=
    Ciborium.rfc8949_read (by decide)
  have hfits : (chunkPayload 7 3 [1, 2, 3]).length ≤ maxFrameLength := by decide
  have hcomes := handleFileStream_stopped (frameLoop_continues hannounced
    (comesTo_announced (.rfc8949 true "493817") hread)
    (frameLoop_handled (received_chunkFrame hfits) (comesTo_acked (by decide) (by decide))))
  refine ⟨_, hcomes, by decide, (acks_justified_iff hcomes).mpr ?_⟩
  have hcarried : announcementOf .rfc8949 announcementFrame = some announcement := by
    rw [announcementOf, valueOf_received hannounced, if_pos rfl, hread]
    rfl
  have hother : chunkOf announcementFrame = none := chunkOf_other hannounced nofun
  intro earlier bytes payload hprefix hchunk
  obtain hfirst | ⟨last, rfl, hlast⟩ := concat_prefix_append.mp hprefix
  · have hmem : frameRead bytes ∈ _ := hfirst.mem (by simp)
    have hbytes : bytes = announcementFrame := by simpa [frameRead] using hmem
    rw [hbytes, hother] at hchunk
    cases hchunk
  · cases last with
    | nil =>
        cases (List.cons_prefix_cons.mp hlast).1
        cases (chunkOf_chunkFrame hfits).symm.trans hchunk
        exact ⟨by unfold Whole; decide, announcementFrame, List.mem_cons_self, _, hcarried, _, rfl,
          rfl⟩
    | cons head tail =>
        have htail := (List.cons_prefix_cons.mp hlast).2
        have hmem : frameRead bytes ∈ _ := htail.mem (by simp)
        simp [frameRead, chunkLogged, ackWritten] at hmem

end OpenRD.Server
