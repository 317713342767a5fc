import OpenRD.Session.DisplayReceiver

/-!
# When the Display receiver panics

In a build that checks additions the receiver panics at the first frame that brings one of
its counters of 32 bits to its bound, and at no other.
-/

namespace OpenRD.Session

open OpenRD.Foundation OpenRD.Proto OpenRD.Server
open OpenRD.TestClient (ReceiverRequest ReceiverLog ReceiverProg DisplaySummary sliceNal
  receiveDisplay receiveDisplayFrame kindOf)

/-! ## The units are part of the frames -/

theorem length_sliceNal_le (payload : List UInt8) :
    (sliceNal payload).length ≤ payload.length := by
  rw [sliceNal]
  exact (List.length_take_le _ _).trans ((Nat.min_le_right _ _).trans (Nat.sub_le _ _))

theorem nalBytesOf_frame_le (frame : SentFrame) : nalBytesOf [frame] ≤ frame.bytes.length := by
  obtain ⟨frameType, payload⟩ := frame
  rw [SentFrame.bytes, length_encode]
  by_cases hslice : frameType = DisplayFrameType.frameSlice.toU8
  · rw [hslice, nalBytesOf, nalsOf_slice]
    split
    · rw [List.flatten_singleton]
      exact (length_sliceNal_le payload).trans (Nat.le_add_left _ _)
    · exact Nat.zero_le _
  · have hnone : nalsOf [(frameType, payload)] = [] := by simp [nalsOf, payloadsOf, hslice]
    rw [nalBytesOf, hnone]
    exact Nat.zero_le _

theorem nalBytesOf_le (frames : List SentFrame) : nalBytesOf frames ≤ (wire frames).length := by
  induction frames with
  | nil => exact Nat.zero_le _
  | cons frame frames ih =>
      have hframe := nalBytesOf_frame_le frame
      rw [← List.singleton_append, nalBytesOf_append, List.singleton_append, wire_cons,
        List.length_append]
      exact Nat.add_le_add hframe ih

/-! ## A counter at its bound -/

def additionPanic : Error := .panic "attempt to add with overflow"

section Panics

variable {summary : DisplaySummary} {seen frames : List SentFrame} {world : VideoWorld}

theorem fails_addU32 {a b : UInt32} (h : 2 ^ 32 ≤ a.toNat + b.toNat) :
    videoEnv.Fails (TestClient.Receiver.addU32 true a b) world additionPanic := by
  unfold TestClient.Receiver.addU32 TestClient.Receiver.add
  rw [if_pos ⟨rfl, h⟩]
  exact (Env.Completes.say _).fails_bind Env.fails_fail

/-- The frame is one more of a kind of which there have been as many as can be counted. -/
theorem fails_receiveDisplayFrame (world : VideoWorld) {kind : DisplayFrameType}
    {payload : List UInt8} (h : Tallied summary seen)
    (hbytes : nalBytesOf (seen ++ [(kind.toU8, payload)]) < 2 ^ 64)
    (hfull : countOf kind seen % 2 ^ 32 = 2 ^ 32 - 1) :
    videoEnv.Fails (receiveDisplayFrame true summary kind payload) world additionPanic := by
  obtain ⟨hparams, hframes, hslices, hends, hnals⟩ := h
  have hpanics {counter : UInt32} (hcounter : counter.toNat = countOf kind seen % 2 ^ 32)
      (world : VideoWorld) :
      videoEnv.Fails (TestClient.Receiver.addU32 true counter 1) world additionPanic := by
    apply fails_addU32
    rw [hcounter, hfull]
    rfl
  cases kind with
  | streamParameters =>
      have hcounted := (hpanics hparams world).bind fun params =>
        (pure { summary with params } : ReceiverProg DisplaySummary)
      unfold receiveDisplayFrame
      by_cases hlong : payload.length ≥ 5
      · simp only [if_pos hlong]
        exact (Env.Completes.say _).fails_bind hcounted
      · simp only [if_neg hlong]
        exact hcounted
  | frameHeader => exact (hpanics hframes world).bind _
  | frameEnd => exact (hpanics hends world).bind _
  | frameSlice =>
      unfold receiveDisplayFrame
      by_cases hlong : payload.length ≥ 10
      · simp only [if_pos hlong]
        have hroom : summary.nalBytes.toNat +
            (UInt64.ofNat (sliceNal payload).length).toNat < 2 ^ 64 := by
          rw [nalBytesOf_slice, if_pos hlong] at hbytes
          rw [hnals, UInt64.toNat_ofNat']
          omega
        have hwrite (bytes : List UInt8) (world : VideoWorld) : videoEnv.Completes
            (Prog.call (.writeDump bytes) id : ReceiverProg Unit) world
            [.asked (.writeDump bytes) (.ok ())] ()
            { world with dump := world.dump ++ bytes } := .call () rfl rfl
        exact (hwrite _ _).fails_bind ((hwrite _ _).fails_bind
          ((completes_addU64 fun _ => hroom).fails_bind ((hpanics hslices _).bind _)))
      · simp only [if_neg hlong]
        exact (hpanics hslices world).bind _

theorem fails_receivePass (frames : List SentFrame) {kind : DisplayFrameType}
    {payload : List UInt8} (hfits : payload.length ≤ maxFrameLength)
    (hwire : (wire (seen ++ [(kind.toU8, payload)])).length < 2 ^ 64)
    (hfull : countOf kind seen % 2 ^ 32 = 2 ^ 32 - 1) (h : Summarized summary seen)
    (cuts : List Nat) (dump : List UInt8) :
    videoEnv.Fails (receivePass true summary)
      ⟨⟨wire ((kind.toU8, payload) :: frames), cuts, none⟩, dump⟩ additionPanic := by
  obtain ⟨cuts', hanswer⟩ := answer_frame (show (kind.toU8, payload).2.length ≤ _ from hfits)
    frames cuts dump
  have htallied (wireBytes : UInt64) : Tallied { summary with wireBytes } seen :=
    ⟨h.params, h.frames, h.slices, h.ends, h.nalBytes⟩
  have hframe (wireBytes : UInt64) := fails_receiveDisplayFrame
    ⟨⟨wire frames, cuts', none⟩, dump⟩ (htallied wireBytes)
    ((nalBytesOf_le _).trans_lt hwire) hfull
  exact (Env.Completes.call () hanswer rfl).fails_bind
    ((completes_addU64 fun _ => h.room hwire).fails_bind
      ((Env.Completes.lift (kindOf_bytes kind hfits)).fails_bind ((hframe _).bind _)))

/-- The frames are taken one by one until a counter cannot go on. -/
theorem fails_receivePasses (hframes : DisplayFrames frames)
    (hwire : (wire (seen ++ frames)).length < 2 ^ 64)
    (hseen : ∀ kind, countOf kind seen < 2 ^ 32)
    (hmany : ∃ kind, 2 ^ 32 ≤ countOf kind (seen ++ frames)) (h : Summarized summary seen)
    (cuts : List Nat) (dump : List UInt8) :
    videoEnv.Fails (.iterate summary (receivePass true)) ⟨⟨wire frames, cuts, none⟩, dump⟩
      additionPanic := by
  induction frames generalizing seen summary cuts dump with
  | nil =>
      obtain ⟨kind, hmany⟩ := hmany
      rw [List.append_nil] at hmany
      exact absurd (hseen kind) hmany.not_gt
  | cons frame frames ih =>
      obtain ⟨frameType, payload⟩ := frame
      obtain ⟨⟨kind, rfl⟩, hfits⟩ := hframes _ (.head _)
      rw [List.append_cons] at hwire hmany
      have hfront : (wire (seen ++ [(kind.toU8, payload)])).length < 2 ^ 64 :=
        (prefix_wire (List.prefix_append _ frames)).length_le.trans_lt hwire
      by_cases hroom : countOf kind seen + 1 < 2 ^ 32
      · have hcounts (other : DisplayFrameType) :
            countOf other (seen ++ [(kind.toU8, payload)]) < 2 ^ 32 := by
          by_cases hsame : kind = other
          · rwa [← hsame, countOf_same]
          · rw [countOf_other hsame]
            exact hseen other
        have hcountable : Countable (seen ++ [(kind.toU8, payload)]) :=
          ⟨hcounts, hfront, (nalBytesOf_le _).trans_lt hfront⟩
        obtain ⟨events, summary', cuts', hpass, hsummary⟩ :=
          completes_receivePass frames hfits (fun _ => hcountable) h cuts dump
        exact hpass.iterate_fails (ih (fun frame hframe => hframes frame (.tail _ hframe)) hwire
          hcounts hmany hsummary cuts' _)
      · have hfull : countOf kind seen % 2 ^ 32 = 2 ^ 32 - 1 := by
          have hbound := hseen kind
          omega
        exact (fails_receivePass frames hfits hfront hfull h cuts dump).iterate

end Panics

/-- A stream with too many frames of a kind makes the receiver panic. -/
theorem receiver_panics {frames : List SentFrame} (hframes : DisplayFrames frames)
    (hwire : (wire frames).length < 2 ^ 64) (hmany : ∃ kind, 2 ^ 32 ≤ countOf kind frames)
    (dumpPath : String) (cuts : List Nat) (old : List UInt8) :
    ∃ final, final.outcome = some (.error additionPanic) ∧
      videoEnv.Reaches (receiverStart true dumpPath frames cuts old) final := by
  have hseen (kind : DisplayFrameType) : countOf kind [] < 2 ^ 32 := by cases kind <;> decide
  have hpasses : videoEnv.Fails (.iterate ⟨0, 0, 0, 0, 0, 0⟩ (receivePass true))
      ⟨⟨wire frames, cuts, none⟩, []⟩ additionPanic :=
    fails_receivePasses hframes (by exact hwire) hseen hmany summarized_nothing cuts []
  have hcreate : videoEnv.Completes
      (Prog.call (.createDump dumpPath) (withContext s!"create dump file {dumpPath}") :
        ReceiverProg Unit) ⟨⟨wire frames, cuts, none⟩, old⟩
      [.asked (.createDump dumpPath) (.ok ())] () ⟨⟨wire frames, cuts, none⟩, []⟩ :=
    .call () rfl rfl
  have hall : videoEnv.Fails (receiveDisplay true dumpPath) ⟨⟨wire frames, cuts, none⟩, old⟩
      additionPanic := by
    rw [receiveDisplay_eq]
    exact hcreate.fails_bind (hpasses.bind _)
  obtain ⟨events, world, hleads⟩ := hall.leads
  exact ⟨_, rfl, hleads.reaches []⟩

end OpenRD.Session
