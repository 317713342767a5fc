import OpenRD.Server.DisplayStream
import OpenRD.Session.Delivery
import OpenRD.TestClient.Exercise

/-!
# The Display receiver

Frames of the Display channel are read one by one, however their stream is cut into reads.
The units of their slices go to the dump, and the receiver's counters follow along.
-/

namespace OpenRD.Session

open OpenRD.Foundation OpenRD.Proto OpenRD.Server
open OpenRD.TestClient (ReceiverRequest ReceiverLog ReceiverProg DisplaySummary sliceNal
  receiveDisplay receiveDisplayFrame kindOf)

/-! ## The receiver's world -/

/-- The Display stream, and what is in the dump file. -/
structure VideoWorld where
  recv : RecvStream
  dump : List UInt8

/-- The dump file can be written. -/
def videoEnv : Env ReceiverRequest ReceiverRequest.Answer ReceiverLog VideoWorld Unit where
  answer world question _ :=
    match question with
    | .readFrameOpt =>
        let (result, recv) := TestClient.readFrameOpt world.recv
        some (result, { world with recv })
    | .createDump _ => some (.ok (), { world with dump := [] })
    | .writeDump bytes => some (.ok (), { world with dump := world.dump ++ bytes })
    | .flushDump => some (.ok (), world)
  perform world _ := world

/-! ## What the frames of a stream amount to -/

def countOf (kind : DisplayFrameType) (frames : List SentFrame) : Nat :=
  (payloadsOf kind frames).length

/-- The units in slices that are long enough to have one. -/
def nalsOf (frames : List SentFrame) : List (List UInt8) :=
  ((payloadsOf .frameSlice frames).filter fun payload => 10 ≤ payload.length).map sliceNal

def nalBytesOf (frames : List SentFrame) : Nat := (nalsOf frames).flatten.length

/-- The units with a start code before each. -/
def annexB (nals : List (List UInt8)) : List UInt8 :=
  nals.flatMap fun nal => [0, 0, 0, 1] ++ nal

/-- The counters, which may have wrapped, after these frames. -/
structure Tallied (summary : DisplaySummary) (seen : List SentFrame) : Prop where
  params : summary.params.toNat = countOf .streamParameters seen % 2 ^ 32
  frames : summary.frames.toNat = countOf .frameHeader seen % 2 ^ 32
  slices : summary.slices.toNat = countOf .frameSlice seen % 2 ^ 32
  ends : summary.ends.toNat = countOf .frameEnd seen % 2 ^ 32
  nalBytes : summary.nalBytes.toNat = nalBytesOf seen % 2 ^ 64

/-- No counter reaches its bound. -/
structure Countable (frames : List SentFrame) : Prop where
  counts : ∀ kind, countOf kind frames < 2 ^ 32
  wireBytes : (wire frames).length < 2 ^ 64
  nalBytes : nalBytesOf frames < 2 ^ 64

theorem countOf_append (kind : DisplayFrameType) (frames frames' : List SentFrame) :
    countOf kind (frames ++ frames') = countOf kind frames + countOf kind frames' := by
  rw [countOf, payloadsOf_append, List.length_append, countOf, countOf]

theorem nalsOf_append (frames frames' : List SentFrame) :
    nalsOf (frames ++ frames') = nalsOf frames ++ nalsOf frames' := by
  rw [nalsOf, payloadsOf_append, List.filter_append, List.map_append, nalsOf, nalsOf]

theorem nalBytesOf_append (frames frames' : List SentFrame) :
    nalBytesOf (frames ++ frames') = nalBytesOf frames + nalBytesOf frames' := by
  rw [nalBytesOf, nalsOf_append, List.flatten_append, List.length_append, nalBytesOf,
    nalBytesOf]

theorem annexB_append (nals nals' : List (List UInt8)) :
    annexB (nals ++ nals') = annexB nals ++ annexB nals' := List.flatMap_append

theorem Countable.mono {frames frames' : List SentFrame} (h : Countable (frames ++ frames')) :
    Countable frames := by
  obtain ⟨hcounts, hwire, hnals⟩ := h
  rw [wire_append, List.length_append] at hwire
  rw [nalBytesOf_append] at hnals
  refine ⟨fun kind => ?_, by omega, by omega⟩
  have hcount := hcounts kind
  rw [countOf_append] at hcount
  omega

/-! ## One frame -/

section Frame

variable {overflowChecks : Bool} {world : VideoWorld} {summary : DisplaySummary}
  {seen : List SentFrame}

theorem completes_addU32 {a b : UInt32}
    (h : overflowChecks = true → a.toNat + b.toNat < 2 ^ 32) :
    videoEnv.Completes (TestClient.Receiver.addU32 overflowChecks a b) world [] (a + b)
      world := by
  unfold TestClient.Receiver.addU32 TestClient.Receiver.add
  rw [if_neg fun hover => (h hover.1).not_ge hover.2]
  exact .pure _

theorem completes_addU64 {a b : UInt64}
    (h : overflowChecks = true → a.toNat + b.toNat < 2 ^ 64) :
    videoEnv.Completes (TestClient.Receiver.addU64 overflowChecks a b) world [] (a + b)
      world := by
  unfold TestClient.Receiver.addU64 TestClient.Receiver.add
  rw [if_neg fun hover => (h hover.1).not_ge hover.2]
  exact .pure _

/-- One more of the frames a counter counts. -/
theorem toNat_add_one {counter : UInt32} {count : Nat}
    (h : counter.toNat = count % 2 ^ 32) : (counter + 1).toNat = (count + 1) % 2 ^ 32 := by
  rw [UInt32.toNat_add, h]
  exact Nat.mod_add_mod count (2 ^ 32) 1

theorem toNat_add_length {counter : UInt64} {count : Nat}
    (h : counter.toNat = count % 2 ^ 64) (length : Nat) :
    (counter + UInt64.ofNat length).toNat = (count + length) % 2 ^ 64 := by
  rw [UInt64.toNat_add, UInt64.toNat_ofNat', h]
  omega

@[simp] theorem countOf_same (kind : DisplayFrameType) (payload : List UInt8) :
    countOf kind (seen ++ [(kind.toU8, payload)]) = countOf kind seen + 1 := by
  rw [countOf_append]
  cases kind <;> rfl

@[simp] theorem countOf_other {kind other : DisplayFrameType} (hne : other ≠ kind)
    (payload : List UInt8) :
    countOf kind (seen ++ [(other.toU8, payload)]) = countOf kind seen := by
  rw [countOf_append]
  cases kind <;> cases other <;> first | rfl | exact absurd rfl hne

theorem nalsOf_other {kind : DisplayFrameType} (hne : kind ≠ .frameSlice)
    (payload : List UInt8) : nalsOf [(kind.toU8, payload)] = [] := by
  cases kind <;> first | rfl | exact absurd rfl hne

@[simp] theorem nalBytesOf_other {kind : DisplayFrameType} (hne : kind ≠ .frameSlice)
    (payload : List UInt8) :
    nalBytesOf (seen ++ [(kind.toU8, payload)]) = nalBytesOf seen := by
  rw [nalBytesOf_append, nalBytesOf, nalBytesOf, nalsOf_other hne]
  rfl

theorem nalsOf_slice (payload : List UInt8) :
    nalsOf [(DisplayFrameType.frameSlice.toU8, payload)] =
      if payload.length ≥ 10 then [sliceNal payload] else [] := by
  have hpayloads : payloadsOf .frameSlice [(DisplayFrameType.frameSlice.toU8, payload)] =
      [payload] := rfl
  rw [nalsOf, hpayloads, List.filter_singleton]
  by_cases hlong : 10 ≤ payload.length
  · rw [decide_eq_true hlong, if_pos hlong]
    rfl
  · rw [decide_eq_false hlong, if_neg hlong]
    rfl

/-- The counters after one more frame. -/
def tally (summary : DisplaySummary) (kind : DisplayFrameType) (payload : List UInt8) :
    DisplaySummary :=
  match kind with
  | .streamParameters => { summary with params := summary.params + 1 }
  | .frameHeader => { summary with frames := summary.frames + 1 }
  | .frameSlice =>
      if payload.length ≥ 10 then
        { summary with
          slices := summary.slices + 1
          nalBytes := summary.nalBytes + UInt64.ofNat (sliceNal payload).length }
      else { summary with slices := summary.slices + 1 }
  | .frameEnd => { summary with ends := summary.ends + 1 }

theorem nalBytesOf_slice (payload : List UInt8) :
    nalBytesOf (seen ++ [(DisplayFrameType.frameSlice.toU8, payload)]) =
      nalBytesOf seen + if payload.length ≥ 10 then (sliceNal payload).length else 0 := by
  have hone : nalBytesOf [(DisplayFrameType.frameSlice.toU8, payload)] =
      if payload.length ≥ 10 then (sliceNal payload).length else 0 := by
    rw [nalBytesOf, nalsOf_slice]
    split
    · rw [List.flatten_singleton]
    · rfl
  rw [nalBytesOf_append, hone]

theorem Tallied.tally (h : Tallied summary seen) (kind : DisplayFrameType)
    (payload : List UInt8) :
    Tallied (tally summary kind payload) (seen ++ [(kind.toU8, payload)]) := by
  obtain ⟨hparams, hframes, hslices, hends, hnals⟩ := h
  cases kind with
  | streamParameters =>
      constructor
      case params => exact (countOf_same .streamParameters payload).symm ▸ toNat_add_one hparams
      all_goals simpa [Session.tally]
  | frameHeader =>
      constructor
      case frames => exact (countOf_same .frameHeader payload).symm ▸ toNat_add_one hframes
      all_goals simpa [Session.tally]
  | frameEnd =>
      constructor
      case ends => exact (countOf_same .frameEnd payload).symm ▸ toNat_add_one hends
      all_goals simpa [Session.tally]
  | frameSlice =>
      by_cases hlong : payload.length ≥ 10
      · rw [Session.tally, if_pos hlong]
        constructor
        case slices => exact (countOf_same .frameSlice payload).symm ▸ toNat_add_one hslices
        case nalBytes =>
          rw [nalBytesOf_slice, if_pos hlong]
          exact toNat_add_length hnals _
        all_goals simpa
      · rw [Session.tally, if_neg hlong]
        constructor
        case slices => exact (countOf_same .frameSlice payload).symm ▸ toNat_add_one hslices
        case nalBytes =>
          rw [nalBytesOf_slice, if_neg hlong]
          exact hnals
        all_goals simpa

theorem tally_wireBytes (summary : DisplaySummary) (kind : DisplayFrameType)
    (payload : List UInt8) : (tally summary kind payload).wireBytes = summary.wireBytes := by
  unfold tally
  split
  case h_3 => split <;> rfl
  all_goals rfl

/-- What a frame adds to the dump. -/
def dumpedBy (kind : DisplayFrameType) (payload : List UInt8) : List UInt8 :=
  annexB (nalsOf [(kind.toU8, payload)])

theorem completes_receiveDisplayFrame (world : VideoWorld) {kind : DisplayFrameType}
    {payload : List UInt8}
    (hcounts : overflowChecks = true → Countable (seen ++ [(kind.toU8, payload)]))
    (h : Tallied summary seen) :
    ∃ events, videoEnv.Completes (receiveDisplayFrame overflowChecks summary kind payload)
      world events (tally summary kind payload)
      { world with dump := world.dump ++ dumpedBy kind payload } := by
  obtain ⟨hparams, hframes, hslices, hends, hnals⟩ := h
  have hroom (hchecks : overflowChecks = true) : countOf kind seen % 2 ^ 32 + 1 < 2 ^ 32 := by
    have hcount := (hcounts hchecks).counts kind
    rw [countOf_same] at hcount
    omega
  have hsame (hne : kind ≠ .frameSlice) :
      { world with dump := world.dump ++ dumpedBy kind payload } = world := by
    rw [dumpedBy, nalsOf_other hne, annexB, List.flatMap_nil, List.append_nil]
  cases kind with
  | streamParameters =>
      rw [hsame nofun]
      have hcounted : videoEnv.Completes (do
          let params ← TestClient.Receiver.addU32 overflowChecks summary.params 1
          return { summary with params } : ReceiverProg DisplaySummary) world []
          (tally summary .streamParameters payload) world :=
        (completes_addU32 fun hchecks => hparams ▸ hroom hchecks).bind (.pure _)
      unfold receiveDisplayFrame
      by_cases hlong : payload.length ≥ 5
      · simp only [if_pos hlong]
        exact ⟨_, (Env.Completes.say _).bind hcounted⟩
      · simp only [if_neg hlong]
        exact ⟨_, hcounted⟩
  | frameHeader =>
      rw [hsame nofun]
      exact ⟨_, (completes_addU32 fun hchecks => hframes ▸ hroom hchecks).bind (.pure _)⟩
  | frameEnd =>
      rw [hsame nofun]
      exact ⟨_, (completes_addU32 fun hchecks => hends ▸ hroom hchecks).bind (.pure _)⟩
  | frameSlice =>
      have hslices (world : VideoWorld) :
          videoEnv.Completes (TestClient.Receiver.addU32 overflowChecks summary.slices 1) world
            [] (summary.slices + 1) world :=
        completes_addU32 fun hchecks => hslices ▸ hroom hchecks
      unfold receiveDisplayFrame tally dumpedBy
      rw [nalsOf_slice]
      by_cases hlong : payload.length ≥ 10
      · simp only [if_pos hlong]
        have hbytes (hchecks : overflowChecks = true) : summary.nalBytes.toNat +
            (UInt64.ofNat (sliceNal payload).length).toNat < 2 ^ 64 := by
          have hbound := (hcounts hchecks).nalBytes
          rw [nalBytesOf_slice, if_pos hlong] at hbound
          rw [hnals, UInt64.toNat_ofNat']
          omega
        have hcode : videoEnv.Completes
            (Prog.call (.writeDump [0, 0, 0, 1]) id : ReceiverProg Unit) world
            [.asked (.writeDump [0, 0, 0, 1]) (.ok ())] ()
            { world with dump := world.dump ++ [0, 0, 0, 1] } := .call () rfl rfl
        have hnal (world : VideoWorld) : videoEnv.Completes
            (Prog.call (.writeDump (sliceNal payload)) id : ReceiverProg Unit) world
            [.asked (.writeDump (sliceNal payload)) (.ok ())] ()
            { world with dump := world.dump ++ sliceNal payload } := .call () rfl rfl
        have hdump : world.dump ++ annexB [sliceNal payload] =
            world.dump ++ [0, 0, 0, 1] ++ sliceNal payload := by
          rw [annexB, List.flatMap_singleton, List.append_assoc]
        rw [hdump]
        exact ⟨_, hcode.bind ((hnal _).bind ((completes_addU64 hbytes).bind
          ((hslices _).bind (.pure _))))⟩
      · simp only [if_neg hlong]
        rw [annexB, List.flatMap_nil, List.append_nil]
        exact ⟨_, (hslices _).bind (.pure _)⟩

end Frame

/-! ## The whole stream -/

def receivePass (overflowChecks : Bool) (summary : DisplaySummary) :
    ReceiverProg (DisplaySummary ⊕ DisplaySummary) := do
  match ← Prog.call .readFrameOpt id with
  | none => return .inr summary
  | some frameBytes => do
      let wireBytes ← TestClient.Receiver.addU64 overflowChecks summary.wireBytes
        (UInt64.ofNat frameBytes.length)
      let (kind, payload) ← kindOf DisplayFrameType.fromU8 frameBytes
      let summary ←
        receiveDisplayFrame overflowChecks { summary with wireBytes } kind payload
      return .inl summary

theorem receiveDisplay_eq (overflowChecks : Bool) (dumpPath : String) :
    receiveDisplay overflowChecks dumpPath = (do
      Prog.call (.createDump dumpPath) (withContext s!"create dump file {dumpPath}")
      let summary ← Prog.iterate ⟨0, 0, 0, 0, 0, 0⟩ (receivePass overflowChecks)
      Prog.call .flushDump id
      .say (.displaySummary summary)) := rfl

/-- All counters after these frames. -/
structure Summarized (summary : DisplaySummary) (seen : List SentFrame) : Prop
    extends Tallied summary seen where
  wireBytes : summary.wireBytes.toNat = (wire seen).length % 2 ^ 64

theorem kindOf_bytes (kind : DisplayFrameType) {payload : List UInt8}
    (h : payload.length ≤ maxFrameLength) :
    kindOf DisplayFrameType.fromU8 (SentFrame.bytes (kind.toU8, payload)) =
      .ok (kind, payload) := by
  have hparse := Frame.parse_encode kind.toU8 h
  have hkind : DisplayFrameType.fromU8 kind.toU8 = .ok kind := by cases kind <;> rfl
  rw [kindOf, SentFrame.bytes, hparse]
  change parsed (DisplayFrameType.fromU8 kind.toU8) >>= _ = _
  rw [hkind]
  rfl

section Stream

variable {overflowChecks : Bool} {summary : DisplaySummary} {seen frames : List SentFrame}

theorem answer_frame {frame : SentFrame} (hfits : frame.2.length ≤ maxFrameLength)
    (frames : List SentFrame) (cuts : List Nat) (dump : List UInt8) :
    ∃ cuts', videoEnv.answer ⟨⟨wire (frame :: frames), cuts, none⟩, dump⟩ .readFrameOpt () =
      some (.ok (some frame.bytes), ⟨⟨wire frames, cuts', none⟩, dump⟩) := by
  obtain ⟨cuts', hread⟩ :=
    readFrameOptWith_encode TestClient.readerTexts frame.1 hfits (wire frames) cuts none
  have hread : TestClient.readFrameOpt ⟨wire (frame :: frames), cuts, none⟩ =
      (.ok (some frame.bytes), ⟨wire frames, cuts', none⟩) := hread
  exact ⟨cuts', by simp only [videoEnv, hread]⟩

theorem length_wire_concat (frames : List SentFrame) (frame : SentFrame) :
    (wire (frames ++ [frame])).length = (wire frames).length + frame.bytes.length := by
  rw [wire_append, List.length_append, wire_cons, wire_nil, List.append_nil]

/-- There is room for the bytes of one more frame. -/
theorem Summarized.room {frame : SentFrame} (h : Summarized summary seen)
    (hbound : (wire (seen ++ [frame])).length < 2 ^ 64) :
    summary.wireBytes.toNat + (UInt64.ofNat frame.bytes.length).toNat < 2 ^ 64 := by
  rw [length_wire_concat] at hbound
  rw [h.wireBytes, UInt64.toNat_ofNat']
  omega

theorem completes_receivePass (frames : List SentFrame) {kind : DisplayFrameType}
    {payload : List UInt8} (hfits : payload.length ≤ maxFrameLength)
    (hcounts : overflowChecks = true → Countable (seen ++ [(kind.toU8, payload)]))
    (h : Summarized summary seen) (cuts : List Nat) (dump : List UInt8) :
    ∃ events summary' cuts', videoEnv.Completes (receivePass overflowChecks summary)
        ⟨⟨wire ((kind.toU8, payload) :: frames), cuts, none⟩, dump⟩ events (.inl summary')
        ⟨⟨wire frames, cuts', none⟩, dump ++ dumpedBy kind payload⟩ ∧
      Summarized summary' (seen ++ [(kind.toU8, payload)]) := by
  obtain ⟨cuts', hanswer⟩ := answer_frame (show (kind.toU8, payload).2.length ≤ _ from hfits)
    frames cuts dump
  have hbytes := toNat_add_length h.wireBytes (SentFrame.bytes (kind.toU8, payload)).length
  have hroom (hchecks : overflowChecks = true) : summary.wireBytes.toNat +
      (UInt64.ofNat (SentFrame.bytes (kind.toU8, payload)).length).toNat < 2 ^ 64 :=
    h.room (hcounts hchecks).wireBytes
  -- the bytes are counted before the frame is looked at
  set wireBytes := summary.wireBytes +
    UInt64.ofNat (SentFrame.bytes (kind.toU8, payload)).length
  have htallied : Tallied { summary with wireBytes } seen :=
    ⟨h.params, h.frames, h.slices, h.ends, h.nalBytes⟩
  obtain ⟨events, hframe⟩ :=
    completes_receiveDisplayFrame ⟨⟨wire frames, cuts', none⟩, dump⟩ hcounts htallied
  refine ⟨_, _, cuts', (Env.Completes.call () hanswer rfl).bind
    ((completes_addU64 hroom).bind ((Env.Completes.lift (kindOf_bytes kind hfits)).bind
      (hframe.bind (.pure _)))), htallied.tally kind payload, ?_⟩
  rw [tally_wireBytes, length_wire_concat]
  exact hbytes

/-- Frames of the Display channel, which the reader's length cap lets through. -/
def DisplayFrames (frames : List SentFrame) : Prop :=
  ∀ frame ∈ frames, (∃ kind : DisplayFrameType, frame.1 = kind.toU8) ∧
    frame.2.length ≤ maxFrameLength

theorem completes_receivePasses (hframes : DisplayFrames frames)
    (hcounts : overflowChecks = true → Countable (seen ++ frames))
    (h : Summarized summary seen) (cuts : List Nat) (dump : List UInt8) :
    ∃ events summary' cuts',
      videoEnv.Completes (.iterate summary (receivePass overflowChecks))
        ⟨⟨wire frames, cuts, none⟩, dump⟩ events summary'
        ⟨⟨[], cuts', none⟩, dump ++ annexB (nalsOf frames)⟩ ∧
      Summarized summary' (seen ++ frames) := by
  induction frames generalizing seen summary cuts dump with
  | nil =>
      obtain ⟨cuts', hread⟩ := readFrameOptWith_ended TestClient.readerTexts cuts
      have hread : TestClient.readFrameOpt ⟨[], cuts, none⟩ = (.ok none, ⟨[], cuts', none⟩) :=
        hread
      have hanswer : videoEnv.answer ⟨⟨wire [], cuts, none⟩, dump⟩ .readFrameOpt () =
          some (.ok none, ⟨⟨[], cuts', none⟩, dump⟩) := by
        simp only [videoEnv, wire_nil, hread]
      have hdump : dump ++ annexB (nalsOf []) = dump := List.append_nil dump
      rw [hdump, List.append_nil]
      exact ⟨_, summary, cuts', .iterate_last ((Env.Completes.call () hanswer rfl).bind
        (.pure _)), h⟩
  | cons frame frames ih =>
      obtain ⟨frameType, payload⟩ := frame
      obtain ⟨⟨kind, rfl⟩, hfits⟩ := hframes _ (.head _)
      have hsplit : seen ++ (kind.toU8, payload) :: frames =
          seen ++ [(kind.toU8, payload)] ++ frames := by simp
      rw [hsplit] at hcounts ⊢
      obtain ⟨events, summary', cuts', hpass, hsummary⟩ := completes_receivePass frames
        hfits (fun hchecks => (hcounts hchecks).mono) h cuts dump
      obtain ⟨events', summary'', cuts'', hrest, hsummary'⟩ := ih
        (fun frame hframe => hframes frame (.tail _ hframe)) hcounts hsummary cuts'
        (dump ++ dumpedBy kind payload)
      have hdump : dump ++ annexB (nalsOf ((kind.toU8, payload) :: frames)) =
          dump ++ dumpedBy kind payload ++ annexB (nalsOf frames) := by
        rw [← List.singleton_append, nalsOf_append, annexB_append, List.append_assoc, dumpedBy]
      rw [hdump]
      exact ⟨_, _, _, hpass.iterate_pass hrest, hsummary'⟩

theorem summarized_nothing : Summarized ⟨0, 0, 0, 0, 0, 0⟩ [] :=
  ⟨⟨rfl, rfl, rfl, rfl, rfl⟩, rfl⟩

/-- The receiver at the start of a stream that holds `frames`; `old` is in the dump file. -/
def receiverStart (overflowChecks : Bool) (dumpPath : String) (frames : List SentFrame)
    (cuts : List Nat) (old : List UInt8) :
    Running ReceiverRequest ReceiverRequest.Answer ReceiverLog VideoWorld Error Unit :=
  videoEnv.settle (receiveDisplay overflowChecks dumpPath) [] ⟨⟨wire frames, cuts, none⟩, old⟩

/-- The receiver's one run ends well, with these bytes in the dump and this summary. -/
def EndsWith (start : Running ReceiverRequest ReceiverRequest.Answer ReceiverLog VideoWorld
    Error Unit) (dump : List UInt8) (summary : DisplaySummary) : Prop :=
  ∃ final, final.outcome = some (.ok ()) ∧ final.world.dump = dump ∧
    final.history.getLast? = some (.told (.displaySummary summary)) ∧
    ∀ state, videoEnv.Reaches start state → videoEnv.Reaches state final

theorem receiver_endsWith (hframes : DisplayFrames frames)
    (hcounts : overflowChecks = true → Countable frames) (dumpPath : String)
    (cuts : List Nat) (old : List UInt8) :
    ∃ summary, Summarized summary frames ∧
      EndsWith (receiverStart overflowChecks dumpPath frames cuts old)
        (annexB (nalsOf frames)) summary := by
  obtain ⟨events, summary, cuts', hpasses, hsummary⟩ :=
    completes_receivePasses hframes hcounts summarized_nothing cuts []
  have hcreate : videoEnv.Completes
      (Prog.call (.createDump dumpPath) (withContext s!"create dump file {dumpPath}") :
        ReceiverProg Unit) ⟨⟨wire frames, cuts, none⟩, old⟩
      [.asked (.createDump dumpPath) (.ok ())] () ⟨⟨wire frames, cuts, none⟩, []⟩ :=
    .call () rfl rfl
  have hflush (world : VideoWorld) : videoEnv.Completes
      (Prog.call .flushDump id : ReceiverProg Unit) world [.asked .flushDump (.ok ())] ()
      world := .call () rfl rfl
  have hsummed : videoEnv.Completes (do
      Prog.call .flushDump id
      .say (.displaySummary summary) : ReceiverProg Unit)
      ⟨⟨[], cuts', none⟩, annexB (nalsOf frames)⟩
      ([.asked .flushDump (.ok ())] ++ [.told (.displaySummary summary)]) ()
      ⟨⟨[], cuts', none⟩, annexB (nalsOf frames)⟩ := (hflush _).bind (.say _)
  have hall : videoEnv.Completes (receiveDisplay overflowChecks dumpPath)
      ⟨⟨wire frames, cuts, none⟩, old⟩ ([.asked (.createDump dumpPath) (.ok ())] ++
        (events ++ ([.asked .flushDump (.ok ())] ++ [.told (.displaySummary summary)]))) ()
      ⟨⟨[], cuts', none⟩, annexB (nalsOf frames)⟩ := by
    rw [receiveDisplay_eq]
    exact hcreate.bind (hpasses.bind hsummed)
  have hreaches := hall.leads.reaches []
  refine ⟨summary, hsummary, _, rfl, rfl, ?_, fun state hstate =>
    hstate.to_final hreaches (Env.advance_ended rfl)⟩
  simp only [Env.settle, List.nil_append, ← List.append_assoc, List.getLast?_concat]

end Stream

end OpenRD.Session
