import OpenRD.Foundation.LengthPrefix
import OpenRD.Proto.Input
import OpenRD.Server.Control

/-!
# The length prefixes that the writers emit

Each writer narrows a length with `as`.  The prefix counts the bytes behind it, and
what is read back is what was written, exactly for the lengths that fit the prefix.
-/

namespace OpenRD.Session

open OpenRD.Foundation OpenRD.Proto OpenRD.Server

/-- What a writer appended to the buffer it was given. -/
def appended (write : List UInt8 → List UInt8) (out : List UInt8) : List UInt8 :=
  (write out).drop out.length

/-! ## Frames -/

/-- The prefix counts the payload, and no other frame is parsed back. -/
structure FrameHonest (frameType : UInt8) (payload written : List UInt8) : Prop where
  counts : Counts 4 (written.drop 2)
  recovers : ∀ frame n, Frame.parse written = .ok (frame, n) →
    frame.header.frameType = frameType ∧ frame.payload = payload ∧ n = written.length

theorem appended_encode (frameType : UInt8) (payload out : List UInt8) :
    appended (Frame.encode frameType payload) out =
      0 :: frameType :: writePrefixed 4 payload := by
  have hout : Frame.encode frameType payload out =
      out ++ (0 :: frameType :: writePrefixed 4 payload) := by
    simp [Frame.encode, FrameHeader.writeTo, u32ToLeBytes_ofNat, writePrefixed,
      ProtocolVersion.v0]
  rw [appended, hout, List.drop_left]

/-- The length wraps, and the cap sees only what is left of it. -/
theorem parse_encode_eq (frameType : UInt8) (payload : List UInt8) :
    Frame.parse (0 :: frameType :: writePrefixed 4 payload) =
      if payload.length % 2 ^ 32 > maxFrameLength then
        .error (.oversizedFrame (UInt32.ofNat payload.length))
      else
        .ok (⟨⟨ProtocolVersion.v0, frameType, UInt32.ofNat payload.length⟩,
          payload.take (payload.length % 2 ^ 32)⟩, 6 + payload.length % 2 ^ 32) := by
  have hheader := FrameHeader.parse_writeTo_eq
    ⟨ProtocolVersion.v0, frameType, UInt32.ofNat payload.length⟩ payload
  have hbuf : (⟨ProtocolVersion.v0, frameType, UInt32.ofNat payload.length⟩ :
      FrameHeader).writeTo [] ++ payload = 0 :: frameType :: writePrefixed 4 payload := by
    simp [FrameHeader.writeTo, u32ToLeBytes_ofNat, writePrefixed, ProtocolVersion.v0]
  have hdrop : (0 :: frameType :: writePrefixed 4 payload).drop 6 = payload := by
    have hpayload := drop_writePrefixed 4 payload []
    rwa [List.append_nil, List.append_nil] at hpayload
  have hlength : (0 :: frameType :: writePrefixed 4 payload).length = 6 + payload.length := by
    rw [List.length_cons, List.length_cons, length_writePrefixed]
    omega
  rw [hbuf, UInt32.toNat_ofNat'] at hheader
  unfold Frame.parse
  rw [hheader]
  by_cases hcap : payload.length % 2 ^ 32 > maxFrameLength
  · rw [if_pos hcap, if_pos hcap]
    rfl
  · have hle : payload.length % 2 ^ 32 ≤ payload.length := Nat.mod_le _ _
    rw [if_neg hcap, if_neg hcap]
    simp only [bind, Except.bind, UInt32.toNat_ofNat', FrameHeader.size]
    rw [if_neg (by omega), List.drop_take, hdrop, Nat.add_sub_cancel_left]

theorem frameHonest_iff (frameType : UInt8) (payload out : List UInt8) :
    FrameHonest frameType payload (appended (Frame.encode frameType payload) out) ↔
      payload.length < 2 ^ 32 := by
  have hcounts := counts_writePrefixed_iff 4 payload
  rw [appended_encode]
  constructor
  · intro h
    exact hcounts.mp h.counts
  · intro h
    refine ⟨hcounts.mpr h, ?_⟩
    intro frame n hparse
    rw [parse_encode_eq, Nat.mod_eq_of_lt h, List.take_length] at hparse
    split at hparse
    · cases hparse
    · cases hparse
      refine ⟨rfl, rfl, ?_⟩
      rw [List.length_cons, List.length_cons, length_writePrefixed]
      omega

/-! ## Text -/

structure TextHonest (input : TextInput) (written : List UInt8) : Prop where
  counts : Counts 4 written
  recovers : ∀ read, TextInput.parse written = .ok read → read = input

theorem appended_writeTo (input : TextInput) (out : List UInt8) :
    appended input.writeTo out = input.writeTo [] := by
  rw [appended, input.writeTo_eq, List.drop_left]

theorem textHonest_iff (input : TextInput) (out : List UInt8) :
    TextHonest input (appended input.writeTo out) ↔ (asBytes input.text).length < 2 ^ 32 := by
  have hcounts := counts_writePrefixed_iff 4 (asBytes input.text)
  rw [appended_writeTo]
  constructor
  · intro h
    rw [input.writeTo_nil] at h
    exact hcounts.mp h.counts
  · intro h
    refine ⟨by rw [input.writeTo_nil]; exact hcounts.mpr h, ?_⟩
    intro read hparse
    rw [← List.append_nil (input.writeTo []), TextInput.parse_writeTo_eq_ok,
      Nat.mod_eq_of_lt h, List.take_length] at hparse
    have htext : some input.text = some read.text :=
      (ofUtf8?_utf8 input.text).symm.trans hparse.2
    cases read
    cases htext
    rfl

/-! ## Stream parameters -/

structure StreamParameters where
  codec : UInt8
  width : UInt16
  height : UInt16
  sps : List UInt8
  pps : List UInt8
  deriving DecidableEq, Repr

def u16 (low high : UInt8) : UInt16 := UInt16.ofNat (ofLeBytes [low, high])

theorem u16_toLeBytes (n : UInt16) :
    toLeBytes 2 n.toNat = [UInt8.ofNat n.toNat, UInt8.ofNat (n.toNat / 256)] ∧
      u16 (UInt8.ofNat n.toNat) (UInt8.ofNat (n.toNat / 256)) = n := by
  have hword : ofLeBytes (toLeBytes 2 n.toNat) = n.toNat := ofLeBytes_toLeBytes n.toNat_lt
  exact ⟨rfl, (congrArg UInt16.ofNat hword).trans UInt16.ofNat_toNat⟩

/-- The layout the wire format documents, and what is left behind it. -/
def documentedStreamParameters : List UInt8 → Option (StreamParameters × List UInt8)
  | codec :: w₀ :: w₁ :: h₀ :: h₁ :: fields => do
      let (sps, fields) ← readPrefixed 2 fields
      let (pps, rest) ← readPrefixed 2 fields
      return (⟨codec, u16 w₀ w₁, u16 h₀ h₁, sps, pps⟩, rest)
  | _ => none

structure ParametersHonest (parameters : StreamParameters) (written : List UInt8) : Prop where
  countsSps : announcedLength 2 (written.drop 5) = parameters.sps.length
  countsPps : Counts 2 (written.drop (7 + parameters.sps.length))
  recovers : ∀ read rest, documentedStreamParameters written = some (read, rest) →
    read = parameters ∧ rest = []

def StreamParameters.build (parameters : StreamParameters) : List UInt8 :=
  buildStreamParameters parameters.codec parameters.width parameters.height parameters.sps
    parameters.pps

theorem build_eq (parameters : StreamParameters) :
    parameters.build = parameters.codec :: toLeBytes 2 parameters.width.toNat ++
      toLeBytes 2 parameters.height.toNat ++
        (writePrefixed 2 parameters.sps ++ writePrefixed 2 parameters.pps) := by
  have hlow (bytes : List UInt8) : toLeBytes 2 (bytes.length % 2 ^ 16) =
      toLeBytes 2 bytes.length := toLeBytes_mod 2 bytes.length
  simp only [StreamParameters.build, buildStreamParameters, hlow, writePrefixed,
    List.append_assoc, List.cons_append]

theorem documented_build (parameters : StreamParameters) :
    documentedStreamParameters parameters.build = do
      let (sps, fields) ←
        readPrefixed 2 (writePrefixed 2 parameters.sps ++ writePrefixed 2 parameters.pps)
      let (pps, rest) ← readPrefixed 2 fields
      return ({ parameters with sps, pps }, rest) := by
  obtain ⟨hwidth, hwidth'⟩ := u16_toLeBytes parameters.width
  obtain ⟨hheight, hheight'⟩ := u16_toLeBytes parameters.height
  rw [build_eq, hwidth, hheight]
  simp only [documentedStreamParameters, List.cons_append, List.nil_append, hwidth', hheight']

theorem parametersHonest_iff (parameters : StreamParameters) :
    ParametersHonest parameters parameters.build ↔
      parameters.sps.length < 2 ^ 16 ∧ parameters.pps.length < 2 ^ 16 := by
  have hsps : parameters.build.drop 5 =
      writePrefixed 2 parameters.sps ++ writePrefixed 2 parameters.pps := by
    rw [build_eq]
    rfl
  have hpps : parameters.build.drop (7 + parameters.sps.length) =
      writePrefixed 2 parameters.pps := by
    rw [show 7 + parameters.sps.length = 5 + (2 + parameters.sps.length) by omega,
      ← List.drop_drop, hsps, List.drop_left' (length_writePrefixed 2 parameters.sps)]
  constructor
  · intro h
    have hfirst := h.countsSps
    have hsecond := h.countsPps
    rw [hsps] at hfirst
    rw [hpps] at hsecond
    exact ⟨(announcedLength_eq_iff 2 _ _).mp hfirst,
      (counts_writePrefixed_iff 2 _).mp hsecond⟩
  · rintro ⟨hfirst, hsecond⟩
    refine ⟨?_, ?_, ?_⟩
    · rw [hsps]
      exact (announcedLength_eq_iff 2 _ _).mpr hfirst
    · rw [hpps]
      exact (counts_writePrefixed_iff 2 _).mpr hsecond
    · intro read rest hread
      have hlast : readPrefixed 2 (writePrefixed 2 parameters.pps ++ []) =
          some (parameters.pps, []) := readPrefixed_of_lt [] hsecond
      rw [List.append_nil] at hlast
      rw [documented_build, readPrefixed_of_lt _ hfirst] at hread
      simp only [bind, Option.bind, hlast] at hread
      cases hread
      exact ⟨rfl, rfl⟩

/-! ## Lengths that do not fit -/

theorem mod_lt_length {bytes : List UInt8} {bound : Nat} (hpos : 0 < bound)
    (h : bound ≤ bytes.length) : (bytes.take (bytes.length % bound)).length < bytes.length := by
  rw [List.length_take]
  exact (min_le_left _ _).trans_lt ((Nat.mod_lt _ hpos).trans_le h)

/-- A payload whose wrapped length is within the cap is read back cut short. -/
theorem frame_cut {payload : List UInt8} (frameType : UInt8) (h : 2 ^ 32 ≤ payload.length)
    (hcap : payload.length % 2 ^ 32 ≤ maxFrameLength) :
    ∃ frame n, Frame.parse (Frame.encode frameType payload []) = .ok (frame, n) ∧
      frame.payload.length < payload.length := by
  have hparse := parse_encode_eq frameType payload
  rw [if_neg (by omega)] at hparse
  exact ⟨_, _, (congrArg Frame.parse (appended_encode frameType payload [])).trans hparse,
    mod_lt_length (by decide) h⟩

theorem text_cut (input : TextInput) (h : 2 ^ 32 ≤ (asBytes input.text).length)
    (hcap : (asBytes input.text).length % 2 ^ 32 ≤ 65536) {text : String}
    (htext : ofUtf8? ((asBytes input.text).take ((asBytes input.text).length % 2 ^ 32)) =
      some text) :
    TextInput.parse (input.writeTo []) = .ok ⟨text⟩ ∧
      (asBytes text).length < (asBytes input.text).length := by
  constructor
  · rw [← List.append_nil (input.writeTo []), TextInput.parse_writeTo_eq_ok]
    exact ⟨hcap, htext⟩
  · rw [asBytes, utf8_of_ofUtf8? htext]
    exact mod_lt_length (by decide) h

/-- Enough is left of an `sps` that does not fit for a `pps` to be read out of it. -/
theorem parameters_cut (parameters : StreamParameters)
    (h : 2 ^ 16 ≤ parameters.sps.length) :
    ∃ read rest, documentedStreamParameters parameters.build = some (read, rest) ∧
      read.sps.length < parameters.sps.length := by
  have hleft : 2 + 256 ^ 2 ≤ (parameters.sps.drop (parameters.sps.length % 256 ^ 2) ++
      writePrefixed 2 parameters.pps).length := by
    have hmod := Nat.mod_add_div parameters.sps.length (256 ^ 2)
    have hdiv : 1 ≤ parameters.sps.length / 256 ^ 2 := (Nat.one_le_div_iff (by decide)).mpr h
    rw [List.length_append, List.length_drop, length_writePrefixed]
    omega
  obtain ⟨pps, rest, hlast⟩ := exists_readPrefixed hleft
  refine ⟨{ parameters with
    sps := parameters.sps.take (parameters.sps.length % 256 ^ 2), pps }, rest, ?_,
    mod_lt_length (by decide) h⟩
  rw [documented_build, readPrefixed_writePrefixed]
  simp only [bind, Option.bind, hlast]
  rfl

/--
The prefix counts the bytes behind it, and reading back gives the value or an error,
exactly for the lengths below `2 ^ 32` of a frame or a text and below `2 ^ 16` of a
parameter set.
-/
theorem prefixes_honest_iff (frameType codec : UInt8) (payload out : List UInt8)
    (input : TextInput) (width height : UInt16) (sps pps : List UInt8) :
    (FrameHonest frameType payload (appended (Frame.encode frameType payload) out) ↔
      payload.length < 2 ^ 32) ∧
    (TextHonest input (appended input.writeTo out) ↔ (asBytes input.text).length < 2 ^ 32) ∧
    (ParametersHonest ⟨codec, width, height, sps, pps⟩
        (buildStreamParameters codec width height sps pps) ↔
      sps.length < 2 ^ 16 ∧ pps.length < 2 ^ 16) :=
  ⟨frameHonest_iff frameType payload out, textHonest_iff input out,
    parametersHonest_iff ⟨codec, width, height, sps, pps⟩⟩

theorem length_asBytes_replicate (n : Nat) :
    (asBytes (String.ofList (List.replicate n 'a'))).length = n := by
  rw [asBytes, utf8_ofList, List.length_flatMap]
  simp [show 'a'.utf8Size = 1 from rfl]

/--
The least lengths that do not fit.  The frame and the text are read back empty, and the
parameter sets with a shorter `sps`.
-/
theorem prefixes_lie :
    (¬ FrameHonest 0x01 (List.replicate (2 ^ 32) 0)
        (appended (Frame.encode 0x01 (List.replicate (2 ^ 32) 0)) []) ∧
      ∃ frame n, Frame.parse (Frame.encode 0x01 (List.replicate (2 ^ 32) 0) []) =
        .ok (frame, n) ∧ frame.payload.length < 2 ^ 32) ∧
    (¬ TextHonest ⟨String.ofList (List.replicate (2 ^ 32) 'a')⟩
        (appended (TextInput.writeTo ⟨String.ofList (List.replicate (2 ^ 32) 'a')⟩) []) ∧
      TextInput.parse (TextInput.writeTo ⟨String.ofList (List.replicate (2 ^ 32) 'a')⟩ []) =
        .ok ⟨""⟩) ∧
    ¬ ParametersHonest ⟨0x01, 640, 480, List.replicate (2 ^ 16) 0, []⟩
        (buildStreamParameters 0x01 640 480 (List.replicate (2 ^ 16) 0) []) ∧
      ∃ read rest, documentedStreamParameters
        (buildStreamParameters 0x01 640 480 (List.replicate (2 ^ 16) 0) []) =
          some (read, rest) ∧ read.sps.length < 2 ^ 16 := by
  have hframe : (List.replicate (2 ^ 32) (0 : UInt8)).length = 2 ^ 32 := List.length_replicate
  have htext := length_asBytes_replicate (2 ^ 32)
  have hsps : (List.replicate (2 ^ 16) (0 : UInt8)).length = 2 ^ 16 := List.length_replicate
  refine ⟨⟨?_, ?_⟩, ⟨?_, ?_⟩, ?_, ?_⟩
  · rw [frameHonest_iff, hframe]
    exact lt_irrefl _
  · have hcut := frame_cut 0x01 hframe.ge (by rw [hframe]; decide)
    rwa [hframe] at hcut
  · rw [textHonest_iff, htext]
    exact lt_irrefl _
  · refine (text_cut ⟨String.ofList (List.replicate (2 ^ 32) 'a')⟩ htext.ge ?_ ?_).1
    · rw [htext]
      decide
    · rw [htext, Nat.mod_self, List.take_zero]
      rfl
  · intro h
    have hfits := ((parametersHonest_iff ⟨0x01, 640, 480, _, []⟩).mp h).1
    rw [hsps] at hfits
    exact lt_irrefl _ hfits
  · have hcut := parameters_cut ⟨0x01, 640, 480, List.replicate (2 ^ 16) 0, []⟩ hsps.ge
    rwa [hsps] at hcut

end OpenRD.Session
