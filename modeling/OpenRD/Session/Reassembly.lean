import Mathlib.Data.List.Forall2
import OpenRD.Server.Wire
import OpenRD.TestClient.Wire

/-!
# Frame stream reassembly

A stream is read to its end by calling the optional frame reader until it stops.
The frames it returns, and how it stops, are those of parsing the stream's bytes
frame by frame, whatever pieces the transport delivers them in.
-/

namespace OpenRD.Session

open OpenRD.Foundation OpenRD.Proto

/-! ## Parsing a byte string frame by frame -/

/-- `Frame::parse` applied until it fails, and the bytes it fails on. -/
def parseFrames (buf : List UInt8) : List Frame × List UInt8 :=
  match _h : Frame.parse buf with
  | .error _ => ([], buf)
  | .ok (frame, n) =>
      (frame :: (parseFrames (buf.drop n)).1, (parseFrames (buf.drop n)).2)
  termination_by buf.length
  decreasing_by
    all_goals
      have := Frame.size_le_of_parse _h
      simp only [FrameHeader.size] at this
      rw [List.length_drop]
      omega

theorem parseFrames_error {buf : List UInt8} {error : ParseError}
    (h : Frame.parse buf = .error error) : parseFrames buf = ([], buf) := by
  rw [parseFrames]
  split
  · rfl
  · next hok => rw [h] at hok; cases hok

theorem parseFrames_ok {buf : List UInt8} {frame : Frame} {n : Nat}
    (h : Frame.parse buf = .ok (frame, n)) :
    parseFrames buf =
      (frame :: (parseFrames (buf.drop n)).1, (parseFrames (buf.drop n)).2) := by
  rw [parseFrames]
  split
  · next herror => rw [h] at herror; cases herror
  · next hok => rw [h] at hok; cases hok; rfl

theorem parseFrames_induction {motive : List UInt8 → Prop}
    (stop : ∀ buf error, Frame.parse buf = .error error → motive buf)
    (frame : ∀ buf frame n, Frame.parse buf = .ok (frame, n) →
      motive (buf.drop n) → motive buf) (buf : List UInt8) : motive buf := by
  induction hlen : buf.length using Nat.strongRecOn generalizing buf with
  | ind len ih =>
      cases hparse : Frame.parse buf with
      | error error => exact stop buf error hparse
      | ok result =>
          obtain ⟨parsedFrame, n⟩ := result
          refine frame buf parsedFrame n hparse (ih _ ?_ _ rfl)
          have := Frame.size_le_of_parse hparse
          simp only [FrameHeader.size] at this
          rw [List.length_drop]
          omega

/-- A concatenation of complete frames, each of a length the header allows. -/
def Concatenation (buf : List UInt8) : Prop :=
  ∃ parts : List (List UInt8), buf = parts.flatten ∧ ∀ part ∈ parts, Complete part

theorem parseFrames_append {part : List UInt8} {frame : Frame}
    (h : Frame.parse part = .ok (frame, part.length)) (rest : List UInt8) :
    parseFrames (part ++ rest) =
      (frame :: (parseFrames rest).1, (parseFrames rest).2) := by
  rw [parseFrames_ok (Frame.parse_append h rest), List.drop_left]

theorem concatenation_iff (buf : List UInt8) :
    Concatenation buf ↔ (parseFrames buf).2 = [] := by
  constructor
  · rintro ⟨parts, rfl, hparts⟩
    induction parts with
    | nil => rw [List.flatten_nil, parseFrames_error rfl]
    | cons part parts ih =>
        obtain ⟨frame, hframe⟩ := hparts part List.mem_cons_self
        rw [List.flatten_cons, parseFrames_append hframe]
        exact ih fun part hmem => hparts part (List.mem_cons_of_mem _ hmem)
  · induction buf using parseFrames_induction with
    | stop buf error hparse =>
        intro hrest
        rw [parseFrames_error hparse] at hrest
        exact ⟨[], hrest, by simp⟩
    | frame buf frame n hparse ih =>
        intro hrest
        rw [parseFrames_ok hparse] at hrest
        obtain ⟨parts, hparts, hcomplete⟩ := ih hrest
        refine ⟨buf.take n :: parts, ?_, ?_⟩
        · rw [List.flatten_cons, ← hparts, List.take_append_drop]
        · intro part hmem
          rcases List.mem_cons.mp hmem with rfl | hmem
          · exact ⟨frame, Frame.parse_take hparse⟩
          · exact hcomplete part hmem

/-! ## Reading a stream to its end -/

variable (texts : ReaderTexts)

theorem readFrameOptWith_consumes {recv rest : RecvStream} {buf : List UInt8}
    (h : readFrameOptWith texts recv = (.ok (some buf), rest)) :
    rest.items.length < recv.items.length := by
  cases hparse : Frame.parse recv.items with
  | ok result =>
      obtain ⟨frame, n⟩ := result
      obtain ⟨cuts, hread⟩ := readFrameOptWith_of_parse texts recv hparse
      have := Frame.size_le_of_parse hparse
      simp only [FrameHeader.size] at this
      rw [hread] at h
      cases h
      simp only [List.length_drop]
      omega
  | error error =>
      rcases readFrameOptWith_of_parse_error texts recv hparse with
        ⟨-, -, rest', hread⟩ | ⟨-, error', rest', hread⟩ <;>
      · rw [hread] at h
        cases h

/-- Calls the optional frame reader until it stops. -/
def readFrames (recv : RecvStream) : List (List UInt8) × Except Error Unit :=
  match _h : readFrameOptWith texts recv with
  | (.ok none, _) => ([], .ok ())
  | (.error error, _) => ([], .error error)
  | (.ok (some buf), rest) => (buf :: (readFrames rest).1, (readFrames rest).2)
  termination_by recv.items.length
  decreasing_by all_goals exact readFrameOptWith_consumes texts _h

variable {texts}

theorem readFrames_none {recv rest : RecvStream}
    (h : readFrameOptWith texts recv = (.ok none, rest)) :
    readFrames texts recv = ([], .ok ()) := by
  rw [readFrames]
  split
  · rfl
  · next hread => rw [h] at hread; cases hread
  · next hread => rw [h] at hread; cases hread

theorem readFrames_error {recv rest : RecvStream} {error : Error}
    (h : readFrameOptWith texts recv = (.error error, rest)) :
    readFrames texts recv = ([], .error error) := by
  rw [readFrames]
  split
  · next hread => rw [h] at hread; cases hread
  · next hread => rw [h] at hread; cases hread; rfl
  · next hread => rw [h] at hread; cases hread

theorem readFrames_some {recv rest : RecvStream} {buf : List UInt8}
    (h : readFrameOptWith texts recv = (.ok (some buf), rest)) :
    readFrames texts recv =
      (buf :: (readFrames texts rest).1, (readFrames texts rest).2) := by
  rw [readFrames]
  split
  · next hread => rw [h] at hread; cases hread
  · next hread => rw [h] at hread; cases hread
  · next hread => rw [h] at hread; cases hread; rfl

theorem readFrames_sameContents {first second : RecvStream}
    (h : first.SameContents second) :
    readFrames texts first = readFrames texts second := by
  induction hlen : first.items.length using Nat.strongRecOn
    generalizing first second with
  | ind len ih =>
      obtain ⟨hresult, hrest⟩ := readFrameOptWith_uniform texts _ _ h
      rcases hfirst : readFrameOptWith texts first with ⟨result, rest⟩
      rcases hsecond : readFrameOptWith texts second with ⟨result', rest'⟩
      rw [hfirst, hsecond] at hresult hrest
      cases hresult
      match result with
      | .error error => rw [readFrames_error hfirst, readFrames_error hsecond]
      | .ok none => rw [readFrames_none hfirst, readFrames_none hsecond]
      | .ok (some buf) =>
          have hlt := readFrameOptWith_consumes texts hfirst
          rw [readFrames_some hfirst, readFrames_some hsecond,
            ih _ (hlen ▸ hlt) hrest rfl]

/-- What reading a stream to its clean end returns, in terms of its bytes. -/
structure Reassembled (bytes : List UInt8) (bufs : List (List UInt8))
    (outcome : Except Error Unit) : Prop where
  /-- The buffers parse, each to its own last byte, as the frames of the bytes. -/
  frames : List.Forall₂ (fun frame buf => Frame.parse buf = .ok (frame, buf.length))
    (parseFrames bytes).1 bufs
  /-- They are the bytes up to where the parser stops. -/
  consumed : bufs.flatten ++ (parseFrames bytes).2 = bytes
  clean : outcome = .ok () ↔ (parseFrames bytes).2 = []

variable (texts) in
theorem readFrames_reassembled (bytes : List UInt8) (cuts : List Nat) :
    Reassembled bytes (readFrames texts ⟨bytes, cuts, none⟩).1
      (readFrames texts ⟨bytes, cuts, none⟩).2 := by
  induction bytes using parseFrames_induction generalizing cuts with
  | stop bytes error hparse =>
      rcases readFrameOptWith_of_parse_error texts
          ⟨bytes, cuts, none⟩ hparse with
        ⟨hnil, -, rest, hread⟩ | ⟨hmore, error', rest, hread⟩
      · simp only at hnil
        subst hnil
        rw [readFrames_none hread]
        exact ⟨by simp [parseFrames_error hparse],
          by simp [parseFrames_error hparse], by simp [parseFrames_error hparse]⟩
      · have hne : bytes ≠ [] := by simpa using hmore
        rw [readFrames_error hread]
        exact ⟨by simp [parseFrames_error hparse],
          by simp [parseFrames_error hparse], by simp [parseFrames_error hparse, hne]⟩
  | frame bytes frame n hparse ih =>
      obtain ⟨cuts', hread⟩ := readFrameOptWith_of_parse texts
        ⟨bytes, cuts, none⟩ hparse
      have hrest := ih cuts'
      rw [readFrames_some hread]
      refine ⟨?_, ?_, ?_⟩ <;> rw [parseFrames_ok hparse]
      · exact .cons (Frame.parse_take hparse) hrest.frames
      · simp only [List.flatten_cons, List.append_assoc, hrest.consumed,
          List.take_append_drop]
      · exact hrest.clean

/-! ## Streams written frame by frame -/

def encodeAll (messages : List (UInt8 × List UInt8)) : List UInt8 :=
  messages.foldl (fun out message => Frame.encode message.1 message.2 out) []

theorem encode_append (frameType : UInt8) (payload out : List UInt8) :
    Frame.encode frameType payload out = out ++ Frame.encode frameType payload [] := by
  simp [Frame.encode, FrameHeader.writeTo]

theorem encodeAll_eq_flatten (messages : List (UInt8 × List UInt8)) :
    encodeAll messages =
      (messages.map fun message => Frame.encode message.1 message.2 []).flatten := by
  have hfold : ∀ out, messages.foldl
      (fun out message => Frame.encode message.1 message.2 out) out =
      out ++ (messages.map fun message => Frame.encode message.1 message.2 []).flatten := by
    induction messages with
    | nil => simp
    | cons message messages ih =>
        intro out
        rw [List.foldl_cons, ih, encode_append, List.map_cons, List.flatten_cons,
          List.append_assoc]
  exact hfold []

def sentFrame (message : UInt8 × List UInt8) : Frame :=
  ⟨⟨ProtocolVersion.v0, message.1, UInt32.ofNat message.2.length⟩, message.2⟩

theorem parseFrames_encodeAll {messages : List (UInt8 × List UInt8)}
    (h : ∀ message ∈ messages, message.2.length ≤ maxFrameLength) :
    parseFrames (encodeAll messages) = (messages.map sentFrame, []) := by
  rw [encodeAll_eq_flatten]
  induction messages with
  | nil => exact parseFrames_error rfl
  | cons message messages ih =>
      have hhead := Frame.parse_encode message.1 (h message List.mem_cons_self)
      have htail := ih fun message hmem => h message (List.mem_cons_of_mem _ hmem)
      rw [List.map_cons, List.flatten_cons, parseFrames_append hhead, htail]
      rfl

/--
Reading to the end of a stream returns, under any cuts, exactly the frames its
bytes parse as, and ends without an error exactly when the bytes are a
concatenation of complete frames.  Frames written within the cap come back as
they were sent.  `texts` are the server's for `read_full_frame_opt` and the test
client's for `read_frame_opt`.
-/
theorem frame_stream_reassembly (texts : ReaderTexts) (bytes : List UInt8)
    (cuts : List Nat) :
    (∀ cuts', readFrames texts ⟨bytes, cuts', none⟩ =
      readFrames texts ⟨bytes, cuts, none⟩) ∧
    List.Forall₂ (fun frame buf => Frame.parse buf = .ok (frame, buf.length))
      (parseFrames bytes).1 (readFrames texts ⟨bytes, cuts, none⟩).1 ∧
    (readFrames texts ⟨bytes, cuts, none⟩).1.flatten ++ (parseFrames bytes).2 =
      bytes ∧
    ((readFrames texts ⟨bytes, cuts, none⟩).2 = .ok () ↔ Concatenation bytes) ∧
    (¬ Concatenation bytes →
      ∃ error, (readFrames texts ⟨bytes, cuts, none⟩).2 = .error error) ∧
    ∀ messages : List (UInt8 × List UInt8),
      (∀ message ∈ messages, message.2.length ≤ maxFrameLength) →
      (readFrames texts ⟨encodeAll messages, cuts, none⟩).2 = .ok () ∧
      List.Forall₂ (fun message buf => ∃ frame,
          Frame.parse buf = .ok (frame, buf.length) ∧
            (frame.header.frameType, frame.payload) = message)
        messages (readFrames texts ⟨encodeAll messages, cuts, none⟩).1 := by
  have hread := readFrames_reassembled texts bytes cuts
  have hclean := hread.clean.trans (concatenation_iff bytes).symm
  refine ⟨fun cuts' => readFrames_sameContents ⟨rfl, rfl⟩, hread.frames,
    hread.consumed, hclean, fun hnot => ?_, fun messages hle => ?_⟩
  · cases houtcome : (readFrames texts ⟨bytes, cuts, none⟩).2 with
    | ok _ => exact absurd (hclean.mp houtcome) hnot
    | error error => exact ⟨error, rfl⟩
  · have hmessages := readFrames_reassembled texts (encodeAll messages) cuts
    have hparse := parseFrames_encodeAll hle
    have hframes := hmessages.frames
    rw [hparse, List.forall₂_map_left_iff] at hframes
    refine ⟨hmessages.clean.mpr (by rw [hparse]), hframes.imp ?_⟩
    intro message buf hbuf
    exact ⟨sentFrame message, hbuf, rfl⟩

end OpenRD.Session
