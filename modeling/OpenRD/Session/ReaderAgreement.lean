import OpenRD.Session.Reassembly
import OpenRD.Web.FrameReader

/-!
# The web client's frame reader against the Rust one

On streams of complete frames within the length cap the two readers return the same
frames and the same clean end.  The web reader has no other way to stop, so on every
other stream they part.
-/

namespace OpenRD.Session

open OpenRD.Foundation OpenRD.Proto

/-- The web reader at the start of a stream that arrives as `chunks`. -/
def webReader (chunks : List (List UInt8)) : Web.FrameReader := ⟨chunks, []⟩

def SameFrame (frame : Web.Frame) (buf : List UInt8) : Prop :=
  ∃ parsed, Frame.parse buf = .ok (parsed, buf.length) ∧
    (parsed.header.version.value, parsed.header.frameType, parsed.payload) =
      (frame.version, frame.type, frame.payload)

/--
The web reader on `chunks` and the Rust reader on the same bytes, delivered by
`cuts`, stop after the same frames and in the same way.
-/
structure ReadersAgree (chunks : List (List UInt8)) (cuts : List Nat) : Prop where
  frames : List.Forall₂ SameFrame (webReader chunks).nextAll.1
    (readFrames TestClient.readerTexts ⟨chunks.flatten, cuts, none⟩).1
  clean : (webReader chunks).nextAll.2 = .ok () ↔
    (readFrames TestClient.readerTexts ⟨chunks.flatten, cuts, none⟩).2 = .ok ()
  /-- A declared length beyond the cap is refused. -/
  refuses : ∀ length,
    FrameHeader.parse (parseFrames chunks.flatten).2 = .error (.oversizedFrame length) →
      ∃ error, (webReader chunks).nextAll.2 = .error error

/-! ## A frame that parses is a frame in the web reader's buffer -/

def webFrame (frame : Frame) : Web.Frame :=
  ⟨frame.header.version.value, frame.header.frameType, frame.payload⟩

theorem frameInBuf_of_parse {buf : List UInt8} {frame : Frame} {n : Nat}
    (h : Frame.parse buf = .ok (frame, n)) :
    Web.FrameReader.frameInBuf buf = some (webFrame frame, buf.drop n) := by
  obtain ⟨header, payload⟩ := frame
  obtain ⟨hheader, rfl, hle, hpayload⟩ := Frame.parse_eq_ok.mp h
  unfold FrameHeader.parse at hheader
  split at hheader
  · simp only at hheader
    split at hheader
    · cases hheader
    · cases hheader
      simp only at hpayload
      subst hpayload
      simp only [Web.FrameReader.frameInBuf]
      refine (if_pos ?_).trans rfl
      exact hle
  · cases hheader

theorem nextAll_of_concatenation {bytes : List UInt8} (h : (parseFrames bytes).2 = [])
    {reader : Web.FrameReader} (hcontents : reader.contents = bytes) :
    reader.nextAll.1 = (parseFrames bytes).1.map webFrame := by
  induction bytes using parseFrames_induction generalizing reader with
  | stop bytes error hparse =>
      rw [parseFrames_error hparse] at h ⊢
      simp only at h
      subst h
      rw [Web.FrameReader.nextAll_of_none (by rw [hcontents]; rfl), List.map_nil]
  | frame bytes frame n hparse ih =>
      rw [parseFrames_ok hparse] at h ⊢
      obtain ⟨reader', hrest, heq⟩ := Web.FrameReader.nextAll_of_some
        (by rw [hcontents]; exact frameInBuf_of_parse hparse)
      rw [heq, ih h hrest, List.map_cons]

/-- The readers agree exactly on the concatenations of complete frames within the cap. -/
theorem readersAgree_iff (chunks : List (List UInt8)) (cuts : List Nat) :
    ReadersAgree chunks cuts ↔ Concatenation chunks.flatten := by
  have hread := readFrames_reassembled TestClient.readerTexts chunks.flatten cuts
  have hclean := hread.clean.trans (concatenation_iff chunks.flatten).symm
  have hends := (webReader chunks).nextAll_ends
  constructor
  · intro h
    exact hclean.mp (h.clean.mp hends)
  · intro h
    have hrest := (concatenation_iff _).mp h
    refine ⟨?_, ⟨fun _ => hclean.mpr h, fun _ => hends⟩, fun length hparse => ?_⟩
    · have hweb : (webReader chunks).nextAll.1 = _ := nextAll_of_concatenation hrest rfl
      rw [hweb, List.forall₂_map_left_iff]
      exact hread.frames.imp fun frame buf hbuf => ⟨frame, hbuf, rfl⟩
    · rw [hrest] at hparse
      cases hparse

/--
A stream that ends inside a header, and one whose header declares one byte more than
the cap: refused by the Rust reader, and to the web reader a clean end.
-/
theorem readersDisagree :
    ¬ ReadersAgree [[0x00]] [] ∧
      ¬ ReadersAgree [[0x00, 0x01, 0x01, 0x00, 0x00, 0x01]] [] := by
  constructor
  · intro h
    have hread := readFrames_reassembled TestClient.readerTexts [0x00] []
    have hclean := hread.clean.mp (h.clean.mp (webReader [[0x00]]).nextAll_ends)
    rw [parseFrames_error (show Frame.parse [0x00] = .error .shortHeader from rfl)]
      at hclean
    cases hclean
  · intro h
    have hstop := parseFrames_error
      (show Frame.parse [0x00, 0x01, 0x01, 0x00, 0x00, 0x01] =
        .error (.oversizedFrame 0x01000001) from rfl)
    obtain ⟨error, herror⟩ := h.refuses 0x01000001 (by
      rw [show [[0x00, 0x01, 0x01, 0x00, 0x00, 0x01]].flatten =
        ([0x00, 0x01, 0x01, 0x00, 0x00, 0x01] : List UInt8) from rfl, hstop]
      rfl)
    rw [Web.FrameReader.nextAll_ends] at herror
    cases herror

end OpenRD.Session
