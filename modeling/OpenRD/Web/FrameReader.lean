import OpenRD.Foundation.LittleEndian
import OpenRD.Web.Client

/-!
# The web client's frame reader

Chunks are appended to a buffer until a frame is complete at its front.  The length
field is taken as it is: no bound is checked, and the end of the stream is `null`
whatever the buffer holds.
-/

namespace OpenRD.Web

open OpenRD.Foundation

structure FrameReader where
  /-- What `reader.read()` has yet to deliver, before it is done. -/
  chunks : List (List UInt8)
  buf : List UInt8

namespace FrameReader

/-- The frame at the front of `buf`, if it is all there, and what follows it. -/
def frameInBuf (buf : List UInt8) : Option (Frame × List UInt8) :=
  match buf with
  | version :: type :: l₀ :: l₁ :: l₂ :: l₃ :: _ =>
      let length := (u32OfLeBytes [l₀, l₁, l₂, l₃]).toNat
      if buf.length ≥ 6 + length then
        some (⟨version, type, (buf.take (6 + length)).drop 6⟩, buf.drop (6 + length))
      else none
  | _ => none

/-- `next()`; no branch of it throws. -/
def next (reader : FrameReader) : Except Thrown (Option Frame) × FrameReader :=
  match frameInBuf reader.buf with
  | some (frame, rest) => (.ok (some frame), { reader with buf := rest })
  | none =>
      match _h : reader.chunks with
      | [] => (.ok none, reader)
      | value :: chunks => next ⟨chunks, reader.buf ++ value⟩
  termination_by reader.chunks.length
  decreasing_by simp [_h]

/-- The bytes that `next` has not yet returned. -/
def contents (reader : FrameReader) : List UInt8 := reader.buf ++ reader.chunks.flatten

/-! ## One call, as a function of the contents -/

theorem frameInBuf_append {buf rest : List UInt8} {frame : Frame}
    (h : frameInBuf buf = some (frame, rest)) (more : List UInt8) :
    frameInBuf (buf ++ more) = some (frame, rest ++ more) := by
  unfold frameInBuf at h
  split at h
  · next buf version type l₀ l₁ l₂ l₃ tail =>
      simp only at h
      split at h
      · next hle =>
          cases h
          -- the frame ends inside the old buffer
          rw [← List.drop_append_of_le_length hle, ← List.take_append_of_le_length hle]
          simp only [List.cons_append, frameInBuf]
          rw [if_pos (by simp only [List.length_cons, List.length_append] at hle ⊢; omega)]
      · cases h
  · cases h

theorem frameInBuf_length {buf rest : List UInt8} {frame : Frame}
    (h : frameInBuf buf = some (frame, rest)) : rest.length < buf.length := by
  unfold frameInBuf at h
  split at h
  · simp only at h
    split at h
    · next hle =>
        cases h
        rw [List.length_drop]
        omega
    · cases h
  · cases h

theorem next_of_some {reader : FrameReader} {frame : Frame} {rest : List UInt8}
    (h : frameInBuf reader.contents = some (frame, rest)) :
    ∃ reader', reader.next = (.ok (some frame), reader') ∧ reader'.contents = rest := by
  obtain ⟨chunks, buf⟩ := reader
  induction chunks generalizing buf with
  | nil =>
      have hbuf : frameInBuf buf = some (frame, rest) := by simpa [contents] using h
      refine ⟨⟨[], rest⟩, ?_, by simp [contents]⟩
      rw [next]
      simp only [hbuf]
  | cons value chunks ih =>
      cases hbuf : frameInBuf buf with
      | some found =>
          obtain ⟨frame', rest'⟩ := found
          have happend := frameInBuf_append hbuf (value :: chunks).flatten
          simp only [contents] at h
          rw [happend] at h
          cases h
          refine ⟨⟨value :: chunks, rest'⟩, ?_, rfl⟩
          rw [next]
          simp only [hbuf]
      | none =>
          obtain ⟨reader', hnext, hrest⟩ := ih (buf ++ value) (by simpa [contents] using h)
          refine ⟨reader', ?_, hrest⟩
          rw [next]
          simpa only [hbuf] using hnext

theorem next_of_none {reader : FrameReader} (h : frameInBuf reader.contents = none) :
    ∃ reader', reader.next = (.ok none, reader') := by
  obtain ⟨chunks, buf⟩ := reader
  induction chunks generalizing buf with
  | nil =>
      have hbuf : frameInBuf buf = none := by simpa [contents] using h
      refine ⟨⟨[], buf⟩, ?_⟩
      rw [next]
      simp only [hbuf]
  | cons value chunks ih =>
      cases hbuf : frameInBuf buf with
      | some found =>
          have happend := frameInBuf_append hbuf (value :: chunks).flatten
          simp only [contents] at h
          rw [happend] at h
          cases h
      | none =>
          obtain ⟨reader', hnext⟩ := ih (buf ++ value) (by simpa [contents] using h)
          refine ⟨reader', ?_⟩
          rw [next]
          simpa only [hbuf] using hnext

theorem next_consumes {reader reader' : FrameReader} {frame : Frame}
    (h : reader.next = (.ok (some frame), reader')) :
    reader'.contents.length < reader.contents.length := by
  cases hframe : frameInBuf reader.contents with
  | none =>
      obtain ⟨rest, hnext⟩ := next_of_none hframe
      rw [hnext] at h
      cases h
  | some found =>
      obtain ⟨frame', rest⟩ := found
      obtain ⟨reader'', hnext, hrest⟩ := next_of_some hframe
      rw [hnext] at h
      cases h
      rw [hrest]
      exact frameInBuf_length hframe

def nextAll (reader : FrameReader) : List Frame × Except Thrown Unit :=
  match _h : reader.next with
  | (.ok none, _) => ([], .ok ())
  | (.error error, _) => ([], .error error)
  | (.ok (some frame), rest) => (frame :: rest.nextAll.1, rest.nextAll.2)
  termination_by reader.contents.length
  decreasing_by all_goals exact next_consumes _h

theorem nextAll_of_none {reader : FrameReader}
    (h : frameInBuf reader.contents = none) : reader.nextAll = ([], .ok ()) := by
  obtain ⟨rest, hnext⟩ := next_of_none h
  rw [nextAll]
  split
  · rfl
  · next hread => rw [hnext] at hread; cases hread
  · next hread => rw [hnext] at hread; cases hread

theorem nextAll_of_some {reader : FrameReader} {frame : Frame} {rest : List UInt8}
    (h : frameInBuf reader.contents = some (frame, rest)) :
    ∃ reader' : FrameReader, reader'.contents = rest ∧
      reader.nextAll = (frame :: reader'.nextAll.1, reader'.nextAll.2) := by
  obtain ⟨reader', hnext, hrest⟩ := next_of_some h
  refine ⟨reader', hrest, ?_⟩
  rw [nextAll]
  split
  · next hread => rw [hnext] at hread; cases hread
  · next hread => rw [hnext] at hread; cases hread
  · next hread => rw [hnext] at hread; cases hread; rfl

/-- However the stream is cut and whatever it holds, the reader reports its end. -/
theorem nextAll_ends (reader : FrameReader) : reader.nextAll.2 = .ok () := by
  induction hlen : reader.contents.length using Nat.strongRecOn generalizing reader with
  | ind len ih =>
      cases hframe : frameInBuf reader.contents with
      | none => rw [nextAll_of_none hframe]
      | some found =>
          obtain ⟨frame, rest⟩ := found
          obtain ⟨reader', hrest, heq⟩ := nextAll_of_some hframe
          have hlt := frameInBuf_length hframe
          rw [heq]
          exact ih _ (by rw [hrest]; omega) reader' rfl

end FrameReader

end OpenRD.Web
