import OpenRD.Foundation.LittleEndian
import OpenRD.Proto.Error

/-!
# The frame envelope

Every channel carries frames of a version byte, a type byte, a 32-bit
little-endian payload length and the payload.
-/

namespace OpenRD.Proto

open OpenRD.Foundation

structure ProtocolVersion where
  value : UInt8
  deriving DecidableEq, Repr

def ProtocolVersion.v0 : ProtocolVersion := ⟨0⟩

/-- Hard cap on frame payload size: 16 MiB. -/
def maxFrameLength : Nat := 16 * 1024 * 1024

structure FrameHeader where
  version : ProtocolVersion
  frameType : UInt8
  length : UInt32
  deriving DecidableEq, Repr

namespace FrameHeader

def size : Nat := 6

def parse : List UInt8 → Except ParseError FrameHeader
  | version :: frameType :: l₀ :: l₁ :: l₂ :: l₃ :: _ =>
      let length := u32OfLeBytes [l₀, l₁, l₂, l₃]
      if length.toNat > maxFrameLength then .error (.oversizedFrame length)
      else .ok ⟨⟨version⟩, frameType, length⟩
  | _ => .error .shortHeader

def writeTo (header : FrameHeader) (out : List UInt8) : List UInt8 :=
  out ++ [header.version.value, header.frameType] ++ u32ToLeBytes header.length

end FrameHeader

structure Frame where
  header : FrameHeader
  payload : List UInt8
  deriving DecidableEq, Repr

namespace Frame

/-- Parses one frame and reports how many bytes it took. -/
def parse (buf : List UInt8) : Except ParseError (Frame × Nat) := do
  let header ← FrameHeader.parse buf
  let endPos := FrameHeader.size + header.length.toNat
  if buf.length < endPos then .error .shortPayload
  else
    let payload := (buf.take endPos).drop FrameHeader.size
    .ok (⟨header, payload⟩, endPos)

/-- Appends `payload` under a header of the given type; the length is `as u32`. -/
def encode (frameType : UInt8) (payload out : List UInt8) : List UInt8 :=
  let header : FrameHeader :=
    { version := ProtocolVersion.v0
      frameType
      length := UInt32.ofNat payload.length }
  header.writeTo out ++ payload

end Frame

/-! ## What the header parser accepts -/

theorem FrameHeader.parse_append {buf : List UInt8} {header : FrameHeader}
    (h : FrameHeader.parse buf = .ok header) (rest : List UInt8) :
    FrameHeader.parse (buf ++ rest) = .ok header := by
  unfold FrameHeader.parse at h
  split at h
  · simpa [FrameHeader.parse] using h
  · cases h

theorem FrameHeader.parse_take {buf : List UInt8} (h : FrameHeader.size ≤ buf.length) :
    FrameHeader.parse (buf.take FrameHeader.size) = FrameHeader.parse buf := by
  match buf with
  | _ :: _ :: _ :: _ :: _ :: _ :: _ => rfl
  | [] | [_] | [_, _] | [_, _, _] | [_, _, _, _] | [_, _, _, _, _] =>
      simp [FrameHeader.size] at h

theorem FrameHeader.parse_ok_length {buf : List UInt8} {header : FrameHeader}
    (h : FrameHeader.parse buf = .ok header) :
    FrameHeader.size ≤ buf.length ∧ header.length.toNat ≤ maxFrameLength := by
  unfold FrameHeader.parse at h
  split at h
  · simp only at h
    split at h
    · cases h
    · next hle =>
        cases h
        exact ⟨by simp [FrameHeader.size], by simpa using hle⟩
  · cases h

theorem FrameHeader.parse_writeTo_eq (header : FrameHeader) (rest : List UInt8) :
    FrameHeader.parse (header.writeTo [] ++ rest) =
      if header.length.toNat > maxFrameLength then .error (.oversizedFrame header.length)
      else .ok header := by
  obtain ⟨⟨version⟩, frameType, length⟩ := header
  have hword : u32OfLeBytes (u32ToLeBytes length) = length :=
    u32OfLeBytes_toLeBytes length
  simp only [u32ToLeBytes, toLeBytes] at hword
  simp only [writeTo, u32ToLeBytes, toLeBytes, List.nil_append, List.cons_append,
    parse, hword]

theorem FrameHeader.parse_writeTo (header : FrameHeader)
    (h : header.length.toNat ≤ maxFrameLength) (rest : List UInt8) :
    FrameHeader.parse (header.writeTo [] ++ rest) = .ok header := by
  rw [parse_writeTo_eq, if_neg (Nat.not_lt.mpr h)]

/-! ## Whole frames -/

def Complete (buf : List UInt8) : Prop :=
  ∃ frame, Frame.parse buf = .ok (frame, buf.length)

theorem Frame.parse_eq_ok {buf : List UInt8} {frame : Frame} {n : Nat} :
    Frame.parse buf = .ok (frame, n) ↔
      FrameHeader.parse buf = .ok frame.header ∧
        n = FrameHeader.size + frame.header.length.toNat ∧ n ≤ buf.length ∧
        frame.payload = (buf.take n).drop FrameHeader.size := by
  unfold Frame.parse
  cases hheader : FrameHeader.parse buf with
  | error error => simp [bind, Except.bind]
  | ok header =>
      obtain ⟨header', payload⟩ := frame
      simp only [bind, Except.bind]
      split
      · constructor
        · intro h; cases h
        · rintro ⟨hok, rfl, hle, -⟩
          cases hok
          omega
      · constructor
        · intro h
          cases h
          exact ⟨rfl, rfl, by omega, rfl⟩
        · rintro ⟨hok, rfl, -, rfl⟩
          cases hok
          rfl

theorem Frame.parse_append {buf : List UInt8} {frame : Frame} {n : Nat}
    (h : Frame.parse buf = .ok (frame, n)) (rest : List UInt8) :
    Frame.parse (buf ++ rest) = .ok (frame, n) := by
  obtain ⟨hheader, hn, hle, hpayload⟩ := Frame.parse_eq_ok.mp h
  refine Frame.parse_eq_ok.mpr ⟨FrameHeader.parse_append hheader rest, hn, ?_, ?_⟩
  · rw [List.length_append]; omega
  · rw [List.take_append_of_le_length hle, hpayload]

theorem Frame.size_le_of_parse {buf : List UInt8} {frame : Frame} {n : Nat}
    (h : Frame.parse buf = .ok (frame, n)) :
    FrameHeader.size ≤ n ∧ n ≤ buf.length := by
  obtain ⟨-, hn, hle, -⟩ := Frame.parse_eq_ok.mp h
  omega

theorem Frame.parse_take {buf : List UInt8} {frame : Frame} {n : Nat}
    (h : Frame.parse buf = .ok (frame, n)) :
    Frame.parse (buf.take n) = .ok (frame, (buf.take n).length) := by
  obtain ⟨hheader, hn, hle, hpayload⟩ := Frame.parse_eq_ok.mp h
  have hlen : (buf.take n).length = n := by simp [hle]
  have hsize : FrameHeader.size ≤ n := by omega
  rw [hlen]
  refine Frame.parse_eq_ok.mpr ⟨?_, hn, hlen.ge, ?_⟩
  · rw [← FrameHeader.parse_take (by rw [hlen]; exact hsize),
      List.take_take, min_eq_left hsize, FrameHeader.parse_take (by omega), hheader]
  · rw [List.take_take, min_self, hpayload]

/-- A frame under a version byte of the sender's choice. -/
def Frame.envelope (version : ProtocolVersion) (frameType : UInt8)
    (payload : List UInt8) : List UInt8 :=
  (⟨version, frameType, UInt32.ofNat payload.length⟩ : FrameHeader).writeTo [] ++ payload

theorem length_envelope (version : ProtocolVersion) (frameType : UInt8)
    (payload : List UInt8) :
    (Frame.envelope version frameType payload).length =
      FrameHeader.size + payload.length := by
  simp [Frame.envelope, FrameHeader.writeTo, FrameHeader.size]
  omega

theorem length_encode (frameType : UInt8) (payload : List UInt8) :
    (Frame.encode frameType payload []).length = FrameHeader.size + payload.length :=
  length_envelope ProtocolVersion.v0 frameType payload

theorem Frame.parse_envelope (version : ProtocolVersion) (frameType : UInt8)
    {payload : List UInt8} (h : payload.length ≤ maxFrameLength) :
    Frame.parse (Frame.envelope version frameType payload) =
      .ok (⟨⟨version, frameType, UInt32.ofNat payload.length⟩, payload⟩,
        (Frame.envelope version frameType payload).length) := by
  have hlen : (UInt32.ofNat payload.length).toNat = payload.length := by
    apply UInt32.toNat_ofNat_of_lt'
    have : maxFrameLength < UInt32.size := by decide
    omega
  refine Frame.parse_eq_ok.mpr ⟨?_, ?_, le_rfl, ?_⟩
  · exact FrameHeader.parse_writeTo _ (by simpa [hlen] using h) payload
  · rw [length_envelope, hlen]
  · rw [List.take_length]
    simp [Frame.envelope, FrameHeader.writeTo, FrameHeader.size, u32ToLeBytes,
      toLeBytes]

theorem Frame.parse_encode (frameType : UInt8) {payload : List UInt8}
    (h : payload.length ≤ maxFrameLength) :
    Frame.parse (Frame.encode frameType payload []) =
      .ok (⟨⟨ProtocolVersion.v0, frameType, UInt32.ofNat payload.length⟩, payload⟩,
        (Frame.encode frameType payload []).length) :=
  Frame.parse_envelope ProtocolVersion.v0 frameType h

end OpenRD.Proto
