import OpenRD.Foundation.Source
import OpenRD.Proto.Frame

/-!
# Reading frames from a stream

The server and the test client read frames with the same two loops: one fills the
six header bytes, the other the payload the header declares.  They differ in the
texts of their errors, which `ReaderTexts` collects.  The results are about every
way the transport may cut the stream into reads.
-/

namespace OpenRD.Proto

open OpenRD.Foundation

abbrev RecvStream := Source UInt8 Error

def Reader (α : Type) : Type := RecvStream → Except Error α × RecvStream

namespace Reader

variable {α β : Type}

instance : Monad Reader where
  pure value := fun recv => (.ok value, recv)
  bind reader f := fun recv =>
    match reader recv with
    | (.ok value, recv) => f value recv
    | (.error error, recv) => (.error error, recv)

instance : MonadLift (Except Error) Reader where
  monadLift result := fun recv => (result, recv)

def mapError (f : Error → Error) (reader : Reader α) : Reader α := fun recv =>
  match reader recv with
  | (.ok value, recv) => (.ok value, recv)
  | (.error error, recv) => (.error (f error), recv)

theorem bind_ok {reader : Reader α} {recv recv' : RecvStream} {value : α}
    (h : reader recv = (.ok value, recv')) (f : α → Reader β) :
    (reader >>= f) recv = f value recv' := by
  simp only [bind, h]

theorem bind_error {reader : Reader α} {recv recv' : RecvStream} {error : Error}
    (h : reader recv = (.error error, recv')) (f : α → Reader β) :
    (reader >>= f) recv = (.error error, recv') := by
  simp only [bind, h]

theorem liftM_apply (result : Except Error α) (recv : RecvStream) :
    (liftM result : Reader α) recv = (result, recv) := rfl

theorem mapError_ok {reader : Reader α} {recv recv' : RecvStream} {value : α}
    (h : reader recv = (.ok value, recv')) (f : Error → Error) :
    reader.mapError f recv = (.ok value, recv') := by
  simp only [mapError, h]

theorem mapError_error {reader : Reader α} {recv recv' : RecvStream}
    {error : Error} (h : reader recv = (.error error, recv')) (f : Error → Error) :
    reader.mapError f recv = (.error (f error), recv') := by
  simp only [mapError, h]

end Reader

/-- The error texts of one peer's frame reader. -/
structure ReaderTexts where
  endedEarly : (filled total : Nat) → String
  midHeader : (filled : Nat) → String
  tooLarge : UInt32 → String
  /-- What the peer wraps around a failed header or payload read. -/
  headerError : Error → Error
  payloadError : Error → Error

variable (texts : ReaderTexts)

def readExactWith (total : Nat) : Reader (List UInt8) := fun recv =>
  match recv.fill total [] with
  | (.full buf, recv) => (.ok buf, recv)
  | (.short buf, recv) =>
      (.error (.msg (texts.endedEarly buf.length total)), recv)
  | (.failed error, recv) => (.error error, recv)

def readHeaderOptWith : Reader (Option (List UInt8)) := fun recv =>
  match recv.fill FrameHeader.size [] with
  | (.full buf, recv) => (.ok (some buf), recv)
  | (.short [], recv) => (.ok none, recv)
  | (.short buf, recv) => (.error (.msg (texts.midHeader buf.length)), recv)
  | (.failed error, recv) => (.error error, recv)

def declaredLength (headerBuf : List UInt8) : Except Error Nat := do
  let header ← parsed (FrameHeader.parse headerBuf)
  if header.length.toNat > maxFrameLength then
    .error (.msg (texts.tooLarge header.length))
  else .ok header.length.toNat

/-- `read_full_frame` / `read_frame`: the end of the stream is an error. -/
def readFrameWith : Reader (List UInt8) := do
  let headerBuf ← (readExactWith texts FrameHeader.size).mapError texts.headerError
  let length ← declaredLength texts headerBuf
  let payload ← (readExactWith texts length).mapError texts.payloadError
  return headerBuf ++ payload

/-- `read_full_frame_opt` / `read_frame_opt`: `none` at a clean end. -/
def readFrameOptWith : Reader (Option (List UInt8)) := do
  match ← readHeaderOptWith texts with
  | none => return none
  | some headerBuf =>
      let length ← declaredLength texts headerBuf
      let payload ← readExactWith texts length
      return some (headerBuf ++ payload)

/-! ## One read, as a function of the contents -/

/-- The header check is the parser's own: its length bound is tested twice. -/
theorem declaredLength_eq (buf : List UInt8) :
    declaredLength texts buf =
      match FrameHeader.parse buf with
      | .ok header => .ok header.length.toNat
      | .error error => .error (.parse error) := by
  unfold declaredLength
  cases hparse : FrameHeader.parse buf with
  | error error => rfl
  | ok header =>
      have hle := (FrameHeader.parse_ok_length hparse).2
      simp only [parsed, bind, Except.bind]
      rw [if_neg (by omega)]

variable {texts} in
theorem declaredLength_take {buf : List UInt8} (h : FrameHeader.size ≤ buf.length) :
    declaredLength texts (buf.take FrameHeader.size) = declaredLength texts buf := by
  rw [declaredLength_eq, declaredLength_eq, FrameHeader.parse_take h]

theorem readExactWith_enough (recv : RecvStream) (total : Nat)
    (h : total ≤ recv.items.length) :
    ∃ cuts, readExactWith texts total recv =
      (.ok (recv.items.take total), ⟨recv.items.drop total, cuts, recv.ending⟩) := by
  obtain ⟨cuts, hfill⟩ := recv.fill_eq total []
  refine ⟨cuts, ?_⟩
  simp [readExactWith, hfill, Source.filledBy, h]

theorem readExactWith_short (recv : RecvStream) (total : Nat)
    (h : recv.items.length < total) :
    ∃ error rest, readExactWith texts total recv = (.error error, rest) := by
  obtain ⟨cuts, hfill⟩ := recv.fill_eq total []
  simp only [readExactWith, hfill, Source.filledBy]
  rw [if_neg (by simpa using h)]
  cases recv.ending <;> exact ⟨_, _, rfl⟩

theorem readHeaderOptWith_enough (recv : RecvStream)
    (h : FrameHeader.size ≤ recv.items.length) :
    ∃ cuts, readHeaderOptWith texts recv =
      (.ok (some (recv.items.take FrameHeader.size)),
        ⟨recv.items.drop FrameHeader.size, cuts, recv.ending⟩) := by
  obtain ⟨cuts, hfill⟩ := recv.fill_eq FrameHeader.size []
  refine ⟨cuts, ?_⟩
  simp [readHeaderOptWith, hfill, Source.filledBy, h]

theorem readHeaderOptWith_short (recv : RecvStream)
    (h : recv.items.length < FrameHeader.size) :
    (recv.items = [] ∧ recv.ending = none ∧
        ∃ rest, readHeaderOptWith texts recv = (.ok none, rest)) ∨
      ((recv.items ≠ [] ∨ recv.ending ≠ none) ∧
        ∃ error rest, readHeaderOptWith texts recv = (.error error, rest)) := by
  obtain ⟨cuts, hfill⟩ := recv.fill_eq FrameHeader.size []
  obtain ⟨items, cuts₀, ending⟩ := recv
  simp only [readHeaderOptWith, hfill, Source.filledBy]
  rw [if_neg (by simpa using h)]
  cases ending with
  | some error => exact .inr ⟨.inr (by simp), _, _, rfl⟩
  | none =>
      cases items with
      | nil => exact .inl ⟨rfl, rfl, _, rfl⟩
      | cons item items => exact .inr ⟨.inl (by simp), _, _, rfl⟩

inductive Envelope (buf : List UInt8) : Prop where
  | shortHeader (h : buf.length < FrameHeader.size)
  | badHeader (h : FrameHeader.size ≤ buf.length) (error : ParseError)
      (hparse : FrameHeader.parse buf = .error error)
  | shortPayload (header : FrameHeader) (h : FrameHeader.size ≤ buf.length)
      (hparse : FrameHeader.parse buf = .ok header)
      (hshort : buf.length < FrameHeader.size + header.length.toNat)

theorem envelope_of_parse_error {buf : List UInt8} {error : ParseError}
    (h : Frame.parse buf = .error error) : Envelope buf := by
  by_cases hsize : FrameHeader.size ≤ buf.length
  · cases hparse : FrameHeader.parse buf with
    | error error => exact .badHeader hsize error hparse
    | ok header =>
        refine .shortPayload header hsize hparse ?_
        by_contra hlong
        simp [Frame.parse, hparse, bind, Except.bind, hlong] at h
  · exact .shortHeader (by omega)

theorem readFrameOptWith_of_parse (recv : RecvStream) {frame : Frame} {n : Nat}
    (h : Frame.parse recv.items = .ok (frame, n)) :
    ∃ cuts, readFrameOptWith texts recv =
      (.ok (some (recv.items.take n)),
        ⟨recv.items.drop n, cuts, recv.ending⟩) := by
  obtain ⟨hheader, hn, hle, -⟩ := Frame.parse_eq_ok.mp h
  have hsize : FrameHeader.size ≤ recv.items.length := by omega
  have hlength : declaredLength texts (recv.items.take FrameHeader.size) =
      .ok frame.header.length.toNat := by
    rw [declaredLength_take hsize, declaredLength_eq, hheader]
  obtain ⟨cuts, hread⟩ := readHeaderOptWith_enough texts recv hsize
  obtain ⟨cuts', hpayload⟩ := readExactWith_enough texts
    ⟨recv.items.drop FrameHeader.size, cuts, recv.ending⟩ frame.header.length.toNat
    (by simp; omega)
  refine ⟨cuts', ?_⟩
  rw [readFrameOptWith, Reader.bind_ok hread]
  simp only
  rw [hlength, Reader.bind_ok (Reader.liftM_apply _ _), Reader.bind_ok hpayload]
  simp only [pure, List.drop_drop, hn, List.take_add]

theorem readFrameOptWith_of_parse_error (recv : RecvStream) {error : ParseError}
    (h : Frame.parse recv.items = .error error) :
    (recv.items = [] ∧ recv.ending = none ∧
        ∃ rest, readFrameOptWith texts recv = (.ok none, rest)) ∨
      ((recv.items ≠ [] ∨ recv.ending ≠ none) ∧
        ∃ error rest, readFrameOptWith texts recv = (.error error, rest)) := by
  cases envelope_of_parse_error h with
  | shortHeader hshort =>
      rcases readHeaderOptWith_short texts recv hshort with
        ⟨hnil, hend, rest, hread⟩ | ⟨hmore, error, rest, hread⟩
      · exact .inl ⟨hnil, hend, rest, Reader.bind_ok hread _⟩
      · exact .inr ⟨hmore, error, rest, Reader.bind_error hread _⟩
  | badHeader hsize error hparse =>
      refine .inr ⟨.inl (by rintro hnil; simp [hnil, FrameHeader.size] at hsize), ?_⟩
      obtain ⟨cuts, hread⟩ := readHeaderOptWith_enough texts recv hsize
      refine ⟨.parse error,
        ⟨recv.items.drop FrameHeader.size, cuts, recv.ending⟩, ?_⟩
      rw [readFrameOptWith, Reader.bind_ok hread]
      simp only
      rw [declaredLength_take hsize, declaredLength_eq, hparse]
      exact Reader.bind_error (Reader.liftM_apply _ _) _
  | shortPayload header hsize hparse hshort =>
      refine .inr ⟨.inl (by rintro hnil; simp [hnil, FrameHeader.size] at hsize), ?_⟩
      obtain ⟨cuts, hread⟩ := readHeaderOptWith_enough texts recv hsize
      obtain ⟨error, rest, hpayload⟩ := readExactWith_short texts
        ⟨recv.items.drop FrameHeader.size, cuts, recv.ending⟩ header.length.toNat
        (by simp; omega)
      refine ⟨error, rest, ?_⟩
      rw [readFrameOptWith, Reader.bind_ok hread]
      simp only
      rw [declaredLength_take hsize, declaredLength_eq, hparse,
        Reader.bind_ok (Reader.liftM_apply _ _), Reader.bind_error hpayload]

theorem readFrameWith_of_parse (recv : RecvStream) {frame : Frame} {n : Nat}
    (h : Frame.parse recv.items = .ok (frame, n)) :
    ∃ cuts, readFrameWith texts recv =
      (.ok (recv.items.take n), ⟨recv.items.drop n, cuts, recv.ending⟩) := by
  obtain ⟨hheader, hn, hle, -⟩ := Frame.parse_eq_ok.mp h
  have hsize : FrameHeader.size ≤ recv.items.length := by omega
  have hlength : declaredLength texts (recv.items.take FrameHeader.size) =
      .ok frame.header.length.toNat := by
    rw [declaredLength_take hsize, declaredLength_eq, hheader]
  obtain ⟨cuts, hread⟩ := readExactWith_enough texts recv _ hsize
  obtain ⟨cuts', hpayload⟩ := readExactWith_enough texts
    ⟨recv.items.drop FrameHeader.size, cuts, recv.ending⟩ frame.header.length.toNat
    (by simp; omega)
  refine ⟨cuts', ?_⟩
  rw [readFrameWith, Reader.bind_ok (Reader.mapError_ok hread _), hlength,
    Reader.bind_ok (Reader.liftM_apply _ _),
    Reader.bind_ok (Reader.mapError_ok hpayload _)]
  simp only [pure, List.drop_drop, hn, List.take_add]

theorem readFrameWith_of_parse_error (recv : RecvStream) {error : ParseError}
    (h : Frame.parse recv.items = .error error) :
    ∃ error rest, readFrameWith texts recv = (.error error, rest) := by
  cases envelope_of_parse_error h with
  | shortHeader hshort =>
      obtain ⟨error, rest, hread⟩ := readExactWith_short texts recv _ hshort
      exact ⟨_, rest, Reader.bind_error (Reader.mapError_error hread _) _⟩
  | badHeader hsize error hparse =>
      obtain ⟨cuts, hread⟩ := readExactWith_enough texts recv _ hsize
      refine ⟨.parse error,
        ⟨recv.items.drop FrameHeader.size, cuts, recv.ending⟩, ?_⟩
      rw [readFrameWith, Reader.bind_ok (Reader.mapError_ok hread _),
        declaredLength_take hsize, declaredLength_eq, hparse]
      exact Reader.bind_error (Reader.liftM_apply _ _) _
  | shortPayload header hsize hparse hshort =>
      obtain ⟨cuts, hread⟩ := readExactWith_enough texts recv _ hsize
      obtain ⟨error, rest, hpayload⟩ := readExactWith_short texts
        ⟨recv.items.drop FrameHeader.size, cuts, recv.ending⟩ header.length.toNat
        (by simp; omega)
      refine ⟨texts.payloadError error, rest, ?_⟩
      rw [readFrameWith, Reader.bind_ok (Reader.mapError_ok hread _),
        declaredLength_take hsize, declaredLength_eq, hparse,
        Reader.bind_ok (Reader.liftM_apply _ _),
        Reader.bind_error (Reader.mapError_error hpayload _)]

theorem readFrameWith_ended (cuts : List Nat) :
    ∃ error cuts', readFrameWith texts ⟨[], cuts, none⟩ =
      (.error error, ⟨[], cuts', none⟩) := by
  obtain ⟨cuts', hfill⟩ := Source.fill_eq ⟨[], cuts, none⟩ FrameHeader.size []
  have hread : readExactWith texts FrameHeader.size ⟨[], cuts, none⟩ =
      (.error (.msg (texts.endedEarly 0 FrameHeader.size)), ⟨[], cuts', none⟩) := by
    rw [readExactWith, hfill]
    simp [Source.filledBy, FrameHeader.size]
  exact ⟨_, cuts', Reader.bind_error (Reader.mapError_error hread _) _⟩

theorem readFrameOptWith_ended (cuts : List Nat) :
    ∃ cuts', readFrameOptWith texts ⟨[], cuts, none⟩ = (.ok none, ⟨[], cuts', none⟩) := by
  obtain ⟨cuts', hfill⟩ := Source.fill_eq ⟨[], cuts, none⟩ FrameHeader.size []
  have hread : readHeaderOptWith texts ⟨[], cuts, none⟩ =
      (.ok none, ⟨[], cuts', none⟩) := by
    rw [readHeaderOptWith, hfill]
    simp [Source.filledBy, FrameHeader.size]
  exact ⟨cuts', Reader.bind_ok hread _⟩

theorem Frame.parse_encode_append (frameType : UInt8) {payload : List UInt8}
    (h : payload.length ≤ maxFrameLength) (rest : List UInt8) :
    Frame.parse (Frame.encode frameType payload [] ++ rest) =
      .ok (⟨⟨ProtocolVersion.v0, frameType, UInt32.ofNat payload.length⟩, payload⟩,
        (Frame.encode frameType payload []).length) :=
  Frame.parse_append (Frame.parse_encode frameType h) rest

theorem readFrameWith_envelope (version : ProtocolVersion) (frameType : UInt8)
    {payload : List UInt8} (h : payload.length ≤ maxFrameLength) (rest : List UInt8)
    (cuts : List Nat) (ending : Option Error) :
    ∃ cuts', readFrameWith texts
        ⟨Frame.envelope version frameType payload ++ rest, cuts, ending⟩ =
      (.ok (Frame.envelope version frameType payload), ⟨rest, cuts', ending⟩) := by
  simpa using readFrameWith_of_parse texts
    ⟨Frame.envelope version frameType payload ++ rest, cuts, ending⟩
    (Frame.parse_append (Frame.parse_envelope version frameType h) rest)

theorem readFrameWith_encode (frameType : UInt8) {payload : List UInt8}
    (h : payload.length ≤ maxFrameLength) (rest : List UInt8) (cuts : List Nat)
    (ending : Option Error) :
    ∃ cuts', readFrameWith texts ⟨Frame.encode frameType payload [] ++ rest, cuts, ending⟩ =
      (.ok (Frame.encode frameType payload []), ⟨rest, cuts', ending⟩) :=
  readFrameWith_envelope texts ProtocolVersion.v0 frameType h rest cuts ending

theorem readFrameOptWith_encode (frameType : UInt8) {payload : List UInt8}
    (h : payload.length ≤ maxFrameLength) (rest : List UInt8) (cuts : List Nat)
    (ending : Option Error) :
    ∃ cuts',
      readFrameOptWith texts ⟨Frame.encode frameType payload [] ++ rest, cuts, ending⟩ =
        (.ok (some (Frame.encode frameType payload [])), ⟨rest, cuts', ending⟩) := by
  simpa using readFrameOptWith_of_parse texts
    ⟨Frame.encode frameType payload [] ++ rest, cuts, ending⟩
    (Frame.parse_encode_append frameType h rest)

/-! ## Independence of the cuts -/

/-- The reader's result, and the contents it leaves, do not depend on the cuts. -/
def Reader.Uniform {α : Type} (reader : Reader α) : Prop :=
  ∀ first second : RecvStream, first.SameContents second →
    (reader first).1 = (reader second).1 ∧
      (reader first).2.SameContents (reader second).2

namespace Reader.Uniform

variable {α β : Type}

theorem pure (value : α) : Uniform (Pure.pure value : Reader α) :=
  fun _ _ h => ⟨rfl, h⟩

theorem lift (result : Except Error α) : Uniform (liftM result : Reader α) :=
  fun _ _ h => ⟨rfl, h⟩

theorem bind {reader : Reader α} {f : α → Reader β} (h : reader.Uniform)
    (hf : ∀ value, (f value).Uniform) : (reader >>= f).Uniform := by
  intro first second hsame
  obtain ⟨hresult, hrest⟩ := h first second hsame
  rcases hfirst : reader first with ⟨result, rest⟩
  rcases hsecond : reader second with ⟨result', rest'⟩
  rw [hfirst, hsecond] at hresult hrest
  cases hresult
  cases result with
  | ok value =>
      rw [bind_ok hfirst, bind_ok hsecond]
      exact hf value rest rest' hrest
  | error error =>
      rw [bind_error hfirst, bind_error hsecond]
      exact ⟨rfl, hrest⟩

theorem mapError {reader : Reader α} (h : reader.Uniform) (f : Error → Error) :
    (reader.mapError f).Uniform := by
  intro first second hsame
  obtain ⟨hresult, hrest⟩ := h first second hsame
  rcases hfirst : reader first with ⟨result, rest⟩
  rcases hsecond : reader second with ⟨result', rest'⟩
  rw [hfirst, hsecond] at hresult hrest
  cases hresult
  cases result with
  | ok value =>
      rw [mapError_ok hfirst, mapError_ok hsecond]
      exact ⟨rfl, hrest⟩
  | error error =>
      rw [mapError_error hfirst, mapError_error hsecond]
      exact ⟨rfl, hrest⟩

end Reader.Uniform

theorem readExactWith_uniform (total : Nat) : (readExactWith texts total).Uniform := by
  intro first second hsame
  obtain ⟨hresult, hrest⟩ := Source.fill_sameContents hsame total []
  simp only [readExactWith]
  generalize first.fill total [] = filled at hresult hrest ⊢
  generalize second.fill total [] = filled' at hresult hrest ⊢
  obtain ⟨result, rest⟩ := filled
  obtain ⟨result', rest'⟩ := filled'
  cases hresult
  cases result <;> exact ⟨rfl, hrest⟩

theorem readHeaderOptWith_uniform : (readHeaderOptWith texts).Uniform := by
  intro first second hsame
  obtain ⟨hresult, hrest⟩ := Source.fill_sameContents hsame FrameHeader.size []
  simp only [readHeaderOptWith]
  generalize first.fill FrameHeader.size [] = filled at hresult hrest ⊢
  generalize second.fill FrameHeader.size [] = filled' at hresult hrest ⊢
  obtain ⟨result, rest⟩ := filled
  obtain ⟨result', rest'⟩ := filled'
  cases hresult
  match result with
  | .full _ | .short [] | .short (_ :: _) | .failed _ => exact ⟨rfl, hrest⟩

theorem readFrameWith_uniform : (readFrameWith texts).Uniform :=
  .bind (.mapError (readExactWith_uniform texts _) _) fun _ =>
    .bind (.lift _) fun _ =>
      .bind (.mapError (readExactWith_uniform texts _) _) fun _ => .pure _

theorem readFrameOptWith_uniform : (readFrameOptWith texts).Uniform := by
  refine .bind (readHeaderOptWith_uniform texts) fun headerBuf => ?_
  cases headerBuf with
  | none => exact .pure _
  | some headerBuf =>
      exact .bind (.lift _) fun _ => .bind (readExactWith_uniform texts _) fun _ => .pure _

/-! ## What is left -/

/-- What a read leaves is the end of what it found. -/
def Reader.LeavesEnd {α : Type} (reader : Reader α) : Prop :=
  ∀ recv : RecvStream, (reader recv).2.items <:+ recv.items

namespace Reader.LeavesEnd

variable {α β : Type}

theorem pure (value : α) : LeavesEnd (Pure.pure value : Reader α) :=
  fun _ => List.suffix_rfl

theorem lift (result : Except Error α) : LeavesEnd (liftM result : Reader α) :=
  fun _ => List.suffix_rfl

theorem bind {reader : Reader α} {f : α → Reader β} (h : reader.LeavesEnd)
    (hf : ∀ value, (f value).LeavesEnd) : (reader >>= f).LeavesEnd := by
  intro recv
  have hsuffix := h recv
  rcases hread : reader recv with ⟨result, rest⟩
  rw [hread] at hsuffix
  cases result with
  | ok value =>
      rw [bind_ok hread]
      exact (hf value rest).trans hsuffix
  | error error =>
      rw [bind_error hread]
      exact hsuffix

theorem mapError {reader : Reader α} (h : reader.LeavesEnd) (f : Error → Error) :
    (reader.mapError f).LeavesEnd := by
  intro recv
  have hsuffix := h recv
  rcases hread : reader recv with ⟨result, rest⟩
  rw [hread] at hsuffix
  cases result with
  | ok value =>
      rw [mapError_ok hread]
      exact hsuffix
  | error error =>
      rw [mapError_error hread]
      exact hsuffix

end Reader.LeavesEnd

theorem readExactWith_leavesEnd (total : Nat) : (readExactWith texts total).LeavesEnd := by
  intro recv
  obtain ⟨cuts, hfill⟩ := recv.fill_eq total []
  simp only [readExactWith, hfill]
  cases recv.filledBy (total - ([] : List UInt8).length) [] <;> exact List.drop_suffix _ _

theorem readHeaderOptWith_leavesEnd : (readHeaderOptWith texts).LeavesEnd := by
  intro recv
  obtain ⟨cuts, hfill⟩ := recv.fill_eq FrameHeader.size []
  simp only [readHeaderOptWith, hfill]
  match recv.filledBy (FrameHeader.size - ([] : List UInt8).length) [] with
  | .full _ | .short [] | .short (_ :: _) | .failed _ => exact List.drop_suffix _ _

theorem readFrameWith_leavesEnd : (readFrameWith texts).LeavesEnd :=
  .bind (.mapError (readExactWith_leavesEnd texts _) _) fun _ =>
    .bind (.lift _) fun _ =>
      .bind (.mapError (readExactWith_leavesEnd texts _) _) fun _ => .pure _

theorem readFrameOptWith_leavesEnd : (readFrameOptWith texts).LeavesEnd := by
  refine .bind (readHeaderOptWith_leavesEnd texts) fun headerBuf => ?_
  cases headerBuf with
  | none => exact .pure _
  | some headerBuf =>
      exact .bind (.lift _) fun _ => .bind (readExactWith_leavesEnd texts _) fun _ => .pure _

end OpenRD.Proto
