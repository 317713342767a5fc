import OpenRD.Foundation.LengthPrefix
import OpenRD.Proto.Error

/-!
# Payloads of the Input channel
-/

namespace OpenRD.Proto

open OpenRD.Foundation

structure Modifiers where
  value : UInt32
  deriving DecidableEq, Repr

structure KeyEvent where
  keysym : UInt32
  scancode : UInt32
  modifiers : Modifiers
  flags : UInt8
  deriving DecidableEq, Repr

namespace KeyEvent

def size : Nat := 13

def down (event : KeyEvent) : Bool := event.flags &&& 0x01 != 0

def parse : List UInt8 → Except ParseError KeyEvent
  | k₀ :: k₁ :: k₂ :: k₃ :: s₀ :: s₁ :: s₂ :: s₃ :: m₀ :: m₁ :: m₂ :: m₃ :: flags :: _ =>
      .ok {
        keysym := u32OfLeBytes [k₀, k₁, k₂, k₃]
        scancode := u32OfLeBytes [s₀, s₁, s₂, s₃]
        modifiers := ⟨u32OfLeBytes [m₀, m₁, m₂, m₃]⟩
        flags }
  | _ => .error .shortPayload

def writeTo (event : KeyEvent) (out : List UInt8) : List UInt8 :=
  out ++ u32ToLeBytes event.keysym ++ u32ToLeBytes event.scancode ++
    u32ToLeBytes event.modifiers.value ++ [event.flags]

theorem writeTo_eq (event : KeyEvent) (out : List UInt8) :
    event.writeTo out = out ++ event.writeTo [] := by
  simp [writeTo]

theorem parse_writeTo (event : KeyEvent) (rest : List UInt8) :
    parse (event.writeTo [] ++ rest) = .ok event := by
  obtain ⟨keysym, scancode, ⟨modifiers⟩, flags⟩ := event
  have hword (word : UInt32) : u32OfLeBytes (u32ToLeBytes word) = word :=
    u32OfLeBytes_toLeBytes word
  simp only [u32ToLeBytes, toLeBytes] at hword
  simp only [writeTo, u32ToLeBytes, toLeBytes, List.nil_append, List.cons_append, parse,
    hword]

/-- What is accepted is thirteen bytes that say what was read. -/
theorem writeTo_prefix_of_parse {buf : List UInt8} {event : KeyEvent}
    (h : parse buf = .ok event) : event.writeTo [] <+: buf := by
  unfold parse at h
  split at h
  · next k₀ k₁ k₂ k₃ s₀ s₁ s₂ s₃ m₀ m₁ m₂ m₃ flags rest =>
      cases h
      have hkeysym := u32ToLeBytes_u32OfLeBytes (show [k₀, k₁, k₂, k₃].length = 4 from rfl)
      have hscancode := u32ToLeBytes_u32OfLeBytes (show [s₀, s₁, s₂, s₃].length = 4 from rfl)
      have hmodifiers := u32ToLeBytes_u32OfLeBytes (show [m₀, m₁, m₂, m₃].length = 4 from rfl)
      rw [writeTo, hkeysym, hscancode, hmodifiers]
      exact ⟨rest, rfl⟩
  · cases h

/-- Any thirteen bytes are an event. -/
theorem exists_writeTo_prefix {buf : List UInt8} (h : size ≤ buf.length) :
    ∃ event : KeyEvent, event.writeTo [] <+: buf := by
  have hlong : 13 ≤ buf.length := h
  have hword {first : Nat} (hfirst : first + 4 ≤ buf.length) :
      ((buf.drop first).take 4).length = 4 := by
    rw [List.length_take, List.length_drop]
    omega
  refine ⟨⟨u32OfLeBytes ((buf.drop 0).take 4), u32OfLeBytes ((buf.drop 4).take 4),
    ⟨u32OfLeBytes ((buf.drop 8).take 4)⟩, buf[12]⟩, ?_⟩
  have hbytes : (buf.drop 0).take 4 ++ (buf.drop 4).take 4 ++ (buf.drop 8).take 4 ++
      [buf[12]] = buf.take 13 := by
    rw [List.drop_zero, ← List.take_add, ← List.take_add, List.take_append_getElem]
  rw [writeTo, u32ToLeBytes_u32OfLeBytes (hword (by omega)),
    u32ToLeBytes_u32OfLeBytes (hword (by omega)),
    u32ToLeBytes_u32OfLeBytes (hword (by omega)), List.nil_append, hbytes]
  exact List.take_prefix 13 buf

theorem parse_fails_iff (buf : List UInt8) :
    (∃ error, parse buf = .error error) ↔ buf.length < size := by
  constructor
  · rintro ⟨error, herror⟩
    by_contra hlong
    obtain ⟨event, rest, rfl⟩ := exists_writeTo_prefix (Nat.le_of_not_lt hlong)
    rw [parse_writeTo] at herror
    cases herror
  · intro hshort
    unfold parse
    split
    · simp only [size, List.length_cons] at hshort
      omega
    · exact ⟨_, rfl⟩

end KeyEvent

structure TextInput where
  text : String
  deriving DecidableEq, Repr

namespace TextInput

def maxBytes : Nat := 65536

def parse (buf : List UInt8) : Except ParseError TextInput :=
  match buf with
  | l₀ :: l₁ :: l₂ :: l₃ :: bytes =>
      let len := (u32OfLeBytes [l₀, l₁, l₂, l₃]).toNat
      if len > maxBytes then
        .error (.invalidField "TextInput.text.length" s!"{len} exceeds 64 KiB cap")
      else if buf.length < 4 + len then .error .shortPayload
      else
        match ofUtf8? (bytes.take len) with
        | some text => .ok ⟨text⟩
        | none =>
            let detail := utf8ErrorText (bytes.take len)
            .error (.invalidField "TextInput.text" s!"invalid UTF-8: {detail}")
  | _ => .error .shortPayload

/-- The length prefix is `as u32`. -/
def writeTo (input : TextInput) (out : List UInt8) : List UInt8 :=
  out ++ u32ToLeBytes (UInt32.ofNat (asBytes input.text).length) ++ asBytes input.text

def declared (buf : List UInt8) : Nat := announcedLength 4 buf

def declaredBytes (buf : List UInt8) : List UInt8 := (buf.drop 4).take (declared buf)

theorem parse_eq_ok {buf : List UInt8} {input : TextInput} :
    parse buf = .ok input ↔ 4 ≤ buf.length ∧ declared buf ≤ maxBytes ∧
      4 + declared buf ≤ buf.length ∧ ofUtf8? (declaredBytes buf) = some input.text := by
  unfold parse
  split
  · next l₀ l₁ l₂ l₃ bytes =>
      have hlen : (u32OfLeBytes [l₀, l₁, l₂, l₃]).toNat =
          declared (l₀ :: l₁ :: l₂ :: l₃ :: bytes) := toNat_u32OfLeBytes (by simp)
      simp only [hlen]
      constructor
      · intro h
        split at h
        · cases h
        · split at h
          · cases h
          · split at h
            · next hcap hroom text htext =>
                cases h
                exact ⟨by simp, by omega, by omega, htext⟩
            · cases h
      · rintro ⟨-, hcap, hroom, htext⟩
        have htext' : ofUtf8? (bytes.take (declared (l₀ :: l₁ :: l₂ :: l₃ :: bytes))) =
            some input.text := htext
        rw [if_neg (by omega), if_neg (by omega), htext']
  · next hshort =>
      constructor
      · intro h
        cases h
      · rintro ⟨hlen, -⟩
        match buf, hlen with
        | l₀ :: l₁ :: l₂ :: l₃ :: bytes, _ => exact (hshort l₀ l₁ l₂ l₃ bytes rfl).elim

theorem writeTo_eq (input : TextInput) (out : List UInt8) :
    input.writeTo out = out ++ input.writeTo [] := by
  simp [writeTo]

theorem writeTo_nil (input : TextInput) :
    input.writeTo [] = writePrefixed 4 (asBytes input.text) := by
  rw [writeTo, u32ToLeBytes_ofNat, List.nil_append, writePrefixed]

/-- The length wraps, and the parser takes what is left of it. -/
theorem parse_writeTo_eq_ok {input read : TextInput} (rest : List UInt8) :
    parse (input.writeTo [] ++ rest) = .ok read ↔
      (asBytes input.text).length % 2 ^ 32 ≤ maxBytes ∧
        ofUtf8? ((asBytes input.text).take ((asBytes input.text).length % 2 ^ 32)) =
          some read.text := by
  have hdeclared : declared (input.writeTo [] ++ rest) =
      (asBytes input.text).length % 2 ^ 32 := by
    rw [declared, writeTo_nil]
    exact announcedLength_writePrefixed 4 (asBytes input.text) rest
  have hle : (asBytes input.text).length % 2 ^ 32 ≤ (asBytes input.text).length :=
    Nat.mod_le _ _
  have hbytes : declaredBytes (input.writeTo [] ++ rest) =
      (asBytes input.text).take ((asBytes input.text).length % 2 ^ 32) := by
    rw [declaredBytes, hdeclared, writeTo_nil, drop_writePrefixed,
      List.take_append_of_le_length hle]
  have hlength : (input.writeTo [] ++ rest).length =
      4 + (asBytes input.text).length + rest.length := by
    rw [writeTo_nil, List.length_append, length_writePrefixed]
  rw [parse_eq_ok, hdeclared, hbytes, hlength]
  constructor
  · rintro ⟨-, hcap, -, htext⟩
    exact ⟨hcap, htext⟩
  · rintro ⟨hcap, htext⟩
    exact ⟨by omega, hcap, by omega, htext⟩

theorem parse_writeTo (input : TextInput) (h : (asBytes input.text).length ≤ maxBytes)
    (rest : List UInt8) : parse (input.writeTo [] ++ rest) = .ok input := by
  have hfits : (asBytes input.text).length < 2 ^ 32 := h.trans_lt (by decide)
  rw [parse_writeTo_eq_ok, Nat.mod_eq_of_lt hfits, List.take_length]
  exact ⟨h, ofUtf8?_utf8 input.text⟩

theorem writeTo_prefix_of_parse {buf : List UInt8} {input : TextInput}
    (h : parse buf = .ok input) : input.writeTo [] <+: buf := by
  obtain ⟨hshort, -, hroom, htext⟩ := parse_eq_ok.mp h
  have htake : (buf.take 4).length = 4 := by
    rw [List.length_take]
    omega
  have hbytes : asBytes input.text = declaredBytes buf := utf8_of_ofUtf8? htext
  have hlength : (declaredBytes buf).length = declared buf := by
    rw [declaredBytes, List.length_take, List.length_drop]
    omega
  have hdeclared : toLeBytes 4 (declared buf) = buf.take 4 := by
    have hword := toLeBytes_ofLeBytes (buf.take 4)
    rwa [htake] at hword
  rw [writeTo_nil, writePrefixed, hbytes, hlength, hdeclared, declaredBytes,
    ← List.take_add]
  exact List.take_prefix _ buf

theorem parse_fails_iff (buf : List UInt8) :
    (∃ error, parse buf = .error error) ↔ buf.length < 4 ∨ maxBytes < declared buf ∨
      buf.length < 4 + declared buf ∨ ofUtf8? (declaredBytes buf) = none := by
  constructor
  · rintro ⟨error, herror⟩
    by_contra hgood
    push Not at hgood
    obtain ⟨hshort, hcap, hroom, hvalid⟩ := hgood
    obtain ⟨text, htext⟩ := Option.ne_none_iff_exists'.mp hvalid
    have hok : parse buf = .ok ⟨text⟩ := parse_eq_ok.mpr ⟨hshort, hcap, hroom, htext⟩
    rw [herror] at hok
    cases hok
  · intro hbad
    cases hparse : parse buf with
    | error error => exact ⟨error, rfl⟩
    | ok input =>
        obtain ⟨hshort, hcap, hroom, htext⟩ := parse_eq_ok.mp hparse
        rw [htext] at hbad
        simp only [reduceCtorEq, or_false] at hbad
        omega

end TextInput

end OpenRD.Proto
