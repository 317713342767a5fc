import OpenRD.Proto.Input
import OpenRD.Web.CborWriter

/-!
# The payloads of the Input channel, read and written
-/

namespace OpenRD.Session

open OpenRD.Foundation OpenRD.Proto

/--
A parser that recovers what `write` appends whatever follows, accepts nothing else,
and fails on the malformed byte strings alone.
-/
structure ExactCodec {α : Type} (parse : List UInt8 → Except ParseError α)
    (write : α → List UInt8 → List UInt8) (Fits : α → Prop)
    (Malformed : List UInt8 → Prop) : Prop where
  appends : ∀ x out, write x out = out ++ write x []
  recovers : ∀ x rest, Fits x → parse (write x [] ++ rest) = .ok x
  accepts : ∀ buf x, parse buf = .ok x → write x [] <+: buf
  fails : ∀ buf, (∃ error, parse buf = .error error) ↔ Malformed buf

theorem keyEvent_exact :
    ExactCodec KeyEvent.parse KeyEvent.writeTo (fun _ => True)
      (fun buf => buf.length < 13) where
  appends := KeyEvent.writeTo_eq
  recovers event rest _ := event.parse_writeTo rest
  accepts _ _ := KeyEvent.writeTo_prefix_of_parse
  fails := KeyEvent.parse_fails_iff

theorem textInput_exact :
    ExactCodec TextInput.parse TextInput.writeTo
      (fun input => (asBytes input.text).length ≤ 65536)
      (fun buf => buf.length < 4 ∨ 65536 < TextInput.declared buf ∨
        buf.length < 4 + TextInput.declared buf ∨
        ofUtf8? (TextInput.declaredBytes buf) = none) where
  appends := TextInput.writeTo_eq
  recovers input rest h := input.parse_writeTo h rest
  accepts _ _ := TextInput.writeTo_prefix_of_parse
  fails := TextInput.parse_fails_iff

/-! ## The web client's encoders -/

theorem encodeKeyEvent_eq (event : KeyEvent) :
    Web.encodeKeyEvent event.keysym.toNat event.scancode.toNat event.modifiers.value.toNat
      event.flags = event.writeTo [] := rfl

theorem encodeTextInput_eq (input : TextInput) :
    Web.encodeTextInput input.text = input.writeTo [] :=
  (input.writeTo_nil).symm

/--
The two payloads are exact, and the web client writes the same bytes for the same
event.
-/
theorem inputCodec_exact :
    ExactCodec KeyEvent.parse KeyEvent.writeTo (fun _ => True)
        (fun buf => buf.length < 13) ∧
      ExactCodec TextInput.parse TextInput.writeTo
        (fun input => (asBytes input.text).length ≤ 65536)
        (fun buf => buf.length < 4 ∨ 65536 < TextInput.declared buf ∨
          buf.length < 4 + TextInput.declared buf ∨
          ofUtf8? (TextInput.declaredBytes buf) = none) ∧
      (∀ event : KeyEvent, Web.encodeKeyEvent event.keysym.toNat event.scancode.toNat
        event.modifiers.value.toNat event.flags = event.writeTo []) ∧
      ∀ input : TextInput, Web.encodeTextInput input.text = input.writeTo [] :=
  ⟨keyEvent_exact, textInput_exact, encodeKeyEvent_eq, encodeTextInput_eq⟩

/-- A payload cut in the middle of a character. -/
example : ¬ ∃ input, TextInput.parse [2, 0, 0, 0, 0xC3] = .ok input := by
  rintro ⟨input, hparse⟩
  obtain ⟨error, herror⟩ := (TextInput.parse_fails_iff [2, 0, 0, 0, 0xC3]).mpr (by decide)
  rw [hparse] at herror
  cases herror

end OpenRD.Session
