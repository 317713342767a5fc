import OpenRD.Foundation.Utf8

/-!
# Error codes, parse errors and error chains

`Error` stands for the error values the server and the test client pass upwards
with `?`: a text, a text wrapped around a cause, or an error of a library.
-/

namespace OpenRD.Proto

open OpenRD.Foundation

inductive ErrorCode where
  | ok
  | invalidFrame
  | unsupportedVersion
  | unauthenticated
  | authFailed
  | permissionDenied
  | unknownChannelKind
  | channelLimitExceeded
  | resourceExhausted
  | rateLimited
  | sessionExpired
  | resumptionRejected
  | internal
  | notImplemented
  | consentDenied
  | invalidParameter
  | vendorDefined
  deriving DecidableEq, Repr

def ErrorCode.toU32 : ErrorCode → UInt32
  | .ok => 0x0000
  | .invalidFrame => 0x0001
  | .unsupportedVersion => 0x0002
  | .unauthenticated => 0x0003
  | .authFailed => 0x0004
  | .permissionDenied => 0x0005
  | .unknownChannelKind => 0x0006
  | .channelLimitExceeded => 0x0007
  | .resourceExhausted => 0x0008
  | .rateLimited => 0x0009
  | .sessionExpired => 0x000A
  | .resumptionRejected => 0x000B
  | .internal => 0x000C
  | .notImplemented => 0x000D
  | .consentDenied => 0x000E
  | .invalidParameter => 0x000F
  | .vendorDefined => 0xFFFF

theorem ErrorCode.toU32_eq_ok {code : ErrorCode} :
    code.toU32 = ErrorCode.ok.toU32 ↔ code = .ok := by
  cases code <;> decide

inductive ParseError where
  | shortHeader
  | shortPayload
  | oversizedFrame (length : UInt32)
  | unknownFrameType (value : UInt8) (channel : String)
  | invalidField (field detail : String)
  deriving DecidableEq, Repr

inductive Error where
  | msg (text : String)
  | context (text : String) (cause : Error)
  | parse (error : ParseError)
  | cbor (text : String)
  /-- A read, write, open or accept that the transport reports as failed. -/
  | transport (text : String)
  | panic (text : String)
  deriving DecidableEq, Repr

/-- The error path of `result.context(text)`. -/
def withContext {α : Type} (text : String) : Except Error α → Except Error α
  | .ok value => .ok value
  | .error cause => .error (.context text cause)

def parsed {α : Type} : Except ParseError α → Except Error α
  | .ok value => .ok value
  | .error error => .error (.parse error)

def okOrElse {α : Type} (text : String) : Option α → Except Error α
  | some value => .ok value
  | none => .error (.msg text)

section Sequencing

variable {ε α β : Type}

@[simp] theorem ok_bind (value : α) (f : α → Except ε β) :
    (Except.ok value >>= f) = f value := rfl

@[simp] theorem error_bind (error : ε) (f : α → Except ε β) :
    (Except.error error >>= f) = .error error := rfl

@[simp] theorem map_ok (f : α → β) (value : α) :
    (f <$> (Except.ok value : Except ε α)) = .ok (f value) := rfl

@[simp] theorem map_error (f : α → β) (error : ε) :
    (f <$> (Except.error error : Except ε α)) = .error error := rfl

theorem bind_eq_ok {result : Except ε α} {f : α → Except ε β} {value : β} :
    (result >>= f) = .ok value ↔
      ∃ middle, result = .ok middle ∧ f middle = .ok value := by
  cases result <;> simp

@[simp] theorem okOrElse_eq_ok {text : String} {option : Option α} {value : α} :
    okOrElse text option = .ok value ↔ option = some value := by
  cases option <;> simp [okOrElse]

@[simp] theorem withContext_eq_ok {text : String} {result : Except Error α} {value : α} :
    withContext text result = .ok value ↔ result = .ok value := by
  cases result <;> simp [withContext]

@[simp] theorem parsed_eq_ok {result : Except ParseError α} {value : α} :
    parsed result = .ok value ↔ result = .ok value := by
  cases result <;> simp [parsed]

end Sequencing

def hexDigit (n : Nat) : Char :=
  ("0123456789abcdef".toList.getD n '0')

def hexByte (byte : UInt8) : String :=
  String.ofList [hexDigit (byte.toNat / 16), hexDigit (byte.toNat % 16)]

def hexEncode (bytes : List UInt8) : String :=
  String.join (bytes.map hexByte)

def asBytes (text : String) : List UInt8 := utf8 text

end OpenRD.Proto
