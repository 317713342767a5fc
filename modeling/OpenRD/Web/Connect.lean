import OpenRD.Foundation.Program
import OpenRD.Web.CborWriter
import OpenRD.Web.FrameReader

/-!
# The web client's connect flow

What the click handler does once its Control stream is open, as an interactive
program: it writes, waits for the next frame, and logs.
-/

namespace OpenRD.Web

open OpenRD.Foundation

namespace Control

def clientHello : UInt8 := 0x01

def serverHello : UInt8 := 0x02

def authRequest : UInt8 := 0x03

def openChannel : UInt8 := 0x06

end Control

namespace ChannelKind

def input : Nat := 0x0004

end ChannelKind

namespace InputFrame

def keyEvent : UInt8 := 0x01

def textInput : UInt8 := 0x07

end InputFrame

/-- A line of the log; those that show received values keep the values. -/
inductive Line where
  | text (s : String)
  | serverHello (map : Value)
  | authResult (status : Int) (permission identity : Value)
  | openChannelAck (status : Int)

inductive Request where
  | write (bytes : List UInt8)
  | next
  | createUnidirectionalStream
  | writeInput (bytes : List UInt8)
  | closeInput
  | setTimeout (millis : Nat)

/-- A rejected promise throws what it was rejected with. -/
abbrev Request.Answer : Request → Type
  | .write _ => Except Thrown Unit
  | .next => Except Thrown (Option Frame)
  | .createUnidirectionalStream => Except Thrown Unit
  | .writeInput _ => Except Thrown Unit
  | .closeInput => Except Thrown Unit
  | .setTimeout _ => Unit

inductive Output where
  | log (line : Line)
  /-- `wt.close`. -/
  | close (closeCode : Nat) (reason : String)

abbrev ClientProg := Prog Request Request.Answer Output Stop

abbrev ClientEvent := Event Request Request.Answer Output

/-! ## The operations of the environment -/

def awaited {α : Type} : Except Thrown α → Except Stop α
  | .ok value => .ok value
  | .error error => .error (.thrown error)

def write (bytes : List UInt8) : ClientProg Unit := .call (.write bytes) awaited

def next : ClientProg (Option Frame) := .call .next awaited

def createUnidirectionalStream : ClientProg Unit :=
  .call .createUnidirectionalStream awaited

def writeInput (bytes : List UInt8) : ClientProg Unit := .call (.writeInput bytes) awaited

def closeInput : ClientProg Unit := .call .closeInput awaited

def setTimeout (millis : Nat) : ClientProg Unit := .call (.setTimeout millis) .ok

def log (line : Line) : ClientProg Unit := .say (.log line)

/-! ## Steps of the flow -/

/-- `number.toString(16)`. -/
def toHex (n : Nat) : String := String.ofList (Nat.toDigits 16 n)

def expectedText (name : String) : Option Frame → String
  | some frame => s!"expected {name}, got type=0x{toHex frame.type.toNat}"
  | none => s!"expected {name}, got EOF"

/-- Logs what was expected and received instead, and returns from the handler. -/
def giveUp {α : Type} (name : String) (received : Option Frame) : ClientProg α := do
  log (.text (expectedText name received))
  .fail .returned

def awaitFrame (type : UInt8) (name : String) : ClientProg Frame := do
  let received ← next
  match received with
  | none => giveUp name none
  | some frame => if frame.type ≠ type then giveUp name (some frame) else return frame

/-- `value ?? ''`. -/
def Value.orEmpty : Value → Value
  | .null => .text []
  | .undefined => .text []
  | value => value

/-- The handler returns unless the status is 0. -/
def unlessFailed (status : Int) : ClientProg Unit :=
  if status ≠ 0 then .fail .returned else return ()

section Handler

-- as for the client's decisions
variable (textToInt32 : List UInt8 → Int) (stack : Nat)

def readPayload (payload : List UInt8) : Except Stop Value :=
  match readValue stack (some payload) with
  | .ok (value, _) => .ok value
  | .error stop => .error stop.toStop

def exchangeHello : ClientProg Unit := do
  write (encodeFrame Control.clientHello encodeClientHello)
  log (.text "sent ClientHello")
  let sh ← awaitFrame Control.serverHello "ServerHello"
  let map ← readPayload stack sh.payload
  log (.serverHello map)

def authenticate (pin : String) : ClientProg Unit := do
  write (encodeFrame Control.authRequest (encodeAuthRequest "pin" (utf8 pin)))
  log (.text "sent AuthRequest (method=pin)")
  let ar ← awaitFrame Control.authResult "AuthResult"
  let result ← readMap stack ar.payload
  let status := (getNumber result 1).orZero.toInt32 textToInt32
  log (.authResult status (getNumber result 2).orEmpty (getNumber result 3).orEmpty)
  unlessFailed status

def openInput : ClientProg Unit := do
  write (encodeFrame Control.openChannel
    (encodeOpenChannel ChannelKind.input inputChannelId.toNat 2))
  log (.text "sent OpenChannel(Input, channel_id=1)")
  let ack ← awaitFrame Control.openChannelAck "OpenChannelAck"
  let ackVal ← readMap stack ack.payload
  let ackStatus := (getNumber ackVal 2).orZero.toInt32 textToInt32
  log (.openChannelAck ackStatus)
  unlessFailed ackStatus

def pushEvents : ClientProg Unit := do
  createUnidirectionalStream
  log (.text "opened Input unidirectional stream")
  writeInput (encodeFrame InputFrame.keyEvent (encodeKeyEvent 0x0061 0x001E 0 0x01))
  log (.text "sent KeyEvent ('a' down)")
  writeInput (encodeFrame InputFrame.keyEvent (encodeKeyEvent 0x0061 0x001E 0 0x00))
  log (.text "sent KeyEvent ('a' up)")
  writeInput (encodeFrame InputFrame.textInput (encodeTextInput "olá, mundo 🌍 (web)"))
  log (.text "sent TextInput")
  closeInput
  log (.text "finished Input uni stream")

def connect (pin : String) : ClientProg Unit := do
  exchangeHello stack
  authenticate textToInt32 stack pin
  openInput textToInt32 stack
  pushEvents
  setTimeout 200
  .say (.close 0 "bye")
  log (.text "done.")

end Handler

end OpenRD.Web
