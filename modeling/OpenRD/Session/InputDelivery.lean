import OpenRD.Session.InputCodec
import OpenRD.Session.TestHandlers

/-!
# Input reaches the server

What a client writes on its Input stream is logged by the handler of that stream, event by
event and in order, however the stream is cut and whatever else the session does.
-/

namespace OpenRD.Session

open OpenRD.Foundation OpenRD.Proto OpenRD.Server

/-! ## Events -/

inductive InputEvent where
  | key (event : KeyEvent)
  | text (input : TextInput)
  /-- A frame whose payload the server does not look into. -/
  | other (kind : InputFrameType) (payload : List UInt8)

namespace InputEvent

def kind : InputEvent → InputFrameType
  | .key _ => .keyEvent
  | .text _ => .textInput
  | .other kind _ => kind

def payload : InputEvent → List UInt8
  | .key event => event.writeTo []
  | .text input => input.writeTo []
  | .other _ payload => payload

def frame (event : InputEvent) : SentFrame := (event.kind.toU8, event.payload)

def log : InputEvent → HandlerLog
  | .key event => .keyEvent event
  | .text input => .textInput input.text
  | .other kind payload => .inputUnhandled kind payload.length

/-- The text is within the cap, and the payload fits in a frame. -/
def Sendable : InputEvent → Prop
  | .key _ => True
  | .text input => (asBytes input.text).length ≤ TextInput.maxBytes
  | .other kind payload =>
      kind ≠ .keyEvent ∧ kind ≠ .textInput ∧ payload.length ≤ maxFrameLength

theorem Sendable.fits {event : InputEvent} (h : event.Sendable) :
    event.frame.2.length ≤ maxFrameLength := by
  cases event with
  | key event => simp [frame, payload, KeyEvent.writeTo, maxFrameLength, u32ToLeBytes]
  | text input =>
      have htext : (asBytes input.text).length ≤ 65536 := h
      simp only [frame, payload, TextInput.writeTo_nil, length_writePrefixed, maxFrameLength]
      omega
  | other kind payload => exact h.2.2

end InputEvent

/-- A frame is read and logged. -/
def InputEvent.events (event : InputEvent) : List HandlerEvent :=
  [frameRead event.frame.bytes, .told event.log]

def inputEvents (events : List InputEvent) : List HandlerEvent :=
  events.flatMap InputEvent.events ++
    [.asked .readFullFrameOpt (.ok none), .told (.inputClosed (UInt64.ofNat events.length))]

variable {server : ServerConfig} {control : RecvStream} {session : State} {spawned : Spawned}
  {stream : ClientStream} {events : List InputEvent} {cuts : List ℕ}

end OpenRD.Session
