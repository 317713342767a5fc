import OpenRD.Web.CborReader

/-!
# The web client's decisions
-/

namespace OpenRD.Web

structure Frame where
  version : UInt8
  type : UInt8
  payload : List UInt8

namespace Control

def authResult : UInt8 := 0x05

def openChannelAck : UInt8 := 0x07

end Control

def inputChannelId : UInt64 := 1

/-- How the click handler fails to come to its end: an exception, `return` after a log
line, or a call that never ends. -/
inductive Stop where
  | thrown (error : Thrown)
  | returned
  | forever
  deriving DecidableEq, Repr

def ReadStop.toStop : ReadStop → Stop
  | .thrown error => .thrown error
  | .forever => .forever

section Handler

-- `new TextDecoder().decode(contents) | 0`, and the room for nested calls
variable (textToInt32 : List UInt8 → Int) (stack : Nat)

/-- `new CborReader(payload).readValue()`, on which `get` is called next. -/
def readMap (payload : List UInt8) : Except Stop (List (Value × Value)) :=
  match readValue stack (some payload) with
  | .ok (.map entries, _) => .ok entries
  | .ok _ => .error (.thrown .typeError)
  | .error stop => .error stop.toStop

/-- Expects a frame of one type and goes on if the status under `k` comes to 0. -/
def expectStatus (type : UInt8) (k : Int) (frame : Option Frame) : Except Stop Unit :=
  match frame with
  | none => .error .returned
  | some frame =>
      if frame.type ≠ type then .error .returned
      else
        match readMap stack frame.payload with
        | .error stop => .error stop
        | .ok entries =>
            let status := (getNumber entries k).orZero.toInt32 textToInt32
            if status ≠ 0 then .error .returned else .ok ()

def receiveAuthResult : Option Frame → Except Stop Unit :=
  expectStatus textToInt32 stack Control.authResult 1

variable {textToInt32 : List UInt8 → Int} {stack : Nat}

theorem readMap_eq_ok {payload : List UInt8} {entries : List (Value × Value)} :
    readMap stack payload = .ok entries ↔
      ∃ pos, readValue stack (some payload) = .ok (.map entries, pos) := by
  unfold readMap
  split <;> simp_all

end Handler

end OpenRD.Web
