import OpenRD.Session.Delivery
import OpenRD.Session.ReaderAgreement
import OpenRD.Web.Connect
import OpenRD.Web.WireItems

/-!
# A web client in session with the server

The client's connect flow, the server's Control task and its handlers take their steps
in any order.  What the client writes, the server may read from then on; what the server
writes reaches the client's reader in chunks.
-/

namespace OpenRD.Session

open OpenRD.Foundation OpenRD.Proto OpenRD.Server

structure WebWorld where
  reader : Web.FrameReader
  /-- How many bytes of the Control stream have been handed to the reader. -/
  delivered : Nat

abbrev WebRun :=
  Running Web.Request Web.Request.Answer Web.Output WebWorld Web.Stop Unit

/-- `ended` tells whether the reader has been handed all there will ever be. -/
def webEnv (ended : Bool) :
    Env Web.Request Web.Request.Answer Web.Output WebWorld Unit where
  answer world question _ :=
    match question with
    | .next =>
        match world.reader.next with
        | (.ok (some frame), reader) => some (.ok (some frame), { world with reader })
        | (result, reader) => if ended then some (result, { world with reader }) else none
    | .write _ => some (.ok (), world)
    | .createUnidirectionalStream => some (.ok (), world)
    | .writeInput _ => some (.ok (), world)
    | .closeInput => some (.ok (), world)
    | .setTimeout _ => some ((), world)
  perform world _ := world

structure WebSession where
  server : State
  client : WebRun

/-! ## What the client sends -/

/-- All that the client ever writes on the Control stream. -/
def webControl (pin : String) : List UInt8 :=
  Web.encodeFrame Web.Control.clientHello Web.encodeClientHello ++
    Web.encodeFrame Web.Control.authRequest (Web.encodeAuthRequest "pin" (utf8 pin)) ++
    Web.encodeFrame Web.Control.openChannel
      (Web.encodeOpenChannel Web.ChannelKind.input Web.inputChannelId.toNat 2)

/-- All that the client ever writes on its Input stream. -/
def webInput : List UInt8 :=
  Web.encodeFrame Web.InputFrame.keyEvent (Web.encodeKeyEvent 0x0061 0x001E 0 0x01) ++
    Web.encodeFrame Web.InputFrame.keyEvent (Web.encodeKeyEvent 0x0061 0x001E 0 0x00) ++
    Web.encodeFrame Web.InputFrame.textInput (Web.encodeTextInput "olá, mundo 🌍 (web)")

def webWritten (history : List Web.ClientEvent) : List UInt8 :=
  (history.filterMap fun
    | .asked (.write bytes) _ => some bytes
    | _ => none).flatten

def webInputWritten (history : List Web.ClientEvent) : List UInt8 :=
  (history.filterMap fun
    | .asked (.writeInput bytes) _ => some bytes
    | _ => none).flatten

def inputClosed (history : List Web.ClientEvent) : Bool :=
  history.any fun
    | .asked .closeInput _ => true
    | _ => false

def connectionClosed (history : List Web.ClientEvent) : Bool :=
  history.any fun
    | .told (.close ..) => true
    | _ => false

/-! ## Steps -/

inductive WebAction where
  | control
  | handler (index : Nat) (choice : HandlerChoice)
  /-- The next chunk of the Control stream arrives at the client. -/
  | deliver (count : Nat)
  /-- `cuts` is how the server will receive the Input stream, if this opens it. -/
  | client (cuts : List Nat)

namespace WebSession

def sent (session : WebSession) : List UInt8 :=
  wire (controlFrames session.server.history)

def ended (session : WebSession) : Bool :=
  session.server.outcome.isSome && session.client.world.delivered == session.sent.length

def deliver (session : WebSession) (count : Nat) : WebSession :=
  let world := session.client.world
  let chunk := (session.sent.drop world.delivered).take count
  let reader : Web.FrameReader :=
    { world.reader with chunks := world.reader.chunks ++ [chunk] }
  { session with client.world := ⟨reader, world.delivered + chunk.length⟩ }

/-- The stream the client is about to open reaches the server with the client's step. -/
def opened (session : WebSession) (cuts : List Nat) : World :=
  match session.client.program with
  | .ask .createUnidirectionalStream _ =>
      session.server.world.openUni ChannelKind.input.toU64 ⟨webInput, cuts, none⟩
  | _ => session.server.world

/-- The Control task has read no more than the client has written. -/
def ReadsControl (pin : String) (session : WebSession) (next : State) : Prop :=
  OnlySent ((webControl pin).length - (webWritten session.client.history).length)
    (connectionClosed session.client.history) session.server.reading
    session.server.world.control next.world.control

/-- Neither has a handler of an Input stream. -/
def ReadsInput (session : WebSession) (spawned : Spawned) (next : HandlerRun) : Prop :=
  isInput spawned.task = true →
    OnlySent (webInput.length - (webInputWritten session.client.history).length)
      (inputClosed session.client.history) spawned.reading spawned.run.world.recv
      next.world.recv

instance (pin : String) (session : WebSession) (next : State) :
    Decidable (session.ReadsControl pin next) :=
  inferInstanceAs (Decidable (OnlySent ..))

instance (session : WebSession) (spawned : Spawned) (next : HandlerRun) :
    Decidable (session.ReadsInput spawned next) :=
  inferInstanceAs (Decidable (_ → OnlySent ..))

def step (server : ServerConfig) (pin : String) (session : WebSession) :
    WebAction → Option WebSession
  | .control => do
      let next ← (controlEnv server).advance session.server none
      if session.ReadsControl pin next then
        return { session with server := next }
      else none
  | .handler index choice => do
      let spawned ← session.server.world.handlers[index]?
      let run ← handlerEnv.advance spawned.run choice
      if session.ReadsInput spawned run then
        let world ← session.server.world.stepHandler index choice
        return { session with server.world := world }
      else none
  | .deliver count => some (session.deliver count)
  | .client cuts => do
      let client ← (webEnv session.ended).advance session.client ()
      return { server := { session.server with world := session.opened cuts }, client }

end WebSession

section Runs

variable (server : ServerConfig) (textToInt32 : List UInt8 → Int) (stack : Nat)
  (pin : String) (cuts : List Nat)

/-- The Control stream is open, and will reach the server as `cuts` say. -/
def WebSession.start : WebSession where
  server := Session.start server ⟨webControl pin, cuts, none⟩
  client := (webEnv false).settle (Web.connect textToInt32 stack pin) [] ⟨⟨[], []⟩, 0⟩

def WebReachable (session : WebSession) : Prop :=
  ∃ actions : List WebAction,
    actions.foldlM (WebSession.step server pin)
      (.start server textToInt32 stack pin cuts) = some session

end Runs

end OpenRD.Session
