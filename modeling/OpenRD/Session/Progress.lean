import OpenRD.Foundation.Progress
import OpenRD.Server.Clipboard
import OpenRD.Session.Agreement
import OpenRD.Session.Codecs
import OpenRD.Session.Exchanges
import OpenRD.Session.World

/-!
# A client that keeps to the protocol is served

When the client's frames are well formed and the transport works, every exchange of
the Control task completes.
-/

namespace OpenRD.Session

open OpenRD.Foundation OpenRD.Proto OpenRD.Server

variable {server : ServerConfig} {control : RecvStream} {world : World}

/-! ## Runs that lead from one program to another -/

/-- A Control task about to run `program`, with its outputs announced. -/
def State.at (server : ServerConfig) (program : ControlProg Unit)
    (history : List ControlEvent) (world : World) : State :=
  (controlEnv server).settle program history world

theorem Reachable.step {session next : State} (h : Reachable server control session)
    (action : Action) (hstep : step server session action = some next) :
    Reachable server control next := by
  obtain ⟨actions, hrun⟩ := h
  refine ⟨actions ++ [action], ?_⟩
  rw [List.foldlM_append, hrun]
  simpa using hstep

theorem Reachable.leads {program program' : ControlProg Unit}
    {history events : List ControlEvent} {world' : World}
    (h : Reachable server control (.at server program history world))
    (hleads : (controlEnv server).Leads program world events program' world') :
    Reachable server control (.at server program' (history ++ events) world') := by
  obtain ⟨actions, hrun⟩ := h
  obtain ⟨choices, hchoices⟩ := hleads history
  refine ⟨actions ++ choices.map .control, ?_⟩
  rw [List.foldlM_append, hrun, Option.bind_eq_bind, Option.bind_some,
    List.foldlM_map]
  exact hchoices

theorem reachable_start :
    Reachable server control (.at server (handleControlStream server) []
      (World.start control)) :=
  ⟨[], rfl⟩

theorem reachable_openUni
    (h : Reachable server control (.at server (handleControlStream server) [] world))
    (purpose : UInt64) (recv : RecvStream) :
    Reachable server control (.at server (handleControlStream server) []
      (world.openUni purpose recv)) :=
  h.step (.openUni purpose recv) rfl

theorem reachable_openBi
    (h : Reachable server control (.at server (handleControlStream server) [] world))
    (purpose : UInt64) (recv : RecvStream) :
    Reachable server control (.at server (handleControlStream server) []
      (world.openBi purpose recv)) :=
  h.step (.openBi purpose recv) rfl

/-! ## The exchanges -/

theorem completes_write (frameType : ControlFrameType) (payload : List UInt8) :
    (controlEnv server).Completes (Control.writeFrame frameType payload) world
      [writeEvent frameType payload (.ok ())] () world :=
  .call none rfl rfl

def World.afterRead (world : World) : World :=
  { world with control := (readFullFrame world.control).2 }

theorem completes_readFrame {bytes : List UInt8}
    (h : (readFullFrame world.control).1 = .ok bytes) :
    (controlEnv server).Completes Control.readFrame world [readEvent bytes] bytes
      world.afterRead := by
  rw [readEvent, ← h]
  exact .call none rfl h

theorem completes_helloExchange (hello : Hello server)
    (h : (readFullFrame world.control).1 = .ok hello.bytes) :
    (controlEnv server).Completes (helloExchange server) world hello.events ()
      world.afterRead :=
  Hello.completes hello (completes_readFrame h) (completes_write _ _)

theorem completes_authExchange (auth : Auth server)
    (h : (readFullFrame world.control).1 = .ok auth.bytes) :
    (controlEnv server).Completes (authExchange server) world auth.events
      (auth.status.toU32 == ErrorCode.ok.toU32) world.afterRead :=
  Auth.completes auth (completes_readFrame h) (completes_write _ _)

def World.opened (server : ServerConfig) (channel : ServerChannel) (world : World) :
    World :=
  { world with
    serverStreams := world.serverStreams + 1
    handlers := world.handlers ++ [.start server (channel.task world.serverStreams)] }

theorem completes_openServerChannel {channel : ServerChannel} {handles : List Nat}
    (opened : Opened server channel) (hstream : opened.stream = world.serverStreams) :
    (controlEnv server).Completes (openServerChannel server channel handles) world
      opened.events (handles ++ [handles.length]) (world.opened server channel) := by
  have hopen : (controlEnv server).Completes Control.openUni world
      [.asked .openUni (.ok opened.stream)] opened.stream
      { world with serverStreams := world.serverStreams + 1 } := by
    rw [hstream]
    exact .call none rfl rfl
  have hworld : world.opened server channel = (controlEnv server).perform
      { world with serverStreams := world.serverStreams + 1 }
      (.spawn (channel.task opened.stream)) := by
    rw [hstream]
    rfl
  rw [hworld]
  exact Opened.completes opened (completes_write _ _) hopen (.call none rfl rfl)

/-! ## Serving -/

/-- The Control task at the head of the dispatcher loop. -/
def dispatching (server : ServerConfig) (handles : List Nat) : ControlProg Unit :=
  Prog.iterate handles (dispatch server) >>= joinAll

def servedWorld (server : ServerConfig) (world : World) : World :=
  (world.afterRead.afterRead.opened server displayChannel).opened server cursorChannel

/-- A client that says hello and gives the PIN gets to the dispatcher loop. -/
theorem leads_dispatching {hello : Hello server} {auth : Auth server}
    {display : Opened server displayChannel} {cursor : Opened server cursorChannel}
    (hhello : helloFrame world.control = .ok hello.bytes)
    (hauth : authFrame world.control = .ok auth.bytes) (hstatus : auth.status = .ok)
    (hdisplay : display.stream = world.serverStreams)
    (hcursor : cursor.stream = world.serverStreams + 1) :
    (controlEnv server).Leads (handleControlStream server) world
      (hello.events ++ (auth.events ++ (display.events ++ cursor.events)))
      (dispatching server [0, 1])
      (servedWorld server world) := by
  refine (completes_helloExchange hello hhello _ _).trans ?_
  have hauth : (readFullFrame world.afterRead.control).1 = .ok auth.bytes := hauth
  refine (completes_authExchange auth hauth _ _).trans ?_
  rw [hstatus, beq_self_eq_true, if_pos rfl, serveChannels]
  have hdisplay : display.stream = world.afterRead.afterRead.serverStreams := hdisplay
  refine (completes_openServerChannel display hdisplay _ _).trans ?_
  exact completes_openServerChannel cursor hcursor _ _

/-! ## Passes of the dispatcher loop -/

def World.accept (world : World) (kind : UInt64) : Option (ClientStream × World) :=
  if kind = ChannelKind.input.toU64 then
    match world.pendingUni with
    | stream :: pendingUni => some (stream, { world with pendingUni })
    | [] => none
  else
    match world.pendingBi with
    | stream :: pendingBi => some (stream, { world with pendingBi })
    | [] => none

def World.spawned (server : ServerConfig) (task : Task) (world : World) : World :=
  { world with handlers := world.handlers ++ [.start server task] }

theorem accepts_of_accept {kind : UInt64} {stream : ClientStream} {world' : World}
    (h : world.accept kind = some (stream, world')) :
    Accepts (controlEnv server) kind stream world world' := by
  constructor
  · rintro rfl
    rw [World.accept, if_pos rfl] at h
    split at h
    · next hpending =>
        cases h
        refine .call none ?_ rfl
        simp only [controlEnv, hpending]
    · cases h
  · intro hkind
    rw [World.accept, if_neg hkind] at h
    split at h
    · next hpending =>
        cases h
        refine .call none ?_ rfl
        simp only [controlEnv, hpending]
    · cases h

def World.afterReadOpt (world : World) : World :=
  { world with control := (readFullFrameOpt world.control).2 }

theorem completes_readFrameOpt {bytes : List UInt8}
    (h : (readFullFrameOpt world.control).1 = .ok (some bytes)) :
    (controlEnv server).Completes Control.readFrameOpt world [readOptEvent bytes]
      (some bytes) world.afterReadOpt := by
  rw [readOptEvent, ← h]
  exact .call none rfl h

/-- What a pass does to the world once it has read its frame. -/
def turnEffect : Turn server → World → Option World
  | .skipped .., world | .refused .., world => some world
  | .served acked _ stream, world =>
      match world.accept acked.request.kind with
      | some (next, world') =>
          if next = stream then
            some (world'.spawned server (clientTask acked.request.kind stream))
          else none
      | none => none

theorem completes_dispatch {turn : Turn server} {handles : List Nat} {world' : World}
    (hread : (readFullFrameOpt world.control).1 = .ok (some turn.bytes))
    (heffect : turnEffect turn world.afterReadOpt = some world') :
    (controlEnv server).Completes (dispatch server handles) world turn.events
      (.inl (turn.handles handles)) world' := by
  have hread : (controlEnv server).Completes Control.readFrameOpt world
      [readOptEvent turn.bytes] (some turn.bytes) world.afterReadOpt :=
    completes_readFrameOpt hread
  cases turn with
  | skipped bytes received =>
      cases heffect
      exact completes_dispatch_skipped hread received
  | refused acked unsupported =>
      cases heffect
      exact completes_dispatch_refused hread (completes_write _ _) unsupported
  | served acked supported stream =>
      rw [turnEffect] at heffect
      split at heffect
      · next next world'' haccept =>
          split at heffect
          · next hnext =>
              cases heffect
              cases hnext
              exact completes_dispatch_served hread (completes_write _ _)
                (accepts_of_accept haccept) supported
          · cases heffect
      · cases heffect

theorem leads_turn {turn : Turn server} {handles : List Nat} {world' : World}
    (hread : (readFullFrameOpt world.control).1 = .ok (some turn.bytes))
    (heffect : turnEffect turn world.afterReadOpt = some world') :
    (controlEnv server).Leads (dispatching server handles) world turn.events
      (dispatching server (turn.handles handles)) world' :=
  Env.leads_pass (completes_dispatch hread heffect)

/-! ## A client that keeps to the protocol -/

def sentHello {caps : Capabilities} {payload reply : List UInt8}
    (h : Carries server.cib (TestClient.clientHello caps) payload)
    (hreply : server.cib.intoWriter (serverHello server 0) = .ok reply) : Hello server where
  bytes := Frame.encode ControlFrameType.clientHello.toU8 payload []
  protoV := 0
  clientName := "openrd-test-client/0.0.1"
  clientCaps := caps
  payload := reply
  received := receiveClientHello_sent h
  written := hreply

theorem helloFrame_sent {payload : List UInt8} (hfits : payload.length ≤ maxFrameLength)
    (rest : List UInt8) (cuts : List Nat) (ending : Option Error) :
    helloFrame
        ⟨Frame.encode ControlFrameType.clientHello.toU8 payload [] ++ rest, cuts, ending⟩ =
      .ok (Frame.encode ControlFrameType.clientHello.toU8 payload []) := by
  obtain ⟨cuts', hread⟩ := readFrameWith_encode Server.readerTexts
    ControlFrameType.clientHello.toU8 hfits rest cuts ending
  exact congrArg Prod.fst hread

theorem acceptsHello_of_carries {cib : Ciborium} {hello : Cbor} {payload : List UInt8}
    {protoV : UInt64} {clientName : String} {clientCaps : Capabilities}
    (h : Carries cib hello payload)
    (hparse : parseClientHello hello = .ok (protoV, clientName, clientCaps)) :
    AcceptsHello cib (Frame.encode ControlFrameType.clientHello.toU8 payload []) protoV
      clientName clientCaps :=
  ⟨_, _, _, Frame.parse_encode _ h.fits, rfl, rfl, h.readBack, hparse⟩

theorem acceptsHello_sent {cib : Ciborium} {caps : Capabilities} {payload : List UInt8}
    (h : Carries cib (TestClient.clientHello caps) payload) :
    AcceptsHello cib (Frame.encode ControlFrameType.clientHello.toU8 payload []) 0
      "openrd-test-client/0.0.1" caps :=
  receiveClientHello_eq_ok.mp (receiveClientHello_sent h)

theorem receiveAuthRequest_sent {cib : Ciborium} {method : String}
    {credential payload : List UInt8}
    (h : Carries cib (TestClient.authRequest method credential) payload) :
    receiveAuthRequest cib (Frame.encode ControlFrameType.authRequest.toU8 payload []) =
      .ok (method, credential) :=
  receiveAuthRequest_eq_ok.mpr ⟨_, _, _, Frame.parse_encode _ h.fits, rfl, h.readBack,
    parseAuthRequest_recovers method credential _ (.refl _ _)⟩

theorem receiveOpenChannel_sent {cib : Ciborium} {kind channelId streamId : UInt64}
    {payload : List UInt8}
    (h : Carries cib (TestClient.openChannel kind channelId streamId) payload) :
    receiveOpenChannel cib (Frame.encode ControlFrameType.openChannel.toU8 payload []) =
      .ok (some ⟨kind, channelId, streamId⟩) :=
  receiveOpenChannel_eq_some.mpr ⟨_, _, _, Frame.parse_encode _ h.fits, rfl, h.readBack,
    parseOpenChannel_recovers kind channelId streamId _ (.refl _ _)⟩

def sentAuth {payload reply : List UInt8}
    (h : Carries server.cib (TestClient.authRequest "pin" (asBytes server.expectedPin))
      payload)
    (hreply : server.cib.intoWriter (buildAuthResult 0 "interactive"
      ("pin-user-" ++ hexEncode server.idSeed.toList)) = .ok reply) : Auth server where
  bytes := Frame.encode ControlFrameType.authRequest.toU8 payload []
  method := "pin"
  credential := asBytes server.expectedPin
  payload := reply
  received := receiveAuthRequest_sent h
  written := by
    rw [authDecision, if_pos rfl, if_pos (constantTimeEq_iff.mpr rfl)]
    exact hreply

def sentOpen {kind channelId streamId : UInt64} {payload reply : List UInt8}
    (h : Carries server.cib (TestClient.openChannel kind channelId streamId) payload)
    (hreply : server.cib.intoWriter (openChannelAck channelId (ackStatus kind).toU32) =
      .ok reply) : Acked server where
  bytes := Frame.encode ControlFrameType.openChannel.toU8 payload []
  request := ⟨kind, channelId, streamId⟩
  payload := reply
  received := receiveOpenChannel_sent h
  written := hreply

/-- A pass about the next frame on Control, after which the rest is left. -/
theorem Reachable.turn {handles : List Nat} {history : List ControlEvent}
    {world' : World} {frameType : UInt8} {payload rest : List UInt8} {ending : Option Error}
    (h : Reachable server control (.at server (dispatching server handles) history world))
    (turn : Turn server) (hcontrol : ∃ cuts,
      world.control = ⟨Frame.encode frameType payload [] ++ rest, cuts, ending⟩)
    (hfits : payload.length ≤ maxFrameLength)
    (hbytes : turn.bytes = Frame.encode frameType payload [])
    (heffect : turnEffect turn world.afterReadOpt = some world') :
    (∃ cuts, world.afterReadOpt.control = ⟨rest, cuts, ending⟩) ∧
      Reachable server control (.at server (dispatching server (turn.handles handles))
        (history ++ turn.events) world') := by
  obtain ⟨cuts, hcontrol⟩ := hcontrol
  obtain ⟨cuts', hread⟩ := readFrameOptWith_encode Server.readerTexts frameType hfits rest
    cuts ending
  rw [← hcontrol, ← hbytes] at hread
  exact ⟨⟨cuts', congrArg Prod.snd hread⟩,
    h.leads (leads_turn (congrArg Prod.fst hread) heffect)⟩

/-! ## A handler that answers -/

theorem Reachable.handler {session : State} {index : Nat} {spawned : Spawned}
    {run : HandlerRun} (h : Reachable server control session)
    (hspawned : session.world.handlers[index]? = some spawned)
    {choices : List HandlerChoice}
    (hrun : choices.foldlM handlerEnv.advance spawned.run = some run) :
    ∃ world, Reachable server control { session with world } ∧
      world.handlers = session.world.handlers.set index { spawned with run } := by
  induction choices generalizing session spawned with
  | nil =>
      cases hrun
      refine ⟨session.world, h, ?_⟩
      obtain ⟨hlt, hget⟩ := List.getElem?_eq_some_iff.mp hspawned
      rw [← hget, List.set_getElem_self]
  | cons choice choices ih =>
      rw [List.foldlM_cons, Option.bind_eq_bind, Option.bind_eq_some_iff] at hrun
      obtain ⟨run', hchoice, hrun⟩ := hrun
      let world' : World :=
        { session.world with
          handlers := session.world.handlers.set index { spawned with run := run' } }
      have hstep := h.step (.handler index choice) (step_handler_eq_some.mpr ⟨world',
        World.stepHandler_eq_some.mpr ⟨spawned, run', hspawned, hchoice, rfl⟩, rfl⟩)
      have hspawned' : world'.handlers[index]? = some { spawned with run := run' } :=
        List.getElem?_set_self (List.getElem?_eq_some_iff.mp hspawned).1
      obtain ⟨world, hreachable, hhandlers⟩ := ih hstep hspawned' hrun
      exact ⟨world, hreachable, by rw [hhandlers, List.set_set]⟩

theorem completes_nextFrame {α : Type} {fromU8 : UInt8 → Except ParseError α} {kind : α}
    {frameType : UInt8} {payload : List UInt8} (hkind : fromU8 frameType = .ok kind)
    (hfits : payload.length ≤ maxFrameLength) (rest : List UInt8) (cuts : List Nat)
    (ending : Option Error) :
    ∃ cuts', handlerEnv.Completes (Handler.nextFrame fromU8)
      ⟨⟨Frame.encode frameType payload [] ++ rest, cuts, ending⟩⟩
      [frameRead (Frame.encode frameType payload [])] (some (kind, payload))
      ⟨⟨rest, cuts', ending⟩⟩ := by
  obtain ⟨cuts', hread⟩ := readFrameOptWith_encode Server.readerTexts frameType hfits rest
    cuts ending
  have hframe : handlerEnv.Completes Handler.readFrameOpt
      ⟨⟨Frame.encode frameType payload [] ++ rest, cuts, ending⟩⟩
      [frameRead (Frame.encode frameType payload [])]
      (some (Frame.encode frameType payload [])) ⟨⟨rest, cuts', ending⟩⟩ := by
    refine .call default ?_ rfl
    simp only [handlerEnv]
    rw [show readFullFrameOpt _ = _ from hread]
  have hparse := parsed_eq_ok.mpr (Frame.parse_encode frameType hfits)
  exact ⟨cuts', .bind hframe (.bind (.lift hparse)
    (.bind (.lift (parsed_eq_ok.mpr hkind)) (.pure _)))⟩

theorem leads_eachFrame {α : Type} {fromU8 : UInt8 → Except ParseError α} {kind : α}
    {handleFrame : α → List UInt8 → HandlerProg Unit} {payload : List UInt8}
    {world world' world'' : HandlerWorld} {read events : List HandlerEvent}
    (hnext : handlerEnv.Completes (Handler.nextFrame fromU8) world read
      (some (kind, payload)) world')
    (hframe : handlerEnv.Completes (handleFrame kind payload) world' events () world'')
    (next : Unit → HandlerProg Unit) :
    handlerEnv.Leads (Handler.eachFrame fromU8 handleFrame >>= next) world (read ++ events)
      (Handler.eachFrame fromU8 handleFrame >>= next) world'' := by
  rw [← List.append_nil events]
  change handlerEnv.Leads (Prog.iterate () _ >>= next) world (read ++ (events ++ []))
    (Prog.afterPass _ next (.inl ())) world''
  refine Env.leads_pass ?_
  exact .bind hnext (.bind hframe (.pure _))

def requestEvents (mime : String) (requestId : UInt64) (payload reply : List UInt8) :
    List HandlerEvent :=
  [frameRead (Frame.encode ClipboardFrameType.requestContent.toU8 payload []),
    .told (.requestContent ⟨requestId, mime⟩), contentWritten reply (.ok ()),
    .told (.contentSent requestId (clipboardBody mime).length)]

theorem parseRequestContent_sent (mime : String) (requestId : UInt64) :
    parseRequestContent (TestClient.requestContent mime requestId) = ⟨requestId, mime⟩ := by
  simp [TestClient.requestContent, parseRequestContent, readMap, readFields, storeField,
    requestContentFields, Field.keep]

theorem leads_requestContent {mime : String} {requestId : UInt64}
    {payload reply : List UInt8}
    (h : Carries server.cib (TestClient.requestContent mime requestId) payload)
    (hreply : server.cib.intoWriter
      (buildClipboardContent requestId mime (clipboardBody mime)) = .ok reply)
    (rest : List UInt8) (cuts : List Nat) (ending : Option Error) :
    ∃ cuts', handlerEnv.Leads (handleClipboardStream server)
      ⟨⟨Frame.encode ClipboardFrameType.requestContent.toU8 payload [] ++ rest, cuts,
        ending⟩⟩
      (requestEvents mime requestId payload reply) (handleClipboardStream server)
      ⟨⟨rest, cuts', ending⟩⟩ := by
  have hkind : ClipboardFrameType.fromU8 ClipboardFrameType.requestContent.toU8 =
      .ok .requestContent := rfl
  obtain ⟨cuts', hnext⟩ := completes_nextFrame hkind h.fits rest cuts ending
  have hwrite (world : HandlerWorld) : handlerEnv.Completes
      (Handler.writeFrame ClipboardFrameType.content.toU8 reply) world
      [contentWritten reply (.ok ())] () world :=
    .call default rfl rfl
  have hframe (world : HandlerWorld) : handlerEnv.Completes
      (handleClipboardFrame server .requestContent payload) world
      [.told (.requestContent ⟨requestId, mime⟩), contentWritten reply (.ok ()),
        .told (.contentSent requestId (clipboardBody mime).length)] () world := by
    refine .bind (.lift (withContext_eq_ok.mpr (Ciborium.read_eq_ok.mpr h.readBack))) ?_
    rw [parseRequestContent_sent]
    exact .bind (.say _) (.bind (.lift (Ciborium.write_eq_ok.mpr hreply))
      (.bind (hwrite _) (.say _)))
  exact ⟨cuts', leads_eachFrame hnext (hframe _) _⟩

/-! ## The script of a served client -/

/-- What the peers write up to the dispatcher loop when all of it can be written. -/
structure Script (server : ServerConfig) (caps : Capabilities) where
  helloPayload : List UInt8
  authPayload : List UInt8
  helloReply : List UInt8
  authReply : List UInt8
  displayPayload : List UInt8
  cursorPayload : List UInt8
  hello : Carries server.cib (TestClient.clientHello caps) helloPayload
  auth : Carries server.cib (TestClient.authRequest "pin" (asBytes server.expectedPin))
    authPayload
  helloReplied : server.cib.intoWriter (serverHello server 0) = .ok helloReply
  authReplied : server.cib.intoWriter (buildAuthResult 0 "interactive"
    ("pin-user-" ++ hexEncode server.idSeed.toList)) = .ok authReply
  displayAnnounced : server.cib.intoWriter
    (openChannelAnnounce displayChannel.kind.toU64 displayChannel.channelId 0) =
      .ok displayPayload
  cursorAnnounced : server.cib.intoWriter
    (openChannelAnnounce cursorChannel.kind.toU64 cursorChannel.channelId 0) =
      .ok cursorPayload

namespace Script

variable {caps : Capabilities} (script : Script server caps)

def bytes : List UInt8 :=
  Frame.encode ControlFrameType.clientHello.toU8 script.helloPayload [] ++
    Frame.encode ControlFrameType.authRequest.toU8 script.authPayload []

def helloEvents : List ControlEvent :=
  (sentHello script.hello script.helloReplied).events

def authEvents : List ControlEvent :=
  (sentAuth script.auth script.authReplied).events

def openingEvents : List ControlEvent :=
  (⟨script.displayPayload, 0, script.displayAnnounced⟩ :
      Opened server displayChannel).events ++
    (⟨script.cursorPayload, 1, script.cursorAnnounced⟩ :
      Opened server cursorChannel).events

theorem helloFrame {rest : List UInt8} {cuts : List Nat} {ending : Option Error} :
    helloFrame ⟨script.bytes ++ rest, cuts, ending⟩ =
      .ok (Frame.encode ControlFrameType.clientHello.toU8 script.helloPayload []) := by
  rw [bytes, List.append_assoc]
  exact helloFrame_sent script.hello.fits _ cuts ending

theorem served {world : World} {rest : List UInt8} {cuts : List Nat}
    {ending : Option Error} (hcontrol : world.control = ⟨script.bytes ++ rest, cuts, ending⟩)
    (hstreams : world.serverStreams = 0) :
    (∃ cuts', (servedWorld server world).control = ⟨rest, cuts', ending⟩) ∧
      (controlEnv server).Leads (handleControlStream server) world
        (script.helloEvents ++ (script.authEvents ++ script.openingEvents))
        (dispatching server [0, 1]) (servedWorld server world) := by
  obtain ⟨cuts₁, hhello⟩ := readFrameWith_encode Server.readerTexts
    ControlFrameType.clientHello.toU8 script.hello.fits
    (Frame.encode ControlFrameType.authRequest.toU8 script.authPayload [] ++ rest) cuts
    ending
  obtain ⟨cuts₂, hauth⟩ := readFrameWith_encode Server.readerTexts
    ControlFrameType.authRequest.toU8 script.auth.fits rest cuts₁ ending
  rw [← List.append_assoc, ← bytes, ← hcontrol] at hhello
  have hrest : (readFullFrame world.control).2 =
      ⟨Frame.encode ControlFrameType.authRequest.toU8 script.authPayload [] ++ rest, cuts₁,
        ending⟩ := congrArg Prod.snd hhello
  rw [← hrest] at hauth
  refine ⟨⟨cuts₂, congrArg Prod.snd hauth⟩, ?_⟩
  refine leads_dispatching (congrArg Prod.fst hhello) (congrArg Prod.fst hauth) ?_ ?_ ?_
  · rw [Auth.status, authDecision_ok]
    exact ⟨rfl, rfl⟩
  · exact hstreams.symm
  · rw [hstreams]

theorem reachable {world : World} {rest : List UInt8} {cuts : List Nat}
    {ending : Option Error}
    (h : Reachable server control (.at server (handleControlStream server) [] world))
    (hcontrol : world.control = ⟨script.bytes ++ rest, cuts, ending⟩)
    (hstreams : world.serverStreams = 0) :
    (∃ cuts', (servedWorld server world).control = ⟨rest, cuts', ending⟩) ∧
      Reachable server control (.at server (dispatching server [0, 1])
        (script.helloEvents ++ (script.authEvents ++ script.openingEvents))
        (servedWorld server world)) :=
  (script.served hcontrol hstreams).imp_right h.leads

end Script

/-! ## A server on the standard encoding -/

def loopbackServer (pin : String) : ServerConfig where
  cib := .rfc8949
  overflowChecks := false
  expectedPin := pin
  sessionId := Vector.replicate 16 0
  serverTime := 0
  idSeed := Vector.replicate 4 0

def Script.loopback {pin : String} {caps : Capabilities}
    (hhello : (CborWire.encode (TestClient.clientHello caps)).length ≤ maxFrameLength)
    (hauth : (CborWire.encode (TestClient.authRequest "pin" (asBytes pin))).length ≤
      maxFrameLength) : Script (loopbackServer pin) caps where
  helloPayload := _
  authPayload := _
  helloReply := _
  authReply := _
  displayPayload := _
  cursorPayload := _
  hello := carries_rfc8949 hhello
  auth := carries_rfc8949 hauth
  helloReplied := rfl
  authReplied := rfl
  displayAnnounced := rfl
  cursorAnnounced := rfl

theorem clientHello_fits :
    (CborWire.encode (TestClient.clientHello Capabilities.default)).length ≤
      maxFrameLength := by
  decide +kernel

theorem authRequest_fits :
    (CborWire.encode (TestClient.authRequest "pin" (asBytes "493817"))).length ≤
      maxFrameLength := by
  decide +kernel

theorem openInput_fits :
    (CborWire.encode (TestClient.openChannel ChannelKind.input.toU64 1 0)).length ≤
      maxFrameLength := by
  decide +kernel

theorem openClipboard_fits :
    (CborWire.encode (TestClient.openChannel ChannelKind.clipboard.toU64 2 0)).length ≤
      maxFrameLength := by
  decide +kernel

/-- A client that asks for an input and a clipboard channel, in this order. -/
def loopbackScript : Script (loopbackServer "493817") Capabilities.default :=
  .loopback clientHello_fits authRequest_fits

def loopbackRequest (kind channelId : UInt64)
    (h : (CborWire.encode (TestClient.openChannel kind channelId 0)).length ≤
      maxFrameLength) : Acked (loopbackServer "493817") :=
  sentOpen (carries_rfc8949 h) rfl

def loopbackInput : Acked (loopbackServer "493817") :=
  loopbackRequest ChannelKind.input.toU64 1 openInput_fits

def loopbackClipboard : Acked (loopbackServer "493817") :=
  loopbackRequest ChannelKind.clipboard.toU64 2 openClipboard_fits

def textRequest : Cbor := TestClient.requestContent "text/plain;charset=utf-8" 42

theorem textRequest_fits : (CborWire.encode textRequest).length ≤ maxFrameLength := by
  decide +kernel

theorem loopbackClipboard_supported :
    isSupportedClientChannel loopbackClipboard.request.kind = true := rfl

def loopbackBi : ClientStream := ⟨0, ChannelKind.clipboard.toU64, ⟨[], [], none⟩⟩

def loopbackUni : ClientStream := ⟨0, ChannelKind.input.toU64, ⟨[], [], none⟩⟩

def loopbackControl : RecvStream :=
  ⟨loopbackScript.bytes ++ (loopbackInput.bytes ++ (loopbackClipboard.bytes ++ [])),
    [2, 9], none⟩

def loopbackTurns : List (Turn (loopbackServer "493817")) :=
  [.served loopbackInput rfl loopbackUni, .served loopbackClipboard rfl loopbackBi]

theorem reachable_loopback :
    ∃ session, Reachable (loopbackServer "493817") loopbackControl session ∧
      session.history = loopbackScript.helloEvents ++ (loopbackScript.authEvents ++
        loopbackScript.openingEvents) ++ turnEvents loopbackTurns ∧
      session.world.openedUni = [loopbackUni] ∧ session.world.openedBi = [loopbackBi] := by
  have hstart : Reachable (loopbackServer "493817") loopbackControl _ := reachable_start
  have hopened := reachable_openUni
    (reachable_openBi hstart loopbackBi.purpose loopbackBi.recv) loopbackUni.purpose
    loopbackUni.recv
  obtain ⟨hcontrol, hserved⟩ := loopbackScript.reachable hopened rfl rfl
  obtain ⟨hcontrol, hinput⟩ := hserved.turn (.served loopbackInput rfl loopbackUni)
    hcontrol (by decide +kernel) rfl rfl
  obtain ⟨-, hclipboard⟩ := hinput.turn (.served loopbackClipboard rfl loopbackBi)
    hcontrol (by decide +kernel) rfl rfl
  refine ⟨_, hclipboard, ?_, rfl, rfl⟩
  simp only [loopbackTurns, turnEvents, List.flatMap_cons, List.flatMap_nil,
    List.append_nil]
  rw [← List.append_assoc]
  rfl

end OpenRD.Session
