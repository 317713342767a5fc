import OpenRD.Foundation.Traces
import OpenRD.Server.Control

/-!
# What the Control task can have done

`Transcript server history` lists the histories `handleControlStream` can have at
any moment: the phases it has completed, and what it has done of the next one.
-/

namespace OpenRD.Server

open OpenRD.Foundation OpenRD.Proto Control

variable {server : ServerConfig}

/-! ## Hello -/

structure Hello (server : ServerConfig) where
  bytes : List UInt8
  protoV : UInt64
  clientName : String
  clientCaps : Capabilities
  payload : List UInt8
  received : receiveClientHello server.cib bytes = .ok (protoV, clientName, clientCaps)
  written : server.cib.intoWriter (serverHello server protoV) = .ok payload

def readEvent (bytes : List UInt8) : ControlEvent := .asked .readFullFrame (.ok bytes)

def negotiationEvent (clientCaps : Capabilities) : ControlEvent :=
  .told (.logNegotiation (NegotiatedProfile.negotiate clientCaps Capabilities.default))

def writeEvent (frameType : ControlFrameType) (payload : List UInt8)
    (answer : Except Error Unit) : ControlEvent :=
  .asked (.writeFrame frameType.toU8 payload) answer

def Hello.events (hello : Hello server) : List ControlEvent :=
  [readEvent hello.bytes, negotiationEvent hello.clientCaps,
    writeEvent .serverHello hello.payload (.ok ())]

/-- A hello exchange in progress or broken off. -/
inductive PartialHello (server : ServerConfig) : List ControlEvent → Prop where
  | waiting : PartialHello server []
  | unread (error : Error) :
      PartialHello server [.asked .readFullFrame (.error error)]
  | refused (bytes : List UInt8) (error : Error)
      (received : receiveClientHello server.cib bytes = .error error) :
      PartialHello server [readEvent bytes]
  | accepted (bytes : List UInt8) (protoV : UInt64) (clientName : String)
      (clientCaps : Capabilities)
      (received :
        receiveClientHello server.cib bytes = .ok (protoV, clientName, clientCaps)) :
      PartialHello server [readEvent bytes, negotiationEvent clientCaps]
  | unsent (hello : Hello server) (error : Error) :
      PartialHello server [readEvent hello.bytes, negotiationEvent hello.clientCaps,
        writeEvent .serverHello hello.payload (.error error)]

theorem helloExchange_adds (server : ServerConfig) :
    (helloExchange server).Adds (PartialHello server)
      fun _ events => ∃ hello : Hello server, events = hello.events := by
  refine Prog.adds_call_bind .waiting ?_ ?_
  · rintro answer error rfl
    exact .unread error
  · rintro answer bytes rfl
    refine Prog.adds_lift_bind (fun error h => .refused bytes error h) ?_
    rintro ⟨protoV, clientName, clientCaps⟩ hreceived
    refine Prog.adds_say_bind (Prog.adds_lift_bind ?_ ?_)
    · intro error _
      exact .accepted bytes protoV clientName clientCaps hreceived
    · intro payload hpayload
      have hwritten : server.cib.intoWriter (serverHello server protoV) = .ok payload := by
        simpa using hpayload
      let hello : Hello server :=
        ⟨bytes, protoV, clientName, clientCaps, payload, hreceived, hwritten⟩
      refine Prog.adds_call ?_ ?_ ?_
      · exact .accepted bytes protoV clientName clientCaps hreceived
      · rintro answer error rfl
        exact .unsent hello error
      · rintro answer value rfl
        exact ⟨hello, rfl⟩

/-! ## Authentication -/

structure Auth (server : ServerConfig) where
  bytes : List UInt8
  method : String
  credential : List UInt8
  payload : List UInt8
  received : receiveAuthRequest server.cib bytes = .ok (method, credential)
  written :
    server.cib.intoWriter
      (buildAuthResult (authDecision server method credential).1.toU32
        (authDecision server method credential).2.1
        (authDecision server method credential).2.2) = .ok payload

namespace Auth

def status (auth : Auth server) : ErrorCode :=
  (authDecision server auth.method auth.credential).1

def events (auth : Auth server) : List ControlEvent :=
  [readEvent auth.bytes, writeEvent .authResult auth.payload (.ok ())]

end Auth

inductive PartialAuth (server : ServerConfig) : List ControlEvent → Prop where
  | waiting : PartialAuth server []
  | unread (error : Error) : PartialAuth server [.asked .readFullFrame (.error error)]
  | refused (bytes : List UInt8) (error : Error)
      (received : receiveAuthRequest server.cib bytes = .error error) :
      PartialAuth server [readEvent bytes]
  | received (bytes : List UInt8) (method : String) (credential : List UInt8)
      (received : receiveAuthRequest server.cib bytes = .ok (method, credential)) :
      PartialAuth server [readEvent bytes]
  | unsent (auth : Auth server) (error : Error) :
      PartialAuth server
        [readEvent auth.bytes, writeEvent .authResult auth.payload (.error error)]

theorem authExchange_adds (server : ServerConfig) :
    (authExchange server).Adds (PartialAuth server)
      fun success events => ∃ auth : Auth server, events = auth.events ∧
        success = (auth.status.toU32 == ErrorCode.ok.toU32) := by
  refine Prog.adds_call_bind .waiting ?_ ?_
  · rintro answer error rfl
    exact .unread error
  · rintro answer bytes rfl
    refine Prog.adds_lift_bind (fun error h => .refused bytes error h) ?_
    rintro ⟨method, credential⟩ hreceived
    refine Prog.adds_lift_bind ?_ ?_
    · intro error _
      exact .received bytes method credential hreceived
    · intro payload hpayload
      let auth : Auth server :=
        ⟨bytes, method, credential, payload, hreceived,
          Ciborium.write_eq_ok.mp (withContext_eq_ok.mp hpayload)⟩
      refine Prog.adds_call_bind ?_ ?_ ?_
      · exact .received bytes method credential hreceived
      · rintro answer error rfl
        exact .unsent auth error
      · rintro answer value rfl
        exact Prog.adds_pure ⟨auth, rfl, rfl⟩

/-! ## Sending a value -/

inductive PartialSend (server : ServerConfig) (frameType : ControlFrameType)
    (value : Cbor) : List ControlEvent → Prop where
  | waiting : PartialSend server frameType value []
  | unsent (payload : List UInt8) (error : Error)
      (written : server.cib.intoWriter value = .ok payload) :
      PartialSend server frameType value [writeEvent frameType payload (.error error)]

theorem writeValue_adds (server : ServerConfig) (frameType : ControlFrameType)
    (value : Cbor) :
    (writeValue server frameType value).Adds (PartialSend server frameType value)
      fun _ events => ∃ payload, server.cib.intoWriter value = .ok payload ∧
        events = [writeEvent frameType payload (.ok ())] := by
  refine Prog.adds_lift_bind (fun _ _ => .waiting) fun payload hpayload => ?_
  have hwritten : server.cib.intoWriter value = .ok payload := by simpa using hpayload
  refine Prog.adds_call .waiting ?_ ?_
  · rintro answer error rfl
    exact .unsent payload error hwritten
  · rintro answer value rfl
    exact ⟨payload, hwritten, rfl⟩

/-! ## Server-initiated channels -/

variable {channel : ServerChannel}

inductive OpeningEvent (server : ServerConfig) (channel : ServerChannel) :
    ControlEvent → Prop where
  | announce (payload : List UInt8) (answer : Except Error Unit)
      (written :
        server.cib.intoWriter (openChannelAnnounce channel.kind.toU64 channel.channelId 0) =
          .ok payload) :
      OpeningEvent server channel (writeEvent .openChannel payload answer)
  | openUni (answer : Except Error Nat) :
      OpeningEvent server channel (.asked .openUni answer)
  | first (stream : Nat) (answer : Except Error Unit) :
      OpeningEvent server channel
        (.asked (.writeUni stream channel.frameType channel.first) answer)
  | spawn (stream : Nat) :
      OpeningEvent server channel (.told (.spawn (channel.task stream)))

structure Opened (server : ServerConfig) (channel : ServerChannel) where
  payload : List UInt8
  stream : Nat
  written :
    server.cib.intoWriter (openChannelAnnounce channel.kind.toU64 channel.channelId 0) =
      .ok payload

def Opened.events (opened : Opened server channel) : List ControlEvent :=
  [writeEvent .openChannel opened.payload (.ok ()), .asked .openUni (.ok opened.stream),
    .asked (.writeUni opened.stream channel.frameType channel.first) (.ok ()),
    .told (.spawn (channel.task opened.stream))]

theorem Opened.opening (opened : Opened server channel) :
    ∀ event ∈ opened.events, OpeningEvent server channel event := by
  intro event hmem
  simp only [events, List.mem_cons, List.not_mem_nil, or_false] at hmem
  rcases hmem with rfl | rfl | rfl | rfl
  · exact .announce _ _ opened.written
  · exact .openUni _
  · exact .first _ _
  · exact .spawn _

theorem openServerChannel_adds (server : ServerConfig) (channel : ServerChannel)
    (handles : List Nat) :
    (openServerChannel server channel handles).Adds
      (fun events => ∀ event ∈ events, OpeningEvent server channel event)
      fun result events => result = handles ++ [handles.length] ∧
        ∃ opened : Opened server channel, events = opened.events := by
  refine Prog.adds_bind (writeValue_adds server _ _) ?_ ?_
  · rintro events (_ | ⟨payload, error, hwritten⟩)
    · simp
    · simpa using .announce payload _ hwritten
  · rintro _ events ⟨payload, hwritten, rfl⟩
    refine Prog.adds_call_bind ?_ ?_ ?_
    · simpa using .announce payload _ hwritten
    · rintro answer error rfl
      simp [OpeningEvent.announce payload _ hwritten, OpeningEvent.openUni]
    · rintro answer stream rfl
      refine Prog.adds_call_bind ?_ ?_ ?_
      · simp [OpeningEvent.announce payload _ hwritten, OpeningEvent.openUni]
      · rintro answer error rfl
        simp [OpeningEvent.announce payload _ hwritten, OpeningEvent.openUni,
          OpeningEvent.first]
      · rintro answer value rfl
        exact Prog.adds_say_bind
          (Prog.adds_pure ⟨rfl, ⟨payload, stream, hwritten⟩, rfl⟩)

/-! ## Client-initiated channels -/

structure Acked (server : ServerConfig) where
  bytes : List UInt8
  request : OpenChannel
  payload : List UInt8
  received : receiveOpenChannel server.cib bytes = .ok (some request)
  written :
    server.cib.intoWriter
      (openChannelAck request.channelId (ackStatus request.kind).toU32) = .ok payload

def readOptEvent (bytes : List UInt8) : ControlEvent :=
  .asked .readFullFrameOpt (.ok (some bytes))

def Acked.events (acked : Acked server) (answer : Except Error Unit) :
    List ControlEvent :=
  [readOptEvent acked.bytes, writeEvent .openChannelAck acked.payload answer]

/-- Input takes a unidirectional stream, every other kind a bidirectional one. -/
def acceptEvent (kind : UInt64) (answer : Except Error ClientStream) : ControlEvent :=
  if kind = ChannelKind.input.toU64 then .asked .acceptUni answer
  else .asked .acceptBi answer

def clientTask (kind : UInt64) (stream : ClientStream) : Task :=
  if kind = ChannelKind.input.toU64 then .input stream
  else if kind = ChannelKind.clipboard.toU64 then .clipboard stream
  else if kind = ChannelKind.chat.toU64 then .chat stream
  else .file stream

/-- A completed pass of the dispatcher loop. -/
inductive Turn (server : ServerConfig) where
  | skipped (bytes : List UInt8) (received : receiveOpenChannel server.cib bytes = .ok none)
  | refused (acked : Acked server)
      (unsupported : isSupportedClientChannel acked.request.kind = false)
  | served (acked : Acked server)
      (supported : isSupportedClientChannel acked.request.kind = true)
      (stream : ClientStream)

namespace Turn

def bytes : Turn server → List UInt8
  | .skipped bytes _ => bytes
  | .refused acked _ => acked.bytes
  | .served acked _ _ => acked.bytes

def events : Turn server → List ControlEvent
  | .skipped bytes _ => [readOptEvent bytes]
  | .refused acked _ => acked.events (.ok ())
  | .served acked _ stream =>
      acked.events (.ok ()) ++
        [acceptEvent acked.request.kind (.ok stream),
          .told (.spawn (clientTask acked.request.kind stream))]

def acked? : Turn server → Option (Acked server)
  | .skipped .. => none
  | .refused acked _ | .served acked _ _ => some acked

def served? : Turn server → Option (Acked server × ClientStream)
  | .skipped .. | .refused .. => none
  | .served acked _ stream => some (acked, stream)

def handles : Turn server → List Nat → List Nat
  | .served .., handles => handles ++ [handles.length]
  | _, handles => handles

end Turn

inductive PartialTurn (server : ServerConfig) : List ControlEvent → Prop where
  | waiting : PartialTurn server []
  | unread (error : Error) :
      PartialTurn server [.asked .readFullFrameOpt (.error error)]
  | malformed (bytes : List UInt8) (error : Error)
      (received : receiveOpenChannel server.cib bytes = .error error) :
      PartialTurn server [readOptEvent bytes]
  | received (bytes : List UInt8) (request : OpenChannel)
      (received : receiveOpenChannel server.cib bytes = .ok (some request)) :
      PartialTurn server [readOptEvent bytes]
  | unacknowledged (acked : Acked server) (error : Error) :
      PartialTurn server (acked.events (.error error))
  | accepting (acked : Acked server)
      (supported : isSupportedClientChannel acked.request.kind = true) :
      PartialTurn server (acked.events (.ok ()))
  | unaccepted (acked : Acked server)
      (supported : isSupportedClientChannel acked.request.kind = true) (error : Error) :
      PartialTurn server
        (acked.events (.ok ()) ++ [acceptEvent acked.request.kind (.error error)])

theorem isSupportedClientChannel_iff {kind : UInt64} :
    isSupportedClientChannel kind = true ↔
      kind = ChannelKind.input.toU64 ∨ kind = ChannelKind.clipboard.toU64 ∨
        kind = ChannelKind.chat.toU64 ∨ kind = ChannelKind.file.toU64 := by
  simp [isSupportedClientChannel, or_assoc]

def PartialAccept (kind : UInt64) (events : List ControlEvent) : Prop :=
  events = [] ∨ ∃ error, events = [acceptEvent kind (.error error)]

theorem acceptUni_adds :
    acceptUni.Adds (PartialAccept ChannelKind.input.toU64)
      fun stream events => events = [acceptEvent ChannelKind.input.toU64 (.ok stream)] := by
  refine Prog.adds_call (.inl rfl) ?_ ?_
  · rintro answer error rfl
    exact .inr ⟨error, rfl⟩
  · rintro answer stream rfl
    rfl

theorem acceptBi_adds {kind : UInt64} (h : kind ≠ ChannelKind.input.toU64) :
    acceptBi.Adds (PartialAccept kind)
      fun stream events => events = [acceptEvent kind (.ok stream)] := by
  refine Prog.adds_call (.inl rfl) ?_ ?_
  · rintro answer error rfl
    exact .inr ⟨error, by rw [acceptEvent, if_neg h]⟩
  · rintro answer stream rfl
    rw [acceptEvent, if_neg h]

theorem acceptThenSpawn_adds {kind : UInt64} {accept : ControlProg ClientStream}
    {task : ClientStream → Task} (handles : List Nat)
    (haccept : accept.Adds (PartialAccept kind)
      fun stream events => events = [acceptEvent kind (.ok stream)])
    (htask : ∀ stream, task stream = clientTask kind stream) :
    (accept >>= fun stream => spawn handles (task stream)).Adds (PartialAccept kind)
      fun result events => result = handles ++ [handles.length] ∧ ∃ stream,
        events =
          [acceptEvent kind (.ok stream), .told (.spawn (clientTask kind stream))] := by
  refine Prog.adds_bind haccept (fun _ => id) ?_
  rintro stream events rfl
  refine Prog.adds_say_bind (Prog.adds_pure ⟨rfl, stream, ?_⟩)
  rw [htask]
  rfl

/-- Of a supported kind one of the first four arms is taken, never the last. -/
theorem startHandler_adds {kind : UInt64} (hsupported : isSupportedClientChannel kind = true)
    (handles : List Nat) :
    (startHandler handles kind).Adds (PartialAccept kind)
      fun result events => result = handles ++ [handles.length] ∧ ∃ stream,
        events =
          [acceptEvent kind (.ok stream), .told (.spawn (clientTask kind stream))] := by
  rcases isSupportedClientChannel_iff.mp hsupported with rfl | rfl | rfl | rfl
  · exact acceptThenSpawn_adds handles acceptUni_adds fun _ => rfl
  · exact acceptThenSpawn_adds handles (acceptBi_adds (by decide)) fun _ => rfl
  · exact acceptThenSpawn_adds handles (acceptBi_adds (by decide)) fun _ => rfl
  · exact acceptThenSpawn_adds handles (acceptBi_adds (by decide)) fun _ => rfl

theorem dispatch_adds (server : ServerConfig) (handles : List Nat) :
    (dispatch server handles).Adds (PartialTurn server) fun result events =>
      match result with
      | .inl next => ∃ turn : Turn server, events = turn.events ∧ next = turn.handles handles
      | .inr final => final = handles ∧ events = [.asked .readFullFrameOpt (.ok none)] := by
  refine Prog.adds_call_bind .waiting ?_ ?_
  · rintro answer error rfl
    exact .unread error
  · rintro answer frameBytes rfl
    cases frameBytes with
    | none => exact Prog.adds_pure ⟨rfl, rfl⟩
    | some bytes =>
        refine Prog.adds_lift_bind (fun error h => .malformed bytes error h) ?_
        intro request hreceived
        cases request with
        | none => exact Prog.adds_pure ⟨.skipped bytes hreceived, rfl, rfl⟩
        | some request =>
            refine Prog.adds_bind (writeValue_adds server _ _) ?_ ?_
            · rintro events (_ | ⟨payload, error, hwritten⟩)
              · exact .received bytes request hreceived
              · exact .unacknowledged ⟨bytes, request, payload, hreceived, hwritten⟩ error
            · rintro _ events ⟨payload, hwritten, rfl⟩
              let acked : Acked server := ⟨bytes, request, payload, hreceived, hwritten⟩
              cases hkind : isSupportedClientChannel request.kind with
              | false =>
                  rw [if_pos (by simp [ackStatus, hkind, ErrorCode.toU32])]
                  exact Prog.adds_pure ⟨.refused acked hkind, rfl, rfl⟩
              | true =>
                  rw [if_neg (by simp [ackStatus, hkind])]
                  refine Prog.adds_bind (startHandler_adds hkind handles) ?_ ?_
                  · rintro events (rfl | ⟨error, rfl⟩)
                    · exact .accepting acked hkind
                    · exact .unaccepted acked hkind error
                  · rintro next events ⟨rfl, stream, rfl⟩
                    exact Prog.adds_pure ⟨.served acked hkind stream, rfl, rfl⟩

/-! ## Whole runs -/

def joinEvent (handle : Nat) : ControlEvent := .asked (.join handle) ()

theorem joinAll_adds (handles : List Nat) :
    (joinAll handles).Adds (fun events => ∃ joined : List Nat, events = joined.map joinEvent)
      fun _ events => ∃ joined : List Nat, events = joined.map joinEvent := by
  induction handles with
  | nil => exact Prog.adds_pure ⟨[], rfl⟩
  | cons handle handles ih =>
      refine Prog.adds_call_bind ⟨[], rfl⟩ ?_ ?_
      · rintro answer error ⟨⟩
      · rintro answer value -
        refine ih.weaken ?_ ?_
        · rintro events ⟨joined, rfl⟩
          exact ⟨handle :: joined, rfl⟩
        · rintro _ events ⟨joined, rfl⟩
          exact ⟨handle :: joined, rfl⟩

def turnEvents (turns : List (Turn server)) : List ControlEvent :=
  turns.flatMap Turn.events

/-- What a session does once its client is authenticated. -/
inductive Serving (server : ServerConfig) : List ControlEvent → Prop where
  | display (events : List ControlEvent)
      (opening : ∀ event ∈ events, OpeningEvent server displayChannel event) :
      Serving server events
  | cursor (display : Opened server displayChannel) (events : List ControlEvent)
      (opening : ∀ event ∈ events, OpeningEvent server cursorChannel event) :
      Serving server (display.events ++ events)
  | dispatching (display : Opened server displayChannel)
      (cursor : Opened server cursorChannel) (turns : List (Turn server))
      (events : List ControlEvent) (turn : PartialTurn server events) :
      Serving server (display.events ++ (cursor.events ++ (turnEvents turns ++ events)))
  | closing (display : Opened server displayChannel)
      (cursor : Opened server cursorChannel) (turns : List (Turn server))
      (joined : List Nat) :
      Serving server (display.events ++ (cursor.events ++ (turnEvents turns ++
        (.asked .readFullFrameOpt (.ok none) :: joined.map joinEvent))))

theorem dispatch_passes {start reached : List Nat} {events : List ControlEvent}
    (h : Prog.Passes (fun handles result events =>
      match result with
      | .inl next => ∃ turn : Turn server, events = turn.events ∧ next = turn.handles handles
      | .inr final =>
          final = handles ∧ events = [.asked .readFullFrameOpt (.ok none)])
      start events reached) :
    ∃ turns : List (Turn server), events = turnEvents turns := by
  induction h with
  | none => exact ⟨[], rfl⟩
  | more before last ih =>
      obtain ⟨turns, rfl⟩ := ih
      obtain ⟨turn, rfl, -⟩ := last
      exact ⟨turns ++ [turn], by simp [turnEvents]⟩

theorem serveChannels_adds (server : ServerConfig) :
    (serveChannels server).Adds (Serving server) fun _ => Serving server := by
  refine Prog.adds_bind (openServerChannel_adds server displayChannel []) .display ?_
  rintro _ events ⟨-, display, rfl⟩
  refine Prog.adds_bind (openServerChannel_adds server cursorChannel _) ?_ ?_
  · exact fun events h => .cursor display events h
  rintro handles events ⟨-, cursor, rfl⟩
  have hloop : (Prog.iterate handles (dispatch server)).Adds
      (fun events => ∃ turns rest, PartialTurn server rest ∧
        events = turnEvents (turns : List (Turn server)) ++ rest)
      fun _ events => ∃ turns : List (Turn server), events = turnEvents turns ++
        [.asked .readFullFrameOpt (.ok none)] := by
    refine Prog.adds_iterate (dispatch_adds server) ?_ ?_ ?_
    · intro events reached hpasses
      obtain ⟨turns, rfl⟩ := dispatch_passes hpasses
      exact ⟨turns, [], .waiting, by simp⟩
    · intro events reached rest hpasses hrest
      obtain ⟨turns, rfl⟩ := dispatch_passes hpasses
      exact ⟨turns, rest, hrest, rfl⟩
    · rintro events reached value rest hpasses ⟨-, rfl⟩
      obtain ⟨turns, rfl⟩ := dispatch_passes hpasses
      exact ⟨turns, rfl⟩
  refine Prog.adds_bind hloop ?_ ?_
  · rintro events ⟨turns, rest, hrest, rfl⟩
    exact .dispatching display cursor turns rest hrest
  · rintro final events ⟨turns, rfl⟩
    refine (joinAll_adds final).weaken ?_ ?_
    · rintro events ⟨joined, rfl⟩
      simpa using Serving.closing display cursor turns joined
    · rintro _ events ⟨joined, rfl⟩
      simpa using Serving.closing display cursor turns joined

/-- The histories of the Control task. -/
inductive Transcript (server : ServerConfig) : List ControlEvent → Prop where
  | greeting (events : List ControlEvent) (hello : PartialHello server events) :
      Transcript server events
  | authenticating (hello : Hello server) (events : List ControlEvent)
      (auth : PartialAuth server events) : Transcript server (hello.events ++ events)
  | denied (hello : Hello server) (auth : Auth server) (status : auth.status ≠ .ok) :
      Transcript server (hello.events ++ auth.events)
  | serving (hello : Hello server) (auth : Auth server) (status : auth.status = .ok)
      (events : List ControlEvent) (serving : Serving server events) :
      Transcript server (hello.events ++ (auth.events ++ events))

theorem handleControlStream_adds (server : ServerConfig) :
    (handleControlStream server).Adds (Transcript server) fun _ => Transcript server := by
  refine Prog.adds_bind (helloExchange_adds server) .greeting ?_
  rintro _ events ⟨hello, rfl⟩
  refine Prog.adds_bind (authExchange_adds server) ?_ ?_
  · exact fun events h => .authenticating hello events h
  · rintro success events ⟨auth, rfl, rfl⟩
    by_cases hstatus : auth.status = .ok
    · rw [if_pos (by simpa [ErrorCode.toU32_eq_ok] using hstatus)]
      refine (serveChannels_adds server).weaken ?_ ?_
      · exact fun events h => .serving hello auth hstatus events h
      · exact fun _ events h => .serving hello auth hstatus events h
    · rw [if_neg (by simpa [ErrorCode.toU32_eq_ok] using hstatus)]
      refine Prog.adds_pure ?_
      simpa using .denied hello auth hstatus

/-! ## The events of a served session -/

inductive DispatchEvent (server : ServerConfig) : ControlEvent → Prop where
  | read (answer : Except Error (Option (List UInt8))) :
      DispatchEvent server (.asked .readFullFrameOpt answer)
  | ack (acked : Acked server) (answer : Except Error Unit) :
      DispatchEvent server (writeEvent .openChannelAck acked.payload answer)
  | accept (kind : UInt64) (supported : isSupportedClientChannel kind = true)
      (answer : Except Error ClientStream) :
      DispatchEvent server (acceptEvent kind answer)
  | spawn (kind : UInt64) (supported : isSupportedClientChannel kind = true)
      (stream : ClientStream) :
      DispatchEvent server (.told (.spawn (clientTask kind stream)))

theorem Acked.dispatching (acked : Acked server) (answer : Except Error Unit) :
    ∀ event ∈ acked.events answer, DispatchEvent server event := by
  intro event hmem
  simp only [events, List.mem_cons, List.not_mem_nil, or_false] at hmem
  rcases hmem with rfl | rfl
  · exact .read _
  · exact .ack acked answer

theorem Turn.dispatching (turn : Turn server) :
    ∀ event ∈ turn.events, DispatchEvent server event := by
  intro event hmem
  cases turn with
  | skipped bytes received =>
      rw [events, List.mem_singleton] at hmem
      exact hmem ▸ .read _
  | refused acked unsupported => exact acked.dispatching _ event hmem
  | served acked supported stream =>
      simp only [events, List.mem_append, List.mem_cons, List.not_mem_nil,
        or_false] at hmem
      rcases hmem with hmem | rfl | rfl
      · exact acked.dispatching _ event hmem
      · exact .accept _ supported _
      · exact .spawn _ supported _

theorem PartialTurn.dispatching {events : List ControlEvent}
    (h : PartialTurn server events) : ∀ event ∈ events, DispatchEvent server event := by
  intro event hmem
  cases h with
  | waiting => cases hmem
  | unread error => exact List.mem_singleton.mp hmem ▸ .read _
  | malformed bytes error received => exact List.mem_singleton.mp hmem ▸ .read _
  | received bytes request received => exact List.mem_singleton.mp hmem ▸ .read _
  | unacknowledged acked error => exact acked.dispatching _ event hmem
  | accepting acked supported => exact acked.dispatching _ event hmem
  | unaccepted acked supported error =>
      simp only [List.mem_append, List.mem_singleton] at hmem
      rcases hmem with hmem | rfl
      · exact acked.dispatching _ event hmem
      · exact .accept _ supported _

inductive ServingEvent (server : ServerConfig) : ControlEvent → Prop where
  | display {event : ControlEvent} (opening : OpeningEvent server displayChannel event) :
      ServingEvent server event
  | cursor {event : ControlEvent} (opening : OpeningEvent server cursorChannel event) :
      ServingEvent server event
  | dispatch {event : ControlEvent} (dispatching : DispatchEvent server event) :
      ServingEvent server event
  | join (handle : Nat) : ServingEvent server (joinEvent handle)

theorem Serving.mem {events : List ControlEvent} (h : Serving server events) :
    ∀ event ∈ events, ServingEvent server event := by
  intro event hmem
  have hturns {turns : List (Turn server)} (h : event ∈ turnEvents turns) :
      ServingEvent server event := by
    obtain ⟨turn, -, hturn⟩ := List.mem_flatMap.mp h
    exact .dispatch (turn.dispatching event hturn)
  cases h with
  | display events opening => exact .display (opening event hmem)
  | cursor display events opening =>
      rcases List.mem_append.mp hmem with hmem | hmem
      · exact .display (display.opening event hmem)
      · exact .cursor (opening event hmem)
  | dispatching display cursor turns events turn =>
      simp only [List.mem_append] at hmem
      rcases hmem with hmem | hmem | hmem | hmem
      · exact .display (display.opening event hmem)
      · exact .cursor (cursor.opening event hmem)
      · exact hturns hmem
      · exact .dispatch (turn.dispatching event hmem)
  | closing display cursor turns joined =>
      simp only [List.mem_append, List.mem_cons, List.mem_map] at hmem
      rcases hmem with hmem | hmem | hmem | rfl | ⟨handle, -, rfl⟩
      · exact .display (display.opening event hmem)
      · exact .cursor (cursor.opening event hmem)
      · exact hturns hmem
      · exact .dispatch (.read _)
      · exact .join handle

end OpenRD.Server
