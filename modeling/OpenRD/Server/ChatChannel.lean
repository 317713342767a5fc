import OpenRD.Server.Answering

/-!
# The Chat channel

The handler echoes each message with its numbers raised.  The numbers are the peer's, and
the sums are words.
-/

namespace OpenRD.Server

open OpenRD.Foundation OpenRD.Proto Handler

variable {server : ServerConfig} {events : List HandlerEvent}
  {status : Except HandlerStop Unit} {bytes payload : List UInt8} {kind : ChatFrameType}

/-! ## Messages and their echoes -/

/-- The message a frame carries. -/
def messageOf (cib : Ciborium) (bytes : List UInt8) : Option ChatMessage :=
  (valueOf cib ChatFrameType.fromU8 .chatMessage bytes).map parseChatMessage

/-- The ids of the echo; with overflow checks, numbers that do not fit are not echoed. -/
def echoNumbers (server : ServerConfig) (message : ChatMessage) : Option (UInt64 × UInt64) :=
  if server.overflowChecks ∧ (2 ^ 64 ≤ message.msgId.toNat + 1000000 ∨
      2 ^ 64 ≤ message.tsMs.toNat + 1) then none
  else some (message.msgId + 1000000, message.tsMs + 1)

def echoOf (message : ChatMessage) (msgId tsMs : UInt64) : Cbor :=
  buildChatMessage msgId "openrd-server/0.0.1" ("[server-echo] " ++ message.body) tsMs

def chatReply (server : ServerConfig) (bytes : List UInt8) : Option ReplyFrame := do
  let message ← messageOf server.cib bytes
  let (msgId, tsMs) ← echoNumbers server message
  let payload ← (server.cib.intoWriter (echoOf message msgId tsMs)).toOption
  return (ChatFrameType.chatMessage.toU8, payload)

/-- Both sums of the echo fit their words. -/
def EchoFits (message : ChatMessage) : Prop :=
  message.msgId.toNat + 1000000 < 2 ^ 64 ∧ message.tsMs.toNat + 1 < 2 ^ 64

theorem echoNumbers_eq (server : ServerConfig) (message : ChatMessage)
    (hmsgId : ¬ (server.overflowChecks ∧
      2 ^ 64 ≤ message.msgId.toNat + 1000000))
    (htsMs : ¬ (server.overflowChecks ∧ 2 ^ 64 ≤ message.tsMs.toNat + 1)) :
    echoNumbers server message = some (message.msgId + 1000000, message.tsMs + 1) := by
  refine if_neg ?_
  rintro ⟨hchecks, hmsg | hts⟩
  · exact hmsgId ⟨hchecks, hmsg⟩
  · exact htsMs ⟨hchecks, hts⟩

theorem echoNumbers_none {message : ChatMessage} (hchecks : server.overflowChecks)
    (h : 2 ^ 64 ≤ message.msgId.toNat + 1000000 ∨ 2 ^ 64 ≤ message.tsMs.toNat + 1) :
    echoNumbers server message = none :=
  if_pos ⟨hchecks, h⟩

theorem handleChatFrame_delivers
    (h : received ChatFrameType.fromU8 bytes = .ok (kind, payload)) :
    Delivers (chatReply server bytes) (handleChatFrame server kind payload) := by
  have hvalue : valueOf server.cib ChatFrameType.fromU8 .chatMessage bytes = _ :=
    valueOf_received h
  cases kind with
  | chatMessage =>
      refine delivers_lift_bind ?_ fun v hv => delivers_say_bind ?_
      · intro error herror
        simp [chatReply, messageOf, hvalue, Ciborium.decoded_of_error herror]
      have hmessage : messageOf server.cib bytes = some (parseChatMessage v) := by
        simp [messageOf, hvalue, Ciborium.decoded_of_ok hv]
      refine delivers_add_bind ?_ fun hmsgId => delivers_add_bind ?_ fun htsMs => ?_
      · rintro ⟨hchecks, hmsgId⟩
        simp [chatReply, hmessage, echoNumbers_none hchecks (.inl hmsgId)]
      · rintro ⟨hchecks, htsMs⟩
        simp [chatReply, hmessage, echoNumbers_none hchecks (.inr htsMs)]
      have hnumbers := echoNumbers_eq server (parseChatMessage v) hmsgId htsMs
      refine delivers_lift_bind ?_ fun reply hreply => ?_
      · intro error herror
        simp [chatReply, hmessage, hnumbers, echoOf, Ciborium.encoded_of_error herror]
      · have hsome : chatReply server bytes =
            some (ChatFrameType.chatMessage.toU8, reply) := by
          simp [chatReply, hmessage, hnumbers, echoOf, Ciborium.encoded_of_ok hreply]
        rw [hsome]
        exact delivers_write_bind (delivers_say _)
  | typingIndicator | chatAttachment =>
      have hnone : chatReply server bytes = none := by
        simp [chatReply, messageOf, hvalue]
      rw [hnone]
      exact delivers_lift_bind (fun _ _ => rfl) fun v hv => delivers_say _

/-- The handler writes the echo of each message it has read, and nothing else. -/
theorem handleChatStream_answering (h : (handleChatStream server).ComesTo events status) :
    Answering (chatReply server) events status := by
  refine answering_closed (fun events status hloop => ?_) h
  rw [eachFrame_eq] at hloop
  refine frameLoop_answering ?_ ?_ hloop
  · intro bytes error hreceived
    simp [chatReply, messageOf, valueOf, hreceived]
  · exact fun _ bytes kind payload hreceived => handleChatFrame_delivers hreceived

/-! ## Panics -/

def panicOf : HandlerEvent → Option String
  | .told (.panicking text) => some text
  | _ => none

/-- With overflow checks, a sum that does not fit is a panic. -/
def chatPanic (server : ServerConfig) (bytes : List UInt8) : Option String := do
  let message ← messageOf server.cib bytes
  if echoNumbers server message = none then some "attempt to add with overflow" else none

theorem leaves_add_bind {α β : Type} {wide bound : Nat} {sum : α} {left : List String}
    {f : α → HandlerProg β}
    (hpanic : server.overflowChecks ∧ bound ≤ wide → left = ["attempt to add with overflow"])
    (hsum : ¬ (server.overflowChecks ∧ bound ≤ wide) → (f sum).Leaves panicOf left) :
    (add server wide bound sum >>= f).Leaves panicOf left := by
  unfold add
  split
  · next hoverflow =>
      intro events status hcomes
      obtain ⟨rfl, rfl⟩ := comesTo_panic_bind.mp hcomes
      rw [hpanic hoverflow]
      rfl
  · next hfits => exact hsum hfits

theorem handleChatFrame_leaves
    (h : received ChatFrameType.fromU8 bytes = .ok (kind, payload)) :
    (handleChatFrame server kind payload).Leaves panicOf (chatPanic server bytes).toList := by
  have hvalue : valueOf server.cib ChatFrameType.fromU8 .chatMessage bytes = _ :=
    valueOf_received h
  cases kind with
  | chatMessage =>
      refine Prog.leaves_lift_bind ?_ fun v hv => Prog.leaves_say_bind ?_
      · intro error herror
        simp [chatPanic, messageOf, hvalue, Ciborium.decoded_of_error herror]
      have hmessage : messageOf server.cib bytes = some (parseChatMessage v) := by
        simp [messageOf, hvalue, Ciborium.decoded_of_ok hv]
      refine leaves_add_bind ?_ fun hmsgId => leaves_add_bind ?_ fun htsMs => ?_
      · rintro ⟨hchecks, hmsgId⟩
        simp [chatPanic, hmessage, echoNumbers_none hchecks (.inl hmsgId)]
      · rintro ⟨hchecks, htsMs⟩
        simp [chatPanic, hmessage, echoNumbers_none hchecks (.inr htsMs)]
      have hnumbers := echoNumbers_eq server (parseChatMessage v) hmsgId htsMs
      have hnone : chatPanic server bytes = none := by simp [chatPanic, hmessage, hnumbers]
      rw [hnone]
      refine Prog.leaves_lift_bind (fun _ _ => rfl) fun reply hreply => ?_
      exact Prog.leaves_call_bind (fun _ => rfl) fun _ => Prog.leaves_say _
  | typingIndicator | chatAttachment =>
      have hnone : chatPanic server bytes = none := by
        simp [chatPanic, messageOf, hvalue]
      rw [hnone]
      exact Prog.leaves_lift_bind (fun _ _ => rfl) fun v hv => Prog.leaves_say _

theorem handleChatStream_panics (h : (handleChatStream server).ComesTo events status) :
    events.filterMap panicOf = (framesRead events).filterMap (chatPanic server) := by
  refine leaves_closed rfl (fun _ => rfl) (fun events status hloop => ?_) h
  rw [eachFrame_eq] at hloop
  refine frameLoop_leaves (fun _ => rfl) ?_ ?_ ?_ hloop
  · intro bytes error hreceived
    simp [chatPanic, messageOf, valueOf, hreceived]
  · exact fun _ _ _ _ hreceived => (handleChatFrame_delivers hreceived).unread
  · exact fun _ bytes kind payload hreceived => handleChatFrame_leaves hreceived

/-! ## Exact echoes -/

/-- The frame echoes the message, with its numbers raised as integers are. -/
structure ExactEcho (cib : Ciborium) (message : ChatMessage) (frame : ReplyFrame) : Prop where
  type : frame.1 = ChatFrameType.chatMessage.toU8
  payload : ∃ msgId tsMs : UInt64, msgId.toNat = message.msgId.toNat + 1000000 ∧
    tsMs.toNat = message.tsMs.toNat + 1 ∧
    cib.intoWriter (.map [(.uint 1, .uint msgId), (.uint 2, .text "openrd-server/0.0.1"),
      (.uint 3, .text ("[server-echo] " ++ message.body)), (.uint 4, .uint tsMs)]) =
        .ok frame.2

theorem ExactEcho.fits {cib : Ciborium} {message : ChatMessage} {frame : ReplyFrame}
    (h : ExactEcho cib message frame) : EchoFits message := by
  obtain ⟨msgId, tsMs, hmsgId, htsMs, -⟩ := h.payload
  exact ⟨hmsgId ▸ msgId.toNat_lt, htsMs ▸ tsMs.toNat_lt⟩

theorem chatReply_exact (hwriter : server.cib.Writes)
    (hfits : ∀ message, messageOf server.cib bytes = some message → EchoFits message) :
    Option.Rel (ExactEcho server.cib) (messageOf server.cib bytes) (chatReply server bytes) := by
  unfold chatReply
  cases hmessage : messageOf server.cib bytes with
  | none => exact .none
  | some message =>
      obtain ⟨hmsgId, htsMs⟩ := hfits message hmessage
      obtain ⟨payload, hpayload⟩ :=
        hwriter (echoOf message (message.msgId + 1000000) (message.tsMs + 1))
      have hnumbers := echoNumbers_eq server message
        (fun h => hmsgId.not_ge h.2) (fun h => htsMs.not_ge h.2)
      simp only [hnumbers, hpayload, Except.toOption, Option.bind_eq_bind, Option.bind_some]
      refine .some ⟨rfl, _, _, ?_, ?_, hpayload⟩
      · rw [UInt64.toNat_add]
        exact Nat.mod_eq_of_lt hmsgId
      · rw [UInt64.toNat_add]
        exact Nat.mod_eq_of_lt htsMs

/--
At every moment, the handler has not panicked and the frames it has begun to write echo the
messages it has read, one each and in order, exactly when the raised numbers of all messages
read fit 64 bits.
-/
theorem echoes_exact_iff (hwriter : server.cib.Writes)
    (h : (handleChatStream server).ComesTo events status) :
    ((∀ text, .told (.panicking text) ∉ events) ∧
      List.Forall₂ (ExactEcho server.cib) ((framesRead events).filterMap (messageOf server.cib))
        (framesBegun events status) ∧
      framesWritten events <+: framesBegun events status ∧
      (Idle status → framesWritten events = framesBegun events status)) ↔
    ∀ bytes ∈ framesRead events, ∀ message, messageOf server.cib bytes = some message →
      EchoFits message := by
  have hanswering := handleChatStream_answering h
  constructor
  · rintro ⟨-, hechoes, -⟩ bytes hbytes message hmessage
    rw [hanswering.begun] at hechoes
    have hrel := rel_of_forall₂_filterMap (fun bytes _ hnone => ?_) hechoes bytes hbytes
    · rw [hmessage] at hrel
      generalize chatReply server bytes = reply at hrel
      cases hrel with
      | some hecho => exact hecho.fits
    · simp [chatReply, hnone]
  · intro hfits
    refine ⟨fun text hmem => ?_, ?_, hanswering.written, hanswering.idle⟩
    · have hpanic : text ∈ events.filterMap panicOf :=
        List.mem_filterMap.mpr ⟨_, hmem, rfl⟩
      rw [handleChatStream_panics h] at hpanic
      obtain ⟨bytes, hbytes, hnone⟩ := List.mem_filterMap.mp hpanic
      obtain ⟨message, hmessage, hnone⟩ := Option.bind_eq_some_iff.mp hnone
      obtain ⟨hmsgId, htsMs⟩ := hfits bytes hbytes message hmessage
      have hnumbers := echoNumbers_eq server message
        (fun h => hmsgId.not_ge h.2) (fun h => htsMs.not_ge h.2)
      simp [hnumbers] at hnone
    · rw [hanswering.begun]
      exact forall₂_filterMap fun bytes hbytes => chatReply_exact hwriter (hfits bytes hbytes)

/-! ## Numbers near the limit -/

theorem addU64_overflow {a b : UInt64} (hchecks : server.overflowChecks)
    (h : 2 ^ 64 ≤ a.toNat + b.toNat) :
    addU64 server a b = panicWith "attempt to add with overflow" :=
  if_pos ⟨hchecks, h⟩

theorem addU64_fits {a b : UInt64} (h : ¬ (server.overflowChecks ∧ 2 ^ 64 ≤ a.toNat + b.toNat)) :
    addU64 server a b = pure (a + b) :=
  if_neg h

theorem comesTo_chatMessage {v : Cbor} {rest : List HandlerEvent}
    (hread : server.cib.fromReader payload = .ok v)
    (h : (do
      let msgId ← addU64 server (parseChatMessage v).msgId 1000000
      let tsMs ← addU64 server (parseChatMessage v).tsMs 1
      let payload ← server.cib.write (echoOf (parseChatMessage v) msgId tsMs)
      writeFrame ChatFrameType.chatMessage.toU8 payload
      .say (.chatEchoed ("[server-echo] " ++ (parseChatMessage v).body)) :
        HandlerProg Unit).ComesTo rest status) :
    (handleChatFrame server .chatMessage payload).ComesTo
      (.told (.chatMessage (parseChatMessage v)) :: rest) status := by
  have hval : withContext "decode ChatMessage" (server.cib.read payload) = .ok v :=
    withContext_eq_ok.mpr (Ciborium.read_eq_ok.mpr hread)
  refine Prog.comesTo_lift_bind.mpr ?_
  rw [hval]
  exact .told h

/-- A message whose numbers overflow makes a checked handler panic. -/
theorem comesTo_overflow (server : ServerConfig) {v : Cbor}
    (hread : server.cib.fromReader payload = .ok v) (hchecks : server.overflowChecks)
    (h : 2 ^ 64 ≤ (parseChatMessage v).msgId.toNat + 1000000) :
    (handleChatFrame server .chatMessage payload).ComesTo
      [.told (.chatMessage (parseChatMessage v)),
        .told (.panicking "attempt to add with overflow")]
      (.error (.failed (.panic "attempt to add with overflow"))) := by
  refine comesTo_chatMessage hread ?_
  rw [addU64_overflow (b := 1000000) hchecks h]
  exact comesTo_panic_bind.mpr ⟨rfl, rfl⟩

theorem comesTo_echoed (server : ServerConfig) {v : Cbor} {reply : List UInt8}
    (hread : server.cib.fromReader payload = .ok v)
    (hmsgId : ¬ (server.overflowChecks ∧
      2 ^ 64 ≤ (parseChatMessage v).msgId.toNat + 1000000))
    (htsMs : ¬ (server.overflowChecks ∧ 2 ^ 64 ≤ (parseChatMessage v).tsMs.toNat + 1))
    (hreply : server.cib.intoWriter (echoOf (parseChatMessage v)
      ((parseChatMessage v).msgId + 1000000) ((parseChatMessage v).tsMs + 1)) = .ok reply) :
    (handleChatFrame server .chatMessage payload).ComesTo
      [.told (.chatMessage (parseChatMessage v)),
        .asked (.writeFrame ChatFrameType.chatMessage.toU8 reply) (.ok ()),
        .told (.chatEchoed ("[server-echo] " ++ (parseChatMessage v).body))] (.ok ()) := by
  refine comesTo_chatMessage hread ?_
  rw [addU64_fits (b := 1000000) hmsgId]
  change (addU64 server _ 1 >>= fun tsMs => _).ComesTo _ _
  rw [addU64_fits (b := 1) htsMs]
  refine Prog.comesTo_lift_bind.mpr ?_
  rw [Ciborium.write_eq_ok.mpr hreply]
  exact Prog.comesTo_call_bind.mpr (.inr ⟨.ok (), _, rfl, Prog.comesTo_say.mpr ⟨rfl, rfl⟩⟩)

def hello (msgId tsMs : UInt64) : Cbor :=
  .map [(.uint 1, .uint msgId), (.uint 2, .text "peer"), (.uint 3, .text "hello"),
    (.uint 4, .uint tsMs)]

def helloFrame (msgId tsMs : UInt64) : List UInt8 :=
  Frame.encode ChatFrameType.chatMessage.toU8 (CborWire.encode (hello msgId tsMs)) []

section Hello

variable {msgId tsMs : UInt64}

theorem parseChatMessage_hello (msgId tsMs : UInt64) :
    parseChatMessage (hello msgId tsMs) = ⟨msgId, "peer", "hello", tsMs⟩ := by
  simp [hello, parseChatMessage, readMap, readFields, storeField,
    chatMessageFields, Field.keep]

theorem received_helloFrame (h : (CborWire.encode (hello msgId tsMs)).length ≤ maxFrameLength) :
    received ChatFrameType.fromU8 (helloFrame msgId tsMs) =
      .ok (.chatMessage, CborWire.encode (hello msgId tsMs)) :=
  received_encode rfl h

theorem read_hello (h : (CborWire.encode (hello msgId tsMs)).length ≤ maxFrameLength) :
    Ciborium.rfc8949.fromReader (CborWire.encode (hello msgId tsMs)) = .ok (hello msgId tsMs) :=
  Ciborium.rfc8949_read (h.trans_lt (by decide))

theorem messageOf_helloFrame
    (h : (CborWire.encode (hello msgId tsMs)).length ≤ maxFrameLength) :
    messageOf .rfc8949 (helloFrame msgId tsMs) = some ⟨msgId, "peer", "hello", tsMs⟩ := by
  rw [messageOf, valueOf_received (received_helloFrame h), if_pos rfl, read_hello h]
  exact congrArg some (parseChatMessage_hello msgId tsMs)

theorem comesTo_helloOverflow
    (hfits : (CborWire.encode (hello msgId tsMs)).length ≤ maxFrameLength)
    (h : 2 ^ 64 ≤ msgId.toNat + 1000000) :
    (handleChatStream (.rfc8949 true "493817")).ComesTo
      [frameRead (helloFrame msgId tsMs), .told (.chatMessage ⟨msgId, "peer", "hello", tsMs⟩),
        .told (.panicking "attempt to add with overflow")]
      (.error (.failed (.panic "attempt to add with overflow"))) := by
  have hparse := parseChatMessage_hello msgId tsMs
  have hpanics := comesTo_overflow (.rfc8949 true "493817") (read_hello hfits) rfl
    (by rwa [hparse])
  rw [hparse] at hpanics
  exact (frameLoop_stops (received_helloFrame hfits) hpanics).stopped _

theorem comesTo_helloEchoed (checks : Bool)
    (hfits : (CborWire.encode (hello msgId tsMs)).length ≤ maxFrameLength)
    (hmsgId : ¬ (checks ∧ 2 ^ 64 ≤ msgId.toNat + 1000000))
    (htsMs : ¬ (checks ∧ 2 ^ 64 ≤ tsMs.toNat + 1)) :
    (handleChatStream (.rfc8949 checks "493817")).ComesTo
      [frameRead (helloFrame msgId tsMs), .told (.chatMessage ⟨msgId, "peer", "hello", tsMs⟩),
        .asked (.writeFrame ChatFrameType.chatMessage.toU8 (CborWire.encode
          (echoOf ⟨msgId, "peer", "hello", tsMs⟩ (msgId + 1000000) (tsMs + 1)))) (.ok ()),
        .told (.chatEchoed "[server-echo] hello")]
      (.error (.waiting .readFullFrameOpt)) := by
  have hparse := parseChatMessage_hello msgId tsMs
  have hechoed := comesTo_echoed (.rfc8949 checks "493817") (read_hello hfits)
    (by rwa [hparse]) (by rwa [hparse]) rfl
  rw [hparse] at hechoed
  exact (frameLoop_handled (received_helloFrame hfits) hechoed).stopped _

end Hello

/-- The last id: a checked handler panics, an unchecked one echoes it as `999999`. -/
theorem lastId_wrapped :
    messageOf .rfc8949 (helloFrame 0xFFFFFFFFFFFFFFFF 0) =
      some ⟨0xFFFFFFFFFFFFFFFF, "peer", "hello", 0⟩ ∧
    (handleChatStream (.rfc8949 true "493817")).ComesTo
      [frameRead (helloFrame 0xFFFFFFFFFFFFFFFF 0),
        .told (.chatMessage ⟨0xFFFFFFFFFFFFFFFF, "peer", "hello", 0⟩),
        .told (.panicking "attempt to add with overflow")]
      (.error (.failed (.panic "attempt to add with overflow"))) ∧
    ∃ events, (handleChatStream (.rfc8949 false "493817")).ComesTo events
        (.error (.waiting .readFullFrameOpt)) ∧
      framesRead events = [helloFrame 0xFFFFFFFFFFFFFFFF 0] ∧
      framesWritten events = [(ChatFrameType.chatMessage.toU8, CborWire.encode
        (.map [(.uint 1, .uint 999999), (.uint 2, .text "openrd-server/0.0.1"),
          (.uint 3, .text "[server-echo] hello"), (.uint 4, .uint 1)]))] := by
  have hfits : (CborWire.encode (hello 0xFFFFFFFFFFFFFFFF 0)).length ≤ maxFrameLength := by
    decide +kernel
  exact ⟨messageOf_helloFrame hfits, comesTo_helloOverflow hfits (by decide),
    _, comesTo_helloEchoed false hfits nofun nofun, rfl, rfl⟩

/-- The largest numbers whose echo fits. -/
theorem largestNumbers_echoed :
    ∃ events, (handleChatStream (.rfc8949 true "493817")).ComesTo events
        (.error (.waiting .readFullFrameOpt)) ∧
      (framesRead events).filterMap (messageOf .rfc8949) =
        [⟨0xFFFFFFFFFFF0BDBF, "peer", "hello", 0xFFFFFFFFFFFFFFFE⟩] ∧
      List.Forall₂ (ExactEcho .rfc8949)
        [⟨0xFFFFFFFFFFF0BDBF, "peer", "hello", 0xFFFFFFFFFFFFFFFE⟩] (framesWritten events) := by
  have hfits : (CborWire.encode
      (hello 0xFFFFFFFFFFF0BDBF 0xFFFFFFFFFFFFFFFE)).length ≤ maxFrameLength := by
    decide +kernel
  have hcomes := comesTo_helloEchoed true hfits (by decide) (by decide)
  have hmessages : [helloFrame 0xFFFFFFFFFFF0BDBF 0xFFFFFFFFFFFFFFFE].filterMap
      (messageOf .rfc8949) =
        [⟨0xFFFFFFFFFFF0BDBF, "peer", "hello", 0xFFFFFFFFFFFFFFFE⟩] := by
    rw [List.filterMap_cons, messageOf_helloFrame hfits]
    rfl
  obtain ⟨-, hechoes, -, hidle⟩ :=
    (echoes_exact_iff Ciborium.rfc8949_writes hcomes).mpr fun bytes hbytes message hmessage => by
      rw [List.mem_singleton.mp hbytes] at hmessage
      cases (messageOf_helloFrame hfits).symm.trans hmessage
      exact ⟨by decide, by decide⟩
  refine ⟨_, hcomes, hmessages, ?_⟩
  rw [hidle trivial, ← hmessages]
  exact hechoes

end OpenRD.Server
