import OpenRD.Server.ChatChannel
import OpenRD.Server.Clipboard

/-!
# How large the handlers' replies are

The clipboard, chat and file handlers answer some frames with one frame, whose
payload copies fields of the request under a map of their own.
-/

namespace OpenRD.Server

open OpenRD.Foundation OpenRD.Proto Handler CborWire

/-! ## The size of a reply -/

/-- The size of the map under which clipboard content is sent. -/
def contentSize (requestId mimeLen bodyLen : Nat) : Nat :=
  1 + (1 + headSize requestId) + (1 + headSize mimeLen + mimeLen) +
    (1 + headSize bodyLen + bodyLen) + 2

/-- The size of the map under which a chat message is sent. -/
def messageSize (msgId senderLen bodyLen tsMs : Nat) : Nat :=
  1 + (1 + headSize msgId) + (1 + headSize senderLen + senderLen) +
    (1 + headSize bodyLen + bodyLen) + (1 + headSize tsMs)

variable (server : ServerConfig)

def clipboardReplySize (kind : ClipboardFrameType) (payload : List UInt8) : Option Nat :=
  match kind, server.cib.fromReader payload with
  | .requestContent, .ok val =>
      let request := parseRequestContent val
      some (contentSize request.requestId.toNat (utf8 request.mime).length
        (clipboardBody request.mime).length)
  | _, _ => none

def chatReplySize (kind : ChatFrameType) (payload : List UInt8) : Option Nat :=
  match kind, server.cib.fromReader payload with
  | .chatMessage, .ok v =>
      let message := parseChatMessage v
      (echoNumbers server message).map fun (msgId, tsMs) =>
        messageSize msgId.toNat (utf8 "openrd-server/0.0.1").length
          (utf8 ("[server-echo] " ++ message.body)).length tsMs.toNat
  | _, _ => none

def fileReplySize (kind : FileFrameType) (payload : List UInt8) : Option Nat :=
  if kind = .chunk ∧ 16 ≤ payload.length then some 13 else none

/-- The size of the reply to a frame, if the handler of `task` gets to reply to it. -/
def replySize (task : Task) (bytes : List UInt8) : Option Nat := do
  let (frame, _) ← (Frame.parse bytes).toOption
  match task with
  | .clipboard _ => do
      let kind ← (ClipboardFrameType.fromU8 frame.header.frameType).toOption
      clipboardReplySize server kind frame.payload
  | .chat _ => do
      let kind ← (ChatFrameType.fromU8 frame.header.frameType).toOption
      chatReplySize server kind frame.payload
  | .file _ => do
      let kind ← (FileFrameType.fromU8 frame.header.frameType).toOption
      fileReplySize kind frame.payload
  | _ => none

theorem length_encode_uint (n : UInt64) : (encode (.uint n)).length = headSize n.toNat := by
  simp [Cbor.uint, encode, magnitude, CborInt.ofU64]

theorem length_encode_key {n : UInt32} (h : n < 24) : (encode (key n)).length = 1 := by
  have hlt : n.toNat < 24 := UInt32.lt_iff_toNat_lt.mp h
  rw [key, length_encode_uint, UInt32.toNat_toUInt64, headSize, if_pos hlt]

theorem length_encode_content (requestId : UInt64) (mime : String) (body : List UInt8) :
    (encode (buildClipboardContent requestId mime body)).length =
      contentSize requestId.toNat (utf8 mime).length body.length := by
  simp [buildClipboardContent, encode, encodeEntries, encodeEntry, length_encode_uint,
    length_encode_key, headSize, contentSize]
  omega

theorem length_encode_message (msgId : UInt64) (sender body : String) (tsMs : UInt64) :
    (encode (buildChatMessage msgId sender body tsMs)).length =
      messageSize msgId.toNat (utf8 sender).length (utf8 body).length tsMs.toNat := by
  simp [buildChatMessage, encode, encodeEntries, encodeEntry, length_encode_uint,
    length_encode_key, headSize, messageSize]
  omega

/-! ## Replies written -/

def writtenOf : HandlerEvent → Option (List UInt8)
  | .asked (.writeFrame _ payload) _ => some payload
  | _ => none

def payloadsWritten (events : List HandlerEvent) : List (List UInt8) :=
  events.filterMap writtenOf

section Views

variable (events : List HandlerEvent)

@[simp] theorem payloadsWritten_nil : payloadsWritten [] = [] := rfl

@[simp] theorem payloadsWritten_told (output : HandlerLog) :
    payloadsWritten (.told output :: events) = payloadsWritten events := rfl

@[simp] theorem payloadsWritten_write (frameType : UInt8) (payload : List UInt8)
    (answer : Except Error Unit) :
    payloadsWritten (.asked (.writeFrame frameType payload) answer :: events) =
      payload :: payloadsWritten events := rfl

@[simp] theorem payloadsWritten_read (answer : Except Error (Option (List UInt8))) :
    payloadsWritten (.asked .readFullFrameOpt answer :: events) = payloadsWritten events :=
  rfl

@[simp] theorem payloadsWritten_finish (answer : Except Error Unit) :
    payloadsWritten (.asked .finish answer :: events) = payloadsWritten events := rfl

variable (first second : List HandlerEvent)

@[simp] theorem payloadsWritten_append :
    payloadsWritten (first ++ second) = payloadsWritten first ++ payloadsWritten second :=
  List.filterMap_append

end Views

/-- Of the frames read, each that calls for a reply has got one of the right size. -/
def Replied (task : Task) (events : List HandlerEvent) : Prop :=
  (payloadsWritten events).map List.length =
    (framesRead events).filterMap (replySize server task)

/-- As `Replied`, but the last of the replies may be missing. -/
def Replying (task : Task) (events : List HandlerEvent) : Prop :=
  (payloadsWritten events).map List.length <+:
    (framesRead events).filterMap (replySize server task)

/-- The library writes the shortest form of a value, when it writes it. -/
def ShortestForm (cib : Ciborium) : Prop :=
  ∀ value payload, cib.intoWriter value = .ok payload → payload = encode value

variable {server} {task : Task}

theorem Replied.replying {events : List HandlerEvent} (h : Replied server task events) :
    Replying server task events :=
  ⟨[], (List.append_nil _).trans h⟩

theorem Replied.append {first second : List HandlerEvent}
    (hfirst : Replied server task first) (hsecond : Replied server task second) :
    Replied server task (first ++ second) := by
  unfold Replied at *
  simp only [payloadsWritten_append, framesRead_append, List.filterMap_append,
    List.map_append, hfirst, hsecond]

theorem Replied.append_replying {first second : List HandlerEvent}
    (hfirst : Replied server task first) (hsecond : Replying server task second) :
    Replying server task (first ++ second) := by
  unfold Replied Replying at *
  simp only [payloadsWritten_append, framesRead_append, List.filterMap_append,
    List.map_append, hfirst]
  exact (List.prefix_append_right_inj _).mpr hsecond

/-! ## Answering one frame -/

/-- A program that reads nothing and writes one payload of the given size, or nothing. -/
def Answers {α : Type} (size : Option Nat) (program : HandlerProg α) : Prop :=
  program.Adds
    (fun events => framesRead events = [] ∧
      (payloadsWritten events).map List.length <+: size.toList)
    fun _ events => framesRead events = [] ∧
      (payloadsWritten events).map List.length = size.toList

theorem previewOf_answers (contents : List UInt8) :
    Answers none (previewOf contents) := by
  unfold previewOf
  dsimp only
  split
  · split
    · exact Prog.adds_pure (by simp)
    · exact Prog.adds_say_bind (Prog.adds_fail (by simp))
  · exact Prog.adds_pure (by simp)

theorem handleClipboardFrame_answers (hcib : ShortestForm server.cib)
    (kind : ClipboardFrameType) (payload : List UInt8) :
    Answers (clipboardReplySize server kind payload)
      (handleClipboardFrame server kind payload) := by
  cases kind with
  | offerTypes =>
      refine Prog.adds_lift_bind (fun _ _ => by simp) fun val hval => ?_
      exact Prog.adds_say (by simp [clipboardReplySize])
  | requestContent =>
      refine Prog.adds_lift_bind (fun _ _ => by simp) fun val hval => ?_
      have hread : server.cib.fromReader payload = .ok val := by simpa using hval
      refine Prog.adds_say_bind (Prog.adds_lift_bind (fun _ _ => by simp) ?_)
      intro reply hreply
      have hlength : reply.length = _ :=
        (congrArg List.length (hcib _ _ (Ciborium.write_eq_ok.mp hreply))).trans
          (length_encode_content _ _ _)
      refine Prog.adds_call_bind (by simp) ?_ ?_
      · rintro answer error -
        simp [clipboardReplySize, hread, hlength]
      · rintro answer value -
        exact Prog.adds_say (by simp [clipboardReplySize, hread, hlength])
  | content =>
      refine Prog.adds_lift_bind (fun _ _ => by simp) fun val hval => ?_
      refine Prog.adds_bind (previewOf_answers _) ?_ ?_
      · rintro events ⟨hread, hwritten⟩
        exact ⟨hread, hwritten.trans (List.nil_prefix)⟩
      · rintro preview events ⟨hread, hwritten⟩
        exact Prog.adds_say (by simpa [hread, clipboardReplySize] using hwritten)
  | _ => exact Prog.adds_say (by simp [clipboardReplySize])

theorem add_adds {α : Type} (wide bound : Nat) (sum : α) :
    (Handler.add server wide bound sum).Adds
      (fun events => framesRead events = [] ∧ payloadsWritten events = [])
      fun result events => result = sum ∧ events = [] ∧
        ¬(server.overflowChecks ∧ bound ≤ wide) := by
  unfold Handler.add
  split
  · exact Prog.adds_say_bind (Prog.adds_fail (by simp))
  · next h => exact Prog.adds_pure ⟨rfl, rfl, h⟩

theorem handleChatFrame_answers (hcib : ShortestForm server.cib) (kind : ChatFrameType)
    (payload : List UInt8) :
    Answers (chatReplySize server kind payload) (handleChatFrame server kind payload) := by
  cases kind with
  | chatMessage =>
      refine Prog.adds_lift_bind (fun _ _ => by simp) fun v hv => ?_
      have hread : server.cib.fromReader payload = .ok v := by simpa using hv
      refine Prog.adds_say_bind (Prog.adds_bind (add_adds _ _ _) ?_ ?_)
      · rintro events ⟨hframes, hpayloads⟩
        simp [hframes, hpayloads]
      · rintro msgId events ⟨rfl, rfl, hmsgId⟩
        refine Prog.adds_bind (add_adds _ _ _) ?_ ?_
        · rintro events ⟨hframes, hpayloads⟩
          simp [hframes, hpayloads]
        · rintro tsMs events ⟨rfl, rfl, htsMs⟩
          have hnumbers : echoNumbers server (parseChatMessage v) =
              some ((parseChatMessage v).msgId + 1000000, (parseChatMessage v).tsMs + 1) :=
            echoNumbers_eq server _ hmsgId htsMs
          refine Prog.adds_lift_bind (fun _ _ => by simp) fun reply hreply => ?_
          have hlength : reply.length = _ :=
            (congrArg List.length (hcib _ _ (Ciborium.write_eq_ok.mp hreply))).trans
              (length_encode_message _ _ _ _)
          refine Prog.adds_call_bind (by simp) ?_ ?_
          · rintro answer error -
            simp [chatReplySize, hread, hnumbers, hlength]
          · rintro answer value -
            exact Prog.adds_say (by simp [chatReplySize, hread, hnumbers, hlength])
  | typingIndicator | chatAttachment =>
      refine Prog.adds_lift_bind (fun _ _ => by simp) fun v hv => ?_
      exact Prog.adds_say (by simp [chatReplySize])

theorem length_ackChunk (chunk : Chunk) : (ackChunk chunk).length = 13 := by
  simp [ackChunk]

theorem handleFileFrame_answers (state : FileState) (kind : FileFrameType)
    (payload : List UInt8) :
    Answers (fileReplySize kind payload) (handleFileFrame server state kind payload) := by
  cases kind with
  | startTransfer | manifest =>
      refine Prog.adds_lift_bind (fun _ _ => by simp) fun v hv => ?_
      exact Prog.adds_say_bind (Prog.adds_pure (by simp [fileReplySize]))
  | chunk =>
      by_cases hlong : 16 ≤ payload.length
      · have hsize : fileReplySize .chunk payload = some 13 := if_pos ⟨rfl, hlong⟩
        rw [handleFileFrame_long hlong]
        refine Prog.adds_say_bind (Prog.adds_call_bind (by simp) ?_ ?_)
        · rintro answer error -
          simp [hsize, length_ackChunk]
        · rintro answer value -
          refine Prog.adds_bind (add_adds _ _ _) ?_ ?_
          · rintro events ⟨hframes, hpayloads⟩
            simp [hframes, hpayloads, hsize, length_ackChunk]
          · rintro chunksAcked events ⟨rfl, rfl, -⟩
            exact Prog.adds_say_bind (Prog.adds_pure (by simp [hsize, length_ackChunk]))
      · rw [handleFileFrame_short (by omega)]
        exact Prog.adds_fail (by simp)
  | endTransfer => exact Prog.adds_say_bind (Prog.adds_pure (by simp [fileReplySize]))
  | _ => exact Prog.adds_say_bind (Prog.adds_pure (by simp [fileReplySize]))

/-! ## Whole handlers -/

/-- One pass of a handler's loop: a frame is read and answered, or the stream ends. -/
theorem pass_adds {α β σ γ : Type} {fromU8 : UInt8 → Except ParseError α}
    {body : Option (α × List UInt8) → HandlerProg (σ ⊕ γ)}
    {answer : α → List UInt8 → HandlerProg β} {ended : γ} {f : β → σ}
    {size : α → List UInt8 → Option Nat}
    (hanswers : ∀ kind payload, Answers (size kind payload) (answer kind payload))
    (hended : body none = pure (.inr ended))
    (hframe : ∀ kind payload, body (some (kind, payload)) =
      answer kind payload >>= fun result => pure (.inl (f result)))
    (hsize : ∀ bytes frame n kind, Frame.parse bytes = .ok (frame, n) →
      fromU8 frame.header.frameType = .ok kind →
        replySize server task bytes = size kind frame.payload) :
    (nextFrame fromU8 >>= body).Adds
      (Replying server task) fun _ => Replied server task := by
  refine Prog.adds_bind (nextFrame_adds fromU8) ?_ ?_
  · rintro events (rfl | ⟨answer, rfl⟩) <;> exact List.nil_prefix
  intro result events hevents
  cases result with
  | none =>
      subst hevents
      rw [hended]
      exact Prog.adds_pure rfl
  | some read =>
      obtain ⟨kind, payload⟩ := read
      obtain ⟨bytes, frame, n, rfl, hparse, hkind, rfl⟩ := hevents
      have hreply : [bytes].filterMap (replySize server task) =
          (size kind frame.payload).toList := by
        rw [← hsize bytes frame n kind hparse hkind]
        cases hcase : replySize server task bytes <;> simp [hcase]
      rw [hframe]
      refine Prog.adds_bind (hanswers kind frame.payload) ?_ ?_
      · rintro events ⟨hframes, hinitial⟩
        simpa [Replying, frameRead, hframes, hreply] using hinitial
      · rintro result events ⟨hframes, hwritten⟩
        refine Prog.adds_pure ?_
        simpa [Replied, frameRead, hframes, hreply] using hwritten

theorem iterate_adds {σ β : Type} {state : σ} {body : σ → HandlerProg (σ ⊕ β)}
    (hbody : ∀ state, (body state).Adds (Replying server task) fun _ => Replied server task) :
    (Prog.iterate state body).Adds (Replying server task) fun _ => Replied server task := by
  have hpasses {events : List HandlerEvent} {reached : σ}
      (h : Prog.Passes (fun _ _ => Replied server task : σ → σ ⊕ β → _) state events reached) :
      Replied server task events := by
    induction h with
    | none => rfl
    | more before last ih => exact ih.append last
  refine Prog.adds_iterate hbody (fun _ _ h => (hpasses h).replying) ?_ ?_
  · exact fun events reached rest h hrest => (hpasses h).append_replying hrest
  · exact fun events reached value rest h hrest => (hpasses h).append hrest

theorem closing_adds (output : HandlerLog) :
    (do
      .say output
      finish : HandlerProg Unit).Adds (Replying server task) fun _ => Replied server task :=
  Prog.adds_say_bind (Prog.adds_call List.nil_prefix (fun _ _ _ => List.nil_prefix)
    fun _ _ _ => rfl)

theorem bind_closing_adds {loop : HandlerProg Unit} {output : HandlerLog}
    (hloop : loop.Adds (Replying server task) fun _ => Replied server task) :
    (loop >>= fun _ => do
      .say output
      finish : HandlerProg Unit).Adds (Replying server task) fun _ => Replied server task := by
  refine Prog.adds_bind hloop (fun _ => id) fun _ events hevents => ?_
  have hclosing := @closing_adds server task output
  refine hclosing.weaken ?_ ?_
  · exact fun rest hrest => hevents.append_replying hrest
  · exact fun _ rest hrest => hevents.append hrest

/-- The tasks whose handlers reply to frames. -/
def Task.Replies : Task → Prop
  | .clipboard _ | .chat _ | .file _ => True
  | _ => False

theorem program_replies (hcib : ShortestForm server.cib) (htask : task.Replies) :
    (task.program server).Adds (Replying server task) fun _ => Replied server task := by
  cases task with
  | clipboard stream =>
      refine bind_closing_adds (iterate_adds fun _ => ?_)
      refine pass_adds (handleClipboardFrame_answers hcib) rfl (fun _ _ => rfl) ?_
      intro bytes frame n kind hparse hkind
      simp [replySize, hparse, hkind, Except.toOption]
  | chat stream =>
      refine bind_closing_adds (iterate_adds fun _ => ?_)
      refine pass_adds (handleChatFrame_answers hcib) rfl (fun _ _ => rfl) ?_
      intro bytes frame n kind hparse hkind
      simp [replySize, hparse, hkind, Except.toOption]
  | file stream =>
      refine bind_closing_adds (iterate_adds fun state => ?_)
      refine pass_adds (handleFileFrame_answers state) rfl (fun _ _ => rfl) ?_
      intro bytes frame n kind hparse hkind
      simp [replySize, hparse, hkind, Except.toOption]
  | _ => cases htask

end OpenRD.Server
