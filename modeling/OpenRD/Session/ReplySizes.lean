import OpenRD.Server.Replies
import OpenRD.Session.Progress

/-!
# Whether the handlers' replies fit into a frame

A reader rejects a frame whose payload is longer than `maxFrameLength`; nothing keeps
a handler from writing one.
-/

namespace OpenRD.Session

open OpenRD.Foundation OpenRD.Proto OpenRD.Server CborWire

variable {server : ServerConfig} {control : RecvStream}

/-- The reply to a frame, if it calls for one, is not too long for the reader. -/
def ReplyFits (server : ServerConfig) (task : Task) (bytes : List UInt8) : Prop :=
  ∀ size, replySize server task bytes = some size → size ≤ maxFrameLength

/-- A handler's history when it has returned, or while it still runs or has failed. -/
def RepliedBy (server : ServerConfig) (task : Task) :
    Except Error Unit → List HandlerEvent → Prop
  | .ok _, history => Replied server task history
  | .error _, history => Replying server task history

theorem RepliedBy.replying {task : Task} {result : Except Error Unit}
    {history : List HandlerEvent} (h : RepliedBy server task result history) :
    Replying server task history := by
  cases result with
  | ok value => exact Replied.replying h
  | error error => exact h

theorem program_replies_safe (hcib : ShortestForm server.cib) (task : Task) :
    (task.program server).Safe (fun history => task.Replies → Replying server task history)
      [] fun result history => task.Replies → RepliedBy server task result history := by
  by_cases htask : task.Replies
  · refine (program_replies hcib htask []).weaken ?_ ?_
    · rintro history ⟨events, rfl, hreplying⟩ -
      exact hreplying
    · rintro result history ⟨events, rfl, hresult⟩ -
      cases result <;> exact hresult
  · refine (Prog.safe_trivial (task.program server) []).weaken ?_ ?_
    · exact fun _ _ hreplies => absurd hreplies htask
    · exact fun _ _ _ hreplies => absurd hreplies htask

theorem reachable_replies (hcib : ShortestForm server.cib) {session : State}
    (h : Reachable server control session) :
    ∀ spawned ∈ session.world.handlers,
      spawned.run.Sound
        (fun history => spawned.task.Replies → Replying server spawned.task history)
        fun result history =>
          spawned.task.Replies → RepliedBy server spawned.task result history :=
  reachable_handlers_sound
    (I := fun task history => task.Replies → Replying server task history)
    (R := fun task result history =>
      task.Replies → RepliedBy server task result history)
    (fun _ _ _ hresult htask => (hresult htask).replying) (program_replies_safe hcib) h

theorem payloads_fit_of_sizes {task : Task} {history : List HandlerEvent}
    (h : Replying server task history)
    (hfits : ∀ bytes ∈ framesRead history, ReplyFits server task bytes) :
    ∀ payload ∈ payloadsWritten history, payload.length ≤ maxFrameLength := by
  intro payload hpayload
  have hlength := h.subset (List.mem_map_of_mem (f := List.length) hpayload)
  obtain ⟨bytes, hbytes, hsize⟩ := List.mem_filterMap.mp hlength
  exact hfits bytes hbytes payload.length hsize

theorem sizes_fit_of_payloads {task : Task} {history : List HandlerEvent}
    (h : Replied server task history)
    (hfits : ∀ payload ∈ payloadsWritten history, payload.length ≤ maxFrameLength) :
    ∀ bytes ∈ framesRead history, ReplyFits server task bytes := by
  intro bytes hbytes size hsize
  have hmem : size ∈ (framesRead history).filterMap (replySize server task) :=
    List.mem_filterMap.mpr ⟨bytes, hbytes, hsize⟩
  rw [← h] at hmem
  obtain ⟨payload, hpayload, rfl⟩ := List.mem_map.mp hmem
  exact hfits payload hpayload

/-! ## A clipboard request over a channel of its own -/

section Requested

variable (mime : String) (requestId : UInt64)

def requestFrame : List UInt8 :=
  Frame.encode ClipboardFrameType.requestContent.toU8
    (encode (TestClient.requestContent mime requestId)) []

def requestStream : ClientStream :=
  ⟨0, ChannelKind.clipboard.toU64, ⟨requestFrame mime requestId ++ [], [], none⟩⟩

def requestControl : RecvStream :=
  ⟨loopbackScript.bytes ++ (loopbackClipboard.bytes ++ []), [], none⟩

def contentReply : List UInt8 :=
  encode (buildClipboardContent requestId mime (clipboardBody mime))

end Requested

theorem turnEffect_served {world : World} {acked : Acked server} {stream : ClientStream}
    {world' : World} (supported : isSupportedClientChannel acked.request.kind = true)
    (haccept : world.accept acked.request.kind = some (stream, world')) :
    turnEffect (.served acked supported stream) world =
      some (world'.spawned server (clientTask acked.request.kind stream)) := by
  simp only [turnEffect, haccept, if_true]

/-- A client that has opened a clipboard channel, and sends `rest` on Control next. -/
theorem reachable_clipboard (recv : RecvStream) (rest : List UInt8) :
    ∃ history world,
      Reachable (loopbackServer "493817")
        ⟨loopbackScript.bytes ++ (loopbackClipboard.bytes ++ rest), [], none⟩
        (.at (loopbackServer "493817") (dispatching (loopbackServer "493817") [0, 1, 2])
          history world) ∧
      (∃ cuts, world.control = ⟨rest, cuts, none⟩) ∧
      world.handlers[2]? = some (.start (loopbackServer "493817")
        (.clipboard ⟨0, ChannelKind.clipboard.toU64, recv⟩)) := by
  have hstart : Reachable (loopbackServer "493817")
      ⟨loopbackScript.bytes ++ (loopbackClipboard.bytes ++ rest), [], none⟩ _ :=
    reachable_start
  obtain ⟨hcontrol, hserved⟩ := loopbackScript.reachable
    (reachable_openBi hstart ChannelKind.clipboard.toU64 recv) rfl rfl
  obtain ⟨hcontrol, hclipboard⟩ := hserved.turn
    (.served loopbackClipboard loopbackClipboard_supported
      ⟨0, ChannelKind.clipboard.toU64, recv⟩)
    hcontrol (by decide +kernel) rfl (turnEffect_served loopbackClipboard_supported rfl)
  exact ⟨_, _, hclipboard, hcontrol, rfl⟩

/-- Whatever the Control task does, the handler answers the request on its stream. -/
theorem Reachable.requested {pin mime : String} {requestId : UInt64} {session : State}
    {index : Nat} (h : Reachable (loopbackServer pin) control session)
    (hspawned : session.world.handlers[index]? =
      some (.start (loopbackServer pin) (.clipboard (requestStream mime requestId))))
    (hfits : (encode (TestClient.requestContent mime requestId)).length ≤ maxFrameLength) :
    ∃ world, Reachable (loopbackServer pin) control { session with world } ∧
      ∃ spawned ∈ world.handlers, spawned.task = .clipboard (requestStream mime requestId) ∧
        spawned.run.history = requestEvents mime requestId
          (encode (TestClient.requestContent mime requestId))
          (contentReply mime requestId) := by
  obtain ⟨cuts, hleads⟩ : ∃ cuts, handlerEnv.Leads
      (handleClipboardStream (loopbackServer pin)) ⟨(requestStream mime requestId).recv⟩
      (requestEvents mime requestId (encode (TestClient.requestContent mime requestId))
        (contentReply mime requestId))
      (handleClipboardStream (loopbackServer pin)) ⟨⟨[], cuts, none⟩⟩ :=
    leads_requestContent (carries_rfc8949 hfits) rfl [] [] none
  obtain ⟨choices, hrun⟩ := hleads []
  obtain ⟨world, hreachable, hhandlers⟩ := h.handler hspawned hrun
  let run := handlerEnv.settle (handleClipboardStream (loopbackServer pin))
    (requestEvents mime requestId (encode (TestClient.requestContent mime requestId))
      (contentReply mime requestId)) ⟨⟨[], cuts, none⟩⟩
  refine ⟨world, hreachable, ⟨.clipboard (requestStream mime requestId), run⟩, ?_, rfl, rfl⟩
  rw [hhandlers]
  exact List.mem_set (List.getElem?_eq_some_iff.mp hspawned).1 _

theorem reachable_requested {mime : String} {requestId : UInt64}
    (hfits : (encode (TestClient.requestContent mime requestId)).length ≤ maxFrameLength) :
    ∃ session, Reachable (loopbackServer "493817") requestControl session ∧
      ∃ spawned ∈ session.world.handlers,
        spawned.task = .clipboard (requestStream mime requestId) ∧
        spawned.run.history = requestEvents mime requestId
          (encode (TestClient.requestContent mime requestId))
          (contentReply mime requestId) := by
  obtain ⟨history, world, hreachable, -, hspawned⟩ :=
    reachable_clipboard (requestStream mime requestId).recv []
  obtain ⟨world, hrequested, hhistory⟩ := hreachable.requested hspawned hfits
  exact ⟨_, hrequested, hhistory⟩

theorem framesRead_requestEvents (mime : String) (requestId : UInt64)
    (payload reply : List UInt8) :
    framesRead (requestEvents mime requestId payload reply) =
      [Frame.encode ClipboardFrameType.requestContent.toU8 payload []] := rfl

theorem payloadsWritten_requestEvents (mime : String) (requestId : UInt64)
    (payload reply : List UInt8) :
    payloadsWritten (requestEvents mime requestId payload reply) = [reply] := rfl

/-! ## Replies that fit -/

/--
While each frame a handler has read calls for a reply that fits, all that it writes
fits; once it has returned, all it wrote fits only if each of them did.
-/
theorem repliesFit_iff (hcib : ShortestForm server.cib) {session : State}
    (h : Reachable server control session) {spawned : Spawned}
    (hmem : spawned ∈ session.world.handlers) (htask : spawned.task.Replies) :
    ((∀ bytes ∈ framesRead spawned.run.history, ReplyFits server spawned.task bytes) →
        ∀ payload ∈ payloadsWritten spawned.run.history,
          payload.length ≤ maxFrameLength) ∧
      (spawned.run.program = .ret () →
        ((∀ payload ∈ payloadsWritten spawned.run.history,
            payload.length ≤ maxFrameLength) ↔
          ∀ bytes ∈ framesRead spawned.run.history,
            ReplyFits server spawned.task bytes)) := by
  have hsound := reachable_replies hcib h spawned hmem
  have hreplying := hsound.invariant htask
  refine ⟨payloads_fit_of_sizes hreplying, fun hreturned => ?_⟩
  have hsafe := hsound.safe
  rw [hreturned] at hsafe
  exact ⟨sizes_fit_of_payloads (hsafe htask), payloads_fit_of_sizes hreplying⟩

theorem shortestForm_rfc8949 : ShortestForm Ciborium.rfc8949 := by
  intro value payload h
  cases h
  rfl

theorem replySize_requestFrame {pin mime : String} {requestId : UInt64}
    (hfits : (encode (TestClient.requestContent mime requestId)).length ≤ maxFrameLength)
    (stream : ClientStream) :
    replySize (loopbackServer pin) (.clipboard stream) (requestFrame mime requestId) =
      some (contentSize requestId.toNat (utf8 mime).length (clipboardBody mime).length) := by
  have hread : (loopbackServer pin).cib.fromReader
      (encode (TestClient.requestContent mime requestId)) =
        .ok (TestClient.requestContent mime requestId) := (carries_rfc8949 hfits).readBack
  have hkind : ClipboardFrameType.fromU8 ClipboardFrameType.requestContent.toU8 =
      .ok .requestContent := rfl
  simp only [replySize, requestFrame, Frame.parse_encode _ hfits, hkind, Except.toOption,
    clipboardReplySize, hread, parseRequestContent_sent, Option.bind_eq_bind,
    Option.bind_some]

theorem repliesFit_loopback :
    ∃ session, Reachable (loopbackServer "493817") requestControl session ∧
      ∃ spawned ∈ session.world.handlers, spawned.task.Replies ∧
        payloadsWritten spawned.run.history =
          [contentReply "text/plain;charset=utf-8" 42] ∧
        ∀ payload ∈ payloadsWritten spawned.run.history,
          payload.length ≤ maxFrameLength := by
  obtain ⟨session, hreachable, spawned, hmem, htask, hhistory⟩ :=
    reachable_requested textRequest_fits
  have hreplies : spawned.task.Replies := by
    rw [htask]
    trivial
  refine ⟨session, hreachable, spawned, hmem, hreplies, ?_, ?_⟩
  · rw [hhistory, payloadsWritten_requestEvents]
  · refine (repliesFit_iff shortestForm_rfc8949 hreachable hmem hreplies).1 ?_
    rw [hhistory, framesRead_requestEvents, List.forall_mem_singleton, htask]
    intro size hsize
    cases (replySize_requestFrame textRequest_fits _).symm.trans hsize
    decide +kernel

theorem length_contentReply (mime : String) (requestId : UInt64) :
    (contentReply mime requestId).length =
      contentSize requestId.toNat (utf8 mime).length (clipboardBody mime).length :=
  length_encode_content requestId mime (clipboardBody mime)

theorem length_encode_request (mime : String) (requestId : UInt64) :
    (encode (TestClient.requestContent mime requestId)).length =
      1 + (1 + headSize (utf8 mime).length + (utf8 mime).length) +
        (1 + headSize requestId.toNat) := by
  simp [TestClient.requestContent, encode, encodeEntries, encodeEntry, length_encode_uint,
    length_encode_key, headSize]
  omega

def repeated (n : Nat) : String := String.ofList (List.replicate n 'a')

theorem length_utf8_repeated (n : Nat) : (utf8 (repeated n)).length = n := by
  have hsize (n : Nat) : (List.replicate n 'a').utf8Encode.size = n := by
    induction n with
    | zero => simp
    | succ n ih =>
        rw [List.replicate_succ, List.utf8Encode_cons, ByteArray.size_append, ih,
          List.utf8Encode_singleton]
        exact Nat.add_comm 1 n
  simpa [utf8, repeated] using hsize n

theorem clipboardBody_repeated (n : Nat) : clipboardBody (repeated n) = [] := by
  cases n with
  | zero => rfl
  | succ n => simp [clipboardBody, repeated, List.replicate_succ]

/-- A type whose name takes up nearly all of the largest frame. -/
def longMime : String := repeated 16777206

theorem longMime_fits :
    (encode (TestClient.requestContent longMime 42)).length = maxFrameLength := by
  rw [length_encode_request, longMime, length_utf8_repeated]
  decide

theorem length_longReply : (contentReply longMime 42).length = maxFrameLength + 4 := by
  rw [length_contentReply, longMime, clipboardBody_repeated, length_utf8_repeated]
  decide

/-- A request that fills a frame to the limit is answered with a longer one. -/
theorem reply_too_long :
    ∃ session, Reachable (loopbackServer "493817") requestControl session ∧
      ∃ spawned ∈ session.world.handlers,
        spawned.task = .clipboard (requestStream longMime 42) ∧
        framesRead spawned.run.history = [requestFrame longMime 42] ∧
        payloadsWritten spawned.run.history = [contentReply longMime 42] ∧
        (encode (TestClient.requestContent longMime 42)).length = maxFrameLength ∧
        ¬(contentReply longMime 42).length ≤ maxFrameLength := by
  obtain ⟨session, hreachable, spawned, hmem, htask, hhistory⟩ :=
    reachable_requested longMime_fits.le
  refine ⟨session, hreachable, spawned, hmem, htask, ?_, ?_, longMime_fits, ?_⟩
  · rw [hhistory, framesRead_requestEvents, requestFrame]
  · rw [hhistory, payloadsWritten_requestEvents]
  · rw [length_longReply]
    omega

end OpenRD.Session
