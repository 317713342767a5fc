import OpenRD.Foundation.CborSizes
import OpenRD.Session.Delivery
import OpenRD.Session.ReplySizes

/-!
# How much a client makes the server write

A reply copies at most one text of its request, under a map of bounded size.  So what a
handler writes on a channel is bounded by what the client has sent on it.
-/

namespace OpenRD.Session

open OpenRD.Foundation OpenRD.Proto OpenRD.Server CborWire

variable {server : ServerConfig} {control : RecvStream} {payload bytes : List UInt8}

/-- What is read is not empty, and no text in a map is longer than the bytes it came from. -/
def TextsFit (cib : Ciborium) : Prop :=
  ∀ payload v, cib.fromReader payload = .ok v → 0 < payload.length ∧
    ∀ entries, v.asMap = some entries → ∀ entry ∈ entries, ∀ text,
      entry.2.asText = some text → (utf8 text).length ≤ payload.length

theorem textsFit_rfc8949 : TextsFit Ciborium.rfc8949 := by
  intro payload v hread
  simp only [Ciborium.rfc8949] at hread
  cases hdecode : decode payload with
  | none => simp [hdecode] at hread
  | some decoded =>
      obtain ⟨value, rest⟩ := decoded
      simp only [hdecode, Except.ok.injEq] at hread
      subst hread
      refine ⟨length_pos_of_decode hdecode, ?_⟩
      rintro entries hmap ⟨key, contents⟩ hentry text htext
      cases value with
      | map =>
          cases hmap
          cases contents with
          | text =>
              cases htext
              exact length_of_decode_map hdecode hentry
          | _ => cases htext
      | _ => cases hmap

/-! ## The size of one reply -/

theorem headSize_le_nine (argument : ℕ) : headSize argument ≤ 9 := by
  unfold headSize
  split_ifs <;> decide

theorem length_clipboardBody_le (mime : String) : (clipboardBody mime).length ≤ 45 := by
  unfold clipboardBody
  split_ifs <;> decide +kernel

section Texts

variable {S : Type} {fields : List (Field UInt64 Cbor S)} {start : S} {v : Cbor}

/-- A text that a reader takes out of a map is no longer than the payload. -/
theorem length_of_readMap (part : S → String) (htexts : TextsFit server.cib)
    (hread : server.cib.fromReader payload = .ok v)
    (hrows : ∀ field ∈ fields, ∀ value state, part (field.store value state) = part state ∨
      value.asText = some (part (field.store value state)))
    (hstart : (utf8 (part start)).length ≤ payload.length) :
    (utf8 (part (readMap fields start v))).length ≤ payload.length := by
  unfold readMap
  cases hmap : v.asMap with
  | none => exact hstart
  | some entries =>
      refine readFields_invariant (P := fun state => (utf8 (part state)).length ≤ payload.length)
        (fun field hfield entry hentry state hstate => ?_) hstart
      rcases hrows field hfield entry.2 state with hsame | htext
      · rwa [hsame]
      · exact (htexts payload v hread).2 entries hmap entry hentry _ htext

end Texts

theorem length_mime_le (htexts : TextsFit server.cib) {v : Cbor}
    (hread : server.cib.fromReader payload = .ok v) :
    (utf8 (parseRequestContent v).mime).length ≤ payload.length := by
  refine length_of_readMap RequestContent.mime htexts hread ?_ (Nat.zero_le _)
  intro field hfield value state
  simp only [requestContentFields, List.mem_cons, List.not_mem_nil, or_false] at hfield
  rcases hfield with rfl | rfl
  · cases htext : value.asText <;> simp [Field.keep, htext]
  · cases hword : value.asU64 <;> simp [Field.keep, hword]

theorem length_body_le (htexts : TextsFit server.cib) {v : Cbor}
    (hread : server.cib.fromReader payload = .ok v) :
    (utf8 (parseChatMessage v).body).length ≤ payload.length := by
  refine length_of_readMap ChatMessage.body htexts hread ?_ (Nat.zero_le _)
  intro field hfield value state
  simp only [chatMessageFields, List.mem_cons, List.not_mem_nil, or_false] at hfield
  rcases hfield with rfl | rfl | rfl | rfl
  · cases hword : value.asU64 <;> simp [Field.keep, hword]
  · cases htext : value.asText <;> simp [Field.keep, htext]
  · cases htext : value.asText <;> simp [Field.keep, htext]
  · cases hword : value.asU64 <;> simp [Field.keep, hword]

theorem clipboardReplySize_le (htexts : TextsFit server.cib) {kind : ClipboardFrameType}
    {size : ℕ} (h : clipboardReplySize server kind payload = some size) :
    0 < payload.length ∧ size ≤ payload.length + 78 := by
  unfold clipboardReplySize at h
  split at h
  · next val hread =>
      have hmime := length_mime_le htexts hread
      have hbody := length_clipboardBody_le (parseRequestContent val).mime
      have hid := headSize_le_nine (parseRequestContent val).requestId.toNat
      have hmimeHead := headSize_le_nine (utf8 (parseRequestContent val).mime).length
      have hbodyHead := headSize_le_nine (clipboardBody (parseRequestContent val).mime).length
      refine ⟨(htexts payload val hread).1, ?_⟩
      simp only [Option.some.injEq, contentSize] at h
      omega
  · cases h

theorem chatReplySize_le (htexts : TextsFit server.cib) {kind : ChatFrameType} {size : ℕ}
    (h : chatReplySize server kind payload = some size) :
    0 < payload.length ∧ size ≤ payload.length + 78 := by
  unfold chatReplySize at h
  split at h
  · next v hread =>
      have hbody := length_body_le htexts hread
      refine ⟨(htexts payload v hread).1, ?_⟩
      simp only [Option.map_eq_some_iff] at h
      obtain ⟨⟨msgId, tsMs⟩, -, h⟩ := h
      have hsender : (utf8 "openrd-server/0.0.1").length = 19 := by decide +kernel
      have hecho : (utf8 ("[server-echo] " ++ (parseChatMessage v).body)).length =
          14 + (utf8 (parseChatMessage v).body).length := by
        rw [utf8_append, List.length_append]
        congr 1
      have hid := headSize_le_nine msgId.toNat
      have hsenderHead := headSize_le_nine (utf8 "openrd-server/0.0.1").length
      have hechoHead :=
        headSize_le_nine (utf8 ("[server-echo] " ++ (parseChatMessage v).body)).length
      have hts := headSize_le_nine tsMs.toNat
      simp only [messageSize] at h
      omega
  · cases h

theorem fileReplySize_le {kind : FileFrameType} {size : ℕ}
    (h : fileReplySize kind payload = some size) :
    0 < payload.length ∧ size ≤ payload.length + 78 := by
  unfold fileReplySize at h
  split at h
  · next hchunk =>
      cases h
      omega
  · cases h

/-- With its header, a reply is at most thirteen times as long as the frame it answers. -/
theorem replySize_le (htexts : TextsFit server.cib) {task : Task} {size : ℕ}
    (h : replySize server task bytes = some size) :
    FrameHeader.size + size ≤ 13 * bytes.length := by
  unfold replySize at h
  obtain ⟨⟨frame, n⟩, hframe, h⟩ := Option.bind_eq_some_iff.mp h
  cases hparse : Frame.parse bytes with
  | error error => simp [hparse, Except.toOption] at hframe
  | ok parsed =>
      obtain rfl : parsed = (frame, n) := by simpa [hparse, Except.toOption] using hframe
      have hpayload : FrameHeader.size + frame.payload.length ≤ bytes.length := by
        obtain ⟨-, hn, hle, hpayload⟩ := Frame.parse_eq_ok.mp hparse
        rw [hpayload, List.length_drop, List.length_take]
        omega
      suffices hbound : 0 < frame.payload.length ∧ size ≤ frame.payload.length + 78 by
        simp only [FrameHeader.size] at hpayload ⊢
        omega
      cases task with
      | clipboard stream =>
          obtain ⟨kind, -, h⟩ := Option.bind_eq_some_iff.mp h
          exact clipboardReplySize_le htexts h
      | chat stream =>
          obtain ⟨kind, -, h⟩ := Option.bind_eq_some_iff.mp h
          exact chatReplySize_le htexts h
      | file stream =>
          obtain ⟨kind, -, h⟩ := Option.bind_eq_some_iff.mp h
          exact fileReplySize_le h
      | _ => cases h

/-! ## All that a handler writes -/

theorem length_wire (frames : List SentFrame) :
    (wire frames).length = (frames.map fun frame => FrameHeader.size + frame.2.length).sum := by
  induction frames with
  | nil => rfl
  | cons frame frames ih =>
      rw [wire_cons, List.length_append, ih, SentFrame.bytes, length_encode]
      rfl

theorem payloadsWritten_eq (history : List HandlerEvent) :
    payloadsWritten history = (framesCalled history).map Prod.snd := by
  rw [payloadsWritten, framesCalled, List.map_filterMap]
  congr 1
  funext event
  cases event with
  | told output => rfl
  | asked question answer => cases question <;> rfl

theorem sum_replySizes_le (htexts : TextsFit server.cib) (task : Task)
    (frames : List (List UInt8)) :
    ((frames.filterMap (replySize server task)).map (FrameHeader.size + ·)).sum ≤
      13 * (frames.map List.length).sum := by
  induction frames with
  | nil => simp
  | cons bytes frames ih =>
      rw [List.map_cons, List.sum_cons, Nat.mul_add]
      cases hsize : replySize server task bytes with
      | none =>
          rw [List.filterMap_cons_none hsize]
          exact ih.trans (Nat.le_add_left _ _)
      | some size =>
          rw [List.filterMap_cons_some hsize, List.map_cons, List.sum_cons]
          exact Nat.add_le_add (replySize_le htexts hsize) ih

theorem bounded_of_replying (htexts : TextsFit server.cib) {task : Task}
    {history : List HandlerEvent} (h : Replying server task history) :
    (wire (framesCalled history)).length ≤
      13 * ((framesRead history).map List.length).sum := by
  refine le_trans ?_ (sum_replySizes_le htexts task _)
  obtain ⟨missing, hsizes⟩ := h
  rw [← hsizes, payloadsWritten_eq, List.map_append, List.sum_append, List.map_map, List.map_map,
    length_wire]
  exact Nat.le_add_right _ _

theorem handleInputFrame_silent (kind : InputFrameType) (payload : List UInt8) :
    (handleInputFrame kind payload).Adds (fun events => framesCalled events = [])
      fun _ events => framesCalled events = [] := by
  cases kind with
  | keyEvent | textInput =>
      exact Prog.adds_lift_bind (fun _ _ => rfl) fun event _ => Prog.adds_say rfl
  | _ => exact Prog.adds_say rfl

/-- The Input handler writes nothing. -/
theorem handleInputStream_silent :
    (handleInputStream server).Adds (fun events => framesCalled events = [])
      fun _ events => framesCalled events = [] := by
  have happend (first second : List HandlerEvent) (hfirst : framesCalled first = [])
      (hsecond : framesCalled second = []) : framesCalled (first ++ second) = [] := by
    rw [framesCalled_append, hfirst, hsecond]
    rfl
  refine Prog.adds_bind_closed happend ?_ fun count => Prog.adds_say rfl
  refine Prog.adds_iterate_closed rfl happend fun count => ?_
  refine Prog.adds_bind_closed happend ?_ ?_
  · refine (nextFrame_adds InputFrameType.fromU8).weaken ?_ ?_
    · rintro events (rfl | ⟨answer, rfl⟩) <;> rfl
    · rintro (_ | ⟨kind, payload⟩) events hevents
      · cases hevents
        rfl
      · obtain ⟨bytes, frame, n, rfl, -⟩ := hevents
        rfl
  · rintro (_ | ⟨kind, payload⟩)
    · exact Prog.adds_pure rfl
    · refine Prog.adds_bind_closed happend (handleInputFrame_silent kind payload) fun _ => ?_
      refine Prog.adds_bind_closed happend ?_ fun count => Prog.adds_pure rfl
      refine (add_adds _ _ _).weaken ?_ ?_
      · rintro events ⟨-, hwritten⟩
        rwa [payloadsWritten_eq, List.map_eq_nil_iff] at hwritten
      · rintro sum events ⟨-, rfl, -⟩
        rfl

/-! ## All that it reads -/

/-- The length of the frame that a read has brought. -/
def readLength : Except Error (Option (List UInt8)) → ℕ
  | .ok (some bytes) => bytes.length
  | _ => 0

theorem sum_framesRead (history : List HandlerEvent) (answer : Except Error (Option (List UInt8))) :
    ((framesRead (history ++ [.asked .readFullFrameOpt answer])).map List.length).sum =
      ((framesRead history).map List.length).sum + readLength answer := by
  rw [framesRead_append, List.map_append, List.sum_append]
  rcases answer with error | _ | bytes <;> rfl

theorem readFullFrameOpt_takes (recv : RecvStream) :
    readLength (readFullFrameOpt recv).1 + (readFullFrameOpt recv).2.items.length ≤
      recv.items.length := by
  have hleft := (readFrameOptWith_leavesEnd readerTexts recv).length_le
  cases hparse : Frame.parse recv.items with
  | ok parsed =>
      obtain ⟨frame, n⟩ := parsed
      obtain ⟨cuts, hread⟩ := readFrameOptWith_of_parse readerTexts recv hparse
      have hle := (Frame.size_le_of_parse hparse).2
      rw [readFullFrameOpt, hread]
      simp only [readLength, List.length_take, List.length_drop]
      omega
  | error error =>
      rcases readFrameOptWith_of_parse_error readerTexts recv hparse with
        ⟨-, -, rest, hread⟩ | ⟨-, error, rest, hread⟩ <;>
        simpa [readFullFrameOpt, readLength, hread] using hleft

/-- The frames a handler has read, and what is left of its stream, fit into the stream. -/
def Takes (task : Task) (history : List HandlerEvent) (world : HandlerWorld) : Prop :=
  ((framesRead history).map List.length).sum + world.recv.items.length ≤
    (taskRecv task).items.length

theorem Takes.add {task : Task} {history : List HandlerEvent} {world : HandlerWorld}
    (h : Takes task history world) {event : HandlerEvent} (hevent : readFrameOf event = none) :
    Takes task (history ++ [event]) world := by
  have hnone : framesRead [event] = [] := List.filterMap_cons_none hevent
  rwa [Takes, framesRead_append, hnone, List.append_nil]

theorem reachable_takes {session : State} (h : Reachable server control session) :
    ∀ spawned ∈ session.world.handlers,
      Takes spawned.task spawned.run.history spawned.run.world := by
  refine reachable_each_handler (P := fun task run => Takes task run.history run.world) ?_ ?_ h
  · intro task
    have hstart : Takes task [] ⟨taskRecv task⟩ := (Nat.zero_add _).le
    exact Running.settle_ties (fun _ _ _ htakes => htakes.add rfl) hstart
  · intro task run run' choice htakes hrun
    refine Running.advance_ties ?_ (fun _ _ _ htakes => htakes.add rfl) htakes hrun
    intro history world question choice answer world' htakes hanswer
    cases question with
    | readFullFrameOpt =>
        cases hanswer
        have hone := readFullFrameOpt_takes world.recv
        unfold Takes at htakes ⊢
        rw [sum_framesRead]
        simp only
        omega
    | _ =>
        cases hanswer
        exact htakes.add rfl

theorem reachable_silent {session : State} (h : Reachable server control session)
    {spawned : Spawned} (hmem : spawned ∈ session.world.handlers) {stream : ClientStream}
    (htask : spawned.task = .input stream) : framesCalled spawned.run.history = [] := by
  have hsafe (task : Task) : (task.program server).Safe
      (fun history => ∀ stream, task = .input stream → framesCalled history = []) []
      fun _ history => ∀ stream, task = .input stream → framesCalled history = [] := by
    cases task with
    | input stream =>
        refine (handleInputStream_silent []).weaken ?_ ?_
        · rintro history ⟨events, rfl, hsilent⟩ _ -
          exact hsilent
        · rintro result history ⟨events, rfl, hsilent⟩ _ -
          cases result <;> exact hsilent
    | _ => exact (Prog.safe_trivial _ []).weaken (fun _ _ _ => nofun) fun _ _ _ _ => nofun
  exact reachable_handlers hsafe h spawned hmem stream htask

/--
On a channel that a client has opened, the server writes at most thirteen times as many
bytes as the client sends.
-/
theorem replies_bounded (hcib : ShortestForm server.cib) (htexts : TextsFit server.cib)
    {session : State} (h : Reachable server control session) {spawned : Spawned}
    (hmem : spawned ∈ session.world.handlers) {kind : UInt64} {stream : ClientStream}
    (hclient : spawned.task.client = some (kind, stream)) :
    (wire (framesCalled spawned.run.history)).length ≤ 13 * stream.recv.items.length := by
  have hrecv : taskRecv spawned.task = stream.recv := by
    cases htask : spawned.task <;> rw [htask] at hclient <;> cases hclient <;> rfl
  have htakes : Takes spawned.task spawned.run.history spawned.run.world :=
    reachable_takes h spawned hmem
  rw [Takes, hrecv] at htakes
  by_cases hreplies : spawned.task.Replies
  · have hreplying := (reachable_replies hcib h spawned hmem).invariant hreplies
    have hbound := bounded_of_replying htexts hreplying
    omega
  · have hinput : ∃ stream, spawned.task = .input stream := by
      cases htask : spawned.task <;> rw [htask] at hclient hreplies <;>
        first | exact ⟨_, rfl⟩ | exact absurd trivial hreplies | cases hclient
    obtain ⟨stream, hinput⟩ := hinput
    rw [reachable_silent h hmem hinput]
    exact Nat.zero_le _

theorem replies_bounded_requested :
    ∃ session, Reachable (loopbackServer "493817") requestControl session ∧
      ∃ spawned ∈ session.world.handlers,
        spawned.task.client = some (ChannelKind.clipboard.toU64,
          requestStream "text/plain;charset=utf-8" 42) ∧
        payloadsWritten spawned.run.history = [contentReply "text/plain;charset=utf-8" 42] ∧
        (wire (framesCalled spawned.run.history)).length ≤
          13 * (requestStream "text/plain;charset=utf-8" 42).recv.items.length := by
  obtain ⟨session, hreachable, spawned, hmem, htask, hhistory⟩ :=
    reachable_requested textRequest_fits
  have hclient : spawned.task.client = some (ChannelKind.clipboard.toU64,
      requestStream "text/plain;charset=utf-8" 42) := by
    rw [htask]
    rfl
  refine ⟨session, hreachable, spawned, hmem, hclient, ?_,
    replies_bounded shortestForm_rfc8949 textsFit_rfc8949 hreachable hmem hclient⟩
  rw [hhistory, payloadsWritten_requestEvents]

end OpenRD.Session
