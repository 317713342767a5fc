import OpenRD.Server.ClipboardChannel
import OpenRD.Session.Codecs
import OpenRD.Session.ReplySizes

/-!
# Clipboard content is pulled

The server's handler sends content for the requests it has read, in their order, and the
client reads off each reply what was asked for.
-/

namespace OpenRD.Session

open OpenRD.Foundation OpenRD.Proto OpenRD.Server

variable {server : ServerConfig} {events : List HandlerEvent}
  {status : Except HandlerStop Unit}

/-- The server's text for a text type, and no bytes otherwise. -/
def pulledBytes (mime : String) : List UInt8 :=
  if "text/plain".toList <+: mime.toList then asBytes serverClipboardText else []

def pulledContent (request : RequestContent) : Cbor :=
  .map [(.uint 1, .uint request.requestId), (.uint 2, .text request.mime),
    (.uint 3, .bytes (pulledBytes request.mime)), (.uint 4, .bool false)]

/-- The frame is the whole content for the request, and the client reads it so. -/
structure Fulfils (cib : Ciborium) (request : RequestContent) (frame : ReplyFrame) :
    Prop where
  type : frame.1 = ClipboardFrameType.content.toU8
  payload : cib.intoWriter (pulledContent request) = .ok frame.2
  recovered : cib.Lossless (pulledContent request) → ∃ v, cib.fromReader frame.2 = .ok v ∧
    TestClient.parseClipboardContent v =
      ⟨request.requestId, request.mime, pulledBytes request.mime⟩

theorem clipboardBody_eq (mime : String) : clipboardBody mime = pulledBytes mime := by
  simp only [clipboardBody, pulledBytes, List.isPrefixOf_iff_prefix]

theorem contentFor_eq (request : RequestContent) :
    contentFor request = pulledContent request := by
  rw [contentFor, clipboardBody_eq]
  rfl

theorem fulfils_contentFor {cib : Ciborium} {request : RequestContent}
    {payload : List UInt8} (h : cib.intoWriter (contentFor request) = .ok payload) :
    Fulfils cib request (ClipboardFrameType.content.toU8, payload) where
  type := rfl
  payload := contentFor_eq request ▸ h
  recovered hlossless := by
    rw [← contentFor_eq] at hlossless
    obtain ⟨payload', hwritten, hread⟩ := hlossless
    cases h.symm.trans hwritten
    rw [← clipboardBody_eq]
    exact ⟨_, hread, parseClipboardContent_recovers _ _ _ _ (ExtendsMap.refl _ _)⟩

theorem clipboardReply_fulfils {cib : Ciborium} (hwriter : cib.Writes) (bytes : List UInt8) :
    Option.Rel (Fulfils cib) (contentRequestOf cib bytes) (clipboardReply cib bytes) := by
  unfold clipboardReply
  cases contentRequestOf cib bytes with
  | none => exact .none
  | some request =>
      obtain ⟨payload, hpayload⟩ := hwriter (contentFor request)
      simp only [hpayload, Except.toOption, Option.bind_eq_bind, Option.bind_some]
      exact .some (fulfils_contentFor hpayload)

/-- Only a `RequestContent` frame asks for content. -/
theorem contentRequestOf_other {cib : Ciborium} {bytes payload : List UInt8}
    {kind : ClipboardFrameType}
    (h : received ClipboardFrameType.fromU8 bytes = .ok (kind, payload))
    (hkind : kind ≠ .requestContent) : contentRequestOf cib bytes = none := by
  simp [contentRequestOf, valueOf_received h, hkind]

/--
At every moment, the frames the handler has begun to write fulfil the requests it has read,
one each and in order; all but the one it is writing are written, and no other frame it
reads makes it write.
-/
theorem clipboard_pulled (hwriter : server.cib.Writes)
    (h : (handleClipboardStream server).ComesTo events status) :
    List.Forall₂ (Fulfils server.cib) ((framesRead events).filterMap (contentRequestOf server.cib))
      (framesBegun events status) ∧
    framesWritten events <+: framesBegun events status ∧
    (Idle status → framesWritten events = framesBegun events status) ∧
    ∀ bytes kind payload, received ClipboardFrameType.fromU8 bytes = .ok (kind, payload) →
      kind ≠ .requestContent → contentRequestOf server.cib bytes = none := by
  have hanswering := handleClipboardStream_answering h
  refine ⟨?_, hanswering.written, hanswering.idle, fun _ _ _ => contentRequestOf_other⟩
  rw [hanswering.begun]
  exact forall₂_filterMap fun bytes _ => clipboardReply_fulfils hwriter bytes

/-- In a session, a client asks for text and gets it. -/
theorem text_pulled :
    ∃ session, Reachable (loopbackServer "493817") requestControl session ∧
      ∃ spawned ∈ session.world.handlers,
        framesWritten spawned.run.history =
          [(ClipboardFrameType.content.toU8, contentReply "text/plain;charset=utf-8" 42)] ∧
        framesWritten spawned.run.history <+:
          framesBegun spawned.run.history spawned.run.status := by
  obtain ⟨session, hreachable, spawned, hmem, htask, hhistory⟩ :=
    reachable_requested textRequest_fits
  have hcomes := reachable_handlers_comeTo hreachable spawned hmem
  rw [htask] at hcomes
  refine ⟨session, hreachable, spawned, hmem, ?_, ?_⟩
  · rw [hhistory]
    rfl
  · exact (clipboard_pulled Ciborium.rfc8949_writes hcomes).2.1

end OpenRD.Session
