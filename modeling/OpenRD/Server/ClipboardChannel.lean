import OpenRD.Server.Answering

/-!
# The Clipboard channel

The handler sends content only when it is asked for.
-/

namespace OpenRD.Server

open OpenRD.Foundation OpenRD.Proto Handler

variable {server : ServerConfig} {events : List HandlerEvent}
  {status : Except HandlerStop Unit}

/-! ## Requests and their replies -/

/-- The content a frame asks for. -/
def contentRequestOf (cib : Ciborium) (bytes : List UInt8) : Option RequestContent :=
  (valueOf cib ClipboardFrameType.fromU8 .requestContent bytes).map parseRequestContent

def contentFor (request : RequestContent) : Cbor :=
  buildClipboardContent request.requestId request.mime (clipboardBody request.mime)

def clipboardReply (cib : Ciborium) (bytes : List UInt8) : Option ReplyFrame := do
  let request ← contentRequestOf cib bytes
  let payload ← (cib.intoWriter (contentFor request)).toOption
  return (ClipboardFrameType.content.toU8, payload)

theorem delivers_previewOf (contents : List UInt8) : Delivers none (previewOf contents) := by
  unfold previewOf
  dsimp only
  split
  · split
    · exact delivers_pure _
    · exact delivers_panic _
  · exact delivers_pure _

theorem handleClipboardFrame_delivers {bytes payload : List UInt8} {kind : ClipboardFrameType}
    (h : received ClipboardFrameType.fromU8 bytes = .ok (kind, payload)) :
    Delivers (clipboardReply server.cib bytes) (handleClipboardFrame server kind payload) := by
  have hvalue : valueOf server.cib ClipboardFrameType.fromU8 .requestContent bytes = _ :=
    valueOf_received h
  cases kind with
  | requestContent =>
      refine delivers_lift_bind ?_ fun val hval => delivers_say_bind ?_
      · intro error herror
        simp [clipboardReply, contentRequestOf, hvalue, Ciborium.decoded_of_error herror]
      · have hrequest : contentRequestOf server.cib bytes = some (parseRequestContent val) := by
          simp [contentRequestOf, hvalue, Ciborium.decoded_of_ok hval]
        refine delivers_lift_bind ?_ fun reply hreply => ?_
        · intro error herror
          simp [clipboardReply, hrequest, contentFor, Ciborium.encoded_of_error herror]
        · have hsome : clipboardReply server.cib bytes =
              some (ClipboardFrameType.content.toU8, reply) := by
            simp [clipboardReply, hrequest, contentFor, Ciborium.encoded_of_ok hreply]
          rw [hsome]
          exact delivers_write_bind (delivers_say _)
  | offerTypes =>
      have hnone : clipboardReply server.cib bytes = none := by
        simp [clipboardReply, contentRequestOf, hvalue]
      rw [hnone]
      exact delivers_lift_bind (fun _ _ => rfl) fun val hval => delivers_say _
  | content =>
      have hnone : clipboardReply server.cib bytes = none := by
        simp [clipboardReply, contentRequestOf, hvalue]
      rw [hnone]
      refine delivers_lift_bind (fun _ _ => rfl) fun val hval => ?_
      refine (delivers_previewOf _).bind (fun _ _ _ => rfl) fun _ _ _ => delivers_say _
  | _ =>
      have hnone : clipboardReply server.cib bytes = none := by
        simp [clipboardReply, contentRequestOf, hvalue]
      rw [hnone]
      exact delivers_say _

/-- The handler writes the reply to each request it has read, and nothing else. -/
theorem handleClipboardStream_answering
    (h : (handleClipboardStream server).ComesTo events status) :
    Answering (clipboardReply server.cib) events status := by
  refine answering_closed (fun events status hloop => ?_) h
  rw [eachFrame_eq] at hloop
  refine frameLoop_answering ?_ ?_ hloop
  · intro bytes error hreceived
    simp [clipboardReply, contentRequestOf, valueOf, hreceived]
  · exact fun _ bytes kind payload hreceived => handleClipboardFrame_delivers hreceived

end OpenRD.Server
