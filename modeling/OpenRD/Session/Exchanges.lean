import OpenRD.Foundation.Progress
import OpenRD.Server.Transcript

/-!
# The exchanges of the Control task, in any world

Each exchange completes in a world in which its reads, writes and streams do.
-/

namespace OpenRD.Session

open OpenRD.Foundation OpenRD.Proto OpenRD.Server Control

universe u

variable {W : Type u} {F : Type} {env : Env Request Request.Answer Output W F}
  {server : ServerConfig} {world world₁ world₂ world₃ : W}

/-- In `world`, a write of this frame succeeds and leads to `world'`. -/
def WritesFrame (env : Env Request Request.Answer Output W F)
    (frameType : ControlFrameType) (payload : List UInt8) (world world' : W) : Prop :=
  env.Completes (writeFrame frameType payload) world
    [writeEvent frameType payload (.ok ())] () world'

theorem WritesFrame.value {frameType : ControlFrameType} {value : Cbor}
    {payload : List UInt8} (hwrite : WritesFrame env frameType payload world world₁)
    (h : server.cib.intoWriter value = .ok payload) :
    env.Completes (writeValue server frameType value) world
      [writeEvent frameType payload (.ok ())] () world₁ :=
  .bind (.lift (Ciborium.write_eq_ok.mpr h)) hwrite

theorem Hello.completes (hello : Hello server)
    (hread : env.Completes readFrame world [readEvent hello.bytes] hello.bytes world₁)
    (hwrite : WritesFrame env .serverHello hello.payload
      (env.perform world₁ (.logNegotiation
        (NegotiatedProfile.negotiate hello.clientCaps Capabilities.default))) world₂) :
    env.Completes (helloExchange server) world hello.events () world₂ := by
  have hwritten : withContext "encode ServerHello"
      (server.cib.write (serverHello server hello.protoV)) = .ok hello.payload := by
    simpa using hello.written
  exact .bind hread (.bind (.lift hello.received)
    (.bind (.say _) (.bind (.lift hwritten) hwrite)))

theorem Auth.completes (auth : Auth server)
    (hread : env.Completes readFrame world [readEvent auth.bytes] auth.bytes world₁)
    (hwrite : WritesFrame env .authResult auth.payload world₁ world₂) :
    env.Completes (authExchange server) world auth.events
      (auth.status.toU32 == ErrorCode.ok.toU32) world₂ := by
  have hwritten : withContext "encode AuthResult"
      (server.cib.write (buildAuthResult auth.status.toU32
        (authDecision server auth.method auth.credential).2.1
        (authDecision server auth.method auth.credential).2.2)) = .ok auth.payload :=
    withContext_eq_ok.mpr (Ciborium.write_eq_ok.mpr auth.written)
  exact .bind hread (.bind (.lift auth.received)
    (.bind (.lift hwritten) (.bind hwrite (.pure _))))

theorem Opened.completes {channel : ServerChannel} {handles : List Nat}
    (opened : Opened server channel)
    (hwrite : WritesFrame env .openChannel opened.payload world world₁)
    (hopen : env.Completes openUni world₁ [.asked .openUni (.ok opened.stream)]
      opened.stream world₂)
    (hfirst : env.Completes (writeUni opened.stream channel.frameType channel.first) world₂
      [.asked (.writeUni opened.stream channel.frameType channel.first) (.ok ())] ()
      world₃) :
    env.Completes (openServerChannel server channel handles) world opened.events
      (handles ++ [handles.length])
      (env.perform world₃ (.spawn (channel.task opened.stream))) :=
  .bind (hwrite.value opened.written) (.bind hopen (.bind hfirst (.bind (.say _) (.pure _))))

/-- In `world`, the next stream for this kind is there to accept. -/
structure Accepts (env : Env Request Request.Answer Output W F) (kind : UInt64)
    (stream : ClientStream) (world world' : W) : Prop where
  uni : kind = ChannelKind.input.toU64 →
    env.Completes acceptUni world [.asked .acceptUni (.ok stream)] stream world'
  bi : kind ≠ ChannelKind.input.toU64 →
    env.Completes acceptBi world [.asked .acceptBi (.ok stream)] stream world'

theorem Accepts.startHandler {kind : UInt64} {handles : List Nat} {stream : ClientStream}
    (haccept : Accepts env kind stream world world₁)
    (hsupported : isSupportedClientChannel kind = true) :
    env.Completes (startHandler handles kind) world
      [acceptEvent kind (.ok stream), .told (.spawn (clientTask kind stream))]
      (handles ++ [handles.length])
      (env.perform world₁ (.spawn (clientTask kind stream))) := by
  rcases isSupportedClientChannel_iff.mp hsupported with rfl | rfl | rfl | rfl
  · exact .bind (haccept.uni rfl) (.bind (.say _) (.pure _))
  · exact .bind (haccept.bi (by decide)) (.bind (.say _) (.pure _))
  · exact .bind (haccept.bi (by decide)) (.bind (.say _) (.pure _))
  · exact .bind (haccept.bi (by decide)) (.bind (.say _) (.pure _))

/-! ## Passes of the dispatcher loop -/

section Dispatch

variable {handles : List Nat}

theorem completes_dispatch_skipped {bytes : List UInt8}
    (hread : env.Completes readFrameOpt world [readOptEvent bytes] (some bytes) world₁)
    (received : receiveOpenChannel server.cib bytes = .ok none) :
    env.Completes (dispatch server handles) world [readOptEvent bytes] (.inl handles)
      world₁ :=
  .bind hread (.bind (.lift received) (.pure _))

theorem completes_dispatch_refused {acked : Acked server}
    (hread : env.Completes readFrameOpt world [readOptEvent acked.bytes] (some acked.bytes)
      world₁)
    (hwrite : WritesFrame env .openChannelAck acked.payload world₁ world₂)
    (hunsupported : isSupportedClientChannel acked.request.kind = false) :
    env.Completes (dispatch server handles) world (acked.events (.ok ())) (.inl handles)
      world₂ := by
  have hstatus : (ackStatus acked.request.kind).toU32 ≠ ErrorCode.ok.toU32 := by
    simp [ackStatus, hunsupported, ErrorCode.toU32]
  refine .bind hread (.bind (.lift acked.received) (.bind (hwrite.value acked.written) ?_))
  rw [if_pos hstatus]
  exact .pure _

theorem completes_dispatch_served {acked : Acked server} {stream : ClientStream}
    (hread : env.Completes readFrameOpt world [readOptEvent acked.bytes] (some acked.bytes)
      world₁)
    (hwrite : WritesFrame env .openChannelAck acked.payload world₁ world₂)
    (haccept : Accepts env acked.request.kind stream world₂ world₃)
    (hsupported : isSupportedClientChannel acked.request.kind = true) :
    env.Completes (dispatch server handles) world
      (Turn.served acked hsupported stream).events (.inl (handles ++ [handles.length]))
      (env.perform world₃ (.spawn (clientTask acked.request.kind stream))) := by
  have hstatus : ¬(ackStatus acked.request.kind).toU32 ≠ ErrorCode.ok.toU32 := by
    simp [ackStatus, hsupported]
  have hevents : (Turn.served acked hsupported stream).events =
      [readOptEvent acked.bytes, writeEvent .openChannelAck acked.payload (.ok ()),
        acceptEvent acked.request.kind (.ok stream),
        .told (.spawn (clientTask acked.request.kind stream))] := rfl
  rw [hevents]
  refine .bind hread (.bind (.lift acked.received) (.bind (hwrite.value acked.written) ?_))
  rw [if_neg hstatus]
  exact .bind (haccept.startHandler hsupported) (.pure _)

theorem completes_dispatch_ended
    (hread : env.Completes readFrameOpt world [.asked .readFullFrameOpt (.ok none)] none
      world₁) :
    env.Completes (dispatch server handles) world [.asked .readFullFrameOpt (.ok none)]
      (.inr handles) world₁ :=
  .bind hread (.pure _)

end Dispatch

theorem completes_joinAll {handles : List Nat}
    (hjoin : ∀ handle ∈ handles, env.Completes (join handle) world
      [.asked (.join handle) ()] () world) :
    env.Completes (joinAll handles) world (handles.map fun handle => .asked (.join handle) ())
      () world := by
  induction handles with
  | nil => exact .pure _
  | cons handle handles ih =>
      exact .bind (hjoin handle (by simp)) (ih fun handle hmem =>
        hjoin handle (List.mem_cons_of_mem _ hmem))

end OpenRD.Session
