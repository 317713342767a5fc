import OpenRD.Server.FileChannel
import OpenRD.Session.TestControl

/-!
# The handlers and the test client

With the client's frames on its stream, a handler has one run, and so has the sender of
cursor moves: what each of them writes is fixed.
-/

namespace OpenRD.Session

open OpenRD.Foundation OpenRD.Proto OpenRD.Server
open OpenRD.TestClient (Stream)

/-- Writes succeed, and nothing is encoded. -/
def handlerReferenceEnv :
    Env HandlerRequest HandlerRequest.Answer HandlerLog HandlerWorld Unit where
  answer world question _ :=
    match question with
    | .initEncoder => none
    | .encode _ => none
    | question => handlerEnv.answer world question default
  perform world _ := world

/-! ## Reading to the end of a stream -/

section Handling

variable {α β σ : Type} {fromU8 : UInt8 → Except ParseError α}

theorem completes_handlerRead {frame : SentFrame} {kind : α}
    (hfits : frame.2.length ≤ maxFrameLength) (hkind : fromU8 frame.1 = .ok kind)
    (frames : List SentFrame) (cuts : List Nat) :
    ∃ cuts', handlerReferenceEnv.Completes (Handler.nextFrame fromU8)
      ⟨⟨wire (frame :: frames), cuts, none⟩⟩ [frameRead frame.bytes] (some (kind, frame.2))
      ⟨⟨wire frames, cuts', none⟩⟩ := by
  obtain ⟨cuts', hread⟩ := readFullFrameOpt_wire frame hfits frames cuts none
  have hframe : handlerReferenceEnv.Completes Handler.readFrameOpt
      ⟨⟨wire (frame :: frames), cuts, none⟩⟩ [frameRead frame.bytes] (some frame.bytes)
      ⟨⟨wire frames, cuts', none⟩⟩ := by
    refine .call () ?_ rfl
    simp only [handlerReferenceEnv, handlerEnv, hread]
  have hparse : parsed (Frame.parse frame.bytes) = .ok _ :=
    parsed_eq_ok.mpr (Frame.parse_encode frame.1 hfits)
  exact ⟨cuts', .bind hframe (.bind (.lift hparse)
    (.bind (.lift (parsed_eq_ok.mpr hkind)) (.pure _)))⟩

theorem completes_handlerEnded (fromU8 : UInt8 → Except ParseError α) (cuts : List Nat) :
    ∃ cuts', handlerReferenceEnv.Completes (Handler.nextFrame fromU8)
      ⟨⟨[], cuts, none⟩⟩ [.asked .readFullFrameOpt (.ok none)] none
      ⟨⟨[], cuts', none⟩⟩ := by
  obtain ⟨cuts', hread⟩ := readFrameOptWith_ended Server.readerTexts cuts
  have hread : readFullFrameOpt ⟨[], cuts, none⟩ = (.ok none, ⟨[], cuts', none⟩) := hread
  have hended : handlerReferenceEnv.Completes Handler.readFrameOpt ⟨⟨[], cuts, none⟩⟩
      [.asked .readFullFrameOpt (.ok none)] none ⟨⟨[], cuts', none⟩⟩ := by
    refine .call () ?_ rfl
    simp only [handlerReferenceEnv, handlerEnv, hread]
  exact ⟨cuts', .bind hended (.pure _)⟩

/-- What a handler reads, `none`, and what it writes. -/
def handlerTraffic (history : List HandlerEvent) : List (Option SentFrame) :=
  history.filterMap fun
    | .asked .readFullFrameOpt _ => some none
    | .asked (.writeFrame frameType payload) (.ok ()) => some (some (frameType, payload))
    | _ => none

@[simp] theorem handlerTraffic_append (events events' : List HandlerEvent) :
    handlerTraffic (events ++ events') = handlerTraffic events ++ handlerTraffic events' :=
  List.filterMap_append

theorem handlerFrames_traffic (history : List HandlerEvent) :
    handlerFrames history = (handlerTraffic history).reduceOption := by
  have hboth : (handlerTraffic history).reduceOption = _ := List.filterMap_filterMap
  rw [hboth, handlerFrames]
  congr 1
  funext event
  cases event with
  | told output => rfl
  | asked question answer =>
      cases question with
      | writeFrame frameType payload => cases answer <;> rfl
      | _ => rfl

/--
From `state`, the body of a handler's loop takes these frames one by one and ends with
`value`; meanwhile it reads and writes `traffic`.
-/
inductive Handles (fromU8 : UInt8 → Except ParseError α)
    (body : σ → Option (α × List UInt8) → HandlerProg (σ ⊕ β)) (value : β) :
    σ → List SentFrame → List (Option SentFrame) → Prop where
  | ended {state : σ} (h : body state none = pure (.inr value)) :
      Handles fromU8 body value state [] [none]
  | frame {state state' : σ} {frame : SentFrame} {frames : List SentFrame}
      {traffic traffic' : List (Option SentFrame)} {kind : α} {events : List HandlerEvent}
      (fits : frame.2.length ≤ maxFrameLength)
      (known : fromU8 frame.1 = .ok kind)
      (h : ∀ world, handlerReferenceEnv.Completes (body state (some (kind, frame.2))) world
        events (.inl state') world)
      (rest : Handles fromU8 body value state' frames traffic)
      (follows : none :: handlerTraffic events ++ traffic = traffic') :
      Handles fromU8 body value state (frame :: frames) traffic'

theorem Handles.completes {body : σ → Option (α × List UInt8) → HandlerProg (σ ⊕ β)}
    {value : β} {state : σ} {frames : List SentFrame} {traffic : List (Option SentFrame)}
    (h : Handles fromU8 body value state frames traffic) (cuts : List Nat) :
    ∃ events cuts', handlerTraffic events = traffic ∧ handlerReferenceEnv.Completes
      (Prog.iterate state fun state => Handler.nextFrame fromU8 >>= body state)
      ⟨⟨wire frames, cuts, none⟩⟩ events value ⟨⟨[], cuts', none⟩⟩ := by
  induction h generalizing cuts with
  | @ended state h =>
      obtain ⟨cuts', hended⟩ := completes_handlerEnded fromU8 cuts
      have hlast (world : HandlerWorld) : handlerReferenceEnv.Completes (body state none)
          world [] (.inr value) world := by
        rw [h]
        exact .pure _
      exact ⟨_, cuts', rfl, .iterate_last (hended.bind (hlast _))⟩
  | @frame _ _ frame frames _ _ _ _ fits known h _ hfollows ih =>
      obtain ⟨cuts', hread⟩ := completes_handlerRead fits known frames cuts
      obtain ⟨events, cuts'', htraffic, hrest⟩ := ih cuts'
      refine ⟨_, cuts'', ?_, .iterate_pass (hread.bind (h _)) hrest⟩
      rw [← hfollows, ← htraffic]
      simp [handlerTraffic, frameRead]

end Handling

/-! ## What each of them writes -/

theorem completes_handlerWrite (frameType : UInt8) (payload : List UInt8)
    (world : HandlerWorld) :
    handlerReferenceEnv.Completes (Handler.writeFrame frameType payload) world
      [.asked (.writeFrame frameType payload) (.ok ())] () world :=
  .call () rfl rfl

theorem completes_handlerFinish (world : HandlerWorld) :
    handlerReferenceEnv.Completes Handler.finish world [.asked .finish (.ok ())] () world :=
  .call () rfl rfl

/-- The one run of a task's handler returns, and this is what it reads and writes. -/
def HasTraffic (server : ServerConfig) (task : Task) (traffic : List (Option SentFrame)) :
    Prop :=
  ∃ events world, handlerTraffic events = traffic ∧ handlerReferenceEnv.Completes
    (task.program server) ⟨taskRecv task⟩ events () world

theorem Handles.hasTraffic {α β σ : Type} {fromU8 : UInt8 → Except ParseError α}
    {body : σ → Option (α × List UInt8) → HandlerProg (σ ⊕ β)} {value : β} {state : σ}
    {server : ServerConfig} {frames : List SentFrame} {traffic : List (Option SentFrame)}
    {cuts : List Nat} {task : Task} {rest : β → HandlerProg Unit} {events : List HandlerEvent}
    (h : Handles fromU8 body value state frames traffic)
    (hrecv : taskRecv task = ⟨wire frames, cuts, none⟩)
    (hprogram : task.program server =
      (Prog.iterate state fun state => Handler.nextFrame fromU8 >>= body state) >>= rest)
    (hrest : ∀ world, handlerReferenceEnv.Completes (rest value) world events () world)
    (hsilent : handlerTraffic events = []) : HasTraffic server task traffic := by
  obtain ⟨events', cuts', htraffic, hrun⟩ := h.completes cuts
  refine ⟨events' ++ events, ⟨⟨[], cuts', none⟩⟩, ?_, ?_⟩
  · rw [handlerTraffic_append, htraffic, hsilent, List.append_nil]
  · rw [hprogram, hrecv]
    exact hrun.bind (hrest _)

/-! ## The four handlers -/

theorem completes_handlerAddU64 {server : ServerConfig} {a b : UInt64}
    (hbound : a.toNat + b.toNat < 2 ^ 64) (world : HandlerWorld) :
    handlerReferenceEnv.Completes (Handler.addU64 server a b) world [] (a + b) world := by
  rw [Handler.addU64, Handler.add, if_neg (by omega)]
  exact .pure _

theorem completes_handlerAddU32 {server : ServerConfig} {a b : UInt32}
    (hbound : a.toNat + b.toNat < 2 ^ 32) (world : HandlerWorld) :
    handlerReferenceEnv.Completes (Handler.addU32 server a b) world [] (a + b) world := by
  rw [Handler.addU32, Handler.add, if_neg (by omega)]
  exact .pure _

def inputBody (server : ServerConfig) (count : UInt64) :
    Option (InputFrameType × List UInt8) → HandlerProg (UInt64 ⊕ UInt64)
  | none => return .inr count
  | some (kind, payload) => do
      handleInputFrame kind payload
      let count ← Handler.addU64 server count 1
      return .inl count

theorem traffic_input (setup : TestSetup) :
    HasTraffic setup.server (.input (setup.clientStream (.uni 0))) [none, none, none, none] := by
  have hkey (event : KeyEvent) (hparse : KeyEvent.parse (event.writeTo []) = .ok event)
      (world : HandlerWorld) : handlerReferenceEnv.Completes
      (handleInputFrame .keyEvent (event.writeTo [])) world [.told (.keyEvent event)] ()
      world :=
    .bind (.lift (parsed_eq_ok.mpr hparse)) (.say _)
  have htext (world : HandlerWorld) : handlerReferenceEnv.Completes
      (handleInputFrame .textInput (TextInput.writeTo ⟨"olá, mundo 🌍"⟩ [])) world
      [.told (.textInput "olá, mundo 🌍")] () world := by
    have hparse : TextInput.parse (TextInput.writeTo ⟨"olá, mundo 🌍"⟩ []) =
        .ok ⟨"olá, mundo 🌍"⟩ := by decide +kernel
    exact .bind (.lift (parsed_eq_ok.mpr hparse)) (.say _)
  have hcounted {count : UInt64} (hbound : count.toNat + (1 : UInt64).toNat < 2 ^ 64)
      {kind : InputFrameType} {payload : List UInt8} {events : List HandlerEvent}
      (h : ∀ world, handlerReferenceEnv.Completes (handleInputFrame kind payload) world
        events () world) (world : HandlerWorld) :
      handlerReferenceEnv.Completes (inputBody setup.server count (some (kind, payload)))
        world (events ++ ([] ++ [])) (.inl (count + 1)) world :=
    (h world).bind ((completes_handlerAddU64 hbound world).bind (.pure _))
  have hhandles : Handles InputFrameType.fromU8 (inputBody setup.server) 3 0
      (setup.writes (.uni 0)) [none, none, none, none] :=
    .frame (by decide) rfl (hcounted (by decide) (hkey TestClient.keyADown rfl))
      (.frame (by decide) rfl (hcounted (by decide) (hkey
        { TestClient.keyADown with flags := 0x00 } rfl))
        (.frame (by decide +kernel) rfl (hcounted (by decide) htext) (.ended rfl) rfl) rfl)
      rfl
  exact hhandles.hasTraffic rfl rfl (fun _ => .say _) rfl

/-- The body of the loop of a handler that keeps no state. -/
def eachBody {α : Type} (handleFrame : α → List UInt8 → HandlerProg Unit) :
    Unit → Option (α × List UInt8) → HandlerProg (Unit ⊕ Unit)
  | (), none => return .inr ()
  | (), some (kind, payload) => do
      handleFrame kind payload
      return .inl ()

theorem eachFrame_body {α : Type} (fromU8 : UInt8 → Except ParseError α)
    (handleFrame : α → List UInt8 → HandlerProg Unit) :
    Handler.eachFrame fromU8 handleFrame =
      Prog.iterate () fun state => Handler.nextFrame fromU8 >>= eachBody handleFrame state := by
  refine congrArg (Prog.iterate _) (funext fun state => congrArg (Prog.bind _) ?_)
  funext next
  cases next <;> rfl

theorem completes_eachBody {α : Type} {handleFrame : α → List UInt8 → HandlerProg Unit}
    {kind : α} {payload : List UInt8} {events : List HandlerEvent}
    (h : ∀ world, handlerReferenceEnv.Completes (handleFrame kind payload) world events ()
      world) (world : HandlerWorld) :
    handlerReferenceEnv.Completes (eachBody handleFrame () (some (kind, payload))) world
      (events ++ []) (.inl ()) world :=
  (h world).bind (.pure _)

/-- A handler that says so when its loop is over, and finishes its stream. -/
theorem Handles.hasTraffic_closed {α σ : Type} {fromU8 : UInt8 → Except ParseError α}
    {body : σ → Option (α × List UInt8) → HandlerProg (σ ⊕ Unit)} {state : σ}
    {server : ServerConfig} {frames : List SentFrame} {traffic : List (Option SentFrame)}
    {cuts : List Nat} {task : Task} {loop : HandlerProg Unit} {log : HandlerLog}
    (h : Handles fromU8 body () state frames traffic)
    (hrecv : taskRecv task = ⟨wire frames, cuts, none⟩)
    (hloop : loop = Prog.iterate state fun state => Handler.nextFrame fromU8 >>= body state)
    (hprogram : task.program server =
      loop >>= fun _ => .say log >>= fun _ => Handler.finish) :
    HasTraffic server task traffic := by
  have hclosed (world : HandlerWorld) : handlerReferenceEnv.Completes
      (.say log >>= fun _ => Handler.finish) world
      ([.told log] ++ [.asked .finish (.ok ())]) () world :=
    .bind (.say _) (completes_handlerFinish _)
  exact h.hasTraffic hrecv (hloop ▸ hprogram) hclosed rfl

def fileBody (server : ServerConfig) (state : FileState) :
    Option (FileFrameType × List UInt8) → HandlerProg (FileState ⊕ Unit)
  | none => return .inr ()
  | some (kind, payload) => do
      let state ← handleFileFrame server state kind payload
      return .inl state

theorem fileLoop_body (server : ServerConfig) :
    frameLoop FileFrameType.fromU8 (handleFileFrame server) ⟨0, 0⟩ =
      Prog.iterate ⟨0, 0⟩ fun state =>
        Handler.nextFrame FileFrameType.fromU8 >>= fileBody server state := by
  refine congrArg (Prog.iterate _) (funext fun state => congrArg (Prog.bind _) ?_)
  funext next
  cases next <;> rfl

/-- The chunk as the server takes it apart. -/
def receivedChunk : Chunk := ⟨1, 0, 0, TestClient.payloadBytes⟩

theorem layoutChunk_sent : layoutChunk TestClient.chunk = receivedChunk := rfl

theorem completes_fileChunk (server : ServerConfig) (transferId : UInt32)
    (world : HandlerWorld) : handlerReferenceEnv.Completes
      (handleFileFrame server ⟨transferId, 0⟩ .chunk TestClient.chunk) world
      [.told (.chunk 1 0 0 TestClient.payloadBytes.length
          (fromUtf8Lossy TestClient.payloadBytes)),
        .asked (.writeFrame FileFrameType.ackChunk.toU8 (ackChunk receivedChunk)) (.ok ()),
        .told (.ackChunk 1 0)] ⟨transferId, 1⟩ world := by
  rw [handleFileFrame_long (show 16 ≤ TestClient.chunk.length by decide), layoutChunk_sent]
  exact .bind (.say _) (.bind (completes_handlerWrite _ _ _)
    (.bind (completes_handlerAddU32 (show (0 : UInt32).toNat + (1 : UInt32).toNat < 2 ^ 32 by
      decide) _) (.bind (.say _) (.pure _))))

/-- Three frames of the client's, the second of which is answered. -/
def servedTraffic (reply : SentFrame) : List (Option SentFrame) :=
  [none, none, some reply, none, none]

namespace TestSetup.Agreed

variable {setup : TestSetup} (h : setup.Agreed)

include h

theorem read_payload {value : Cbor} (text : String)
    (hvalue : value ∈ clientValues setup.server) :
    withContext text (setup.server.cib.read (setup.payload value)) = .ok value :=
  withContext_eq_ok.mpr (Ciborium.read_eq_ok.mpr (h.exchange.fromClient hvalue).readBack)

theorem payload_fits {value : Cbor} (hvalue : value ∈ clientValues setup.server) :
    (setup.payload value).length ≤ maxFrameLength :=
  (h.exchange.fromClient hvalue).fits

theorem write_payload {value : Cbor} (hvalue : value ∈ serverValues setup.server) :
    setup.server.cib.write value = .ok (setup.payload value) :=
  Ciborium.write_eq_ok.mpr (h.exchange.fromServer hvalue).written

theorem traffic_clipboard :
    HasTraffic setup.server (.clipboard (setup.clientStream (.bi 0)))
      (servedTraffic (ClipboardFrameType.content.toU8, setup.payload contentAnswer)) := by
  have hoffer : TestClient.offerTypes ∈ clientValues setup.server := by simp [clientValues]
  have hrequest : TestClient.requestContent TestClient.plainText 42 ∈
      clientValues setup.server := by simp [clientValues]
  have hcontent : TestClient.contentToSend ∈ clientValues setup.server := by
    simp [clientValues]
  have hanswer : contentAnswer ∈ serverValues setup.server := by simp [serverValues]
  have hoffered (world : HandlerWorld) : handlerReferenceEnv.Completes
      (handleClipboardFrame setup.server .offerTypes (setup.payload TestClient.offerTypes))
      world [.told (.offerTypes [TestClient.plainText])] () world :=
    .bind (.lift (h.read_payload _ hoffer)) (.say _)
  have hparse : parseRequestContent (TestClient.requestContent TestClient.plainText 42) =
      ⟨42, TestClient.plainText⟩ := parseRequestContent_sent _ _
  have hrequested (world : HandlerWorld) : handlerReferenceEnv.Completes
      (handleClipboardFrame setup.server .requestContent
        (setup.payload (TestClient.requestContent TestClient.plainText 42))) world
      [.told (.requestContent ⟨42, TestClient.plainText⟩),
        .asked (.writeFrame ClipboardFrameType.content.toU8 (setup.payload contentAnswer))
          (.ok ()),
        .told (.contentSent 42 (clipboardBody TestClient.plainText).length)] () world := by
    refine .bind (.lift (h.read_payload _ hrequest)) ?_
    rw [hparse]
    exact .bind (.say _) (.bind (.lift (h.write_payload hanswer))
      (.bind (completes_handlerWrite _ _ _) (.say _)))
  let content := parseClipboardContent TestClient.contentToSend
  have hpreview (world : HandlerWorld) : handlerReferenceEnv.Completes
      (previewOf content.bytes) world [] (fromUtf8Lossy content.bytes) world := by
    have hshort : ¬(fromUtf8Lossy content.bytes).length > 80 := by decide +kernel
    rw [previewOf, if_neg hshort]
    exact .pure _
  have hreceived (world : HandlerWorld) : handlerReferenceEnv.Completes
      (handleClipboardFrame setup.server .content (setup.payload TestClient.contentToSend))
      world [.told (.contentReceived content.requestId content.mime content.bytes.length
        (fromUtf8Lossy content.bytes))] () world :=
    .bind (.lift (h.read_payload _ hcontent)) (.bind (hpreview _) (.say _))
  have hhandles : Handles ClipboardFrameType.fromU8
      (eachBody (handleClipboardFrame setup.server)) () () (setup.writes (.bi 0))
      (servedTraffic (ClipboardFrameType.content.toU8, setup.payload contentAnswer)) :=
    .frame (h.payload_fits hoffer) rfl (completes_eachBody hoffered)
      (.frame (h.payload_fits hrequest) rfl (completes_eachBody hrequested)
        (.frame (h.payload_fits hcontent) rfl (completes_eachBody hreceived) (.ended rfl)
          rfl) rfl) rfl
  exact hhandles.hasTraffic_closed rfl (eachFrame_body _ _) rfl

theorem traffic_chat : HasTraffic setup.server (.chat (setup.clientStream (.bi 1)))
    (servedTraffic (ChatFrameType.chatMessage.toU8, setup.payload echoAnswer)) := by
  have hmessage : TestClient.chatMessage ∈ clientValues setup.server := by
    simp [clientValues]
  have hanswer : echoAnswer ∈ serverValues setup.server := by simp [serverValues]
  have hstart : TestClient.typingIndicator "start" ∈ clientValues setup.server := by
    simp [clientValues]
  have hstop : TestClient.typingIndicator "stop" ∈ clientValues setup.server := by
    simp [clientValues]
  have htyping {state : String}
      (hvalue : TestClient.typingIndicator state ∈ clientValues setup.server)
      (world : HandlerWorld) : handlerReferenceEnv.Completes
      (handleChatFrame setup.server .typingIndicator
        (setup.payload (TestClient.typingIndicator state))) world
      [.told (.typingIndicator (parseTypingIndicator (TestClient.typingIndicator state)))] ()
      world :=
    .bind (.lift (h.read_payload _ hvalue)) (.say _)
  let body := "olá from the test client! how are things server-side?"
  have hparse : parseChatMessage TestClient.chatMessage = ⟨7, "openrd-test-client", body, 0⟩ :=
    rfl
  have hechoed (world : HandlerWorld) : handlerReferenceEnv.Completes
      (handleChatFrame setup.server .chatMessage (setup.payload TestClient.chatMessage))
      world
      [.told (.chatMessage ⟨7, "openrd-test-client", body, 0⟩),
        .asked (.writeFrame ChatFrameType.chatMessage.toU8 (setup.payload echoAnswer))
          (.ok ()),
        .told (.chatEchoed ("[server-echo] " ++ body))] () world := by
    refine .bind (.lift (h.read_payload _ hmessage)) ?_
    rw [hparse]
    exact .bind (.say _) (.bind (completes_handlerAddU64 (by decide) _)
      (.bind (completes_handlerAddU64 (by decide) _) (.bind (.lift (h.write_payload hanswer))
        (.bind (completes_handlerWrite _ _ _) (.say _)))))
  have hhandles : Handles ChatFrameType.fromU8 (eachBody (handleChatFrame setup.server)) ()
      () (setup.writes (.bi 1))
      (servedTraffic (ChatFrameType.chatMessage.toU8, setup.payload echoAnswer)) :=
    .frame (h.payload_fits hstart) rfl (completes_eachBody (htyping hstart))
      (.frame (h.payload_fits hmessage) rfl (completes_eachBody hechoed)
        (.frame (h.payload_fits hstop) rfl (completes_eachBody (htyping hstop)) (.ended rfl)
          rfl) rfl) rfl
  exact hhandles.hasTraffic_closed rfl (eachFrame_body _ _) rfl

theorem traffic_file : HasTraffic setup.server (.file (setup.clientStream (.bi 2)))
    (servedTraffic (FileFrameType.ackChunk.toU8, ackChunk receivedChunk)) := by
  have hmanifest : TestClient.manifest ∈ clientValues setup.server := by simp [clientValues]
  have hend : TestClient.endTransfer ∈ clientValues setup.server := by simp [clientValues]
  let manifest := parseFileManifest TestClient.manifest
  have hstarted (world : HandlerWorld) : handlerReferenceEnv.Completes
      (handleFileFrame setup.server ⟨0, 0⟩ .startTransfer
        (setup.payload TestClient.manifest)) world
      [.told (.manifest manifest .startTransfer)] ⟨manifest.transferId.toUInt32, 0⟩ world :=
    .bind (.lift (h.read_payload _ hmanifest)) (.bind (.say _) (.pure _))
  have hended (world : HandlerWorld) : handlerReferenceEnv.Completes
      (handleFileFrame setup.server ⟨manifest.transferId.toUInt32, 1⟩ .endTransfer
        (setup.payload TestClient.endTransfer)) world
      [.told (.endTransfer manifest.transferId.toUInt32 1)]
      ⟨manifest.transferId.toUInt32, 1⟩ world :=
    .bind (.say _) (.pure _)
  have hbody {state state' : FileState} {kind : FileFrameType} {payload : List UInt8}
      {events : List HandlerEvent}
      (hframe : ∀ world, handlerReferenceEnv.Completes
        (handleFileFrame setup.server state kind payload) world events state' world)
      (world : HandlerWorld) : handlerReferenceEnv.Completes
      (fileBody setup.server state (some (kind, payload))) world (events ++ []) (.inl state')
      world :=
    (hframe world).bind (.pure _)
  have hhandles : Handles FileFrameType.fromU8 (fileBody setup.server) () ⟨0, 0⟩
      (setup.writes (.bi 2))
      (servedTraffic (FileFrameType.ackChunk.toU8, ackChunk receivedChunk)) :=
    .frame (h.payload_fits hmanifest) rfl (hbody hstarted)
      (.frame (by decide) rfl (hbody (completes_fileChunk setup.server _))
        (.frame (h.payload_fits hend) rfl (hbody hended) (.ended rfl) rfl) rfl) rfl
  exact hhandles.hasTraffic_closed rfl (fileLoop_body _) (handleFileStream_eq _)

end TestSetup.Agreed

/-! ## The sender of cursor moves -/

def cursorFrame (move : Int × Int) : SentFrame :=
  (CursorFrameType.cursorMove.toU8, i32ToLeBytes move.1 ++ i32ToLeBytes move.2)

theorem completes_sendMovesFrom (seq : Nat) (moves : List (Int × Int)) (world : HandlerWorld) :
    ∃ events, handlerTraffic events = moves.map (some ∘ cursorFrame) ∧
      handlerReferenceEnv.Completes (sendMovesFrom seq moves) world events () world := by
  induction moves generalizing seq with
  | nil => exact ⟨[], rfl, .pure _⟩
  | cons move moves ih =>
      obtain ⟨events, hwritten, hrest⟩ := ih (seq + 1)
      have hsleep : handlerReferenceEnv.Completes (.call (.sleep 20) .ok : HandlerProg Unit)
          world [.asked (.sleep 20) ()] () world := .call () rfl rfl
      refine ⟨_, ?_, (completes_handlerWrite _ _ _).bind ((Env.Completes.say _).bind
        (hsleep.bind hrest))⟩
      rw [List.map_cons, ← hwritten]
      rfl

theorem traffic_cursor (server : ServerConfig) (stream : Nat) :
    HasTraffic server (.cursor stream) (cursorMoves.map (some ∘ cursorFrame)) := by
  obtain ⟨events, hwritten, hmoves⟩ := completes_sendMovesFrom 0 cursorMoves ⟨⟨[], [], none⟩⟩
  have hclosed (world : HandlerWorld) : handlerReferenceEnv.Completes (do
      Handler.finish
      .say .cursorFinished : HandlerProg Unit) world
      ([.asked .finish (.ok ())] ++ [.told .cursorFinished]) () world :=
    (completes_handlerFinish _).bind (.say _)
  refine ⟨_, _, ?_, hmoves.bind (hclosed _)⟩
  rw [handlerTraffic_append, hwritten]
  exact List.append_nil _

end OpenRD.Session
