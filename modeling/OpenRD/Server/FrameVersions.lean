import OpenRD.Foundation.Progress
import OpenRD.Server.Handlers

/-!
# Which frames the server looks into

Each stage of the server checks the header of a frame before it decodes the payload.
The hello exchange checks the version byte; the other stages check the type only.
-/

namespace OpenRD.Server

open OpenRD.Foundation OpenRD.Proto Handler

/-! ## Stages -/

/--
Of two frames with this version and type, `stage` can make different things: it
decodes their payloads, with or without the CBOR library.
-/
def LooksInto {β : Type*} (stage : Ciborium → List UInt8 → β) (version : ProtocolVersion)
    (frameType : UInt8) : Prop :=
  ∃ cib cib' payload payload', payload.length ≤ maxFrameLength ∧
    payload'.length ≤ maxFrameLength ∧
    stage cib (Frame.envelope version frameType payload) ≠
      stage cib' (Frame.envelope version frameType payload')

/-- What a handler does with a frame once it is read. -/
def Handler.onFrame {α β : Type} (fromU8 : UInt8 → Except ParseError α)
    (handle : α → List UInt8 → HandlerProg β) (frameBytes : List UInt8) :
    HandlerProg β := do
  let (frame, _) ← parsed (Frame.parse frameBytes)
  let kind ← parsed (fromU8 frame.header.frameType)
  handle kind frame.payload

/-- The places at which the server reads a frame of its client. -/
inductive Stage where
  | hello
  | auth
  | dispatch
  | input
  | clipboard
  | chat
  | file
  deriving DecidableEq

variable (server : ServerConfig)

/-- The stage decodes, answers or counts frames with this version and type. -/
def Stage.ActsOn : Stage → ProtocolVersion → UInt8 → Prop
  | .hello => LooksInto receiveClientHello
  | .auth => LooksInto receiveAuthRequest
  | .dispatch => LooksInto receiveOpenChannel
  | .input => LooksInto fun _ => onFrame InputFrameType.fromU8 handleInputFrame
  | .clipboard => LooksInto fun cib =>
      onFrame ClipboardFrameType.fromU8 (handleClipboardFrame { server with cib })
  | .chat => LooksInto fun cib =>
      onFrame ChatFrameType.fromU8 (handleChatFrame { server with cib })
  | .file => LooksInto fun cib frameBytes state =>
      onFrame FileFrameType.fromU8 (handleFileFrame { server with cib } state) frameBytes

/-- The frame types a stage does not turn away or merely log. -/
def Stage.Takes : Stage → UInt8 → Prop
  | .hello, frameType => frameType = ControlFrameType.clientHello.toU8
  | .auth, frameType => frameType = ControlFrameType.authRequest.toU8
  | .dispatch, frameType => frameType = ControlFrameType.openChannel.toU8
  | .input, frameType => ∃ kind, InputFrameType.fromU8 frameType = .ok kind
  | .clipboard, frameType => ∃ kind, ClipboardFrameType.fromU8 frameType = .ok kind ∧
      kind ∈ [.offerTypes, .requestContent, .content]
  | .chat, frameType => ∃ kind, ChatFrameType.fromU8 frameType = .ok kind
  | .file, frameType => ∃ kind, FileFrameType.fromU8 frameType = .ok kind ∧
      kind ∈ [.startTransfer, .manifest, .chunk]

/-! ## Checked headers -/

section Checks

variable {version : ProtocolVersion} {frameType : UInt8}

variable {β : Type*} {stage : Ciborium → List UInt8 → β}

theorem not_looksInto (refused : β) (hstage : ∀ cib payload,
    payload.length ≤ maxFrameLength →
      stage cib (Frame.envelope version frameType payload) = refused) :
    ¬LooksInto stage version frameType := by
  rintro ⟨cib, cib', payload, payload', hfits, hfits', hne⟩
  rw [hstage cib payload hfits, hstage cib' payload' hfits'] at hne
  exact hne rfl

theorem looksInto (decode : Ciborium → List UInt8 → β)
    (hstage : ∀ cib payload, payload.length ≤ maxFrameLength →
      stage cib (Frame.envelope version frameType payload) = decode cib payload)
    {cib cib' : Ciborium} {payload payload' : List UInt8}
    (hfits : payload.length ≤ maxFrameLength) (hfits' : payload'.length ≤ maxFrameLength)
    (hne : decode cib payload ≠ decode cib' payload') :
    LooksInto stage version frameType := by
  refine ⟨cib, cib', payload, payload', hfits, hfits', ?_⟩
  rwa [hstage cib payload hfits, hstage cib' payload' hfits']

/-- A library that can read nothing, and says so in the given words. -/
def unreadable (text : String) : Ciborium := ⟨fun _ => .error text, fun _ => .error text⟩

/-- What passes on the library's error text decodes the payload with the library. -/
theorem looksInto_of_passesOn (decode : Ciborium → List UInt8 → β)
    (hstage : ∀ cib payload, payload.length ≤ maxFrameLength →
      stage cib (Frame.envelope version frameType payload) = decode cib payload)
    (hne : decode (unreadable "too short") [] ≠ decode (unreadable "malformed") []) :
    LooksInto stage version frameType :=
  looksInto decode hstage (Nat.zero_le _) (Nat.zero_le _) hne

theorem error_ne_error {α : Type} {error error' : Error} (h : error ≠ error') :
    (.error error : Except Error α) ≠ .error error' :=
  fun heq => h (Except.error.inj heq)

theorem looksInto_hello :
    LooksInto receiveClientHello version frameType ↔
      frameType = ControlFrameType.clientHello.toU8 ∧ version = ProtocolVersion.v0 := by
  constructor
  · contrapose
    intro hheader
    by_cases hversion : version = ProtocolVersion.v0
    · have htype : frameType ≠ ControlFrameType.clientHello.toU8 :=
        fun htype => hheader ⟨htype, hversion⟩
      refine not_looksInto
        (.error (.msg s!"expected ClientHello (0x01), got 0x{hexByte frameType}")) ?_
      intro cib payload hfits
      simp [receiveClientHello, Frame.parse_envelope _ _ hfits, parsed, hversion, htype]
    · refine not_looksInto
        (.error (.msg s!"unsupported protocol version ProtocolVersion({version.value})")) ?_
      intro cib payload hfits
      simp [receiveClientHello, Frame.parse_envelope _ _ hfits, parsed, hversion]
  · rintro ⟨rfl, rfl⟩
    refine looksInto_of_passesOn (fun cib payload =>
      withContext "decode ClientHello CBOR" (cib.read payload) >>= parseClientHello) ?_
      (error_ne_error (by decide))
    intro cib payload hfits
    simp [receiveClientHello, Frame.parse_envelope _ _ hfits, parsed]

theorem looksInto_auth :
    LooksInto receiveAuthRequest version frameType ↔
      frameType = ControlFrameType.authRequest.toU8 := by
  constructor
  · contrapose
    intro htype
    refine not_looksInto
      (.error (.msg s!"expected AuthRequest (0x03), got 0x{hexByte frameType}")) ?_
    intro cib payload hfits
    simp [receiveAuthRequest, Frame.parse_envelope _ _ hfits, parsed, htype]
  · rintro rfl
    refine looksInto_of_passesOn (fun cib payload =>
      withContext "decode AuthRequest CBOR" (cib.read payload) >>= parseAuthRequest) ?_
      (error_ne_error (by decide))
    intro cib payload hfits
    simp [receiveAuthRequest, Frame.parse_envelope _ _ hfits, parsed]

theorem looksInto_dispatch :
    LooksInto receiveOpenChannel version frameType ↔
      frameType = ControlFrameType.openChannel.toU8 := by
  constructor
  · contrapose
    intro htype
    refine not_looksInto (.ok none) fun cib payload hfits => ?_
    simp [receiveOpenChannel, Frame.parse_envelope _ _ hfits, parsed, htype, pure,
      Except.pure]
  · rintro rfl
    refine looksInto_of_passesOn (fun cib payload => do
      let val ← withContext "decode OpenChannel" (cib.read payload)
      let request ← parseOpenChannel val
      return some request) ?_ (error_ne_error (by decide))
    intro cib payload hfits
    simp [receiveOpenChannel, Frame.parse_envelope _ _ hfits, parsed]

/-! ## The handlers -/

variable {α γ : Type} {fromU8 : UInt8 → Except ParseError α}

theorem onFrame_envelope {handle : α → List UInt8 → HandlerProg γ} {payload : List UInt8}
    (hfits : payload.length ≤ maxFrameLength) :
    onFrame fromU8 handle (Frame.envelope version frameType payload) =
      liftM (parsed (fromU8 frameType)) >>= fun kind => handle kind payload := by
  rw [onFrame, Frame.parse_envelope version frameType hfits]
  rfl

theorem onFrame_unknown {handle : α → List UInt8 → HandlerProg γ} {payload : List UInt8}
    {error : ParseError} (hfits : payload.length ≤ maxFrameLength)
    (hkind : fromU8 frameType = .error error) :
    onFrame fromU8 handle (Frame.envelope version frameType payload) =
      .fail (.parse error) := by
  rw [onFrame_envelope hfits, hkind]
  rfl

theorem onFrame_known {handle : α → List UInt8 → HandlerProg γ} {payload : List UInt8}
    {kind : α} (hfits : payload.length ≤ maxFrameLength)
    (hkind : fromU8 frameType = .ok kind) :
    onFrame fromU8 handle (Frame.envelope version frameType payload) =
      handle kind payload := by
  rw [onFrame_envelope hfits, hkind]
  rfl

theorem looksInto_input :
    LooksInto (fun _ => onFrame InputFrameType.fromU8 handleInputFrame) version frameType ↔
      ∃ kind, InputFrameType.fromU8 frameType = .ok kind := by
  cases hkind : InputFrameType.fromU8 frameType with
  | error error =>
      refine iff_of_false (not_looksInto (.fail (.parse error)) ?_) nofun
      exact fun cib payload hfits => onFrame_unknown hfits hkind
  | ok kind =>
      refine iff_of_true ?_ ⟨kind, rfl⟩
      have hne : handleInputFrame kind [] ≠ handleInputFrame kind (List.replicate 13 0xFF) := by
        cases kind <;> exact nofun
      have hshort : ([] : List UInt8).length ≤ maxFrameLength := Nat.zero_le _
      refine ⟨unreadable "", unreadable "", [], List.replicate 13 0xFF, hshort, by decide, ?_⟩
      dsimp only
      rwa [onFrame_known hshort hkind, onFrame_known (by decide) hkind]

theorem fail_ne_fail {error error' : Error} (h : error ≠ error') :
    (Prog.fail error : HandlerProg γ) ≠ .fail error' :=
  fun heq => h (Prog.fail.inj heq)

theorem looksInto_clipboard :
    LooksInto (fun cib => onFrame ClipboardFrameType.fromU8
        (handleClipboardFrame { server with cib })) version frameType ↔
      ∃ kind, ClipboardFrameType.fromU8 frameType = .ok kind ∧
        kind ∈ [.offerTypes, .requestContent, .content] := by
  cases hkind : ClipboardFrameType.fromU8 frameType with
  | error error =>
      refine iff_of_false (not_looksInto (.fail (.parse error)) ?_) nofun
      exact fun cib payload hfits => onFrame_unknown hfits hkind
  | ok kind =>
      have hknown (cib : Ciborium) (payload : List UInt8)
          (hfits : payload.length ≤ maxFrameLength) :
          onFrame ClipboardFrameType.fromU8 (handleClipboardFrame { server with cib })
              (Frame.envelope version frameType payload) =
            handleClipboardFrame { server with cib } kind payload :=
        onFrame_known hfits hkind
      cases kind with
      | offerTypes | requestContent | content =>
          refine iff_of_true (looksInto_of_passesOn _ hknown ?_) ⟨_, rfl, by decide⟩
          exact fail_ne_fail nofun
      | contentChunk | contentEnd =>
          refine iff_of_false (not_looksInto _ hknown) ?_
          rintro ⟨kind, ⟨⟩, hmem⟩
          exact absurd hmem (by decide)

theorem looksInto_chat :
    LooksInto (fun cib => onFrame ChatFrameType.fromU8
        (handleChatFrame { server with cib })) version frameType ↔
      ∃ kind, ChatFrameType.fromU8 frameType = .ok kind := by
  cases hkind : ChatFrameType.fromU8 frameType with
  | error error =>
      refine iff_of_false (not_looksInto (.fail (.parse error)) ?_) nofun
      exact fun cib payload hfits => onFrame_unknown hfits hkind
  | ok kind =>
      have hknown (cib : Ciborium) (payload : List UInt8)
          (hfits : payload.length ≤ maxFrameLength) :
          onFrame ChatFrameType.fromU8 (handleChatFrame { server with cib })
              (Frame.envelope version frameType payload) =
            handleChatFrame { server with cib } kind payload :=
        onFrame_known hfits hkind
      refine iff_of_true (looksInto_of_passesOn _ hknown ?_) ⟨_, rfl⟩
      cases kind <;> exact fail_ne_fail nofun

theorem looksInto_file :
    LooksInto (fun cib frameBytes state => onFrame FileFrameType.fromU8
        (handleFileFrame { server with cib } state) frameBytes) version frameType ↔
      ∃ kind, FileFrameType.fromU8 frameType = .ok kind ∧
        kind ∈ [.startTransfer, .manifest, .chunk] := by
  cases hkind : FileFrameType.fromU8 frameType with
  | error error =>
      refine iff_of_false (not_looksInto (fun _ => .fail (.parse error)) ?_) nofun
      exact fun cib payload hfits => funext fun state => onFrame_unknown hfits hkind
  | ok kind =>
      have hknown (cib : Ciborium) (payload : List UInt8)
          (hfits : payload.length ≤ maxFrameLength) :
          (fun state => onFrame FileFrameType.fromU8
              (handleFileFrame { server with cib } state)
              (Frame.envelope version frameType payload)) =
            fun state => handleFileFrame { server with cib } state kind payload :=
        funext fun state => onFrame_known hfits hkind
      by_cases htaken : kind ∈ [.startTransfer, .manifest, .chunk]
      · refine iff_of_true ?_ ⟨kind, rfl, htaken⟩
        rcases List.mem_cons.mp htaken with rfl | htaken
        · refine looksInto_of_passesOn _ hknown fun heq => ?_
          exact absurd (congrFun heq ⟨0, 0⟩) (fail_ne_fail nofun)
        rcases List.mem_cons.mp htaken with rfl | htaken
        · refine looksInto_of_passesOn _ hknown fun heq => ?_
          exact absurd (congrFun heq ⟨0, 0⟩) (fail_ne_fail nofun)
        · cases List.mem_singleton.mp htaken
          refine ⟨unreadable "", unreadable "", [], [0], Nat.zero_le _, by decide, ?_⟩
          dsimp only
          rw [hknown _ _ (Nat.zero_le _), hknown _ _ (by decide)]
          exact fun heq => absurd (congrFun heq ⟨0, 0⟩) (fail_ne_fail (by decide))
      · refine iff_of_false
          (not_looksInto (fun state => handleFileFrame server state kind []) ?_) ?_
        · intro cib payload hfits
          refine (hknown cib payload hfits).trans ?_
          cases kind <;> first | rfl | exact absurd (by decide) htaken
        · rintro ⟨_, ⟨⟩, hmem⟩
          exact htaken hmem

end Checks

/-- Only the hello exchange checks the version byte. -/
theorem actsOn_iff {stage : Stage} {version : ProtocolVersion} {frameType : UInt8} :
    stage.ActsOn server version frameType ↔
      stage.Takes frameType ∧ (stage = .hello → version = ProtocolVersion.v0) := by
  cases stage with
  | hello => simpa [Stage.ActsOn, Stage.Takes] using looksInto_hello
  | auth => simpa [Stage.ActsOn, Stage.Takes] using looksInto_auth
  | dispatch => simpa [Stage.ActsOn, Stage.Takes] using looksInto_dispatch
  | input => simpa [Stage.ActsOn, Stage.Takes] using looksInto_input
  | clipboard => simpa [Stage.ActsOn, Stage.Takes] using looksInto_clipboard server
  | chat => simpa [Stage.ActsOn, Stage.Takes] using looksInto_chat server
  | file => simpa [Stage.ActsOn, Stage.Takes] using looksInto_file server

end OpenRD.Server
