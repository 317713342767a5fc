import OpenRD.Proto.Error

/-!
# Channel kinds and per-channel frame types
-/

namespace OpenRD.Proto

structure ChannelKind where
  value : UInt16
  deriving DecidableEq, Repr

namespace ChannelKind

def control : ChannelKind := ⟨0x0001⟩
def display : ChannelKind := ⟨0x0002⟩
def cursor : ChannelKind := ⟨0x0003⟩
def input : ChannelKind := ⟨0x0004⟩
def clipboard : ChannelKind := ⟨0x0005⟩
def file : ChannelKind := ⟨0x0006⟩
def audio : ChannelKind := ⟨0x0007⟩
def stats : ChannelKind := ⟨0x0008⟩
def chat : ChannelKind := ⟨0x0009⟩

def toU64 (kind : ChannelKind) : UInt64 := kind.value.toUInt64

end ChannelKind

inductive ControlFrameType where
  | clientHello
  | serverHello
  | authRequest
  | authChallenge
  | authResult
  | openChannel
  | openChannelAck
  | closeChannel
  | consentRequest
  | consentResponse
  | sessionEvent
  | error
  | requestKeyframe
  | ping
  | pong
  | stats
  | sessionResume
  | sessionResumed
  deriving DecidableEq, Repr

def ControlFrameType.toU8 : ControlFrameType → UInt8
  | .clientHello => 0x01
  | .serverHello => 0x02
  | .authRequest => 0x03
  | .authChallenge => 0x04
  | .authResult => 0x05
  | .openChannel => 0x06
  | .openChannelAck => 0x07
  | .closeChannel => 0x08
  | .consentRequest => 0x09
  | .consentResponse => 0x0A
  | .sessionEvent => 0x0B
  | .error => 0x0C
  | .requestKeyframe => 0x0D
  | .ping => 0x0E
  | .pong => 0x0F
  | .stats => 0x10
  | .sessionResume => 0x11
  | .sessionResumed => 0x12

/-- The `from_u8` of a channel: the frame type a byte stands for. -/
def frameTypeFromU8 {α : Type} (channel : String) (table : List (UInt8 × α))
    (value : UInt8) : Except ParseError α :=
  match table.lookup value with
  | some frameType => .ok frameType
  | none => .error (.unknownFrameType value channel)

inductive DisplayFrameType where
  | frameHeader
  | frameSlice
  | frameEnd
  | streamParameters
  deriving DecidableEq, Repr

namespace DisplayFrameType

def toU8 : DisplayFrameType → UInt8
  | .frameHeader => 0x01
  | .frameSlice => 0x02
  | .frameEnd => 0x03
  | .streamParameters => 0x04

def fromU8 : UInt8 → Except ParseError DisplayFrameType :=
  frameTypeFromU8 "Display"
    [(0x01, .frameHeader), (0x02, .frameSlice), (0x03, .frameEnd),
      (0x04, .streamParameters)]

end DisplayFrameType

inductive CursorFrameType where
  | cursorMove
  | cursorShape
  | cursorHidden
  deriving DecidableEq, Repr

namespace CursorFrameType

def toU8 : CursorFrameType → UInt8
  | .cursorMove => 0x01
  | .cursorShape => 0x02
  | .cursorHidden => 0x03

def fromU8 : UInt8 → Except ParseError CursorFrameType :=
  frameTypeFromU8 "Cursor"
    [(0x01, .cursorMove), (0x02, .cursorShape), (0x03, .cursorHidden)]

end CursorFrameType

inductive InputFrameType where
  | keyEvent
  | pointerMove
  | pointerButton
  | pointerWheel
  | touchEvent
  | syntheticBatch
  | textInput
  deriving DecidableEq, Repr

namespace InputFrameType

def toU8 : InputFrameType → UInt8
  | .keyEvent => 0x01
  | .pointerMove => 0x02
  | .pointerButton => 0x03
  | .pointerWheel => 0x04
  | .touchEvent => 0x05
  | .syntheticBatch => 0x06
  | .textInput => 0x07

def fromU8 : UInt8 → Except ParseError InputFrameType :=
  frameTypeFromU8 "Input"
    [(0x01, .keyEvent), (0x02, .pointerMove), (0x03, .pointerButton),
      (0x04, .pointerWheel), (0x05, .touchEvent), (0x06, .syntheticBatch),
      (0x07, .textInput)]

end InputFrameType

inductive ClipboardFrameType where
  | offerTypes
  | requestContent
  | content
  | contentChunk
  | contentEnd
  deriving DecidableEq, Repr

namespace ClipboardFrameType

def toU8 : ClipboardFrameType → UInt8
  | .offerTypes => 0x01
  | .requestContent => 0x02
  | .content => 0x03
  | .contentChunk => 0x04
  | .contentEnd => 0x05

def fromU8 : UInt8 → Except ParseError ClipboardFrameType :=
  frameTypeFromU8 "Clipboard"
    [(0x01, .offerTypes), (0x02, .requestContent), (0x03, .content),
      (0x04, .contentChunk), (0x05, .contentEnd)]

end ClipboardFrameType

inductive ChatFrameType where
  | chatMessage
  | typingIndicator
  | chatAttachment
  deriving DecidableEq, Repr

namespace ChatFrameType

def toU8 : ChatFrameType → UInt8
  | .chatMessage => 0x01
  | .typingIndicator => 0x02
  | .chatAttachment => 0x03

def fromU8 : UInt8 → Except ParseError ChatFrameType :=
  frameTypeFromU8 "Chat"
    [(0x01, .chatMessage), (0x02, .typingIndicator), (0x03, .chatAttachment)]

end ChatFrameType

inductive FileFrameType where
  | startTransfer
  | manifest
  | chunk
  | ackChunk
  | endTransfer
  | cancelTransfer
  deriving DecidableEq, Repr

namespace FileFrameType

def toU8 : FileFrameType → UInt8
  | .startTransfer => 0x01
  | .manifest => 0x02
  | .chunk => 0x03
  | .ackChunk => 0x04
  | .endTransfer => 0x05
  | .cancelTransfer => 0x06

def fromU8 : UInt8 → Except ParseError FileFrameType :=
  frameTypeFromU8 "File"
    [(0x01, .startTransfer), (0x02, .manifest), (0x03, .chunk),
      (0x04, .ackChunk), (0x05, .endTransfer), (0x06, .cancelTransfer)]

end FileFrameType

end OpenRD.Proto
