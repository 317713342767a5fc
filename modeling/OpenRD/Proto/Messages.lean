import OpenRD.Proto.Capabilities

/-!
# Messages

The message types of the protocol crate, with the maps their derived serializers
produce, and the fields of the messages that the peers build and read by hand.
-/

namespace OpenRD.Proto

open OpenRD.Foundation

/-! ## Typed messages -/

structure ClientHello where
  protocolVersion : UInt32
  clientName : String
  capabilities : Cbor
  sessionIdHint : Option (List UInt8)

structure ServerHello where
  protocolVersion : UInt32
  serverName : String
  capabilities : Cbor
  sessionId : List UInt8
  serverTime : UInt64

structure ChatMessage where
  msgId : UInt64
  sender : String
  body : String
  tsMs : UInt64
  deriving DecidableEq, Repr

structure TypingIndicator where
  sender : String
  state : String
  deriving DecidableEq, Repr

structure ChatAttachment where
  msgId : UInt64
  sender : String
  mime : String
  filename : Option String
  bytes : List UInt8

def named (name : String) (value : Cbor) : Cbor × Cbor := (.text name, value)

def ClientHello.serialize (hello : ClientHello) : Cbor :=
  .map ([named "1" (.uint hello.protocolVersion.toUInt64),
    named "2" (.text hello.clientName),
    named "3" hello.capabilities] ++
    (hello.sessionIdHint.map fun hint => named "4" (.bytes hint)).toList)

def ServerHello.serialize (hello : ServerHello) : Cbor :=
  .map [named "1" (.uint hello.protocolVersion.toUInt64),
    named "2" (.text hello.serverName),
    named "3" hello.capabilities,
    named "4" (.bytes hello.sessionId),
    named "5" (.uint hello.serverTime)]

def ChatMessage.serialize (message : ChatMessage) : Cbor :=
  .map [named "1" (.uint message.msgId),
    named "2" (.text message.sender),
    named "3" (.text message.body),
    named "4" (.uint message.tsMs)]

def TypingIndicator.serialize (typing : TypingIndicator) : Cbor :=
  .map [named "1" (.text typing.sender), named "2" (.text typing.state)]

def ChatAttachment.serialize (attachment : ChatAttachment) : Cbor :=
  .map ([named "1" (.uint attachment.msgId),
    named "2" (.text attachment.sender),
    named "3" (.text attachment.mime)] ++
    (attachment.filename.map fun filename => named "4" (.text filename)).toList ++
    [named "5" (.bytes attachment.bytes)])

/-! ## Fields of the messages read by hand -/

structure AuthResult where
  status : UInt32
  permission : String
  identity : String
  deriving DecidableEq, Repr

structure OpenChannel where
  kind : UInt64
  channelId : UInt64
  streamId : UInt64
  deriving DecidableEq, Repr

structure OpenChannelAck where
  channelId : UInt64
  status : UInt32
  deriving DecidableEq, Repr

structure RequestContent where
  requestId : UInt64
  mime : String
  deriving DecidableEq, Repr

structure ClipboardContent where
  requestId : UInt64
  mime : String
  bytes : List UInt8
  deriving DecidableEq, Repr

end OpenRD.Proto
