import OpenRD.Session.ExplicitSuccess
import OpenRD.Session.WebSessions

/-!
# The web client's messages and the server's answers to them
-/

namespace OpenRD.Session

open OpenRD.Foundation OpenRD.Proto OpenRD.Server

/-! ## What the encoders spell -/

def webCapabilities : Cbor :=
  .map [(key 1, .array [.uint 0]),
    (key 2, .text "openrd-v0-base"),
    (key 3, .array [.text "pin", .text "token"]),
    (key 4, .array [.text "h264-baseline"]),
    (key 5, .array [.uint 1920, .uint 1080]),
    (key 6, .uint 30),
    (key 7, .array [.text "opus"]),
    (key 8, .array [.text "text/plain;charset=utf-8", .text "image/png"]),
    (key 9, .uint 4),
    (key 10, .uint 17179869184),
    (key 11, .array [.uint 4096, .uint 4194304]),
    (key 12, .uint 67108864),
    (key 13, .uint 30),
    (key 14, .array [.text "quic-datagrams"]),
    (key 16, .map [(key 1, .bool true), (key 2, .uint 1048576)])]

def webHello : Cbor :=
  .map [(key 1, .uint 0), (key 2, .text "openrd-web/0.0.1"), (key 3, webCapabilities)]

theorem encodeClientHello_eq : Web.encodeClientHello = CborWire.encode webHello := by
  decide +kernel

theorem encodeAuthRequest_eq (method : String) (credential : List UInt8) :
    Web.encodeAuthRequest method credential =
      CborWire.encode (TestClient.authRequest method credential) := by
  simp only [Web.encodeAuthRequest, Web.CborWriter.finish_writeBytes,
    Web.CborWriter.finish_writeUint, Web.CborWriter.finish_writeString,
    Web.CborWriter.finish_writeMapHeader, Web.CborWriter.finish_new, List.nil_append,
    List.append_assoc]
  simp only [TestClient.authRequest, CborWire.encode, CborWire.encodeEntries,
    CborWire.encodeEntry, List.append_assoc, List.append_nil]
  rfl

theorem encodeOpenChannel_eq :
    Web.encodeOpenChannel Web.ChannelKind.input Web.inputChannelId.toNat 2 =
      CborWire.encode (TestClient.openChannel ChannelKind.input.toU64 1 2) := by
  decide +kernel

theorem encodeFrame_eq (frameType : UInt8) (payload : List UInt8) :
    Web.encodeFrame frameType payload = Frame.encode frameType payload [] := by
  simp only [Frame.encode, FrameHeader.writeTo, u32ToLeBytes_ofNat]
  rfl

theorem webControl_eq (pin : String) :
    webControl pin = wire
      [(ControlFrameType.clientHello.toU8, CborWire.encode webHello),
        (ControlFrameType.authRequest.toU8,
          CborWire.encode (TestClient.authRequest "pin" (asBytes pin))),
        (ControlFrameType.openChannel.toU8,
          CborWire.encode (TestClient.openChannel ChannelKind.input.toU64 1 2))] := by
  simp only [webControl, encodeClientHello_eq, encodeAuthRequest_eq, encodeOpenChannel_eq,
    encodeFrame_eq, wire_cons, wire_nil, SentFrame.bytes, List.append_assoc,
    List.append_nil]
  rfl

/-! ## What the peers exchange -/

theorem parseClientHello_web :
    parseClientHello webHello =
      .ok (0, "openrd-web/0.0.1", Capabilities.fromCbor webCapabilities) := rfl

def authAccepted (server : ServerConfig) : Cbor :=
  buildAuthResult 0 "interactive" ("pin-user-" ++ hexEncode server.idSeed.toList)

def openInput : Cbor := TestClient.openChannel ChannelKind.input.toU64 1 2

/-- The values that cross the Control stream until the request is acknowledged. -/
def webValues (server : ServerConfig) : List Cbor :=
  [webHello, TestClient.authRequest "pin" (asBytes server.expectedPin), openInput,
    serverHello server 0, authAccepted server, openChannelAnnounce ChannelKind.display.toU64
      100 0, openChannelAnnounce ChannelKind.cursor.toU64 101 0, openChannelAck 1 0]

/-- The library writes them as RFC 8949 has them and reads them back, and they fit. -/
def WebExchange (server : ServerConfig) : Prop :=
  ∀ value ∈ webValues server, Carries server.cib value (CborWire.encode value)

namespace WebExchange

variable {server : ServerConfig} (h : WebExchange server)

include h

theorem hello : Carries server.cib webHello (CborWire.encode webHello) :=
  h _ (by simp [webValues])

theorem auth : Carries server.cib (TestClient.authRequest "pin" (asBytes server.expectedPin))
    (CborWire.encode (TestClient.authRequest "pin" (asBytes server.expectedPin))) :=
  h _ (by simp [webValues])

theorem openRequest : Carries server.cib openInput (CborWire.encode openInput) :=
  h _ (by simp [webValues])

theorem helloReply :
    Carries server.cib (serverHello server 0) (CborWire.encode (serverHello server 0)) :=
  h _ (by simp [webValues])

theorem authReply :
    Carries server.cib (authAccepted server) (CborWire.encode (authAccepted server)) :=
  h _ (by simp [webValues])

theorem announced : Carries server.cib
    (openChannelAnnounce ChannelKind.display.toU64 100 0)
    (CborWire.encode (openChannelAnnounce ChannelKind.display.toU64 100 0)) :=
  h _ (by simp [webValues])

theorem cursorAnnounced : Carries server.cib
    (openChannelAnnounce ChannelKind.cursor.toU64 101 0)
    (CborWire.encode (openChannelAnnounce ChannelKind.cursor.toU64 101 0)) :=
  h _ (by simp [webValues])

theorem acked : Carries server.cib (openChannelAck 1 0)
    (CborWire.encode (openChannelAck 1 0)) :=
  h _ (by simp [webValues])

end WebExchange

end OpenRD.Session
