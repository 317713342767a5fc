import OpenRD.Session.TestSessions
import OpenRD.Session.WebMessages

/-!
# The values the test client and the server exchange
-/

namespace OpenRD.Session

open OpenRD.Foundation OpenRD.Proto OpenRD.Server
open OpenRD.TestClient (plainText)

/-- What the server answers the client's request for its clipboard with. -/
def contentAnswer : Cbor := buildClipboardContent 42 plainText (clipboardBody plainText)

def echoAnswer : Cbor :=
  buildChatMessage (7 + 1000000) "openrd-server/0.0.1"
    ("[server-echo] " ++ "olá from the test client! how are things server-side?") (0 + 1)

def clientValues (server : ServerConfig) : List Cbor :=
  [TestClient.clientHello Capabilities.default,
    TestClient.authRequest "pin" (asBytes server.expectedPin),
    TestClient.openChannel ChannelKind.input.toU64 1 2,
    TestClient.openChannel ChannelKind.clipboard.toU64 2 6,
    TestClient.openChannel ChannelKind.chat.toU64 3 10,
    TestClient.openChannel ChannelKind.file.toU64 4 14,
    TestClient.offerTypes, TestClient.requestContent plainText 42, TestClient.contentToSend,
    TestClient.typingIndicator "start", TestClient.chatMessage,
    TestClient.typingIndicator "stop", TestClient.manifest, TestClient.endTransfer]

def serverValues (server : ServerConfig) : List Cbor :=
  [serverHello server 0, authAccepted server,
    openChannelAnnounce ChannelKind.display.toU64 100 0,
    openChannelAnnounce ChannelKind.cursor.toU64 101 0, openChannelAck 1 0,
    openChannelAck 2 0, openChannelAck 3 0, openChannelAck 4 0, contentAnswer, echoAnswer]

/-- The library writes each of them and reads it back, and it fits in a frame. -/
def TestExchange (server : ServerConfig) : Prop :=
  ∀ value ∈ clientValues server ++ serverValues server,
    Carries server.cib value (payloadOf server.cib value)

namespace TestExchange

variable {server : ServerConfig} (h : TestExchange server)

include h

theorem fromClient {value : Cbor} (hvalue : value ∈ clientValues server) :
    Carries server.cib value (payloadOf server.cib value) :=
  h value (List.mem_append_left _ hvalue)

theorem fromServer {value : Cbor} (hvalue : value ∈ serverValues server) :
    Carries server.cib value (payloadOf server.cib value) :=
  h value (List.mem_append_right _ hvalue)

end TestExchange

end OpenRD.Session
