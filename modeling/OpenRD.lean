import OpenRD.Foundation.LittleEndian
import OpenRD.Foundation.LengthPrefix
import OpenRD.Foundation.Source
import OpenRD.Foundation.Program
import OpenRD.Foundation.Traces
import OpenRD.Foundation.Progress
import OpenRD.Foundation.Moments
import OpenRD.Foundation.Reference
import OpenRD.Foundation.KeyedFold
import OpenRD.Foundation.FieldTable
import OpenRD.Foundation.Selection
import OpenRD.Foundation.Utf8
import OpenRD.Foundation.Cbor
import OpenRD.Foundation.CborWire
import OpenRD.Foundation.CborItems
import OpenRD.Proto.Error
import OpenRD.Proto.Frame
import OpenRD.Proto.Channel
import OpenRD.Proto.Ciborium
import OpenRD.Proto.Capabilities
import OpenRD.Proto.Intersection
import OpenRD.Proto.ChunkSizes
import OpenRD.Proto.Extension
import OpenRD.Proto.CapabilityEntries
import OpenRD.Proto.Reencoding
import OpenRD.Proto.Narrowing
import OpenRD.Proto.Fallback
import OpenRD.Proto.Messages
import OpenRD.Proto.Input
import OpenRD.Proto.FrameReader
import OpenRD.Server.Wire
import OpenRD.Server.Messages
import OpenRD.Server.Control
import OpenRD.Server.Handlers
import OpenRD.Server.FrameVersions
import OpenRD.Server.Transcript
import OpenRD.Server.Endings
import OpenRD.Server.Decision
import OpenRD.Server.Passes
import OpenRD.Server.Answering
import OpenRD.Server.Causes
import OpenRD.Server.Clipboard
import OpenRD.Server.ClipboardChannel
import OpenRD.Server.Previews
import OpenRD.Server.ChatChannel
import OpenRD.Server.FileChannel
import OpenRD.Server.Transfers
import OpenRD.Server.DisplayStream
import OpenRD.Server.SliceNumbers
import OpenRD.Server.Replies
import OpenRD.TestClient.Wire
import OpenRD.TestClient.Messages
import OpenRD.Web.CborReader
import OpenRD.Web.Client
import OpenRD.Web.FrameReader
import OpenRD.Web.CborWriter
import OpenRD.Web.Connect
import OpenRD.Web.WireItems
import OpenRD.Web.CborTrees
import OpenRD.Web.Cuts
import OpenRD.Web.Truncation
import OpenRD.Web.Endless
import OpenRD.Web.Readings
import OpenRD.Session.Reassembly
import OpenRD.Session.ReaderAgreement
import OpenRD.Session.Codecs
import OpenRD.Session.TypedMessages
import OpenRD.Session.DuplicateParsers
import OpenRD.Session.InputCodec
import OpenRD.Session.LengthPrefixes
import OpenRD.Session.ExplicitSuccess
import OpenRD.Session.World
import OpenRD.Session.Agreement
import OpenRD.Session.Progress
import OpenRD.Session.Gate
import OpenRD.Session.Negotiation
import OpenRD.Session.Dispatch
import OpenRD.Session.Pairing
import OpenRD.Session.Starts
import OpenRD.Session.Profile
import OpenRD.Session.ReplySizes
import OpenRD.Session.Pulls
import OpenRD.Session.Endings
import OpenRD.Session.Versions
import OpenRD.Session.Reference
import OpenRD.Session.Delivery
import OpenRD.Session.DisplayReceiver
import OpenRD.Session.Video
import OpenRD.Session.Keyframes
import OpenRD.Session.WebSessions
import OpenRD.Session.WebMessages
import OpenRD.Session.WebRuns
import OpenRD.Session.WebInterop
import OpenRD.Session.WebRefusal
import OpenRD.Session.TestSessions
import OpenRD.Session.TestMessages
import OpenRD.Session.Exchanges
import OpenRD.Session.TestReceivers
import OpenRD.Session.TestControl
import OpenRD.Session.TestHandlers
import OpenRD.Session.TestClientRuns
import OpenRD.Session.TestServer
import OpenRD.Session.TestInterop
import OpenRD.Session.TestRuns
import OpenRD.Session.TestMoves
import OpenRD.Session.TestArrivals
import OpenRD.Session.CounterPanics
import OpenRD.Session.TestJoins
import OpenRD.Session.TestOutcomes
import OpenRD.Session.Termination
import OpenRD.Session.Rest
import OpenRD.Session.TestTermination
import OpenRD.Session.TestCompletion
import OpenRD.Session.Schedules
import OpenRD.Session.Isolation
import OpenRD.Session.Listener
import OpenRD.Session.InputDelivery
import OpenRD.Session.TestRefusal
import OpenRD.Web.CertHash
import OpenRD.Foundation.Alike
import OpenRD.Server.Alike
import OpenRD.Session.Alike
import OpenRD.Session.Secrecy
import OpenRD.Foundation.CborSizes
import OpenRD.Session.Amplification
