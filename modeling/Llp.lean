import Llp.Lib.Bytes
import Llp.Lib.Locks
import Llp.Lib.Machine
import Llp.Lib.Views
import Llp.Lib.Delimited
import Llp.Lib.HttpMessages
import Llp.Lib.Method
import Llp.Lib.Cursor
import Llp.Lib.SlidingWindow
import Llp.Core.Error
import Llp.Core.Crypto
import Llp.Core.Packet
import Llp.Core.ReplayWindow
import Llp.Core.WindowRuns
import Llp.Core.PacketCodec
import Llp.Core.PacketGrammar
import Llp.Core.Session
import Llp.Core.SessionCalls
import Llp.Core.SessionStore
import Llp.Core.SessionReports
import Llp.Core.Keepalive
import Llp.Core.Handshake
import Llp.Core.HandshakeCodec
import Llp.Core.HandshakeSafety
import Llp.Core.HandshakeFailures
import Llp.Mimicry.Profiles
import Llp.Mimicry.Wrapper
import Llp.Lib.Http
import Llp.Mimicry.Responses
import Llp.Mimicry.Requests
import Llp.Mimicry.Exchanges
import Llp.Client.Connection
import Llp.Client.Framing
import Llp.Client.Reconnect
import Llp.Client.VpnClient
import Llp.Client.SendStream
import Llp.Client.Acceptance
import Llp.Server.Routing
import Llp.Server.ClientHandler
import Llp.Server.SendTask
import Llp.Server.Handlers
import Llp.Server.Listener
import Llp.Server.Rejections
import Llp.Server.Handshakes
import Llp.Server.Peers
import Llp.Server.Footprint
import Llp.Security.NonceUse
import Llp.Security.HandshakeAgreement
import Llp.Security.HonestHandshake
import Llp.Security.Service
import Llp.Security.AuthenticSessions
import Llp.Security.DataPath
import Llp.Lib.Watermark
import Llp.Security.Delivery
import Llp.Security.Origin
import Llp.Security.PacketAuthentication
import Llp.CSharp.PacketEncryption
import Llp.CSharp.VpnClient
import Llp.CSharp.Replay
import Llp.CSharp.Handshake
import Llp.CSharp.HandshakeStream
import Llp.CSharp.SendStream
import Llp.Client.ReceiveLoop
import Llp.Security.Interop
import Llp.Security.HandshakeInterop
import Llp.Security.HandshakeSimulation
import Llp.Security.HandshakeStreams
import Llp.Server.DpiBypass
import Llp.Server.Routes
import Llp.Server.SessionTables
import Llp.Server.Router
import Llp.Server.Downstream
import Llp.Server.Locking
