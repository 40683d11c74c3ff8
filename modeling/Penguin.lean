import Penguin.Lib.BigEndian
import Penguin.Lib.Lists
import Penguin.Lib.Transition
import Penguin.Lib.Select
import Penguin.Mux.Frame
import Penguin.Mux.Stream
import Penguin.Mux.Endpoint
import Penguin.Mux.Task
import Penguin.Mux.System
import Penguin.Mux.Inversion
import Penguin.Mux.Flow
import Penguin.Mux.Simulation
import Penguin.Mux.Actions
import Penguin.Mux.Updates
import Penguin.Mux.Conn
import Penguin.Mux.Handshake
import Penguin.Mux.Moves
import Penguin.Mux.Credit
import Penguin.Mux.Deadlock
import Penguin.Mux.Delivery
import Penguin.Mux.Eof
import Penguin.Mux.Waker
import Penguin.Mux.WindDown
import Penguin.Mux.Survival
import Penguin.Mux.Callers
import Penguin.Mux.Agreement
import Penguin.Mux.Notices
import Penguin.Mux.History
import Penguin.Mux.BindReply
import Penguin.Mux.Closing
import Penguin.Mux.Pump
import Penguin.Mux.Replies
import Penguin.Client.UdpClients
import Penguin.Server.Websocket
import Penguin.Mux.Timing
import Penguin.Client.MainLoop
import Penguin.Server.Service
import Penguin.Lib.Loop
import Penguin.Mux.Copy
import Penguin.Mux.CopyCalls
import Penguin.Mux.CopyFaithful
import Penguin.Lib.Reading
import Penguin.Client.Socks
import Penguin.Client.SocksRelay
import Penguin.Client.SocksRequest
import Penguin.Lib.Utf8
import Penguin.Client.ParseRemote
import Penguin.Mux.Reuse
import Penguin.Mux.Ledger
import Penguin.Mux.Tracing
import Penguin.Mux.Matching
import Penguin.Client.FormatRemote
import Penguin.Mux.Decode
import Penguin.Mux.Window
import Penguin.Client.UdpStdio
import Penguin.Mux.Isolation
import Penguin.Lib.Logged
import Penguin.Server.Acme
import Penguin.Mux.Requests
import Penguin.Mux.Answers
import Penguin.Mux.Exits
import Penguin.Mux.Deals
import Penguin.Lib.Lossy
import Penguin.Mux.Waiting
import Penguin.Mux.Datagrams
import Penguin.Mux.Accepting
import Penguin.Mux.CopySteps
import Penguin.Mux.Tunnel
import Penguin.Mux.Settling
import Penguin.Client.SocksServer
import Penguin.Client.SocksSessions
import Penguin.Client.Retry
import Penguin.Server.Forwarder
