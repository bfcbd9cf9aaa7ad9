import GoBFD.Go.Slice
import GoBFD.Go.BigEndian
import GoBFD.Packet
import GoBFD.Auth
import GoBFD.FSM
import GoBFD.Session
import GoBFD.Session.Run
import GoBFD.Packet.Encode
import GoBFD.Packet.Decode
import GoBFD.Packet.RoundTrip
import GoBFD.Auth.Spec
import GoBFD.Session.Transmit
import GoBFD.Session.Invariant
import GoBFD.Go.Stdlib
import GoBFD.Go.Map
import GoBFD.Micro
import GoBFD.Manager
import GoBFD.Config
import GoBFD.Daemon
import GoBFD.Daemon.Run
import GoBFD.Daemon.Groups
import GoBFD.GoBGP.Dampening
import GoBFD.Auth.Verify
import GoBFD.Daemon.Sessions
import GoBFD.Manager.Calls
import GoBFD.Inet.Checksum
import GoBFD.Netio.Inner
import GoBFD.Netio.Tunnel
import GoBFD.Session.Poll
import GoBFD.Netio.Ports
import GoBFD.Session.Timers
import GoBFD.Session.Honest
import GoBFD.Session.Handshake
import GoBFD.Echo
import GoBFD.Netio.Receive
import GoBFD.Echo.Manager
import GoBFD.Daemon.Senders
import GoBFD.Server
import GoBFD.GoBGP.Handler
import GoBFD.Server.Echo
