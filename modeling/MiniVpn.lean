import MiniVpn.Go.Runtime
import MiniVpn.Go.Strings
import MiniVpn.Model.Session.Manager
import MiniVpn.Model.Crypto.Prf
import MiniVpn.Model.Crypto.Ciphers
import MiniVpn.Model.Transport.TlsConn
import MiniVpn.Model.Transport.Framing
import MiniVpn.Model.Muxer.Handshake
import MiniVpn.Model.Muxer.DataInit
import MiniVpn.Model.Muxer.DataRead
import MiniVpn.Model.Muxer.Bringup
import MiniVpn.Model.DataChannel.Workers
import MiniVpn.Model.Extras.Pinger
import MiniVpn.Proofs.Session.PacketIds
import MiniVpn.Proofs.Session.TunnelInfo
import MiniVpn.Proofs.Crypto.Prf
import MiniVpn.Proofs.Crypto.RoundTrip
import MiniVpn.Proofs.Transport.Delivery
import MiniVpn.Proofs.Transport.Framing
import MiniVpn.Proofs.Muxer.Handshake
import MiniVpn.Proofs.Muxer.DataInit
import MiniVpn.Proofs.Muxer.DataRead
import MiniVpn.Proofs.DataChannel.Shutdown
import MiniVpn.Proofs.Transport.Conservation
import MiniVpn.Proofs.Session.Identity
import MiniVpn.Proofs.DataChannel.KeyOrder
import MiniVpn.Proofs.Extras.Pinger
import MiniVpn.Proofs.DataChannel.Accounting
