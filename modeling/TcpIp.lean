import TcpIp.Lib.Exec
import TcpIp.Lib.Bytes
import TcpIp.Lib.HashMap
import TcpIp.Lib.OnesComplement
import TcpIp.Lib.Trace
import TcpIp.Lib.Loop
import TcpIp.Lib.Simulation
import TcpIp.Lib.Interleaving
import TcpIp.Lib.Recency
import TcpIp.Checksum
import TcpIp.Address
import TcpIp.Ethernet
import TcpIp.Arp
import TcpIp.Ipv4
import TcpIp.Icmp
import TcpIp.Transport
import TcpIp.Udp
import TcpIp.Tcp
import TcpIp.Lib.Ledger
import TcpIp.Tcp.Listener
import TcpIp.Tcp.Handshake
import TcpIp.Tcp.Peers
import TcpIp.Arp.Cache
import TcpIp.Arp.History
import TcpIp.Arp.Resolver
import TcpIp.Arp.Retries
import TcpIp.Interface
import TcpIp.Interface.Demux
import TcpIp.Interface.Parts
import TcpIp.Interface.Lengths
import TcpIp.Interface.Replies
import TcpIp.Interface.Duplicates
import TcpIp.Interface.Exchange
import TcpIp.Interface.Resolution
import TcpIp.Interface.WireTable
import TcpIp.Interface.Effects
import TcpIp.Interface.Identification
import TcpIp.Device
import TcpIp.Runtime
import TcpIp.Runtime.Script
import TcpIp.Runtime.Losses
import TcpIp.Runtime.Tap
import TcpIp.Codec.Ipv4
import TcpIp.Codec.Tcp
import TcpIp.Codec.Udp
import TcpIp.Codec.Icmp
import TcpIp.Codec.Link
import TcpIp.Codec.Writers
import TcpIp.Codec.Corruption
import TcpIp.Arp.Targets
import TcpIp.Arp.Capacity
import TcpIp.Arp.Coherence
import TcpIp.Lib.Network
import TcpIp.Arp.Progress
import TcpIp.Arp.Rate
import TcpIp.Tcp.Register
import TcpIp.Interface.Components
import TcpIp.Interface.Network
import TcpIp.Interface.Services
import TcpIp.Interface.ThreeWay
import TcpIp.Interface.Sessions
import TcpIp.Lib.Bits
import TcpIp.Interface.Integrity
import TcpIp.Interface.Responder
import TcpIp.Interface.Limits
import TcpIp.Runtime.Program
import TcpIp.Lib.Utf8
import TcpIp.Device.Open
import TcpIp.Runtime.Journal
