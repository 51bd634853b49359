import TcpIp.Arp.Resolver
import TcpIp.Icmp
import TcpIp.Ipv4
import TcpIp.Tcp.Listener
import TcpIp.Udp

/-!
# `interface.rs`: the network interface

* `NetworkInterface` — the addresses, the identification counter, the ARP resolver and the TCP listener;
* `processFrameAt` — one received frame: the reply to it, if there is one.

A handler is a call that mutates the interface and may fail, with the error variant of the layer that failed.
-/

namespace TcpIp.Interface

open TcpIp.Lib TcpIp.Arp TcpIp.Arp.Cache TcpIp.Arp.Resolver TcpIp.Icmp TcpIp.Ipv4 TcpIp.Tcp TcpIp.Tcp.Listener
  TcpIp.Udp

def defaultIpv4Ttl : UInt8 := 64

def defaultArpCacheCapacity : ℕ := 64

/-- 60 seconds. -/
def defaultArpCacheTtl : Duration := 60 * 1000000000

/-- 1 second. -/
def defaultArpRetryInterval : Duration := 1000000000

def defaultArpMaxAttempts : UInt64 := 3

def udpEchoPort : UInt16 := 9000

def tcpEchoPort : UInt16 := 9000

def defaultTcpConnectionCapacity : ℕ := 64

def defaultTcpInitialSequence : UInt32 := 0x12345678

structure NetworkInterface where
  macAddress : MacAddress
  ipv4Address : Ipv4Addr
  nextIpv4Identification : UInt16
  arpResolver : ArpResolver
  tcpListener : TcpListener

inductive InterfaceError where
  | ethernet (error : EthernetParseError)
  | ipv4 (error : Ipv4ParseError)
  | icmp (error : IcmpParseError)
  | serialise (error : SerialiseError)
  | ipv4Serialise (error : Ipv4SerialiseError)
  | arp (error : ArpParseError)
  | udp (error : UdpParseError)
  | udpSerialise (error : UdpSerialiseError)
  | tcp (error : TcpParseError)
  | tcpSerialise (error : TcpSerialiseError)
  deriving DecidableEq, Repr

namespace NetworkInterface

variable {ε : Type}

def withArpConfig (macAddress : MacAddress) (ipv4Address : Ipv4Addr) (cacheCapacity : ℕ) (cacheTtl : Duration)
    (retryInterval : Duration) (maxAttempts : UInt64) : NetworkInterface where
  macAddress := macAddress
  ipv4Address := ipv4Address
  nextIpv4Identification := 0
  arpResolver :=
    ArpResolver.new macAddress ipv4Address (ArpCache.new cacheCapacity cacheTtl) retryInterval maxAttempts
  tcpListener := TcpListener.new ipv4Address tcpEchoPort defaultTcpConnectionCapacity defaultTcpInitialSequence

def new (macAddress : MacAddress) (ipv4Address : Ipv4Addr) : NetworkInterface :=
  withArpConfig macAddress ipv4Address defaultArpCacheCapacity defaultArpCacheTtl defaultArpRetryInterval
    defaultArpMaxAttempts

/-- A call on the field `arp_resolver`. -/
def onResolver {α : Type} (call : Exec ArpResolver ε α) : Exec NetworkInterface ε α :=
  Exec.zoom NetworkInterface.arpResolver (fun resolver self => { self with arpResolver := resolver }) call

/-- A call on the field `tcp_listener`. -/
def onListener {α : Type} (call : TcpListener → α × TcpListener) : Exec NetworkInterface ε α :=
  Exec.zoom NetworkInterface.tcpListener (fun listener self => { self with tcpListener := listener })
    (Exec.state call)

def cachedMac (ip : Ipv4Addr) (now : Instant) : Exec NetworkInterface ε (Option MacAddress) :=
  onResolver (ArpResolver.cachedMac ip now)

def tcpConnection (self : NetworkInterface) (key : TcpConnectionKey) : Option TcpConnection :=
  self.tcpListener.connection key

/-! ### The handlers -/

def buildIpv4Reply (ethernet : EthernetFrame) (request : Ipv4Packet) (protocol : Ipv4Protocol) (payload : Bytes) :
    Exec NetworkInterface InterfaceError (Option Bytes) := do
  let self ← Exec.get
  let identification := self.nextIpv4Identification
  let ipv4Reply : Ipv4Packet := {
    dscp := request.dscp
    ecn := request.ecn
    identification
    ttl := defaultIpv4Ttl
    protocol
    dontFragment := false
    moreFragments := false
    fragmentOffset := 0
    source := self.ipv4Address
    destination := request.source
    options := []
    payload
    trailingBytes := [] }
  let ipv4Room ← Exec.lift (addUsize ipv4MinHeaderLen payload.length)
  let (ipv4Length, ipv4Bytes) ← Exec.onLocal (vec 0 ipv4Room) .ipv4Serialise ipv4Reply.writeTo
  Exec.lift (debugAssertEq ipv4Length ipv4Bytes.length)
  let ethernetReply : EthernetFrame := {
    destinationMac := ethernet.sourceMac
    sourceMac := self.macAddress
    etherType := .ipv4
    payload := ipv4Bytes }
  let ethernetRoom ← Exec.lift (addUsize ethernetHeaderLen ipv4Length)
  let (ethernetLength, output) ← Exec.onLocal (vec 0 ethernetRoom) .serialise ethernetReply.writeTo
  Exec.lift (debugAssertEq ethernetLength output.length)
  Exec.modify fun self => { self with nextIpv4Identification := identification + 1 }
  return some output

def processIcmpPacket (ethernet : EthernetFrame) (ipv4 : Ipv4Packet) :
    Exec NetworkInterface InterfaceError (Option Bytes) := do
  let icmpRequest ← Exec.propagate .icmp (parseIcmpMessage ipv4.payload)
  match buildEchoReply icmpRequest with
  | none => return none
  | some icmpReply => do
    let (icmpLength, icmpBytes) ← Exec.onLocal (vec 0 ipv4.payload.length) .serialise icmpReply.writeTo
    Exec.lift (debugAssertEq icmpLength icmpBytes.length)
    buildIpv4Reply ethernet ipv4 .icmp icmpBytes

def processUdpDatagram (ethernet : EthernetFrame) (ipv4 : Ipv4Packet) :
    Exec NetworkInterface InterfaceError (Option Bytes) := do
  Exec.propagate .udp (validateUdpChecksum ipv4.source ipv4.destination ipv4.payload)
  let request ← Exec.propagate .udp (parseUdpDatagram ipv4.payload)
  if request.destinationPort ≠ udpEchoPort ∨ request.sourcePort = 0 then return none
  else do
    let self ← Exec.get
    let udpRoom ← Exec.lift (addUsize udpHeaderLen request.payload.length)
    let (udpLength, udpBytes) ← Exec.onLocal (vec 0 udpRoom) .udpSerialise
      (serialiseUdpDatagram self.ipv4Address ipv4.source udpEchoPort request.sourcePort request.payload)
    Exec.lift (debugAssertEq udpLength udpBytes.length)
    buildIpv4Reply ethernet ipv4 .udp udpBytes

def processTcpSegment (ethernet : EthernetFrame) (ipv4 : Ipv4Packet) :
    Exec NetworkInterface InterfaceError (Option Bytes) := do
  Exec.propagate .tcp (validateTcpChecksum ipv4.source ipv4.destination ipv4.payload)
  let request ← Exec.propagate .tcp (parseTcpSegment ipv4.payload)
  match ← onListener (TcpListener.receiveSegment ipv4.source request) with
  | .noReply => return none
  | .sendSynAck synAck => do
    let reply : TcpSegmentToSend := {
      sourcePort := synAck.sourcePort
      destinationPort := synAck.destinationPort
      sequenceNumber := synAck.sequenceNumber
      acknowledgementNumber := synAck.acknowledgementNumber
      flags := TcpFlags.syn ||| TcpFlags.ack
      windowSize := synAck.windowSize
      urgentPointer := 0
      options := []
      payload := [] }
    let self ← Exec.get
    let (tcpLength, tcpBytes) ← Exec.onLocal (vec 0 tcpMinHeaderLen) .tcpSerialise
      (reply.writeTo self.ipv4Address ipv4.source)
    Exec.lift (debugAssertEq tcpLength tcpBytes.length)
    buildIpv4Reply ethernet ipv4 .tcp tcpBytes

def processIpv4Frame (ethernet : EthernetFrame) : Exec NetworkInterface InterfaceError (Option Bytes) := do
  let ipv4 ← Exec.propagate .ipv4 (parseIpv4Packet ethernet.payload)
  let self ← Exec.get
  if ipv4.destination ≠ self.ipv4Address then return none
  else if ipv4.moreFragments ∨ ipv4.fragmentOffset ≠ 0 then return none
  else match ipv4.protocol with
    | .icmp => processIcmpPacket ethernet ipv4
    | .udp => processUdpDatagram ethernet ipv4
    | .tcp => processTcpSegment ethernet ipv4
    | .unknown _ => return none

def processArpFrame (ethernet : EthernetFrame) (now : Instant) :
    Exec NetworkInterface InterfaceError (Option Bytes) := do
  let request ← Exec.propagate .arp (ArpPacket.parse ethernet.payload)
  let _learned ← onResolver (ArpResolver.observe request now)
  let self ← Exec.get
  match buildReply request self.macAddress self.ipv4Address with
  | none => return none
  | some reply => do
    let (arpLength, arpBytes) ← Exec.onLocal (vec 0 arpHeaderLen) .serialise reply.writeTo
    Exec.lift (debugAssertEq arpLength arpBytes.length)
    let ethernetReply : EthernetFrame := {
      destinationMac := reply.targetMac
      sourceMac := self.macAddress
      etherType := .arp
      payload := arpBytes }
    let ethernetRoom ← Exec.lift (addUsize ethernetHeaderLen arpLength)
    let (ethernetLength, output) ← Exec.onLocal (vec 0 ethernetRoom) .serialise ethernetReply.writeTo
    Exec.lift (debugAssertEq ethernetLength output.length)
    return some output

def processFrameAt (input : Bytes) (now : Instant) : Exec NetworkInterface InterfaceError (Option Bytes) := do
  let ethernet ← Exec.propagate .ethernet (parseEthFrame input)
  let self ← Exec.get
  match ethernet.etherType with
  | .ipv4 => if ethernet.destinationMac = self.macAddress then processIpv4Frame ethernet else return none
  | .arp =>
    if ethernet.destinationMac = self.macAddress ∨ ethernet.destinationMac = MacAddress.broadcast then
      processArpFrame ethernet now
    else return none
  | .ipv6 => return none
  | .unknown _ => return none

end NetworkInterface

/-! ### The frames of the tests -/

namespace TestFrames

def localMac : MacAddress := ⟨0x02, 0, 0, 0, 0, 1⟩

def remoteMac : MacAddress := ⟨0x02, 0, 0, 0, 0, 2⟩

def localIp : Ipv4Addr := ⟨10, 0, 0, 2⟩

def remoteIp : Ipv4Addr := ⟨10, 0, 0, 1⟩

def interface : NetworkInterface := NetworkInterface.new localMac localIp

def wrapEthernet (etherType : EtherType) (payload : Bytes) : Bytes :=
  EthernetFrame.encode {
    destinationMac := if etherType = .arp then MacAddress.broadcast else localMac
    sourceMac := remoteMac
    etherType
    payload }

def wrapIpv4 (protocol : Ipv4Protocol) (payload : Bytes) : Bytes :=
  wrapEthernet .ipv4 (Ipv4Packet.encode {
    dscp := 0
    ecn := 0
    identification := 0xabcd
    ttl := 64
    protocol
    dontFragment := false
    moreFragments := false
    fragmentOffset := 0
    source := remoteIp
    destination := localIp
    options := []
    payload
    trailingBytes := [] })

def arpRequestFrame : Bytes := wrapEthernet .arp (buildRequest localIp remoteMac remoteIp).encode

def echoRequest : IcmpEchoMessage := ⟨0x1234, 7, [0xde, 0xad, 0xbe, 0xef]⟩

def echoRequestFrame : Bytes := wrapIpv4 .icmp (IcmpMessage.echoRequest echoRequest).encode

def udpEchoRequestFrame (sourcePort : UInt16) : Bytes :=
  wrapIpv4 .udp (Udp.encode remoteIp localIp sourcePort udpEchoPort [0x68, 0x65, 0x6c, 0x6c, 0x6f])

def tcpFrame (sequenceNumber acknowledgementNumber : UInt32) (flags : TcpFlags) : Bytes :=
  wrapIpv4 .tcp (TcpSegmentToSend.encode {
    sourcePort := 49152
    destinationPort := tcpEchoPort
    sequenceNumber
    acknowledgementNumber
    flags
    windowSize := 32768
    urgentPointer := 0
    options := []
    payload := [] } remoteIp localIp)

end TestFrames

end TcpIp.Interface
