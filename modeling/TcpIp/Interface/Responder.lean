import TcpIp.Interface.WireTable
import TcpIp.Tcp.Register

/-!
# What an interface is to the wire

The abstract machine behind an interface: it has its addresses, the number of IPv4 packets that it sent, and a ledger of
the peers that it admitted.  It has no clock, no cache and no resolver.

* `Responder` — the machine, and `Responder.step` — what it answers to a frame;
* `Implements` — the interface and the machine agree;
* `refines_responder` — in every run of a new interface the frames are answered as the machine answers them.
-/

namespace TcpIp.Interface

open TcpIp.Lib TcpIp.Arp TcpIp.Arp.Cache TcpIp.Arp.Resolver TcpIp.Icmp TcpIp.Ipv4 TcpIp.Tcp TcpIp.Tcp.Listener
  TcpIp.Tcp.Register TcpIp.Udp

/-- What the wire can tell of an interface. -/
structure Responder where
  mac : MacAddress
  ip : Ipv4Addr
  answered : ℕ
  peers : Ledger Peer.endpoint defaultTcpConnectionCapacity

namespace Responder

def new (mac : MacAddress) (ip : Ipv4Addr) : Responder := ⟨mac, ip, 0, Ledger.empty⟩

section Answer

variable (self : Responder)

/-- The IPv4 packet that goes back for `request`, numbered from zero. -/
def packet (request : Ipv4Packet) (protocol : Ipv4Protocol) (payload : Bytes) : Ipv4Packet where
  dscp := request.dscp
  ecn := request.ecn
  identification := UInt16.ofNat self.answered
  ttl := defaultIpv4Ttl
  protocol := protocol
  dontFragment := false
  moreFragments := false
  fragmentOffset := 0
  source := self.ip
  destination := request.source
  options := []
  payload := payload
  trailingBytes := []

/-- A packet is sent back to where the frame came from. -/
def send (ethernet : EthernetFrame) (request : Ipv4Packet) (protocol : Ipv4Protocol) (payload : Bytes) :
    Option EthernetFrame × Responder :=
  (some ⟨ethernet.sourceMac, self.mac, .ipv4, (self.packet request protocol payload).encode⟩,
    { self with answered := self.answered + 1 })

/-- The answer to what a frame brings. -/
def answer : Delivery → Option EthernetFrame × Responder
  | .ignored => (none, self)
  | .echo ethernet ipv4 message => self.send ethernet ipv4 .icmp (IcmpMessage.echoReply message).encode
  | .datagram ethernet ipv4 request => self.send ethernet ipv4 .udp
      (Udp.encode self.ip ipv4.source udpEchoPort request.sourcePort request.payload)
  | .segment ethernet ipv4 request =>
    match hear tcpEchoPort defaultTcpInitialSequence ⟨ipv4.source, request⟩ self.peers with
    | (some peer, peers) => { self with peers }.send ethernet ipv4 .tcp
        ((synAckSegment (peer.synAck tcpEchoPort)).encode self.ip ipv4.source)
    | (none, peers) => (none, { self with peers })
  | .arp _ packet =>
    ((buildReply packet self.mac self.ip).map fun reply => ⟨reply.targetMac, self.mac, .arp, reply.encode⟩, self)

end Answer

/-- One frame, as the step of a machine. -/
def step (input : Bytes) (self : Responder) : Outcome InterfaceError (Option Bytes) × Responder :=
  match demux self.mac self.ip input with
  | .ok delivery => (.ok ((self.answer delivery).1.map EthernetFrame.encode), (self.answer delivery).2)
  | .err e => (.err e, self)
  | .panic p => (.panic p, self)

end Responder

/-- The listener of a new interface. -/
def newListener (ip : Ipv4Addr) : TcpListener :=
  TcpListener.new ip tcpEchoPort defaultTcpConnectionCapacity defaultTcpInitialSequence

namespace NetworkInterface

/-- The interface is, to the wire, the machine. -/
structure Implements (interface : NetworkInterface) (model : Responder) : Prop where
  mac : interface.macAddress = model.mac
  ip : interface.ipv4Address = model.ip
  identification : interface.nextIpv4Identification = UInt16.ofNat model.answered
  listener : Describes (newListener model.ip) model.peers interface.tcpListener

namespace Implements

variable {self : NetworkInterface} {model : Responder}

lemma new (macAddress : MacAddress) (ipv4Address : Ipv4Addr) (cacheCapacity : ℕ) (cacheTtl retryInterval : Duration)
    (maxAttempts : UInt64) :
    Implements (withArpConfig macAddress ipv4Address cacheCapacity cacheTtl retryInterval maxAttempts)
      (Responder.new macAddress ipv4Address) where
  mac := rfl
  ip := rfl
  identification := rfl
  listener := Describes.new ipv4Address tcpEchoPort defaultTcpConnectionCapacity defaultTcpInitialSequence

variable (h : Implements self model)
include h

lemma replyFrame_eq (ethernet : EthernetFrame) (request : Ipv4Packet) (protocol : Ipv4Protocol) (payload : Bytes) :
    self.replyFrame ethernet request protocol payload =
      ⟨ethernet.sourceMac, model.mac, .ipv4, (model.packet request protocol payload).encode⟩ := by
  unfold replyFrame replyPacket Responder.packet
  rw [h.mac, h.ip, h.identification]

lemma sent : Implements self.sentIpv4 { model with answered := model.answered + 1 } where
  mac := h.mac
  ip := h.ip
  identification := by
    rw [UInt16.ofNat_add, ← h.identification]
    rfl
  listener := h.listener

lemma heard (call : Call) :
    (self.tcpListener.step call).1 =
        actionFor tcpEchoPort (hear tcpEchoPort defaultTcpInitialSequence call model.peers).1 ∧
      Implements (self.heard call)
        { model with peers := (hear tcpEchoPort defaultTcpInitialSequence call model.peers).2 } := by
  obtain ⟨haction, hlistener⟩ := h.listener.step call
  exact ⟨haction, h.mac, h.ip, h.identification, hlistener⟩

lemma tcpConnection (endpoint : Endpoint) :
    self.tcpConnection ⟨self.ipv4Address, tcpEchoPort, endpoint.ip, endpoint.port⟩ =
      (model.peers.find endpoint).map Peer.connection := by
  have hkey : self.tcpListener.keyOf endpoint = ⟨self.ipv4Address, tcpEchoPort, endpoint.ip, endpoint.port⟩ := by
    rw [TcpListener.keyOf, h.listener.localIp, h.listener.localPort, h.ip]
    rfl
  rw [← hkey]
  exact h.listener.connection endpoint

/-- **What is delivered is answered alike.** -/
theorem respond (now : Instant) (delivery : Delivery) :
    (self.respond now delivery).1 = (model.answer delivery).1.map EthernetFrame.encode ∧
      Implements (self.respond now delivery).2 (model.answer delivery).2 := by
  cases delivery with
  | ignored => exact ⟨rfl, h⟩
  | echo ethernet ipv4 message =>
    rw [NetworkInterface.respond, h.replyFrame_eq]
    exact ⟨rfl, h.sent⟩
  | datagram ethernet ipv4 request =>
    rw [NetworkInterface.respond, h.replyFrame_eq, h.ip]
    exact ⟨rfl, h.sent⟩
  | segment ethernet ipv4 request =>
    obtain ⟨haction, hheard⟩ := h.heard ⟨ipv4.source, request⟩
    rw [Responder.answer]
    generalize hear tcpEchoPort defaultTcpInitialSequence ⟨ipv4.source, request⟩ model.peers = result
      at haction hheard ⊢
    obtain ⟨asked, peers⟩ := result
    cases asked with
    | none =>
      rw [respond_of_noReply haction]
      exact ⟨rfl, hheard⟩
    | some peer =>
      rw [respond_of_sendSynAck haction, hheard.replyFrame_eq, h.ip]
      exact ⟨rfl, hheard.sent⟩
  | arp ethernet packet =>
    refine ⟨?_, h.mac, h.ip, h.identification, h.listener⟩
    rw [NetworkInterface.respond, Responder.answer, Option.map_map]
    unfold arpReplyFrame
    rw [h.mac, h.ip]
    rfl

/-- **One frame**: both give the same result, and go on alike. -/
theorem step (input : Bytes) (now : Instant) :
    ((processFrameAt input now).run self).1 = (Responder.step input model).1 ∧
      Implements ((processFrameAt input now).run self).2 (Responder.step input model).2 := by
  rw [processFrameAt_eq, Responder.step, h.mac, h.ip]
  cases demux model.mac model.ip input with
  | ok delivery =>
    obtain ⟨hanswer, hafter⟩ := h.respond now delivery
    exact ⟨congrArg Outcome.ok hanswer, hafter⟩
  | err e => exact ⟨rfl, h⟩
  | panic p => exact ⟨rfl, h⟩

end Implements

end NetworkInterface

/-- The frame that a call on an interface brings. -/
def Event.input : Event → Option Bytes
  | .frame input _ => some input
  | .lookup _ _ => none

/-- The result for a frame. -/
def Response.result : Response → Option (Outcome InterfaceError (Option Bytes))
  | .frame result => some result
  | .lookup _ => none

namespace NetworkInterface

/-- **An interface is, to the wire, a ledger of peers and a counter.**  In every run of a new interface the frames are
answered as the machine answers them, and its connections are those of the ledger; the clock, the lookups and the
settings of the ARP cache do not show. -/
theorem refines_responder (macAddress : MacAddress) (ipv4Address : Ipv4Addr) (cacheCapacity : ℕ)
    (cacheTtl retryInterval : Duration) (maxAttempts : UInt64) (events : List Event) :
    let self := withArpConfig macAddress ipv4Address cacheCapacity cacheTtl retryInterval maxAttempts
    (trace step self events).filterMap (fun t => t.output.result) =
        (trace Responder.step (Responder.new macAddress ipv4Address) (events.filterMap Event.input)).map
          Lib.Step.output ∧
      ∀ endpoint : Endpoint,
        (run step self events).tcpConnection ⟨ipv4Address, tcpEchoPort, endpoint.ip, endpoint.port⟩ =
          ((run Responder.step (Responder.new macAddress ipv4Address) (events.filterMap Event.input)).peers.find
            endpoint).map Peer.connection := by
  intro self
  have hown : ∀ event input s model, Implements s model → Event.input event = some input →
      Response.result (step event s).1 = some (Responder.step input model).1 ∧
        Implements (step event s).2 (Responder.step input model).2 := by
    rintro (⟨input, now⟩ | ⟨ip, now⟩) i s model h hinput
    · cases hinput
      obtain ⟨hresult, hafter⟩ := h.step input now
      exact ⟨congrArg some hresult, hafter⟩
    · cases hinput
  have hother : ∀ event s model, Implements s model → Event.input event = none →
      Response.result (step event s).1 = none ∧ Implements (step event s).2 model := by
    rintro (⟨input, now⟩ | ⟨ip, now⟩) s model h hinput
    · cases hinput
    · rw [step_lookup]
      exact ⟨rfl, h.mac, h.ip, h.identification, h.listener⟩
  obtain ⟨hresults, hrun⟩ := trace_simulates Implements Event.input Response.result hown hother
    (Implements.new macAddress ipv4Address cacheCapacity cacheTtl retryInterval maxAttempts) events
  refine ⟨hresults, fun endpoint => ?_⟩
  have hconnection := hrun.tcpConnection endpoint
  rwa [(run_addresses _ events).2] at hconnection

end NetworkInterface

end TcpIp.Interface
