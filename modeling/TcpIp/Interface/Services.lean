import TcpIp.Interface.Duplicates
import TcpIp.Interface.Identification
import TcpIp.Lib.Interleaving
import TcpIp.Lib.Words

/-!
# The services of the stack

Address resolution, ICMP echo, UDP echo and the TCP listener share one interface.

* `Event.service` — the service that a call is for; it depends on the addresses of the interface and on the frame;
* `Response.unnumbered` — what is answered, without the identification of an IPv4 packet and the header checksum;
* `services_apart` — what one service answers in a run, and where it ends, does not depend on the calls for the others.
-/

namespace TcpIp.Interface

open TcpIp.Lib TcpIp.Arp TcpIp.Arp.Cache TcpIp.Arp.Resolver TcpIp.Icmp TcpIp.Ipv4 TcpIp.Tcp TcpIp.Tcp.Listener
  TcpIp.Udp

inductive Service where
  | arp | icmp | udp | tcp | nobody
  deriving DecidableEq, Repr

def Delivery.service : Delivery → Service
  | .ignored => .nobody
  | .echo _ _ _ => .icmp
  | .datagram _ _ _ => .udp
  | .segment _ _ _ => .tcp
  | .arp _ _ => .arp

/-- The service of a frame that is refused is nobody's. -/
def Event.service (mac : MacAddress) (ip : Ipv4Addr) : Event → Service
  | .frame input _ =>
    match demux mac ip input with
    | .ok delivery => delivery.service
    | .err _ | .panic _ => .nobody
  | .lookup _ _ => .arp

/-- The frame with zeros for the identification and the header checksum. -/
def unnumberedFrame (out : Bytes) : Bytes := replaceWord (replaceWord out 18 0) 24 0

/-- The response without the identification of an IPv4 reply, and without the checksum that covers it. -/
def Response.unnumbered (response : Response) : Response :=
  match response, response.ipv4Reply with
  | .frame (.ok (some out)), some _ => .frame (.ok (some (unnumberedFrame out)))
  | response, _ => response

namespace NetworkInterface

/-- One call, without the numbers in the reply. -/
def unnumberedStep (event : Event) (self : NetworkInterface) : Response × NetworkInterface :=
  ((step event self).1.unnumbered, (step event self).2)

/-- Two interfaces that a service cannot tell apart. -/
structure Alike (service : Service) (s t : NetworkInterface) : Prop where
  mac : s.macAddress = t.macAddress
  ip : s.ipv4Address = t.ipv4Address
  tcp : service = .tcp → s.tcpListener = t.tcpListener
  arp : service = .arp → s.arpResolver = t.arpResolver

section Alike

variable {s t : NetworkInterface} {service : Service} {event : Event} {input : Bytes} {now : Instant}

lemma unnumbered_replyFrame (hmac : s.macAddress = t.macAddress) (hip : s.ipv4Address = t.ipv4Address)
    (ethernet : EthernetFrame) (request : Ipv4Packet) (protocol : Ipv4Protocol) (payload : Bytes) :
    unnumberedFrame (s.replyFrame ethernet request protocol payload).encode =
      unnumberedFrame (t.replyFrame ethernet request protocol payload).encode := by
  have hblank : ∀ self : NetworkInterface, unnumberedFrame (self.replyFrame ethernet request protocol payload).encode =
      ethernet.sourceMac.octets ++ self.macAddress.octets ++ u16ToBeBytes 0x0800 ++
        (self.replyPacket request protocol payload).headerTop.take 4 ++ u16ToBeBytes 0 ++
        (self.replyPacket request protocol payload).headerTop.drop 6 ++ u16ToBeBytes 0 ++
        ((self.replyPacket request protocol payload).headerBottom ++ payload) := by
    intro self
    let packet := self.replyPacket request protocol payload
    let top := ethernet.sourceMac.octets ++ self.macAddress.octets ++ u16ToBeBytes 0x0800 ++ packet.headerTop.take 4
    let checksum := Checksum.internetChecksum (packet.header 0)
    have hbytes : (self.replyFrame ethernet request protocol payload).encode = top ++
        u16ToBeBytes self.nextIpv4Identification ++
          (packet.headerTop.drop 6 ++ u16ToBeBytes checksum ++ (packet.headerBottom ++ payload)) := rfl
    have hfirst := replaceWord_mid (show top.length = 18 from rfl) self.nextIpv4Identification 0
      (packet.headerTop.drop 6 ++ u16ToBeBytes checksum ++ (packet.headerBottom ++ payload))
    have hsecond := replaceWord_mid (show (top ++ u16ToBeBytes 0 ++ packet.headerTop.drop 6).length = 24 from rfl)
      checksum 0 (packet.headerBottom ++ payload)
    rw [unnumberedFrame, hbytes, hfirst]
    simp only [List.append_assoc] at hsecond ⊢
    exact hsecond
  rw [hblank, hblank]
  simp only [replyPacket, Ipv4Packet.headerTop, Ipv4Packet.headerBottom, Ipv4Packet.totalLen, Ipv4Packet.headerLen,
    Ipv4Packet.flagsWord, hmac, hip]
  rfl

lemma unnumbered_of_replyFrame (self : NetworkInterface) (ethernet : EthernetFrame) (request : Ipv4Packet)
    (protocol : Ipv4Protocol) (payload : Bytes) :
    (Response.frame (.ok (some (self.replyFrame ethernet request protocol payload).encode))).unnumbered =
      .frame (.ok (some (unnumberedFrame (self.replyFrame ethernet request protocol payload).encode))) := by
  have hreply : (Response.frame (.ok (some (self.replyFrame ethernet request protocol payload).encode))).ipv4Reply =
      some (self.replyFrame ethernet request protocol payload) := ipv4Reply_of_frame parse_replyFrame
  unfold Response.unnumbered
  rw [hreply]

namespace Alike

variable (h : Alike service s t)
include h

lemma replyTo {delivery : Delivery} (hservice : delivery.service = service) :
    s.replyTo delivery = t.replyTo delivery := by
  cases delivery with
  | ignored => rfl
  | echo ethernet ipv4 message => rfl
  | datagram ethernet ipv4 request => rw [NetworkInterface.replyTo, NetworkInterface.replyTo, h.ip]
  | segment ethernet ipv4 request =>
    rw [NetworkInterface.replyTo, NetworkInterface.replyTo, h.tcp hservice.symm, h.ip]
  | arp ethernet packet => rw [NetworkInterface.replyTo, NetworkInterface.replyTo, h.mac, h.ip]

lemma unnumbered_frameOf (reply : Reply) :
    (Response.frame (.ok ((s.frameOf reply).map EthernetFrame.encode))).unnumbered =
      (Response.frame (.ok ((t.frameOf reply).map EthernetFrame.encode))).unnumbered := by
  cases reply with
  | nothing => rfl
  | ipv4 ethernet request protocol payload =>
    have hsame := unnumbered_replyFrame h.mac h.ip ethernet request protocol payload
    refine (unnumbered_of_replyFrame s ..).trans (Eq.trans ?_ (unnumbered_of_replyFrame t ..).symm)
    rw [hsame]
  | arp packet => rw [frameOf, frameOf, arpReplyFrame, arpReplyFrame, h.mac]

lemma answer (hservice : event.service s.macAddress s.ipv4Address = service) :
    (unnumberedStep event s).1 = (unnumberedStep event t).1 := by
  cases event with
  | lookup ip now =>
    have hresolver : s.arpResolver = t.arpResolver := h.arp hservice.symm
    show (Response.lookup _).unnumbered = (Response.lookup _).unnumbered
    rw [cachedMac, onResolver, Exec.zoom_run, Exec.zoom_run, hresolver]
  | frame input now =>
    show (Response.frame _).unnumbered = (Response.frame _).unnumbered
    rcases processFrameAt_parts s input now with ⟨e, hdemux, hrun⟩ | ⟨delivery, hdemux, -, hrun⟩
    · rw [hrun, processFrameAt_eq, ← h.mac, ← h.ip, hdemux]
      rfl
    · have hdelivery : delivery.service = service := by rwa [Event.service, hdemux] at hservice
      rw [hrun, processFrameAt_eq, ← h.mac, ← h.ip, hdemux, NetworkInterface.answer, respond_eq, h.replyTo hdelivery]
      exact h.unnumbered_frameOf _

lemma own (hservice : event.service s.macAddress s.ipv4Address = service) :
    Alike service (step event s).2 (step event t).2 := by
  obtain ⟨hmac, hip⟩ := step_addresses s event
  obtain ⟨hmac', hip'⟩ := step_addresses t event
  refine ⟨by rw [hmac, hmac', h.mac], by rw [hip, hip', h.ip], fun htcp => ?_, fun harp => ?_⟩
  · have hlistener := h.tcp htcp
    cases event with
    | lookup ip now =>
      rw [step_lookup, step_lookup]
      exact hlistener
    | frame input now =>
      rw [step, step, processFrameAt_eq, processFrameAt_eq, ← h.mac, ← h.ip]
      cases demux s.macAddress s.ipv4Address input with
      | ok delivery =>
        show (s.respond now delivery).2.tcpListener = (t.respond now delivery).2.tcpListener
        rw [respond_listener, respond_listener, hlistener]
      | err e => exact hlistener
      | panic p => exact hlistener
  · have hresolver := h.arp harp
    cases event with
    | lookup ip now =>
      rw [step_lookup, step_lookup, hresolver]
    | frame input now =>
      rw [step, step, processFrameAt_eq, processFrameAt_eq, ← h.mac, ← h.ip]
      cases demux s.macAddress s.ipv4Address input with
      | ok delivery =>
        show (s.respond now delivery).2.arpResolver = (t.respond now delivery).2.arpResolver
        rw [respond_eq, respond_eq, changed, changed, hresolver]
      | err e => exact hresolver
      | panic p => exact hresolver

lemma other (hservice : event.service s.macAddress s.ipv4Address ≠ service) : Alike service (step event s).2 t := by
  obtain ⟨hmac, hip⟩ := step_addresses s event
  refine ⟨hmac.trans h.mac, hip.trans h.ip, fun htcp => ?_, fun harp => ?_⟩
  · rw [← h.tcp htcp]
    cases event with
    | lookup ip now => rw [step_lookup]
    | frame input now =>
      rcases processFrameAt_parts s input now with ⟨e, -, hrun⟩ | ⟨delivery, hdemux, -, hrun⟩
      · rw [step, hrun]
      · rw [step, hrun]
        cases delivery with
        | segment ethernet ipv4 request =>
          rw [Event.service, hdemux, htcp] at hservice
          exact absurd rfl hservice
        | ignored => rfl
        | echo ethernet ipv4 message => rfl
        | datagram ethernet ipv4 request => rfl
        | arp ethernet packet => rfl
  · rw [← h.arp harp]
    cases event with
    | lookup ip now =>
      rw [Event.service, harp] at hservice
      exact absurd rfl hservice
    | frame input now =>
      rcases processFrameAt_parts s input now with ⟨e, -, hrun⟩ | ⟨delivery, hdemux, -, hrun⟩
      · rw [step, hrun]
      · rw [step, hrun]
        cases delivery with
        | arp ethernet packet =>
          rw [Event.service, hdemux, harp] at hservice
          exact absurd rfl hservice
        | ignored => rfl
        | echo ethernet ipv4 message => rfl
        | datagram ethernet ipv4 request => rfl
        | segment ethernet ipv4 request => rfl

end Alike

lemma looksAlike (mac : MacAddress) (ip : Ipv4Addr) (service : Service) :
    LooksAlike (Event.service mac ip) unnumberedStep service fun s t =>
      s.macAddress = mac ∧ s.ipv4Address = ip ∧ Alike service s t where
  answer event s t hservice h := by
    obtain ⟨rfl, rfl, halike⟩ := h
    exact halike.answer hservice
  own event s t hservice h := by
    obtain ⟨rfl, rfl, halike⟩ := h
    obtain ⟨hmac, hip⟩ := step_addresses s event
    exact ⟨hmac, hip, halike.own hservice⟩
  other event s t hservice h := by
    obtain ⟨rfl, rfl, halike⟩ := h
    obtain ⟨hmac, hip⟩ := step_addresses s event
    exact ⟨hmac, hip, halike.other hservice⟩

end Alike

/-- **The services do not meet.**  In every run of an interface, what the calls for one service are answered is what
they are answered in the run of these calls alone, but for the identification of an IPv4 reply and the checksum of its
header; and the listener and the resolver end in the state in which their own calls alone leave them. -/
theorem services_apart (self : NetworkInterface) (events : List Event) (service : Service) :
    let owner := Event.service self.macAddress self.ipv4Address
    let own := events.filter fun event => owner event = service
    answersTo owner service (trace unnumberedStep self events) =
      answersTo owner service (trace unnumberedStep self own) ∧
    (service = .tcp → (run step self events).tcpListener = (run step self own).tcpListener) ∧
    (service = .arp → (run step self events).arpResolver = (run step self own).arpResolver) := by
  intro owner own
  have hself : Alike service self self := ⟨rfl, rfl, fun _ => rfl, fun _ => rfl⟩
  obtain ⟨⟨-, -, halike⟩, hanswers⟩ :=
    (looksAlike self.macAddress self.ipv4Address service).run_own ⟨rfl, rfl, hself⟩ events
  exact ⟨hanswers, halike.tcp, halike.arp⟩

end NetworkInterface

end TcpIp.Interface
