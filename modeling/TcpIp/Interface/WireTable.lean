import TcpIp.Interface.Replies
import TcpIp.Tcp.Handshake

/-!
# The wire and the connection table

Runs of an interface: frames and lookups in any order, on an interface as `withArpConfig` makes it.

* an interface runs its listener: what happens to the listener in a run of the interface is a run of the listener
  (`run_listener`), so that what is known of runs of listeners is known here;
* a SYN-ACK on the wire says what the table says, and the ACK that it asks for establishes the connection, whatever
  comes in between (`wire_agrees_with_table`).
-/

namespace TcpIp.Interface

open TcpIp.Lib TcpIp.Arp TcpIp.Arp.Cache TcpIp.Icmp TcpIp.Ipv4 TcpIp.Tcp TcpIp.Tcp.Listener TcpIp.Tcp.Handshake
  TcpIp.Udp

/-- A call on an interface. -/
inductive Event where
  | frame (input : Bytes) (now : Instant)
  | lookup (ip : Ipv4Addr) (now : Instant)

/-- What a call on an interface returns. -/
inductive Response where
  | frame (result : Outcome InterfaceError (Option Bytes))
  | lookup (result : Outcome InterfaceError (Option MacAddress))

namespace NetworkInterface

/-- One call, as the step of a machine. -/
def step : Event → NetworkInterface → Response × NetworkInterface
  | .frame input now, self =>
    (.frame ((processFrameAt input now).run self).1, ((processFrameAt input now).run self).2)
  | .lookup ip now, self =>
    let call : Exec NetworkInterface InterfaceError (Option MacAddress) := cachedMac ip now
    (.lookup (call.run self).1, (call.run self).2)

/-! ### An interface runs its listener -/

section Runs

variable (self : NetworkInterface)

lemma step_lookup (ip : Ipv4Addr) (now : Instant) :
    (step (.lookup ip now) self).2 = { self with arpResolver := self.arpResolver.unexpired now } := by
  dsimp only [step, cachedMac, onResolver]
  rw [Exec.zoom_run, Resolver.ArpResolver.cachedMac_run]

lemma step_addresses (event : Event) : (step event self).2.macAddress = self.macAddress ∧
    (step event self).2.ipv4Address = self.ipv4Address := by
  cases event with
  | frame input now => exact processFrameAt_addresses self input now
  | lookup ip now =>
    rw [step_lookup]
    exact ⟨rfl, rfl⟩

lemma run_addresses (events : List Event) : (run step self events).macAddress = self.macAddress ∧
    (run step self events).ipv4Address = self.ipv4Address := by
  refine run_invariant (fun s : NetworkInterface => s.macAddress = self.macAddress ∧ s.ipv4Address = self.ipv4Address)
    (fun event s h => ?_) ⟨rfl, rfl⟩ events
  obtain ⟨hmac, hip⟩ := step_addresses s event
  exact ⟨hmac.trans h.1, hip.trans h.2⟩

lemma respond_listener (now : Instant) (delivery : Delivery) :
    (self.respond now delivery).2.tcpListener = delivery.hear self.tcpListener := by
  rw [respond_eq]
  rfl

lemma step_listener (event : Event) : ∃ calls,
    (step event self).2.tcpListener = run TcpListener.step self.tcpListener calls := by
  cases event with
  | lookup ip now =>
    rw [step_lookup]
    exact ⟨[], rfl⟩
  | frame input now =>
    rcases processFrameAt_parts self input now with ⟨e, -, hrun⟩ | ⟨delivery, -, -, hrun⟩
    · rw [step, hrun]
      exact ⟨[], rfl⟩
    · rw [step, hrun]
      cases delivery with
      | segment ethernet ipv4 request => exact ⟨[⟨ipv4.source, request⟩], rfl⟩
      | ignored => exact ⟨[], rfl⟩
      | echo ethernet ipv4 message => exact ⟨[], rfl⟩
      | datagram ethernet ipv4 request => exact ⟨[], rfl⟩
      | arp ethernet packet => exact ⟨[], rfl⟩

/-- **A run of an interface is a run of its listener.** -/
theorem run_listener (events : List Event) : ∃ calls,
    (run step self events).tcpListener = run TcpListener.step self.tcpListener calls := by
  refine run_invariant (fun s : NetworkInterface => ∃ calls, s.tcpListener =
    run TcpListener.step self.tcpListener calls) (fun event s h => ?_) ⟨[], rfl⟩ events
  obtain ⟨past, hpast⟩ := h
  obtain ⟨calls, hcalls⟩ := step_listener s event
  exact ⟨past ++ calls, by rw [run_append, ← hpast, hcalls]⟩

end Runs

/-! ### The SYN-ACK and its ACK -/

/-- The bytes carry a TCP segment, in an IPv4 packet, in an Ethernet frame. -/
structure Carries (out : Bytes) (frame : EthernetFrame) (packet : Ipv4Packet) (segment : TcpSegment) : Prop where
  parseFrame : parseEthFrame out = .ok frame
  etherType : frame.etherType = .ipv4
  parsePacket : parseIpv4Packet frame.payload = .ok packet
  protocol : packet.protocol = .tcp
  parseSegment : parseTcpSegment packet.payload = .ok segment

/-- The key of the connection that a sent segment belongs to. -/
def sentKey (packet : Ipv4Packet) (segment : TcpSegment) : TcpConnectionKey where
  localIp := packet.source
  localPort := segment.sourcePort
  remoteIp := packet.destination
  remotePort := segment.destinationPort

/-- The bytes are a valid frame with the pure ACK that answers the SYN-ACK `reply`. -/
def Acknowledges (frame : EthernetFrame) (packet : Ipv4Packet) (reply : TcpSegment) (input : Bytes) : Prop :=
  ∃ ethernet ipv4 segment, ForHost frame.sourceMac packet.source input ethernet ipv4 ∧ ipv4.protocol = .tcp ∧
    ipv4.source = packet.destination ∧
    validateTcpChecksum ipv4.source ipv4.destination ipv4.payload = .ok () ∧
    parseTcpSegment ipv4.payload = .ok segment ∧
    segment.sourcePort = reply.destinationPort ∧ segment.destinationPort = reply.sourcePort ∧
    segment.sequenceNumber = reply.acknowledgementNumber ∧
    segment.acknowledgementNumber = reply.sequenceNumber + 1 ∧ Bare TcpFlags.ack TcpFlags.syn segment

section WireTable

variable {self : NetworkInterface} {input out : Bytes} {now : Instant} {frame : EthernetFrame} {packet : Ipv4Packet}
  {reply : TcpSegment}

lemma Carries.of_replyFrame {data payload : Bytes} {ethernet : EthernetFrame} {request : Ipv4Packet}
    {protocol : Ipv4Protocol}
    (h : Carries (self.replyFrame ethernet request protocol payload).encode frame packet reply)
    (hrequest : parseIpv4Packet data = .ok request) (hnumber : Ipv4Protocol.fromU8 protocol.asU8 = protocol)
    (hpayload : payload.length ≤ 65515) : frame = self.replyFrame ethernet request protocol payload ∧
      packet = self.replyPacket request protocol payload ∧ protocol = .tcp ∧ parseTcpSegment payload = .ok reply := by
  obtain rfl := Outcome.ok.inj (h.parseFrame.symm.trans parse_replyFrame)
  obtain rfl := Outcome.ok.inj (h.parsePacket.symm.trans (parse_replyPacket hrequest hnumber hpayload))
  exact ⟨rfl, rfl, h.protocol, h.parseSegment⟩

/-- Where a TCP segment on the wire comes from. -/
lemma exists_synAck (h : ((processFrameAt input now).run self).1 = .ok (some out))
    (hcarries : Carries out frame packet reply) : ∃ call : Call, ∃ synAck, ∃ checksum,
      (self.tcpListener.step call).1 = .sendSynAck synAck ∧
      ((processFrameAt input now).run self).2.tcpListener = (self.tcpListener.step call).2 ∧
      frame.sourceMac = self.macAddress ∧ packet.source = self.ipv4Address ∧ packet.destination = call.remoteIp ∧
      reply = (synAckSegment synAck).received checksum := by
  obtain ⟨delivery, hdelivers, hrespond, hafter⟩ := exists_delivery h
  cases hdelivers with
  | ignored => cases hrespond
  | @echo ethernet ipv4 message host hprotocol hrequest =>
    obtain rfl := Option.some.inj hrespond
    obtain ⟨-, -, htcp, -⟩ := hcarries.of_replyFrame host.packet rfl (parse_echoReply host.packet hrequest).1
    cases htcp
  | @datagram ethernet ipv4 request host hprotocol hvalid hrequest =>
    obtain rfl := Option.some.inj hrespond
    obtain ⟨-, -, htcp, -⟩ := hcarries.of_replyFrame host.packet rfl
      (parse_echoDatagram host.packet hrequest self.ipv4Address ipv4.source).1
    cases htcp
  | @segment ethernet ipv4 request host hprotocol hvalid hrequest =>
    rw [hafter, respond_listener]
    cases haction : (self.tcpListener.step ⟨ipv4.source, request⟩).1 with
    | noReply =>
      rw [respond_of_noReply haction] at hrespond
      cases hrespond
    | sendSynAck synAck =>
      rw [respond_of_sendSynAck haction] at hrespond
      obtain rfl := Option.some.inj hrespond
      obtain ⟨hroom, -, hparse⟩ := parse_synAckSegment synAck self.ipv4Address ipv4.source
      obtain ⟨rfl, rfl, -, hsegment⟩ := hcarries.of_replyFrame host.packet rfl hroom
      exact ⟨⟨ipv4.source, request⟩, synAck, _, haction, rfl, rfl, rfl, rfl,
        Outcome.ok.inj (hsegment.symm.trans hparse)⟩
  | @arp ethernet request hframe htype hmac hpacket =>
    obtain ⟨arpReply, harp, rfl⟩ := Option.map_eq_some_iff.1 hrespond
    have hother := hcarries.etherType
    rw [Outcome.ok.inj (hcarries.parseFrame.symm.trans (parse_arpReplyFrame arpReply))] at hother
    cases hother

lemma processFrameAt_acknowledges (now : Instant) (h : Acknowledges frame packet reply input)
    (hmac : frame.sourceMac = self.macAddress) (hip : packet.source = self.ipv4Address) : ∃ segment,
      ((processFrameAt input now).run self).2.tcpListener =
        (self.tcpListener.step ⟨packet.destination, segment⟩).2 ∧
      segment.sourcePort = reply.destinationPort ∧ segment.destinationPort = reply.sourcePort ∧
      segment.sequenceNumber = reply.acknowledgementNumber ∧
      segment.acknowledgementNumber = reply.sequenceNumber + 1 ∧ Bare TcpFlags.ack TcpFlags.syn segment := by
  obtain ⟨ethernet, ipv4, segment, host, hprotocol, hsource, hvalid, hparse, hfields⟩ := h
  rw [hmac, hip] at host
  refine ⟨segment, ?_, hfields⟩
  rw [processFrameAt_eq, demux_of_forHost host, deliver_of_segment hprotocol hvalid hparse]
  show (self.respond now (.segment ethernet ipv4 segment)).2.tcpListener = _
  rw [respond_listener, ← hsource]
  rfl

/-- What a reachable interface knows of its listener. -/
structure Coherent (interface : NetworkInterface) : Prop where
  localIp : interface.tcpListener.localIp = interface.ipv4Address
  entries : ∀ key connection, interface.tcpListener.connection key = some connection →
    ∃ iss irs state, connection = connectionAt iss irs state

lemma coherent_run (macAddress : MacAddress) (ipv4Address : Ipv4Addr) (cacheCapacity : ℕ) (cacheTtl : Duration)
    (retryInterval : Duration) (maxAttempts : UInt64) (events : List Event) : Coherent (run step
      (withArpConfig macAddress ipv4Address cacheCapacity cacheTtl retryInterval maxAttempts) events) := by
  obtain ⟨calls, hcalls⟩ := run_listener
    (withArpConfig macAddress ipv4Address cacheCapacity cacheTtl retryInterval maxAttempts) events
  obtain ⟨-, hip⟩ := run_addresses
    (withArpConfig macAddress ipv4Address cacheCapacity cacheTtl retryInterval maxAttempts) events
  have hrepresents := represents_run (Represents.new ipv4Address tcpEchoPort defaultTcpConnectionCapacity
    defaultTcpInitialSequence) calls
  refine ⟨?_, fun key connection hconnection => ?_⟩
  · rw [hcalls, hip]
    exact hrepresents.localIp
  · rw [hcalls] at hconnection
    exact hrepresents.connection_eq hconnection

end WireTable

/-- **Wire and table agree.**  After a SYN-ACK was sent the table has the half-open connection that it speaks of; and
the ACK that it asks for establishes the connection, whatever comes in between. -/
theorem wire_agrees_with_table (macAddress : MacAddress) (ipv4Address : Ipv4Addr) (cacheCapacity : ℕ)
    (cacheTtl : Duration) (retryInterval : Duration) (maxAttempts : UInt64) (past : List Event) (input : Bytes)
    (now : Instant) {out : Bytes} {frame : EthernetFrame} {packet : Ipv4Packet} {reply : TcpSegment} :
    let self := run step (withArpConfig macAddress ipv4Address cacheCapacity cacheTtl retryInterval maxAttempts) past
    let after := ((processFrameAt input now).run self).2
    ((processFrameAt input now).run self).1 = .ok (some out) → Carries out frame packet reply →
      (∃ connection, after.tcpConnection (sentKey packet reply) = some connection ∧ connection.state = .synReceived ∧
        connection.initialSendSequence = reply.sequenceNumber ∧
        connection.receiveNext = reply.acknowledgementNumber) ∧
      ∀ between ack now', Acknowledges frame packet reply ack →
        ∃ connection, ((processFrameAt ack now').run (run step after between)).2.tcpConnection
          (sentKey packet reply) = some connection ∧ connection.state = .established := by
  intro self after hreply hcarries
  have hcoherent : Coherent self := coherent_run ..
  have hcoherent' : Coherent after := by
    have hrun := coherent_run macAddress ipv4Address cacheCapacity cacheTtl retryInterval maxAttempts
      (past ++ [.frame input now])
    rwa [run_snoc] at hrun
  obtain ⟨call, synAck, checksum, haction, hafter, hmac, hip, hremote, rfl⟩ := exists_synAck hreply hcarries
  obtain ⟨hsyn, connection, hfound, hhalf, -, rfl⟩ := TcpListener.step_eq_sendSynAck_iff.1 haction
  have hkey : sentKey packet ((synAckSegment (Listener.synAck (self.tcpListener.keyOf call.endpoint)
      connection)).received checksum) = self.tcpListener.keyOf call.endpoint := by
    unfold sentKey
    rw [hip, hremote, ← hcoherent.localIp]
    rfl
  rw [← hafter] at hfound
  rw [hkey]
  refine ⟨⟨connection, hfound, hhalf, rfl, rfl⟩, fun between ack now' hack => ?_⟩
  obtain ⟨hmac', hip'⟩ := run_addresses after between
  obtain ⟨hmac'', hip''⟩ := processFrameAt_addresses self input now
  obtain ⟨calls, hcalls⟩ := run_listener after between
  obtain ⟨segment, hlistener, hsource, hdestination, hsequence, hacknowledgement, hpure⟩ :=
    processFrameAt_acknowledges now' hack (hmac.trans (hmac'.trans hmac'').symm)
      (hip.trans (hip'.trans hip'').symm)
  obtain ⟨-, hport, -⟩ := TcpListener.step_fields self.tcpListener call
  obtain ⟨iss, irs, state, rfl⟩ := hcoherent'.entries _ _ hfound
  have hkeyOf : ∀ e, after.tcpListener.keyOf e = self.tcpListener.keyOf e := by
    intro e
    rw [hafter]
    exact TcpListener.step_keyOf self.tcpListener call e
  have hanswers : Handshake.Answers after.tcpListener.localPort call.endpoint (connectionAt iss irs state)
      ⟨packet.destination, segment⟩ := by
    refine ⟨?_, ⟨?_, ?_, hpure⟩, hsequence, hacknowledgement⟩
    · rw [Call.endpoint, hremote, hsource]
      rfl
    · rw [hafter, hport]
      exact hdestination
    · rw [hsource]
      exact hsyn.2.1
  have hestablished := established_of_answers call.endpoint ((hkeyOf _).symm ▸ hfound) rfl rfl
    (fun h => by cases hhalf.symm.trans h) calls hanswers []
  refine ⟨TcpListener.completed (connectionAt iss irs state), ?_, rfl⟩
  rw [run_snoc, ← hcalls, ← hlistener, hkeyOf] at hestablished
  exact hestablished

/-- The handshake of the tests, with other calls in between. -/
theorem wire_agrees_with_table_handshake : ∃ connection, ((processFrameAt (TestFrames.tcpFrame 0xaabbccde 0x12345679
      TcpFlags.ack) 11).run (run step ((processFrameAt (TestFrames.tcpFrame 0xaabbccdd 0 TcpFlags.syn) 7).run
        TestFrames.interface).2 [.frame TestFrames.arpRequestFrame 8, .lookup TestFrames.remoteIp 10])).2.tcpConnection
      ⟨TestFrames.localIp, 9000, TestFrames.remoteIp, 49152⟩ = some connection ∧ connection.state = .established := by
  have hreply : ((processFrameAt (TestFrames.tcpFrame 0xaabbccdd 0 TcpFlags.syn) 7).run TestFrames.interface).1 =
      .ok (some [2, 0, 0, 0, 0, 2, 2, 0, 0, 0, 0, 1, 8, 0, 69, 0, 0, 40, 0, 0, 0, 0, 64, 6, 102, 206, 10, 0, 0, 2,
        10, 0, 0, 1, 35, 40, 192, 0, 18, 52, 86, 120, 170, 187, 204, 222, 80, 18, 250, 240, 221, 111, 0, 0]) := by
    decide +kernel
  have hcarries : Carries [2, 0, 0, 0, 0, 2, 2, 0, 0, 0, 0, 1, 8, 0, 69, 0, 0, 40, 0, 0, 0, 0, 64, 6, 102, 206, 10, 0,
        0, 2, 10, 0, 0, 1, 35, 40, 192, 0, 18, 52, 86, 120, 170, 187, 204, 222, 80, 18, 250, 240, 221, 111, 0, 0]
      ⟨TestFrames.remoteMac, TestFrames.localMac, .ipv4, [69, 0, 0, 40, 0, 0, 0, 0, 64, 6, 102, 206, 10, 0, 0, 2,
        10, 0, 0, 1, 35, 40, 192, 0, 18, 52, 86, 120, 170, 187, 204, 222, 80, 18, 250, 240, 221, 111, 0, 0]⟩
      ⟨0, 0, 0, 64, .tcp, false, false, 0, TestFrames.localIp, TestFrames.remoteIp, [],
        [35, 40, 192, 0, 18, 52, 86, 120, 170, 187, 204, 222, 80, 18, 250, 240, 221, 111, 0, 0], []⟩
      ⟨9000, 49152, 0x12345678, 0xaabbccde, 5, 0, ⟨0x12⟩, 64240, 0xdd6f, 0, [], []⟩ :=
    ⟨by decide +kernel, rfl, by decide +kernel, rfl, by decide +kernel⟩
  obtain ⟨-, hestablished⟩ := wire_agrees_with_table TestFrames.localMac TestFrames.localIp defaultArpCacheCapacity
    defaultArpCacheTtl defaultArpRetryInterval defaultArpMaxAttempts [] (TestFrames.tcpFrame 0xaabbccdd 0 TcpFlags.syn)
    7 hreply hcarries
  refine hestablished [.frame TestFrames.arpRequestFrame 8, .lookup TestFrames.remoteIp 10]
    (TestFrames.tcpFrame 0xaabbccde 0x12345679 TcpFlags.ack) 11 ?_
  exact ⟨⟨TestFrames.localMac, TestFrames.remoteMac, .ipv4,
      (TestFrames.tcpFrame 0xaabbccde 0x12345679 TcpFlags.ack).drop 14⟩,
    ⟨0, 0, 0xabcd, 64, .tcp, false, false, 0, TestFrames.remoteIp, TestFrames.localIp, [],
      (TestFrames.tcpFrame 0xaabbccde 0x12345679 TcpFlags.ack).drop 34, []⟩,
    ⟨49152, 9000, 0xaabbccde, 0x12345679, 5, 0, ⟨0x10⟩, 32768, 0x5861, 0, [], []⟩,
    ⟨by decide +kernel, rfl, rfl, by decide +kernel, rfl, rfl, rfl⟩, rfl, rfl, by decide +kernel, by decide +kernel,
    rfl, rfl, rfl, by decide, by decide⟩

end NetworkInterface

end TcpIp.Interface
