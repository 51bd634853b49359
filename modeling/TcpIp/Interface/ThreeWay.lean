import TcpIp.Interface.Components

/-!
# The handshake on the wire

A connection of an interface, seen from the frames that it receives and sends.

* `carries_synAck` — the frame with which an interface answers a SYN that enters the table;
* `acknowledges_of_answers` — the frame that brings the ACK of a connection to its listener acknowledges that frame;
* `established_on_wire_iff` — a connection is established exactly when its SYN, the SYN-ACK and the ACK of the SYN-ACK
  went over the wire in this order, and no other TCP segment is sent than SYN-ACKs.
-/

namespace TcpIp.Interface

open TcpIp.Lib TcpIp.Arp TcpIp.Arp.Cache TcpIp.Icmp TcpIp.Ipv4 TcpIp.Tcp TcpIp.Tcp.Listener TcpIp.Tcp.Handshake
  TcpIp.Udp

lemma Event.exists_frame_of_segment {mac : MacAddress} {ip : Ipv4Addr} {event : Event} {call : Call}
    (h : event.segment mac ip = some call) : ∃ input now ethernet ipv4, event = .frame input now ∧
      demux mac ip input = .ok (.segment ethernet ipv4 call.segment) ∧ call.remoteIp = ipv4.source := by
  cases event with
  | lookup target now => cases h
  | frame input now =>
    rw [segment] at h
    split at h
    next ethernet ipv4 request hdemux =>
      cases h
      exact ⟨input, now, ethernet, ipv4, rfl, hdemux, rfl⟩
    · cases h

namespace NetworkInterface

variable {self : NetworkInterface} {input : Bytes} {now : Instant} {ethernet : EthernetFrame} {ipv4 : Ipv4Packet}
  {request : TcpSegment}

/-- The frame `out` carries the SYN-ACK of the connection that `call` brought into the table of `interface`. -/
structure SynAckFrame (interface : NetworkInterface) (call : Call) (out : Bytes) (frame : EthernetFrame)
    (packet : Ipv4Packet) (reply : TcpSegment) : Prop where
  carries : Carries out frame packet reply
  sourceMac : frame.sourceMac = interface.macAddress
  source : packet.source = interface.ipv4Address
  destination : packet.destination = call.remoteIp
  sourcePort : reply.sourcePort = interface.tcpListener.localPort
  destinationPort : reply.destinationPort = call.segment.sourcePort
  flags : reply.flags = TcpFlags.syn ||| TcpFlags.ack
  sequence : reply.sequenceNumber = interface.tcpListener.nextInitialSequence
  acknowledgement : reply.acknowledgementNumber = call.segment.sequenceNumber + 1

/-- **A SYN that enters the table is answered with its SYN-ACK.** -/
lemma carries_synAck (hdemux : demux self.macAddress self.ipv4Address input = .ok (.segment ethernet ipv4 request))
    (hadmits : self.tcpListener.Admits ⟨ipv4.source, request⟩) (now : Instant) : ∃ out frame packet reply,
      ((processFrameAt input now).run self).1 = .ok (some out) ∧ frame.destinationMac = ethernet.sourceMac ∧
      SynAckFrame self ⟨ipv4.source, request⟩ out frame packet reply := by
  let connection := self.tcpListener.newConnection request
  let synAck := Listener.synAck (self.tcpListener.keyOf ⟨ipv4.source, request.sourcePort⟩) connection
  have haction : (self.tcpListener.step ⟨ipv4.source, request⟩).1 = .sendSynAck synAck :=
    TcpListener.step_eq_sendSynAck_iff.2
      ⟨hadmits.syn, connection, TcpListener.connection_step_of_admits hadmits, rfl, rfl, rfl⟩
  have hdelivers := delivers_of_demux hdemux
  cases hdelivers with
  | segment host hprotocol hvalid hparse =>
    obtain ⟨hroom, -, hreparse⟩ := parse_synAckSegment synAck self.ipv4Address ipv4.source
    let heard := self.heard ⟨ipv4.source, request⟩
    let payload := (synAckSegment synAck).encode self.ipv4Address ipv4.source
    have hpacket : parseIpv4Packet (heard.replyFrame ethernet ipv4 .tcp payload).payload =
        .ok (heard.replyPacket ipv4 .tcp payload) := parse_replyPacket host.packet rfl hroom
    refine ⟨(heard.replyFrame ethernet ipv4 .tcp payload).encode, heard.replyFrame ethernet ipv4 .tcp payload,
      heard.replyPacket ipv4 .tcp payload, _, ?_, rfl, ⟨parse_replyFrame, rfl, hpacket, rfl, hreparse⟩, rfl, rfl, rfl,
      rfl, rfl, rfl, rfl, rfl⟩
    rw [processFrameAt_eq, hdemux, answer, respond_of_sendSynAck haction]

lemma acknowledges_of_answers {call ack : Call} {out : Bytes} {frame : EthernetFrame} {packet : Ipv4Packet}
    {reply : TcpSegment} (hreply : SynAckFrame self call out frame packet reply)
    (hdemux : demux self.macAddress self.ipv4Address input = .ok (.segment ethernet ipv4 ack.segment))
    (hremote : ack.remoteIp = ipv4.source) (hanswers : Handshake.Answers self.tcpListener.localPort call.endpoint
      (self.tcpListener.newConnection call.segment) ack) : Acknowledges frame packet reply input := by
  have hendpoint := hanswers.endpoint_eq
  simp only [Call.endpoint, Endpoint.mk.injEq] at hendpoint
  obtain ⟨hip, hport⟩ := hendpoint
  have hdelivers := delivers_of_demux hdemux
  cases hdelivers with
  | segment host hprotocol hvalid hparse =>
    refine ⟨ethernet, ipv4, ack.segment, ?_, hprotocol, ?_, hvalid, hparse, ?_, ?_, ?_, ?_, hanswers.ack.2.2⟩
    · rw [hreply.sourceMac, hreply.source]
      exact host
    · rw [hreply.destination, ← hip, hremote]
    · rw [hreply.destinationPort, hport]
    · rw [hreply.sourcePort]
      exact hanswers.ack.1
    · rw [hreply.acknowledgement]
      exact hanswers.sequence
    · rw [hreply.sequence]
      exact hanswers.acknowledgement

/-- A SYN-ACK on the wire is that of a connection of its endpoint, which the table has after it. -/
lemma exists_connection_of_carries {out : Bytes} {frame : EthernetFrame} {packet : Ipv4Packet} {reply : TcpSegment}
    (hsent : ((processFrameAt input now).run self).1 = .ok (some out)) (hcarries : Carries out frame packet reply) :
    ∃ connection,
      let after := ((processFrameAt input now).run self).2
      after.tcpListener.connection (after.tcpListener.keyOf ⟨packet.destination, reply.destinationPort⟩) =
        some connection ∧ connection.state = .synReceived ∧ frame.sourceMac = self.macAddress ∧
      packet.source = self.ipv4Address ∧ reply.sourcePort = after.tcpListener.localPort ∧
      reply.destinationPort ≠ 0 ∧ reply.sequenceNumber = connection.initialSendSequence ∧
      reply.acknowledgementNumber = connection.receiveNext := by
  obtain ⟨call, synAck, checksum, haction, hafter, hmac, hip, hremote, rfl⟩ := exists_synAck hsent hcarries
  obtain ⟨hsyn, connection, hfound, hhalf, -, rfl⟩ := TcpListener.step_eq_sendSynAck_iff.1 haction
  refine ⟨connection, ?_⟩
  dsimp only
  rw [hafter, TcpListener.step_keyOf, hremote]
  obtain ⟨-, hport, -⟩ := TcpListener.step_fields self.tcpListener call
  exact ⟨hfound, hhalf, hmac, hip, hport.symm, hsyn.2.1, rfl, rfl⟩

lemma flags_of_carries {out : Bytes} {frame : EthernetFrame} {packet : Ipv4Packet} {reply : TcpSegment}
    (hsent : ((processFrameAt input now).run self).1 = .ok (some out)) (hcarries : Carries out frame packet reply) :
    reply.flags = TcpFlags.syn ||| TcpFlags.ack := by
  obtain ⟨-, -, -, -, -, -, -, -, rfl⟩ := exists_synAck hsent hcarries
  rfl

section NewInterface

variable (macAddress : MacAddress) (ipv4Address : Ipv4Addr) (cacheCapacity : ℕ) (cacheTtl retryInterval : Duration)
  (maxAttempts : UInt64)

lemma run_listener_fields (events : List Event) :
    let listener := (run step
      (withArpConfig macAddress ipv4Address cacheCapacity cacheTtl retryInterval maxAttempts) events).tcpListener
    listener.localPort = tcpEchoPort ∧ listener.capacity = defaultTcpConnectionCapacity ∧
      ∀ endpoint : Endpoint, listener.keyOf endpoint = ⟨ipv4Address, tcpEchoPort, endpoint.ip, endpoint.port⟩ := by
  intro listener
  have hlistener : listener = _ := run_tcpListener _ events
  rw [hlistener]
  obtain ⟨-, hport, hcapacity⟩ := run_fields (TcpListener.new ipv4Address tcpEchoPort defaultTcpConnectionCapacity
    defaultTcpInitialSequence) (events.filterMap (Event.segment macAddress ipv4Address))
  exact ⟨hport, hcapacity, run_keyOf _ _⟩

/-- A SYN-ACK that is acknowledged has established its connection, whatever comes in between and after. -/
lemma established_of_acknowledges (past between future : List Event) {syn ack out : Bytes} {now now' : Instant}
    {frame : EthernetFrame} {packet : Ipv4Packet} {reply : TcpSegment} :
    let start := withArpConfig macAddress ipv4Address cacheCapacity cacheTtl retryInterval maxAttempts
    ((processFrameAt syn now).run (run step start past)).1 = .ok (some out) → Carries out frame packet reply →
      Acknowledges frame packet reply ack → ∃ connection,
        (run step start (past ++ .frame syn now :: (between ++ .frame ack now' :: future))).tcpConnection
          ⟨ipv4Address, tcpEchoPort, packet.destination, reply.destinationPort⟩ = some connection ∧
        connection.state = .established ∧ connection.initialSendSequence = reply.sequenceNumber ∧
        connection.receiveNext = reply.acknowledgementNumber := by
  intro start hout hcarries hack
  obtain ⟨connection, hfound, hhalf, hmac, hsource, hlocal, hnonzero, hsequence, hnext⟩ :=
    exists_connection_of_carries hout hcarries
  obtain ⟨hmac', hip'⟩ := processFrameAt_addresses (run step start past) syn now
  have hsnoc : run step start (past ++ [.frame syn now]) =
      ((processFrameAt syn now).run (run step start past)).2 := run_snoc start past _
  have hcoherent : Coherent (run step start (past ++ [.frame syn now])) := coherent_run ..
  obtain ⟨-, -, hkeyOf⟩ := run_listener_fields macAddress ipv4Address cacheCapacity cacheTtl retryInterval maxAttempts
    (past ++ [.frame syn now])
  have hevents : run step start (past ++ .frame syn now :: (between ++ .frame ack now' :: future)) =
      run step (run step ((processFrameAt syn now).run (run step start past)).2 between)
        (.frame ack now' :: future) := by
    rw [run_append, run_cons, run_append]
    rfl
  rw [hsnoc] at hcoherent hkeyOf
  rw [hevents, run_cons]
  generalize ((processFrameAt syn now).run (run step start past)).2 = after at *
  obtain ⟨iss, irs, state, rfl⟩ := hcoherent.entries _ _ hfound
  obtain ⟨calls, hcalls⟩ := run_listener after between
  obtain ⟨hmac'', hip''⟩ := run_addresses after between
  obtain ⟨segment, hstep, hsourcePort, hdestinationPort, hsegment, hsegmentAck, hpure⟩ :=
    processFrameAt_acknowledges now' hack (hmac.trans (hmac''.trans hmac').symm)
      (hsource.trans (hip''.trans hip').symm)
  obtain ⟨later, hlater⟩ := run_listener ((processFrameAt ack now').run (run step after between)).2 future
  have hanswers : Handshake.Answers after.tcpListener.localPort ⟨packet.destination, reply.destinationPort⟩
      (connectionAt iss irs state) ⟨packet.destination, segment⟩ := by
    refine ⟨?_, ⟨?_, ?_, hpure⟩, ?_, ?_⟩
    · rw [Call.endpoint, hsourcePort]
    · rw [hdestinationPort, hlocal]
    · rw [hsourcePort]
      exact hnonzero
    · rw [hsegment, hnext]
      rfl
    · rw [hsegmentAck, hsequence]
  have hestablished := established_of_answers _ hfound rfl rfl (fun h => by cases hhalf.symm.trans h) calls hanswers
    later
  rw [hkeyOf, run_append, run_cons, ← hcalls, ← hstep, ← hlater] at hestablished
  exact ⟨_, hestablished, rfl, hsequence.symm, hnext.symm⟩

/-- **The handshake of a connection is on the wire.**  In a run of a new interface, a connection is established if and
only if some frame was answered with a SYN-ACK for its endpoint and a later frame acknowledges that SYN-ACK, whatever
came before, in between and after; and every TCP segment that is sent has the flags SYN and ACK. -/
theorem established_on_wire_iff (events : List Event) (endpoint : Endpoint) :
    let start := withArpConfig macAddress ipv4Address cacheCapacity cacheTtl retryInterval maxAttempts
    ((∃ connection, (run step start events).tcpConnection ⟨ipv4Address, tcpEchoPort, endpoint.ip, endpoint.port⟩ =
      some connection ∧ connection.state = .established) ↔
    ∃ past syn now between ack now' future out frame packet reply,
      events = past ++ .frame syn now :: (between ++ .frame ack now' :: future) ∧
      ((processFrameAt syn now).run (run step start past)).1 = .ok (some out) ∧ Carries out frame packet reply ∧
      packet.destination = endpoint.ip ∧ reply.destinationPort = endpoint.port ∧
      Acknowledges frame packet reply ack) ∧
    ∀ input now out frame packet reply, ((processFrameAt input now).run (run step start events)).1 = .ok (some out) →
      Carries out frame packet reply → reply.flags = TcpFlags.syn ||| TcpFlags.ack := by
  intro start
  refine ⟨⟨?_, ?_⟩, fun input now out frame packet reply hout hcarries => flags_of_carries hout hcarries⟩
  · rintro ⟨connection, hconnection, hstate⟩
    have hempty : start.tcpListener.connection (start.tcpListener.keyOf endpoint) = none := Finmap.lookup_empty _
    have hlistener : ∀ past, (run step start past).tcpListener =
        run TcpListener.step start.tcpListener (past.filterMap (Event.segment macAddress ipv4Address)) :=
      fun past => run_tcpListener start past
    rw [tcpConnection, hlistener] at hconnection
    obtain ⟨pre, syn, mid, hcalls, rfl, hadmits, horigin⟩ :=
      exists_cut_of_connection start.tcpListener endpoint hempty _ connection hconnection
    rcases horigin with rfl | ⟨-, mid₁, ack, mid₂, rfl, hanswers⟩
    · cases hstate
    obtain ⟨past, synEvent, rest, rfl, rfl, hsyn, hrest⟩ := exists_cut_of_filterMap hcalls
    obtain ⟨between, ackEvent, future, rfl, -, hack, -⟩ := exists_cut_of_filterMap hrest
    obtain ⟨synInput, now, ethernet, ipv4, rfl, hdemux, hremote⟩ := Event.exists_frame_of_segment hsyn
    obtain ⟨ackInput, now', ethernet', ipv4', rfl, hdemux', hremote'⟩ := Event.exists_frame_of_segment hack
    obtain ⟨hmac, hip⟩ := run_addresses start past
    obtain ⟨hport, -, -⟩ := run_listener_fields macAddress ipv4Address cacheCapacity cacheTtl retryInterval maxAttempts
      past
    have hsame : start.tcpListener.localPort = (run step start past).tcpListener.localPort := hport.symm
    rw [← hlistener] at hadmits hanswers
    rw [hsame] at hanswers
    obtain ⟨remoteIp, segment⟩ := syn
    obtain rfl : remoteIp = ipv4.source := hremote
    obtain ⟨out, frame, packet, reply, hout, -, hreply⟩ :=
      carries_synAck (by rw [hmac, hip]; exact hdemux) hadmits now
    exact ⟨past, synInput, now, between, ackInput, now', future, out, frame, packet, reply, rfl, hout, hreply.carries,
      hreply.destination, hreply.destinationPort,
      acknowledges_of_answers hreply (by rw [hmac, hip]; exact hdemux') hremote' hanswers⟩
  · rintro ⟨past, syn, now, between, ack, now', future, out, frame, packet, reply, rfl, hout, hcarries, hip, hport,
      hack⟩
    obtain ⟨connection, hconnection, hstate, -⟩ := established_of_acknowledges macAddress ipv4Address cacheCapacity
      cacheTtl retryInterval maxAttempts past between future hout hcarries hack
    rw [hip, hport] at hconnection
    exact ⟨connection, hconnection, hstate⟩

end NewInterface

end NetworkInterface

end TcpIp.Interface
