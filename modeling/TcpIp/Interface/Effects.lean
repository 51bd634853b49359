import TcpIp.Interface.WireTable
import TcpIp.Tcp.Peers

/-!
# What a frame changes

* `frame_effect` — the listener changes only for a segment that passes every check, and in one entry; the resolver
  changes only for an ARP packet that is a request or a reply, and learns nothing but its sender; the addresses never
  change.  An ARP frame and an IPv4 frame therefore commute.
-/

namespace TcpIp.Interface

open TcpIp.Lib TcpIp.Arp TcpIp.Arp.Cache TcpIp.Arp.Resolver TcpIp.Icmp TcpIp.Ipv4 TcpIp.Tcp TcpIp.Tcp.Listener
  TcpIp.Udp

/-- What a segment may change of a listener. -/
structure ListenerEffect (key : TcpConnectionKey) (before after : TcpListener) : Prop where
  others : ∀ key', key' ≠ key → after.connection key' = before.connection key'
  created : before.connection key = none → after.connection key ≠ none →
    after.nextInitialSequence = before.nextInitialSequence + 1
  notCreated : ¬(before.connection key = none ∧ after.connection key ≠ none) →
    after.nextInitialSequence = before.nextInitialSequence
  fields : after.localIp = before.localIp ∧ after.localPort = before.localPort ∧ after.capacity = before.capacity

/-- What an ARP packet may change of a resolver. -/
structure ResolverEffect (packet : ArpPacket) (now : Instant) (before after : ArpResolver) : Prop where
  cache : ∀ ip entry, after.cache.ipToMac.lookup ip = some entry →
    before.cache.ipToMac.lookup ip = some entry ∨ ip = packet.senderIp ∧ entry = ⟨packet.senderMac, now⟩
  pending : after.pending = before.pending.erase packet.senderIp
  fields : after.cache.maxEntries = before.cache.maxEntries ∧ after.cache.ttl = before.cache.ttl ∧
    after.localMac = before.localMac ∧ after.localIp = before.localIp ∧
    after.retryInterval = before.retryInterval ∧ after.maxAttempts = before.maxAttempts

lemma listenerEffect_step (listener : TcpListener) (call : Call) :
    ListenerEffect (listener.keyOf call.endpoint) listener (listener.step call).2 where
  others _ hne := TcpListener.connection_step_of_ne hne
  created hnone hsome := by
    rcases TcpListener.connection_step listener call (listener.keyOf call.endpoint) with
      hsame | ⟨hadmits, -, -⟩ | ⟨connection, hcompletes, -, -⟩
    · exact absurd (hsame.trans hnone) hsome
    · exact (TcpListener.step_of_admits hadmits).1
    · cases hnone.symm.trans hcompletes.found
  notCreated hnot := (TcpListener.step_of_not_admits fun hadmits => hnot ⟨hadmits.new, by
    rw [TcpListener.connection_step_of_admits hadmits]
    exact Option.some_ne_none _⟩).1
  fields := TcpListener.step_fields listener call

lemma resolverEffect_observed {resolver : ArpResolver} {packet : ArpPacket} {now : Instant}
    (h : resolver.observed packet now ≠ resolver) : (packet.operation = .request ∨ packet.operation = .reply) ∧
      ResolverEffect packet now resolver (resolver.observed packet now) := by
  unfold ArpResolver.observed at h ⊢
  split_ifs at h ⊢ with hignored
  · exact absurd rfl h
  push Not at hignored
  refine ⟨or_iff_not_imp_left.2 hignored.2, ⟨fun ip entry hentry => ?_, rfl, ?_⟩⟩
  · by_cases hip : ip = packet.senderIp
    · subst hip
      exact Or.inr ⟨rfl, (Option.some.inj (hentry.symm.trans (ArpCache.lookup_learned ..)))⟩
    · have hold := ArpCache.lookup_of_learned hip hentry
      exact Or.inl (ArpCache.lookup_unexpired_eq_some.1 hold).1
  · exact ⟨ArpCache.learned_maxEntries .., ArpCache.learned_ttl .., rfl, rfl, rfl, rfl⟩

namespace NetworkInterface

section Commute

variable {input : Bytes} {ethernet : EthernetFrame} {now : Instant}

lemma processFrameAt_arp (self : NetworkInterface) (hframe : parseEthFrame input = .ok ethernet)
    (htype : ethernet.etherType = .arp) (now : Instant) :
    ∃ (result : Outcome InterfaceError (Option Bytes)) (observe : ArpResolver → ArpResolver), ∀ s : NetworkInterface,
      s.macAddress = self.macAddress → s.ipv4Address = self.ipv4Address →
      (processFrameAt input now).run s = (result, { s with arpResolver := observe s.arpResolver }) := by
  rcases processFrameAt_parts self input now with ⟨e, hdemux, -⟩ | ⟨delivery, hdemux, hdelivers, -⟩
  · refine ⟨.err e, id, fun s hmac hip => ?_⟩
    have hsame : demux s.macAddress s.ipv4Address input = .err e := by rw [hmac, hip, hdemux]
    rw [processFrameAt_eq, hsame]
    rfl
  · cases hdelivers with
    | ignored =>
      refine ⟨.ok none, id, fun s hmac hip => ?_⟩
      have hsame : demux s.macAddress s.ipv4Address input = .ok .ignored := by rw [hmac, hip, hdemux]
      rw [processFrameAt_eq, hsame]
      rfl
    | echo host => cases htype.symm.trans ((Outcome.ok.inj (hframe.symm.trans host.frame)) ▸ host.etherType)
    | datagram host => cases htype.symm.trans ((Outcome.ok.inj (hframe.symm.trans host.frame)) ▸ host.etherType)
    | segment host => cases htype.symm.trans ((Outcome.ok.inj (hframe.symm.trans host.frame)) ▸ host.etherType)
    | @arp _ packet =>
      refine ⟨.ok ((buildReply packet self.macAddress self.ipv4Address).map fun reply =>
        (self.arpReplyFrame reply).encode), fun resolver => resolver.observed packet now, fun s hmac hip => ?_⟩
      rw [processFrameAt_eq, hmac, hip, hdemux, answer, respond]
      simp only [arpReplyFrame, hmac, hip]

lemma processFrameAt_ipv4 (self : NetworkInterface) (hframe : parseEthFrame input = .ok ethernet)
    (htype : ethernet.etherType = .ipv4) (now : Instant) (resolver : ArpResolver) :
    (processFrameAt input now).run { self with arpResolver := resolver } =
      (((processFrameAt input now).run self).1,
        { ((processFrameAt input now).run self).2 with arpResolver := resolver }) := by
  rw [processFrameAt_eq, processFrameAt_eq]
  rcases processFrameAt_parts self input now with ⟨e, hdemux, -⟩ | ⟨delivery, hdemux, hdelivers, -⟩
  · rw [hdemux]
    rfl
  · rw [hdemux]
    cases hdelivers with
    | ignored => rfl
    | echo => rfl
    | datagram => rfl
    | @segment ethernet ipv4 segment =>
      cases haction : (self.tcpListener.step ⟨ipv4.source, segment⟩).1 with
      | noReply =>
        have haction' : ({ self with arpResolver := resolver }.tcpListener.step ⟨ipv4.source, segment⟩).1 = .noReply :=
          haction
        rw [answer, answer, respond_of_noReply haction, respond_of_noReply haction']
        rfl
      | sendSynAck synAck =>
        have haction' : ({ self with arpResolver := resolver }.tcpListener.step ⟨ipv4.source, segment⟩).1 =
          .sendSynAck synAck := haction
        rw [answer, answer, respond_of_sendSynAck haction, respond_of_sendSynAck haction']
        rfl
    | arp hframe' htype' =>
      cases htype.symm.trans ((Outcome.ok.inj (hframe'.symm.trans hframe)) ▸ htype')

end Commute

/-- **An ARP frame and an IPv4 frame do not meet.** -/
lemma commutes_arp_ipv4 (self : NetworkInterface) {input input' : Bytes} {ethernet ethernet' : EthernetFrame}
    (harp : parseEthFrame input = .ok ethernet) (htype : ethernet.etherType = .arp)
    (hipv4 : parseEthFrame input' = .ok ethernet') (htype' : ethernet'.etherType = .ipv4) (now now' : Instant) :
    Commutes step self (.frame input now) (.frame input' now') := by
  obtain ⟨result, observe, hrun⟩ := processFrameAt_arp self harp htype now
  have hrun' := processFrameAt_ipv4 self hipv4 htype' now'
  obtain ⟨hmac, hip⟩ := processFrameAt_addresses self input' now'
  have hself := hrun self rfl rfl
  have hafter := hrun _ hmac hip
  have hresolver : ((processFrameAt input' now').run self).2.arpResolver = self.arpResolver :=
    congrArg (fun r => r.2.arpResolver) (hrun' self.arpResolver)
  rw [hresolver] at hafter
  have hsecond : (processFrameAt input' now').run ((processFrameAt input now).run self).2 =
      (((processFrameAt input' now').run self).1,
        { ((processFrameAt input' now').run self).2 with arpResolver := observe self.arpResolver }) := by
    rw [hself]
    exact hrun' _
  refine ⟨?_, ?_, ?_⟩
  · exact congrArg Response.frame ((congrArg Prod.fst hafter).trans (congrArg Prod.fst hself).symm)
  · show Response.frame ((processFrameAt input' now').run ((processFrameAt input now).run self).2).1 = _
    rw [hsecond]
    rfl
  · exact (congrArg Prod.snd hsecond).trans (congrArg Prod.snd hafter).symm

/-- **The state changes only where it should.** -/
theorem frame_effect (self : NetworkInterface) :
    (∀ (input : Bytes) (now : Instant),
      let after := ((processFrameAt input now).run self).2
      (after.tcpListener ≠ self.tcpListener → ∃ ethernet ipv4 segment,
        ForHost self.macAddress self.ipv4Address input ethernet ipv4 ∧ ipv4.protocol = .tcp ∧
        validateTcpChecksum ipv4.source ipv4.destination ipv4.payload = .ok () ∧
        parseTcpSegment ipv4.payload = .ok segment ∧
        ListenerEffect ⟨self.tcpListener.localIp, self.tcpListener.localPort, ipv4.source, segment.sourcePort⟩
          self.tcpListener after.tcpListener) ∧
      (after.arpResolver ≠ self.arpResolver → ∃ ethernet packet, parseEthFrame input = .ok ethernet ∧
        ethernet.etherType = .arp ∧
        (ethernet.destinationMac = self.macAddress ∨ ethernet.destinationMac = MacAddress.broadcast) ∧
        ArpPacket.parse ethernet.payload = .ok packet ∧ (packet.operation = .request ∨ packet.operation = .reply) ∧
        ResolverEffect packet now self.arpResolver after.arpResolver) ∧
      after.macAddress = self.macAddress ∧ after.ipv4Address = self.ipv4Address) ∧
    ∀ (input input' : Bytes) (now now' : Instant) (ethernet ethernet' : EthernetFrame),
      parseEthFrame input = .ok ethernet → ethernet.etherType = .arp → parseEthFrame input' = .ok ethernet' →
      ethernet'.etherType = .ipv4 → Commutes step self (.frame input now) (.frame input' now') := by
  refine ⟨fun input now => ?_, fun input input' now now' ethernet ethernet' harp htype hipv4 htype' =>
    commutes_arp_ipv4 self harp htype hipv4 htype' now now'⟩
  intro after
  refine ⟨fun hlistener => ?_, fun hresolver => ?_, processFrameAt_addresses self input now⟩
  · rcases processFrameAt_parts self input now with ⟨e, -, hrun⟩ | ⟨delivery, -, hdelivers, hrun⟩
    · exact absurd (congrArg (fun r => r.2.tcpListener) hrun) hlistener
    · replace hrun : after = self.changed now delivery := congrArg Prod.snd hrun
      rw [hrun] at hlistener ⊢
      cases hdelivers with
      | ignored => exact absurd rfl hlistener
      | echo => exact absurd rfl hlistener
      | datagram => exact absurd rfl hlistener
      | arp => exact absurd rfl hlistener
      | @segment ethernet ipv4 segment host hprotocol hvalid hparse =>
        exact ⟨ethernet, ipv4, segment, host, hprotocol, hvalid, hparse,
          listenerEffect_step self.tcpListener ⟨ipv4.source, segment⟩⟩
  · rcases processFrameAt_parts self input now with ⟨e, -, hrun⟩ | ⟨delivery, -, hdelivers, hrun⟩
    · exact absurd (congrArg (fun r => r.2.arpResolver) hrun) hresolver
    · replace hrun : after = self.changed now delivery := congrArg Prod.snd hrun
      rw [hrun] at hresolver ⊢
      cases hdelivers with
      | ignored => exact absurd rfl hresolver
      | echo => exact absurd rfl hresolver
      | datagram => exact absurd rfl hresolver
      | segment => exact absurd rfl hresolver
      | @arp ethernet packet hframe htype hmac hpacket =>
        obtain ⟨hknown, heffect⟩ := resolverEffect_observed hresolver
        exact ⟨ethernet, packet, hframe, htype, hmac, hpacket, hknown, heffect⟩

end NetworkInterface

end TcpIp.Interface
