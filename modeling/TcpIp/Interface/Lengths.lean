import TcpIp.Interface.Parts

/-!
# The lengths of frames

* `no_amplification` — a reply is not longer than the frame that it answers;
* `Delivery.pad`, `demux_append` — bytes behind a frame that is long enough end up in fields that nothing reads, so
  that padding does not show (`padding_invisible`).
-/

namespace TcpIp.Interface

open TcpIp.Lib TcpIp.Arp TcpIp.Arp.Cache TcpIp.Arp.Resolver TcpIp.Icmp TcpIp.Ipv4 TcpIp.Tcp TcpIp.Tcp.Listener
  TcpIp.Udp

namespace NetworkInterface

variable {self : NetworkInterface} {input out : Bytes} {now : Instant}

/-- **No amplification**: a reply is not longer than the frame that it answers. -/
theorem no_amplification (h : ((processFrameAt input now).run self).1 = .ok (some out)) :
    out.length ≤ input.length := by
  rcases processFrameAt_parts self input now with ⟨e, -, hrun⟩ | ⟨delivery, -, hdelivers, hrun⟩
  · rw [hrun] at h
    cases h
  · rw [hrun] at h
    obtain ⟨frame, hframe, rfl⟩ := Option.map_eq_some_iff.1 (Outcome.ok.inj h)
    cases hreply : self.replyTo delivery with
    | nothing =>
      rw [hreply] at hframe
      cases hframe
    | ipv4 ethernet request protocol payload =>
      rw [hreply] at hframe
      cases hframe
      obtain ⟨host, -, hpayload⟩ := replyTo_ipv4 hdelivers hreply
      have hinput := length_of_parseEthFrame host.frame
      have hrequest := Ipv4.payload_length_add_le host.packet
      have hpacket : (self.replyFrame ethernet request protocol payload).payload.length =
          ipv4MinHeaderLen + payload.length := Ipv4Packet.encode_length _
      rw [EthernetFrame.encode_length, hpacket]
      omega
    | arp reply =>
      rw [hreply] at hframe
      cases hframe
      obtain ⟨ethernet, packet, hethernet, hpacket, -⟩ := replyTo_arp hdelivers hreply
      have hinput := length_of_parseEthFrame hethernet
      have hrequest := ArpPacket.length_of_parse hpacket
      have hlength : (self.arpReplyFrame reply).encode.length = ethernetHeaderLen + arpHeaderLen := rfl
      omega

/-- The reply to an ARP request of the shortest length. -/
theorem no_amplification_arp : ∃ out,
    ((processFrameAt TestFrames.arpRequestFrame 7).run TestFrames.interface).1 = .ok (some out) ∧
      out.length ≤ TestFrames.arpRequestFrame.length := by
  have hreply : ((processFrameAt TestFrames.arpRequestFrame 7).run TestFrames.interface).1 =
      .ok (some [2, 0, 0, 0, 0, 2, 2, 0, 0, 0, 0, 1, 8, 6, 0, 1, 8, 0, 6, 4, 0, 2, 2, 0, 0, 0, 0, 1, 10, 0, 0, 2,
        2, 0, 0, 0, 0, 2, 10, 0, 0, 1]) := by decide +kernel
  exact ⟨_, hreply, no_amplification hreply⟩

end NetworkInterface

/-! ### Padding -/

/-- The errors that say that bytes are missing. -/
def InterfaceError.isTruncation : InterfaceError → Bool
  | .ethernet (.frameTooShort _ _) => true
  | .ipv4 error => error.isTruncation
  | .arp (.packetTooShort _ _) => true
  | .arp _ | .icmp _ | .udp _ | .tcp _ => false
  | .serialise _ | .ipv4Serialise _ | .udpSerialise _ | .tcpSerialise _ => false

/-- The delivery of a frame with padding behind it. -/
def Delivery.pad (pad : Bytes) : Delivery → Delivery
  | .ignored => .ignored
  | .echo ethernet ipv4 message => .echo (ethernet.pad pad) (ipv4.pad pad) message
  | .datagram ethernet ipv4 request => .datagram (ethernet.pad pad) (ipv4.pad pad) request
  | .segment ethernet ipv4 request => .segment (ethernet.pad pad) (ipv4.pad pad) request
  | .arp ethernet packet => .arp (ethernet.pad pad) (packet.pad pad)

lemma deliver_pad (ethernet : EthernetFrame) (ipv4 : Ipv4Packet) (pad : Bytes) :
    deliver (ethernet.pad pad) (ipv4.pad pad) = Delivery.pad pad <$> deliver ethernet ipv4 := by
  have hpayload : (ipv4.pad pad).payload = ipv4.payload := rfl
  have hsource : (ipv4.pad pad).source = ipv4.source := rfl
  have hdestination : (ipv4.pad pad).destination = ipv4.destination := rfl
  have hsame : (ipv4.pad pad).protocol = ipv4.protocol := rfl
  unfold deliver
  rw [hsame, hpayload, hsource, hdestination]
  cases ipv4.protocol with
  | icmp => exact Outcome.mapErr_bind_map fun message _ => by cases message <;> rfl
  | udp =>
    refine Outcome.mapErr_bind_map fun _ _ => Outcome.mapErr_bind_map fun request _ => ?_
    split_ifs <;> rfl
  | tcp => exact Outcome.mapErr_bind_map fun _ _ => Outcome.mapErr_bind_map fun _ _ => rfl
  | unknown value => rfl

lemma demuxIpv4_pad {ip : Ipv4Addr} {ethernet : EthernetFrame}
    (h : ∀ e, demuxIpv4 ip ethernet = .err e → e.isTruncation = false) (pad : Bytes) :
    demuxIpv4 ip (ethernet.pad pad) = Delivery.pad pad <$> demuxIpv4 ip ethernet := by
  have hparse : parseIpv4Packet (ethernet.payload ++ pad) = Ipv4Packet.pad pad <$> parseIpv4Packet ethernet.payload :=
    parseIpv4Packet_append (fun e he => h (.ipv4 e) (by rw [demuxIpv4, he]; rfl)) pad
  have hpayload : (ethernet.pad pad).payload = ethernet.payload ++ pad := rfl
  unfold demuxIpv4
  rw [hpayload, hparse]
  cases parseIpv4Packet ethernet.payload with
  | err e => rfl
  | panic p => rfl
  | ok ipv4 =>
    show (if ipv4.destination ≠ ip then _ else if ipv4.moreFragments ∨ ipv4.fragmentOffset ≠ 0 then _ else _) =
      Delivery.pad pad <$> (if ipv4.destination ≠ ip then _ else
        if ipv4.moreFragments ∨ ipv4.fragmentOffset ≠ 0 then _ else _)
    split_ifs
    · rfl
    · rfl
    · exact deliver_pad ethernet ipv4 pad

lemma demuxFrame_pad {mac : MacAddress} {ip : Ipv4Addr} {ethernet : EthernetFrame}
    (h : ∀ e, demuxFrame mac ip ethernet = .err e → e.isTruncation = false) (pad : Bytes) :
    demuxFrame mac ip (ethernet.pad pad) = Delivery.pad pad <$> demuxFrame mac ip ethernet := by
  have hsame : (ethernet.pad pad).etherType = ethernet.etherType := rfl
  have hmac : (ethernet.pad pad).destinationMac = ethernet.destinationMac := rfl
  have hpayload : (ethernet.pad pad).payload = ethernet.payload ++ pad := rfl
  unfold demuxFrame at h ⊢
  rw [hsame, hmac, hpayload]
  cases htype : ethernet.etherType with
  | ipv4 =>
    rw [htype] at h
    dsimp only at h ⊢
    split_ifs at h ⊢
    · exact demuxIpv4_pad h pad
    · rfl
  | arp =>
    rw [htype] at h
    dsimp only at h ⊢
    split_ifs at h ⊢
    · have hlong : arpHeaderLen ≤ ethernet.payload.length := Nat.le_of_not_lt fun hshort => by
        cases h (.arp (.packetTooShort ethernet.payload.length arpHeaderLen)) (by
          rw [ArpPacket.parse_eq, if_pos hshort]
          rfl)
      rw [ArpPacket.parse_append hlong]
      cases ArpPacket.parse ethernet.payload <;> rfl
    · rfl
  | ipv6 => rfl
  | unknown value => rfl

/-- **Padding changes a delivery in the fields that hold what is behind a packet**, unless bytes are missing. -/
theorem demux_append {mac : MacAddress} {ip : Ipv4Addr} {input : Bytes}
    (h : ∀ e, demux mac ip input = .err e → e.isTruncation = false) (pad : Bytes) :
    demux mac ip (input ++ pad) = Delivery.pad pad <$> demux mac ip input := by
  cases hframe : parseEthFrame input with
  | err e =>
    cases h (.ethernet e) (by rw [demux, hframe]; rfl)
  | panic p =>
    have hpanics := parseEthFrame_panics input
    rw [hframe] at hpanics
    cases hpanics
  | ok ethernet =>
    rw [demux_of_frame hframe] at h ⊢
    rw [demux_of_frame (parseEthFrame_append hframe pad)]
    exact demuxFrame_pad h pad

namespace NetworkInterface

variable {self : NetworkInterface} {input : Bytes} {now : Instant}

lemma respond_pad (delivery : Delivery) (pad : Bytes) :
    self.respond now (delivery.pad pad) = self.respond now delivery := by
  cases delivery <;> rfl

/-- **Padding does not show.**  Bytes behind a frame change neither the reply nor the state, unless the frame was
refused because bytes were missing. -/
theorem padding_invisible (h : ∀ e, ((processFrameAt input now).run self).1 = .err e → e.isTruncation = false)
    (pad : Bytes) : (processFrameAt (input ++ pad) now).run self = (processFrameAt input now).run self := by
  rw [processFrameAt_eq] at h
  rw [processFrameAt_eq, processFrameAt_eq]
  have hdemux : demux self.macAddress self.ipv4Address (input ++ pad) =
      Delivery.pad pad <$> demux self.macAddress self.ipv4Address input := by
    refine demux_append ?_ pad
    intro e he
    rw [he] at h
    exact h e rfl
  rw [hdemux]
  cases demux self.macAddress self.ipv4Address input with
  | ok delivery => rw [Outcome.map_ok, answer, answer, respond_pad]
  | err e => rfl
  | panic p => rfl

/-- An echo request, padded to the smallest size of a frame on the link. -/
theorem padding_invisible_echo :
    (processFrameAt (TestFrames.echoRequestFrame ++ List.replicate 14 0) 7).run TestFrames.interface =
      (processFrameAt TestFrames.echoRequestFrame 7).run TestFrames.interface := by
  have hreply : ((processFrameAt TestFrames.echoRequestFrame 7).run TestFrames.interface).1 =
      .ok (some [2, 0, 0, 0, 0, 2, 2, 0, 0, 0, 0, 1, 8, 0, 69, 0, 0, 32, 0, 0, 0, 0, 64, 1, 102, 219, 10, 0, 0, 2,
        10, 0, 0, 1, 0, 0, 80, 39, 18, 52, 0, 7, 222, 173, 190, 239]) := by
    decide +kernel
  refine padding_invisible ?_ _
  intro e he
  rw [hreply] at he
  cases he

end NetworkInterface

end TcpIp.Interface
