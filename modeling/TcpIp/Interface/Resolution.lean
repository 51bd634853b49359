import TcpIp.Arp.Retries
import TcpIp.Interface.Replies

/-!
# Address resolution between two stacks

A resolver asks for the address of an interface, and the interface answers, whatever either of them did before.

* `demux_of_arp` — an ARP frame for the host is delivered as the packet that it carries;
* `observed_reply` — what a resolver knows after it saw a reply;
* `resolution_agrees` — the request reaches the interface, which learns the resolver's address and answers it; the
  answer ends the resolution.
-/

namespace TcpIp.Arp.Resolver

open TcpIp.Lib TcpIp.Arp.Cache

namespace ArpResolver

variable {resolver : ArpResolver} {packet : ArpPacket} {ip : Ipv4Addr} {now : Instant}

lemma resolve_sendRequest {ε : Type}
    (h : ((resolve ip now : Exec ArpResolver ε ResolveOutcome).run resolver).1 = .ok (.sendRequest packet)) :
    packet = buildRequest ip resolver.localMac resolver.localIp ∧
      ((resolve ip now : Exec ArpResolver ε ResolveOutcome).run resolver).2.cache = resolver.cache.unexpired now := by
  have hresolution := resolved_resolution resolver ip now
  rw [resolve_run] at h ⊢
  generalize resolver.resolved ip now = result at h hresolution ⊢
  obtain ⟨outcome, after⟩ := result
  obtain rfl : outcome = .sendRequest packet := Outcome.ok.inj h
  cases hresolution with
  | ask hmax hnew => exact ⟨rfl, rfl⟩
  | retry entry hfound hdue hleft => exact ⟨rfl, rfl⟩

lemma observed_of_learns (h : resolver.learns packet = true) : resolver.observed packet now =
    removePending packet.senderIp { resolver with
      cache := resolver.cache.learned packet.senderIp packet.senderMac now } :=
  if_neg (of_decide_eq_true h)

lemma learns_of_known (hsize : 1 ≤ resolver.cache.maxEntries)
    (hknown : packet.operation = .request ∨ packet.operation = .reply) : resolver.learns packet = true := by
  refine decide_eq_true ?_
  rintro (hzero | ⟨hrequest, hreply⟩)
  · omega
  · exact hknown.elim hrequest hreply

lemma cachedMac_observed {ε : Type} (h : resolver.learns packet = true) {later : Instant}
    (hyoung : later - now < resolver.cache.ttl) :
    ((cachedMac packet.senderIp later : Exec ArpResolver ε (Option MacAddress)).run
      (resolver.observed packet now)).1 = .ok (some packet.senderMac) := by
  rw [cachedMac_run, observed_of_learns h]
  exact congrArg (fun entry => Outcome.ok (entry.map CacheEntry.mac)) (ArpCache.lookup_unexpired_learned hyoung)

/-- **A packet ends the resolution of its sender.** -/
lemma observed_reply {ε : Type} (h : resolver.learns packet = true) (now : Instant) :
    (resolver.observed packet now).pending.lookup packet.senderIp = none ∧
    ∀ later, later - now < resolver.cache.ttl →
      ((resolve packet.senderIp later : Exec ArpResolver ε ResolveOutcome).run (resolver.observed packet now)).1 =
        .ok (.resolved packet.senderMac) := by
  refine ⟨?_, ?_⟩
  · rw [observed_of_learns h]
    exact Finmap.lookup_erase _ _
  · intro later hyoung
    have hfound : ((resolver.observed packet now).cache.unexpired later).ipToMac.lookup packet.senderIp =
        some ⟨packet.senderMac, now⟩ := by
      rw [observed_of_learns h]
      exact ArpCache.lookup_unexpired_learned hyoung
    rw [resolve_run, resolved, hfound]
    rfl

end ArpResolver

end TcpIp.Arp.Resolver

namespace TcpIp.Interface

open TcpIp.Lib TcpIp.Arp TcpIp.Arp.Cache TcpIp.Arp.Resolver

lemma demux_of_arp {mac : MacAddress} {ip : Ipv4Addr} {input : Bytes} {ethernet : EthernetFrame} {packet : ArpPacket}
    (hframe : parseEthFrame input = .ok ethernet) (htype : ethernet.etherType = .arp)
    (hmac : ethernet.destinationMac = mac ∨ ethernet.destinationMac = MacAddress.broadcast)
    (hpacket : ArpPacket.parse ethernet.payload = .ok packet) : demux mac ip input = .ok (.arp ethernet packet) := by
  rw [demux_of_frame hframe, demuxFrame, htype]
  dsimp only
  rw [if_pos hmac, hpacket]
  rfl

namespace NetworkInterface

/-- The frame in which a resolver broadcasts a packet. -/
def arpRequestFrame (resolver : ArpResolver) (packet : ArpPacket) : EthernetFrame where
  destinationMac := MacAddress.broadcast
  sourceMac := resolver.localMac
  etherType := .arp
  payload := packet.encode

lemma processFrameAt_arpRequest (self : NetworkInterface) (resolver : ArpResolver) (now : Instant) :
    let packet := buildRequest self.ipv4Address resolver.localMac resolver.localIp
    ∃ reply, buildReply packet self.macAddress self.ipv4Address = some reply ∧
      (processFrameAt (arpRequestFrame resolver packet).encode now).run self =
        (.ok (some (self.arpReplyFrame reply).encode),
          { self with arpResolver := self.arpResolver.observed packet now }) := by
  intro packet
  have hreply : buildReply packet self.macAddress self.ipv4Address ≠ none := by simp [packet, buildReply, buildRequest]
  obtain ⟨reply, hreply⟩ := Option.ne_none_iff_exists'.1 hreply
  have hparse : ArpPacket.parse packet.encode = .ok packet :=
    (congrArg ArpPacket.parse (List.append_nil _).symm).trans (ArpPacket.parse_encode rfl rfl [])
  have hdemux : demux self.macAddress self.ipv4Address (arpRequestFrame resolver packet).encode =
      .ok (.arp (arpRequestFrame resolver packet) packet) :=
    demux_of_arp (parseEthFrame_encode _) rfl (Or.inr rfl) hparse
  refine ⟨reply, hreply, ?_⟩
  rw [processFrameAt_eq, hdemux, answer, respond, hreply]
  rfl

/-- **A resolver and an interface agree.**  The request of a resolver, broadcast as a frame, is answered by the
interface that has the address; the resolver learns the MAC address from the answer, and the interface learned the
resolver's from the request. -/
theorem resolution_agrees {r : ArpResolver} {b : NetworkInterface} {t₀ : Instant} {p : ArpPacket}
    (hsize : 1 ≤ r.cache.maxEntries) (hsize' : 1 ≤ b.arpResolver.cache.maxEntries)
    (httl : 0 < b.arpResolver.cache.ttl)
    (hask : ((ArpResolver.resolve b.ipv4Address t₀ : Exec ArpResolver Empty ResolveOutcome).run r).1 =
      .ok (.sendRequest p)) (t₁ t₂ t₃ : Instant) :
    let asked := ((ArpResolver.resolve b.ipv4Address t₀ : Exec ArpResolver Empty ResolveOutcome).run r).2
    ∃ payload input out frame q,
      p.writeTo.run (vec 0 arpHeaderLen) = (.ok arpHeaderLen, payload) ∧
      (EthernetFrame.writeTo ⟨MacAddress.broadcast, r.localMac, .arp, payload⟩).run
        (vec 0 (ethernetHeaderLen + arpHeaderLen)) = (.ok (ethernetHeaderLen + arpHeaderLen), input) ∧
      ((processFrameAt input t₁).run b).1 = .ok (some out) ∧
      parseEthFrame out = .ok frame ∧ frame.etherType = .arp ∧ frame.destinationMac = r.localMac ∧
      ArpPacket.parse frame.payload = .ok q ∧
      ((ArpResolver.observe q t₂ : Exec ArpResolver Empty Bool).run asked).1 = .ok true ∧
      (let answered := ((ArpResolver.observe q t₂ : Exec ArpResolver Empty Bool).run asked).2
      answered.pending.lookup b.ipv4Address = none ∧
      (t₃ - t₂ < r.cache.ttl →
        ((ArpResolver.resolve b.ipv4Address t₃ : Exec ArpResolver Empty ResolveOutcome).run answered).1 =
          .ok (.resolved b.macAddress))) ∧
      ((cachedMac r.localIp t₁ : Exec NetworkInterface Empty (Option MacAddress)).run
        ((processFrameAt input t₁).run b).2).1 = .ok (some r.localMac) := by
  intro asked
  obtain ⟨rfl, hcache⟩ := ArpResolver.resolve_sendRequest hask
  replace hcache : asked.cache = r.cache.unexpired t₀ := hcache
  set packet := buildRequest b.ipv4Address r.localMac r.localIp
  obtain ⟨reply, hreply, hrun⟩ := processFrameAt_arpRequest b r t₁
  have hsent : reply.operation = .reply ∧ reply.senderMac = b.macAddress ∧ reply.senderIp = b.ipv4Address ∧
      reply.targetMac = r.localMac := by
    cases hreply.symm.trans (if_neg (by simp [buildRequest]))
    exact ⟨rfl, rfl, rfl, rfl⟩
  obtain ⟨hoperation, hmac, hip, htarget⟩ := hsent
  have hroom : ethernetHeaderLen + (arpRequestFrame r packet).payload.length ≤ usizeMax :=
    show ethernetHeaderLen + arpHeaderLen ≤ usizeMax by decide
  have hlearns : asked.learns reply = true :=
    ArpResolver.learns_of_known (by rw [hcache]; exact hsize) (Or.inr hoperation)
  have hlearns' : b.arpResolver.learns packet = true := ArpResolver.learns_of_known hsize' (Or.inl rfl)
  obtain ⟨hpending, hresolved⟩ := ArpResolver.observed_reply (ε := Empty) hlearns t₂
  refine ⟨packet.encode, (arpRequestFrame r packet).encode, (b.arpReplyFrame reply).encode, b.arpReplyFrame reply,
    reply, run_vec (ArpPacket.writeTo_eq packet), run_vec (EthernetFrame.writeTo_eq hroom), ?_,
    parse_arpReplyFrame reply, rfl, htarget, parse_arpReply hreply, ?_, ⟨?_, ?_⟩, ?_⟩
  · rw [hrun]
  · rw [ArpResolver.observe_run, hlearns]
  · rw [ArpResolver.observe_run]
    exact hip ▸ hpending
  · intro hyoung
    rw [ArpResolver.observe_run, ← hip, ← hmac]
    exact hresolved t₃ (by rw [hcache]; exact hyoung)
  · rw [hrun, cachedMac, onResolver, Exec.zoom_run]
    exact ArpResolver.cachedMac_observed hlearns' (by rw [Nat.sub_self]; exact httl)

/-- A resolver that knows nobody asks the interface of the tests. -/
theorem resolution_agrees_first :
    let r := ArpResolver.new TestFrames.remoteMac TestFrames.remoteIp (ArpCache.new 1 60) 5 3
    ∃ input out, ((processFrameAt input 11).run TestFrames.interface).1 = .ok (some out) ∧
      ∃ frame q, parseEthFrame out = .ok frame ∧ frame.destinationMac = TestFrames.remoteMac ∧
        ArpPacket.parse frame.payload = .ok q ∧
        ((ArpResolver.observe q 12 : Exec ArpResolver Empty Bool).run
          ((ArpResolver.resolve TestFrames.localIp 10 : Exec ArpResolver Empty ResolveOutcome).run r).2).1 =
          .ok true := by
  intro r
  have hask : ((ArpResolver.resolve TestFrames.localIp 10 : Exec ArpResolver Empty ResolveOutcome).run r).1 =
      .ok (.sendRequest (buildRequest TestFrames.localIp TestFrames.remoteMac TestFrames.remoteIp)) := by decide
  obtain ⟨-, input, out, frame, q, -, -, hout, hframe, -, hmac, hq, hobserve, -⟩ :=
    resolution_agrees (r := r) (b := TestFrames.interface) (by decide) (by decide) (by decide) hask 11 12 13
  exact ⟨input, out, hout, frame, q, hframe, hmac, hq, hobserve⟩

end NetworkInterface

end TcpIp.Interface
