import TcpIp.Arp.Capacity
import TcpIp.Interface.ThreeWay
import TcpIp.Tcp.Peers

/-!
# The limits of an interface

What an interface holds is bounded, whatever frames come and whatever the clock says; and what is full stays full.

* `Full` — the table has no room, and the endpoint is not in it; no segment changes this, and those of the endpoint are
  not answered (`Full.step`);
* `pending_step` — nothing is pending in the resolver: an interface does not ask for addresses;
* `memory_is_bounded` — the bounds, and what a full table means for the peers that come too late.
-/

namespace TcpIp.Tcp.Listener.TcpListener

open TcpIp.Lib

/-- The table has no room for the endpoint. -/
structure Full (endpoint : Endpoint) (listener : TcpListener) : Prop where
  full : listener.capacity ≤ listener.len
  unknown : listener.connection (listener.keyOf endpoint) = none

/-- **A full table stays full**, and who is not in it is not answered. -/
theorem Full.step {endpoint : Endpoint} {listener : TcpListener} (h : Full endpoint listener) (call : Call) :
    Full endpoint (listener.step call).2 ∧ (call.endpoint = endpoint → (listener.step call).1 = .noReply) := by
  have hadmits : ¬listener.Admits call := fun ha => absurd ha.room (Nat.not_lt.2 h.full)
  refine ⟨⟨?_, ?_⟩, ?_⟩
  · rw [(step_of_not_admits hadmits).2, (step_fields listener call).2.2]
    exact h.full
  · rw [step_keyOf]
    rcases connection_step listener call (listener.keyOf endpoint) with hsame | ⟨ha, -, -⟩ | ⟨connection, hc, hkey, -⟩
    · exact hsame.trans h.unknown
    · exact absurd ha hadmits
    · cases (hkey ▸ h.unknown).symm.trans hc.found
  · rintro rfl
    have heffect := receiveSegment_effect listener call
    generalize listener.step call = result at heffect ⊢
    obtain ⟨action, after⟩ := result
    dsimp only at heffect ⊢
    cases heffect with
    | accept ha => exact absurd ha hadmits
    | retransmit connection hr => cases h.unknown.symm.trans hr.found
    | establish connection hc => rfl
    | ignore _ _ _ => rfl

end TcpIp.Tcp.Listener.TcpListener

namespace TcpIp.Interface

open TcpIp.Lib TcpIp.Arp TcpIp.Arp.Cache TcpIp.Arp.Resolver TcpIp.Ipv4 TcpIp.Tcp TcpIp.Tcp.Listener
  TcpIp.Tcp.Handshake

namespace NetworkInterface

variable {self : NetworkInterface}

lemma pending_step (event : Event) (self : NetworkInterface) (h : self.arpResolver.pending = ∅) :
    (step event self).2.arpResolver.pending = ∅ := by
  cases event with
  | lookup target now =>
    rw [step_lookup]
    exact h
  | frame input now =>
    rcases processFrameAt_parts self input now with ⟨e, -, hrun⟩ | ⟨delivery, -, -, hrun⟩
    · rw [step, hrun]
      exact h
    · rw [step, hrun]
      cases delivery with
      | arp ethernet packet =>
        show (self.arpResolver.observed packet now).pending = ∅
        unfold ArpResolver.observed
        split_ifs
        · exact h
        · show self.arpResolver.pending.erase packet.senderIp = ∅
          rw [h]
          exact HashMap.erase_of_lookup_none (Finmap.lookup_empty _)
      | ignored => exact h
      | echo ethernet ipv4 message => exact h
      | datagram ethernet ipv4 request => exact h
      | segment ethernet ipv4 request => exact h

/-- Segments of an endpoint that a full table does not know get no answer. -/
lemma full_step {endpoint : Endpoint} (h : self.tcpListener.Full endpoint) (event : Event) :
    (step event self).2.tcpListener.Full endpoint ∧
      ∀ call, event.segment self.macAddress self.ipv4Address = some call → call.endpoint = endpoint →
        (step event self).1 = .frame (.ok none) := by
  have hlistener := run_tcpListener self [event]
  rw [run_cons, run_nil] at hlistener
  refine ⟨?_, fun call hcall hendpoint => ?_⟩
  · rw [hlistener]
    exact run_invariant (TcpListener.Full endpoint) (fun call _ hfull => (hfull.step call).1) h _
  · obtain ⟨remoteIp, request⟩ := call
    obtain ⟨input, now, ethernet, ipv4, rfl, hdemux, hremote⟩ := Event.exists_frame_of_segment hcall
    obtain rfl : remoteIp = ipv4.source := hremote
    have haction : (self.tcpListener.step ⟨ipv4.source, request⟩).1 = .noReply := (h.step _).2 hendpoint
    rw [step, processFrameAt_eq, hdemux, answer, respond_of_noReply haction]

/-- **The memory of an interface is bounded.**  In every run of a new interface, whatever the frames and the clock,
there are at most `defaultTcpConnectionCapacity` connections, at most `cacheCapacity` mappings, and no pending requests.
And once the table is full it is full for good: a peer that is not in it then never enters it, and no segment of it is
answered. -/
theorem memory_is_bounded (macAddress : MacAddress) (ipv4Address : Ipv4Addr) (cacheCapacity : ℕ)
    (cacheTtl retryInterval : Duration) (maxAttempts : UInt64) (events : List Event) :
    let self := run step
      (withArpConfig macAddress ipv4Address cacheCapacity cacheTtl retryInterval maxAttempts) events
    self.tcpListener.len ≤ defaultTcpConnectionCapacity ∧ self.arpResolver.cache.len ≤ cacheCapacity ∧
      self.arpResolver.pendingCount = 0 ∧
      (self.tcpListener.len = defaultTcpConnectionCapacity → ∀ endpoint : Endpoint,
        self.tcpConnection ⟨ipv4Address, tcpEchoPort, endpoint.ip, endpoint.port⟩ = none → ∀ later,
          (run step self later).tcpConnection ⟨ipv4Address, tcpEchoPort, endpoint.ip, endpoint.port⟩ = none ∧
          ∀ t ∈ trace step self later, ∀ call, t.input.segment macAddress ipv4Address = some call →
            call.endpoint = endpoint → t.output = .frame (.ok none)) := by
  intro self
  let start := withArpConfig macAddress ipv4Address cacheCapacity cacheTtl retryInterval maxAttempts
  obtain ⟨hport, hcapacity, hkeyOf⟩ := run_listener_fields macAddress ipv4Address cacheCapacity cacheTtl retryInterval
    maxAttempts events
  have hlistener : self.tcpListener = run TcpListener.step start.tcpListener _ := run_tcpListener start events
  have htable := represents_run (Represents.new ipv4Address tcpEchoPort defaultTcpConnectionCapacity
    defaultTcpInitialSequence) (events.filterMap (Event.segment macAddress ipv4Address))
  have hcache : self.arpResolver.cache = run ArpCache.step (ArpCache.new cacheCapacity cacheTtl) _ :=
    run_cache start events
  have hpending : self.arpResolver.pending = ∅ :=
    run_invariant (fun s : NetworkInterface => s.arpResolver.pending = ∅) pending_step rfl events
  have haddresses : HasAddresses macAddress ipv4Address self := run_addresses start events
  refine ⟨?_, ?_, ?_, fun hlen endpoint hnone later => ?_⟩
  · rw [hlistener]
    exact htable.len.trans_le (Ledger.bounded _)
  · rw [hcache]
    exact (ArpCache.run_sized cacheCapacity cacheTtl _).bounded
  · rw [ArpResolver.pendingCount, hpending]
    rfl
  · have hfull : self.tcpListener.Full endpoint := ⟨(hcapacity.trans hlen.symm).le, by rw [hkeyOf]; exact hnone⟩
    have hrun := run_invariant
      (fun s : NetworkInterface => HasAddresses macAddress ipv4Address s ∧ s.tcpListener.Full endpoint)
      (fun event s h => ⟨hasAddresses_step event s h.1, (full_step h.2 event).1⟩) ⟨haddresses, hfull⟩
    refine ⟨?_, fun t ht call hcall hendpoint => ?_⟩
    · obtain ⟨-, -, hkeyOf'⟩ := run_listener_fields macAddress ipv4Address cacheCapacity cacheTtl retryInterval
        maxAttempts (events ++ later)
      rw [run_append] at hkeyOf'
      rw [← hkeyOf']
      exact (hrun later).2.unknown
    · obtain ⟨past, future, -, hbefore, houtput, -⟩ := mem_trace_iff.1 ht
      obtain ⟨hmacIp, hfull'⟩ := hrun past
      rw [← hbefore] at hmacIp hfull'
      rw [← hmacIp.1, ← hmacIp.2] at hcall
      rw [houtput]
      exact (full_step hfull' t.input).2 call hcall hendpoint

end NetworkInterface

end TcpIp.Interface
