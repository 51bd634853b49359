import TcpIp.Arp.Retries

/-!
# The cache and the pending requests of the resolver

Runs of a resolver on an arbitrary list of calls, at instants in any order.

* `Coherent` — no address is both in the cache and pending, and what is pending is within the budget of requests.  Every
  call keeps this (`Coherent.step`);
* `representation_invariant` — the same for a run from a new resolver, with what it means for the next call.
-/

namespace TcpIp.Arp.Resolver.ArpResolver

open TcpIp.Lib TcpIp.Arp.Cache

/-- The cache and the map of pending requests have no address in common, and the counters are within the budget. -/
structure Coherent (maxAttempts : UInt64) (resolver : ArpResolver) : Prop where
  budget : resolver.maxAttempts = maxAttempts
  disjoint : Disjoint resolver.cache.ipToMac.keys resolver.pending.keys
  attempts : ∀ ip entry, resolver.pending.lookup ip = some entry →
    1 ≤ entry.attemptsSent ∧ entry.attemptsSent ≤ maxAttempts

lemma lookup_unexpired_of_missed {resolver : ArpResolver} {ip : Ipv4Addr} {now : Instant}
    (h : ∀ mac, (resolver.resolved ip now).1 ≠ .resolved mac) :
    (resolver.cache.unexpired now).ipToMac.lookup ip = none := by
  unfold resolved at h
  cases hfound : (resolver.cache.unexpired now).ipToMac.lookup ip with
  | none => rfl
  | some entry =>
    rw [hfound] at h
    exact absurd rfl (h entry.mac)

lemma Resolution.cache_eq {resolver after : ArpResolver} {ip : Ipv4Addr} {now : Instant} {outcome : ResolveOutcome}
    (h : Resolution resolver ip now outcome after) : after.cache = resolver.cache.unexpired now := by
  cases h <;> rfl

namespace Coherent

variable {maxAttempts : UInt64} {resolver : ArpResolver}

lemma new (localMac : MacAddress) (localIp : Ipv4Addr) (cache : ArpCache) (retryInterval : Duration)
    (maxAttempts : UInt64) :
    Coherent maxAttempts (ArpResolver.new localMac localIp cache retryInterval maxAttempts) where
  budget := rfl
  disjoint := Finset.disjoint_empty_right _
  attempts := by
    intro ip entry hfound
    rw [ArpResolver.new, Finmap.lookup_empty] at hfound
    cases hfound

lemma unexpired (h : Coherent maxAttempts resolver) (now : Instant) :
    Coherent maxAttempts (resolver.unexpired now) where
  budget := h.budget
  disjoint := h.disjoint.mono (HashMap.keys_retain_subset _ _) le_rfl
  attempts := h.attempts

lemma removePending (h : Coherent maxAttempts resolver) (ip : Ipv4Addr) :
    Coherent maxAttempts (resolver.removePending ip) where
  budget := h.budget
  disjoint := by
    rw [ArpResolver.removePending, Finmap.keys_erase]
    exact h.disjoint.mono le_rfl (Finset.erase_subset _ _)
  attempts := by
    intro ip' entry hfound
    by_cases hip : ip' = ip
    · rw [ArpResolver.removePending, hip, Finmap.lookup_erase] at hfound
      cases hfound
    · exact h.attempts ip' entry ((Finmap.lookup_erase_ne hip).symm.trans hfound)

lemma insertPending (h : Coherent maxAttempts resolver) {ip : Ipv4Addr} {entry : PendingResolution}
    (hmiss : resolver.cache.ipToMac.lookup ip = none)
    (hentry : 1 ≤ entry.attemptsSent ∧ entry.attemptsSent ≤ maxAttempts) :
    Coherent maxAttempts (resolver.insertPending ip entry) where
  budget := h.budget
  disjoint := by
    rw [ArpResolver.insertPending, HashMap.keys_insert, Finset.disjoint_insert_right]
    exact ⟨HashMap.notMem_keys_iff.2 hmiss, h.disjoint⟩
  attempts := by
    intro ip' entry' hfound
    rw [ArpResolver.insertPending, HashMap.lookup_insert_eq] at hfound
    split_ifs at hfound with hip
    · obtain rfl := Option.some.inj hfound
      exact hentry
    · exact h.attempts ip' entry' hfound

lemma resolved (h : Coherent maxAttempts resolver) (ip : Ipv4Addr) (now : Instant) :
    Coherent maxAttempts (resolver.resolved ip now).2 := by
  have hresolution := ArpResolver.resolved_resolution resolver ip now
  have hmissed := @lookup_unexpired_of_missed resolver ip now
  generalize resolver.resolved ip now = result at hresolution hmissed ⊢
  obtain ⟨outcome, after⟩ := result
  have hfresh := h.unexpired now
  cases hresolution with
  | hit mac => exact hfresh.removePending ip
  | ask hmax hnew =>
    rw [h.budget] at hmax
    refine hfresh.insertPending (hmissed fun mac hsame => nomatch hsame) ⟨UInt64.le_refl 1, ?_⟩
    rw [UInt64.le_iff_toNat_le]
    exact Nat.one_le_iff_ne_zero.2 fun hzero => hmax (UInt64.toNat_inj.1 hzero)
  | wait entry hfound hearly => exact hfresh
  | retry entry hfound hdue hleft =>
    have hlimit := maxAttempts.toNat_lt
    rw [h.budget, UInt64.lt_iff_toNat_lt] at hleft
    have hcount : (entry.attemptsSent + 1).toNat = entry.attemptsSent.toNat + 1 := by
      rw [UInt64.toNat_add, UInt64.toNat_one, Nat.mod_eq_of_lt (by omega)]
    refine hfresh.insertPending (hmissed fun mac hsame => nomatch hsame) ⟨?_, ?_⟩
    · rw [UInt64.le_iff_toNat_le, hcount]
      exact Nat.le_add_left 1 _
    · rw [UInt64.le_iff_toNat_le, hcount]
      exact hleft
  | giveUp hspent => exact hfresh.removePending ip

lemma observed (h : Coherent maxAttempts resolver) (packet : ArpPacket) (now : Instant) :
    Coherent maxAttempts (resolver.observed packet now) := by
  unfold ArpResolver.observed
  split_ifs with hignored
  · exact h
  · have hmax : 0 < resolver.cache.maxEntries := Nat.pos_of_ne_zero fun hzero => hignored (Or.inl hzero)
    have hremoved := h.removePending packet.senderIp
    have hsender : packet.senderIp ∉ (resolver.removePending packet.senderIp).pending.keys := by
      rw [ArpResolver.removePending, Finmap.keys_erase]
      exact Finset.notMem_erase _ _
    refine ⟨hremoved.budget, ?_, hremoved.attempts⟩
    exact (Finset.disjoint_insert_left.2 ⟨hsender, hremoved.disjoint⟩).mono
      (ArpCache.keys_learned_subset hmax packet.senderIp packet.senderMac now) le_rfl

/-- **One call**, at any instant. -/
theorem step (h : Coherent maxAttempts resolver) (call : Call) :
    Coherent maxAttempts (ArpResolver.step call resolver).2 := by
  cases call with
  | resolve ip now =>
    rw [step_resolve]
    exact h.resolved ip now
  | observe packet now =>
    rw [step_observe]
    exact h.observed packet now
  | cachedMac ip now =>
    rw [step_cachedMac]
    exact h.unexpired now

lemma lookup_cache_of_pending (h : Coherent maxAttempts resolver) {ip : Ipv4Addr} {entry : PendingResolution}
    (hfound : resolver.pending.lookup ip = some entry) : resolver.cache.ipToMac.lookup ip = none := by
  have hpending := HashMap.mem_keys_of_lookup hfound
  exact HashMap.notMem_keys_iff.1 (Finset.disjoint_right.1 h.disjoint hpending)

lemma pending_eq_empty (h : Coherent maxAttempts resolver) (hzero : maxAttempts = 0) : resolver.pending = ∅ := by
  refine Finmap.ext_lookup fun ip => ?_
  rw [Finmap.lookup_empty]
  cases hfound : resolver.pending.lookup ip with
  | none => rfl
  | some entry =>
    obtain ⟨hfirst, hbudget⟩ := h.attempts ip entry hfound
    rw [hzero] at hbudget
    exact absurd (UInt64.le_trans hfirst hbudget) (by decide)

end Coherent

/-- **A run** of calls on a new resolver, with any cache. -/
theorem run_coherent (localMac : MacAddress) (localIp : Ipv4Addr) (cache : ArpCache) (retryInterval : Duration)
    (maxAttempts : UInt64) (calls : List Call) : Coherent maxAttempts
      (run ArpResolver.step (new localMac localIp cache retryInterval maxAttempts) calls) :=
  run_invariant (Coherent maxAttempts) (fun call _ h => h.step call)
    (Coherent.new localMac localIp cache retryInterval maxAttempts) calls

/-- **The representation invariant of the resolver**, for calls at instants in any order and a cache with any mappings
to start from.  No address is both cached and pending, every pending entry has sent at least one request and no more
than the budget, and without a budget nothing is pending.  So `resolve`, whose counter never overflows, asks and waits
only for addresses that are not cached, and what `observe` learned is not pending any more. -/
theorem representation_invariant (localMac : MacAddress) (localIp : Ipv4Addr) (cache : ArpCache)
    (retryInterval : Duration) (maxAttempts : UInt64) (calls : List Call) :
    let resolver := run ArpResolver.step (new localMac localIp cache retryInterval maxAttempts) calls
    Disjoint resolver.cache.ipToMac.keys resolver.pending.keys ∧
    (∀ ip entry, resolver.pending.lookup ip = some entry →
      1 ≤ entry.attemptsSent ∧ entry.attemptsSent ≤ maxAttempts) ∧
    (maxAttempts = 0 → resolver.pending = ∅ ∧ resolver.pendingCount = 0) ∧
    (∀ ip now, ∃ outcome after,
      (resolve ip now : Exec ArpResolver Empty ResolveOutcome).run resolver = (.ok outcome, after) ∧
      (outcome = .pending → resolver.cache.ipToMac.lookup ip = none) ∧
      (outcome = .pending ∨ (∃ packet, outcome = .sendRequest packet) →
        (resolver.cache.unexpired now).ipToMac.lookup ip = none ∧ after.cache.ipToMac.lookup ip = none)) ∧
    ∀ packet now, ∃ learned after,
      (observe packet now : Exec ArpResolver Empty Bool).run resolver = (.ok learned, after) ∧
      (learned = true → after.pending.lookup packet.senderIp = none) := by
  intro resolver
  have hcoherent := run_coherent localMac localIp cache retryInterval maxAttempts calls
  refine ⟨hcoherent.disjoint, hcoherent.attempts, fun hzero => ?_, fun ip now => ?_, fun packet now => ?_⟩
  · have hempty := hcoherent.pending_eq_empty hzero
    exact ⟨hempty, congrArg HashMap.len hempty⟩
  · have hresolution := resolved_resolution resolver ip now
    refine ⟨_, _, resolve_run ip now resolver, fun hpending => ?_, fun hasked => ?_⟩
    · rw [hpending] at hresolution
      generalize (resolver.resolved ip now).2 = after at hresolution
      cases hresolution with
      | wait entry hfound hearly => exact hcoherent.lookup_cache_of_pending hfound
    · have hmiss : (resolver.cache.unexpired now).ipToMac.lookup ip = none := by
        refine lookup_unexpired_of_missed fun mac hmac => ?_
        rcases hasked with hpending | ⟨packet, hsent⟩
        · rw [hpending] at hmac
          cases hmac
        · rw [hsent] at hmac
          cases hmac
      rw [hresolution.cache_eq]
      exact ⟨hmiss, hmiss⟩
  · refine ⟨_, _, observe_run packet now resolver, fun hlearns => ?_⟩
    have hignored := of_decide_eq_true hlearns
    rw [observed, if_neg hignored]
    exact Finmap.lookup_erase _ _

end TcpIp.Arp.Resolver.ArpResolver
