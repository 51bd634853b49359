import TcpIp.Arp.Coherence
import TcpIp.Arp.Progress

/-!
# The rate of the requests

An address that does not speak is not flooded with requests, however often its resolution is given up and asked for
again.

* `hears` — the step learns a mapping of the address;
* `Spaced` — the requests sent so far are spaced, and the address is not asked again before the last one is old enough
  (`Spaced.step`);
* `requests_spaced` — from any state, as long as the address is not heard, its requests are at least the retry interval
  apart: also those of different episodes.
-/

namespace TcpIp.Arp.Resolver.ArpResolver

open TcpIp.Lib TcpIp.Arp.Cache

/-- The step learns a mapping of `ip`. -/
def hears (ip : Ipv4Addr) (t : Step ArpResolver Call Answer) : Bool :=
  match t.input, t.output with
  | .observe packet _, .observe (.ok true) => packet.senderIp = ip
  | _, _ => false

lemma missing_unexpired {cache : ArpCache} {ip : Ipv4Addr} (h : cache.ipToMac.lookup ip = none) (now : Instant) :
    (cache.unexpired now).ipToMac.lookup ip = none := by
  rw [ArpCache.lookup_unexpired, h]
  rfl

lemma resolved_ne_of_missing {resolver : ArpResolver} {ip : Ipv4Addr} (h : resolver.cache.ipToMac.lookup ip = none)
    (now : Instant) (mac : MacAddress) : (resolver.resolved ip now).1 ≠ .resolved mac := by
  unfold resolved missed
  rw [missing_unexpired h now]
  dsimp only [Option.map_none]
  split_ifs
  · rintro ⟨⟩
  · split
    · rintro ⟨⟩
    · split_ifs <;> rintro ⟨⟩

/-- **A mapping appears only where it is heard.** -/
lemma missing_after {resolver : ArpResolver} {ip : Ipv4Addr} (h : resolver.cache.ipToMac.lookup ip = none)
    {call : Call} (hquiet : hears ip ⟨resolver, call, (step call resolver).1, (step call resolver).2⟩ = false) :
    (step call resolver).2.cache.ipToMac.lookup ip = none := by
  cases call with
  | resolve target now =>
    rw [step_resolve, (resolved_resolution resolver target now).cache_eq]
    exact missing_unexpired h now
  | observe packet now =>
    rw [step_observe] at hquiet ⊢
    unfold learns at hquiet
    unfold observed
    split_ifs with hignored
    · exact h
    · rw [decide_eq_true hignored] at hquiet
      have hne : ip ≠ packet.senderIp := fun hip => of_decide_eq_false hquiet hip.symm
      cases hlearned : (resolver.cache.learned packet.senderIp packet.senderMac now).ipToMac.lookup ip with
      | none => exact hlearned
      | some entry => cases (missing_unexpired h now).symm.trans (ArpCache.lookup_of_learned hne hlearned)
  | cachedMac target now =>
    rw [step_cachedMac]
    exact missing_unexpired h now

lemma requestedAt_of_pollOf {ip : Ipv4Addr} {t : Step ArpResolver Call Answer} (h : t.input.pollOf ip = none) :
    requestedAt ip t = none := by
  obtain ⟨before, call, answer, after⟩ := t
  cases call with
  | resolve target now =>
    have htarget : target ≠ ip := fun htarget => by cases (if_pos htarget).symm.trans h
    unfold requestedAt
    split
    · next hcall _ =>
      cases hcall
      exact if_neg htarget
    · rfl
  | observe packet now => rfl
  | cachedMac target now => rfl

lemma requestedAt_sendRequest (ip : Ipv4Addr) (now : Instant) (packet : ArpPacket) (before after : ArpResolver) :
    requestedAt ip ⟨before, .resolve ip now, .resolve (.ok (.sendRequest packet)), after⟩ = some now := if_pos rfl

lemma ends_of_pollOf {ip : Ipv4Addr} {t : Step ArpResolver Call Answer} (h : t.input.pollOf ip = none) :
    ends ip t = hears ip t := by
  obtain ⟨before, call, answer, after⟩ := t
  cases call with
  | resolve target now =>
    have htarget : target ≠ ip := fun htarget => by cases (if_pos htarget).symm.trans h
    have hhears : hears ip ⟨before, .resolve target now, answer, after⟩ = false := rfl
    rw [hhears]
    unfold ends
    split <;> simp_all
  | observe packet now =>
    unfold ends hears
    split <;> simp_all
  | cachedMac target now => rfl

lemma pending_after {resolver : ArpResolver} {ip : Ipv4Addr} {call : Call} (hpoll : call.pollOf ip = none)
    (hquiet : hears ip ⟨resolver, call, (step call resolver).1, (step call resolver).2⟩ = false) :
    (step call resolver).2.pending.lookup ip = resolver.pending.lookup ip := by
  have htouches := step_touches resolver ip call
  dsimp only at htouches
  rw [ends_of_pollOf hpoll, hquiet] at htouches
  cases htouches with
  | first now hcall hmax hnew hafter =>
    subst hcall
    cases (if_pos rfl).symm.trans hpoll
  | retried now hcall entry hfound hleft hafter =>
    subst hcall
    cases (if_pos rfl).symm.trans hpoll
  | kept hafter hearly => exact hafter

/-- The requests `sent` for `ip` are spaced, and the next one will be. -/
structure Spaced (retryInterval : Duration) (ip : Ipv4Addr) (sent : List Instant) (clock : Instant)
    (resolver : ArpResolver) : Prop where
  interval : resolver.retryInterval = retryInterval
  chain : sent.IsChain fun t t' => t + retryInterval ≤ t'
  /-- An address that was asked for has no mapping, and there are attempts to make. -/
  missing : sent ≠ [] → resolver.cache.ipToMac.lookup ip = none ∧ resolver.maxAttempts ≠ 0
  /-- The last request is old enough, or waited for. -/
  due : ∀ last ∈ sent.getLast?, last + retryInterval ≤ clock ∨
    ∃ entry, resolver.pending.lookup ip = some entry ∧ last + retryInterval ≤ entry.nextRetryAt

namespace Spaced

variable {retryInterval : Duration} {ip : Ipv4Addr} {sent : List Instant} {clock now : Instant}
  {resolver after : ArpResolver}

lemma start (resolver : ArpResolver) (ip : Ipv4Addr) (clock : Instant) :
    Spaced resolver.retryInterval ip [] clock resolver where
  interval := rfl
  chain := List.isChain_nil
  missing := fun hsent => absurd rfl hsent
  due := by rintro last ⟨⟩

section After

variable (h : Spaced retryInterval ip sent clock resolver)
  (hconfig : after.retryInterval = resolver.retryInterval ∧ after.maxAttempts = resolver.maxAttempts)
include h hconfig

lemma wait (hmissing : sent ≠ [] → after.cache.ipToMac.lookup ip = none)
    (hdue : ∀ last ∈ sent.getLast?, last + retryInterval ≤ now ∨
      ∃ entry, after.pending.lookup ip = some entry ∧ last + retryInterval ≤ entry.nextRetryAt) :
    Spaced retryInterval ip sent now after where
  interval := hconfig.1.trans h.interval
  chain := h.chain
  missing := fun hsent => ⟨hmissing hsent, hconfig.2 ▸ (h.missing hsent).2⟩
  due := hdue

lemma kept (hle : clock ≤ now) (hmissing : sent ≠ [] → after.cache.ipToMac.lookup ip = none)
    (hpending : after.pending.lookup ip = resolver.pending.lookup ip) : Spaced retryInterval ip sent now after := by
  refine h.wait hconfig hmissing fun last hlast => ?_
  rw [hpending]
  exact (h.due last hlast).imp_left fun hold => hold.trans hle

lemma ask (hclock : now + retryInterval ≤ instantMax) (hmissing : after.cache.ipToMac.lookup ip = none)
    (hmax : resolver.maxAttempts ≠ 0) (hlast : ∀ last ∈ sent.getLast?, last + retryInterval ≤ now)
    {attemptsSent : UInt64}
    (hentry : after.pending.lookup ip = some ⟨attemptsSent, nextRetryAt now resolver.retryInterval⟩) :
    Spaced retryInterval ip (sent ++ [now]) now after where
  interval := hconfig.1.trans h.interval
  chain := by
    refine List.isChain_append.2 ⟨h.chain, List.isChain_singleton _, fun last hlast' t ht => ?_⟩
    obtain rfl : now = t := by simpa using ht
    exact hlast last hlast'
  missing := fun _ => ⟨hmissing, hconfig.2 ▸ hmax⟩
  due := by
    intro last hlast'
    obtain rfl : now = last := by simpa using hlast'
    refine Or.inr ⟨_, hentry, ?_⟩
    rw [h.interval, nextRetryAt, checkedAdd, if_pos hclock]
    exact le_rfl

end After

lemma old (h : Spaced retryInterval ip sent clock resolver) (hle : clock ≤ now)
    (hentry : ∀ entry, resolver.pending.lookup ip = some entry → entry.nextRetryAt ≤ now) :
    ∀ last ∈ sent.getLast?, last + retryInterval ≤ now := by
  intro last hlast
  rcases h.due last hlast with hold | ⟨entry, hfound, hnext⟩
  · exact hold.trans hle
  · exact hnext.trans (hentry entry hfound)

lemma resolved (h : Spaced retryInterval ip sent clock resolver) (hle : clock ≤ now)
    (hclock : now + retryInterval ≤ instantMax) {outcome : ResolveOutcome}
    (hresolution : Resolution resolver ip now outcome after) (hhit : ∀ mac, outcome = .resolved mac → sent = [])
    (hmissed : (∀ mac, outcome ≠ .resolved mac) → (resolver.cache.unexpired now).ipToMac.lookup ip = none) :
    Spaced retryInterval ip (sent ++ (requestedAt ip
      ⟨resolver, .resolve ip now, .resolve (.ok outcome), after⟩).toList) now after := by
  have hdue {entry : PendingResolution} (hfound : resolver.pending.lookup ip = some entry)
      (hdue : entry.nextRetryAt ≤ now) : ∀ last ∈ sent.getLast?, last + retryInterval ≤ now := by
    refine h.old hle fun entry' hfound' => ?_
    obtain rfl := Option.some.inj (hfound.symm.trans hfound')
    exact hdue
  cases hresolution with
  | hit mac =>
    obtain rfl := hhit mac rfl
    exact h.wait ⟨rfl, rfl⟩ (fun hsent => absurd rfl hsent) (by rintro last ⟨⟩)
  | ask hmax hnew =>
    rw [requestedAt_sendRequest]
    have hlast := h.old hle fun entry hfound => by cases hnew.symm.trans hfound
    exact h.ask ⟨rfl, rfl⟩ hclock (hmissed (by rintro mac ⟨⟩)) hmax hlast (Finmap.lookup_insert _)
  | wait entry hfound hearly =>
    rw [requestedAt, Option.toList_none, List.append_nil]
    exact h.kept ⟨rfl, rfl⟩ hle (fun _ => hmissed (by rintro mac ⟨⟩)) rfl
  | retry entry hfound hpassed hleft =>
    rw [requestedAt_sendRequest]
    have hmax : resolver.maxAttempts ≠ 0 := fun hzero => UInt64.not_lt_zero (hzero ▸ hleft)
    exact h.ask ⟨rfl, rfl⟩ hclock (hmissed (by rintro mac ⟨⟩)) hmax (hdue hfound hpassed)
      (Finmap.lookup_insert _)
  | giveUp hspent =>
    rw [requestedAt, Option.toList_none, List.append_nil]
    refine h.wait ⟨rfl, rfl⟩ (fun _ => hmissed (by rintro mac ⟨⟩)) fun last hlast => Or.inl ?_
    -- a request was sent, so there are attempts to make and the last deadline has passed
    have hsent : sent ≠ [] := List.ne_nil_of_mem (List.mem_of_getLast? hlast)
    obtain ⟨entry, hfound, hpassed, -⟩ := hspent.resolve_left (h.missing hsent).2
    exact hdue hfound hpassed last hlast

/-- **One call** that does not hear the address. -/
theorem step (h : Spaced retryInterval ip sent clock resolver) {call : Call} (hle : clock ≤ call.now)
    (hclock : call.now + retryInterval ≤ instantMax) :
    let t : Step ArpResolver Call Answer :=
      ⟨resolver, call, (ArpResolver.step call resolver).1, (ArpResolver.step call resolver).2⟩
    hears ip t = false → Spaced retryInterval ip (sent ++ (requestedAt ip t).toList) call.now t.after := by
  intro t hquiet
  have hmissing : sent ≠ [] → t.after.cache.ipToMac.lookup ip = none :=
    fun hsent => missing_after (h.missing hsent).1 hquiet
  cases hpoll : call.pollOf ip with
  | none =>
    rw [requestedAt_of_pollOf hpoll, Option.toList_none, List.append_nil]
    exact h.kept (step_config resolver call) hle hmissing (pending_after hpoll hquiet)
  | some now =>
    obtain rfl : call = .resolve ip now := by
      cases call with
      | resolve target now' =>
        rw [Call.pollOf] at hpoll
        split_ifs at hpoll with htarget
        rw [htarget, Option.some.inj hpoll]
      | observe packet now' => cases hpoll
      | cachedMac target now' => cases hpoll
    have hresolution := resolved_resolution resolver ip now
    dsimp only [t]
    rw [step_resolve]
    refine h.resolved hle hclock hresolution (fun mac hhit => ?_) lookup_unexpired_of_missed
    by_contra hsent
    exact resolved_ne_of_missing (h.missing hsent).1 now mac hhit

/-- **A run** that does not hear the address. -/
theorem run (h : Spaced retryInterval ip sent clock resolver) {window : List Call}
    (hclock : (clock :: window.map Call.now).Pairwise (· ≤ ·))
    (hmax : ∀ call ∈ window, call.now + retryInterval ≤ instantMax)
    (hquiet : ∀ t ∈ trace ArpResolver.step resolver window, hears ip t = false) :
    (sent ++ (trace ArpResolver.step resolver window).filterMap (requestedAt ip)).IsChain
      fun t t' => t + retryInterval ≤ t' := by
  induction window generalizing sent clock resolver with
  | nil =>
    rw [trace, List.filterMap_nil, List.append_nil]
    exact h.chain
  | cons call rest ih =>
    rw [trace] at hquiet ⊢
    have hafter := h.step (List.rel_of_pairwise_cons hclock List.mem_cons_self) (hmax call List.mem_cons_self)
      (hquiet _ List.mem_cons_self)
    have hrest := ih hafter hclock.of_cons (fun call hcall => hmax call (List.mem_cons_of_mem _ hcall))
      fun t ht => hquiet t (List.mem_cons_of_mem _ ht)
    rw [List.append_assoc] at hrest
    cases hsent : requestedAt ip
        ⟨resolver, call, (ArpResolver.step call resolver).1, (ArpResolver.step call resolver).2⟩ with
    | none =>
      rw [hsent] at hrest
      rwa [List.filterMap_cons_none hsent]
    | some now =>
      rw [hsent] at hrest
      rwa [List.filterMap_cons_some hsent]

end Spaced

/-- **Requests are spaced.**  Whatever state a window of calls begins in, if no packet of `ip` is learned in it, any two
requests for `ip` are at least the retry interval apart: also when the address was given up in between and asked for
again, or the mapping that it had was dropped. -/
theorem requests_spaced (resolver : ArpResolver) (window : List Call) (ip : Ipv4Addr)
    (hclock : (window.map Call.now).Pairwise (· ≤ ·))
    (hmax : ∀ call ∈ window, call.now + resolver.retryInterval ≤ instantMax)
    (hquiet : ∀ t ∈ trace step resolver window, hears ip t = false) :
    ((trace step resolver window).filterMap (requestedAt ip)).Pairwise
      fun t t' => t + resolver.retryInterval ≤ t' := by
  have hstart : (0 :: window.map Call.now).Pairwise (· ≤ ·) :=
    List.pairwise_cons.2 ⟨fun now _ => Nat.zero_le now, hclock⟩
  have hchain := (Spaced.start resolver ip 0).run hstart hmax hquiet
  have htrans : IsTrans Instant fun t t' => t + resolver.retryInterval ≤ t' :=
    ⟨fun t t' t'' hfirst hsecond => hfirst.trans ((Nat.le_add_right t' _).trans hsecond)⟩
  exact List.isChain_iff_pairwise.1 hchain

/-- An address that is given up after one attempt and asked for again, while another host speaks. -/
theorem requests_spaced_again :
    let start := ArpResolver.new ⟨2, 0, 0, 0, 0, 1⟩ ⟨10, 0, 0, 1⟩ (ArpCache.new 4 60) 5 1
    let request := buildRequest ⟨10, 0, 0, 1⟩ ⟨2, 0, 0, 0, 0, 3⟩ ⟨10, 0, 0, 3⟩
    ((trace step start [.resolve ⟨10, 0, 0, 2⟩ 10, .observe request 11, .resolve ⟨10, 0, 0, 2⟩ 15,
        .resolve ⟨10, 0, 0, 2⟩ 15]).filterMap (requestedAt ⟨10, 0, 0, 2⟩)).Pairwise fun t t' => t + 5 ≤ t' := by
  intro start request
  exact requests_spaced start [.resolve ⟨10, 0, 0, 2⟩ 10, .observe request 11, .resolve ⟨10, 0, 0, 2⟩ 15,
    .resolve ⟨10, 0, 0, 2⟩ 15] ⟨10, 0, 0, 2⟩ (by decide) (by decide) (by decide)

/-- What is heard can be forgotten at once. -/
example :
    let start := ArpResolver.new ⟨2, 0, 0, 0, 0, 1⟩ ⟨10, 0, 0, 1⟩ (ArpCache.new 4 1) 5 1
    let request := buildRequest ⟨10, 0, 0, 1⟩ ⟨2, 0, 0, 0, 0, 2⟩ ⟨10, 0, 0, 2⟩
    (trace step start [.resolve ⟨10, 0, 0, 2⟩ 10, .observe request 11, .resolve ⟨10, 0, 0, 2⟩ 12]).filterMap
      (requestedAt ⟨10, 0, 0, 2⟩) = [10, 12] := by
  decide

end TcpIp.Arp.Resolver.ArpResolver
