import Mathlib.Data.List.DropRight
import TcpIp.Arp.Resolver
import TcpIp.Lib.Trace

/-!
# The retries of the resolver

Runs of a resolver on an arbitrary list of calls, seen from one address.

* `Resolution` — the five things that `resolve` can do, with their guards (`resolved_resolution`);
* `episode` — the steps of a run since the address was last resolved, given up or learned; `requests` — the instants of
  the requests that were sent for it since then;
* `Tracks` — the pending entry of the address counts the requests of the episode and holds the deadline that the last
  one set.  Every call keeps this (`Tracks.step`);
* `retry_protocol` — the budget of requests, their spacing, and when `resolve` waits and gives up.
-/

namespace TcpIp.Arp.Resolver.ArpResolver

open TcpIp.Lib TcpIp.Arp.Cache

/-- A call on a resolver. -/
inductive Call where
  | resolve (ip : Ipv4Addr) (now : Instant)
  | observe (packet : ArpPacket) (now : Instant)
  | cachedMac (ip : Ipv4Addr) (now : Instant)

def Call.now : Call → Instant
  | .resolve _ now => now
  | .observe _ now => now
  | .cachedMac _ now => now

/-- What a call on a resolver returns. -/
inductive Answer where
  | resolve (result : Outcome Empty ResolveOutcome)
  | observe (result : Outcome Empty Bool)
  | cachedMac (result : Outcome Empty (Option MacAddress))

/-- What `resolve` can do. -/
inductive Resolution (resolver : ArpResolver) (ip : Ipv4Addr) (now : Instant) : ResolveOutcome → ArpResolver → Prop
  | hit (mac : MacAddress) :
      Resolution resolver ip now (.resolved mac) ((resolver.unexpired now).removePending ip)
  | ask (hmax : resolver.maxAttempts ≠ 0) (hnew : resolver.pending.lookup ip = none) :
      Resolution resolver ip now (.sendRequest (buildRequest ip resolver.localMac resolver.localIp))
        ((resolver.unexpired now).insertPending ip ⟨1, nextRetryAt now resolver.retryInterval⟩)
  | wait (entry : PendingResolution) (hfound : resolver.pending.lookup ip = some entry)
      (hearly : now < entry.nextRetryAt) : Resolution resolver ip now .pending (resolver.unexpired now)
  | retry (entry : PendingResolution) (hfound : resolver.pending.lookup ip = some entry)
      (hdue : entry.nextRetryAt ≤ now) (hleft : entry.attemptsSent < resolver.maxAttempts) :
      Resolution resolver ip now (.sendRequest (buildRequest ip resolver.localMac resolver.localIp))
        ((resolver.unexpired now).insertPending ip
          ⟨entry.attemptsSent + 1, nextRetryAt now resolver.retryInterval⟩)
  | giveUp (hspent : resolver.maxAttempts = 0 ∨ ∃ entry, resolver.pending.lookup ip = some entry ∧
        entry.nextRetryAt ≤ now ∧ resolver.maxAttempts ≤ entry.attemptsSent) :
      Resolution resolver ip now .failed ((resolver.unexpired now).removePending ip)

/-- One call, as the step of a machine. -/
def step : Call → ArpResolver → Answer × ArpResolver
  | .resolve ip now, resolver => Prod.map Answer.resolve id ((resolve ip now).run resolver)
  | .observe packet now, resolver => Prod.map Answer.observe id ((observe packet now).run resolver)
  | .cachedMac ip now, resolver => Prod.map Answer.cachedMac id ((cachedMac ip now).run resolver)

variable {resolver : ArpResolver} {ip : Ipv4Addr} {now : Instant}

/-- **Every resolution is a hit, the first request, a wait, a retry, or the end.** -/
theorem resolved_resolution (resolver : ArpResolver) (ip : Ipv4Addr) (now : Instant) :
    Resolution resolver ip now (resolver.resolved ip now).1 (resolver.resolved ip now).2 := by
  unfold resolved
  cases ((resolver.cache.unexpired now).ipToMac.lookup ip).map CacheEntry.mac with
  | some mac => exact Resolution.hit mac
  | none =>
    have hpending : (resolver.unexpired now).pending = resolver.pending := rfl
    have hmax : (resolver.unexpired now).maxAttempts = resolver.maxAttempts := rfl
    unfold missed
    dsimp only
    rw [hpending, hmax]
    by_cases hzero : resolver.maxAttempts = 0
    · rw [if_pos hzero]
      exact Resolution.giveUp (Or.inl hzero)
    · rw [if_neg hzero]
      cases hfound : resolver.pending.lookup ip with
      | none => exact Resolution.ask hzero hfound
      | some entry =>
        dsimp only
        by_cases hearly : now < entry.nextRetryAt
        · rw [if_pos hearly]
          exact Resolution.wait entry hfound hearly
        · rw [if_neg hearly]
          have hdue := Nat.le_of_not_lt hearly
          by_cases hspent : entry.attemptsSent ≥ resolver.maxAttempts
          · rw [if_pos hspent]
            exact Resolution.giveUp (Or.inr ⟨entry, hfound, hdue, hspent⟩)
          · rw [if_neg hspent]
            exact Resolution.retry entry hfound hdue (UInt64.not_le.1 hspent)

lemma step_resolve : step (.resolve ip now) resolver =
    (.resolve (.ok (resolver.resolved ip now).1), (resolver.resolved ip now).2) := by
  rw [step, resolve_run]
  rfl

lemma step_observe {packet : ArpPacket} : step (.observe packet now) resolver =
    (.observe (.ok (resolver.learns packet)), resolver.observed packet now) := by
  rw [step, observe_run]
  rfl

lemma step_cachedMac : (step (.cachedMac ip now) resolver).2 = resolver.unexpired now := by
  rw [step, cachedMac_run]
  rfl

/-! ### Episodes -/

/-- The step ends the episode of `ip`: it resolves it, gives it up, or learns it. -/
def ends (ip : Ipv4Addr) (t : Step ArpResolver Call Answer) : Bool :=
  match t.input, t.output with
  | .resolve target _, .resolve (.ok (.resolved _)) => target = ip
  | .resolve target _, .resolve (.ok .failed) => target = ip
  | .observe packet _, .observe (.ok true) => packet.senderIp = ip
  | _, _ => false

/-- The steps since the last one that ended an episode of `ip`. -/
def episode (ip : Ipv4Addr) (steps : List (Step ArpResolver Call Answer)) : List (Step ArpResolver Call Answer) :=
  steps.rtakeWhile fun t => !ends ip t

/-- The instant at which the step sends a request for `ip`, if it does. -/
def requestedAt (ip : Ipv4Addr) (t : Step ArpResolver Call Answer) : Option Instant :=
  match t.input, t.output with
  | .resolve target now, .resolve (.ok (.sendRequest _)) => if target = ip then some now else none
  | _, _ => none

/-- The instants of the requests for `ip` in its current episode. -/
def requests (ip : Ipv4Addr) (steps : List (Step ArpResolver Call Answer)) : List Instant :=
  (episode ip steps).filterMap (requestedAt ip)

lemma requests_snoc (ip : Ipv4Addr) (steps : List (Step ArpResolver Call Answer)) (t : Step ArpResolver Call Answer) :
    requests ip (steps ++ [t]) = if ends ip t then [] else requests ip steps ++ (requestedAt ip t).toList := by
  unfold requests episode
  rw [List.rtakeWhile_concat]
  cases hends : ends ip t with
  | true => simp
  | false =>
    simp only [Bool.not_false, if_true, List.filterMap_append, Bool.false_eq_true, if_false]
    cases hsent : requestedAt ip t <;> simp [hsent]

/-- The requests of an episode after one more resolution of its address. -/
def counted (now : Instant) (sent : List Instant) : ResolveOutcome → List Instant
  | .resolved _ | .failed => []
  | .pending => sent
  | .sendRequest _ => sent ++ [now]

/-- The pending entry of `ip` says which requests were sent, and what is fixed is as it was at the start. -/
structure Tracks (start : ArpResolver) (ip : Ipv4Addr) (sent : List Instant) (resolver : ArpResolver) : Prop where
  localMac : resolver.localMac = start.localMac
  localIp : resolver.localIp = start.localIp
  retryInterval : resolver.retryInterval = start.retryInterval
  maxAttempts : resolver.maxAttempts = start.maxAttempts
  pending : resolver.pending.lookup ip =
    sent.getLast?.map fun last => ⟨UInt64.ofNat sent.length, last + start.retryInterval⟩
  budget : sent.length ≤ start.maxAttempts.toNat
  spaced : sent.IsChain fun t t' => t + start.retryInterval ≤ t'

namespace Tracks

variable {start resolver : ArpResolver} {ip : Ipv4Addr} {sent : List Instant} {now : Instant}

lemma new (localMac : MacAddress) (localIp : Ipv4Addr) (cache : ArpCache) (retryInterval : Duration)
    (maxAttempts : UInt64) (ip : Ipv4Addr) :
    Tracks (ArpResolver.new localMac localIp cache retryInterval maxAttempts) ip []
      (ArpResolver.new localMac localIp cache retryInterval maxAttempts) where
  localMac := rfl
  localIp := rfl
  retryInterval := rfl
  maxAttempts := rfl
  pending := Finmap.lookup_empty ip
  budget := Nat.zero_le _
  spaced := List.isChain_nil

lemma update (h : Tracks start ip sent resolver) (cache : ArpCache) {pending : HashMap Ipv4Addr PendingResolution}
    {sent' : List Instant} (hpending : pending.lookup ip =
      sent'.getLast?.map fun last => ⟨UInt64.ofNat sent'.length, last + start.retryInterval⟩)
    (hbudget : sent'.length ≤ start.maxAttempts.toNat)
    (hspaced : sent'.IsChain fun t t' => t + start.retryInterval ≤ t') :
    Tracks start ip sent' { resolver with cache, pending } :=
  ⟨h.localMac, h.localIp, h.retryInterval, h.maxAttempts, hpending, hbudget, hspaced⟩

lemma ended (h : Tracks start ip sent resolver) (cache : ArpCache) :
    Tracks start ip [] { resolver with cache, pending := resolver.pending.erase ip } :=
  h.update cache (Finmap.lookup_erase ip resolver.pending) (Nat.zero_le _) List.isChain_nil

lemma asked (h : Tracks start ip sent resolver) (cache : ArpCache) (hclock : now + start.retryInterval ≤ instantMax)
    (hbudget : sent.length < start.maxAttempts.toNat)
    (hdue : ∀ last ∈ sent.getLast?, last + start.retryInterval ≤ now) :
    Tracks start ip (sent ++ [now]) { resolver with
      cache
      pending := resolver.pending.insert ip
        ⟨UInt64.ofNat (sent.length + 1), nextRetryAt now resolver.retryInterval⟩ } := by
  have hnext : nextRetryAt now resolver.retryInterval = now + start.retryInterval := by
    rw [h.retryInterval, nextRetryAt, checkedAdd, if_pos hclock]
    rfl
  refine h.update cache ?_ ?_ ?_
  · rw [Finmap.lookup_insert, hnext, List.getLast?_concat, List.length_append, List.length_singleton]
    rfl
  · rw [List.length_append, List.length_singleton]
    exact hbudget
  · refine List.isChain_append.2 ⟨h.spaced, List.isChain_singleton _, fun last hlast t ht => ?_⟩
    obtain rfl : now = t := by simpa using ht
    exact hdue last hlast

lemma pending_eq_none_iff (h : Tracks start ip sent resolver) : resolver.pending.lookup ip = none ↔ sent = [] := by
  rw [h.pending, Option.map_eq_none_iff, List.getLast?_eq_none_iff]

lemma of_pending (h : Tracks start ip sent resolver) {entry : PendingResolution}
    (hfound : resolver.pending.lookup ip = some entry) : ∃ last, sent.getLast? = some last ∧
      entry.attemptsSent.toNat = sent.length ∧ entry.nextRetryAt = last + start.retryInterval := by
  rw [h.pending] at hfound
  obtain ⟨last, hlast, rfl⟩ := Option.map_eq_some_iff.1 hfound
  have hmax := start.maxAttempts.toNat_lt
  have hbudget := h.budget
  refine ⟨last, hlast, ?_, rfl⟩
  rw [UInt64.toNat_ofNat', Nat.mod_eq_of_lt (by omega)]

lemma resolved (h : Tracks start ip sent resolver) (hclock : now + start.retryInterval ≤ instantMax)
    {outcome : ResolveOutcome} {after : ArpResolver} (hresolution : Resolution resolver ip now outcome after) :
    Tracks start ip (counted now sent outcome) after := by
  cases hresolution with
  | hit mac => exact h.ended _
  | ask hmax hnew =>
    obtain rfl := h.pending_eq_none_iff.1 hnew
    refine h.asked _ hclock ?_ fun last hlast => by cases hlast
    rw [h.maxAttempts] at hmax
    exact Nat.pos_of_ne_zero fun hzero => hmax (UInt64.toNat_inj.1 hzero)
  | wait entry hfound hearly => exact h.update _ h.pending h.budget h.spaced
  | retry entry hfound hdue hleft =>
    obtain ⟨last, hlast, hattempts, hnext⟩ := h.of_pending hfound
    have hcount : entry.attemptsSent + 1 = UInt64.ofNat (sent.length + 1) := by
      rw [UInt64.ofNat_add, ← hattempts, UInt64.ofNat_toNat]
      rfl
    rw [h.maxAttempts, UInt64.lt_iff_toNat_lt, hattempts] at hleft
    have hdue : ∀ last' ∈ sent.getLast?, last' + start.retryInterval ≤ now := by
      intro last' hlast'
      obtain rfl : last = last' := Option.some.inj (hlast.symm.trans hlast')
      rwa [← hnext]
    have hasked := h.asked (resolver.cache.unexpired now) hclock hleft hdue
    rw [← hcount] at hasked
    exact hasked
  | giveUp hspent => exact h.ended _

lemma resolved_other (h : Tracks start ip sent resolver) {target : Ipv4Addr} (htarget : target ≠ ip)
    {outcome : ResolveOutcome} {after : ArpResolver} (hresolution : Resolution resolver target now outcome after) :
    Tracks start ip sent after := by
  have hne : ip ≠ target := htarget.symm
  cases hresolution with
  | hit mac => exact h.update _ ((Finmap.lookup_erase_ne hne).trans h.pending) h.budget h.spaced
  | ask hmax hnew => exact h.update _ ((Finmap.lookup_insert_of_ne _ hne).trans h.pending) h.budget h.spaced
  | wait entry hfound hearly => exact h.update _ h.pending h.budget h.spaced
  | retry entry hfound hdue hleft =>
    exact h.update _ ((Finmap.lookup_insert_of_ne _ hne).trans h.pending) h.budget h.spaced
  | giveUp hspent => exact h.update _ ((Finmap.lookup_erase_ne hne).trans h.pending) h.budget h.spaced

lemma observed (h : Tracks start ip sent resolver) (packet : ArpPacket) (now : Instant) :
    Tracks start ip (if resolver.learns packet = true ∧ packet.senderIp = ip then [] else sent)
      (resolver.observed packet now) := by
  unfold ArpResolver.learns ArpResolver.observed
  by_cases hignored : resolver.cache.maxEntries = 0 ∨ (packet.operation ≠ .request ∧ packet.operation ≠ .reply)
  · rw [decide_eq_false (not_not_intro hignored), if_pos hignored, if_neg fun hlearned => nomatch hlearned.1]
    exact h
  · rw [decide_eq_true hignored, if_neg hignored]
    by_cases hsender : packet.senderIp = ip
    · rw [if_pos ⟨rfl, hsender⟩]
      subst hsender
      exact h.ended _
    · rw [if_neg fun hlearned => hsender hlearned.2]
      exact h.update _ ((Finmap.lookup_erase_ne fun hip => hsender hip.symm).trans h.pending) h.budget h.spaced

/-- **One call**: a request is counted, an end starts afresh, nothing else touches the entry of the address. -/
theorem step (h : Tracks start ip sent resolver) (call : Call)
    (hclock : call.now + start.retryInterval ≤ instantMax) :
    let t : Step ArpResolver Call Answer :=
      ⟨resolver, call, (ArpResolver.step call resolver).1, (ArpResolver.step call resolver).2⟩
    Tracks start ip (if ends ip t then [] else sent ++ (requestedAt ip t).toList) t.after := by
  cases call with
  | resolve target now =>
    have hresolution := ArpResolver.resolved_resolution resolver target now
    rw [ArpResolver.step_resolve]
    generalize resolver.resolved target now = result at hresolution ⊢
    obtain ⟨outcome, after⟩ := result
    by_cases htarget : target = ip
    · subst htarget
      have hresolved := h.resolved hclock hresolution
      cases outcome <;> simpa [ends, requestedAt, counted, Call.now] using hresolved
    · have hother := h.resolved_other htarget hresolution
      cases outcome <;> simpa [ends, requestedAt, htarget] using hother
  | observe packet now =>
    have hobserved := h.observed packet now
    rw [ArpResolver.step_observe]
    cases hlearns : resolver.learns packet <;> simpa [ends, requestedAt, hlearns] using hobserved
  | cachedMac target now =>
    have hwaits : Tracks start ip sent (resolver.unexpired now) := h.update _ h.pending h.budget h.spaced
    dsimp only
    rw [ArpResolver.step_cachedMac]
    simpa [ends, requestedAt] using hwaits

lemma waits (h : Tracks start ip sent resolver) {last : Instant} (hlast : last ∈ sent.getLast?)
    (hearly : now < last + start.retryInterval) {outcome : ResolveOutcome} {after : ArpResolver}
    (hresolution : Resolution resolver ip now outcome after) :
    outcome = .pending ∨ ∃ mac, outcome = .resolved mac := by
  have hentry : ∀ entry, resolver.pending.lookup ip = some entry → now < entry.nextRetryAt := by
    intro entry hfound
    obtain ⟨last', hlast', -, hnext⟩ := h.of_pending hfound
    obtain rfl : last = last' := Option.some.inj (hlast.symm.trans hlast')
    rwa [hnext]
  have hsent : sent ≠ [] := by
    intro hnil
    rw [hnil] at hlast
    cases hlast
  cases hresolution with
  | hit mac => exact Or.inr ⟨mac, rfl⟩
  | ask hmax hnew => exact absurd (h.pending_eq_none_iff.1 hnew) hsent
  | wait entry hfound hwait => exact Or.inl rfl
  | retry entry hfound hdue hleft => exact absurd (hentry entry hfound) (Nat.not_lt.2 hdue)
  | giveUp hspent =>
    rcases hspent with hzero | ⟨entry, hfound, hdue, -⟩
    · have hbudget := h.budget
      rw [← h.maxAttempts, hzero] at hbudget
      exact absurd (List.length_eq_zero_iff.1 (Nat.le_zero.1 hbudget)) hsent
    · exact absurd (hentry entry hfound) (Nat.not_lt.2 hdue)

lemma gives_up (h : Tracks start ip sent resolver) (hmax : 0 < start.maxAttempts) {after : ArpResolver}
    (hresolution : Resolution resolver ip now .failed after) :
    sent.length = start.maxAttempts.toNat ∧ ∃ last, sent.getLast? = some last ∧ last + start.retryInterval ≤ now := by
  cases hresolution with
  | giveUp hspent =>
    rcases hspent with hzero | ⟨entry, hfound, hdue, hattempts⟩
    · rw [← h.maxAttempts, hzero] at hmax
      exact absurd hmax (UInt64.lt_irrefl 0)
    · obtain ⟨last, hlast, hcount, hnext⟩ := h.of_pending hfound
      rw [h.maxAttempts, UInt64.le_iff_toNat_le, hcount] at hattempts
      rw [hnext] at hdue
      exact ⟨Nat.le_antisymm h.budget hattempts, last, hlast, hdue⟩

lemma request (h : Tracks start ip sent resolver) {packet : ArpPacket} {after : ArpResolver}
    (hresolution : Resolution resolver ip now (.sendRequest packet) after) :
    packet = buildRequest ip start.localMac start.localIp ∧ start.maxAttempts ≠ 0 := by
  rw [← h.localMac, ← h.localIp, ← h.maxAttempts]
  cases hresolution with
  | ask hmax hnew => exact ⟨rfl, hmax⟩
  | retry entry hfound hdue hleft =>
    refine ⟨rfl, fun hzero => ?_⟩
    rw [hzero] at hleft
    exact UInt64.not_lt_zero hleft

end Tracks

/-- **A run**: the entry of an address tracks the requests of its current episode. -/
theorem run_tracks {start : ArpResolver} {ip : Ipv4Addr} (hstart : Tracks start ip [] start) (calls : List Call)
    (hclock : ∀ call ∈ calls, call.now + start.retryInterval ≤ instantMax) :
    Tracks start ip (requests ip (trace ArpResolver.step start calls)) (run ArpResolver.step start calls) := by
  induction calls using List.reverseRecOn with
  | nil => exact hstart
  | append_singleton past call ih =>
    have hpast := ih fun call hcall => hclock call (List.mem_append_left _ hcall)
    rw [run_snoc, trace_snoc, requests_snoc]
    exact hpast.step call (hclock call (List.mem_append_right _ (List.mem_singleton_self call)))

/-- **The retry protocol of an address.**  In each of its episodes at most `maxAttempts` requests are sent, each at
least `retryInterval` after the one before; until then `resolve` waits, and it gives up only when the budget is spent
and the last deadline has passed.  A request is for the address, and from this resolver. -/
theorem retry_protocol (localMac : MacAddress) (localIp : Ipv4Addr) (cache : ArpCache) (retryInterval : Duration)
    (maxAttempts : UInt64) (calls : List Call) (ip : Ipv4Addr)
    (hclock : ∀ call ∈ calls, call.now + retryInterval ≤ instantMax) :
    let start := ArpResolver.new localMac localIp cache retryInterval maxAttempts
    let sent := requests ip (trace ArpResolver.step start calls)
    sent.length ≤ maxAttempts.toNat ∧ sent.IsChain (fun t t' => t + retryInterval ≤ t') ∧ ∀ now,
      let outcome := ((ArpResolver.resolve ip now : Exec ArpResolver Empty ResolveOutcome).run
        (run ArpResolver.step start calls)).1
      (∀ last ∈ sent.getLast?, now < last + retryInterval →
        outcome = .ok .pending ∨ ∃ mac, outcome = .ok (.resolved mac)) ∧
      (0 < maxAttempts → outcome = .ok .failed →
        sent.length = maxAttempts.toNat ∧ ∃ last, sent.getLast? = some last ∧ last + retryInterval ≤ now) ∧
      (maxAttempts = 0 → ∀ packet, outcome ≠ .ok (.sendRequest packet)) ∧
      ∀ packet, outcome = .ok (.sendRequest packet) → packet.operation = .request ∧ packet.targetIp = ip ∧
        packet.senderMac = localMac ∧ packet.senderIp = localIp := by
  intro start sent
  have htracks : Tracks start ip sent (run ArpResolver.step start calls) :=
    run_tracks (Tracks.new localMac localIp cache retryInterval maxAttempts ip) calls hclock
  refine ⟨htracks.budget, htracks.spaced, fun now => ?_⟩
  have hresolution := ArpResolver.resolved_resolution (run ArpResolver.step start calls) ip now
  rw [ArpResolver.resolve_run]
  generalize (run ArpResolver.step start calls).resolved ip now = result at hresolution ⊢
  obtain ⟨outcome, after⟩ := result
  simp only [ne_eq, Outcome.ok.injEq]
  refine ⟨fun last hlast hearly => htracks.waits hlast hearly hresolution, ?_, ?_, ?_⟩
  · rintro hmax rfl
    exact htracks.gives_up hmax hresolution
  · rintro hzero packet rfl
    exact (htracks.request hresolution).2 hzero
  · rintro packet rfl
    rw [(htracks.request hresolution).1]
    exact ⟨rfl, rfl, rfl, rfl⟩

/-- An address that never answers: of three calls the first and the last send a request. -/
theorem retry_protocol_twice :
    let start := ArpResolver.new ⟨2, 0, 0, 0, 0, 1⟩ ⟨10, 0, 0, 1⟩ (ArpCache.new 4 60) 5 2
    let sent := requests ⟨10, 0, 0, 2⟩ (trace ArpResolver.step start
      [.resolve ⟨10, 0, 0, 2⟩ 10, .resolve ⟨10, 0, 0, 2⟩ 12, .resolve ⟨10, 0, 0, 2⟩ 15])
    sent = [10, 15] ∧ sent.length ≤ 2 ∧ sent.IsChain fun t t' => t + 5 ≤ t' := by
  have hprotocol := retry_protocol ⟨2, 0, 0, 0, 0, 1⟩ ⟨10, 0, 0, 1⟩ (ArpCache.new 4 60) 5 2
    [.resolve ⟨10, 0, 0, 2⟩ 10, .resolve ⟨10, 0, 0, 2⟩ 12, .resolve ⟨10, 0, 0, 2⟩ 15] ⟨10, 0, 0, 2⟩ (by decide)
  exact ⟨by decide, hprotocol.1, hprotocol.2.1⟩

end TcpIp.Arp.Resolver.ArpResolver
