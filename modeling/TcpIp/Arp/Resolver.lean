import TcpIp.Arp.Cache

/-!
# `arp/resolver.rs`: address resolution with retries

* `ArpResolver` — the cache, and for each address that is being asked for the number of requests sent and the
  instant of the next one;
* `resolve`, `observe`, `cachedMac`, `pendingCount` — the functions of the source;
* `resolved`, `observed` — what they answer and leave.  The counter of attempts never overflows (`resolve_run`).
-/

namespace TcpIp.Arp.Resolver

open TcpIp.Lib TcpIp.Arp.Cache

inductive ResolveOutcome where
  | resolved (mac : MacAddress)
  | sendRequest (packet : ArpPacket)
  | pending
  | failed
  deriving DecidableEq, Repr

structure PendingResolution where
  attemptsSent : UInt64
  nextRetryAt : Instant
  deriving DecidableEq, Repr

structure ArpResolver where
  localMac : MacAddress
  localIp : Ipv4Addr
  cache : ArpCache
  pending : HashMap Ipv4Addr PendingResolution
  retryInterval : Duration
  maxAttempts : UInt64

/-- The last instant that the clock type can hold. -/
def instantMax : Instant := 2 ^ 63 * 1000000000 - 1

/-- `Instant::checked_add`. -/
def checkedAdd (now : Instant) (duration : Duration) : Option Instant :=
  if now + duration ≤ instantMax then some (now + duration) else none

def nextRetryAt (now : Instant) (retryInterval : Duration) : Instant := (checkedAdd now retryInterval).getD now

namespace ArpResolver

variable {ε : Type}

def new (localMac : MacAddress) (localIp : Ipv4Addr) (cache : ArpCache) (retryInterval : Duration)
    (maxAttempts : UInt64) : ArpResolver where
  localMac := localMac
  localIp := localIp
  cache := cache
  pending := ∅
  retryInterval := retryInterval
  maxAttempts := maxAttempts

/-- A call on the field `cache`. -/
def onCache {α : Type} (call : Exec ArpCache ε α) : Exec ArpResolver ε α :=
  Exec.zoom ArpResolver.cache (fun cache resolver => { resolver with cache := cache }) call

/-- `self.pending.remove(&ip)`. -/
def removePending (ip : Ipv4Addr) (resolver : ArpResolver) : ArpResolver :=
  { resolver with pending := resolver.pending.erase ip }

/-- `self.pending.insert(ip, entry)`. -/
def insertPending (ip : Ipv4Addr) (entry : PendingResolution) (resolver : ArpResolver) : ArpResolver :=
  { resolver with pending := resolver.pending.insert ip entry }

def resolve (nextHopIp : Ipv4Addr) (now : Instant) : Exec ArpResolver ε ResolveOutcome := do
  match ← onCache (ArpCache.lookupMac nextHopIp now) with
  | some mac => do
    Exec.modify (removePending nextHopIp)
    return .resolved mac
  | none => do
    let self ← Exec.get
    if self.maxAttempts = 0 then do
      Exec.modify (removePending nextHopIp)
      return .failed
    else match self.pending.lookup nextHopIp with
      | none => do
        Exec.modify (insertPending nextHopIp {
          attemptsSent := 1
          nextRetryAt := nextRetryAt now self.retryInterval })
        return .sendRequest (buildRequest nextHopIp self.localMac self.localIp)
      | some pending =>
        if now < pending.nextRetryAt then return .pending
        else if pending.attemptsSent ≥ self.maxAttempts then do
          Exec.modify (removePending nextHopIp)
          return .failed
        else do
          let attemptsSent ← Exec.lift (addUsize pending.attemptsSent.toNat 1)
          Exec.modify (insertPending nextHopIp {
            attemptsSent := UInt64.ofNat attemptsSent
            nextRetryAt := nextRetryAt now self.retryInterval })
          return .sendRequest (buildRequest nextHopIp self.localMac self.localIp)

def observe (packet : ArpPacket) (now : Instant) : Exec ArpResolver ε Bool := do
  if ¬(← onCache (ArpCache.learnFromPacket packet now)) then return false
  else do
    Exec.modify (removePending packet.senderIp)
    return true

def cachedMac (ip : Ipv4Addr) (now : Instant) : Exec ArpResolver ε (Option MacAddress) :=
  onCache (ArpCache.lookupMac ip now)

def pendingCount (resolver : ArpResolver) : ℕ := HashMap.len resolver.pending

/-! ### What the operations answer and leave -/

/-- The resolver without the cached mappings that are too old at `now`. -/
def unexpired (now : Instant) (resolver : ArpResolver) : ArpResolver :=
  { resolver with cache := resolver.cache.unexpired now }

/-- A miss of the cache: the first request, a retry, waiting, or giving up. -/
def missed (ip : Ipv4Addr) (now : Instant) (resolver : ArpResolver) : ResolveOutcome × ArpResolver :=
  let ask (attemptsSent : UInt64) : ResolveOutcome × ArpResolver :=
    (.sendRequest (buildRequest ip resolver.localMac resolver.localIp), resolver.insertPending ip {
      attemptsSent, nextRetryAt := nextRetryAt now resolver.retryInterval })
  if resolver.maxAttempts = 0 then (.failed, resolver.removePending ip)
  else match resolver.pending.lookup ip with
    | none => ask 1
    | some entry =>
      if now < entry.nextRetryAt then (.pending, resolver)
      else if entry.attemptsSent ≥ resolver.maxAttempts then (.failed, resolver.removePending ip)
      else ask (entry.attemptsSent + 1)

def resolved (ip : Ipv4Addr) (now : Instant) (resolver : ArpResolver) : ResolveOutcome × ArpResolver :=
  match ((resolver.cache.unexpired now).ipToMac.lookup ip).map CacheEntry.mac with
  | some mac => (.resolved mac, (resolver.unexpired now).removePending ip)
  | none => (resolver.unexpired now).missed ip now

/-- A packet is learned from if the cache has room for mappings and the operation is known. -/
def learns (packet : ArpPacket) (resolver : ArpResolver) : Bool :=
  ¬(resolver.cache.maxEntries = 0 ∨ (packet.operation ≠ .request ∧ packet.operation ≠ .reply))

/-- The resolver after a packet was seen. -/
def observed (packet : ArpPacket) (now : Instant) (resolver : ArpResolver) : ArpResolver :=
  if resolver.cache.maxEntries = 0 ∨ (packet.operation ≠ .request ∧ packet.operation ≠ .reply) then resolver
  else removePending packet.senderIp { resolver with
    cache := resolver.cache.learned packet.senderIp packet.senderMac now }

lemma attemptsSent_succ {attemptsSent maxAttempts : UInt64} (h : attemptsSent < maxAttempts) :
    (addUsize attemptsSent.toNat 1 : Outcome ε ℕ) = .ok (attemptsSent.toNat + 1) := by
  have hlt := UInt64.lt_iff_toNat_lt.1 h
  have hmax := maxAttempts.toNat_lt
  exact addUsize_of_le (by rw [usizeMax]; omega)

/-- **`resolve` ends without a panic**: a counter below the maximal number of attempts can be increased. -/
theorem resolve_run (ip : Ipv4Addr) (now : Instant) (resolver : ArpResolver) :
    (resolve ip now : Exec ArpResolver ε ResolveOutcome).run resolver =
      (.ok (resolver.resolved ip now).1, (resolver.resolved ip now).2) := by
  unfold resolve resolved onCache
  rw [Exec.zoom_bind_of_ok (ArpCache.lookupMac_run ip now resolver.cache)]
  show Exec.run _ (resolver.unexpired now) = _
  cases ((resolver.cache.unexpired now).ipToMac.lookup ip).map CacheEntry.mac with
  | some mac => rfl
  | none =>
    show _ = (Outcome.ok ((resolver.unexpired now).missed ip now).1, ((resolver.unexpired now).missed ip now).2)
    generalize resolver.unexpired now = self
    unfold missed
    dsimp only
    rw [Exec.get_bind]
    by_cases hzero : self.maxAttempts = 0
    · rw [if_pos hzero, if_pos hzero]
      rfl
    · rw [if_neg hzero, if_neg hzero]
      cases self.pending.lookup ip with
      | none => rfl
      | some entry =>
        dsimp only
        by_cases hwait : now < entry.nextRetryAt
        · rw [if_pos hwait, if_pos hwait]
          rfl
        · rw [if_neg hwait, if_neg hwait]
          by_cases hlast : entry.attemptsSent ≥ self.maxAttempts
          · rw [if_pos hlast, if_pos hlast]
            rfl
          · rw [if_neg hlast, if_neg hlast, attemptsSent_succ (UInt64.not_le.1 hlast), Exec.lift_ok_bind,
              UInt64.ofNat_add, UInt64.ofNat_toNat]
            rfl

lemma observe_run (packet : ArpPacket) (now : Instant) (resolver : ArpResolver) :
    (observe packet now : Exec ArpResolver ε Bool).run resolver =
      (.ok (resolver.learns packet), resolver.observed packet now) := by
  have hlearn := ArpCache.learnFromPacket_run (ε := ε) packet now resolver.cache
  unfold observe observed onCache learns
  split_ifs at hlearn ⊢ with h
  · rw [Exec.zoom_bind_of_ok hlearn, decide_eq_false (not_not_intro h)]
    rfl
  · rw [Exec.zoom_bind_of_ok hlearn, decide_eq_true h]
    rfl

/-- **A packet that comes again at once changes nothing.** -/
lemma observed_observed (packet : ArpPacket) (now : Instant) (resolver : ArpResolver) :
    (resolver.observed packet now).observed packet now = resolver.observed packet now := by
  by_cases hignored : resolver.cache.maxEntries = 0 ∨ (packet.operation ≠ .request ∧ packet.operation ≠ .reply)
  · have hsame : resolver.observed packet now = resolver := if_pos hignored
    rw [hsame, hsame]
  · have hlearned : resolver.observed packet now = removePending packet.senderIp { resolver with
        cache := resolver.cache.learned packet.senderIp packet.senderMac now } := if_neg hignored
    have herased : (resolver.pending.erase packet.senderIp).erase packet.senderIp =
        resolver.pending.erase packet.senderIp := HashMap.erase_of_lookup_none (Finmap.lookup_erase _ _)
    rw [hlearned, observed, removePending, if_neg (by rwa [ArpCache.learned_maxEntries]), ArpCache.learned_learned,
      removePending, herased]

lemma cachedMac_run (ip : Ipv4Addr) (now : Instant) (resolver : ArpResolver) :
    (cachedMac ip now : Exec ArpResolver ε (Option MacAddress)).run resolver =
      (.ok (((resolver.cache.unexpired now).ipToMac.lookup ip).map CacheEntry.mac), resolver.unexpired now) := by
  unfold cachedMac onCache
  rw [Exec.zoom_run, ArpCache.lookupMac_run]
  rfl

end ArpResolver

end TcpIp.Arp.Resolver
