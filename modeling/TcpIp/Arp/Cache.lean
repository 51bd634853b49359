import Mathlib.Data.Prod.Lex
import TcpIp.Arp
import TcpIp.Lib.HashMap

/-!
# `arp/cache.rs`: the ARP cache

* `Instant`, `Duration` — the monotonic clock and the spans between its readings;
* `ArpCache` — the mappings that were learned, each with the instant at which it was;
* `learn`, `learnFromPacket`, `lookupMac`, `removeExpired` — the functions of the source.  None of them fails, and
  each has a lemma that names its result and the cache it leaves: `unexpired` drops the old mappings, `learned`
  records a new one;
* `Learning` — the two ways to record a mapping, with room for it or in the place of the oldest one.
-/

namespace TcpIp

/-- `std::time::Instant`, in nanoseconds since the clock started. -/
abbrev Instant := ℕ

/-- `std::time::Duration`, in nanoseconds. -/
abbrev Duration := ℕ

end TcpIp

namespace TcpIp.Arp.Cache

open TcpIp.Lib

structure CacheEntry where
  mac : MacAddress
  learnedAt : Instant
  deriving DecidableEq, Repr

structure ArpCache where
  ipToMac : HashMap Ipv4Addr CacheEntry
  maxEntries : ℕ
  ttl : Duration

namespace ArpCache

variable {ε : Type}

def new (maxEntries : ℕ) (ttl : Duration) : ArpCache where
  ipToMac := ∅
  maxEntries := maxEntries
  ttl := ttl

def len (cache : ArpCache) : ℕ := HashMap.len cache.ipToMac

def removeExpired (now : Instant) : Exec ArpCache ε ℕ := do
  let previousLen := (← Exec.get).len
  let ttl := (← Exec.get).ttl
  -- subtraction of natural numbers is `saturating_duration_since`
  Exec.modify fun cache => { cache with
    ipToMac := HashMap.retain (fun _ entry => now - entry.learnedAt < ttl) cache.ipToMac }
  Exec.lift (subUsize previousLen (← Exec.get).len)

def removeOldest (cache : ArpCache) : ArpCache :=
  let oldestIp := (HashMap.minByKey (fun ip entry => toLex (entry.learnedAt, ip)) cache.ipToMac).map
    fun key => (ofLex key).2
  match oldestIp with
  | some ip => { cache with ipToMac := cache.ipToMac.erase ip }
  | none => cache

def learn (ip : Ipv4Addr) (mac : MacAddress) (now : Instant) : Exec ArpCache ε Bool := do
  if (← Exec.get).maxEntries = 0 then return false
  else do
    let _removed ← removeExpired now
    match (← Exec.get).ipToMac.lookup ip with
    | some entry => do
      Exec.modify fun cache => { cache with
        ipToMac := cache.ipToMac.insert ip { entry with mac := mac, learnedAt := now } }
      return true
    | none => do
      Exec.modify fun cache => if cache.len ≥ cache.maxEntries then cache.removeOldest else cache
      Exec.modify fun cache => { cache with ipToMac := cache.ipToMac.insert ip { mac, learnedAt := now } }
      return true

def learnFromPacket (packet : ArpPacket) (now : Instant) : Exec ArpCache ε Bool :=
  match packet.operation with
  | .request => learn packet.senderIp packet.senderMac now
  | .reply => learn packet.senderIp packet.senderMac now
  | .unknown _ => return false

def lookupMac (ip : Ipv4Addr) (now : Instant) : Exec ArpCache ε (Option MacAddress) := do
  let _removed ← removeExpired now
  return ((← Exec.get).ipToMac.lookup ip).map fun entry => entry.mac

/-! ### What the operations leave -/

/-- The cache without the mappings that are too old at `now`. -/
def unexpired (now : Instant) (cache : ArpCache) : ArpCache := { cache with
  ipToMac := HashMap.retain (fun _ entry => now - entry.learnedAt < cache.ttl) cache.ipToMac }

/-- The cache after the mapping from `ip` to `mac` was recorded at `now`: a full cache loses its oldest mapping. -/
def learned (ip : Ipv4Addr) (mac : MacAddress) (now : Instant) (cache : ArpCache) : ArpCache :=
  let fresh := cache.unexpired now
  let room := if fresh.ipToMac.lookup ip = none ∧ fresh.len ≥ fresh.maxEntries then fresh.removeOldest else fresh
  { room with ipToMac := room.ipToMac.insert ip { mac, learnedAt := now } }

lemma lookup_unexpired (now : Instant) (cache : ArpCache) (ip : Ipv4Addr) :
    (cache.unexpired now).ipToMac.lookup ip =
      (cache.ipToMac.lookup ip).filter fun entry => now - entry.learnedAt < cache.ttl :=
  HashMap.lookup_retain _ _ _

lemma lookup_unexpired_eq_some {now : Instant} {cache : ArpCache} {ip : Ipv4Addr} {entry : CacheEntry} :
    (cache.unexpired now).ipToMac.lookup ip = some entry ↔
      cache.ipToMac.lookup ip = some entry ∧ now - entry.learnedAt < cache.ttl := by
  rw [lookup_unexpired, Option.filter_eq_some_iff, decide_eq_true_iff]

@[simp] lemma removeOldest_maxEntries (cache : ArpCache) : cache.removeOldest.maxEntries = cache.maxEntries := by
  unfold removeOldest
  dsimp only
  split <;> rfl

@[simp] lemma removeOldest_ttl (cache : ArpCache) : cache.removeOldest.ttl = cache.ttl := by
  unfold removeOldest
  dsimp only
  split <;> rfl

/-- A cache that is not empty loses its oldest mapping; of two that are equally old, that of the least address. -/
lemma exists_oldest {cache : ArpCache} (h : cache.ipToMac.keys.Nonempty) : ∃ ip entry,
    cache.ipToMac.lookup ip = some entry ∧
      (∀ ip' entry', cache.ipToMac.lookup ip' = some entry' →
        toLex (entry.learnedAt, ip) ≤ toLex (entry'.learnedAt, ip')) ∧
      cache.removeOldest = { cache with ipToMac := cache.ipToMac.erase ip } := by
  obtain ⟨ip, entry, hlookup, hmin, hleast⟩ :=
    HashMap.exists_minByKey (fun ip (entry : CacheEntry) => toLex (entry.learnedAt, ip)) h
  refine ⟨ip, entry, hlookup, hleast, ?_⟩
  rw [removeOldest, hmin]
  rfl

lemma lookup_of_removeOldest {cache : ArpCache} {ip : Ipv4Addr} {entry : CacheEntry}
    (h : cache.removeOldest.ipToMac.lookup ip = some entry) : cache.ipToMac.lookup ip = some entry := by
  unfold removeOldest at h
  dsimp only at h
  split at h
  next oldest _ =>
    by_cases hip : ip = oldest
    · rw [hip, Finmap.lookup_erase] at h
      cases h
    · rwa [Finmap.lookup_erase_ne hip] at h
  · exact h

section Learned

variable (ip : Ipv4Addr) (mac : MacAddress) (now : Instant) (cache : ArpCache)

@[simp] lemma learned_maxEntries : (cache.learned ip mac now).maxEntries = cache.maxEntries := by
  unfold learned
  dsimp only
  split_ifs
  · exact removeOldest_maxEntries _
  · rfl

@[simp] lemma learned_ttl : (cache.learned ip mac now).ttl = cache.ttl := by
  unfold learned
  dsimp only
  split_ifs
  · exact removeOldest_ttl _
  · rfl

lemma lookup_learned : (cache.learned ip mac now).ipToMac.lookup ip = some ⟨mac, now⟩ :=
  Finmap.lookup_insert _

variable {ip mac now cache}

lemma lookup_of_learned {ip' : Ipv4Addr} (hne : ip' ≠ ip) {entry : CacheEntry}
    (h : (cache.learned ip mac now).ipToMac.lookup ip' = some entry) :
    (cache.unexpired now).ipToMac.lookup ip' = some entry := by
  unfold learned at h
  dsimp only at h
  rw [Finmap.lookup_insert_of_ne _ hne] at h
  split_ifs at h
  · exact lookup_of_removeOldest h
  · exact h

lemma lookup_unexpired_learned {later : Instant} (h : later - now < cache.ttl) :
    ((cache.learned ip mac now).unexpired later).ipToMac.lookup ip = some ⟨mac, now⟩ := by
  rw [lookup_unexpired_eq_some, learned_ttl]
  exact ⟨lookup_learned ip mac now cache, h⟩

end Learned

/-- How a cache without old mappings records the mapping from `ip` to `mac`. -/
inductive Learning (fresh : ArpCache) (ip : Ipv4Addr) (mac : MacAddress) (now : Instant) : ArpCache → Prop
  | room (hroom : fresh.ipToMac.lookup ip = none → fresh.len < fresh.maxEntries) :
      Learning fresh ip mac now { fresh with ipToMac := fresh.ipToMac.insert ip { mac, learnedAt := now } }
  | full (oldest : Ipv4Addr) (entry : CacheEntry) (hnew : fresh.ipToMac.lookup ip = none)
      (hfull : fresh.maxEntries ≤ fresh.len) (holdest : fresh.ipToMac.lookup oldest = some entry)
      (hleast : ∀ ip' entry', fresh.ipToMac.lookup ip' = some entry' →
        toLex (entry.learnedAt, oldest) ≤ toLex (entry'.learnedAt, ip')) :
      Learning fresh ip mac now
        { fresh with ipToMac := (fresh.ipToMac.erase oldest).insert ip { mac, learnedAt := now } }

/-- **A mapping is recorded** where its address was, or where there is room, or in the place of the oldest one. -/
theorem learned_learning {cache : ArpCache} (hmax : 0 < cache.maxEntries) (ip : Ipv4Addr) (mac : MacAddress)
    (now : Instant) : Learning (cache.unexpired now) ip mac now (cache.learned ip mac now) := by
  have hcapacity : (cache.unexpired now).maxEntries = cache.maxEntries := rfl
  unfold learned
  generalize cache.unexpired now = fresh at hcapacity ⊢
  dsimp only
  split_ifs with hfull
  · obtain ⟨hnew, hlen⟩ := hfull
    have hnonempty : fresh.ipToMac.keys.Nonempty := Finset.card_pos.1 (hcapacity ▸ hmax |>.trans_le hlen)
    obtain ⟨oldest, entry, holdest, hleast, hremove⟩ := exists_oldest hnonempty
    rw [hremove]
    exact Learning.full oldest entry hnew hlen holdest hleast
  · exact Learning.room fun hnew => Nat.lt_of_not_le fun hlen => hfull ⟨hnew, hlen⟩

lemma keys_learned_subset {cache : ArpCache} (hmax : 0 < cache.maxEntries) (ip : Ipv4Addr) (mac : MacAddress)
    (now : Instant) : (cache.learned ip mac now).ipToMac.keys ⊆ insert ip cache.ipToMac.keys := by
  have hfresh : (cache.unexpired now).ipToMac.keys ⊆ cache.ipToMac.keys := HashMap.keys_retain_subset _ _
  have hlearning := learned_learning hmax ip mac now
  generalize cache.learned ip mac now = after at hlearning ⊢
  cases hlearning with
  | room hroom =>
    rw [HashMap.keys_insert]
    exact Finset.insert_subset_insert ip hfresh
  | full oldest entry hnew hfull holdest hleast =>
    rw [HashMap.keys_insert, Finmap.keys_erase]
    exact Finset.insert_subset_insert ip ((Finset.erase_subset _ _).trans hfresh)

lemma unexpired_eq_self {now : Instant} {cache : ArpCache}
    (h : ∀ ip entry, cache.ipToMac.lookup ip = some entry → now - entry.learnedAt < cache.ttl) :
    cache.unexpired now = cache := by
  have hlookup : ∀ ip, (cache.unexpired now).ipToMac.lookup ip = cache.ipToMac.lookup ip := by
    intro ip
    rw [lookup_unexpired]
    cases hentry : cache.ipToMac.lookup ip with
    | none => rfl
    | some entry => rw [Option.filter_some, decide_eq_true (h ip entry hentry), if_pos rfl]
  obtain ⟨ipToMac, maxEntries, ttl⟩ := cache
  exact congrArg (ArpCache.mk · maxEntries ttl) (Finmap.ext_lookup hlookup)

lemma unexpired_of_ttl_zero {cache : ArpCache} (h : cache.ttl = 0) (now : Instant) :
    cache.unexpired now = { cache with ipToMac := ∅ } := by
  have hlookup : ∀ ip, (cache.unexpired now).ipToMac.lookup ip = (∅ : HashMap Ipv4Addr CacheEntry).lookup ip :=
    fun ip => by
      rw [lookup_unexpired, h, Finmap.lookup_empty]
      cases cache.ipToMac.lookup ip <;> rfl
  exact congrArg (ArpCache.mk · cache.maxEntries cache.ttl) (Finmap.ext_lookup hlookup)

/-- A mapping that is there, and as young as can be, is not learned again. -/
lemma learned_eq_self {ip : Ipv4Addr} {mac : MacAddress} {now : Instant} {cache : ArpCache}
    (hfresh : cache.unexpired now = cache) (hfound : cache.ipToMac.lookup ip = some ⟨mac, now⟩) :
    cache.learned ip mac now = cache := by
  have hlookup : ∀ ip', (cache.ipToMac.insert ip ⟨mac, now⟩).lookup ip' = cache.ipToMac.lookup ip' := by
    intro ip'
    rw [HashMap.lookup_insert_eq]
    split_ifs with hip
    · rw [hip, hfound]
    · rfl
  rw [learned, hfresh, if_neg (by simp [hfound])]
  exact congrArg (ArpCache.mk · cache.maxEntries cache.ttl) (Finmap.ext_lookup hlookup)

/-- **A mapping that is learned again at once changes nothing.** -/
lemma learned_learned (ip : Ipv4Addr) (mac : MacAddress) (now : Instant) (cache : ArpCache) :
    (cache.learned ip mac now).learned ip mac now = cache.learned ip mac now := by
  by_cases hzero : cache.ttl = 0
  · -- what was just learned is dropped, and learned by the same empty cache
    have hsame : (cache.learned ip mac now).unexpired now = cache.unexpired now := by
      rw [unexpired_of_ttl_zero ((learned_ttl ip mac now cache).trans hzero), unexpired_of_ttl_zero hzero,
        learned_maxEntries, learned_ttl]
    rw [learned, hsame]
    rfl
  · refine learned_eq_self (unexpired_eq_self fun ip' entry hentry => ?_) (lookup_learned ip mac now cache)
    rw [learned_ttl]
    by_cases hip : ip' = ip
    · subst hip
      obtain rfl := Option.some.inj (hentry.symm.trans (lookup_learned ip' mac now cache))
      rw [Nat.sub_self]
      exact Nat.pos_of_ne_zero hzero
    · exact (lookup_unexpired_eq_some.1 (lookup_of_learned hip hentry)).2

lemma removeExpired_run (now : Instant) (cache : ArpCache) :
    (removeExpired now : Exec ArpCache ε ℕ).run cache =
      (.ok (cache.len - (cache.unexpired now).len), cache.unexpired now) := by
  have hle : (cache.unexpired now).len ≤ cache.len := HashMap.len_retain_le _ _
  unfold removeExpired
  rw [Exec.get_bind, Exec.get_bind, Exec.modify_bind, Exec.get_bind]
  show (subUsize cache.len (cache.unexpired now).len, cache.unexpired now) = _
  rw [subUsize_of_le hle]

lemma learn_run (ip : Ipv4Addr) (mac : MacAddress) (now : Instant) (cache : ArpCache) :
    (learn ip mac now : Exec ArpCache ε Bool).run cache =
      if cache.maxEntries = 0 then (.ok false, cache) else (.ok true, cache.learned ip mac now) := by
  unfold learn
  rw [Exec.get_bind]
  split_ifs with hzero
  · rfl
  · rw [Exec.bind_of_ok (removeExpired_run now cache), Exec.get_bind]
    unfold learned
    cases hlookup : (cache.unexpired now).ipToMac.lookup ip with
    | some entry =>
      dsimp only
      rw [Exec.modify_bind, Exec.pure_run, if_neg (by simp [hlookup])]
    | none =>
      dsimp only
      rw [Exec.modify_bind, Exec.modify_bind, Exec.pure_run]
      simp only [hlookup, true_and]

lemma learnFromPacket_run (packet : ArpPacket) (now : Instant) (cache : ArpCache) :
    (learnFromPacket packet now : Exec ArpCache ε Bool).run cache =
      if cache.maxEntries = 0 ∨ (packet.operation ≠ .request ∧ packet.operation ≠ .reply) then (.ok false, cache)
      else (.ok true, cache.learned packet.senderIp packet.senderMac now) := by
  unfold learnFromPacket
  cases packet.operation with
  | request => simp [learn_run]
  | reply => simp [learn_run]
  | unknown value => simp

lemma lookupMac_run (ip : Ipv4Addr) (now : Instant) (cache : ArpCache) :
    (lookupMac ip now : Exec ArpCache ε (Option MacAddress)).run cache =
      (.ok (((cache.unexpired now).ipToMac.lookup ip).map CacheEntry.mac), cache.unexpired now) := by
  unfold lookupMac
  rw [Exec.bind_of_ok (removeExpired_run now cache), Exec.get_bind, Exec.pure_run]

end ArpCache

end TcpIp.Arp.Cache
