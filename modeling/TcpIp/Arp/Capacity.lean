import Mathlib.Data.Set.Card
import TcpIp.Arp.History

/-!
# The capacity of the ARP cache

Runs of a cache on an arbitrary list of calls, at instants in any order.

* `Sized` — the cache is not longer than its capacity.  Every call keeps this (`Sized.step`);
* `live` — the mappings that are not too old;
* `capacity_and_eviction` — learning a mapping keeps every other live one, but the oldest one where there is no room.
-/

namespace TcpIp.Arp.Cache.ArpCache

open TcpIp.Lib

/-- The cache is within its capacity, and this and the lifetime are as at the start. -/
structure Sized (maxEntries : ℕ) (ttl : Duration) (cache : ArpCache) : Prop where
  capacity : cache.maxEntries = maxEntries
  lifetime : cache.ttl = ttl
  bounded : cache.len ≤ maxEntries

namespace Sized

variable {maxEntries : ℕ} {ttl : Duration} {cache : ArpCache}

lemma new (maxEntries : ℕ) (ttl : Duration) : Sized maxEntries ttl (ArpCache.new maxEntries ttl) where
  capacity := rfl
  lifetime := rfl
  bounded := Nat.zero_le maxEntries

lemma unexpired (h : Sized maxEntries ttl cache) (now : Instant) : Sized maxEntries ttl (cache.unexpired now) where
  capacity := h.capacity
  lifetime := h.lifetime
  bounded := (HashMap.len_retain_le _ _).trans h.bounded

lemma learned (h : Sized maxEntries ttl cache) (hmax : 0 < cache.maxEntries) (ip : Ipv4Addr) (mac : MacAddress)
    (now : Instant) : Sized maxEntries ttl (cache.learned ip mac now) where
  capacity := (learned_maxEntries ip mac now cache).trans h.capacity
  lifetime := (learned_ttl ip mac now cache).trans h.lifetime
  bounded := by
    have hfresh := h.unexpired now
    have hlearning := learned_learning hmax ip mac now
    generalize cache.unexpired now = fresh at hfresh hlearning
    generalize cache.learned ip mac now = after at hlearning ⊢
    have hbound : HashMap.len fresh.ipToMac ≤ maxEntries := hfresh.bounded
    cases hlearning with
    | room hroom =>
      show HashMap.len (fresh.ipToMac.insert ip _) ≤ maxEntries
      cases hfound : fresh.ipToMac.lookup ip with
      | none =>
        have hlen : HashMap.len fresh.ipToMac < fresh.maxEntries := hroom hfound
        rw [hfresh.capacity] at hlen
        rw [HashMap.len_insert_of_lookup_none hfound]
        exact hlen
      | some entry =>
        rw [HashMap.len_insert_of_lookup_some hfound]
        exact hbound
    | full oldest entry hnew hfull holdest hleast =>
      show HashMap.len ((fresh.ipToMac.erase oldest).insert ip _) ≤ maxEntries
      have hne : ip ≠ oldest := by
        rintro rfl
        rw [hnew] at holdest
        cases holdest
      have hmissing : (fresh.ipToMac.erase oldest).lookup ip = none := (Finmap.lookup_erase_ne hne).trans hnew
      rw [HashMap.len_insert_of_lookup_none hmissing, HashMap.len_erase_of_lookup_some holdest]
      exact hbound

/-- **One call**, at any instant. -/
theorem step (h : Sized maxEntries ttl cache) (call : Call) : Sized maxEntries ttl (ArpCache.step call cache).2 := by
  have hupdate := step_update call cache
  generalize (ArpCache.step call cache).2 = after at hupdate ⊢
  cases hupdate with
  | ignored _ => exact h
  | expired _ => exact h.unexpired call.now
  | learned ip mac hmax _ => exact h.learned hmax ip mac call.now

end Sized

/-- **A run** of calls. -/
theorem run_sized (maxEntries : ℕ) (ttl : Duration) (calls : List Call) :
    Sized maxEntries ttl (run step (new maxEntries ttl) calls) :=
  run_invariant (Sized maxEntries ttl) (fun call _ h => h.step call) (Sized.new maxEntries ttl) calls

/-! ### What learning evicts -/

/-- The mappings that are not too old at `now`. -/
def live (cache : ArpCache) (now : Instant) (ip : Ipv4Addr) (entry : CacheEntry) : Prop :=
  cache.ipToMac.lookup ip = some entry ∧ now - entry.learnedAt < cache.ttl

section Live

variable {cache : ArpCache} {now : Instant} {ip : Ipv4Addr} {entry : CacheEntry}

lemma live_iff : cache.live now ip entry ↔ (cache.unexpired now).ipToMac.lookup ip = some entry :=
  lookup_unexpired_eq_some.symm

lemma lookup_unexpired_eq_none :
    (cache.unexpired now).ipToMac.lookup ip = none ↔ ∀ entry, ¬cache.live now ip entry := by
  simp only [live_iff, Option.eq_none_iff_forall_ne_some, ne_eq]

lemma ncard_live (cache : ArpCache) (now : Instant) :
    Set.ncard {ip | ∃ entry, cache.live now ip entry} = (cache.unexpired now).len := by
  have hkeys : {ip | ∃ entry, cache.live now ip entry} = ↑(cache.unexpired now).ipToMac.keys := by
    ext ip
    simp only [live_iff, Set.mem_ofPred_eq, Finset.mem_coe, HashMap.mem_keys_iff]
  rw [hkeys, Set.ncard_coe_finset, len, HashMap.len]

end Live

/-- The mapping of `ip` is to make room for one of an address that is not live: all places are taken, and it is the
oldest one; of two that are equally old, that of the least address. -/
structure Evicted (cache : ArpCache) (now : Instant) (newcomer ip : Ipv4Addr) (entry : CacheEntry) : Prop where
  unknown : ∀ entry', ¬cache.live now newcomer entry'
  full : Set.ncard {ip' | ∃ entry', cache.live now ip' entry'} = cache.maxEntries
  least : ∀ ip' entry', cache.live now ip' entry' → toLex (entry.learnedAt, ip) ≤ toLex (entry'.learnedAt, ip')

lemma Evicted.unique {cache : ArpCache} {now : Instant} {newcomer ip₁ ip₂ : Ipv4Addr} {entry₁ entry₂ : CacheEntry}
    (h₁ : Evicted cache now newcomer ip₁ entry₁) (h₂ : Evicted cache now newcomer ip₂ entry₂)
    (hlive₁ : cache.live now ip₁ entry₁) (hlive₂ : cache.live now ip₂ entry₂) : ip₁ = ip₂ := by
  have heq := le_antisymm (h₁.least ip₂ entry₂ hlive₂) (h₂.least ip₁ entry₁ hlive₁)
  exact (Prod.mk.inj (toLex_inj.1 heq)).2

/-- **A live mapping of another address stays unchanged, unless it has to make room.** -/
theorem Sized.kept_or_evicted {maxEntries : ℕ} {ttl : Duration} {cache : ArpCache} (h : Sized maxEntries ttl cache)
    (hmax : 0 < cache.maxEntries) {ip ip' : Ipv4Addr} (hne : ip' ≠ ip) (mac : MacAddress) {now : Instant}
    {entry' : CacheEntry} (hlive : cache.live now ip' entry') :
    (¬Evicted cache now ip ip' entry' ∧ (cache.learned ip mac now).ipToMac.lookup ip' = some entry') ∨
      (Evicted cache now ip ip' entry' ∧ (cache.learned ip mac now).ipToMac.lookup ip' = none) := by
  have hfound := live_iff.1 hlive
  have hbound : (cache.unexpired now).len ≤ cache.maxEntries :=
    (h.unexpired now).bounded.trans_eq h.capacity.symm
  have hlearning := learned_learning hmax ip mac now
  generalize cache.learned ip mac now = after at hlearning ⊢
  cases hlearning with
  | room hroom =>
    refine Or.inl ⟨fun hevicted => ?_, (Finmap.lookup_insert_of_ne _ hne).trans hfound⟩
    have hlen : (cache.unexpired now).len < cache.maxEntries := hroom (lookup_unexpired_eq_none.2 hevicted.unknown)
    rw [← ncard_live, hevicted.full] at hlen
    exact Nat.lt_irrefl _ hlen
  | full oldest entry hnew hfull holdest hleast =>
    have hevicted : Evicted cache now ip oldest entry :=
      { unknown := lookup_unexpired_eq_none.1 hnew
        full := (ncard_live cache now).trans (Nat.le_antisymm hbound hfull)
        least := fun ip'' entry'' hlive'' => hleast ip'' entry'' (live_iff.1 hlive'') }
    by_cases hoccupied : ip' = oldest
    · subst hoccupied
      obtain rfl : entry = entry' := Option.some.inj (holdest.symm.trans hfound)
      exact Or.inr ⟨hevicted, (Finmap.lookup_insert_of_ne _ hne).trans (Finmap.lookup_erase _ _)⟩
    · refine Or.inl ⟨fun hevicted' => hoccupied ?_, ?_⟩
      · exact hevicted'.unique hevicted hlive (live_iff.2 holdest)
      · exact (Finmap.lookup_insert_of_ne _ hne).trans ((Finmap.lookup_erase_ne hoccupied).trans hfound)

/-- **Capacity and eviction**, for calls at instants in any order.  A cache never has more than `maxEntries` mappings.
Learning one keeps no other mapping than the live ones, unchanged, and loses at most one of them: the one that makes
room, where the address was not live and all places were taken. -/
theorem capacity_and_eviction (maxEntries : ℕ) (ttl : Duration) (calls : List Call) :
    let cache := run step (new maxEntries ttl) calls
    (cache.maxEntries = maxEntries ∧ cache.ttl = ttl ∧ cache.len ≤ maxEntries) ∧ ∀ ip mac now, 0 < maxEntries →
      ∃ after, (learn ip mac now : Exec ArpCache Empty Bool).run cache = (.ok true, after) ∧
        let lost := {ip' | ip' ≠ ip ∧ (∃ entry, cache.live now ip' entry) ∧ after.ipToMac.lookup ip' = none}
        after.ipToMac.lookup ip = some ⟨mac, now⟩ ∧
        (∀ ip' entry, ip' ≠ ip → after.ipToMac.lookup ip' = some entry → cache.live now ip' entry) ∧
        lost.Subsingleton ∧
        ∀ ip' entry, ip' ≠ ip → cache.live now ip' entry → (ip' ∈ lost ↔ Evicted cache now ip ip' entry) := by
  intro cache
  have hsized := run_sized maxEntries ttl calls
  refine ⟨⟨hsized.capacity, hsized.lifetime, hsized.bounded⟩, fun ip mac now hmax => ?_⟩
  have hcapacity : 0 < cache.maxEntries := hsized.capacity.symm ▸ hmax
  have hlost : ∀ ip' entry, ip' ≠ ip → cache.live now ip' entry →
      ((cache.learned ip mac now).ipToMac.lookup ip' = none ↔ Evicted cache now ip ip' entry) := by
    intro ip' entry hne hlive
    rcases hsized.kept_or_evicted hcapacity hne mac hlive with ⟨hkept, hfound⟩ | ⟨hevicted, hnone⟩
    · rw [hfound]
      constructor
      · intro hnone
        cases hnone
      · exact fun hevicted => absurd hevicted hkept
    · exact ⟨fun _ => hevicted, fun _ => hnone⟩
  refine ⟨cache.learned ip mac now, ?_, lookup_learned ip mac now cache, ?_, ?_, ?_⟩
  · rw [learn_run, if_neg hcapacity.ne']
  · intro ip' entry hne hfound
    exact live_iff.2 (lookup_of_learned hne hfound)
  · rintro ip₁ ⟨hne₁, ⟨entry₁, hlive₁⟩, hnone₁⟩ ip₂ ⟨hne₂, ⟨entry₂, hlive₂⟩, hnone₂⟩
    have hevicted₁ := (hlost ip₁ entry₁ hne₁ hlive₁).1 hnone₁
    exact hevicted₁.unique ((hlost ip₂ entry₂ hne₂ hlive₂).1 hnone₂) hlive₁ hlive₂
  · intro ip' entry hne hlive
    rw [← hlost ip' entry hne hlive]
    exact ⟨fun hmem => hmem.2.2, fun hnone => ⟨hne, ⟨entry, hlive⟩, hnone⟩⟩

end TcpIp.Arp.Cache.ArpCache
