import TcpIp.Arp.Cache
import TcpIp.Lib.Recency
import TcpIp.Lib.Trace

/-!
# What the ARP cache keeps of the mappings it learned

Runs of a cache on an arbitrary list of calls with non-decreasing instants, seen as a history of learned mappings.

* `Update` — the three things that a call can do to a cache (`step_update`);
* `mappings` — the addresses of a cache, each with its MAC address and the instant at which it was learned;
* `Keeps` — these are what a cache of this size and lifetime keeps of the history, `Recent` in the library's words.
  Every call keeps this (`Keeps.step`);
* `lookup_most_recent` — a lookup finds the last mapping of its address if that is young enough and the cache was
  not filled since then.
-/

namespace TcpIp.Arp.Cache.ArpCache

open TcpIp.Lib

/-- A call on a cache. -/
inductive Call where
  | learn (ip : Ipv4Addr) (mac : MacAddress) (now : Instant)
  | learnFromPacket (packet : ArpPacket) (now : Instant)
  | lookupMac (ip : Ipv4Addr) (now : Instant)
  | removeExpired (now : Instant)

namespace Call

def now : Call → Instant
  | .learn _ _ now | .learnFromPacket _ now | .lookupMac _ now | .removeExpired now => now

/-- The mapping that a call offers to the cache. -/
def mapping : Call → Option (Entry Ipv4Addr MacAddress)
  | .learn ip mac now => some ⟨ip, mac, now⟩
  | .learnFromPacket packet now =>
    if packet.operation = .request ∨ packet.operation = .reply then some ⟨packet.senderIp, packet.senderMac, now⟩
    else none
  | .lookupMac _ _ | .removeExpired _ => none

end Call

/-- What a call on a cache returns. -/
inductive Answer where
  | learn (result : Outcome Empty Bool)
  | lookupMac (result : Outcome Empty (Option MacAddress))
  | removeExpired (result : Outcome Empty ℕ)

/-- One call, as the step of a machine. -/
def step : Call → ArpCache → Answer × ArpCache
  | .learn ip mac now, cache => Prod.map Answer.learn id ((learn ip mac now).run cache)
  | .learnFromPacket packet now, cache => Prod.map Answer.learn id ((learnFromPacket packet now).run cache)
  | .lookupMac ip now, cache => Prod.map Answer.lookupMac id ((lookupMac ip now).run cache)
  | .removeExpired now, cache => Prod.map Answer.removeExpired id ((removeExpired now).run cache)

/-- What a call does to a cache. -/
inductive Update (cache : ArpCache) (call : Call) : ArpCache → Prop
  | ignored (h : cache.maxEntries = 0 ∨ call.mapping = none) : Update cache call cache
  | expired (h : call.mapping = none) : Update cache call (cache.unexpired call.now)
  | learned (ip : Ipv4Addr) (mac : MacAddress) (hmax : 0 < cache.maxEntries)
      (hmapping : call.mapping = some ⟨ip, mac, call.now⟩) : Update cache call (cache.learned ip mac call.now)

/-- **A call is ignored, drops old mappings, or records the mapping that it offers.** -/
theorem step_update (call : Call) (cache : ArpCache) : Update cache call (step call cache).2 := by
  cases call with
  | learn ip mac now =>
    rw [step, learn_run]
    split_ifs with hzero
    · exact Update.ignored (Or.inl hzero)
    · exact Update.learned ip mac (Nat.pos_of_ne_zero hzero) rfl
  | learnFromPacket packet now =>
    rw [step, learnFromPacket_run]
    split_ifs with hignored
    · refine Update.ignored (hignored.imp id fun hunknown => if_neg ?_)
      tauto
    · refine Update.learned packet.senderIp packet.senderMac ?_ (if_pos ?_)
      · omega
      · tauto
  | lookupMac ip now =>
    rw [step, lookupMac_run]
    exact Update.expired rfl
  | removeExpired now =>
    rw [step, removeExpired_run]
    exact Update.expired rfl

/-- What the cache keeps of an address. -/
def mappings (cache : ArpCache) (ip : Ipv4Addr) : Option (MacAddress × ℕ) :=
  (cache.ipToMac.lookup ip).map fun entry => (entry.mac, entry.learnedAt)

variable {cache : ArpCache} {ip : Ipv4Addr} {mac : MacAddress} {now : Instant}

lemma mappings_unexpired (cache : ArpCache) (now : Instant) :
    (cache.unexpired now).mappings = fun ip => (cache.mappings ip).filter fun p => now - p.2 < cache.ttl := by
  funext ip
  unfold mappings
  rw [lookup_unexpired, Option.filter_map]
  rfl

lemma mappings_insert (cache : ArpCache) (ip : Ipv4Addr) (mac : MacAddress) (now : Instant) :
    mappings { cache with ipToMac := cache.ipToMac.insert ip { mac, learnedAt := now } } =
      Function.update cache.mappings ip (some (mac, now)) := by
  funext ip'
  unfold mappings
  by_cases hip : ip' = ip
  · rw [hip, Function.update_self, Finmap.lookup_insert]
    rfl
  · rw [Function.update_of_ne hip, Finmap.lookup_insert_of_ne _ hip]

lemma mappings_ne_none_iff : cache.mappings ip ≠ none ↔ ip ∈ cache.ipToMac.keys := by
  rw [mappings, ne_eq, Option.map_eq_none_iff, ← HashMap.notMem_keys_iff, not_not]

lemma mappings_erase (cache : ArpCache) (ip : Ipv4Addr) :
    mappings { cache with ipToMac := cache.ipToMac.erase ip } = Function.update cache.mappings ip none := by
  funext ip'
  unfold mappings
  by_cases hip : ip' = ip
  · rw [hip, Function.update_self, Finmap.lookup_erase]
    rfl
  · rw [Function.update_of_ne hip, Finmap.lookup_erase_ne hip]

/-- The cache keeps what a cache of this size and lifetime keeps of the history. -/
structure Keeps (maxEntries : ℕ) (ttl : Duration) (log : List (Entry Ipv4Addr MacAddress)) (now : Instant)
    (cache : ArpCache) : Prop where
  capacity : cache.maxEntries = maxEntries
  lifetime : cache.ttl = ttl
  recent : Recent maxEntries ttl log now cache.mappings

namespace Keeps

variable {maxEntries : ℕ} {ttl : Duration} {log : List (Entry Ipv4Addr MacAddress)} {past : Instant}

lemma new (maxEntries : ℕ) (ttl : Duration) (now : Instant) :
    Keeps maxEntries ttl [] now (ArpCache.new maxEntries ttl) where
  capacity := rfl
  lifetime := rfl
  recent := Recent.init maxEntries ttl now

lemma wait (h : Keeps maxEntries ttl log past cache) (hle : past ≤ now) : Keeps maxEntries ttl log now cache where
  capacity := h.capacity
  lifetime := h.lifetime
  recent := h.recent.wait hle

lemma unexpired (h : Keeps maxEntries ttl log past cache) (hle : past ≤ now) :
    Keeps maxEntries ttl log now (cache.unexpired now) where
  capacity := h.capacity
  lifetime := h.lifetime
  recent := by
    rw [mappings_unexpired, h.lifetime]
    exact (h.recent.wait hle).expire

/-- **A mapping is learned**: its address is in the cache already, or there is room, or an oldest mapping is lost. -/
lemma learned (h : Keeps maxEntries ttl log past cache) (hmax : 1 ≤ maxEntries) (hle : past ≤ now) (ip : Ipv4Addr)
    (mac : MacAddress) : Keeps maxEntries ttl (log ++ [⟨ip, mac, now⟩]) now (cache.learned ip mac now) := by
  have hfresh := h.unexpired hle
  have hlearning := learned_learning (h.capacity.symm ▸ hmax) ip mac now
  generalize cache.unexpired now = fresh at hfresh hlearning
  generalize cache.learned ip mac now = after at hlearning ⊢
  cases hlearning with
  | room hroom =>
    refine ⟨hfresh.capacity, hfresh.lifetime, ?_⟩
    rw [mappings_insert]
    refine hfresh.recent.record ip mac ?_
    by_cases hknown : fresh.mappings ip = none
    · refine Or.inr fun s hs => ?_
      have hlen : fresh.len < fresh.maxEntries := hroom (Option.map_eq_none_iff.1 hknown)
      have hcard : s.card ≤ fresh.len := Finset.card_le_card fun ip' hip' => mappings_ne_none_iff.1 (hs ip' hip')
      exact hcard.trans_lt (hfresh.capacity ▸ hlen)
    · exact Or.inl hknown
  | full oldest entry hnew hfull holdest hleast =>
    rw [hfresh.capacity] at hfull
    have hmapping : fresh.mappings oldest = some (entry.mac, entry.learnedAt) := by
      rw [mappings, holdest]
      rfl
    have hno_older : ∀ ip' mac' learnedAt', fresh.mappings ip' = some (mac', learnedAt') →
        entry.learnedAt ≤ learnedAt' := by
      intro ip' mac' learnedAt' hmapping'
      obtain ⟨entry', hlookup', hpair⟩ := Option.map_eq_some_iff.1 hmapping'
      obtain ⟨-, rfl⟩ := Prod.mk.inj hpair
      rcases Prod.Lex.toLex_le_toLex.1 (hleast ip' entry' hlookup') with hlt | ⟨heq, -⟩
      · exact hlt.le
      · exact heq.le
    refine ⟨hfresh.capacity, hfresh.lifetime, ?_⟩
    rw [mappings_insert { fresh with ipToMac := fresh.ipToMac.erase oldest }, mappings_erase]
    exact hfresh.recent.replace ip mac (Option.map_eq_none_iff.2 hnew) (fun ip' => mappings_ne_none_iff.2) hfull
      hmapping hno_older

/-- **One call** adds the mapping that it offers. -/
theorem step (h : Keeps maxEntries ttl log past cache) (hmax : 1 ≤ maxEntries) (call : Call) (hle : past ≤ call.now) :
    Keeps maxEntries ttl (log ++ call.mapping.toList) call.now (ArpCache.step call cache).2 := by
  have hupdate := step_update call cache
  generalize (ArpCache.step call cache).2 = after at hupdate ⊢
  cases hupdate with
  | ignored hignored =>
    have hmapping : call.mapping = none := hignored.resolve_left (by rw [h.capacity]; omega)
    rw [hmapping, Option.toList_none, List.append_nil]
    exact h.wait hle
  | expired hmapping =>
    rw [hmapping, Option.toList_none, List.append_nil]
    exact h.unexpired hle
  | learned ip mac _ hmapping =>
    rw [hmapping]
    exact h.learned hmax hle ip mac

lemma found (h : Keeps maxEntries ttl log now cache) (ip : Ipv4Addr) :
    Recent maxEntries ttl log now (cache.unexpired now).mappings ∧
      (∀ mac t, (cache.unexpired now).mappings ip = some (mac, t) → now - t < ttl) ∧
      ((lookupMac ip now : Exec ArpCache Empty (Option MacAddress)).run cache).1 =
        .ok (((cache.unexpired now).mappings ip).map Prod.fst) := by
  refine ⟨(h.unexpired le_rfl).recent, fun mac t hkept => ?_, ?_⟩
  · rw [mappings_unexpired, h.lifetime] at hkept
    exact of_decide_eq_true (Option.filter_eq_some_iff.1 hkept).2
  · rw [lookupMac_run, mappings, Option.map_map]
    rfl

end Keeps

/-- **A run** keeps what a cache of this size and lifetime keeps of the mappings that the calls offered. -/
theorem run_keeps {maxEntries : ℕ} (ttl : Duration) (hmax : 1 ≤ maxEntries) (calls : List Call) {now : Instant}
    (hclock : (calls.map Call.now ++ [now]).Pairwise (· ≤ ·)) :
    Keeps maxEntries ttl (calls.filterMap Call.mapping) now (run step (ArpCache.new maxEntries ttl) calls) := by
  induction calls using List.reverseRecOn generalizing now with
  | nil => exact Keeps.new maxEntries ttl now
  | append_singleton past call ih =>
    rw [List.map_append, List.map_singleton, List.pairwise_append] at hclock
    obtain ⟨hpast, -, hle⟩ := hclock
    have hnow : call.now ≤ now := hle call.now (List.mem_append_right _ (List.mem_singleton_self _)) now
      (List.mem_singleton_self now)
    have hmapping : [call].filterMap Call.mapping = call.mapping.toList := by
      cases hcall : call.mapping <;> simp [hcall]
    rw [run_snoc, List.filterMap_append, hmapping]
    exact ((ih hpast).step hmax call le_rfl).wait hnow

/-- **The cache holds the most recently learned mappings that are young enough.**  A lookup finds nothing if the
address was never learned, or too long ago, or if `maxEntries` other addresses were learned since then; it finds the
last mapping if that is young and fewer others were learned since then.  Nothing newer than a mapping that is found is
missed. -/
theorem lookup_most_recent {maxEntries : ℕ} (ttl : Duration) (calls : List Call) (now : Instant)
    (hmax : 1 ≤ maxEntries) (hclock : (calls.map Call.now ++ [now]).Pairwise (· ≤ ·)) :
    let log := calls.filterMap Call.mapping
    let found := fun ip => ((lookupMac ip now : Exec ArpCache Empty (Option MacAddress)).run
      (run step (ArpCache.new maxEntries ttl) calls)).1
    ∀ ip, (latest ip log = none → found ip = .ok none) ∧ ∀ mac t, latest ip log = some (mac, t) →
      (ttl ≤ now - t ∨ maxEntries ≤ (others ip (t < ·) log).card → found ip = .ok none) ∧
      (now - t < ttl → (others ip (t ≤ ·) log).card < maxEntries → found ip = .ok (some mac)) ∧
      ((log.map Entry.time).Nodup →
        (found ip = .ok (some mac) ↔ now - t < ttl ∧ (others ip (t < ·) log).card < maxEntries)) ∧
      (∀ mac', found ip = .ok (some mac') → mac' = mac) ∧
      (∀ ip' mac' t', found ip = .ok (some mac) → latest ip' log = some (mac', t') → t < t' →
        found ip' = .ok (some mac')) := by
  intro log found ip
  have hkeeps := run_keeps ttl hmax calls hclock
  set cache := run step (ArpCache.new maxEntries ttl) calls
  obtain ⟨hrecent, hyoung, hfound⟩ := hkeeps.found ip
  replace hfound : found ip = _ := hfound
  have hlast : ∀ mac t mac', latest ip log = some (mac, t) → found ip = .ok (some mac') →
      (cache.unexpired now).mappings ip = some (mac, t) := by
    intro mac t mac' hlatest hsome
    refine hrecent.kept_of_kept hlatest fun hnone => ?_
    rw [hfound, hnone] at hsome
    cases hsome
  have hnone : (cache.unexpired now).mappings ip = none → found ip = .ok none := by
    intro hkept
    rw [hfound, hkept]
    rfl
  have hsome : ∀ mac t, (cache.unexpired now).mappings ip = some (mac, t) → found ip = .ok (some mac) :=
    fun mac t hkept => by
      rw [hfound, hkept]
      rfl
  refine ⟨fun hlatest => hnone (hrecent.lost_of_unrecorded hlatest), fun mac t hlatest => ⟨?_, ?_, ?_, ?_, ?_⟩⟩
  · rintro (hold | hmany)
    · refine hnone (by_contra fun hkept => ?_)
      exact absurd (hyoung mac t (hrecent.kept_of_kept hlatest hkept)) (Nat.not_lt.2 hold)
    · exact hnone (hrecent.lost_of_overtaken hlatest hmany)
  · exact fun hlt hfew => hsome mac t (hrecent.kept_of_recent hlatest hlt hfew)
  · intro hdistinct
    constructor
    · intro hresult
      have hkept := hlast mac t mac hlatest hresult
      refine ⟨hyoung mac t hkept, Nat.lt_of_not_le fun hmany => ?_⟩
      rw [hrecent.lost_of_overtaken hlatest hmany] at hkept
      cases hkept
    · rintro ⟨hlt, hfew⟩
      rw [← others_le_eq_others_lt hlatest hdistinct] at hfew
      exact hsome mac t (hrecent.kept_of_recent hlatest hlt hfew)
  · intro mac' hresult
    rw [hsome mac t (hlast mac t mac' hlatest hresult)] at hresult
    exact (Option.some.inj (Outcome.ok.inj hresult)).symm
  · intro ip' mac' t' hresult hlatest' hlt
    obtain ⟨-, -, hfound'⟩ := hkeeps.found ip'
    have hkept' := hrecent.kept_of_newer (hlast mac t mac hlatest hresult) hlatest' hlt
    exact hfound'.trans (by rw [hkept']; rfl)

/-- Two addresses in a cache of size one: the younger one is found. -/
theorem lookup_most_recent_two :
    let calls : List Call :=
      [.learn ⟨10, 0, 0, 1⟩ ⟨2, 0, 0, 0, 0, 1⟩ 5, .learn ⟨10, 0, 0, 2⟩ ⟨2, 0, 0, 0, 0, 2⟩ 7]
    let found := fun ip => ((lookupMac ip 9 : Exec ArpCache Empty (Option MacAddress)).run
      (run step (ArpCache.new 1 60) calls)).1
    found ⟨10, 0, 0, 1⟩ = .ok none ∧ found ⟨10, 0, 0, 2⟩ = .ok (some ⟨2, 0, 0, 0, 0, 2⟩) := by
  have hrecent := lookup_most_recent 60
    [.learn ⟨10, 0, 0, 1⟩ ⟨2, 0, 0, 0, 0, 1⟩ 5, .learn ⟨10, 0, 0, 2⟩ ⟨2, 0, 0, 0, 0, 2⟩ 7] 9 (le_refl 1) (by decide)
  refine ⟨((hrecent ⟨10, 0, 0, 1⟩).2 ⟨2, 0, 0, 0, 0, 1⟩ 5 (by decide)).1 (Or.inr (by decide)), ?_⟩
  exact ((hrecent ⟨10, 0, 0, 2⟩).2 ⟨2, 0, 0, 0, 0, 2⟩ 7 (by decide)).2.1 (by decide) (by decide)

end TcpIp.Arp.Cache.ArpCache
