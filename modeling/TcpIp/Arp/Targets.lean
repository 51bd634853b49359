import TcpIp.Arp.Retries
import TcpIp.Lib.Interleaving

/-!
# The targets of the resolver

All targets share one cache and one map of pending requests.  As long as the cache has room for every address that it
learns, a target does not notice the others.

* `ArpCache.Alike` — two caches with room for the known addresses that will find the same mapping of one address;
* `Alike` — two resolvers that look alike to one target.  The calls for the target keep this and are answered alike
  (`Alike.own`), and one of the resolvers may take the calls for other targets alone (`Alike.other`);
* `targets_independent` — what a target is answered in a run it is answered in the run of its own calls.
-/

namespace TcpIp.Arp.Cache.ArpCache

open TcpIp.Lib

lemma lookup_unexpired_unexpired {now later : Instant} (hle : now ≤ later) (cache : ArpCache) (ip : Ipv4Addr) :
    ((cache.unexpired now).unexpired later).ipToMac.lookup ip = (cache.unexpired later).ipToMac.lookup ip := by
  have httl : (cache.unexpired now).ttl = cache.ttl := rfl
  rw [lookup_unexpired, lookup_unexpired, lookup_unexpired, httl]
  cases cache.ipToMac.lookup ip with
  | none => rfl
  | some entry =>
    by_cases hyoung : now - entry.learnedAt < cache.ttl
    · rw [Option.filter_some, decide_eq_true hyoung, if_pos rfl]
    · -- what is dropped now would be dropped later
      have hold : ¬later - entry.learnedAt < cache.ttl :=
        fun hlt => hyoung ((Nat.sub_le_sub_right hle entry.learnedAt).trans_lt hlt)
      rw [Option.filter_some, Option.filter_some, decide_eq_false hyoung, decide_eq_false hold]
      rfl

section Room

variable {known : Finset Ipv4Addr} {cache : ArpCache} {ip : Ipv4Addr} (hroom : known.card ≤ cache.maxEntries)
  (hknown : cache.ipToMac.keys ⊆ known) (hip : ip ∈ known)
include hroom hknown hip

/-- A cache with room for all addresses that are known loses no mapping. -/
lemma learned_of_room (mac : MacAddress) (now : Instant) : cache.learned ip mac now = { cache.unexpired now with
    ipToMac := (cache.unexpired now).ipToMac.insert ip { mac, learnedAt := now } } := by
  have hfresh : (cache.unexpired now).ipToMac.keys ⊆ known := (HashMap.keys_retain_subset _ _).trans hknown
  have hmax : (cache.unexpired now).maxEntries = cache.maxEntries := rfl
  have hlearning := learned_learning ((Finset.card_pos.2 ⟨ip, hip⟩).trans_le hroom) ip mac now
  generalize cache.learned ip mac now = after at hlearning ⊢
  cases hlearning with
  | room _ => rfl
  | full oldest entry hnew hfull holdest hleast =>
    -- a full cache would have more mappings than there are known addresses
    have hcard := Finset.card_le_card (Finset.insert_subset hip hfresh)
    rw [← HashMap.keys_insert ip (CacheEntry.mk mac now), ← HashMap.len, HashMap.len_insert_of_lookup_none hnew]
      at hcard
    have hlen : (cache.unexpired now).len = HashMap.len (cache.unexpired now).ipToMac := rfl
    omega

lemma keys_learned_of_room (mac : MacAddress) (now : Instant) : (cache.learned ip mac now).ipToMac.keys ⊆ known :=
  (keys_learned_subset ((Finset.card_pos.2 ⟨ip, hip⟩).trans_le hroom) ip mac now).trans
    (Finset.insert_subset hip hknown)

lemma lookup_unexpired_learned_of_room (mac : MacAddress) {now later : Instant} (hle : now ≤ later) {ip' : Ipv4Addr}
    (hne : ip' ≠ ip) : ((cache.learned ip mac now).unexpired later).ipToMac.lookup ip' =
      (cache.unexpired later).ipToMac.lookup ip' := by
  rw [← lookup_unexpired_unexpired hle cache, lookup_unexpired, lookup_unexpired later, learned_ttl,
    learned_of_room hroom hknown hip]
  dsimp only
  rw [Finmap.lookup_insert_of_ne _ hne]
  rfl

end Room

/-- The caches have room for all addresses that are known, and mappings of no others; and from now on they find the same
mapping of `ip`. -/
structure Alike (known : Finset Ipv4Addr) (ip : Ipv4Addr) (now : Instant) (cache cache' : ArpCache) : Prop where
  capacity : cache.maxEntries = cache'.maxEntries
  lifetime : cache.ttl = cache'.ttl
  room : known.card ≤ cache.maxEntries
  known_left : cache.ipToMac.keys ⊆ known
  known_right : cache'.ipToMac.keys ⊆ known
  found : ∀ later, now ≤ later →
    (cache.unexpired later).ipToMac.lookup ip = (cache'.unexpired later).ipToMac.lookup ip

namespace Alike

variable {known : Finset Ipv4Addr} {ip ip' : Ipv4Addr} {past now : Instant} {cache cache' : ArpCache}
  (h : Alike known ip past cache cache') (hle : past ≤ now)
include h

lemma symm : Alike known ip past cache' cache where
  capacity := h.capacity.symm
  lifetime := h.lifetime.symm
  room := h.room.trans_eq h.capacity
  known_left := h.known_right
  known_right := h.known_left
  found := fun later hlater => (h.found later hlater).symm

lemma learned (hknown : ip ∈ known) (mac : MacAddress) :
    Alike known ip now (cache.learned ip mac now) (cache'.learned ip mac now) where
  capacity := by rw [learned_maxEntries, learned_maxEntries, h.capacity]
  lifetime := by rw [learned_ttl, learned_ttl, h.lifetime]
  room := h.room.trans_eq (learned_maxEntries ..).symm
  known_left := keys_learned_of_room h.room h.known_left hknown mac now
  known_right := keys_learned_of_room h.symm.room h.known_right hknown mac now
  found := by
    intro later _
    rw [lookup_unexpired, lookup_unexpired, lookup_learned, lookup_learned, learned_ttl, learned_ttl, h.lifetime]

include hle

lemma wait : Alike known ip now cache cache' :=
  ⟨h.capacity, h.lifetime, h.room, h.known_left, h.known_right, fun later hlater => h.found later (hle.trans hlater)⟩

lemma unexpired_left : Alike known ip now (cache.unexpired now) cache' where
  capacity := h.capacity
  lifetime := h.lifetime
  room := h.room
  known_left := (HashMap.keys_retain_subset _ _).trans h.known_left
  known_right := h.known_right
  found := by
    intro later hlater
    rw [lookup_unexpired_unexpired hlater]
    exact h.found later (hle.trans hlater)

lemma unexpired : Alike known ip now (cache.unexpired now) (cache'.unexpired now) :=
  ((h.unexpired_left hle).symm.unexpired_left le_rfl).symm

lemma learned_left (hknown : ip' ∈ known) (hne : ip ≠ ip') (mac : MacAddress) :
    Alike known ip now (cache.learned ip' mac now) cache' where
  capacity := (learned_maxEntries ..).trans h.capacity
  lifetime := (learned_ttl ..).trans h.lifetime
  room := h.room.trans_eq (learned_maxEntries ..).symm
  known_left := keys_learned_of_room h.room h.known_left hknown mac now
  known_right := h.known_right
  found := by
    intro later hlater
    rw [lookup_unexpired_learned_of_room h.room h.known_left hknown mac hlater hne]
    exact h.found later (hle.trans hlater)

end Alike

end TcpIp.Arp.Cache.ArpCache

namespace TcpIp.Arp.Resolver.ArpResolver

open TcpIp.Lib TcpIp.Arp.Cache

namespace Call

/-- The address that a call concerns. -/
def address : Call → Ipv4Addr
  | .resolve ip _ => ip
  | .observe packet _ => packet.senderIp
  | .cachedMac ip _ => ip

/-- The sender of a packet that can be learned from. -/
def sender : Call → Option Ipv4Addr
  | .observe packet _ =>
    if packet.operation = .request ∨ packet.operation = .reply then some packet.senderIp else none
  | .resolve _ _ | .cachedMac _ _ => none

end Call

/-- The resolvers look alike to the target `ip`. -/
structure Alike (known : Finset Ipv4Addr) (ip : Ipv4Addr) (now : Instant) (resolver resolver' : ArpResolver) :
    Prop where
  cache : ArpCache.Alike known ip now resolver.cache resolver'.cache
  localMac : resolver.localMac = resolver'.localMac
  localIp : resolver.localIp = resolver'.localIp
  retryInterval : resolver.retryInterval = resolver'.retryInterval
  maxAttempts : resolver.maxAttempts = resolver'.maxAttempts
  pending : resolver.pending.lookup ip = resolver'.pending.lookup ip

namespace Alike

variable {known : Finset Ipv4Addr} {ip : Ipv4Addr} {past now : Instant} {resolver resolver' : ArpResolver}

lemma update (h : Alike known ip past resolver resolver') {cache cache' : ArpCache}
    {pending pending' : HashMap Ipv4Addr PendingResolution} (hcache : ArpCache.Alike known ip now cache cache')
    (hpending : pending.lookup ip = pending'.lookup ip) :
    Alike known ip now { resolver with cache, pending } { resolver' with cache := cache', pending := pending' } :=
  ⟨hcache, h.localMac, h.localIp, h.retryInterval, h.maxAttempts, hpending⟩

lemma unexpired (h : Alike known ip past resolver resolver') (hle : past ≤ now) :
    Alike known ip now (resolver.unexpired now) (resolver'.unexpired now) := h.update (h.cache.unexpired hle) h.pending

lemma removePending (h : Alike known ip now resolver resolver') :
    Alike known ip now (resolver.removePending ip) (resolver'.removePending ip) :=
  h.update h.cache (by rw [Finmap.lookup_erase, Finmap.lookup_erase])

lemma insertPending (h : Alike known ip now resolver resolver') (entry : PendingResolution) :
    Alike known ip now (resolver.insertPending ip entry) (resolver'.insertPending ip entry) :=
  h.update h.cache (by rw [Finmap.lookup_insert, Finmap.lookup_insert])

lemma missed (h : Alike known ip now resolver resolver') (t : Instant) :
    (resolver.missed ip t).1 = (resolver'.missed ip t).1 ∧
      Alike known ip now (resolver.missed ip t).2 (resolver'.missed ip t).2 := by
  unfold ArpResolver.missed
  dsimp only
  rw [h.maxAttempts, h.pending, h.retryInterval, h.localMac, h.localIp]
  split_ifs
  · exact ⟨rfl, h.removePending⟩
  · cases resolver'.pending.lookup ip with
    | none => exact ⟨rfl, h.insertPending _⟩
    | some entry =>
      dsimp only
      split_ifs
      · exact ⟨rfl, h⟩
      · exact ⟨rfl, h.removePending⟩
      · exact ⟨rfl, h.insertPending _⟩

lemma resolved (h : Alike known ip past resolver resolver') (hle : past ≤ now) :
    (resolver.resolved ip now).1 = (resolver'.resolved ip now).1 ∧
      Alike known ip now (resolver.resolved ip now).2 (resolver'.resolved ip now).2 := by
  have hfresh := h.unexpired hle
  unfold ArpResolver.resolved
  rw [h.cache.found now hle]
  cases ((resolver'.cache.unexpired now).ipToMac.lookup ip).map CacheEntry.mac with
  | some mac => exact ⟨rfl, hfresh.removePending⟩
  | none => exact hfresh.missed now

lemma resolved_left (h : Alike known ip past resolver resolver') (hle : past ≤ now) {target : Ipv4Addr}
    (hne : ip ≠ target) : Alike known ip now (resolver.resolved target now).2 resolver' := by
  have hcache := h.cache.unexpired_left hle
  have hresolution := resolved_resolution resolver target now
  generalize resolver.resolved target now = result at hresolution
  obtain ⟨outcome, after⟩ := result
  cases hresolution with
  | hit mac => exact h.update hcache ((Finmap.lookup_erase_ne hne).trans h.pending)
  | ask hmax hnew => exact h.update hcache ((Finmap.lookup_insert_of_ne _ hne).trans h.pending)
  | wait entry hfound hearly => exact h.update hcache h.pending
  | retry entry hfound hdue hleft => exact h.update hcache ((Finmap.lookup_insert_of_ne _ hne).trans h.pending)
  | giveUp hspent => exact h.update hcache ((Finmap.lookup_erase_ne hne).trans h.pending)

/-- **A call for the target** is answered alike. -/
theorem own (h : Alike known ip past resolver resolver') {call : Call} (haddress : call.address = ip)
    (hsender : ∀ sender ∈ call.sender, sender ∈ known) (hle : past ≤ call.now) :
    (step call resolver).1 = (step call resolver').1 ∧
      Alike known ip call.now (step call resolver).2 (step call resolver').2 := by
  cases call with
  | resolve target now =>
    obtain rfl : target = ip := haddress
    obtain ⟨hanswer, hafter⟩ := h.resolved hle
    rw [step_resolve, step_resolve]
    exact ⟨congrArg (Answer.resolve ∘ Outcome.ok) hanswer, hafter⟩
  | observe packet now =>
    obtain rfl : packet.senderIp = ip := haddress
    rw [step_observe, step_observe, learns, learns, ArpResolver.observed, ArpResolver.observed, h.cache.capacity]
    refine ⟨rfl, ?_⟩
    split_ifs with hignored
    · exact h.update (h.cache.wait hle) h.pending
    · have hlearns : packet.operation = .request ∨ packet.operation = .reply := by tauto
      have hknown : packet.senderIp ∈ known := hsender _ (by simp [Call.sender, hlearns])
      exact (h.update (h.cache.learned hknown packet.senderMac) h.pending).removePending
  | cachedMac target now =>
    obtain rfl : target = ip := haddress
    refine ⟨?_, ?_⟩
    · have hanswer : ∀ r : ArpResolver, (step (.cachedMac target now) r).1 =
          .cachedMac (.ok (((r.cache.unexpired now).ipToMac.lookup target).map CacheEntry.mac)) := by
        intro r
        rw [step, cachedMac_run]
        rfl
      rw [hanswer, hanswer, h.cache.found now hle]
    · rw [step_cachedMac, step_cachedMac]
      exact h.unexpired hle

/-- **A call for another target** is not noticed. -/
theorem other (h : Alike known ip past resolver resolver') {call : Call} (haddress : call.address ≠ ip)
    (hsender : ∀ sender ∈ call.sender, sender ∈ known) (hle : past ≤ call.now) :
    Alike known ip call.now (step call resolver).2 resolver' := by
  have hne : ip ≠ call.address := haddress.symm
  cases call with
  | resolve target now =>
    rw [step_resolve]
    exact h.resolved_left hle hne
  | observe packet now =>
    rw [step_observe, ArpResolver.observed]
    split_ifs with hignored
    · exact h.update (h.cache.wait hle) h.pending
    · have hlearns : packet.operation = .request ∨ packet.operation = .reply := by tauto
      have hknown : packet.senderIp ∈ known := hsender _ (by simp [Call.sender, hlearns])
      exact h.update (h.cache.learned_left hle hknown hne packet.senderMac)
        ((Finmap.lookup_erase_ne hne).trans h.pending)
  | cachedMac target now =>
    rw [step_cachedMac]
    exact h.update (h.cache.unexpired_left hle) h.pending

end Alike

/-- The resolvers look alike to a target on calls that come in the order of the clock and from known addresses. -/
lemma looksAlikeAhead (known : Finset Ipv4Addr) (ip : Ipv4Addr) : LooksAlikeAhead Call.address step ip
    fun calls resolver resolver' => ∃ past, (past :: calls.map Call.now).Pairwise (· ≤ ·) ∧
      (∀ call ∈ calls, ∀ sender ∈ call.sender, sender ∈ known) ∧ Alike known ip past resolver resolver' where
  answer := by
    rintro call rest resolver resolver' haddress ⟨past, hclock, hsender, halike⟩
    have hle : past ≤ call.now := List.rel_of_pairwise_cons hclock List.mem_cons_self
    exact (halike.own haddress (hsender call List.mem_cons_self) hle).1
  own := by
    rintro call rest resolver resolver' haddress ⟨past, hclock, hsender, halike⟩
    have hle : past ≤ call.now := List.rel_of_pairwise_cons hclock List.mem_cons_self
    exact ⟨call.now, hclock.of_cons, fun c hc => hsender c (List.mem_cons_of_mem call hc),
      (halike.own haddress (hsender call List.mem_cons_self) hle).2⟩
  other := by
    rintro call rest resolver resolver' haddress ⟨past, hclock, hsender, halike⟩
    have hle : past ≤ call.now := List.rel_of_pairwise_cons hclock List.mem_cons_self
    exact ⟨call.now, hclock.of_cons, fun c hc => hsender c (List.mem_cons_of_mem call hc),
      halike.other haddress (hsender call List.mem_cons_self) hle⟩

/-- **Targets do not interfere**, as long as the cache has room for the addresses that it learns: the calls for a target
are answered as if no other calls were made. -/
theorem targets_independent (localMac : MacAddress) (localIp : Ipv4Addr) (maxEntries : ℕ) (ttl retryInterval : Duration)
    (maxAttempts : UInt64) (calls : List Call) (ip : Ipv4Addr) (hclock : (calls.map Call.now).Pairwise (· ≤ ·))
    (hroom : (calls.filterMap Call.sender).toFinset.card ≤ maxEntries) :
    let start := ArpResolver.new localMac localIp (ArpCache.new maxEntries ttl) retryInterval maxAttempts
    answersTo Call.address ip (trace step start calls) =
      answersTo Call.address ip (trace step start (calls.filter fun call => call.address = ip)) := by
  intro start
  have hcache : ArpCache.Alike (calls.filterMap Call.sender).toFinset ip 0 start.cache start.cache :=
    ⟨rfl, rfl, hroom, Finset.empty_subset _, Finset.empty_subset _, fun later _ => rfl⟩
  refine ((looksAlikeAhead (calls.filterMap Call.sender).toFinset ip).run_own ⟨0, ?_, ?_, ?_⟩).2
  · exact List.pairwise_cons.2 ⟨fun now _ => Nat.zero_le now, hclock⟩
  · intro call hcall sender hsender
    exact List.mem_toFinset.2 (List.mem_filterMap.2 ⟨call, hcall, hsender⟩)
  · exact ⟨hcache, rfl, rfl, rfl, rfl, rfl⟩

/-- A target that is waited for while another one answers. -/
theorem targets_independent_two :
    let start := ArpResolver.new ⟨2, 0, 0, 0, 0, 1⟩ ⟨10, 0, 0, 1⟩ (ArpCache.new 1 60) 5 2
    let reply : ArpPacket := { buildRequest ⟨10, 0, 0, 1⟩ ⟨2, 0, 0, 0, 0, 3⟩ ⟨10, 0, 0, 3⟩ with operation := .reply }
    answersTo Call.address ⟨10, 0, 0, 2⟩ (trace step start
        [.resolve ⟨10, 0, 0, 2⟩ 10, .observe reply 11, .resolve ⟨10, 0, 0, 3⟩ 11, .resolve ⟨10, 0, 0, 2⟩ 12]) =
      answersTo Call.address ⟨10, 0, 0, 2⟩ (trace step start
        [.resolve ⟨10, 0, 0, 2⟩ 10, .resolve ⟨10, 0, 0, 2⟩ 12]) := by
  intro start reply
  exact targets_independent ⟨2, 0, 0, 0, 0, 1⟩ ⟨10, 0, 0, 1⟩ 1 60 5 2
    [.resolve ⟨10, 0, 0, 2⟩ 10, .observe reply 11, .resolve ⟨10, 0, 0, 3⟩ 11, .resolve ⟨10, 0, 0, 2⟩ 12]
    ⟨10, 0, 0, 2⟩ (by decide) (by decide)

end TcpIp.Arp.Resolver.ArpResolver
