import TcpIp.Arp.Retries

/-!
# Every resolution is decided

A caller that asks for an address again and again gets an answer.

* `Touches` — what a call does to the pending entry of an address: it ends its episode, counts a request, or keeps it
  (`step_touches`);
* `Polled` — what the entry says after polls that are at least the retry interval apart;
* `resolution_decided` — one poll more than there are attempts decides the resolution, whatever other calls are made in
  between.
-/

namespace TcpIp.Arp.Resolver.ArpResolver

open TcpIp.Lib TcpIp.Arp.Cache

lemma nextRetryAt_le (now : Instant) (retryInterval : Duration) :
    nextRetryAt now retryInterval ≤ now + retryInterval := by
  unfold nextRetryAt checkedAdd
  split_ifs
  · exact le_rfl
  · exact Nat.le_add_right now retryInterval

/-- The instant at which the call asks for `ip`, if it does. -/
def Call.pollOf (ip : Ipv4Addr) : Call → Option Instant
  | .resolve target now => if target = ip then some now else none
  | .observe _ _ => none
  | .cachedMac _ _ => none

lemma Call.now_of_pollOf {call : Call} {ip : Ipv4Addr} {now : Instant} (h : call.pollOf ip = some now) :
    call.now = now := by
  cases call with
  | resolve target now' =>
    rw [pollOf] at h
    split_ifs at h
    exact Option.some.inj h
  | observe packet now' => cases h
  | cachedMac target now' => cases h

/-- What a call does to the pending entry of `ip`; the last argument says whether the call ends its episode. -/
inductive Touches (resolver after : ArpResolver) (ip : Ipv4Addr) (call : Call) : Bool → Prop
  | ended (hnone : after.pending.lookup ip = none) : Touches resolver after ip call true
  | first (now : Instant) (hcall : call = .resolve ip now) (hmax : resolver.maxAttempts ≠ 0)
      (hnew : resolver.pending.lookup ip = none)
      (hafter : after.pending.lookup ip = some ⟨1, nextRetryAt now resolver.retryInterval⟩) :
      Touches resolver after ip call false
  | retried (now : Instant) (hcall : call = .resolve ip now) (entry : PendingResolution)
      (hfound : resolver.pending.lookup ip = some entry) (hleft : entry.attemptsSent < resolver.maxAttempts)
      (hafter : after.pending.lookup ip =
        some ⟨entry.attemptsSent + 1, nextRetryAt now resolver.retryInterval⟩) :
      Touches resolver after ip call false
  | kept (hafter : after.pending.lookup ip = resolver.pending.lookup ip)
      (hearly : ∀ now ∈ call.pollOf ip, ∃ entry, resolver.pending.lookup ip = some entry ∧ now < entry.nextRetryAt) :
      Touches resolver after ip call false

/-- **One call** ends the episode of an address, counts a request for it, or keeps its entry. -/
theorem step_touches (resolver : ArpResolver) (ip : Ipv4Addr) (call : Call) :
    let t : Step ArpResolver Call Answer := ⟨resolver, call, (step call resolver).1, (step call resolver).2⟩
    Touches resolver t.after ip call (ends ip t) := by
  cases call with
  | resolve target now =>
    have hresolution := resolved_resolution resolver target now
    rw [step_resolve]
    generalize resolver.resolved target now = result at hresolution ⊢
    obtain ⟨outcome, after⟩ := result
    by_cases htarget : target = ip
    · subst htarget
      cases hresolution with
      | hit mac => simpa [ends] using Touches.ended (Finmap.lookup_erase _ _)
      | ask hmax hnew => simpa [ends] using Touches.first now rfl hmax hnew (Finmap.lookup_insert _)
      | wait entry hfound hearly =>
        refine Touches.kept rfl fun now' hnow' => ⟨entry, hfound, ?_⟩
        obtain rfl : now = now' := by simpa [Call.pollOf] using hnow'
        exact hearly
      | retry entry hfound hdue hleft =>
        simpa [ends] using Touches.retried now rfl entry hfound hleft (Finmap.lookup_insert _)
      | giveUp hspent => simpa [ends] using Touches.ended (Finmap.lookup_erase _ _)
    · have hends : ∀ output, ends ip ⟨resolver, .resolve target now, .resolve (.ok output), after⟩ = false := by
        intro output
        cases output <;> simp [ends, htarget]
      dsimp only
      rw [hends]
      refine Touches.kept ?_ fun now' hnow' => by simp [Call.pollOf, htarget] at hnow'
      have hne : ip ≠ target := fun hip => htarget hip.symm
      cases hresolution with
      | hit mac => exact Finmap.lookup_erase_ne hne
      | ask hmax hnew => exact Finmap.lookup_insert_of_ne _ hne
      | wait entry hfound hearly => rfl
      | retry entry hfound hdue hleft => exact Finmap.lookup_insert_of_ne _ hne
      | giveUp hspent => exact Finmap.lookup_erase_ne hne
  | observe packet now =>
    rw [step_observe]
    unfold learns observed
    by_cases hignored : resolver.cache.maxEntries = 0 ∨ (packet.operation ≠ .request ∧ packet.operation ≠ .reply)
    · rw [decide_eq_false (not_not_intro hignored), if_pos hignored]
      exact Touches.kept rfl fun now' hnow' => by simp [Call.pollOf] at hnow'
    · rw [decide_eq_true hignored, if_neg hignored]
      by_cases hsender : packet.senderIp = ip
      · subst hsender
        simpa [ends] using Touches.ended (Finmap.lookup_erase _ _)
      · have hne : ip ≠ packet.senderIp := fun hip => hsender hip.symm
        simpa [ends, hsender] using Touches.kept (Finmap.lookup_erase_ne hne) fun now' hnow' => by
          simp [Call.pollOf] at hnow'
  | cachedMac target now =>
    dsimp only
    rw [step_cachedMac]
    exact Touches.kept rfl fun now' hnow' => by simp [Call.pollOf] at hnow'

lemma step_config (resolver : ArpResolver) (call : Call) :
    (step call resolver).2.retryInterval = resolver.retryInterval ∧
      (step call resolver).2.maxAttempts = resolver.maxAttempts := by
  cases call with
  | resolve target now =>
    have hresolution := resolved_resolution resolver target now
    rw [step_resolve]
    generalize resolver.resolved target now = result at hresolution ⊢
    obtain ⟨outcome, after⟩ := result
    cases hresolution <;> exact ⟨rfl, rfl⟩
  | observe packet now =>
    rw [step_observe]
    unfold observed
    split_ifs <;> exact ⟨rfl, rfl⟩
  | cachedMac target now =>
    rw [step_cachedMac]
    exact ⟨rfl, rfl⟩

/-- The pending entry of `ip` at the instant `clock`, after the polls `polls` in an episode. -/
structure Polled (retryInterval : Duration) (maxAttempts : UInt64) (ip : Ipv4Addr) (polls : List Instant)
    (clock : Instant) (resolver : ArpResolver) : Prop where
  interval : resolver.retryInterval = retryInterval
  attempts : resolver.maxAttempts = maxAttempts
  /-- A deadline is not further away than the interval. -/
  entry : ∀ entry, resolver.pending.lookup ip = some entry → 0 < entry.attemptsSent ∧
    entry.attemptsSent ≤ maxAttempts ∧ entry.nextRetryAt ≤ clock + retryInterval
  /-- A poll finds a request sent, and the last poll has waited for its deadline. -/
  count : polls = [] ∨ ∃ entry, resolver.pending.lookup ip = some entry ∧
    polls.length ≤ entry.attemptsSent.toNat ∧ (polls.length = entry.attemptsSent.toNat →
      ∀ last ∈ polls.getLast?, entry.nextRetryAt ≤ last + retryInterval)

namespace Polled

variable {retryInterval : Duration} {maxAttempts : UInt64} {ip : Ipv4Addr} {polls : List Instant} {clock : Instant}
  {resolver : ArpResolver}

lemma new (localMac : MacAddress) (localIp : Ipv4Addr) (cache : ArpCache) (ip : Ipv4Addr) : Polled retryInterval
    maxAttempts ip [] 0 (ArpResolver.new localMac localIp cache retryInterval maxAttempts) where
  interval := rfl
  attempts := rfl
  entry := by
    intro entry hentry
    cases (Finmap.lookup_empty ip).symm.trans hentry
  count := Or.inl rfl

lemma attemptsSent_toNat_succ {attemptsSent : UInt64} (hleft : attemptsSent < maxAttempts) :
    (attemptsSent + 1).toNat = attemptsSent.toNat + 1 ∧ attemptsSent + 1 ≤ maxAttempts := by
  have hlt := UInt64.lt_iff_toNat_lt.1 hleft
  have hmax := maxAttempts.toNat_lt
  have hsucc : (attemptsSent + 1).toNat = attemptsSent.toNat + 1 := by
    rw [UInt64.toNat_add]
    exact Nat.mod_eq_of_lt (by show attemptsSent.toNat + 1 < _; omega)
  exact ⟨hsucc, UInt64.le_iff_toNat_le.2 (hsucc.trans_le hlt)⟩

section Touched

variable (h : Polled retryInterval maxAttempts ip polls clock resolver) {call : Call} {after : ArpResolver}
  {b : Bool}
include h

lemma entry_after (hle : clock ≤ call.now) (htouches : Touches resolver after ip call b) {entry : PendingResolution}
    (hentry : after.pending.lookup ip = some entry) : 0 < entry.attemptsSent ∧
      entry.attemptsSent ≤ maxAttempts ∧ entry.nextRetryAt ≤ call.now + retryInterval := by
  cases htouches with
  | ended hnone => cases hnone.symm.trans hentry
  | first now hcall hmax hnew hafter =>
    obtain rfl := Option.some.inj (hafter.symm.trans hentry)
    subst hcall
    rw [h.attempts] at hmax
    rw [h.interval]
    have hpos : 0 < maxAttempts.toNat := Nat.pos_of_ne_zero fun hzero => hmax (UInt64.toNat_inj.1 hzero)
    exact ⟨Nat.zero_lt_one, UInt64.le_iff_toNat_le.2 hpos, nextRetryAt_le now retryInterval⟩
  | retried now hcall old hfound hleft hafter =>
    obtain rfl := Option.some.inj (hafter.symm.trans hentry)
    subst hcall
    rw [h.attempts] at hleft
    rw [h.interval]
    obtain ⟨hsucc, hmax⟩ := attemptsSent_toNat_succ hleft
    have hpos : 0 < (old.attemptsSent + 1).toNat := hsucc ▸ Nat.succ_pos _
    exact ⟨UInt64.lt_iff_toNat_lt.2 hpos, hmax, nextRetryAt_le now retryInterval⟩
  | kept hafter hearly =>
    obtain ⟨hpos, hmax, hnext⟩ := h.entry entry (hafter.symm.trans hentry)
    exact ⟨hpos, hmax, hnext.trans (Nat.add_le_add_right hle retryInterval)⟩

/-- **A call that is not counted as a poll** loses none of the polls, unless it ends the episode. -/
lemma count_after (htouches : Touches resolver after ip call b) : b = true ∨ polls = [] ∨
    ∃ entry, after.pending.lookup ip = some entry ∧ polls.length ≤ entry.attemptsSent.toNat ∧
        (polls.length = entry.attemptsSent.toNat → ∀ last ∈ polls.getLast?,
          entry.nextRetryAt ≤ last + retryInterval) := by
  cases htouches with
  | ended hnone => exact Or.inl rfl
  | first now hcall hmax hnew hafter =>
    rcases h.count with hnil | ⟨entry, hentry, -⟩
    · exact Or.inr (Or.inl hnil)
    · cases hnew.symm.trans hentry
  | retried now hcall old hfound hleft hafter =>
    rcases h.count with hnil | ⟨entry, hentry, hcount, -⟩
    · exact Or.inr (Or.inl hnil)
    · obtain rfl := Option.some.inj (hfound.symm.trans hentry)
      rw [h.attempts] at hleft
      obtain ⟨hsucc, -⟩ := attemptsSent_toNat_succ hleft
      -- there are more requests than polls
      exact Or.inr (Or.inr ⟨_, hafter, by dsimp only; omega, fun heq => by dsimp only at heq; omega⟩)
  | kept hafter hearly =>
    rw [hafter]
    exact Or.inr h.count

/-- **A poll counts**, unless it ends the episode. -/
lemma count_poll (hle : clock ≤ call.now) (htouches : Touches resolver after ip call b)
    (hpoll : call.pollOf ip = some call.now) (hspaced : ∀ last ∈ polls.getLast?, last + retryInterval ≤ call.now) :
    b = true ∨ ∃ entry, after.pending.lookup ip = some entry ∧ polls.length + 1 ≤ entry.attemptsSent.toNat ∧
        (polls.length + 1 = entry.attemptsSent.toNat → entry.nextRetryAt ≤ call.now + retryInterval) := by
  have hentry_after entry (hafter : after.pending.lookup ip = some entry) := h.entry_after hle htouches hafter
  cases htouches with
  | ended hnone => exact Or.inl rfl
  | first now hcall hmax hnew hafter =>
    rcases h.count with rfl | ⟨entry, hentry, -⟩
    · exact Or.inr ⟨_, hafter, le_rfl, fun _ => (hentry_after _ hafter).2.2⟩
    · cases hnew.symm.trans hentry
  | retried now hcall old hfound hleft hafter =>
    refine Or.inr ⟨_, hafter, ?_, fun _ => (hentry_after _ hafter).2.2⟩
    rw [h.attempts] at hleft
    obtain ⟨hsucc, -⟩ := attemptsSent_toNat_succ hleft
    rcases h.count with rfl | ⟨entry, hentry, hcount, -⟩
    · dsimp only [List.length_nil]
      omega
    · obtain rfl := Option.some.inj (hfound.symm.trans hentry)
      dsimp only
      omega
  | kept hafter hearly =>
    obtain ⟨entry, hfound, hwait⟩ := hearly call.now hpoll
    refine Or.inr ⟨entry, hafter.trans hfound, ?_, fun _ => (hentry_after entry (hafter.trans hfound)).2.2⟩
    rcases h.count with rfl | ⟨entry', hentry, hcount, hlast⟩
    · exact UInt64.lt_iff_toNat_lt.1 (h.entry entry hfound).1
    · obtain rfl := Option.some.inj (hfound.symm.trans hentry)
      -- the poll would be due if there were as many requests as polls
      rcases Nat.lt_or_eq_of_le hcount with hlt | heq
      · exact hlt
      · cases hlast' : polls.getLast? with
        | none =>
          rw [List.getLast?_eq_none_iff] at hlast'
          subst hlast'
          exact UInt64.lt_iff_toNat_lt.1 (h.entry entry hfound).1
        | some last =>
          have hdue := (hlast heq last hlast').trans (hspaced last hlast')
          exact absurd hwait (Nat.not_lt.2 hdue)

/-- **One call.** -/
lemma step (hle : clock ≤ call.now) :
    let t : Step ArpResolver Call Answer :=
      ⟨resolver, call, (ArpResolver.step call resolver).1, (ArpResolver.step call resolver).2⟩
    Polled retryInterval maxAttempts ip (if ends ip t then [] else polls) call.now t.after ∧
      (ends ip t = false → call.pollOf ip = some call.now →
        (∀ last ∈ polls.getLast?, last + retryInterval ≤ call.now) →
        Polled retryInterval maxAttempts ip (polls ++ [call.now]) call.now t.after) := by
  intro t
  have htouches : Touches resolver t.after ip call (ends ip t) := step_touches resolver ip call
  obtain ⟨hinterval, hattempts⟩ := step_config resolver call
  have hentry entry (hafter : t.after.pending.lookup ip = some entry) := h.entry_after hle htouches hafter
  refine ⟨⟨hinterval.trans h.interval, hattempts.trans h.attempts, hentry, ?_⟩, fun hends hpoll hspaced =>
    ⟨hinterval.trans h.interval, hattempts.trans h.attempts, hentry, Or.inr ?_⟩⟩
  · split_ifs with hends
    · exact Or.inl rfl
    · exact (h.count_after htouches).resolve_left hends
  · obtain ⟨entry, hafter, hcount, hlast⟩ :=
      (h.count_poll hle htouches hpoll hspaced).resolve_left (Bool.eq_false_iff.1 hends)
    refine ⟨entry, hafter, by rwa [List.length_append, List.length_singleton], fun heq last hlast' => ?_⟩
    rw [List.getLast?_concat] at hlast'
    obtain rfl := Option.some.inj hlast'
    rw [List.length_append, List.length_singleton] at heq
    exact hlast heq

end Touched

/-- **Too many polls** do not all go without an end of the episode. -/
theorem decided (h : Polled retryInterval maxAttempts ip polls clock resolver) {window : List Call}
    (hclock : (clock :: window.map Call.now).Pairwise (· ≤ ·)) {more : List Instant}
    (hmore : more.Sublist (window.filterMap (Call.pollOf ip)))
    (hspaced : (polls ++ more).IsChain fun t t' => t + retryInterval ≤ t')
    (hmany : maxAttempts.toNat < (polls ++ more).length) :
    ∃ t ∈ trace ArpResolver.step resolver window, ends ip t = true := by
  induction window generalizing polls clock resolver more with
  | nil =>
    obtain rfl := List.sublist_nil.1 hmore
    rw [List.append_nil] at hmany
    rcases h.count with rfl | ⟨entry, hentry, hcount, -⟩
    · exact absurd hmany (Nat.not_lt_zero _)
    · have hmax := UInt64.le_iff_toNat_le.1 (h.entry entry hentry).2.1
      omega
  | cons call rest ih =>
    have hle : clock ≤ call.now := List.rel_of_pairwise_cons hclock List.mem_cons_self
    obtain ⟨hpass, hpoll⟩ := h.step hle
    rw [trace]
    by_cases hends : ends ip
      ⟨resolver, call, (ArpResolver.step call resolver).1, (ArpResolver.step call resolver).2⟩ = true
    · exact ⟨_, List.mem_cons_self, hends⟩
    · rw [if_neg hends] at hpass
      suffices hrest : ∃ t ∈ trace ArpResolver.step (ArpResolver.step call resolver).2 rest, ends ip t = true by
        obtain ⟨t, ht, hend⟩ := hrest
        exact ⟨t, List.mem_cons_of_mem _ ht, hend⟩
      cases hown : call.pollOf ip with
      | none =>
        rw [List.filterMap_cons_none hown] at hmore
        exact ih hpass hclock.of_cons hmore hspaced hmany
      | some now =>
        rw [List.filterMap_cons_some hown, List.sublist_cons_iff] at hmore
        rcases hmore with hmore | ⟨more, rfl, hmore⟩
        · exact ih hpass hclock.of_cons hmore hspaced hmany
        · obtain rfl := Call.now_of_pollOf hown
          have hlast := fun last hlast => (List.isChain_append.1 hspaced).2.2 last hlast call.now rfl
          rw [List.append_cons] at hspaced hmany
          exact ih (hpoll (Bool.eq_false_iff.2 hends) hown hlast) hclock.of_cons hmore hspaced hmany

lemma decided_after (h : Polled retryInterval maxAttempts ip [] clock resolver) {past window : List Call}
    (hclock : (clock :: (past ++ window).map Call.now).Pairwise (· ≤ ·)) {polls : List Instant}
    (hpolls : polls.Sublist (window.filterMap (Call.pollOf ip)))
    (hspaced : polls.IsChain fun t t' => t + retryInterval ≤ t') (hmany : maxAttempts.toNat < polls.length) :
    ∃ t ∈ trace ArpResolver.step (run ArpResolver.step resolver past) window, ends ip t = true := by
  induction past generalizing clock resolver with
  | nil => exact h.decided hclock hpolls hspaced hmany
  | cons call rest ih =>
    have hpass := (h.step (List.rel_of_pairwise_cons hclock List.mem_cons_self)).1
    rw [ite_self] at hpass
    exact ih hpass hclock.of_cons

end Polled

/-- **Every resolution is decided.**  After any calls, among the calls for `ip` that are at least the retry interval
apart one of the first `maxAttempts + 1` finds the address resolved or given up, or it was in between, or a packet of
`ip` was learned; whatever else is called, and for every interval that the clock can hold or not. -/
theorem resolution_decided (localMac : MacAddress) (localIp : Ipv4Addr) (cache : ArpCache) (retryInterval : Duration)
    (maxAttempts : UInt64) (past window : List Call) (ip : Ipv4Addr) (polls : List Instant)
    (hclock : ((past ++ window).map Call.now).Pairwise (· ≤ ·))
    (hpolls : polls.Sublist (window.filterMap (Call.pollOf ip)))
    (hspaced : polls.IsChain fun t t' => t + retryInterval ≤ t') (hmany : maxAttempts.toNat < polls.length) :
    let start := ArpResolver.new localMac localIp cache retryInterval maxAttempts
    ∃ t ∈ trace step (run step start past) window, ends ip t = true := by
  have hstart : (0 :: (past ++ window).map Call.now).Pairwise (· ≤ ·) :=
    List.pairwise_cons.2 ⟨fun now _ => Nat.zero_le now, hclock⟩
  exact (Polled.new localMac localIp cache ip).decided_after hstart hpolls hspaced hmany

/-- Three polls of an address that does not answer, with two attempts; another host speaks in between. -/
theorem resolution_decided_twice :
    let start := ArpResolver.new ⟨2, 0, 0, 0, 0, 1⟩ ⟨10, 0, 0, 1⟩ (ArpCache.new 4 60) 5 2
    let request := buildRequest ⟨10, 0, 0, 1⟩ ⟨2, 0, 0, 0, 0, 3⟩ ⟨10, 0, 0, 3⟩
    ∃ t ∈ trace step (run step start [.cachedMac ⟨10, 0, 0, 2⟩ 9]) [.resolve ⟨10, 0, 0, 2⟩ 10, .observe request 11,
        .resolve ⟨10, 0, 0, 2⟩ 12, .resolve ⟨10, 0, 0, 2⟩ 15, .resolve ⟨10, 0, 0, 2⟩ 20],
      ends ⟨10, 0, 0, 2⟩ t = true := by
  intro start request
  exact resolution_decided ⟨2, 0, 0, 0, 0, 1⟩ ⟨10, 0, 0, 1⟩ (ArpCache.new 4 60) 5 2 [.cachedMac ⟨10, 0, 0, 2⟩ 9]
    [.resolve ⟨10, 0, 0, 2⟩ 10, .observe request 11, .resolve ⟨10, 0, 0, 2⟩ 12, .resolve ⟨10, 0, 0, 2⟩ 15,
      .resolve ⟨10, 0, 0, 2⟩ 20] ⟨10, 0, 0, 2⟩ [10, 15, 20] (by decide) (by decide) (by decide) (by decide)

end TcpIp.Arp.Resolver.ArpResolver
