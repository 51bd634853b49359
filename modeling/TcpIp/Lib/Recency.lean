import Mathlib.Data.Finset.Card
import Mathlib.Data.List.Dedup
import Mathlib.Logic.Function.Basic

/-!
# What a bounded cache keeps of a history

A history `log` lists the values that were recorded for keys, each with its time.  A cache of a given capacity and
lifetime keeps some of them: `kept k` is the value kept for the key `k` and the time at which it was recorded.

* `latest k log` — the last value recorded for `k`; `others k p log` — the other keys recorded at a time in `p`;
* `Recent` — what is kept is the latest value of its key, at most `capacity` keys are kept, a kept key is not older
  than a lost one, and a key is lost for a reason: it is too old, or enough other keys are as young;
* the rules: time passes (`Recent.wait`), old values expire (`Recent.expire`), a value is recorded where there is room
  (`Recent.record`) or in place of the oldest one (`Recent.replace`);
* the answers: `Recent.lost_of_overtaken`, `Recent.kept_of_recent`, `Recent.kept_of_newer`.
-/

namespace TcpIp.Lib

variable {κ α : Type}

/-- A value recorded for a key. -/
structure Entry (κ α : Type) where
  key : κ
  value : α
  time : ℕ

variable [DecidableEq κ]

/-- The last value recorded for `k`, and when. -/
def latest (k : κ) (log : List (Entry κ α)) : Option (α × ℕ) :=
  (log.reverse.find? fun e => e.key = k).map fun e => (e.value, e.time)

/-- The keys other than `k` recorded at a time in `p`. -/
def others (k : κ) (p : ℕ → Prop) [DecidablePred p] (log : List (Entry κ α)) : Finset κ :=
  ((log.filter fun e => e.key ≠ k ∧ p e.time).map Entry.key).toFinset

@[simp] lemma latest_nil (k : κ) : latest k ([] : List (Entry κ α)) = none := rfl

lemma latest_snoc (k : κ) (log : List (Entry κ α)) (e : Entry κ α) :
    latest k (log ++ [e]) = if e.key = k then some (e.value, e.time) else latest k log := by
  unfold latest
  rw [List.reverse_append, List.reverse_singleton, List.singleton_append, List.find?_cons]
  by_cases hk : e.key = k
  · rw [if_pos hk, decide_eq_true hk]
    rfl
  · rw [if_neg hk, decide_eq_false hk]

lemma mem_others {k k' : κ} {p : ℕ → Prop} [DecidablePred p] {log : List (Entry κ α)} :
    k' ∈ others k p log ↔ k' ≠ k ∧ ∃ e ∈ log, e.key = k' ∧ p e.time := by
  simp only [others, List.mem_toFinset, List.mem_map, List.mem_filter, decide_eq_true_eq]
  constructor
  · rintro ⟨e, ⟨he, hne, hp⟩, rfl⟩
    exact ⟨hne, e, he, rfl, hp⟩
  · rintro ⟨hne, e, he, rfl, hp⟩
    exact ⟨e, ⟨he, hne, hp⟩, rfl⟩

lemma others_subset_snoc (k : κ) (p : ℕ → Prop) [DecidablePred p] (log : List (Entry κ α)) (e : Entry κ α) :
    others k p log ⊆ others k p (log ++ [e]) := by
  intro k' hk'
  obtain ⟨hne, e', he', hkey, hp⟩ := mem_others.1 hk'
  exact mem_others.2 ⟨hne, e', List.mem_append_left _ he', hkey, hp⟩

lemma exists_of_latest {k : κ} {log : List (Entry κ α)} {v : α} {t : ℕ} (h : latest k log = some (v, t)) :
    ∃ e ∈ log, e.key = k ∧ e.time = t := by
  obtain ⟨e, hfind, hpair⟩ := Option.map_eq_some_iff.1 h
  have hmem := List.mem_of_find?_eq_some hfind
  have hkey := List.find?_some hfind
  obtain ⟨-, rfl⟩ := Prod.mk.inj hpair
  exact ⟨e, List.mem_reverse.1 hmem, of_decide_eq_true hkey, rfl⟩

/-- With distinct times, no other key was recorded at the time of the latest value of `k`. -/
lemma others_le_eq_others_lt {k : κ} {log : List (Entry κ α)} {v : α} {t : ℕ} (h : latest k log = some (v, t))
    (hdistinct : (log.map Entry.time).Nodup) : others k (t ≤ ·) log = others k (t < ·) log := by
  obtain ⟨e, he, hkey, rfl⟩ := exists_of_latest h
  ext k'
  rw [mem_others, mem_others]
  refine and_congr_right fun hne => ⟨fun ⟨e', he', hkey', hle⟩ => ?_, fun ⟨e', he', hkey', hlt⟩ => ?_⟩
  · refine ⟨e', he', hkey', lt_of_le_of_ne hle fun htime => hne ?_⟩
    rw [← hkey', ← List.inj_on_of_nodup_map hdistinct he he' htime, hkey]
  · exact ⟨e', he', hkey', hlt.le⟩

/-- **What a cache keeps of a history.** -/
structure Recent (capacity ttl : ℕ) (log : List (Entry κ α)) (now : ℕ) (kept : κ → Option (α × ℕ)) : Prop where
  /-- nothing was recorded later than now -/
  past : ∀ e ∈ log, e.time ≤ now
  /-- later records of a key have later times -/
  ordered : ∀ e ∈ log, ∃ v t, latest e.key log = some (v, t) ∧ e.time ≤ t
  /-- what is kept is the latest value -/
  current : ∀ k v t, kept k = some (v, t) → latest k log = some (v, t)
  /-- at most `capacity` keys are kept -/
  bounded : ∀ s : Finset κ, (∀ k ∈ s, kept k ≠ none) → s.card ≤ capacity
  /-- newer keys than a kept one are kept -/
  newer : ∀ k v t k' v' t', kept k = some (v, t) → latest k' log = some (v', t') → t < t' → kept k' ≠ none
  /-- a key is lost because it is too old, or because `capacity` others are as young -/
  lost : ∀ k v t, latest k log = some (v, t) → kept k = none → ttl ≤ now - t ∨ capacity ≤ (others k (t ≤ ·) log).card

namespace Recent

variable {capacity ttl now : ℕ} {log : List (Entry κ α)} {kept : κ → Option (α × ℕ)}

lemma init (capacity ttl now : ℕ) : Recent capacity ttl ([] : List (Entry κ α)) now fun _ => none where
  past := by simp
  ordered := by simp
  current := by simp
  bounded s hs := by
    rw [Finset.eq_empty_of_forall_notMem fun k hk => hs k hk rfl]
    exact Nat.zero_le _
  newer := by simp
  lost := by simp

lemma kept_of_kept (h : Recent capacity ttl log now kept) {k : κ} {v : α} {t : ℕ}
    (hlatest : latest k log = some (v, t)) (hkept : kept k ≠ none) : kept k = some (v, t) := by
  obtain ⟨⟨w, u⟩, hkept⟩ := Option.ne_none_iff_exists'.1 hkept
  rw [hkept, ← h.current k w u hkept, hlatest]

/-- A key that is newer than a kept one is kept. -/
theorem kept_of_newer (h : Recent capacity ttl log now kept) {k k' : κ} {v v' : α} {t t' : ℕ}
    (hkept : kept k = some (v, t)) (hlatest : latest k' log = some (v', t')) (hlt : t < t') :
    kept k' = some (v', t') :=
  h.kept_of_kept hlatest (h.newer k v t k' v' t' hkept hlatest hlt)

lemma time_le (h : Recent capacity ttl log now kept) {k : κ} {v : α} {t : ℕ} (hlatest : latest k log = some (v, t)) :
    t ≤ now := by
  obtain ⟨e, he, -, rfl⟩ := exists_of_latest hlatest
  exact h.past e he

lemma past_snoc (h : Recent capacity ttl log now kept) (k : κ) (v : α) : ∀ e ∈ log ++ [⟨k, v, now⟩], e.time ≤ now := by
  intro e he
  rcases List.mem_append.1 he with he | he
  · exact h.past e he
  · rw [List.mem_singleton.1 he]

lemma wait (h : Recent capacity ttl log now kept) {later : ℕ} (hle : now ≤ later) :
    Recent capacity ttl log later kept where
  past e he := (h.past e he).trans hle
  ordered := h.ordered
  current := h.current
  bounded := h.bounded
  newer := h.newer
  lost k v t hlatest hnone := (h.lost k v t hlatest hnone).imp_left fun hold => by omega

lemma expire (h : Recent capacity ttl log now kept) :
    Recent capacity ttl log now fun k => (kept k).filter fun p => now - p.2 < ttl where
  past := h.past
  ordered := h.ordered
  current k v t hkept := h.current k v t (Option.filter_eq_some_iff.1 hkept).1
  bounded s hs := h.bounded s fun k hk hnone => hs k hk (by rw [hnone]; rfl)
  newer k v t k' v' t' hkept hlatest hlt := by
    obtain ⟨hkept, hyoung⟩ := Option.filter_eq_some_iff.1 hkept
    have hyoung : now - t < ttl := by simpa using hyoung
    have hyoung' : now - t' < ttl := by omega
    rw [h.kept_of_newer hkept hlatest hlt, Option.filter_some, decide_eq_true hyoung', if_pos rfl]
    exact Option.some_ne_none _
  lost k v t hlatest hnone := by
    by_cases hold : ttl ≤ now - t
    · exact Or.inl hold
    · refine h.lost k v t hlatest ?_
      by_contra hkept
      rw [h.kept_of_kept hlatest hkept, Option.filter_some, decide_eq_true (Nat.lt_of_not_le hold)] at hnone
      cases hnone

section Put

variable {k : κ} {v : α} {base : κ → Option (α × ℕ)}

/-- A value is recorded next to what is left of the kept ones: what was dropped is older than what is left, and enough
other keys are as young. -/
private lemma put (h : Recent capacity ttl log now kept) (hsub : ∀ k' p, base k' = some p → kept k' = some p)
    (hroom : ∀ s : Finset κ, (∀ k' ∈ s, base k' ≠ none) → k ∉ s → s.card < capacity)
    (hdropped : ∀ o w t, kept o = some (w, t) → base o = none → o ≠ k →
      (∀ k' w' t', base k' = some (w', t') → t ≤ t') ∧
        capacity ≤ (others o (t ≤ ·) (log ++ [⟨k, v, now⟩])).card) :
    Recent capacity ttl (log ++ [⟨k, v, now⟩]) now (Function.update base k (some (v, now))) where
  past := h.past_snoc k v
  ordered e he := by
    rw [latest_snoc]
    dsimp only
    split_ifs with hkey
    · exact ⟨v, now, rfl, h.past_snoc k v e he⟩
    · rcases List.mem_append.1 he with he | he
      · exact h.ordered e he
      · rw [List.mem_singleton.1 he] at hkey
        exact absurd rfl hkey
  current k' v' t' hkept := by
    rw [latest_snoc]
    dsimp only
    by_cases hkey : k = k'
    · subst hkey
      rwa [if_pos rfl, ← Function.update_self k (some (v, now)) base]
    · rw [Function.update_of_ne (Ne.symm hkey)] at hkept
      rw [if_neg hkey]
      exact h.current k' v' t' (hsub k' _ hkept)
  bounded s hs := by
    have hlt : (s.erase k).card < capacity := hroom _ (fun k' hk' => by
      obtain ⟨hne, hmem⟩ := Finset.mem_erase.1 hk'
      have hkept := hs k' hmem
      rwa [Function.update_of_ne hne] at hkept) (Finset.notMem_erase k s)
    have hle : s.card - 1 ≤ (s.erase k).card := Finset.pred_card_le_card_erase
    omega
  newer k₁ v₁ t₁ k₂ v₂ t₂ hkept hlatest hlt := by
    by_cases hkey : k = k₂
    · rw [← hkey, Function.update_self]
      exact Option.some_ne_none _
    · rw [latest_snoc, if_neg hkey] at hlatest
      rw [Function.update_of_ne (Ne.symm hkey)]
      have hle := h.time_le hlatest
      by_cases hkey₁ : k₁ = k
      · subst hkey₁
        rw [Function.update_self] at hkept
        obtain ⟨-, rfl⟩ := Prod.mk.inj (Option.some.inj hkept)
        omega
      · rw [Function.update_of_ne hkey₁] at hkept
        -- the newer key was kept, and nothing younger than what is left was dropped
        have hkept₂ := h.kept_of_newer (hsub k₁ _ hkept) hlatest hlt
        intro hnone
        have hold := (hdropped k₂ v₂ t₂ hkept₂ hnone (Ne.symm hkey)).1 k₁ v₁ t₁ hkept
        omega
  lost k' v' t' hlatest hnone := by
    by_cases hkey : k = k'
    · rw [← hkey, Function.update_self] at hnone
      cases hnone
    · rw [latest_snoc, if_neg hkey] at hlatest
      rw [Function.update_of_ne (Ne.symm hkey)] at hnone
      by_cases hkept : kept k' = none
      · refine (h.lost k' v' t' hlatest hkept).imp_right fun hmany => hmany.trans ?_
        exact Finset.card_le_card (others_subset_snoc k' _ log _)
      · exact Or.inr (hdropped k' v' t' (h.kept_of_kept hlatest hkept) hnone (Ne.symm hkey)).2

lemma record (h : Recent capacity ttl log now kept) (k : κ) (v : α)
    (hroom : kept k ≠ none ∨ ∀ s : Finset κ, (∀ k' ∈ s, kept k' ≠ none) → s.card < capacity) :
    Recent capacity ttl (log ++ [⟨k, v, now⟩]) now (Function.update kept k (some (v, now))) := by
  refine h.put (fun k' p hp => hp) (fun s hs hk => ?_) fun o w t hkept hnone => ?_
  · rcases hroom with hsome | hfree
    · have hall : ∀ k' ∈ insert k s, kept k' ≠ none := by
        intro k' hk'
        rcases Finset.mem_insert.1 hk' with rfl | hk'
        · exact hsome
        · exact hs k' hk'
      have hle := h.bounded _ hall
      rw [Finset.card_insert_of_notMem hk] at hle
      exact hle
    · exact hfree s hs
  · rw [hkept] at hnone
    cases hnone

lemma replace (h : Recent capacity ttl log now kept) (k : κ) (v : α) (hnew : kept k = none) {s : Finset κ}
    (hs : ∀ k' ∈ s, kept k' ≠ none) (hfull : capacity ≤ s.card) {o : κ} {w : α} {t : ℕ} (ho : kept o = some (w, t))
    (holdest : ∀ k' w' t', kept k' = some (w', t') → t ≤ t') :
    Recent capacity ttl (log ++ [⟨k, v, now⟩]) now
      (Function.update (Function.update kept o none) k (some (v, now))) := by
  have hsub : ∀ k' p, Function.update kept o none k' = some p → kept k' = some p := by
    intro k' p hp
    by_cases hk' : k' = o
    · rw [hk', Function.update_self] at hp
      cases hp
    · rwa [Function.update_of_ne hk'] at hp
  refine h.put hsub (fun s' hs' _ => ?_) fun o' w' t' hkept hnone hne => ?_
  · have hall : ∀ k' ∈ insert o s', kept k' ≠ none := by
      intro k' hk'
      rcases Finset.mem_insert.1 hk' with rfl | hk'
      · rw [ho]
        exact Option.some_ne_none _
      · obtain ⟨p, hp⟩ := Option.ne_none_iff_exists'.1 (hs' k' hk')
        rw [hsub k' p hp]
        exact Option.some_ne_none _
    have hle := h.bounded _ hall
    have ho' : o ∉ s' := fun hmem => hs' o hmem (Function.update_self o none kept)
    rw [Finset.card_insert_of_notMem ho'] at hle
    exact hle
  · have ho' : o' = o := by
      by_contra hne'
      rw [Function.update_of_ne hne', hkept] at hnone
      cases hnone
    subst ho'
    obtain ⟨rfl, rfl⟩ := Prod.mk.inj (Option.some.inj (hkept.symm.trans ho))
    refine ⟨fun k' w₁ t₁ hp => holdest k' w₁ t₁ (hsub k' _ hp), ?_⟩
    -- the keys of `s` apart from the oldest one, and the new key
    have hk : k ∉ s.erase o' := fun hmem => hs k (Finset.mem_of_mem_erase hmem) hnew
    have hcard : s.card ≤ (insert k (s.erase o')).card := by
      rw [Finset.card_insert_of_notMem hk]
      exact Nat.sub_le_iff_le_add.1 Finset.pred_card_le_card_erase
    refine hfull.trans (hcard.trans (Finset.card_le_card fun k' hk' => mem_others.2 ?_))
    rcases Finset.mem_insert.1 hk' with rfl | hk'
    · refine ⟨hne.symm, ⟨k', v, now⟩, List.mem_append_right _ (List.mem_singleton_self _), rfl, ?_⟩
      exact h.time_le (h.current o' w' t' hkept)
    · obtain ⟨hne', hmem⟩ := Finset.mem_erase.1 hk'
      obtain ⟨⟨w₁, t₁⟩, hp⟩ := Option.ne_none_iff_exists'.1 (hs k' hmem)
      obtain ⟨e, he, hkey, htime⟩ := exists_of_latest (h.current k' w₁ t₁ hp)
      refine ⟨hne', e, List.mem_append_left _ he, hkey, ?_⟩
      rw [htime]
      exact holdest k' w₁ t₁ hp

end Put

/-! ### What a lookup finds -/

lemma lost_of_unrecorded (h : Recent capacity ttl log now kept) {k : κ} (hlatest : latest k log = none) :
    kept k = none := by
  by_contra hkept
  obtain ⟨⟨w, u⟩, hkept⟩ := Option.ne_none_iff_exists'.1 hkept
  rw [h.current k w u hkept] at hlatest
  cases hlatest

/-- A key that `capacity` others have overtaken is not kept. -/
theorem lost_of_overtaken (h : Recent capacity ttl log now kept) {k : κ} {v : α} {t : ℕ}
    (hlatest : latest k log = some (v, t)) (hmany : capacity ≤ (others k (t < ·) log).card) : kept k = none := by
  by_contra hkept
  have hall : ∀ k' ∈ insert k (others k (t < ·) log), kept k' ≠ none := by
    intro k' hk'
    rcases Finset.mem_insert.1 hk' with rfl | hk'
    · exact hkept
    · obtain ⟨-, e, he, rfl, hlt⟩ := mem_others.1 hk'
      obtain ⟨v', t', hlatest', hle⟩ := h.ordered e he
      exact h.newer k v t e.key v' t' (h.kept_of_kept hlatest hkept) hlatest' (hlt.trans_le hle)
  have hle := h.bounded _ hall
  rw [Finset.card_insert_of_notMem fun hmem => (mem_others.1 hmem).1 rfl] at hle
  omega

/-- A young key is kept while fewer than `capacity` others are as young. -/
theorem kept_of_recent (h : Recent capacity ttl log now kept) {k : κ} {v : α} {t : ℕ}
    (hlatest : latest k log = some (v, t)) (hyoung : now - t < ttl)
    (hfew : (others k (t ≤ ·) log).card < capacity) : kept k = some (v, t) := by
  refine h.kept_of_kept hlatest fun hnone => ?_
  rcases h.lost k v t hlatest hnone with hold | hmany
  · omega
  · omega

end Recent

end TcpIp.Lib
