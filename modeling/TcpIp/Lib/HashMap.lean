import Mathlib.Data.Finmap
import Mathlib.Data.Finset.Max

/-!
# Hash maps

A hash map is Mathlib's `Finmap`: two maps with the same bindings are equal, and nothing depends on the order in
which a map is walked.  Added here are the operations of the host language's map that `Finmap` lacks, `retain`,
`len` and the least value of `min_by_key`, each with the lemmas that say what `lookup` finds.
-/

namespace TcpIp.Lib

/-- A hash map from `K` to `V`. -/
abbrev HashMap (K V : Type) := Finmap (fun _ : K => V)

namespace HashMap

variable {K V : Type}

/-- The number of bindings. -/
def len (m : HashMap K V) : ℕ := m.keys.card

/-- Keeps the bindings that satisfy `p`. -/
def retain (p : K → V → Bool) (m : HashMap K V) : HashMap K V where
  entries := m.entries.filter fun e => p e.1 e.2
  nodupKeys := by
    have h := Multiset.nodup_keys.2 m.nodupKeys
    exact Multiset.nodup_keys.1 (Multiset.nodup_of_le (Multiset.map_le_map (Multiset.filter_le _ _)) h)

/-- The least value of `f` on the bindings. -/
def minByKey {α : Type} [LinearOrder α] (f : K → V → α) (m : HashMap K V) : Option α :=
  (m.entries.map fun e => f e.1 e.2).toFinset.min

variable [DecidableEq K]

lemma mem_keys_iff {k : K} {m : HashMap K V} : k ∈ m.keys ↔ ∃ v, m.lookup k = some v := by
  rw [Finmap.mem_keys, ← Finmap.lookup_isSome, Option.isSome_iff_exists]

lemma mem_keys_of_lookup {k : K} {m : HashMap K V} {v : V} (h : m.lookup k = some v) : k ∈ m.keys :=
  mem_keys_iff.2 ⟨v, h⟩

lemma notMem_keys_iff {k : K} {m : HashMap K V} : k ∉ m.keys ↔ m.lookup k = none := by
  rw [Finmap.mem_keys, Finmap.lookup_eq_none]

lemma keys_insert (k : K) (v : V) (m : HashMap K V) : (m.insert k v).keys = insert k m.keys := by
  ext k'
  rw [Finmap.mem_keys, Finmap.mem_insert, Finset.mem_insert, Finmap.mem_keys]

lemma len_insert_of_lookup_none {k : K} {m : HashMap K V} (h : m.lookup k = none) (v : V) :
    len (m.insert k v) = len m + 1 := by
  rw [len, keys_insert, Finset.card_insert_of_notMem (notMem_keys_iff.2 h), len]

lemma len_insert_of_lookup_some {k : K} {m : HashMap K V} {w : V} (h : m.lookup k = some w) (v : V) :
    len (m.insert k v) = len m := by
  rw [len, keys_insert, Finset.insert_eq_of_mem (mem_keys_of_lookup h), len]

lemma len_erase_of_lookup_some {k : K} {m : HashMap K V} {w : V} (h : m.lookup k = some w) :
    len (m.erase k) + 1 = len m := by
  rw [len, Finmap.keys_erase, Finset.card_erase_add_one (mem_keys_of_lookup h), len]

lemma lookup_insert_eq (k k' : K) (v : V) (m : HashMap K V) :
    (m.insert k v).lookup k' = if k' = k then some v else m.lookup k' := by
  by_cases h : k' = k
  · rw [if_pos h, h, Finmap.lookup_insert]
  · rw [if_neg h, Finmap.lookup_insert_of_ne m h]

lemma erase_of_lookup_none {k : K} {m : HashMap K V} (h : m.lookup k = none) : m.erase k = m :=
  Finmap.ext_lookup fun k' => by
    by_cases hk : k' = k
    · rw [hk, Finmap.lookup_erase, h]
    · exact Finmap.lookup_erase_ne hk

lemma lookup_retain (p : K → V → Bool) (m : HashMap K V) (k : K) :
    (retain p m).lookup k = (m.lookup k).filter (p k) := by
  ext v
  have h1 : (retain p m).lookup k = some v ↔ ⟨k, v⟩ ∈ m.entries ∧ p k v = true := by
    rw [Finmap.lookup_eq_some_iff]
    exact Multiset.mem_filter
  rw [h1, Option.filter_eq_some_iff, Finmap.lookup_eq_some_iff]

lemma keys_retain_subset (p : K → V → Bool) (m : HashMap K V) : (retain p m).keys ⊆ m.keys := by
  intro k hk
  obtain ⟨v, hv⟩ := mem_keys_iff.1 hk
  rw [lookup_retain, Option.filter_eq_some_iff] at hv
  exact mem_keys_of_lookup hv.1

lemma len_retain_le (p : K → V → Bool) (m : HashMap K V) : len (retain p m) ≤ len m :=
  Finset.card_le_card (keys_retain_subset p m)

lemma exists_minByKey {α : Type} [LinearOrder α] (f : K → V → α) {m : HashMap K V} (h : m.keys.Nonempty) :
    ∃ k v, m.lookup k = some v ∧ minByKey f m = some (f k v) ∧ ∀ k' v', m.lookup k' = some v' → f k v ≤ f k' v' := by
  have hmem : ∀ k' v', m.lookup k' = some v' → f k' v' ∈ (m.entries.map fun e => f e.1 e.2).toFinset :=
    fun k' v' hlookup => by
      rw [Multiset.mem_toFinset]
      exact Multiset.mem_map_of_mem (fun e : (_ : K) × V => f e.1 e.2) (Finmap.lookup_eq_some_iff.1 hlookup)
  obtain ⟨k₀, hk₀⟩ := h
  obtain ⟨v₀, hv₀⟩ := mem_keys_iff.1 hk₀
  obtain ⟨least, hmin⟩ := Finset.min_of_mem (hmem k₀ v₀ hv₀)
  have hleast := Finset.mem_of_min hmin
  rw [Multiset.mem_toFinset, Multiset.mem_map] at hleast
  obtain ⟨⟨k, v⟩, he, rfl⟩ := hleast
  exact ⟨k, v, Finmap.lookup_eq_some_iff.2 he, hmin, fun k' v' hlookup =>
    Finset.min_le_of_eq (hmem k' v' hlookup) hmin⟩

end HashMap

end TcpIp.Lib
