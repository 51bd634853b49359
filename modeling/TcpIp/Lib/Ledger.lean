import Mathlib.Data.List.Nodup
import Mathlib.Data.List.Induction

/-!
# First come, first served

Items with a key arrive one after the other; a ledger of bounded size takes an item in when its key is new and there
is room, and never lets an item go.

* `firstsBy key xs` — the items of `xs` whose key no earlier item has, in order of arrival;
* `Ledger key capacity` — a list of items with distinct keys, no longer than `capacity`; `offer` is one arrival, `find`
  looks a key up, and `amend` changes the item of a key;
* `Ledger.items_offers` — after the arrivals `xs` the ledger holds the first `capacity` items of `firstsBy key xs`.
-/

namespace TcpIp.Lib

variable {α κ : Type} [DecidableEq κ]

/-! ### First arrivals -/

/-- The items whose key no earlier item has. -/
def firstsBy (key : α → κ) (xs : List α) : List α :=
  xs.foldl (fun seen x => if key x ∈ seen.map key then seen else seen ++ [x]) []

section Firsts

variable {key : α → κ}

@[simp] lemma firstsBy_nil : firstsBy key [] = [] := rfl

lemma firstsBy_snoc (xs : List α) (x : α) : firstsBy key (xs ++ [x]) =
    if key x ∈ (firstsBy key xs).map key then firstsBy key xs else firstsBy key xs ++ [x] := by
  rw [firstsBy, List.foldl_append]
  rfl

end Firsts

/-! ### The ledger -/

/-- A bounded list of items with distinct keys. -/
structure Ledger (key : α → κ) (capacity : ℕ) where
  items : List α
  nodup : (items.map key).Nodup
  bounded : items.length ≤ capacity

namespace Ledger

variable {key : α → κ} {capacity : ℕ}

def empty : Ledger key capacity := ⟨[], List.nodup_nil, Nat.zero_le _⟩

/-- One arrival. -/
def offer (x : α) (ledger : Ledger key capacity) : Ledger key capacity :=
  if h : key x ∉ ledger.items.map key ∧ ledger.items.length < capacity then
    { items := ledger.items ++ [x]
      nodup := by
        rw [List.map_append, List.map_singleton, List.nodup_append]
        exact ⟨ledger.nodup, List.nodup_singleton _, fun k hk k' hk' => by
          rw [List.mem_singleton.1 hk']
          exact ne_of_mem_of_not_mem hk h.1⟩
      bounded := by
        rw [List.length_append, List.length_singleton]
        exact h.2 }
  else ledger

variable {ledger : Ledger key capacity} {x : α}

lemma offer_of_new (hnew : key x ∉ ledger.items.map key) (hroom : ledger.items.length < capacity) :
    (ledger.offer x).items = ledger.items ++ [x] := by
  rw [offer, dif_pos ⟨hnew, hroom⟩]

lemma offer_of_mem (h : key x ∈ ledger.items.map key) : ledger.offer x = ledger :=
  dif_neg fun ⟨hnew, _⟩ => hnew h

lemma offer_of_full (h : capacity ≤ ledger.items.length) : ledger.offer x = ledger :=
  dif_neg fun ⟨_, hroom⟩ => absurd hroom (Nat.not_lt.2 h)

/-- The item with the key `k`. -/
def find (k : κ) (ledger : Ledger key capacity) : Option α := ledger.items.find? fun x => key x = k

lemma find_eq_none_iff {k : κ} : ledger.find k = none ↔ k ∉ ledger.items.map key := by
  simp [find, List.find?_eq_none]

lemma key_of_find {k : κ} (h : ledger.find k = some x) : key x = k := by
  rw [find] at h
  simpa using List.find?_some h

lemma offer_of_find {y : α} (h : ledger.find (key x) = some y) : ledger.offer x = ledger := by
  refine offer_of_mem (not_not.1 fun hnew => ?_)
  cases (find_eq_none_iff.2 hnew).symm.trans h

lemma find_offer_of_new (hnew : ledger.find (key x) = none) (hroom : ledger.items.length < capacity) (k : κ) :
    (ledger.offer x).find k = if k = key x then some x else ledger.find k := by
  rw [find, offer_of_new (find_eq_none_iff.1 hnew) hroom, List.find?_append]
  split_ifs with hk
  · subst hk
    rw [find] at hnew
    rw [hnew]
    simp
  · have hne : key x ≠ k := fun h => hk h.symm
    have hlast : List.find? (fun y => decide (key y = k)) [x] = none := by simp [hne]
    rw [hlast, Option.or_none]
    rfl

/-- The item of the key `k` changes, and keeps its key. -/
def amend (k : κ) (f : α → α) (hf : ∀ x, key (f x) = key x) (ledger : Ledger key capacity) : Ledger key capacity where
  items := ledger.items.map fun x => if key x = k then f x else x
  nodup := by
    have hkeys : (ledger.items.map fun x => if key x = k then f x else x).map key = ledger.items.map key := by
      rw [List.map_map]
      refine List.map_congr_left fun x _ => ?_
      dsimp only [Function.comp]
      split_ifs
      · exact hf x
      · rfl
    rw [hkeys]
    exact ledger.nodup
  bounded := by
    rw [List.length_map]
    exact ledger.bounded

section Amend

variable {f : α → α} {hf : ∀ x, key (f x) = key x} {k : κ}

lemma amend_length : (ledger.amend k f hf).items.length = ledger.items.length := List.length_map _

lemma find_amend (k' : κ) :
    (ledger.amend k f hf).find k' = if k' = k then (ledger.find k).map f else ledger.find k' := by
  have hkey : ∀ x, decide (key (if key x = k then f x else x) = k') = decide (key x = k') := by
    intro x
    split_ifs
    · rw [hf]
    · rfl
  have hfind : (ledger.amend k f hf).find k' = (ledger.find k').map fun x => if key x = k then f x else x := by
    rw [find, amend, List.find?_map]
    exact congrArg (Option.map _) (congrArg (List.find? · ledger.items) (funext hkey))
  rw [hfind]
  cases hx : ledger.find k' with
  | none => split_ifs with hk <;> simp_all
  | some x =>
    have hkx := key_of_find hx
    split_ifs with hk
    · subst hk
      rw [hx, Option.map_some, Option.map_some, if_pos hkx]
    · rw [Option.map_some, if_neg (hkx ▸ hk)]

end Amend

/-- The ledger after the arrivals `xs`. -/
def offers (xs : List α) : Ledger key capacity := xs.foldl (fun ledger x => ledger.offer x) empty

lemma offers_snoc (xs : List α) (x : α) :
    (offers (xs ++ [x]) : Ledger key capacity) = (offers xs).offer x := List.foldl_append

/-- **A ledger holds the first arrivals, as many as it has room for.** -/
theorem items_offers (xs : List α) :
    (offers xs : Ledger key capacity).items = (firstsBy key xs).take capacity := by
  induction xs using List.reverseRecOn with
  | nil => simp [offers, empty]
  | append_singleton xs x ih =>
    rw [offers_snoc, firstsBy_snoc]
    rcases Nat.lt_or_ge (firstsBy key xs).length capacity with hroom | hfull
    · rw [List.take_of_length_le (Nat.le_of_lt hroom)] at ih
      split_ifs with hx
      · rw [offer_of_mem (by rwa [ih]), ih, List.take_of_length_le (Nat.le_of_lt hroom)]
      · rw [offer_of_new (by rwa [ih]) (by rwa [ih]), ih,
          List.take_of_length_le (by rw [List.length_append, List.length_singleton]; exact hroom)]
    · -- no room is left: later arrivals change neither side
      have hlen : capacity ≤ (offers xs : Ledger key capacity).items.length := by
        rw [ih, List.length_take]
        omega
      rw [offer_of_full hlen, ih]
      split_ifs with hx
      · rfl
      · rw [List.take_append_of_le_length hfull]

end Ledger

end TcpIp.Lib
