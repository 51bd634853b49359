import Mathlib.Tactic.Ring
import TcpIp.Lib.Bytes

/-!
# One's-complement sums

The arithmetic behind the Internet checksum, on unbounded numbers.

* `residue m n` — what end-around addition with all ones `m` leaves of the number `n`: `n` modulo `m` with
  representatives `1, …, m`, and `0` for `0` alone.  Folding the carries once (`residue_fold`) or adding in two
  steps (`residue_add`) does not change it, and `residue_add_eq_iff` is the reason why data that carries its own
  checksum sums to all ones, and data that carries another one does not;
* `wordSum data` — the sum of the big-endian 16-bit words of `data`, a last odd byte being the high byte of a word;
* `words`, `remainder` — the full words and the odd byte behind them.  The order of the words does not matter to the
  sum (`wordSum_perm`).
-/

namespace TcpIp.Lib

/-! ### End-around addition -/

section Residue

variable {m : ℕ}

/-- `n` modulo `m` with the representatives `1, …, m`; only `0` has residue `0`. -/
def residue (m n : ℕ) : ℕ := if n = 0 then 0 else (n - 1) % m + 1

@[simp] lemma residue_zero (m : ℕ) : residue m 0 = 0 := rfl

lemma residue_of_pos {n : ℕ} (hn : 0 < n) : residue m n = (n - 1) % m + 1 := if_neg (by omega)

lemma residue_le (hm : 0 < m) (n : ℕ) : residue m n ≤ m := by
  unfold residue
  split
  · omega
  · exact Nat.mod_lt _ hm

lemma residue_pos {n : ℕ} (hn : 0 < n) : 0 < residue m n := by
  rw [residue_of_pos hn]; omega

lemma residue_of_le {n : ℕ} (h : n ≤ m) : residue m n = n := by
  rcases Nat.eq_zero_or_pos n with rfl | hn
  · rfl
  · rw [residue_of_pos hn, Nat.mod_eq_of_lt (by omega)]
    omega

lemma residue_add_mul {n : ℕ} (hn : 0 < n) (k : ℕ) : residue m (n + m * k) = residue m n := by
  have h : n + m * k - 1 = n - 1 + m * k := by omega
  rw [residue_of_pos (by omega), residue_of_pos hn, h, Nat.add_mul_mod_self_left]

/-- **Folding the carries once.** -/
lemma residue_fold (n : ℕ) : residue m (n % (m + 1) + n / (m + 1)) = residue m n := by
  rcases Nat.eq_zero_or_pos n with rfl | hn
  · simp
  · have hdiv : n % (m + 1) + (m + 1) * (n / (m + 1)) = n := Nat.mod_add_div n (m + 1)
    generalize n % (m + 1) = r at hdiv ⊢
    generalize n / (m + 1) = q at hdiv ⊢
    have hsum : n = r + q + m * q := by rw [← hdiv]; ring
    have hpos : 0 < r + q := by
      by_contra h
      obtain ⟨rfl, rfl⟩ : r = 0 ∧ q = 0 := by omega
      simp at hdiv
      omega
    rw [hsum, residue_add_mul hpos]

lemma residue_add (a b : ℕ) : residue m (residue m a + b) = residue m (a + b) := by
  rcases Nat.eq_zero_or_pos a with rfl | ha
  · simp
  · have hdiv := Nat.mod_add_div (a - 1) m
    have hsum : a + b = residue m a + b + m * ((a - 1) / m) := by
      rw [residue_of_pos ha]; omega
    have hpos := residue_pos (m := m) ha
    rw [hsum, residue_add_mul (by omega)]

/-- **What has to be added for all ones**: the complement, or all ones once more. -/
lemma residue_add_eq_iff (hm : 0 < m) (n : ℕ) {w : ℕ} (hw : w ≤ m) :
    residue m (n + w) = m ↔ w = m - residue m n ∨ (w = m ∧ residue m n = m) := by
  have hle := residue_le hm n
  rw [← residue_add]
  generalize residue m n = r at hle
  by_cases hfits : r + w ≤ m
  · rw [residue_of_le hfits]
    omega
  · have hover : r + w = (r + w - m) + m * 1 := by omega
    rw [hover, residue_add_mul (by omega), residue_of_le (by omega)]
    omega

/-- **A sum of all ones determines each of its parts**, but for the two zeros. -/
lemma eq_of_residue_add (hm : 0 < m) {n a b : ℕ} (ha : a ≤ m) (hb : b ≤ m) (h : residue m (n + a) = m)
    (h' : residue m (n + b) = m) : a = b ∨ (a = 0 ∧ b = m) ∨ (a = m ∧ b = 0) := by
  rw [residue_add_eq_iff hm n ha] at h
  rw [residue_add_eq_iff hm n hb] at h'
  omega

lemma residue_eq_iff (hm : 0 < m) (n : ℕ) : residue m n = m ↔ 0 < n ∧ m ∣ n := by
  rcases Nat.eq_zero_or_pos n with rfl | hn
  · simp only [residue_zero, Nat.lt_irrefl, false_and, iff_false]
    omega
  · have hlt := Nat.mod_lt (n - 1) hm
    have hdiv := Nat.mod_add_div (n - 1) m
    rw [residue_of_pos hn]
    constructor
    · intro hall
      refine ⟨hn, (n - 1) / m + 1, ?_⟩
      rw [Nat.mul_add]
      omega
    · rintro ⟨-, k, rfl⟩
      obtain ⟨j, rfl⟩ := Nat.exists_eq_succ_of_ne_zero (Nat.pos_iff_ne_zero.1 (Nat.pos_of_mul_pos_left hn))
      have hpred : m * (j + 1) - 1 = m - 1 + m * j := by
        rw [Nat.mul_add]
        omega
      rw [hpred, Nat.add_mul_mod_self_left, Nat.mod_eq_of_lt (by omega)]
      omega

end Residue

/-! ### Sums of words -/

/-- The sum of the big-endian words of `data`; a last odd byte is the high byte of a word. -/
def wordSum : Bytes → ℕ
  | b0 :: b1 :: rest => (u16FromBeBytes b0 b1).toNat + wordSum rest
  | [b] => 256 * b.toNat
  | [] => 0

/-- The full words of `data`. -/
def words : Bytes → List UInt16
  | b0 :: b1 :: rest => u16FromBeBytes b0 b1 :: words rest
  | [_] => []
  | [] => []

/-- The byte behind the full words, if there is one. -/
def remainder : Bytes → Bytes
  | _ :: _ :: rest => remainder rest
  | [b] => [b]
  | [] => []

lemma wordSum_eq (data : Bytes) : wordSum data = ((words data).map UInt16.toNat).sum + wordSum (remainder data) := by
  induction data using words.induct with
  | case1 b0 b1 rest ih =>
    rw [wordSum, words, remainder, List.map_cons, List.sum_cons, Nat.add_assoc, ← ih]
  | case2 b => simp [words, remainder]
  | case3 => simp [words, remainder]

/-- **The words can be added in any order.** -/
lemma wordSum_perm {data data' : Bytes} (hwords : (words data).Perm (words data'))
    (hremainder : remainder data = remainder data') : wordSum data = wordSum data' := by
  have hsum := (hwords.map UInt16.toNat).sum_nat
  rw [wordSum_eq data, wordSum_eq data', hsum, hremainder]

lemma wordSum_append (ys : Bytes) : ∀ {xs : Bytes}, xs.length % 2 = 0 →
    wordSum (xs ++ ys) = wordSum xs + wordSum ys
  | [], _ => by simp [wordSum]
  | [_], h => by simp at h
  | b0 :: b1 :: rest, h => by
    have hrest : rest.length % 2 = 0 := by simp only [List.length_cons] at h; omega
    simp only [List.cons_append, wordSum, wordSum_append ys hrest, Nat.add_assoc]

lemma wordSum_u16ToBeBytes (x : UInt16) : wordSum (u16ToBeBytes x) = x.toNat := by
  simp [wordSum, u16ToBeBytes]

/-- A word at an even position adds its value to the sum of the rest. -/
lemma wordSum_mid {pre : Bytes} (hpre : pre.length % 2 = 0) (x : UInt16) (post : Bytes) :
    wordSum (pre ++ u16ToBeBytes x ++ post) = wordSum (pre ++ u16ToBeBytes 0 ++ post) + x.toNat := by
  have hlen : ∀ y, (pre ++ u16ToBeBytes y).length % 2 = 0 := fun y => by simp [hpre]
  simp only [wordSum_append _ (hlen _), wordSum_append _ hpre, wordSum_u16ToBeBytes]
  have h0 : (0 : UInt16).toNat = 0 := rfl
  omega

end TcpIp.Lib
