import TcpIp.Lib.OnesComplement

/-!
# The words of a byte string

* `wordAt`, `replaceWord` — the big-endian word at a position, and the string with another word there;
* `OnesEqual` — two words that are the same one's-complement number: equal, or the two zeros `0x0000` and `0xffff`;
* `UpToZero`, `zeroForOnes` — strings that differ in which zero is stored at a position;
* `Corruption` — one word, or the last byte of an odd number of bytes, stands for another number.  The sum of the words
  then is another number too (`Corruption.residue_ne`);
* `Noticeable` — a change of the bytes that a sum of all ones does not survive.
-/

namespace TcpIp.Lib

/-- The big-endian word at `i`. -/
def wordAt (data : Bytes) (i : ℕ) : UInt16 := u16FromBeBytes (byteAt data i) (byteAt data (i + 1))

/-- The bytes with the word `w` at `i`. -/
def replaceWord (data : Bytes) (i : ℕ) (w : UInt16) : Bytes := data.take i ++ u16ToBeBytes w ++ data.drop (i + 2)

section Positions

variable {data : Bytes} {i : ℕ}

lemma byteAt_append_length (xs ys : Bytes) (j : ℕ) : byteAt (xs ++ ys) (xs.length + j) = byteAt ys j := by
  unfold byteAt
  rw [List.getD_append_right _ _ _ _ (Nat.le_add_right _ _), Nat.add_sub_cancel_left]

lemma wordAt_append (h : i + 2 ≤ data.length) (pad : Bytes) : wordAt (data ++ pad) i = wordAt data i := by
  rw [wordAt, byteAt_append (by omega), byteAt_append (by omega), ← wordAt]

lemma wordAt_mid {pre : Bytes} (hpre : pre.length = i) (w : UInt16) (post : Bytes) :
    wordAt (pre ++ u16ToBeBytes w ++ post) i = w := by
  subst hpre
  have hfirst := byteAt_append_length pre (u16ToBeBytes w ++ post) 0
  have hsecond := byteAt_append_length pre (u16ToBeBytes w ++ post) 1
  rw [wordAt, List.append_assoc, hsecond]
  exact (congrArg (u16FromBeBytes · _) hfirst).trans (u16FromBeBytes_toBeBytes w)

lemma replaceWord_mid {pre : Bytes} (hpre : pre.length = i) (w w' : UInt16) (post : Bytes) :
    replaceWord (pre ++ u16ToBeBytes w ++ post) i w' = pre ++ u16ToBeBytes w' ++ post := by
  have hcut : (pre ++ u16ToBeBytes w).length = i + 2 := by
    rw [List.length_append, hpre, u16ToBeBytes_length]
  rw [replaceWord, List.drop_left' hcut, List.append_assoc pre, List.take_left' hpre]

lemma cut_word (h : i + 2 ≤ data.length) : ∃ pre post, pre.length = i ∧
    data = pre ++ u16ToBeBytes (wordAt data i) ++ post := by
  obtain ⟨pre, rest, rfl, hpre⟩ : ∃ pre rest, data = pre ++ rest ∧ pre.length = i :=
    ⟨data.take i, data.drop i, (List.take_append_drop i data).symm, List.length_take_of_le (by omega)⟩
  rw [List.length_append, hpre] at h
  match rest with
  | b0 :: b1 :: post =>
    subst hpre
    have hfirst : byteAt (pre ++ b0 :: b1 :: post) pre.length = b0 := byteAt_append_length pre (b0 :: b1 :: post) 0
    have hsecond : byteAt (pre ++ b0 :: b1 :: post) (pre.length + 1) = b1 :=
      byteAt_append_length pre (b0 :: b1 :: post) 1
    refine ⟨pre, post, rfl, ?_⟩
    rw [wordAt, hfirst, hsecond, u16ToBeBytes_fromBeBytes, List.append_assoc]
    rfl
  | [b] => simp at h
  | [] => simp at h

lemma replaceWord_length (h : i + 2 ≤ data.length) (w : UInt16) : (replaceWord data i w).length = data.length := by
  obtain ⟨pre, post, hpre, hdata⟩ := cut_word h
  rw [hdata, replaceWord_mid hpre]
  simp

end Positions

/-! ### The two zeros -/

/-- The words are the same one's-complement number. -/
def OnesEqual (a b : UInt16) : Prop := a = b ∨ (a = 0 ∧ b = 0xffff) ∨ (a = 0xffff ∧ b = 0)

/-- What was written, or the same with all ones for a zero in the word at `k`. -/
def UpToZero (k : ℕ) (written data : Bytes) : Prop :=
  data = written ∨ (wordAt written k = 0 ∧ data = replaceWord written k 0xffff)

/-- The bytes with zero in the word at `k` if that is all ones. -/
def zeroForOnes (k : ℕ) (data : Bytes) : Bytes := if wordAt data k = 0xffff then replaceWord data k 0 else data

section Zeros

variable {k : ℕ} {pre : Bytes} (hpre : pre.length = k) (c c' : UInt16) (post : Bytes)
include hpre

lemma upToZero_mid_iff : UpToZero k (pre ++ u16ToBeBytes c ++ post) (pre ++ u16ToBeBytes c' ++ post) ↔
    c' = c ∨ (c = 0 ∧ c' = 0xffff) := by
  have hword : ∀ w, pre ++ u16ToBeBytes c' ++ post = pre ++ u16ToBeBytes w ++ post ↔ c' = w := by
    intro w
    constructor
    · intro h
      rw [← wordAt_mid hpre c' post, h, wordAt_mid hpre]
    · rintro rfl
      rfl
  rw [UpToZero, wordAt_mid hpre, replaceWord_mid hpre, hword, hword]

lemma zeroForOnes_mid : zeroForOnes k (pre ++ u16ToBeBytes c ++ post) =
    pre ++ u16ToBeBytes (if c = 0xffff then 0 else c) ++ post := by
  rw [zeroForOnes, wordAt_mid hpre, replaceWord_mid hpre]
  split_ifs <;> rfl

end Zeros

/-- **Zero for all ones gives back what was written**, unless all ones were written. -/
theorem UpToZero.zeroForOnes_eq {k : ℕ} {written data : Bytes} (h : UpToZero k written data)
    (hin : k + 2 ≤ written.length) (hones : wordAt written k ≠ 0xffff) : zeroForOnes k data = written := by
  obtain ⟨pre, post, hpre, hwritten⟩ := cut_word hin
  rcases h with rfl | ⟨hzero, rfl⟩
  · rw [zeroForOnes, if_neg hones]
  · rw [hzero] at hwritten
    rw [hwritten, replaceWord_mid hpre, zeroForOnes_mid hpre, if_pos rfl]

/-! ### Corruption -/

/-- One word of the bytes, or the last byte of an odd number of bytes, is another number. -/
inductive Corruption (data : Bytes) : Bytes → Prop
  | word (i : ℕ) (w : UInt16) (heven : i % 2 = 0) (hin : i + 2 ≤ data.length)
      (hother : ¬OnesEqual (wordAt data i) w) : Corruption data (replaceWord data i w)
  | lastByte (pre : Bytes) (b b' : UInt8) (heven : pre.length % 2 = 0) (hdata : data = pre ++ [b])
      (hother : b ≠ b') : Corruption data (pre ++ [b'])

namespace Corruption

variable {data data' : Bytes}

lemma length_eq (h : Corruption data data') : data'.length = data.length := by
  cases h with
  | word i w heven hin hother => exact replaceWord_length hin w
  | lastByte pre b b' heven hdata hother => rw [hdata, List.length_append, List.length_append]; rfl

lemma wordSum (h : Corruption data data') : ∃ rest a b, Lib.wordSum data = rest + a ∧ Lib.wordSum data' = rest + b ∧
    a ≤ 65535 ∧ b ≤ 65535 ∧ ¬(a = b ∨ (a = 0 ∧ b = 65535) ∨ (a = 65535 ∧ b = 0)) := by
  cases h with
  | word i w heven hin hother =>
    obtain ⟨pre, post, hpre, hdata⟩ := cut_word hin
    generalize wordAt data i = old at hdata hother
    have hsum := wordSum_mid (hpre.symm ▸ heven : pre.length % 2 = 0)
    refine ⟨Lib.wordSum (pre ++ u16ToBeBytes 0 ++ post), old.toNat, w.toNat, ?_, ?_, ?_, ?_, ?_⟩
    · rw [hdata, hsum]
    · rw [hdata, replaceWord_mid hpre, hsum]
    · exact Nat.le_of_lt_succ old.toNat_lt
    · exact Nat.le_of_lt_succ w.toNat_lt
    · intro hsame
      simp only [← UInt16.toNat_inj, OnesEqual] at hother
      exact hother hsame
  | lastByte pre b b' heven hdata hother =>
    have hb := b.toNat_lt
    have hb' := b'.toNat_lt
    rw [ne_eq, ← UInt8.toNat_inj] at hother
    refine ⟨Lib.wordSum pre, 256 * b.toNat, 256 * b'.toNat, ?_, ?_, ?_, ?_, ?_⟩
    · rw [hdata, wordSum_append _ heven]
      rfl
    · rw [wordSum_append _ heven]
      rfl
    all_goals omega

/-- **A corruption does not keep a sum at all ones**, whatever else is in the sum. -/
theorem residue_ne (h : Corruption data data') (n : ℕ) (hsum : residue 65535 (n + Lib.wordSum data) = 65535) :
    residue 65535 (n + Lib.wordSum data') ≠ 65535 := by
  obtain ⟨rest, a, b, ha, hb, hale, hble, hother⟩ := h.wordSum
  rw [ha, ← Nat.add_assoc] at hsum
  rw [hb, ← Nat.add_assoc]
  exact fun hsum' => hother (eq_of_residue_add (by omega) hale hble hsum hsum')

end Corruption

/-- **What the sum of the words notices**, whatever else is in the sum. -/
structure Noticeable (data data' : Bytes) : Prop where
  length_eq : data'.length = data.length
  residue_ne : ∀ n, residue 65535 (n + wordSum data) = 65535 → residue 65535 (n + wordSum data') ≠ 65535

lemma Corruption.noticeable {data data' : Bytes} (h : Corruption data data') : Noticeable data data' :=
  ⟨h.length_eq, h.residue_ne⟩

end TcpIp.Lib
