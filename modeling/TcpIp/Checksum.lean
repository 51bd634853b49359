import TcpIp.Lib.Words

/-!
# `checksum.rs`: the Internet checksum

* `checksum` — the function of the source, with its 32-bit accumulator and its final folding loop;
* `internetChecksum` — what it is for: the complement of the one's-complement sum of the words;
* `checksum_eq` — on every input the function ends, does not overflow and computes `internetChecksum`.

`checksum_exact` says the same in plain numbers, with what follows for the order of the words and for a checksum that is
stored in the data.  A message that carries its checksum at an even offset has checksum zero
(`internetChecksum_stored`), with no other word in that place but the other zero (`internetChecksum_stored_iff`); and no
longer after a change that the sum notices (`internetChecksum_corrupted_part`).
-/

namespace TcpIp.Checksum

open TcpIp.Lib

variable {ε : Type}

/-- The loop over `data.chunks_exact(2)` and, at the end, its remainder. -/
def sumChunks : ℕ → Bytes → Outcome ε ℕ
  | sum, b0 :: b1 :: rest => do
    let sum ← addU32 sum (u16FromBeBytes b0 b1).toNat
    let sum ← addU32 (sum &&& 0xffff) (sum >>> 16)
    sumChunks sum rest
  | sum, [byte] => addU32 sum (byte.toNat <<< 8)
  | sum, [] => .ok sum

/-- `while (sum >> 16) != 0`; the bound on the number of turns is the first argument. -/
def foldCarries : ℕ → ℕ → Outcome ε ℕ
  | 0, _ => .panic .outOfFuel
  | fuel + 1, sum =>
    if sum >>> 16 ≠ 0 then do
      let sum ← addU32 (sum &&& 0xffff) (sum >>> 16)
      foldCarries fuel sum
    else .ok sum

/-- `checksum`. -/
def checksum (data : Bytes) : Outcome ε UInt16 := do
  let sum ← sumChunks 0 data
  let sum ← foldCarries (sum + 1) sum
  return ~~~UInt16.ofNat sum

/-- The complement of the one's-complement sum of the words of `data`. -/
def internetChecksum (data : Bytes) : UInt16 := UInt16.ofNat (65535 - residue 65535 (wordSum data))

/-! ### The function computes the checksum -/

lemma and_ffff (n : ℕ) : n &&& 0xffff = n % 65536 := Nat.and_two_pow_sub_one_eq_mod n 16

lemma shiftRight_16 (n : ℕ) : n >>> 16 = n / 65536 := Nat.shiftRight_eq_div_pow n 16

/-- The accumulator stays below `2 ^ 17` and keeps the residue of what has been added. -/
lemma sumChunks_spec : ∀ (sum : ℕ) (data : Bytes), sum ≤ 65535 →
    ∃ r < 2 ^ 17, (sumChunks sum data : Outcome ε ℕ) = .ok r ∧
      residue 65535 r = residue 65535 (sum + wordSum data)
  | sum, [], h => ⟨sum, by omega, rfl, by simp [wordSum]⟩
  | sum, [b], h => by
    have hb := b.toNat_lt
    have hshift : b.toNat <<< 8 = 256 * b.toNat := by rw [Nat.shiftLeft_eq]; omega
    refine ⟨sum + 256 * b.toNat, by omega, ?_, by simp [wordSum]⟩
    rw [sumChunks, hshift, addU32_of_le (by omega)]
  | sum, b0 :: b1 :: rest, h => by
    have hw := (u16FromBeBytes b0 b1).toNat_lt
    set w := (u16FromBeBytes b0 b1).toNat with hwdef
    -- one turn: add the word, fold the carry
    have hfold : residue 65535 ((sum + w) % 65536 + (sum + w) / 65536) = residue 65535 (sum + w) :=
      residue_fold (sum + w)
    obtain ⟨r, hr, hrun, hres⟩ := sumChunks_spec ((sum + w) % 65536 + (sum + w) / 65536) rest (by omega)
    refine ⟨r, hr, ?_, ?_⟩
    · rw [sumChunks, ← hwdef, addU32_of_le (by omega), Outcome.ok_bind, and_ffff, shiftRight_16,
        addU32_of_le (by omega), Outcome.ok_bind, hrun]
    · rw [hres, wordSum, ← hwdef, ← residue_add, hfold, residue_add, Nat.add_assoc]

lemma foldCarries_spec : ∀ (fuel sum : ℕ), sum < fuel → sum < 2 ^ 32 →
    (foldCarries fuel sum : Outcome ε ℕ) = .ok (residue 65535 sum)
  | 0, _, h, _ => by omega
  | fuel + 1, sum, h, h32 => by
    rw [foldCarries, shiftRight_16, and_ffff]
    by_cases hs : sum / 65536 = 0
    · rw [if_neg (by simpa using hs), residue_of_le (by omega)]
    · rw [if_pos hs, addU32_of_le (by omega), Outcome.ok_bind,
        foldCarries_spec fuel _ (by omega) (by omega), show 65536 = 65535 + 1 from rfl, residue_fold]

/-- **The source computes the Internet checksum**, on data of every length and without overflow. -/
theorem checksum_eq (data : Bytes) : (checksum data : Outcome ε UInt16) = .ok (internetChecksum data) := by
  obtain ⟨r, hr, hrun, hres⟩ := sumChunks_spec (ε := ε) 0 data (by omega)
  have hle := residue_le (m := 65535) (by omega) (wordSum data)
  rw [checksum, hrun, Outcome.ok_bind, foldCarries_spec _ _ (by omega) (by omega), Outcome.ok_bind, hres,
    Nat.zero_add, Outcome.pure_eq, internetChecksum]
  congr 1
  rw [← UInt16.toNat_inj, UInt16.toNat_not, UInt16.toNat_ofNat', UInt16.toNat_ofNat']
  simp only [UInt16.size]
  omega

/-! ### Checksums that are carried along -/

lemma internetChecksum_toNat (data : Bytes) :
    (internetChecksum data).toNat = 65535 - residue 65535 (wordSum data) := by
  rw [internetChecksum, UInt16.toNat_ofNat', Nat.mod_eq_of_lt (by omega)]

lemma internetChecksum_eq_zero_iff (data : Bytes) :
    internetChecksum data = 0 ↔ residue 65535 (wordSum data) = 65535 := by
  have hle := residue_le (m := 65535) (by omega) (wordSum data)
  rw [← UInt16.toNat_inj, internetChecksum_toNat]
  simp only [UInt16.toNat_zero]
  omega

lemma internetChecksum_ne_ones {data : Bytes} (h : 0 < wordSum data) : internetChecksum data ≠ 0xffff := by
  have hpos := residue_pos (m := 65535) h
  have hones : (0xffff : UInt16).toNat = 65535 := rfl
  rw [ne_eq, ← UInt16.toNat_inj, internetChecksum_toNat, hones]
  omega

section Stored

variable {pre : Bytes} (hpre : pre.length % 2 = 0) (post : Bytes)
include hpre

/-- **What a stored checksum can be**: the checksum, or all ones for a checksum of zero. -/
theorem internetChecksum_stored_iff (c : UInt16) : internetChecksum (pre ++ u16ToBeBytes c ++ post) = 0 ↔
    c = internetChecksum (pre ++ u16ToBeBytes 0 ++ post) ∨
      (internetChecksum (pre ++ u16ToBeBytes 0 ++ post) = 0 ∧ c = 0xffff) := by
  have hones : (0xffff : UInt16).toNat = 65535 := rfl
  rw [internetChecksum_eq_zero_iff, wordSum_mid hpre,
    residue_add_eq_iff (by omega) _ (Nat.le_of_lt_succ c.toNat_lt), internetChecksum_eq_zero_iff,
    ← UInt16.toNat_inj (a := c), ← UInt16.toNat_inj (a := c), internetChecksum_toNat, hones,
    and_comm (a := c.toNat = _)]

/-- **Data that carries its checksum has checksum zero.** -/
theorem internetChecksum_stored :
    internetChecksum (pre ++ u16ToBeBytes (internetChecksum (pre ++ u16ToBeBytes 0 ++ post)) ++ post) = 0 :=
  (internetChecksum_stored_iff hpre post _).2 (Or.inl rfl)

end Stored

lemma internetChecksum_replaceWord {data : Bytes} {i : ℕ} (heven : i % 2 = 0) (hin : i + 2 ≤ data.length) :
    internetChecksum (replaceWord (replaceWord data i 0) i (internetChecksum (replaceWord data i 0))) = 0 := by
  obtain ⟨pre, post, hpre, hdata⟩ := cut_word hin
  rw [hdata, replaceWord_mid hpre, replaceWord_mid hpre]
  subst hpre
  exact internetChecksum_stored heven post

/-- **The checksum on unbounded numbers.**  The function ends without overflow on data of every length.  It is zero
exactly if the sum of the words is a positive multiple of `65535`, does not depend on the order of the full words, and
stored in a word that was zero it makes the checksum of the whole zero. -/
theorem checksum_exact (data : Bytes) :
    (∃ value, (checksum data : Outcome ε UInt16) = .ok value ∧
      value.toNat = if wordSum data = 0 then 65535 else 65535 - ((wordSum data - 1) % 65535 + 1)) ∧
    ((checksum data : Outcome ε UInt16) = .ok 0 ↔ 0 < wordSum data ∧ 65535 ∣ wordSum data) ∧
    (∀ data', (words data).Perm (words data') → remainder data = remainder data' →
      (checksum data : Outcome ε UInt16) = checksum data') ∧
    ∀ i, i % 2 = 0 → i + 2 ≤ data.length → ∃ value,
      (checksum (replaceWord data i 0) : Outcome ε UInt16) = .ok value ∧
        (checksum (replaceWord (replaceWord data i 0) i value) : Outcome ε UInt16) = .ok 0 := by
  refine ⟨⟨internetChecksum data, checksum_eq data, ?_⟩, ?_, ?_, ?_⟩
  · rw [internetChecksum_toNat, residue]
    split_ifs <;> rfl
  · rw [checksum_eq, Outcome.ok.injEq, internetChecksum_eq_zero_iff]
    exact residue_eq_iff (by omega) (wordSum data)
  · intro data' hwords hremainder
    rw [checksum_eq, checksum_eq, internetChecksum, internetChecksum, wordSum_perm hwords hremainder]
  · intro i heven hin
    refine ⟨internetChecksum (replaceWord data i 0), checksum_eq _, ?_⟩
    rw [checksum_eq, internetChecksum_replaceWord heven hin]

lemma internetChecksum_parts_iff {pre data : Bytes} (hpre : pre.length % 2 = 0) {post : Bytes}
    (hdata : post = [] ∨ data.length % 2 = 0) : internetChecksum (pre ++ data ++ post) = 0 ↔
      residue 65535 (wordSum pre + wordSum post + wordSum data) = 65535 := by
  have hsum : wordSum (pre ++ data ++ post) = wordSum pre + wordSum post + wordSum data := by
    rcases hdata with rfl | heven
    · rw [List.append_nil, wordSum_append _ hpre]
      rfl
    · rw [wordSum_append _ (by rw [List.length_append]; omega), wordSum_append _ hpre]
      omega
  rw [internetChecksum_eq_zero_iff, hsum]

/-- **Bytes with checksum zero have another checksum after a noticeable change** of some part of them. -/
theorem internetChecksum_corrupted_part {pre data data' post : Bytes} (hpre : pre.length % 2 = 0)
    (hdata : post = [] ∨ data.length % 2 = 0) (hcorrupt : Noticeable data data')
    (h : internetChecksum (pre ++ data ++ post) = 0) : internetChecksum (pre ++ data' ++ post) ≠ 0 := by
  have hdata' : post = [] ∨ data'.length % 2 = 0 := by rwa [hcorrupt.length_eq]
  rw [internetChecksum_parts_iff hpre hdata] at h
  rw [ne_eq, internetChecksum_parts_iff hpre hdata']
  exact hcorrupt.residue_ne _ h

lemma internetChecksum_corrupted {data data' : Bytes} (hcorrupt : Noticeable data data')
    (h : internetChecksum data = 0) : internetChecksum data' ≠ 0 := by
  have hpart := @internetChecksum_corrupted_part [] data data' [] rfl (Or.inl rfl) hcorrupt
  rw [List.append_nil, List.append_nil] at hpart
  exact hpart h

example : (checksum [0x01, 0x02, 0x03] : Outcome Unit UInt16) = .ok 0xfbfd := by decide +kernel

end TcpIp.Checksum
