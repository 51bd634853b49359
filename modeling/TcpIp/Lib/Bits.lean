import Mathlib.Data.Nat.Digits.Defs
import Mathlib.Data.Nat.ModEq
import Mathlib.Tactic.NormNum
import TcpIp.Lib.Words

/-!
# The bits of a byte string

* `bitsOf`, `number` — the bits of a byte string, and the number that bits stand for, the first one counting most;
* `wordSum_modEq` — the sum of the words is this number, up to a power of two and the multiples of `65535`;
* `Burst` — at most sixteen bits in a row are others.  Powers of two have inverses modulo `65535`, so the sum notices a
  burst wherever it begins (`Burst.noticeable`).
-/

namespace TcpIp.Lib

/-- The bits of a byte, the first one counting most. -/
def bitsOfByte (b : UInt8) : List Bool := [7, 6, 5, 4, 3, 2, 1, 0].map b.toNat.testBit

def bitsOf (data : Bytes) : List Bool := data.flatMap bitsOfByte

/-- The number with these binary digits. -/
def number (bits : List Bool) : ℕ := Nat.ofDigits 2 (bits.reverse.map Bool.toNat)

lemma bitsOf_length (data : Bytes) : (bitsOf data).length = 8 * data.length := by
  induction data with
  | nil => rfl
  | cons b rest ih =>
    rw [bitsOf, List.flatMap_cons, List.length_append, ← bitsOf, ih, List.length_cons]
    show 8 + _ = _
    omega

section Number

variable (xs ys : List Bool)

lemma number_append : number (xs ++ ys) = 2 ^ ys.length * number xs + number ys := by
  rw [number, List.reverse_append, List.map_append, Nat.ofDigits_append, List.length_map, List.length_reverse,
    Nat.add_comm]
  rfl

lemma bit_lt {xs : List Bool} : ∀ bit ∈ xs.reverse.map Bool.toNat, bit < 2 := by
  intro bit hbit
  obtain ⟨b, -, rfl⟩ := List.mem_map.1 hbit
  exact b.toNat_lt

lemma number_lt : number xs < 2 ^ xs.length := by
  have hlt := Nat.ofDigits_lt_base_pow_length (b := 2) (by decide) (@bit_lt xs)
  rwa [List.length_map, List.length_reverse] at hlt

variable {xs ys}

lemma number_inj (hlength : xs.length = ys.length) (h : number xs = number ys) : xs = ys := by
  have hdigits := Nat.ofDigits_inj_of_len_eq (b := 2) (by decide) (by simpa using hlength) bit_lt bit_lt h
  have hbit : Function.Injective Bool.toNat := by
    rintro (_ | _) (_ | _) <;> decide
  exact List.reverse_injective (List.map_injective_iff.2 hbit hdigits)

end Number

lemma number_bitsOfByte (b : UInt8) : number (bitsOfByte b) = b.toNat := by
  have hall : ∀ n < 256, number ([7, 6, 5, 4, 3, 2, 1, 0].map (Nat.testBit n)) = n := by decide +kernel
  exact hall b.toNat b.toNat_lt

lemma number_bitsOf_cons (b : UInt8) (rest : Bytes) :
    number (bitsOf (b :: rest)) = 2 ^ (8 * rest.length) * b.toNat + number (bitsOf rest) := by
  rw [bitsOf, List.flatMap_cons, ← bitsOf, number_append, bitsOf_length, number_bitsOfByte]

lemma number_bitsOf_singleton (b : UInt8) : number (bitsOf [b]) = b.toNat := by
  rw [number_bitsOf_cons]
  simp [bitsOf, number]

lemma two_pow_modEq (n : ℕ) : 2 ^ (16 * n) ≡ 1 [MOD 65535] := by
  have hone : 2 ^ 16 ≡ 1 [MOD 65535] := rfl
  simpa [pow_mul] using hone.pow n

/-- **The sum of the words is the number that the bits stand for**, at another place. -/
theorem wordSum_modEq (data : Bytes) :
    wordSum data ≡ 2 ^ (8 * data.length) * number (bitsOf data) [MOD 65535] := by
  induction data using words.induct with
  | case1 b0 b1 rest ih =>
    have hplaces := two_pow_modEq (rest.length + 1)
    have hnumber : number (bitsOf (b0 :: b1 :: rest)) =
        2 ^ (8 * rest.length) * (u16FromBeBytes b0 b1).toNat + number (bitsOf rest) := by
      rw [number_bitsOf_cons, number_bitsOf_cons, u16FromBeBytes_toNat, List.length_cons]
      ring
    have hpower : 2 ^ (8 * (b0 :: b1 :: rest).length) * number (bitsOf (b0 :: b1 :: rest)) =
        2 ^ (16 * (rest.length + 1)) * (u16FromBeBytes b0 b1).toNat +
          2 ^ (16 * 1) * (2 ^ (8 * rest.length) * number (bitsOf rest)) := by
      rw [hnumber, List.length_cons, List.length_cons]
      ring
    rw [hpower, wordSum]
    simpa using ((hplaces.mul_right _).add ((two_pow_modEq 1).mul ih.symm)).symm
  | case2 b =>
    rw [number_bitsOf_singleton]
    rfl
  | case3 => rfl

/-! ### Bursts -/

/-- Sixteen zeros against sixteen ones: the two zeros of one's-complement numbers. -/
def Zeros (window window' : List Bool) : Prop :=
  window = List.replicate 16 false ∧ window' = List.replicate 16 true

/-- At most sixteen bits in a row are others, and not sixteen ones for sixteen zeros or the other way. -/
inductive Burst (data data' : Bytes) : Prop
  | mk (before window window' after : List Bool) (hdata : bitsOf data = before ++ window ++ after)
      (hdata' : bitsOf data' = before ++ window' ++ after) (hlength : window'.length = window.length)
      (hshort : window.length ≤ 16) (hother : window ≠ window')
      (hzeros : ¬(Zeros window window' ∨ Zeros window' window))

/-- **A window of at most sixteen bits is its number modulo `65535`**, but for the two zeros. -/
lemma eq_or_zeros_of_modEq {window window' : List Bool} (hlength : window'.length = window.length)
    (hshort : window.length ≤ 16) (h : number window ≡ number window' [MOD 65535]) :
    window = window' ∨ Zeros window window' ∨ Zeros window' window := by
  have hpower : 2 ^ window.length ≤ 2 ^ 16 := Nat.pow_le_pow_right (by decide) hshort
  have hlt := number_lt window
  have hlt' := number_lt window'
  rw [hlength] at hlt'
  have hzero : number (List.replicate 16 false) = 0 := by decide
  have hones : number (List.replicate 16 true) = 65535 := by decide
  rw [Nat.ModEq] at h
  by_cases heq : number window = number window'
  · exact Or.inl (number_inj hlength.symm heq)
  · -- one is zero and the other all ones, which takes sixteen bits
    have hends : number window = 0 ∧ number window' = 65535 ∨ number window = 65535 ∧ number window' = 0 := by omega
    have hfull : window.length = 16 := by
      by_contra hne
      have hpower' : 2 ^ window.length ≤ 2 ^ 15 := Nat.pow_le_pow_right (by decide) (by omega)
      omega
    rcases hends with ⟨hw, hw'⟩ | ⟨hw, hw'⟩
    · exact Or.inr (Or.inl ⟨number_inj hfull (hw.trans hzero.symm),
        number_inj (hlength.trans hfull) (hw'.trans hones.symm)⟩)
    · exact Or.inr (Or.inr ⟨number_inj (hlength.trans hfull) (hw'.trans hzero.symm),
        number_inj hfull (hw.trans hones.symm)⟩)

namespace Burst

variable {data data' : Bytes}

lemma length_eq (h : Burst data data') : data'.length = data.length := by
  obtain ⟨before, window, window', after, hdata, hdata', hlength, -, -, -⟩ := h
  have hbits := congrArg List.length hdata
  have hbits' := congrArg List.length hdata'
  simp only [bitsOf_length, List.length_append, hlength] at hbits hbits'
  omega

/-- **A burst is noticed**, wherever it begins: a power of two has an inverse modulo `65535`. -/
theorem noticeable (h : Burst data data') : Noticeable data data' where
  length_eq := h.length_eq
  residue_ne := by
    intro n hsum hsum'
    have hlen := h.length_eq
    obtain ⟨before, window, window', after, hdata, hdata', hlength, hshort, hother, hzeros⟩ := h
    rw [residue_eq_iff (by decide)] at hsum hsum'
    have hsame : n + wordSum data ≡ n + wordSum data' [MOD 65535] :=
      (Nat.modEq_zero_iff_dvd.2 hsum.2).trans (Nat.modEq_zero_iff_dvd.2 hsum'.2).symm
    have hwords := (wordSum_modEq data).symm.trans ((Nat.ModEq.add_left_cancel' n hsame).trans (wordSum_modEq data'))
    rw [hlen, hdata, hdata', number_append, number_append, number_append, number_append, hlength] at hwords
    have hcoprime (k : ℕ) : Nat.Coprime 65535 (2 ^ k) := Nat.Coprime.pow_right k (by decide)
    have hplaced := Nat.ModEq.add_right_cancel' _ (Nat.ModEq.cancel_left_of_coprime (hcoprime _) hwords)
    have hnumbers := Nat.ModEq.add_left_cancel' _ (Nat.ModEq.cancel_left_of_coprime (hcoprime _) hplaced)
    exact (eq_or_zeros_of_modEq hlength hshort hnumbers).elim hother hzeros

end Burst

/-- Sixteen ones for sixteen zeros are not noticed. -/
example : residue 65535 (wordSum [0xff, 0x00, 0x00, 0x01]) = residue 65535 (wordSum [0xff, 0xff, 0xff, 0x01]) := by
  decide

end TcpIp.Lib
