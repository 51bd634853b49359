import Mathlib.Data.List.Basic
import Mathlib.Data.Nat.Bitwise
import TcpIp.Lib.Exec

/-!
# Byte slices and big-endian words

* reading a slice: `index` (`data[i]`), `slice`, `sliceFrom`, `sliceTo` (`data[a..b]`, `data[a..]`, `data[..b]`),
  which panic out of range, and `splitAtChecked`, `getTo`, which do not;
* writing a buffer: `setIndex`, `copyFromSlice`, `fill`, calls on a `Bytes` that is mutated in place.  The lemmas
  `setIndex_bind`, `copyFromSlice_bind`, `fill_bind`, `copyFromSlice_patch` say what they do to a buffer that is cut
  into pieces; a writer is a chain of them;
* the two-byte and four-byte big-endian words.
-/

namespace TcpIp.Lib

/-- A byte slice. -/
abbrev Bytes := List UInt8

variable {ε : Type}

/-! ### Reading -/

/-- The byte at `i`, and `0` past the end. -/
def byteAt (data : Bytes) (i : ℕ) : UInt8 := data.getD i 0

/-- `data[i]`. -/
def index (data : Bytes) (i : ℕ) : Outcome ε UInt8 :=
  if i < data.length then .ok (byteAt data i) else .panic .indexOutOfBounds

/-- `&data[a..b]`. -/
def slice (data : Bytes) (a b : ℕ) : Outcome ε Bytes :=
  if b < a then .panic .sliceOrder
  else if data.length < b then .panic .sliceOutOfBounds
  else .ok ((data.take b).drop a)

/-- `&data[a..]`. -/
def sliceFrom (data : Bytes) (a : ℕ) : Outcome ε Bytes :=
  if data.length < a then .panic .sliceOutOfBounds else .ok (data.drop a)

/-- `&data[..b]`. -/
def sliceTo (data : Bytes) (b : ℕ) : Outcome ε Bytes :=
  if data.length < b then .panic .sliceOutOfBounds else .ok (data.take b)

/-- `data.split_at_checked(n)`. -/
def splitAtChecked (data : Bytes) (n : ℕ) : Option (Bytes × Bytes) :=
  if n ≤ data.length then some (data.take n, data.drop n) else none

/-- `data.get(..n)`. -/
def getTo (data : Bytes) (n : ℕ) : Option Bytes :=
  if n ≤ data.length then some (data.take n) else none

lemma index_of_lt {data : Bytes} {i : ℕ} (h : i < data.length) :
    (index data i : Outcome ε UInt8) = .ok (byteAt data i) := if_pos h

lemma byteAt_append {data : Bytes} {i : ℕ} (h : i < data.length) (pad : Bytes) :
    byteAt (data ++ pad) i = byteAt data i := List.getD_append _ _ _ _ h

lemma take_eq_map_byteAt {data : Bytes} {n : ℕ} (h : n ≤ data.length) :
    data.take n = (List.range n).map (byteAt data) := by
  refine List.ext_getElem (by simp [h]) fun i hi _ => ?_
  have hlt : i < data.length := hi.trans_le (List.length_take_le' n data)
  rw [List.getElem_take, List.getElem_map, List.getElem_range]
  exact (List.getD_eq_getElem data 0 hlt).symm

lemma slice_of_le {data : Bytes} {a b : ℕ} (hab : a ≤ b) (hb : b ≤ data.length) :
    (slice data a b : Outcome ε Bytes) = .ok ((data.take b).drop a) := by
  rw [slice, if_neg (by omega), if_neg (by omega)]

lemma sliceFrom_of_le {data : Bytes} {a : ℕ} (h : a ≤ data.length) :
    (sliceFrom data a : Outcome ε Bytes) = .ok (data.drop a) := if_neg (by omega)

lemma sliceTo_of_le {data : Bytes} {b : ℕ} (h : b ≤ data.length) :
    (sliceTo data b : Outcome ε Bytes) = .ok (data.take b) := if_neg (by omega)

lemma splitAtChecked_append {xs ys : Bytes} {n : ℕ} (h : xs.length = n) :
    splitAtChecked (xs ++ ys) n = some (xs, ys) := by
  subst h
  simp [splitAtChecked]

lemma splitAtChecked_eq_some {data xs ys : Bytes} {n : ℕ} (h : splitAtChecked data n = some (xs, ys)) :
    data = xs ++ ys := by
  unfold splitAtChecked at h
  split_ifs at h
  obtain ⟨rfl, rfl⟩ : data.take n = xs ∧ data.drop n = ys := by simpa using h
  exact (List.take_append_drop n data).symm

lemma sliceTo_append {xs ys : Bytes} {n : ℕ} (h : xs.length = n) :
    (sliceTo (xs ++ ys) n : Outcome ε Bytes) = .ok xs := by
  rw [sliceTo_of_le (by simp [h]), List.take_left' h]

lemma exists_cons_four {xs : Bytes} (h : 4 ≤ xs.length) : ∃ a b c d ys, xs = a :: b :: c :: d :: ys := by
  match xs, h with
  | a :: b :: c :: d :: ys, _ => exact ⟨a, b, c, d, ys, rfl⟩

/-! ### Writing -/

/-- `output[i] = v`. -/
def setIndex (i : ℕ) (v : UInt8) : Exec Bytes ε Unit where
  run output := if i < output.length then (.ok (), output.set i v) else (.panic .indexOutOfBounds, output)

/-- `output[a..b].copy_from_slice(source)`. -/
def copyFromSlice (a b : ℕ) (source : Bytes) : Exec Bytes ε Unit where
  run output :=
    if b < a then (.panic .sliceOrder, output)
    else if output.length < b then (.panic .sliceOutOfBounds, output)
    else if source.length ≠ b - a then (.panic .copyLength, output)
    else (.ok (), output.take a ++ source ++ output.drop b)

/-- `output[a..b].fill(v)`. -/
def fill (a b : ℕ) (v : UInt8) : Exec Bytes ε Unit where
  run output :=
    if b < a then (.panic .sliceOrder, output)
    else if output.length < b then (.panic .sliceOutOfBounds, output)
    else (.ok (), output.take a ++ List.replicate (b - a) v ++ output.drop b)

/-- `vec![v; n]`. -/
def vec (v : UInt8) (n : ℕ) : Bytes := List.replicate n v

@[simp] lemma vec_length (v : UInt8) (n : ℕ) : (vec v n).length = n := List.length_replicate
@[simp] lemma vec_drop (v : UInt8) (n : ℕ) : (vec v n).drop n = [] := List.drop_eq_nil_of_le (vec_length v n).le

lemma run_vec {writer : Exec Bytes ε ℕ} {n : ℕ} {bytes : Bytes} {error : Bytes → ε}
    (h : ∀ output, writer.run output =
      if output.length < n then (.err (error output), output) else (.ok n, bytes ++ output.drop n)) :
    writer.run (vec 0 n) = (.ok n, bytes) := by
  rw [h, vec_length, if_neg (Nat.lt_irrefl n), vec_drop, List.append_nil]

lemma onLocal_vec_bind {σ ε' α : Type} {into : ε → ε'} {writer : Exec Bytes ε ℕ} {n : ℕ} {bytes : Bytes}
    (hwriter : writer.run (vec 0 n) = (.ok n, bytes)) (hlength : bytes.length = n)
    (f : ℕ × Bytes → Exec σ ε' α) (s : σ) :
    (do
      let written ← Exec.onLocal (vec 0 n) into writer
      Exec.lift (debugAssertEq written.1 written.2.length)
      f written).run s = (f (n, bytes)).run s := by
  rw [Exec.onLocal_bind_of_ok hwriter, hlength, debugAssertEq_self, Exec.lift_ok_bind]

section Writes

variable {α : Type} {pre post : Bytes} {a b : ℕ}

lemma copyFromSlice_run {source : Bytes} (hpre : pre.length = a) (hb : b = a + source.length)
    (hpost : source.length ≤ post.length) :
    (copyFromSlice a b source : Exec Bytes ε Unit).run (pre ++ post) =
      (.ok (), pre ++ source ++ post.drop source.length) := by
  subst hpre hb
  have htake : (pre ++ post).take pre.length = pre := List.take_left
  have hdrop : (pre ++ post).drop (pre.length + source.length) = post.drop source.length := by
    rw [← List.drop_drop, List.drop_left]
  unfold copyFromSlice
  dsimp only
  rw [if_neg (by omega), if_neg (by simp; omega), if_neg (by omega), htake, hdrop]

lemma copyFromSlice_bind {source : Bytes} {f : Unit → Exec Bytes ε α} (hpre : pre.length = a)
    (hb : b = a + source.length) (hpost : source.length ≤ post.length) :
    (copyFromSlice a b source >>= f).run (pre ++ post) =
      (f ()).run (pre ++ source ++ post.drop source.length) :=
  Exec.bind_of_ok (copyFromSlice_run hpre hb hpost)

lemma fill_bind {v : UInt8} {f : Unit → Exec Bytes ε α} (hpre : pre.length = a) (hab : a ≤ b)
    (hpost : b - a ≤ post.length) :
    (fill a b v >>= f).run (pre ++ post) =
      (f ()).run (pre ++ List.replicate (b - a) v ++ post.drop (b - a)) := by
  subst hpre
  refine Exec.bind_of_ok ?_
  have htake : (pre ++ post).take pre.length = pre := List.take_left
  have hdrop : (pre ++ post).drop b = post.drop (b - pre.length) := by
    conv_lhs => rw [← Nat.add_sub_cancel' hab]
    rw [← List.drop_drop, List.drop_left]
  unfold fill
  dsimp only
  rw [if_neg (by omega), if_neg (by simp; omega), htake, hdrop]

lemma copyFromSlice_patch {source mid : Bytes} {f : Unit → Exec Bytes ε α} (hpre : pre.length = a)
    (hb : b = a + source.length) (hmid : mid.length = source.length) :
    (copyFromSlice a b source >>= f).run (pre ++ mid ++ post) = (f ()).run (pre ++ source ++ post) := by
  rw [List.append_assoc, copyFromSlice_bind hpre hb (by simp [hmid]), ← hmid, List.drop_left]

lemma setIndex_bind {v : UInt8} {f : Unit → Exec Bytes ε α} (hpre : pre.length = a)
    (hpost : 1 ≤ post.length) :
    (setIndex a v >>= f).run (pre ++ post) = (f ()).run (pre ++ [v] ++ post.drop 1) := by
  subst hpre
  refine Exec.bind_of_ok ?_
  rcases post with _ | ⟨w, post⟩
  · simp at hpost
  · simp [setIndex]

end Writes

/-! ### Big-endian words -/

/-- `u16::from_be_bytes([b0, b1])`. -/
def u16FromBeBytes (b0 b1 : UInt8) : UInt16 := UInt16.ofNat (256 * b0.toNat + b1.toNat)

/-- `x.to_be_bytes()` of a `u16`. -/
def u16ToBeBytes (x : UInt16) : Bytes := [UInt8.ofNat (x.toNat / 256), x.toUInt8]

/-- `u32::from_be_bytes([b0, b1, b2, b3])`. -/
def u32FromBeBytes (b0 b1 b2 b3 : UInt8) : UInt32 :=
  UInt32.ofNat (16777216 * b0.toNat + 65536 * b1.toNat + 256 * b2.toNat + b3.toNat)

/-- `x.to_be_bytes()` of a `u32`. -/
def u32ToBeBytes (x : UInt32) : Bytes :=
  [UInt8.ofNat (x.toNat / 16777216), UInt8.ofNat (x.toNat / 65536), UInt8.ofNat (x.toNat / 256), x.toUInt8]

@[simp] lemma u16ToBeBytes_length (x : UInt16) : (u16ToBeBytes x).length = 2 := rfl
@[simp] lemma u16ToBeBytes_zero : u16ToBeBytes 0 = [0, 0] := rfl
@[simp] lemma u32ToBeBytes_length (x : UInt32) : (u32ToBeBytes x).length = 4 := rfl

lemma u16FromBeBytes_toNat (b0 b1 : UInt8) : (u16FromBeBytes b0 b1).toNat = 256 * b0.toNat + b1.toNat := by
  have h0 := b0.toNat_lt
  have h1 := b1.toNat_lt
  rw [u16FromBeBytes, UInt16.toNat_ofNat']
  omega

@[simp] lemma u16FromBeBytes_toBeBytes (x : UInt16) :
    u16FromBeBytes (UInt8.ofNat (x.toNat / 256)) x.toUInt8 = x := by
  have hx := x.toNat_lt
  rw [← UInt16.toNat_inj, u16FromBeBytes_toNat, UInt8.toNat_ofNat', UInt16.toNat_toUInt8]
  omega

@[simp] lemma u32FromBeBytes_toBeBytes (x : UInt32) :
    u32FromBeBytes (UInt8.ofNat (x.toNat / 16777216)) (UInt8.ofNat (x.toNat / 65536))
      (UInt8.ofNat (x.toNat / 256)) x.toUInt8 = x := by
  have hx := x.toNat_lt
  rw [← UInt32.toNat_inj, u32FromBeBytes, UInt32.toNat_ofNat']
  simp only [UInt8.toNat_ofNat', UInt32.toNat_toUInt8]
  omega

@[simp] lemma u16ToBeBytes_fromBeBytes (b0 b1 : UInt8) : u16ToBeBytes (u16FromBeBytes b0 b1) = [b0, b1] := by
  have h0 := b0.toNat_lt
  have h1 := b1.toNat_lt
  unfold u16ToBeBytes
  congr 2
  · rw [← UInt8.toNat_inj, UInt8.toNat_ofNat', u16FromBeBytes_toNat]
    omega
  · rw [← UInt8.toNat_inj, UInt16.toNat_toUInt8, u16FromBeBytes_toNat]
    omega

@[simp] lemma u32ToBeBytes_fromBeBytes (b0 b1 b2 b3 : UInt8) :
    u32ToBeBytes (u32FromBeBytes b0 b1 b2 b3) = [b0, b1, b2, b3] := by
  have h0 := b0.toNat_lt
  have h1 := b1.toNat_lt
  have h2 := b2.toNat_lt
  have h3 := b3.toNat_lt
  have hval : (u32FromBeBytes b0 b1 b2 b3).toNat =
      16777216 * b0.toNat + 65536 * b1.toNat + 256 * b2.toNat + b3.toNat := by
    rw [u32FromBeBytes, UInt32.toNat_ofNat']
    omega
  unfold u32ToBeBytes
  congr 4
  all_goals simp only [← UInt8.toNat_inj, UInt8.toNat_ofNat', UInt32.toNat_toUInt8, hval]
  all_goals omega

/-! ### Single bits -/

lemma u16_and_mask_eq_zero_iff {x mask : UInt16} {k : ℕ} (hmask : mask.toNat = 2 ^ k) :
    x &&& mask = 0 ↔ x.toNat / 2 ^ k % 2 = 0 := by
  rw [← UInt16.toNat_inj, UInt16.toNat_and, hmask, Nat.and_two_pow, Nat.testBit_eq_decide_div_mod_eq]
  by_cases h : x.toNat / 2 ^ k % 2 = 1
  · simp [h]
  · simp only [h, decide_false, Bool.toNat_false, Nat.zero_mul, UInt16.toNat_zero, true_iff]
    omega

end TcpIp.Lib
