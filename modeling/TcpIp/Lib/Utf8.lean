import TcpIp.Lib.Bytes
import Mathlib.Data.List.TakeWhile

/-!
# Strings as bytes

The bytes of a string in UTF-8, and the string that is read from any bytes.

* `asBytes` — `str::as_bytes`;
* `fromUtf8Lossy` — `String::from_utf8_lossy`: a character that is broken becomes U+FFFD, as far as it goes;
* what is read from the bytes of a string is the string (`fromUtf8Lossy_asBytes`), and what is read from them up to the
  first zero is the string up to its first NUL (`fromUtf8Lossy_takeWhile`).
-/

namespace TcpIp.Lib.Utf8

def encode (chars : List Char) : Bytes := chars.flatMap String.utf8EncodeChar

def asBytes (s : String) : Bytes := encode s.toList

/-! ### Reading -/

def isContinuation (b : UInt8) : Bool := b &&& 0xc0 == 0x80

/-- A character of three or four bytes can start with these two. -/
def startsLong (first second : UInt8) : Bool :=
  if first = 0xe0 then 0xa0 ≤ second && second ≤ 0xbf
  else if first = 0xed then 0x80 ≤ second && second ≤ 0x9f
  else if first = 0xf0 then 0x90 ≤ second && second ≤ 0xbf
  else if first = 0xf4 then 0x80 ≤ second && second ≤ 0x8f
  else 0xe0 < first && first < 0xf4 && isContinuation second

/-- How many bytes after the first belong to a character that is broken: as many as a character could have. -/
def brokenTail (first : UInt8) : Bytes → ℕ
  | [] => 0
  | second :: rest =>
    if startsLong first second then
      match rest with
      | [] => 1
      | third :: _ => if 0xf0 ≤ first && isContinuation third then 2 else 1
    else 0

/-- The characters of any bytes. -/
def lossyChars : Bytes → List Char
  | [] => []
  | first :: rest =>
    match (first :: rest).toByteArray.utf8DecodeChar? 0 with
    | some c => c :: lossyChars (rest.drop (c.utf8Size - 1))
    | none => Char.ofNat 0xfffd :: lossyChars (rest.drop (brokenTail first rest))
termination_by bytes => bytes.length
decreasing_by all_goals exact Nat.lt_succ_of_le ((List.drop_sublist _ _).length_le)

def fromUtf8Lossy (bytes : Bytes) : String := String.ofList (lossyChars bytes)

lemma lossyChars_cons (c : Char) (rest : Bytes) :
    lossyChars (String.utf8EncodeChar c ++ rest) = c :: lossyChars rest := by
  have hlength : (String.utf8EncodeChar c).length = c.utf8Size := String.length_utf8EncodeChar c
  have hdecode : (String.utf8EncodeChar c ++ rest).toByteArray.utf8DecodeChar? 0 = some c := by
    rw [List.toByteArray_append]
    exact ByteArray.utf8DecodeChar?_utf8EncodeChar_append
  obtain ⟨first, tail, hbytes⟩ := List.exists_cons_of_length_pos (hlength ▸ c.utf8Size_pos)
  rw [hbytes, List.length_cons] at hlength
  rw [hbytes, List.cons_append] at hdecode ⊢
  rw [lossyChars, hdecode]
  dsimp only
  rw [← hlength, Nat.add_sub_cancel, List.drop_left]

lemma lossyChars_encode (chars : List Char) : lossyChars (encode chars) = chars := by
  induction chars with
  | nil => rw [encode, List.flatMap_nil, lossyChars]
  | cons c chars ih => rw [encode, List.flatMap_cons, lossyChars_cons, ← encode, ih]

/-- **A string is read back from its bytes.** -/
theorem fromUtf8Lossy_asBytes (s : String) : fromUtf8Lossy (asBytes s) = s := by
  rw [fromUtf8Lossy, asBytes, lossyChars_encode, String.ofList_toList]

/-! ### Zero bytes -/

lemma zero_eq_ofNat_iff {n : ℕ} (hlt : n < 256) : (0 : UInt8) = UInt8.ofNat n ↔ n = 0 := by
  rw [← UInt8.toNat_inj, UInt8.toNat_ofNat_of_lt' hlt, UInt8.toNat_zero, eq_comm]

/-- The only character with a zero byte is NUL: every byte of a character with several has its first bit set. -/
lemma zero_mem_utf8EncodeChar {c : Char} : 0 ∈ String.utf8EncodeChar c ↔ c.val = 0 := by
  rw [← UInt32.toNat_inj, UInt32.toNat_zero, String.utf8EncodeChar]
  generalize c.val.toNat = v
  split_ifs with hone htwo hthree
  · rw [List.mem_singleton, zero_eq_ofNat_iff (by omega)]
  all_goals
    refine iff_of_false ?_ (by omega)
    simp (disch := omega) only [List.mem_cons, List.not_mem_nil, or_false, zero_eq_ofNat_iff]
    omega

lemma zero_mem_encode {chars : List Char} : 0 ∈ encode chars ↔ ∃ c ∈ chars, c.val = 0 := by
  simp only [encode, List.mem_flatMap, zero_mem_utf8EncodeChar]

lemma takeWhile_encode (chars : List Char) :
    (encode chars).takeWhile (· ≠ 0) = encode (chars.takeWhile (·.val ≠ 0)) := by
  induction chars with
  | nil => rfl
  | cons c chars ih =>
    rw [encode, List.flatMap_cons, ← encode]
    by_cases hc : c.val = 0
    · have hbytes : String.utf8EncodeChar c = [0] := by
        rw [String.utf8EncodeChar, hc]
        rfl
      rw [hbytes, List.takeWhile_cons_of_neg (by simpa using hc)]
      rfl
    · have hbytes : ∀ b ∈ String.utf8EncodeChar c, decide (b ≠ 0) = true := by
        rintro b hb
        refine decide_eq_true fun hzero => hc (zero_mem_utf8EncodeChar.1 (hzero ▸ hb))
      rw [List.takeWhile_append_of_pos hbytes, ih, List.takeWhile_cons_of_pos (by simpa using hc), encode,
        encode, List.flatMap_cons]

/-- **What is read up to the first zero**: the string up to its first NUL. -/
theorem fromUtf8Lossy_takeWhile (s : String) :
    fromUtf8Lossy ((asBytes s).takeWhile (· ≠ 0)) = String.ofList (s.toList.takeWhile (·.val ≠ 0)) := by
  rw [fromUtf8Lossy, asBytes, takeWhile_encode, lossyChars_encode]

end TcpIp.Lib.Utf8
