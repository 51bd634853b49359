import TcpIp.Lib.Bytes

/-!
# Writers

A writer puts a value into a buffer that it is given and returns the number of bytes written.

* `Writes` — what a writer does to every buffer: it has checked the value and puts its bytes at the front if there is
  room, or it refuses the value without a look at the buffer;
* `Produces` — the bytes that come out of a writer, whatever buffer it was given (`Writes.produces_iff`);
* `AllOrNothing` — a writer leaves a buffer as it was or writes all of its bytes, which depend on the value alone, and
  nothing behind them (`Writes.allOrNothing`).
-/

namespace TcpIp.Lib

variable {ε : Type}

/-- Of a value with the given bytes, the writer puts them into every buffer with room; a value that it has not checked
with success it refuses, and not for want of room. -/
structure Writes (writer : Exec Bytes ε ℕ) (tooSmall : ℕ → ℕ → ε) (checked : Prop) (bytes : Bytes) : Prop where
  accepts : checked → ∀ output, writer.run output =
    if output.length < bytes.length then (.err (tooSmall output.length bytes.length), output)
    else (.ok bytes.length, bytes ++ output.drop bytes.length)
  refuses : ¬checked → ∃ refusal, (∀ n, refusal ≠ .ok n) ∧
    (∀ actual required, refusal ≠ .err (tooSmall actual required)) ∧ ∀ output, writer.run output = (refusal, output)

/-- The bytes come out of the writer. -/
def Produces (writer : Exec Bytes ε ℕ) (bytes : Bytes) : Prop :=
  ∃ output n written, writer.run output = (.ok n, written) ∧ written.take n = bytes

/-- The writer leaves a buffer as it was, or writes the bytes and nothing behind them; it wants room for a value that
it has checked, and for no other. -/
structure AllOrNothing (writer : Exec Bytes ε ℕ) (tooSmall : ℕ → ℕ → ε) (checked : Prop) (bytes : Bytes) : Prop where
  unchanged : ∀ output, (∀ n, (writer.run output).1 ≠ .ok n) → (writer.run output).2 = output
  written : ∀ output n after, writer.run output = (.ok n, after) →
    n = bytes.length ∧ n ≤ output.length ∧ after.take n = bytes ∧ after.drop n = output.drop n
  tooSmall_iff : ∀ output, (∃ actual required, (writer.run output).1 = .err (tooSmall actual required)) ↔
    checked ∧ output.length < bytes.length

namespace Writes

variable {writer : Exec Bytes ε ℕ} {tooSmall : ℕ → ℕ → ε} {checked : Prop} {bytes : Bytes}
  (h : Writes writer tooSmall checked bytes)
include h

lemma of_ok {output after : Bytes} {n : ℕ} (hrun : writer.run output = (.ok n, after)) :
    checked ∧ n = bytes.length ∧ bytes.length ≤ output.length ∧ after = bytes ++ output.drop n := by
  by_cases hchecked : checked
  · rw [h.accepts hchecked] at hrun
    split_ifs at hrun with hroom
    · cases hrun
    · cases hrun
      exact ⟨hchecked, rfl, Nat.le_of_not_lt hroom, rfl⟩
  · obtain ⟨refusal, hnotOk, -, hrefuses⟩ := h.refuses hchecked
    rw [hrefuses] at hrun
    exact absurd (congrArg Prod.fst hrun) (hnotOk n)

lemma run_of_le (hchecked : checked) {output : Bytes} (hroom : bytes.length ≤ output.length) :
    writer.run output = (.ok bytes.length, bytes ++ output.drop bytes.length) := by
  rw [h.accepts hchecked, if_neg (Nat.not_lt.2 hroom)]

lemma written_of_le (hchecked : checked) {output : Bytes} (hroom : bytes.length ≤ output.length) :
    ∃ written, writer.run output = (.ok bytes.length, written) ∧ written.take bytes.length = bytes :=
  ⟨_, h.run_of_le hchecked hroom, List.take_left' rfl⟩

/-- **When a writer succeeds.** -/
lemma ok_iff (output : Bytes) :
    (∃ n, (writer.run output).1 = .ok n) ↔ checked ∧ bytes.length ≤ output.length := by
  constructor
  · rintro ⟨n, hn⟩
    obtain ⟨hchecked, -, hroom, -⟩ := h.of_ok (Prod.ext hn rfl)
    exact ⟨hchecked, hroom⟩
  · rintro ⟨hchecked, hroom⟩
    exact ⟨bytes.length, by rw [h.run_of_le hchecked hroom]⟩

lemma produces_iff {b : Bytes} : Produces writer b ↔ checked ∧ b = bytes := by
  constructor
  · rintro ⟨output, n, written, hrun, rfl⟩
    obtain ⟨hchecked, rfl, -, rfl⟩ := h.of_ok hrun
    exact ⟨hchecked, List.take_left' rfl⟩
  · rintro ⟨hchecked, rfl⟩
    exact ⟨b, b.length, _, h.run_of_le hchecked le_rfl, List.take_left' rfl⟩

/-- **A writer leaves a buffer alone or writes all of its bytes**, and nothing else. -/
theorem allOrNothing : AllOrNothing writer tooSmall checked bytes where
  unchanged := by
    intro output hfails
    by_cases hchecked : checked
    · rw [h.accepts hchecked] at hfails ⊢
      split_ifs at hfails ⊢ with hroom
      · rfl
      · exact absurd rfl (hfails bytes.length)
    · obtain ⟨refusal, -, -, hrefuses⟩ := h.refuses hchecked
      rw [hrefuses]
  written := by
    intro output n after hrun
    obtain ⟨-, rfl, hroom, rfl⟩ := h.of_ok hrun
    exact ⟨rfl, hroom, List.take_left' rfl, List.drop_left' rfl⟩
  tooSmall_iff := by
    intro output
    by_cases hchecked : checked
    · rw [h.accepts hchecked]
      split_ifs with hroom
      · exact iff_of_true ⟨_, _, rfl⟩ ⟨hchecked, hroom⟩
      · refine iff_of_false ?_ fun hsmall => hroom hsmall.2
        rintro ⟨actual, required, herr⟩
        cases herr
    · obtain ⟨refusal, -, hnotSmall, hrefuses⟩ := h.refuses hchecked
      rw [hrefuses]
      refine iff_of_false ?_ fun hsmall => hchecked hsmall.1
      rintro ⟨actual, required, herr⟩
      exact hnotSmall actual required herr

end Writes

end TcpIp.Lib
