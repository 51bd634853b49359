import Mathlib.Logic.Basic
import Mathlib.Tactic.Common

/-!
# Calls that return a result, panic, or mutate

The meaning of the host language's calls, apart from any program.

* `Outcome ε α` — how a call that returns `Result<α, ε>` ends: `Ok`, `Err`, or a panic with its cause;
* `Exec σ ε α` — a call that also mutates a `σ` behind a `&mut`: the state is there after an `Err` too,
  so that what an error leaves behind can be stated;
* the checked arithmetic of the machine types (`addUsize`, `subUsize`, `addU32`) and `debug_assert_eq!`.

A panic carries its `Panic` cause.  A loop that runs past its bound ends in `Panic.outOfFuel`, so that a proof
that a call does not panic is also a proof that its loops end.
-/

namespace TcpIp.Lib

/-- Why a call panicked. -/
inductive Panic where
  | indexOutOfBounds | sliceOutOfBounds | sliceOrder | copyLength
  | addOverflow | subOverflow | debugAssert | outOfFuel
  deriving DecidableEq, Repr

/-- How a call that returns `Result<α, ε>` ends. -/
inductive Outcome (ε α : Type) where
  | ok (value : α)
  | err (error : ε)
  | panic (cause : Panic)
  deriving DecidableEq, Repr

namespace Outcome

variable {ε ε' α β : Type}

/-- `m` first, then `f` on its value; an error or a panic of `m` ends the call. -/
protected def bind (m : Outcome ε α) (f : α → Outcome ε β) : Outcome ε β :=
  match m with
  | .ok a => f a
  | .err e => .err e
  | .panic p => .panic p

instance : Monad (Outcome ε) where
  pure := .ok
  bind := Outcome.bind

@[simp] lemma pure_eq (a : α) : (pure a : Outcome ε α) = .ok a := rfl
@[simp] lemma ok_bind (a : α) (f : α → Outcome ε β) : (.ok a >>= f : Outcome ε β) = f a := rfl
@[simp] lemma map_ok (f : α → β) (a : α) : (f <$> .ok a : Outcome ε β) = .ok (f a) := rfl
@[simp] lemma map_err (f : α → β) (e : ε) : (f <$> .err e : Outcome ε β) = .err e := rfl

/-- The error conversion that the operator `?` applies. -/
def mapErr (into : ε → ε') : Outcome ε α → Outcome ε' α
  | .ok a => .ok a
  | .err e => .err (into e)
  | .panic p => .panic p

lemma bind_eq_ok {m : Outcome ε α} {f : α → Outcome ε β} {b : β} (h : (m >>= f) = .ok b) :
    ∃ a, m = .ok a ∧ f a = .ok b := by
  cases m with
  | ok a => exact ⟨a, rfl, h⟩
  | err e => cases h
  | panic p => cases h

lemma mapErr_eq_ok {into : ε → ε'} {m : Outcome ε α} {a : α} (h : m.mapErr into = .ok a) : m = .ok a := by
  cases m with
  | ok a' =>
    cases h
    rfl
  | err e => cases h
  | panic p => cases h

lemma mapErr_bind_map {γ : Type} {into : ε → ε'} {m : Outcome ε α} {f : α → Outcome ε' γ} {g : α → Outcome ε' β}
    {k : β → γ} (h : ∀ a, m = .ok a → f a = k <$> g a) : (m.mapErr into >>= f) = k <$> (m.mapErr into >>= g) := by
  cases m with
  | ok a => exact h a rfl
  | err e => rfl
  | panic p => rfl

/-- Whether the call ended in a panic. -/
def panics : Outcome ε α → Bool
  | .panic _ => true
  | _ => false

section Check

variable {p : Prop} {e : ε} {m : Outcome ε α}

lemma check_congr {m' : Outcome ε α} {h h' : Decidable p} (hsame : ¬p → m = m') :
    @ite _ p h (.err e) m = @ite _ p h' (.err e) m' := ite_congr rfl (fun _ => rfl) hsame

variable [Decidable p]

lemma check_eq_ok {a : α} : (if p then .err e else m) = .ok a ↔ ¬p ∧ m = .ok a := by
  split_ifs with hp
  · exact iff_of_false nofun fun hpass => hpass.1 hp
  · exact (and_iff_right hp).symm

lemma check_panics (h : m.panics = false) : (if p then .err e else m : Outcome ε α).panics = false := by
  split_ifs
  · rfl
  · exact h

end Check

lemma ok_or_err {m : Outcome ε α} (h : m.panics = false) : (∃ a, m = .ok a) ∨ ∃ e, m = .err e := by
  cases m with
  | ok a => exact Or.inl ⟨a, rfl⟩
  | err e => exact Or.inr ⟨e, rfl⟩
  | panic p => simp [panics] at h

lemma exists_err {m : Outcome ε α} (h : m.panics = false) (hnot : ∀ a, m ≠ .ok a) : ∃ e, m = .err e := by
  rcases ok_or_err h with ⟨a, ha⟩ | herr
  · exact absurd ha (hnot a)
  · exact herr

/-- The call does not panic, and its errors satisfy `P`. -/
def FailsOnlyWith (P : ε → Prop) : Outcome ε α → Prop
  | .ok _ => True
  | .err e => P e
  | .panic _ => False

section FailsOnlyWith

variable {P : ε → Prop}

lemma FailsOnlyWith.bind {m : Outcome ε α} {f : α → Outcome ε β} (hm : FailsOnlyWith P m)
    (hf : ∀ a, FailsOnlyWith P (f a)) : FailsOnlyWith P (m >>= f) := by
  cases m with
  | ok a => exact hf a
  | err e => exact hm
  | panic p => exact hm

lemma failsOnlyWith_mapErr {into : ε' → ε} {m : Outcome ε' α} (hm : m.panics = false) (hinto : ∀ e, P (into e)) :
    FailsOnlyWith P (m.mapErr into) := by
  rcases ok_or_err hm with ⟨a, rfl⟩ | ⟨e, rfl⟩
  · trivial
  · exact hinto e

end FailsOnlyWith

end Outcome

/-- A call that mutates a `σ` and returns `Result<α, ε>`. -/
structure Exec (σ ε α : Type) where
  run : σ → Outcome ε α × σ

namespace Exec

variable {σ τ ε ε' α β : Type}

/-- `m` first, then `f` on its value, in the state `m` leaves; the state survives an error and a panic. -/
protected def bind (m : Exec σ ε α) (f : α → Exec σ ε β) : Exec σ ε β where
  run s :=
    match m.run s with
    | (.ok a, s') => (f a).run s'
    | (.err e, s') => (.err e, s')
    | (.panic p, s') => (.panic p, s')

instance : Monad (Exec σ ε) where
  pure a := ⟨fun s => (.ok a, s)⟩
  bind := Exec.bind

/-- Reads the state. -/
def get : Exec σ ε σ := ⟨fun s => (.ok s, s)⟩

/-- Changes the state. -/
def modify (f : σ → σ) : Exec σ ε Unit := ⟨fun s => (.ok (), f s)⟩

/-- A call that always returns, and returns what `f` says. -/
def state (f : σ → α × σ) : Exec σ ε α := ⟨fun s => (.ok (f s).1, (f s).2)⟩

/-- `return Err(e)`. -/
def fail (e : ε) : Exec σ ε α := ⟨fun s => (.err e, s)⟩

/-- A call that does not touch the state. -/
def lift (o : Outcome ε α) : Exec σ ε α := ⟨fun s => (o, s)⟩

/-- `o?`: the value of `o`, or its error converted by `into`. -/
def propagate (into : ε → ε') (o : Outcome ε α) : Exec σ ε' α := lift (o.mapErr into)

/-- The result of `m` as a value to match on, an `Err` too; a panic stays a panic. -/
def attempt (m : Exec σ ε α) : Exec σ ε' (Except ε α) where
  run s :=
    match m.run s with
    | (.ok a, s') => (.ok (.ok a), s')
    | (.err e, s') => (.ok (.error e), s')
    | (.panic p, s') => (.panic p, s')

/-- A call on the field `get s` of the state; `set` puts the field back. -/
def zoom (get : σ → τ) (set : τ → σ → σ) (m : Exec τ ε α) : Exec σ ε α where
  run s := ((m.run (get s)).1, set (m.run (get s)).2 s)

/-- `m?` on a local variable that starts as `init`: its value and the final content of the variable. -/
def onLocal (init : τ) (into : ε → ε') (m : Exec τ ε α) : Exec σ ε' (α × τ) where
  run s :=
    match m.run init with
    | (.ok a, t) => (.ok (a, t), s)
    | (.err e, _) => (.err (into e), s)
    | (.panic p, _) => (.panic p, s)

@[simp] lemma pure_run (a : α) (s : σ) : (pure a : Exec σ ε α).run s = (.ok a, s) := rfl
@[simp] lemma modify_run (f : σ → σ) (s : σ) : (modify f : Exec σ ε Unit).run s = (.ok (), f s) := rfl
@[simp] lemma state_run (f : σ → α × σ) (s : σ) : (state f : Exec σ ε α).run s = (.ok (f s).1, (f s).2) := rfl
lemma zoom_run (get : σ → τ) (set : τ → σ → σ) (m : Exec τ ε α) (s : σ) :
    (zoom get set m).run s = ((m.run (get s)).1, set (m.run (get s)).2 s) := rfl

lemma bind_of_ok {m : Exec σ ε α} {f : α → Exec σ ε β} {s s' : σ} {a : α} (h : m.run s = (.ok a, s')) :
    (m >>= f).run s = (f a).run s' := by
  show (Exec.bind m f).run s = _
  simp [Exec.bind, h]

lemma bind_of_err {m : Exec σ ε α} {f : α → Exec σ ε β} {s s' : σ} {e : ε} (h : m.run s = (.err e, s')) :
    (m >>= f).run s = (.err e, s') := by
  show (Exec.bind m f).run s = _
  simp [Exec.bind, h]

lemma bind_of_panic {m : Exec σ ε α} {f : α → Exec σ ε β} {s s' : σ} {p : Panic} (h : m.run s = (.panic p, s')) :
    (m >>= f).run s = (.panic p, s') := by
  show (Exec.bind m f).run s = _
  simp [Exec.bind, h]

@[simp] lemma get_bind (f : σ → Exec σ ε β) (s : σ) : (get >>= f).run s = (f s).run s := rfl
@[simp] lemma pure_bind_run (a : α) (f : α → Exec σ ε β) (s : σ) :
    (pure a >>= f).run s = (f a).run s := rfl
@[simp] lemma modify_bind (g : σ → σ) (f : Unit → Exec σ ε β) (s : σ) :
    (modify g >>= f).run s = (f ()).run (g s) := rfl
@[simp] lemma lift_ok_bind (a : α) (f : α → Exec σ ε β) (s : σ) :
    (lift (.ok a) >>= f).run s = (f a).run s := rfl

lemma onLocal_bind_of_ok {into : ε → ε'} {m : Exec τ ε α} {init t : τ} {a : α}
    (h : m.run init = (.ok a, t)) (f : α × τ → Exec σ ε' β) (s : σ) :
    (onLocal init into m >>= f).run s = (f (a, t)).run s := by
  refine bind_of_ok ?_
  simp [onLocal, h]

lemma attempt_of_ok {m : Exec σ ε α} {s s' : σ} {a : α} (h : m.run s = (.ok a, s')) :
    (attempt m : Exec σ ε' (Except ε α)).run s = (.ok (.ok a), s') := by
  simp only [attempt, h]

lemma attempt_of_err {m : Exec σ ε α} {s s' : σ} {e : ε} (h : m.run s = (.err e, s')) :
    (attempt m : Exec σ ε' (Except ε α)).run s = (.ok (.error e), s') := by
  simp only [attempt, h]

lemma zoom_bind_of_ok {get : σ → τ} {set : τ → σ → σ} {m : Exec τ ε α} {s : σ} {a : α} {t : τ}
    (h : m.run (get s) = (.ok a, t)) (f : α → Exec σ ε β) :
    (zoom get set m >>= f).run s = (f a).run (set t s) := by
  refine bind_of_ok ?_
  rw [zoom_run, h]

end Exec

/-! ### Checked arithmetic -/

variable {ε : Type}

/-- The largest value of `usize` on a 64-bit target. -/
def usizeMax : ℕ := 0xffffffffffffffff

/-- `a + b` on `usize`. -/
def addUsize (a b : ℕ) : Outcome ε ℕ := if a + b ≤ usizeMax then .ok (a + b) else .panic .addOverflow

/-- `a - b` on `usize`. -/
def subUsize (a b : ℕ) : Outcome ε ℕ := if b ≤ a then .ok (a - b) else .panic .subOverflow

/-- `usize::saturating_add`. -/
def saturatingAddUsize (a b : ℕ) : ℕ := min (a + b) usizeMax

/-- `a + b` on `u32`. -/
def addU32 (a b : ℕ) : Outcome ε ℕ := if a + b ≤ 0xffffffff then .ok (a + b) else .panic .addOverflow

/-- `debug_assert_eq!(a, b)`. -/
def debugAssertEq (a b : ℕ) : Outcome ε Unit := if a = b then .ok () else .panic .debugAssert

lemma addUsize_of_le {a b : ℕ} (h : a + b ≤ usizeMax) : (addUsize a b : Outcome ε ℕ) = .ok (a + b) :=
  if_pos h

lemma subUsize_of_le {a b : ℕ} (h : b ≤ a) : (subUsize a b : Outcome ε ℕ) = .ok (a - b) := if_pos h

lemma addU32_of_le {a b : ℕ} (h : a + b ≤ 0xffffffff) : (addU32 a b : Outcome ε ℕ) = .ok (a + b) := if_pos h

@[simp] lemma debugAssertEq_self (a : ℕ) : (debugAssertEq a a : Outcome ε Unit) = .ok () := if_pos rfl

end TcpIp.Lib
