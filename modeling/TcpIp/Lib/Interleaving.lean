import TcpIp.Lib.Trace

/-!
# The order of the inputs of a machine

* `Commutes step s a b` — in the state `s` the order of the inputs `a` and `b` does not matter: each is answered as if
  the other had not come, and both orders end in one state;
* `LooksAlike owner step k R` — the relation `R` of states is kept by the inputs of the owner `k`, which are then
  answered alike, and one side may take the inputs of other owners alone.  A run then looks to `k` like the run on its
  own inputs (`LooksAlike.run_own`), however the inputs of the others are interleaved with them;
* `LooksAlikeAhead` — the same for a relation of states that depends on the inputs that are still to come.
-/

namespace TcpIp.Lib

variable {σ ι ο κ : Type}

/-- The order of `a` and `b` does not matter. -/
structure Commutes (step : ι → σ → ο × σ) (s : σ) (a b : ι) : Prop where
  left : (step a (step b s).2).1 = (step a s).1
  right : (step b (step a s).2).1 = (step b s).1
  state : (step b (step a s).2).2 = (step a (step b s).2).2

/-- Related states look alike to the owner `k`. -/
structure LooksAlike (owner : ι → κ) (step : ι → σ → ο × σ) (k : κ) (R : σ → σ → Prop) : Prop where
  answer : ∀ input s t, owner input = k → R s t → (step input s).1 = (step input t).1
  own : ∀ input s t, owner input = k → R s t → R (step input s).2 (step input t).2
  other : ∀ input s t, owner input ≠ k → R s t → R (step input s).2 t

/-- What the inputs of the owner `k` are answered in a run. -/
def answersTo [DecidableEq κ] (owner : ι → κ) (k : κ) (steps : List (Step σ ι ο)) : List ο :=
  (steps.filter fun t => owner t.input = k).map Step.output

/-- Related states look alike to the owner `k` on the inputs that are still to come, in front of which `R` relates
them. -/
structure LooksAlikeAhead (owner : ι → κ) (step : ι → σ → ο × σ) (k : κ) (R : List ι → σ → σ → Prop) : Prop where
  answer : ∀ input rest s t, owner input = k → R (input :: rest) s t → (step input s).1 = (step input t).1
  own : ∀ input rest s t, owner input = k → R (input :: rest) s t → R rest (step input s).2 (step input t).2
  other : ∀ input rest s t, owner input ≠ k → R (input :: rest) s t → R rest (step input s).2 t

/-- **A run looks to an owner like the run on its own inputs**, if the states look alike on the inputs that are still to
come. -/
theorem LooksAlikeAhead.run_own [DecidableEq κ] {owner : ι → κ} {step : ι → σ → ο × σ} {k : κ}
    {R : List ι → σ → σ → Prop} (h : LooksAlikeAhead owner step k R) {s t : σ} {inputs : List ι} (hst : R inputs s t) :
    R [] (run step s inputs) (run step t (inputs.filter fun input => owner input = k)) ∧
    answersTo owner k (trace step s inputs) =
      answersTo owner k (trace step t (inputs.filter fun input => owner input = k)) := by
  induction inputs generalizing s t with
  | nil => exact ⟨hst, rfl⟩
  | cons input rest ih =>
    by_cases hk : owner input = k
    · obtain ⟨hrun, hanswers⟩ := ih (h.own input rest s t hk hst)
      rw [List.filter_cons_of_pos (by simpa using hk)]
      refine ⟨hrun, ?_⟩
      simp only [answersTo, trace, hk, decide_true, List.filter_cons_of_pos, List.map_cons] at hanswers ⊢
      rw [h.answer input rest s t hk hst, hanswers]
    · obtain ⟨hrun, hanswers⟩ := ih (h.other input rest s t hk hst)
      rw [List.filter_cons_of_neg (by simpa using hk)]
      refine ⟨hrun, ?_⟩
      rw [← hanswers, trace]
      simp only [answersTo, hk, decide_false, Bool.false_eq_true, not_false_eq_true, List.filter_cons_of_neg]

lemma LooksAlike.ahead {owner : ι → κ} {step : ι → σ → ο × σ} {k : κ} {R : σ → σ → Prop}
    (h : LooksAlike owner step k R) : LooksAlikeAhead owner step k fun _ => R where
  answer := fun input _ => h.answer input
  own := fun input _ => h.own input
  other := fun input _ => h.other input

/-- **A run looks to an owner like the run on its own inputs.** -/
theorem LooksAlike.run_own [DecidableEq κ] {owner : ι → κ} {step : ι → σ → ο × σ} {k : κ} {R : σ → σ → Prop}
    (h : LooksAlike owner step k R) {s t : σ} (hst : R s t) (inputs : List ι) :
    R (run step s inputs) (run step t (inputs.filter fun input => owner input = k)) ∧
    answersTo owner k (trace step s inputs) =
      answersTo owner k (trace step t (inputs.filter fun input => owner input = k)) :=
  h.ahead.run_own hst

end TcpIp.Lib
