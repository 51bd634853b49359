import Mathlib.Data.List.Induction

/-!
# Runs of a machine

A machine with states `σ` reads inputs `ι` and answers with outputs `ο`; one step is `step : ι → σ → ο × σ`.

* `run step s inputs` — the state after a list of inputs;
* `trace step s inputs` — the steps of that run, in order, each with the states around it;
* the rules: what one step preserves a run preserves (`run_invariant`), also when the invariant speaks about the
  inputs read so far (`run_history`), a part of a machine runs on its own inputs (`run_part`), inputs that change
  nothing can be left out (`trace_filter`), inputs that are answered alike can be exchanged (`trace_congr`), a machine
  that does what another does on the inputs that both have is answered alike (`trace_simulates`), and a step of a trace
  is a cut of the input list (`mem_trace_iff`).
-/

namespace TcpIp.Lib

variable {σ ι ο : Type}

/-- The state after the inputs. -/
def run (step : ι → σ → ο × σ) (s : σ) (inputs : List ι) : σ :=
  inputs.foldl (fun s input => (step input s).2) s

/-- A step of a run. -/
structure Step (σ ι ο : Type) where
  before : σ
  input : ι
  output : ο
  after : σ

/-- The steps of a run. -/
def trace (step : ι → σ → ο × σ) : σ → List ι → List (Step σ ι ο)
  | _, [] => []
  | s, input :: rest =>
    ⟨s, input, (step input s).1, (step input s).2⟩ :: trace step (step input s).2 rest

variable {step : ι → σ → ο × σ}

@[simp] lemma run_nil (s : σ) : run step s [] = s := rfl

@[simp] lemma run_cons (s : σ) (input : ι) (rest : List ι) :
    run step s (input :: rest) = run step (step input s).2 rest := rfl

lemma run_append (s : σ) (xs ys : List ι) : run step s (xs ++ ys) = run step (run step s xs) ys :=
  List.foldl_append

lemma run_snoc (s : σ) (xs : List ι) (input : ι) :
    run step s (xs ++ [input]) = (step input (run step s xs)).2 := run_append s xs [input]

/-- **Invariant rule.** -/
theorem run_invariant (P : σ → Prop) (hstep : ∀ input s, P s → P (step input s).2) {s : σ} (hs : P s)
    (inputs : List ι) : P (run step s inputs) := by
  induction inputs generalizing s with
  | nil => exact hs
  | cons input rest ih => exact ih (hstep input s hs)

/-- **Invariant rule, with the inputs read so far.** -/
theorem run_history (P : List ι → σ → Prop) {s : σ} (hs : P [] s)
    (hstep : ∀ past input s, P past s → P (past ++ [input]) (step input s).2) (inputs : List ι) :
    P inputs (run step s inputs) := by
  induction inputs using List.reverseRecOn with
  | nil => exact hs
  | append_singleton past input ih =>
    rw [run_snoc]
    exact hstep past input _ ih

/-- **A part of a machine** that every input reaches as one input of its own, or not at all, runs on these inputs.  What
an input is to the part may depend on what `P` says of the machine. -/
theorem run_part {τ ι' ο' : Type} (part : σ → τ) {step' : ι' → τ → ο' × τ} {own : ι → Option ι'} (P : σ → Prop)
    (hP : ∀ input s, P s → P (step input s).2)
    (hpart : ∀ input s, P s → part (step input s).2 = ((own input).map fun i => (step' i (part s)).2).getD (part s))
    {s : σ} (hs : P s) (inputs : List ι) : part (run step s inputs) = run step' (part s) (inputs.filterMap own) := by
  induction inputs generalizing s with
  | nil => rfl
  | cons input rest ih =>
    rw [run_cons, ih (hP input s hs), hpart input s hs]
    cases hown : own input with
    | none => rw [List.filterMap_cons_none hown, Option.map_none, Option.getD_none]
    | some i => rw [List.filterMap_cons_some hown, Option.map_some, Option.getD_some, run_cons]

lemma exists_cut_of_filterMap {ι' : Type} {own : ι → Option ι'} {inputs : List ι} {past future : List ι'} {i : ι'}
    (h : inputs.filterMap own = past ++ i :: future) : ∃ before input after, inputs = before ++ input :: after ∧
      before.filterMap own = past ∧ own input = some i ∧ after.filterMap own = future := by
  obtain ⟨before, rest, rfl, hbefore, hrest⟩ := List.filterMap_eq_append_iff.1 h
  obtain ⟨skipped, input, after, rfl, hskipped, hinput, hafter⟩ := List.filterMap_eq_cons_iff.1 hrest
  have hnone : skipped.filterMap own = [] := List.filterMap_eq_nil_iff.2 hskipped
  exact ⟨before ++ skipped, input, after, by simp, by rw [List.filterMap_append, hbefore, hnone, List.append_nil],
    hinput, hafter⟩

/-- **Inputs that change nothing can be left out** of a run: the other steps stay as they are, and so does the state at
the end. -/
theorem trace_filter (keep : ι → Bool) (P : σ → Prop) (hP : ∀ input s, P s → P (step input s).2)
    (hdrop : ∀ input s, P s → keep input = false → (step input s).2 = s) {s : σ} (hs : P s) (inputs : List ι) :
    (trace step s inputs).filter (fun t => keep t.input) = trace step s (inputs.filter keep) ∧
      run step s inputs = run step s (inputs.filter keep) := by
  induction inputs generalizing s with
  | nil => exact ⟨rfl, rfl⟩
  | cons input rest ih =>
    obtain ⟨htrace, hrun⟩ := ih (hP input s hs)
    rw [run_cons, trace, List.filter_cons, List.filter_cons]
    dsimp only
    cases hkeep : keep input with
    | true =>
      rw [if_pos rfl, if_pos rfl, trace, run_cons]
      exact ⟨congrArg _ htrace, hrun⟩
    | false =>
      rw [hdrop input s hs hkeep] at htrace hrun
      rw [if_neg Bool.false_ne_true, if_neg Bool.false_ne_true, hdrop input s hs hkeep]
      exact ⟨htrace, hrun⟩

/-- **Inputs that are answered alike can be exchanged**: the answers are the same, and so is the state at the end. -/
theorem trace_congr (R : ι → ι → Prop) (P : σ → Prop) (hP : ∀ input s, P s → P (step input s).2)
    (hsame : ∀ input input' s, P s → R input input' → step input s = step input' s) {s : σ} (hs : P s)
    {inputs inputs' : List ι} (h : List.Forall₂ R inputs inputs') :
    (trace step s inputs).map Step.output = (trace step s inputs').map Step.output ∧
      run step s inputs = run step s inputs' := by
  induction h generalizing s with
  | nil => exact ⟨rfl, rfl⟩
  | cons hR _ ih =>
    have hstep := hsame _ _ s hs hR
    obtain ⟨houtputs, hrun⟩ := ih (hP _ s hs)
    rw [run_cons, run_cons, trace, trace, List.map_cons, List.map_cons, ← hstep]
    exact ⟨congrArg _ houtputs, hrun⟩

/-- **Simulation rule.**  The states stay related by `R`, and the inputs that the second machine knows are answered as
it answers them; the others are not seen by it. -/
theorem trace_simulates {τ ι' ο' : Type} (R : σ → τ → Prop) {step' : ι' → τ → ο' × τ} (own : ι → Option ι')
    (seen : ο → Option ο')
    (hown : ∀ input i s t, R s t → own input = some i →
      seen (step input s).1 = some (step' i t).1 ∧ R (step input s).2 (step' i t).2)
    (hother : ∀ input s t, R s t → own input = none → seen (step input s).1 = none ∧ R (step input s).2 t)
    {s : σ} {t : τ} (h : R s t) (inputs : List ι) :
    (trace step s inputs).filterMap (fun t => seen t.output) =
        (trace step' t (inputs.filterMap own)).map Step.output ∧
      R (run step s inputs) (run step' t (inputs.filterMap own)) := by
  induction inputs generalizing s t with
  | nil => exact ⟨rfl, h⟩
  | cons input rest ih =>
    cases hinput : own input with
    | none =>
      obtain ⟨houtput, hafter⟩ := hother input s t h hinput
      rw [List.filterMap_cons_none hinput, trace, List.filterMap_cons, run_cons]
      dsimp only
      rw [houtput]
      exact ih hafter
    | some i =>
      obtain ⟨houtput, hafter⟩ := hown input i s t h hinput
      obtain ⟨houtputs, hrun⟩ := ih hafter
      rw [List.filterMap_cons_some hinput, trace, List.filterMap_cons, run_cons, run_cons, trace, List.map_cons]
      dsimp only
      rw [houtput, houtputs]
      exact ⟨rfl, hrun⟩

lemma trace_snoc (s : σ) (xs : List ι) (input : ι) : trace step s (xs ++ [input]) =
    trace step s xs ++ [⟨run step s xs, input, (step input (run step s xs)).1, (step input (run step s xs)).2⟩] := by
  induction xs generalizing s with
  | nil => rfl
  | cons x rest ih =>
    rw [List.cons_append, trace, ih]
    rfl

/-- A step of a trace is a cut of the input list at the input it reads. -/
theorem mem_trace_iff {s : σ} {inputs : List ι} {t : Step σ ι ο} :
    t ∈ trace step s inputs ↔ ∃ past future, inputs = past ++ t.input :: future ∧
      t.before = run step s past ∧ t.output = (step t.input t.before).1 ∧
      t.after = (step t.input t.before).2 := by
  induction inputs generalizing s with
  | nil => simp [trace]
  | cons input rest ih =>
    rw [trace, List.mem_cons, ih]
    constructor
    · rintro (rfl | ⟨past, future, hrest, hbefore, ho, ha⟩)
      · exact ⟨[], rest, rfl, rfl, rfl, rfl⟩
      · exact ⟨input :: past, future, by rw [hrest]; rfl, hbefore, ho, ha⟩
    · rintro ⟨past, future, hinputs, hbefore, ho, ha⟩
      rcases past with _ | ⟨i, past⟩
      · obtain ⟨before, i, output, after⟩ := t
        obtain ⟨rfl, rfl⟩ : input = i ∧ rest = future := by simpa using hinputs
        obtain rfl : before = s := hbefore
        exact Or.inl (by rw [show output = _ from ho, show after = _ from ha])
      · obtain ⟨rfl, hrest⟩ : input = i ∧ rest = past ++ t.input :: future := by simpa using hinputs
        exact Or.inr ⟨past, future, hrest, hbefore, ho, ha⟩

end TcpIp.Lib
