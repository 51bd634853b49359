import TcpIp.Lib.Exec
import Mathlib.Data.List.Induction

/-!
# Loops that a turn may leave

`loop { body(input)? }`, with the inputs given beforehand, one for each turn.

* `forEach body inputs` — a turn of `body` for every input, until a turn returns an error or panics;
* `forEach_history` — what the turns that return preserve holds for as long as the loop runs;
* `forEach_left_iff` — a loop that was left was left by one of its turns, and ran until then;
* `forEach_prefix` — what every turn preserves holds in the end, however the loop ends, of the inputs that were used.
-/

namespace TcpIp.Lib.Exec

variable {σ ε ι : Type}

/-- A turn of `body` for every input. -/
def forEach (body : ι → Exec σ ε Unit) : List ι → Exec σ ε Unit
  | [] => pure ()
  | input :: rest => do
    body input
    forEach body rest

variable {body : ι → Exec σ ε Unit}

lemma forEach_snoc_run (inputs : List ι) (input : ι) (s : σ) :
    (forEach body (inputs ++ [input])).run s = (forEach body inputs >>= fun _ => body input).run s := by
  induction inputs generalizing s with
  | nil =>
    rw [List.nil_append, forEach, forEach, pure_bind_run]
    cases hturn : (body input).run s with
    | mk result s' =>
      cases result with
      | ok u =>
        rw [bind_of_ok hturn]
        rfl
      | err e => exact bind_of_err hturn
      | panic p => exact bind_of_panic hturn
  | cons first rest ih =>
    rw [List.cons_append, forEach, forEach]
    cases hturn : (body first).run s with
    | mk result s' =>
      cases result with
      | ok u =>
        rw [bind_of_ok hturn, ih]
        cases hrest : (forEach body rest).run s' with
        | mk result' s'' =>
          have hboth : (body first >>= fun _ => forEach body rest).run s = (result', s'') := by
            rw [bind_of_ok hturn, hrest]
          cases result' with
          | ok u' => rw [bind_of_ok hrest, bind_of_ok hboth]
          | err e => rw [bind_of_err hrest, bind_of_err hboth]
          | panic p => rw [bind_of_panic hrest, bind_of_panic hboth]
      | err e => rw [bind_of_err hturn, bind_of_err (bind_of_err hturn)]
      | panic p => rw [bind_of_panic hturn, bind_of_panic (bind_of_panic hturn)]

lemma forEach_snoc_eq_ok {inputs : List ι} {input : ι} {s s' : σ}
    (h : (forEach body (inputs ++ [input])).run s = (.ok (), s')) :
    ∃ t, (forEach body inputs).run s = (.ok (), t) ∧ (body input).run t = (.ok (), s') := by
  rw [forEach_snoc_run] at h
  cases hpast : (forEach body inputs).run s with
  | mk result t =>
    cases result with
    | ok u =>
      rw [bind_of_ok hpast] at h
      exact ⟨t, rfl, h⟩
    | err e =>
      rw [bind_of_err hpast] at h
      cases h
    | panic p =>
      rw [bind_of_panic hpast] at h
      cases h

/-- **Invariant rule for a loop that is still running.** -/
theorem forEach_history (P : List ι → σ → Prop) {s : σ} (hs : P [] s)
    (hturn : ∀ past input t t', P past t → (body input).run t = (.ok (), t') → P (past ++ [input]) t')
    {inputs : List ι} {s' : σ} (h : (forEach body inputs).run s = (.ok (), s')) : P inputs s' := by
  induction inputs using List.reverseRecOn generalizing s' with
  | nil =>
    cases h
    exact hs
  | append_singleton past input ih =>
    obtain ⟨t, hpast, hlast⟩ := forEach_snoc_eq_ok h
    exact hturn past input t s' (ih hpast) hlast

lemma left_at_once {result result' : Outcome ε Unit} {first : ι} {inputs : List ι}
    {s s' t : σ} (hturn : (body first).run s = (result', t)) (hleft : result' ≠ .ok ())
    (hloop : ∀ rest, (forEach body (first :: rest)).run s = (result', t)) :
    (result', t) = (result, s') ↔ ∃ past input rest t, first :: inputs = past ++ input :: rest ∧
      (forEach body past).run s = (.ok (), t) ∧ (body input).run t = (result, s') := by
  constructor
  · intro h
    exact ⟨[], first, inputs, s, rfl, rfl, hturn.trans h⟩
  · rintro ⟨past, input, rest, t', hcut, hpast, hlast⟩
    cases past with
    | nil =>
      obtain ⟨rfl, rfl⟩ := List.cons.inj hcut
      cases hpast
      exact hturn.symm.trans hlast
    | cons first' past =>
      obtain ⟨rfl, rfl⟩ := List.cons.inj hcut
      exact absurd (congrArg Prod.fst ((hloop past).symm.trans hpast)) hleft

/-- **A loop that was left**: one turn ended like the loop, and the loop ran through the inputs before it. -/
theorem forEach_left_iff {result : Outcome ε Unit} (hresult : result ≠ .ok ()) {inputs : List ι} {s s' : σ} :
    (forEach body inputs).run s = (result, s') ↔ ∃ past input rest t, inputs = past ++ input :: rest ∧
      (forEach body past).run s = (.ok (), t) ∧ (body input).run t = (result, s') := by
  induction inputs generalizing s with
  | nil =>
    refine iff_of_false (fun h => hresult (congrArg Prod.fst h).symm) ?_
    rintro ⟨past, input, rest, t, hcut, -⟩
    cases past with
    | nil => cases hcut
    | cons first past => cases hcut
  | cons first inputs ih =>
    rw [forEach]
    cases hturn : (body first).run s with
    | mk result' t =>
      cases result' with
      | ok u =>
        rw [bind_of_ok hturn, ih]
        constructor
        · rintro ⟨past, input, rest, t', rfl, hpast, hlast⟩
          exact ⟨first :: past, input, rest, t', rfl, (bind_of_ok hturn).trans hpast, hlast⟩
        · rintro ⟨past, input, rest, t', hcut, hpast, hlast⟩
          cases past with
          | nil =>
            obtain ⟨rfl, rfl⟩ := List.cons.inj hcut
            cases hpast
            exact absurd (congrArg Prod.fst (hlast.symm.trans hturn)) hresult
          | cons first' past =>
            obtain ⟨rfl, rfl⟩ := List.cons.inj hcut
            exact ⟨past, input, rest, t', rfl, (bind_of_ok hturn).symm.trans hpast, hlast⟩
      | err e =>
        rw [bind_of_err hturn]
        exact left_at_once hturn nofun fun _ => bind_of_err hturn
      | panic p =>
        rw [bind_of_panic hturn]
        exact left_at_once hturn nofun fun _ => bind_of_panic hturn

/-- **Invariant rule for a loop**, however it ends: what every turn preserves holds of the inputs that were used. -/
theorem forEach_prefix (P : List ι → σ → Prop) {s : σ} (hs : P [] s)
    (hturn : ∀ past input t, P past t → P (past ++ [input]) ((body input).run t).2) (inputs : List ι) :
    ∃ past, past <+: inputs ∧ (forEach body past).run s = (forEach body inputs).run s ∧
      (((forEach body inputs).run s).1 = .ok () → past = inputs) ∧ P past ((forEach body inputs).run s).2 := by
  have hhistory : ∀ {past t}, (forEach body past).run s = (.ok (), t) → P past t := fun h =>
    forEach_history P hs (fun past input t t' ht hlast => by simpa [hlast] using hturn past input t ht) h
  cases hrun : (forEach body inputs).run s with
  | mk result s' =>
    by_cases hresult : result = .ok ()
    · subst hresult
      exact ⟨inputs, List.prefix_rfl, hrun, fun _ => rfl, hhistory hrun⟩
    · obtain ⟨past, input, rest, t, rfl, hpast, hlast⟩ := (forEach_left_iff hresult).1 hrun
      refine ⟨past ++ [input], ⟨rest, by simp⟩, ?_, fun hok => absurd hok hresult, ?_⟩
      · exact (forEach_left_iff hresult).2 ⟨past, input, [], t, rfl, hpast, hlast⟩
      · have hafter := hturn past input t (hhistory hpast)
        rwa [hlast] at hafter

end TcpIp.Lib.Exec
