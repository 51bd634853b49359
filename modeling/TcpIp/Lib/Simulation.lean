import TcpIp.Lib.Loop

/-!
# Simulations of calls

One call does what another does, seen through a map of the states (`Maps f m m'`): the results are the same, and the
states stay related by `f`.  The rules follow the ways in which calls are put together; a loop simulates a loop when
its turns do (`Maps.forEach`).
-/

namespace TcpIp.Lib.Exec

variable {σ τ σ' τ' ε ε' α β ι : Type}

/-- Through `f`, the call `m'` does what `m` does. -/
def Maps (f : σ → τ) (m : Exec σ ε α) (m' : Exec τ ε α) : Prop := ∀ s, m'.run (f s) = Prod.map id f (m.run s)

namespace Maps

variable {f : σ → τ}

lemma pure (a : α) : Maps f (pure a : Exec σ ε α) (pure a) := fun _ => rfl

lemma fail (e : ε) : Maps f (Exec.fail e : Exec σ ε α) (Exec.fail e) := fun _ => rfl

lemma modify {g : σ → σ} {g' : τ → τ} (h : ∀ s, g' (f s) = f (g s)) :
    Maps f (Exec.modify g : Exec σ ε Unit) (Exec.modify g') := by
  intro s
  rw [modify_run, modify_run, h]
  rfl

lemma bind {m : Exec σ ε α} {m' : Exec τ ε α} {k : α → Exec σ ε β} {k' : α → Exec τ ε β} (hm : Maps f m m')
    (hk : ∀ a, Maps f (k a) (k' a)) : Maps f (m >>= k) (m' >>= k') := by
  intro s
  have hrun := hm s
  cases hcall : m.run s with
  | mk result t =>
    rw [hcall] at hrun
    cases result with
    | ok a => rw [bind_of_ok hcall, bind_of_ok hrun, hk a t]
    | err e =>
      rw [bind_of_err hcall, bind_of_err hrun]
      rfl
    | panic p =>
      rw [bind_of_panic hcall, bind_of_panic hrun]
      rfl

lemma get_bind {k : σ → Exec σ ε β} {k' : τ → Exec τ ε β} (hk : ∀ s, Maps f (k s) (k' (f s))) :
    Maps f (Exec.get >>= k) (Exec.get >>= k') := by
  intro s
  rw [Exec.get_bind, Exec.get_bind]
  exact hk s s

lemma attempt {m : Exec σ ε α} {m' : Exec τ ε α} (hm : Maps f m m') :
    Maps f (Exec.attempt m : Exec σ ε' (Except ε α)) (Exec.attempt m') := by
  intro s
  unfold Exec.attempt
  dsimp only
  rw [hm s]
  rcases m.run s with ⟨a | e | p, t⟩
  all_goals rfl

lemma zoom {g : σ' → τ'} {get : σ → σ'} {set : σ' → σ → σ} {get' : τ → τ'} {set' : τ' → τ → τ} {m : Exec σ' ε α}
    {m' : Exec τ' ε α} (hget : ∀ s, get' (f s) = g (get s)) (hset : ∀ t s, set' (g t) (f s) = f (set t s))
    (hm : Maps g m m') : Maps f (Exec.zoom get set m) (Exec.zoom get' set' m') := by
  intro s
  rw [zoom_run, zoom_run, hget, hm]
  exact Prod.ext rfl (hset _ s)

/-- **Loops whose turns simulate simulate.** -/
theorem forEach {body : ι → Exec σ ε Unit} {body' : ι → Exec τ ε Unit}
    (hbody : ∀ input, Maps f (body input) (body' input)) (inputs : List ι) :
    Maps f (Exec.forEach body inputs) (Exec.forEach body' inputs) := by
  induction inputs with
  | nil => exact Maps.pure ()
  | cons input rest ih => exact Maps.bind (hbody input) fun _ => ih

end Maps

end TcpIp.Lib.Exec
