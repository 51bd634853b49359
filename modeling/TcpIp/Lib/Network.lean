import Mathlib.Algebra.BigOperators.Group.Multiset.Basic
import Mathlib.Algebra.Order.BigOperators.Group.Multiset
import Mathlib.Data.Fintype.Card

/-!
# Machines on a shared medium

Machines of one kind, each with a name `κ`, on a medium that brings what one of them sends to all the others.  Every
receiver has a copy of its own, and the medium may bring the copies in any order, lose them and double them.

* `Network` — the states of the machines and the copies that are on their way; `Step`, `Run` — what can happen;
* `Keeps` — the rule for invariants: a property of the machines and one of the messages that keep each other hold along
  every run (`Keeps.run`);
* `Settles` — what is sent in answer to a message is not answered again.  Then copies that are only delivered or lost
  run out (`Settles.rest`); and if nothing comes in from outside, only copies that may be answered are
  (`Settles.answered`), and no more often than there are such copies, the doubled ones included (`Settles.answers_le`).
-/

namespace TcpIp.Lib

variable {κ σ μ τ γ : Type}

/-- What a machine does with a message, at a reading of the clock, and with a call of its own user. -/
structure Machine (σ μ τ γ : Type) where
  receive : τ → μ → σ → Option μ × σ
  call : γ → σ → σ

/-- The states of the machines, and the copies that are on their way to them. -/
structure Network (κ σ μ : Type) where
  node : κ → σ
  flight : Multiset (κ × μ)

namespace Network

/-- What happens on the medium, or at a machine; a delivery says what the machine sent in answer. -/
inductive Action (κ μ τ γ : Type) where
  | deliver (k : κ) (m : μ) (now : τ) (sent : Option μ)
  | lose (k : κ) (m : μ)
  | duplicate (k : κ) (m : μ)
  | inject (k : κ) (m : μ)
  | call (k : κ) (c : γ)

/-- A copy is delivered or lost. -/
def Action.Moves : Action κ μ τ γ → Prop
  | .deliver _ _ _ _ | .lose _ _ => True
  | .duplicate _ _ | .inject _ _ | .call _ _ => False

/-- What is sent in answer to a message. -/
def Action.sent : Action κ μ τ γ → Option μ
  | .deliver _ _ _ sent => sent
  | .lose _ _ | .duplicate _ _ | .inject _ _ | .call _ _ => none

/-- The copy that is doubled. -/
def Action.doubled : Action κ μ τ γ → Option (κ × μ)
  | .duplicate k m => some (k, m)
  | .deliver _ _ _ _ | .lose _ _ | .inject _ _ | .call _ _ => none

variable [Fintype κ] [DecidableEq κ]

/-- The copies of what `k` sends. -/
def copies (k : κ) : Option μ → Multiset (κ × μ)
  | none => 0
  | some m => (Finset.univ.erase k).val.map fun j => (j, m)

lemma mem_copies {k : κ} {sent : Option μ} {copy : κ × μ} :
    copy ∈ copies k sent ↔ sent = some copy.2 ∧ copy.1 ≠ k := by
  obtain ⟨j, m⟩ := copy
  cases sent with
  | none => simp [copies]
  | some m' =>
    simp only [copies, Multiset.mem_map, Finset.mem_val, Finset.mem_erase, Finset.mem_univ, and_true, Prod.mk.injEq,
      Option.some.injEq]
    constructor
    · rintro ⟨i, hi, rfl, rfl⟩
      exact ⟨rfl, hi⟩
    · rintro ⟨rfl, hj⟩
      exact ⟨j, hj, rfl, rfl⟩

variable (machine : Machine σ μ τ γ)

inductive Step : Network κ σ μ → Action κ μ τ γ → Network κ σ μ → Prop
  | deliver {node : κ → σ} {flight : Multiset (κ × μ)} (k : κ) (m : μ) (now : τ) :
      Step ⟨node, (k, m) ::ₘ flight⟩ (.deliver k m now (machine.receive now m (node k)).1)
        ⟨Function.update node k (machine.receive now m (node k)).2,
          copies k (machine.receive now m (node k)).1 + flight⟩
  | lose {node : κ → σ} {flight : Multiset (κ × μ)} (k : κ) (m : μ) :
      Step ⟨node, (k, m) ::ₘ flight⟩ (.lose k m) ⟨node, flight⟩
  | duplicate {node : κ → σ} {flight : Multiset (κ × μ)} (k : κ) (m : μ) :
      Step ⟨node, (k, m) ::ₘ flight⟩ (.duplicate k m) ⟨node, (k, m) ::ₘ (k, m) ::ₘ flight⟩
  | inject {node : κ → σ} {flight : Multiset (κ × μ)} (k : κ) (m : μ) :
      Step ⟨node, flight⟩ (.inject k m) ⟨node, (k, m) ::ₘ flight⟩
  | call {node : κ → σ} {flight : Multiset (κ × μ)} (k : κ) (c : γ) :
      Step ⟨node, flight⟩ (.call k c) ⟨Function.update node k (machine.call c (node k)), flight⟩

inductive Run : Network κ σ μ → List (Action κ μ τ γ) → Network κ σ μ → Prop
  | nil (net : Network κ σ μ) : Run net [] net
  | cons {net net' net'' : Network κ σ μ} {action : Action κ μ τ γ} {actions : List (Action κ μ τ γ)} :
      Step machine net action net' → Run net' actions net'' → Run net (action :: actions) net''

/-! ### Invariants -/

/-- The property `I` of the machines and the property `G` of the copies keep each other. -/
structure Keeps (I : κ → σ → Prop) (G : κ → μ → Prop) : Prop where
  receive : ∀ k now m s, I k s → G k m → I k (machine.receive now m s).2
  reply : ∀ k now m s reply j, I k s → G k m → (machine.receive now m s).1 = some reply → j ≠ k → G j reply
  call : ∀ k c s, I k s → I k (machine.call c s)

/-- The machines have the property `I`, and the copies have the property `G`. -/
structure Holds (I : κ → σ → Prop) (G : κ → μ → Prop) (net : Network κ σ μ) : Prop where
  node : ∀ k, I k (net.node k)
  flight : ∀ copy ∈ net.flight, G copy.1 copy.2

/-- Only copies with the property `G` are injected. -/
def Injects (G : κ → μ → Prop) (actions : List (Action κ μ τ γ)) : Prop :=
  ∀ k m, Action.inject k m ∈ actions → G k m

/-- Nothing comes in from outside. -/
abbrev Closed (actions : List (Action κ μ τ γ)) : Prop := Injects (fun _ _ => False) actions

variable {machine} {I : κ → σ → Prop} {G : κ → μ → Prop} {net net' : Network κ σ μ} {action : Action κ μ τ γ}
  {actions : List (Action κ μ τ γ)}

section Injects

omit [Fintype κ] [DecidableEq κ]

lemma Injects.head (h : Injects G (action :: actions)) : Injects G [action] := by
  intro k m hmem
  rw [← List.mem_singleton.1 hmem] at h
  exact h k m List.mem_cons_self

lemma Injects.tail (h : Injects G (action :: actions)) : Injects G actions :=
  fun k m hmem => h k m (List.mem_cons_of_mem _ hmem)

lemma Injects.of_closed (h : Closed actions) : Injects G actions :=
  fun k m hmem => (h k m hmem).elim

lemma Action.Moves.closed (h : action.Moves) : Closed [action] := by
  intro k m hmem
  rw [List.mem_singleton] at hmem
  subst hmem
  exact h.elim

end Injects

omit [Fintype κ] in
lemma forall_update {node : κ → σ} (h : ∀ k, I k (node k)) {k : κ} {s : σ} (hs : I k s) (j : κ) :
    I j (Function.update node k s j) := by
  by_cases hj : j = k
  · subst hj
    rw [Function.update_self]
    exact hs
  · rw [Function.update_of_ne hj]
    exact h j

/-- **One step** keeps what the machines and the messages keep. -/
lemma Keeps.step (h : Keeps machine I G) (hstep : Step machine net action net') (hnet : Holds I G net)
    (hinject : Injects G [action]) : Holds I G net' := by
  obtain ⟨hnode, hflight⟩ := hnet
  cases hstep with
  | @deliver node flight k m now =>
    have hcopy : G k m := hflight _ (Multiset.mem_cons_self _ _)
    refine ⟨forall_update hnode (h.receive k now m _ (hnode k) hcopy), fun copy hmem => ?_⟩
    rcases Multiset.mem_add.1 hmem with hsent | hold
    · obtain ⟨hreply, hother⟩ := mem_copies.1 hsent
      exact h.reply k now m _ copy.2 copy.1 (hnode k) hcopy hreply hother
    · exact hflight copy (Multiset.mem_cons_of_mem hold)
  | lose k m => exact ⟨hnode, fun copy hmem => hflight copy (Multiset.mem_cons_of_mem hmem)⟩
  | duplicate k m =>
    refine ⟨hnode, fun copy hmem => ?_⟩
    rcases Multiset.mem_cons.1 hmem with rfl | hold
    · exact hflight _ (Multiset.mem_cons_self _ _)
    · exact hflight copy hold
  | inject k m =>
    refine ⟨hnode, fun copy hmem => ?_⟩
    rcases Multiset.mem_cons.1 hmem with rfl | hold
    · exact hinject k m (List.mem_singleton_self _)
    · exact hflight copy hold
  | call k c => exact ⟨forall_update hnode (h.call k c _ (hnode k)), hflight⟩

/-- **Invariant rule.** -/
theorem Keeps.run (h : Keeps machine I G) (hrun : Run machine net actions net') (hnet : Holds I G net)
    (hinject : Injects G actions) : Holds I G net' := by
  induction hrun with
  | nil net => exact hnet
  | cons hstep hrest ih => exact ih (h.step hstep hnet hinject.head) hinject.tail

/-! ### Machines that settle -/

/-- A machine does not answer what is `Silent`; and what it sends in answer to what is `Quiet` is silent everywhere
else. -/
structure Settles (machine : Machine σ μ τ γ) (I : κ → σ → Prop) (Silent Quiet : κ → μ → Prop) : Prop where
  receive : ∀ k now m s, I k s → I k (machine.receive now m s).2
  call : ∀ k c s, I k s → I k (machine.call c s)
  silent : ∀ k now m s, I k s → Silent k m → (machine.receive now m s).1 = none
  quiet : ∀ k now m s reply j, I k s → Quiet k m → (machine.receive now m s).1 = some reply → j ≠ k → Silent j reply

/-- The machines are as they should be, and the copies are silent or quiet. -/
abbrev Settling (I : κ → σ → Prop) (Silent Quiet : κ → μ → Prop) : Network κ σ μ → Prop :=
  Holds I fun k m => Silent k m ∨ Quiet k m

section Settles

variable {Silent Quiet : κ → μ → Prop} {k : κ} {m : μ} {now : τ} {s : σ}

omit [Fintype κ] [DecidableEq κ] in
lemma Settles.reply (h : Settles machine I Silent Quiet) (hs : I k s) (hm : Silent k m ∨ Quiet k m) {reply : μ} {j : κ}
    (hreply : (machine.receive now m s).1 = some reply) (hother : j ≠ k) : Silent j reply := by
  rcases hm with hsilent | hquiet
  · rw [h.silent k now m s hs hsilent] at hreply
    cases hreply
  · exact h.quiet k now m s reply j hs hquiet hreply hother

lemma Settles.copies_silent (h : Settles machine I Silent Quiet) (hs : I k s) (hm : Silent k m ∨ Quiet k m) :
    ∀ copy ∈ copies k (machine.receive now m s).1, Silent copy.1 copy.2 := by
  intro copy hcopy
  obtain ⟨hreply, hother⟩ := mem_copies.1 hcopy
  exact h.reply hs hm hreply hother

omit [Fintype κ] [DecidableEq κ] in
lemma Settles.keeps (h : Settles machine I Silent Quiet) : Keeps machine I fun k m => Silent k m ∨ Quiet k m where
  receive k now m s hs _ := h.receive k now m s hs
  reply _ _ _ _ _ _ hs hm hreply hother := Or.inl (h.reply hs hm hreply hother)
  call := h.call

end Settles

/-! ### Rest -/

section Weight

omit [DecidableEq κ]

open Classical in
/-- A copy that may be answered counts for its answers, too. -/
noncomputable def weight (Silent : κ → μ → Prop) (flight : Multiset (κ × μ)) : ℕ :=
  (flight.map fun copy => if Silent copy.1 copy.2 then 1 else Fintype.card κ).sum

variable {Silent : κ → μ → Prop} {flight flight' : Multiset (κ × μ)} {k : κ} {m : μ}

lemma weight_add : weight Silent (flight + flight') = weight Silent flight + weight Silent flight' := by
  unfold weight
  rw [Multiset.map_add, Multiset.sum_add]

lemma weight_cons_of_silent (h : Silent k m) : weight Silent ((k, m) ::ₘ flight) = 1 + weight Silent flight := by
  unfold weight
  rw [Multiset.map_cons, Multiset.sum_cons, if_pos h]

lemma weight_cons_of_not_silent (h : ¬Silent k m) :
    weight Silent ((k, m) ::ₘ flight) = Fintype.card κ + weight Silent flight := by
  unfold weight
  rw [Multiset.map_cons, Multiset.sum_cons, if_neg h]

lemma weight_lt_cons (k : κ) (m : μ) (flight : Multiset (κ × μ)) :
    weight Silent flight < weight Silent ((k, m) ::ₘ flight) := by
  have hcard : 0 < Fintype.card κ := Fintype.card_pos_iff.2 ⟨k⟩
  by_cases h : Silent k m
  · rw [weight_cons_of_silent h]
    omega
  · rw [weight_cons_of_not_silent h]
    omega

lemma weight_le (flight : Multiset (κ × μ)) : weight Silent flight ≤ flight.card * Fintype.card κ := by
  induction flight using Multiset.induction_on with
  | empty => simp [weight]
  | cons copy flight ih =>
    obtain ⟨k, m⟩ := copy
    have hcard : 0 < Fintype.card κ := Fintype.card_pos_iff.2 ⟨k⟩
    rw [Multiset.card_cons, Nat.add_mul, Nat.one_mul]
    by_cases h : Silent k m
    · rw [weight_cons_of_silent h]
      omega
    · rw [weight_cons_of_not_silent h]
      omega

end Weight

section Rest

variable {Silent Quiet : κ → μ → Prop} {k : κ} {sent : Option μ}

lemma weight_copies_lt (h : ∀ copy ∈ copies k sent, Silent copy.1 copy.2) :
    weight Silent (copies k sent) < Fintype.card κ := by
  have hcard : 0 < Fintype.card κ := Fintype.card_pos_iff.2 ⟨k⟩
  have hsum : weight Silent (copies k sent) = (copies k sent).card := by
    unfold weight
    rw [Multiset.map_congr rfl fun copy hcopy => if_pos (h copy hcopy)]
    simp
  have hlength : (copies k sent).card < Fintype.card κ := by
    cases sent with
    | none => exact hcard
    | some reply =>
      rw [copies, Multiset.card_map, Finset.card_val, Finset.card_erase_of_mem (Finset.mem_univ k), Finset.card_univ]
      omega
  exact hsum.trans_lt hlength

/-- **One step** of a copy makes the network lighter. -/
lemma Settles.step_weight (h : Settles machine I Silent Quiet) (hstep : Step machine net action net')
    (hmoves : action.Moves) (hnet : Settling I Silent Quiet net) :
    weight Silent net'.flight < weight Silent net.flight := by
  obtain ⟨hnode, hflight⟩ := hnet
  cases hstep with
  | @deliver node flight k m now =>
    replace hnode : ∀ k, I k (node k) := hnode
    have hm : Silent k m ∨ Quiet k m := hflight _ (Multiset.mem_cons_self _ _)
    by_cases hsilent : Silent k m
    · rw [h.silent k now m _ (hnode k) hsilent, copies, Multiset.zero_add]
      exact weight_lt_cons k m flight
    · rw [weight_add, weight_cons_of_not_silent hsilent]
      exact Nat.add_lt_add_right (weight_copies_lt (h.copies_silent (hnode k) hm)) _
  | lose k m => exact weight_lt_cons k m _
  | duplicate k m => exact hmoves.elim
  | inject k m => exact hmoves.elim
  | call k c => exact hmoves.elim

/-- **Rule for rest**: copies that are only delivered or lost run out. -/
theorem Settles.rest (h : Settles machine I Silent Quiet) (hrun : Run machine net actions net')
    (hmoves : ∀ action ∈ actions, action.Moves) (hnet : Settling I Silent Quiet net) :
    actions.length ≤ net.flight.card * Fintype.card κ := by
  suffices hbound : actions.length ≤ weight Silent net.flight from hbound.trans (weight_le _)
  induction hrun with
  | nil net => exact Nat.zero_le _
  | @cons net _ _ action actions hstep hrest ih =>
    have hfirst := hmoves action List.mem_cons_self
    have hlighter := h.step_weight hstep hfirst hnet
    have hlength := ih (fun action hmem => hmoves action (List.mem_cons_of_mem _ hmem))
      (h.keeps.step hstep hnet (.of_closed hfirst.closed))
    rw [List.length_cons]
    omega

end Rest

/-! ### Answers -/

section Answers

section Answerable

omit [Fintype κ] [DecidableEq κ]

open Classical

/-- The number of the copies that may be answered. -/
noncomputable def answerable (Silent : κ → μ → Prop) (flight : Multiset (κ × μ)) : ℕ :=
  flight.countP fun copy => ¬Silent copy.1 copy.2

variable {Silent : κ → μ → Prop} {flight flight' : Multiset (κ × μ)} {k : κ} {m : μ}

lemma answerable_add : answerable Silent (flight + flight') = answerable Silent flight + answerable Silent flight' :=
  Multiset.countP_add _ _ _

lemma answerable_eq_zero (h : ∀ copy ∈ flight, Silent copy.1 copy.2) : answerable Silent flight = 0 :=
  Multiset.countP_eq_zero.2 fun copy hcopy => not_not_intro (h copy hcopy)

lemma answerable_cons_of_silent (h : Silent k m) :
    answerable Silent ((k, m) ::ₘ flight) = answerable Silent flight :=
  Multiset.countP_cons_of_neg _ (not_not_intro h)

lemma answerable_cons_of_not_silent (h : ¬Silent k m) :
    answerable Silent ((k, m) ::ₘ flight) = answerable Silent flight + 1 :=
  Multiset.countP_cons_of_pos _ h

lemma answerable_le_cons (k : κ) (m : μ) (flight : Multiset (κ × μ)) :
    answerable Silent flight ≤ answerable Silent ((k, m) ::ₘ flight) :=
  Multiset.countP_le_of_le _ (Multiset.le_cons_self _ _)

end Answerable

variable {Silent Quiet : κ → μ → Prop} {p : κ × μ → Bool}

lemma Settles.step_answered (h : Settles machine I Silent Quiet) {k : κ} {m : μ} {now : τ} {answer : μ}
    (hstep : Step machine net (.deliver k m now (some answer)) net') (hnet : Settling I Silent Quiet net) :
    Quiet k m ∧ ¬Silent k m := by
  obtain ⟨hnode, hflight⟩ := hnet
  generalize hsent : some answer = sent at hstep
  cases hstep with
  | @deliver node flight =>
    replace hnode : ∀ k, I k (node k) := hnode
    have hloud : ¬Silent k m := by
      intro hsilent
      rw [h.silent k now m _ (hnode k) hsilent] at hsent
      cases hsent
    exact ⟨(hflight _ (Multiset.mem_cons_self _ _)).resolve_left hloud, hloud⟩

/-- **One step**: an answer uses up a copy that may be answered, and only doubling makes more of them. -/
lemma Settles.step_answerable (h : Settles machine I Silent Quiet) (hp : ∀ k m, Quiet k m → p (k, m) = true)
    (hstep : Step machine net action net') (hclosed : Closed [action]) (hnet : Settling I Silent Quiet net) :
    action.sent.toList.length + answerable Silent net'.flight ≤
      answerable Silent net.flight + action.doubled.toList.countP p := by
  obtain ⟨hnode, hflight⟩ := hnet
  cases hstep with
  | @deliver node flight k m now =>
    replace hnode : ∀ k, I k (node k) := hnode
    have hm : Silent k m ∨ Quiet k m := hflight _ (Multiset.mem_cons_self _ _)
    rw [answerable_add, answerable_eq_zero (h.copies_silent (hnode k) hm), Action.sent, Nat.zero_add]
    by_cases hsilent : Silent k m
    · rw [h.silent k now m _ (hnode k) hsilent, answerable_cons_of_silent hsilent]
      simp
    · have hsent : (machine.receive now m (node k)).1.toList.length ≤ 1 := Option.length_toList_le
      rw [answerable_cons_of_not_silent hsilent]
      omega
  | lose k m => simpa [Action.sent, Action.doubled] using answerable_le_cons k m _
  | @duplicate node flight k m =>
    by_cases hsilent : Silent k m
    · rw [answerable_cons_of_silent hsilent]
      simp [Action.sent]
    · have hquiet : Quiet k m := (hflight _ (Multiset.mem_cons_self _ _)).resolve_left hsilent
      have hcount : (Action.doubled (.duplicate k m : Action κ μ τ γ)).toList.countP p = 1 := by
        simp [Action.doubled, hp k m hquiet]
      rw [answerable_cons_of_not_silent hsilent, hcount]
      simp [Action.sent]
  | inject k m => exact absurd (List.mem_singleton_self _) (hclosed k m)
  | call k c => simp [Action.sent]

omit [Fintype κ] [DecidableEq κ] in
lemma filterMap_cons_toList {α β : Type} (f : α → Option β) (a : α) (rest : List α) :
    (a :: rest).filterMap f = (f a).toList ++ rest.filterMap f := by
  rw [List.filterMap_cons]
  cases f a <;> rfl

/-- **Rule for answers**: if nothing comes in from outside, only copies that may be answered are. -/
theorem Settles.answered (h : Settles machine I Silent Quiet) (hrun : Run machine net actions net')
    (hclosed : Closed actions) (hnet : Settling I Silent Quiet net) {k : κ} {m : μ} {now : τ} {answer : μ}
    (hmem : .deliver k m now (some answer) ∈ actions) : Quiet k m ∧ ¬Silent k m := by
  induction hrun with
  | nil net => exact absurd hmem List.not_mem_nil
  | cons hstep hrest ih =>
    rcases List.mem_cons.1 hmem with rfl | hmem
    · exact h.step_answered hstep hnet
    · exact ih hclosed.tail (h.keeps.step hstep hnet (.of_closed hclosed.head)) hmem

/-- **Rule for the number of answers**: there are no more of them than copies that may be answered, the ones in the
beginning and the ones that are made by doubling. -/
theorem Settles.answers_le (h : Settles machine I Silent Quiet) (hp : ∀ k m, Quiet k m → p (k, m) = true)
    (hrun : Run machine net actions net') (hclosed : Closed actions) (hnet : Settling I Silent Quiet net) :
    (actions.filterMap Action.sent).length ≤
      answerable Silent net.flight + (actions.filterMap Action.doubled).countP p := by
  induction hrun with
  | nil net => exact Nat.zero_le _
  | cons hstep hrest ih =>
    have hcount := ih hclosed.tail (h.keeps.step hstep hnet (.of_closed hclosed.head))
    have hfewer := h.step_answerable hp hstep hclosed.head hnet
    rw [filterMap_cons_toList, filterMap_cons_toList, List.length_append, List.countP_append]
    omega

end Answers

end Network

end TcpIp.Lib
