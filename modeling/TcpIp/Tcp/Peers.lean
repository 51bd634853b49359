import TcpIp.Lib.Interleaving
import TcpIp.Tcp.Handshake

/-!
# Peers of a listener do not disturb each other

Segments of different endpoints meet in the size of the table and in the counter of initial sequence numbers, and
nowhere else.

* `Agree` — two listeners have the same entry for an endpoint.  A segment of the endpoint is then treated alike, unless
  it enters the table of one of them only, or with another sequence number (`step_of_agree`);
* `peers_independent` — segments of different endpoints commute exactly when they do not compete for the table, and
  what becomes of a connection depends on the segments of its own endpoint alone.
-/

namespace TcpIp.Tcp.Listener

open TcpIp.Lib

namespace TcpListener

variable {listener listener' : TcpListener} {call a b : Call}

/-! ### What a call leaves of the counters -/

lemma step_of_admits (h : listener.Admits call) :
    (listener.step call).2.nextInitialSequence = listener.nextInitialSequence + 1 ∧
    (listener.step call).2.len = listener.len + 1 := by
  rw [step_eq_of_effect (Effect.accept h)]
  exact ⟨rfl, HashMap.len_insert_of_lookup_none h.new _⟩

lemma step_of_not_admits (h : ¬listener.Admits call) :
    (listener.step call).2.nextInitialSequence = listener.nextInitialSequence ∧
    (listener.step call).2.len = listener.len := by
  have heffect := receiveSegment_effect listener call
  generalize listener.step call = result at heffect ⊢
  obtain ⟨action, after⟩ := result
  dsimp only at heffect ⊢
  cases heffect with
  | accept ha => exact absurd ha h
  | retransmit connection hr => exact ⟨rfl, rfl⟩
  | establish connection hc => exact ⟨rfl, HashMap.len_insert_of_lookup_some hc.found _⟩
  | ignore _ _ _ => exact ⟨rfl, rfl⟩

lemma connection_step_of_ne {key : TcpConnectionKey} (h : key ≠ listener.keyOf call.endpoint) :
    (listener.step call).2.connection key = listener.connection key := by
  rcases connection_step listener call key with hsame | ⟨-, hkey, -⟩ | ⟨_, -, hkey, -⟩
  · exact hsame
  · exact absurd hkey h
  · exact absurd hkey h

lemma ext_connection (hip : listener.localIp = listener'.localIp) (hport : listener.localPort = listener'.localPort)
    (hcapacity : listener.capacity = listener'.capacity)
    (hcounter : listener.nextInitialSequence = listener'.nextInitialSequence)
    (hconnection : ∀ key, listener.connection key = listener'.connection key) : listener = listener' := by
  obtain ⟨localIp, localPort, capacity, counter, connections⟩ := listener
  obtain ⟨localIp', localPort', capacity', counter', connections'⟩ := listener'
  obtain rfl : connections = connections' := Finmap.ext_lookup hconnection
  simp only at hip hport hcapacity hcounter
  rw [hip, hport, hcapacity, hcounter]

/-! ### One endpoint in two listeners -/

/-- The listeners have the same address and the same entry for the endpoint. -/
structure Agree (endpoint : Endpoint) (listener listener' : TcpListener) : Prop where
  localIp : listener.localIp = listener'.localIp
  localPort : listener.localPort = listener'.localPort
  connection : listener.connection (listener.keyOf endpoint) = listener'.connection (listener.keyOf endpoint)

lemma Agree.keyOf {endpoint : Endpoint} (h : Agree endpoint listener listener') (e : Endpoint) :
    listener'.keyOf e = listener.keyOf e := by
  rw [TcpListener.keyOf, ← h.localIp, ← h.localPort]
  rfl

lemma agree_step {endpoint : Endpoint} (h : call.endpoint ≠ endpoint) :
    Agree endpoint listener (listener.step call).2 := by
  obtain ⟨hip, hport, -⟩ := step_fields listener call
  exact ⟨hip.symm, hport.symm, (connection_step_of_ne fun hkey => h (keyOf_injective hkey).symm).symm⟩

lemma step_of_agree (h : Agree call.endpoint listener listener')
    (hadmits : listener.Admits call ↔ listener'.Admits call)
    (hcounter : listener.Admits call → listener.nextInitialSequence = listener'.nextInitialSequence) :
    (listener.step call).1 = (listener'.step call).1 ∧
    (listener.step call).2.connection (listener.keyOf call.endpoint) =
      (listener'.step call).2.connection (listener.keyOf call.endpoint) := by
  have hkey := h.keyOf call.endpoint
  have hretransmits : ∀ connection, listener.Retransmits call connection ↔ listener'.Retransmits call connection := by
    intro connection
    constructor
    · rintro ⟨hsyn, hfound, hhalf, hsequence⟩
      exact ⟨h.localPort ▸ hsyn, hkey.symm ▸ h.connection ▸ hfound, hhalf, hsequence⟩
    · rintro ⟨hsyn, hfound, hhalf, hsequence⟩
      exact ⟨h.localPort ▸ hsyn, h.connection.trans (hkey ▸ hfound), hhalf, hsequence⟩
  have hcompletes : ∀ connection, listener.Completes call connection ↔ listener'.Completes call connection := by
    intro connection
    constructor
    · rintro ⟨hack, hfound, hhalf, hsequence, hacknowledgement⟩
      exact ⟨h.localPort ▸ hack, hkey.symm ▸ h.connection ▸ hfound, hhalf, hsequence, hacknowledgement⟩
    · rintro ⟨hack, hfound, hhalf, hsequence, hacknowledgement⟩
      exact ⟨h.localPort ▸ hack, h.connection.trans (hkey ▸ hfound), hhalf, hsequence, hacknowledgement⟩
  have heffect := receiveSegment_effect listener call
  generalize listener.step call = result at heffect ⊢
  obtain ⟨action, after⟩ := result
  dsimp only at heffect ⊢
  cases heffect with
  | accept ha =>
    have hnew : listener'.newConnection call.segment = listener.newConnection call.segment := by
      rw [newConnection, ← hcounter ha]
      rfl
    rw [step_eq_of_effect (Effect.accept (hadmits.1 ha)), connection_admitted, connection_admitted, hkey, hnew]
    exact ⟨rfl, by rw [if_pos rfl, if_pos rfl]⟩
  | retransmit connection hr =>
    rw [step_eq_of_effect (Effect.retransmit connection ((hretransmits connection).1 hr)), hkey]
    exact ⟨rfl, h.connection⟩
  | establish connection hc =>
    have hc' := (hcompletes connection).1 hc
    rw [step_eq_of_effect (Effect.establish connection hc'), connection_establish hc, connection_establish hc', hkey]
    exact ⟨rfl, by rw [if_pos rfl, if_pos rfl]⟩
  | ignore hadmit hretransmit hcomplete =>
    rw [step_eq_of_effect (Effect.ignore (fun ha => hadmit (hadmits.2 ha))
      (fun connection hr => hretransmit connection ((hretransmits connection).2 hr))
      (fun connection hc => hcomplete connection ((hcompletes connection).2 hc)))]
    exact ⟨rfl, h.connection⟩

/-! ### Two endpoints in one listener -/

section Two

variable (hne : a.endpoint ≠ b.endpoint)
include hne

/-- A call of another endpoint neither opens nor closes the table to a SYN, unless it takes a place itself. -/
lemma admits_step_iff (hcompete : ¬(listener.Admits a ∧ listener.Admits b)) :
    listener.Admits b ↔ (listener.step a).2.Admits b := by
  have hagree : Agree b.endpoint listener (listener.step a).2 := agree_step hne
  have hkey := hagree.keyOf b.endpoint
  obtain ⟨-, -, hcapacity⟩ := step_fields listener a
  by_cases ha : listener.Admits a
  · obtain ⟨-, hlen⟩ := step_of_admits ha
    refine ⟨fun hb => absurd ⟨ha, hb⟩ hcompete, fun ⟨hsyn, hnew, hroom⟩ => ?_⟩
    rw [hlen, hcapacity] at hroom
    exact ⟨hagree.localPort ▸ hsyn, hagree.connection.trans (hkey ▸ hnew), by omega⟩
  · obtain ⟨-, hlen⟩ := step_of_not_admits ha
    constructor
    · rintro ⟨hsyn, hnew, hroom⟩
      exact ⟨hagree.localPort ▸ hsyn, hkey.symm ▸ hagree.connection ▸ hnew, by rwa [hlen, hcapacity]⟩
    · rintro ⟨hsyn, hnew, hroom⟩
      exact ⟨hagree.localPort ▸ hsyn, hagree.connection.trans (hkey ▸ hnew), by rwa [hlen, hcapacity] at hroom⟩

lemma step_after (hcompete : ¬(listener.Admits a ∧ listener.Admits b)) :
    (listener.step b).1 = ((listener.step a).2.step b).1 ∧
    (listener.step b).2.connection (listener.keyOf b.endpoint) =
      ((listener.step a).2.step b).2.connection (listener.keyOf b.endpoint) := by
  refine step_of_agree (agree_step hne) (admits_step_iff hne hcompete) fun hb => ?_
  exact (step_of_not_admits fun ha => hcompete ⟨ha, hb⟩).1.symm

/-- Two SYNs that compete for the table are told apart by the sequence number the first one gets. -/
lemma step_ne_of_compete (ha : listener.Admits a) (hb : listener.Admits b) :
    ((listener.step b).2.step a).1 ≠ (listener.step a).1 := by
  intro heq
  rw [step_eq_of_effect (Effect.accept ha)] at heq
  obtain ⟨-, connection, hafter, -, -, hreply⟩ := step_eq_sendSynAck_iff.1 heq
  have hagree : Agree a.endpoint listener (listener.step b).2 := agree_step hne.symm
  have hnew : (listener.step b).2.connection ((listener.step b).2.keyOf a.endpoint) = none := by
    rw [hagree.keyOf, ← hagree.connection]
    exact ha.new
  -- the entry is new after the first SYN too, so it is the second one that makes it
  have hadmits : (listener.step b).2.Admits a := by
    by_contra hno
    rcases connection_step (listener.step b).2 a ((listener.step b).2.keyOf a.endpoint) with
      hsame | ⟨hyes, -⟩ | ⟨_, hc, -⟩
    · cases hafter.symm.trans (hsame.trans hnew)
    · exact hno hyes
    · cases hc.found.symm.trans hnew
  rw [connection_step_of_admits hadmits] at hafter
  obtain rfl := Option.some.inj hafter
  have hsequence : listener.nextInitialSequence = (listener.step b).2.nextInitialSequence :=
    congrArg SynAck.sequenceNumber hreply
  rw [(step_of_admits hb).1] at hsequence
  simp at hsequence

lemma nextInitialSequence_comm (hcompete : ¬(listener.Admits a ∧ listener.Admits b)) :
    ((listener.step a).2.step b).2.nextInitialSequence = ((listener.step b).2.step a).2.nextInitialSequence := by
  have hcompete' : ¬(listener.Admits b ∧ listener.Admits a) := fun ⟨hb, ha⟩ => hcompete ⟨ha, hb⟩
  have hb' := admits_step_iff hne hcompete
  have ha' := admits_step_iff hne.symm hcompete'
  by_cases ha : listener.Admits a
  · have hb : ¬listener.Admits b := fun hb => hcompete ⟨ha, hb⟩
    rw [(step_of_not_admits (hb'.not.1 hb)).1, (step_of_admits ha).1, (step_of_admits (ha'.1 ha)).1,
      (step_of_not_admits hb).1]
  · by_cases hb : listener.Admits b
    · rw [(step_of_admits (hb'.1 hb)).1, (step_of_not_admits ha).1, (step_of_not_admits (ha'.not.1 ha)).1,
        (step_of_admits hb).1]
    · rw [(step_of_not_admits (hb'.not.1 hb)).1, (step_of_not_admits ha).1, (step_of_not_admits (ha'.not.1 ha)).1,
        (step_of_not_admits hb).1]

lemma connection_comm (hcompete : ¬(listener.Admits a ∧ listener.Admits b)) (key : TcpConnectionKey) :
    ((listener.step a).2.step b).2.connection key = ((listener.step b).2.step a).2.connection key := by
  have hcompete' : ¬(listener.Admits b ∧ listener.Admits a) := fun ⟨hb, ha⟩ => hcompete ⟨ha, hb⟩
  have hne' : listener.keyOf a.endpoint ≠ listener.keyOf b.endpoint := fun h => hne (keyOf_injective h)
  have hkey : ∀ call e, (listener.step call).2.keyOf e = listener.keyOf e := step_keyOf listener
  by_cases hb : key = listener.keyOf b.endpoint
  · subst hb
    have hother : listener.keyOf b.endpoint ≠ (listener.step b).2.keyOf a.endpoint := by
      rw [hkey]
      exact hne'.symm
    rw [connection_step_of_ne hother]
    exact (step_after hne hcompete).2.symm
  · have hother : key ≠ (listener.step a).2.keyOf b.endpoint := by rwa [hkey]
    rw [connection_step_of_ne hother]
    by_cases ha : key = listener.keyOf a.endpoint
    · subst ha
      exact (step_after hne.symm hcompete').2
    · have hother' : key ≠ (listener.step b).2.keyOf a.endpoint := by rwa [hkey]
      rw [connection_step_of_ne ha, connection_step_of_ne hother', connection_step_of_ne hb]

lemma commutes_iff : Commutes step listener a b ↔ ¬(listener.Admits a ∧ listener.Admits b) := by
  constructor
  · rintro hcommutes ⟨ha, hb⟩
    exact step_ne_of_compete hne ha hb hcommutes.left
  · intro hcompete
    have hcompete' : ¬(listener.Admits b ∧ listener.Admits a) := fun ⟨hb, ha⟩ => hcompete ⟨ha, hb⟩
    refine ⟨(step_after hne.symm hcompete').1.symm, (step_after hne hcompete).1.symm, ?_⟩
    obtain ⟨hipA, hportA, hcapacityA⟩ := step_fields listener a
    obtain ⟨hipB, hportB, hcapacityB⟩ := step_fields listener b
    obtain ⟨hipAB, hportAB, hcapacityAB⟩ := step_fields (listener.step a).2 b
    obtain ⟨hipBA, hportBA, hcapacityBA⟩ := step_fields (listener.step b).2 a
    refine ext_connection ?_ ?_ ?_ (nextInitialSequence_comm hne hcompete) (connection_comm hne hcompete)
    · rw [hipAB, hipBA, hipA, hipB]
    · rw [hportAB, hportBA, hportA, hportB]
    · rw [hcapacityAB, hcapacityBA, hcapacityA, hcapacityB]

end Two

/-! ### A connection and the segments of its endpoint -/

/-- The listeners have the same entry for the endpoint, and it is there. -/
structure Share (endpoint : Endpoint) (listener listener' : TcpListener) : Prop extends
    Agree endpoint listener listener' where
  present : listener.connection (listener.keyOf endpoint) ≠ none

lemma looksAlike_share (endpoint : Endpoint) : LooksAlike Call.endpoint step endpoint (Share endpoint) := by
  have hstays : ∀ (listener : TcpListener) (call : Call),
      listener.connection (listener.keyOf endpoint) ≠ none →
      (listener.step call).2.connection ((listener.step call).2.keyOf endpoint) ≠ none := by
    intro listener call hpresent
    obtain ⟨connection, hconnection⟩ := Option.ne_none_iff_exists'.1 hpresent
    rw [step_keyOf]
    rcases connection_step_of_some call hconnection with hsame | ⟨-, hcompleted⟩
    · rw [hsame]
      exact Option.some_ne_none _
    · rw [hcompleted]
      exact Option.some_ne_none _
  -- an endpoint that is in the table is not admitted again
  have halike : ∀ (call : Call) (l l' : TcpListener), call.endpoint = endpoint → Share endpoint l l' →
      (l.step call).1 = (l'.step call).1 ∧ (l.step call).2.connection (l.keyOf call.endpoint) =
        (l'.step call).2.connection (l.keyOf call.endpoint) := by
    rintro call l l' rfl ⟨hagree, hpresent⟩
    have hno : ¬l.Admits call := fun ha => hpresent ha.new
    have hno' : ¬l'.Admits call := fun ha => hpresent (hagree.connection.trans (hagree.keyOf _ ▸ ha.new))
    exact step_of_agree hagree (iff_of_false hno hno') fun ha => absurd ha hno
  refine ⟨fun call l l' hcall h => (halike call l l' hcall h).1, fun call l l' hcall h => ?_,
    fun call l l' hcall h => ?_⟩
  · obtain ⟨hip, hport, -⟩ := step_fields l call
    obtain ⟨hip', hport', -⟩ := step_fields l' call
    refine ⟨⟨hip.trans (h.localIp.trans hip'.symm), hport.trans (h.localPort.trans hport'.symm), ?_⟩,
      hstays l call h.present⟩
    rw [step_keyOf, ← hcall]
    exact (halike call l l' hcall h).2
  · obtain ⟨hip, hport, -⟩ := step_fields l call
    have hagree : Agree endpoint l (l.step call).2 := agree_step hcall
    refine ⟨⟨hip.trans h.localIp, hport.trans h.localPort, ?_⟩, hstays l call h.present⟩
    rw [step_keyOf, ← hagree.connection]
    exact h.connection

/-- **Peers are independent.**  The order of two segments of different endpoints matters only if both are SYNs that
would enter the table; and what becomes of a connection in the table, and what its endpoint is answered, depends on the
segments of its own endpoint alone. -/
theorem peers_independent (listener : TcpListener) :
    (∀ a b : Call, a.endpoint ≠ b.endpoint →
      (Commutes step listener a b ↔ ¬(listener.Admits a ∧ listener.Admits b))) ∧
    (∀ (endpoint : Endpoint) (calls : List Call), listener.connection (listener.keyOf endpoint) ≠ none →
      (run step listener calls).connection (listener.keyOf endpoint) =
        (run step listener (calls.filter fun call => call.endpoint = endpoint)).connection
          (listener.keyOf endpoint) ∧
      answersTo Call.endpoint endpoint (trace step listener calls) = answersTo Call.endpoint endpoint
        (trace step listener (calls.filter fun call => call.endpoint = endpoint))) := by
  refine ⟨fun a b hne => commutes_iff hne, fun endpoint calls hpresent => ?_⟩
  have hshare : Share endpoint listener listener := ⟨⟨rfl, rfl, rfl⟩, hpresent⟩
  obtain ⟨hrun, hanswers⟩ := (looksAlike_share endpoint).run_own hshare calls
  refine ⟨?_, hanswers⟩
  have hconnection := hrun.connection
  rwa [Handshake.run_keyOf] at hconnection

end TcpListener

end TcpIp.Tcp.Listener
