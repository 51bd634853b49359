import TcpIp.Lib.Ledger
import TcpIp.Lib.Trace
import TcpIp.Tcp.Listener

/-!
# The handshake over whole runs

Runs of a listener on an arbitrary list of calls.

* `Represents` — the listener's table is a ledger of first-come SYNs: the key, the sequence numbers and the position
  of every connection can be read off the ledger, and only the state of a connection cannot.  Every call keeps this
  (`Represents.step`): a SYN is an arrival at the ledger, and no other segment is;
* `connection_table` — what the table holds after a run;
* `established_iff` — which connections a run establishes;
* `synAcks_of_run` — how the SYN-ACKs of a run are related.
-/

namespace TcpIp.Tcp.Handshake

open TcpIp.Lib TcpIp.Tcp.Listener TcpListener

/-! ### Connections over runs -/

section Runs

variable (listener : TcpListener) (calls : List Call)

lemma run_fields : (run step listener calls).localIp = listener.localIp ∧
    (run step listener calls).localPort = listener.localPort ∧
    (run step listener calls).capacity = listener.capacity := by
  refine run_invariant (fun l : TcpListener => l.localIp = listener.localIp ∧ l.localPort = listener.localPort ∧
    l.capacity = listener.capacity) (fun call l h => ?_) ⟨rfl, rfl, rfl⟩ calls
  obtain ⟨hip, hport, hcapacity⟩ := step_fields l call
  exact ⟨hip.trans h.1, hport.trans h.2.1, hcapacity.trans h.2.2⟩

lemma run_keyOf (endpoint : Endpoint) :
    (run step listener calls).keyOf endpoint = listener.keyOf endpoint := by
  obtain ⟨hip, hport, -⟩ := run_fields listener calls
  rw [keyOf, hip, hport]
  rfl

variable {listener} {key : TcpConnectionKey} {connection : TcpConnection}

lemma run_connection_of_established (h : listener.connection key = some connection)
    (hstate : connection.state = .established) : (run step listener calls).connection key = some connection := by
  refine run_invariant (fun l : TcpListener => l.connection key = some connection) (fun call l hl => ?_) h calls
  rcases connection_step_of_some call hl with hsame | ⟨hhalf, -⟩
  · exact hsame
  · rw [hstate] at hhalf
    cases hhalf

/-- **No entry of the table is lost or rewritten.** -/
lemma run_connection_of_some (h : listener.connection key = some connection) :
    (run step listener calls).connection key = some connection ∨
      connection.state = .synReceived ∧ (run step listener calls).connection key = some (completed connection) := by
  induction calls using List.reverseRecOn with
  | nil => exact Or.inl h
  | append_singleton past call ih =>
    rw [run_snoc]
    rcases ih with hsame | ⟨hhalf, hcompleted⟩
    · exact connection_step_of_some call hsame
    · rcases connection_step_of_some call hcompleted with hsame | ⟨hhalf', -⟩
      · exact Or.inr ⟨hhalf, hsame⟩
      · cases hhalf'

end Runs

/-! ### The table is a ledger of SYNs -/

/-- The connection with initial sequence numbers `iss` and `irs`. -/
def connectionAt (iss irs : UInt32) (state : TcpConnectionState) : TcpConnection where
  state := state
  initialSendSequence := iss
  sendUnacknowledged := match state with
    | .synReceived => iss
    | .established => iss + 1
  sendNext := iss + 1
  initialReceiveSequence := irs
  receiveNext := irs + 1

/-- The listener is `start` with the connections of the ledger. -/
structure Represents (start : TcpListener) (table : Ledger Call.endpoint start.capacity) (listener : TcpListener) :
    Prop where
  localIp : listener.localIp = start.localIp
  localPort : listener.localPort = start.localPort
  capacity : listener.capacity = start.capacity
  counter : listener.nextInitialSequence = start.nextInitialSequence + UInt32.ofNat table.items.length
  len : listener.len = table.items.length
  keys : ∀ key connection, listener.connection key = some connection →
    ∃ call ∈ table.items, key = start.keyOf call.endpoint
  entry : ∀ i call, table.items[i]? = some call → ∃ state, listener.connection (start.keyOf call.endpoint) =
    some (connectionAt (start.nextInitialSequence + UInt32.ofNat i) call.segment.sequenceNumber state)

namespace Represents

variable {start listener : TcpListener} {table : Ledger Call.endpoint start.capacity}

lemma keyOf (h : Represents start table listener) (endpoint : Endpoint) :
    listener.keyOf endpoint = start.keyOf endpoint := by
  rw [TcpListener.keyOf, h.localIp, h.localPort]
  rfl

lemma mem_iff (h : Represents start table listener) (endpoint : Endpoint) :
    endpoint ∈ table.items.map Call.endpoint ↔ listener.connection (start.keyOf endpoint) ≠ none := by
  constructor
  · intro hmem
    obtain ⟨call, hcall, rfl⟩ := List.mem_map.1 hmem
    obtain ⟨i, hi⟩ := List.mem_iff_getElem?.1 hcall
    obtain ⟨state, hstate⟩ := h.entry i call hi
    rw [hstate]
    exact Option.some_ne_none _
  · intro hne
    obtain ⟨connection, hconnection⟩ := Option.ne_none_iff_exists'.1 hne
    obtain ⟨call, hcall, hkey⟩ := h.keys _ _ hconnection
    exact List.mem_map.2 ⟨call, hcall, (keyOf_injective hkey).symm⟩

lemma connection_eq (h : Represents start table listener) {key : TcpConnectionKey} {connection : TcpConnection}
    (hconnection : listener.connection key = some connection) :
    ∃ iss irs state, connection = connectionAt iss irs state := by
  obtain ⟨call, hcall, rfl⟩ := h.keys _ _ hconnection
  obtain ⟨i, hi⟩ := List.mem_iff_getElem?.1 hcall
  obtain ⟨state, hstate⟩ := h.entry i call hi
  exact ⟨_, _, state, Option.some.inj (hconnection.symm.trans hstate)⟩

lemma new (localIp : Ipv4Addr) (localPort : UInt16) (capacity : ℕ) (initialSequence : UInt32) :
    Represents (TcpListener.new localIp localPort capacity initialSequence) Ledger.empty
      (TcpListener.new localIp localPort capacity initialSequence) where
  localIp := rfl
  localPort := rfl
  capacity := rfl
  counter := (UInt32.add_zero _).symm
  len := rfl
  keys key connection h := by
    rw [TcpListener.connection, TcpListener.new, Finmap.lookup_empty] at h
    cases h
  entry i call h := by cases h

lemma admitted (h : Represents start table listener) {call : Call} (ha : listener.Admits call) :
    Represents start (table.offer call) (listener.admitted call) := by
  have hkey := h.keyOf call.endpoint
  have hnew : call.endpoint ∉ table.items.map Call.endpoint := by
    rw [h.mem_iff, not_not, ← hkey]
    exact ha.new
  have hroom : table.items.length < start.capacity := by
    rw [← h.len, ← h.capacity]
    exact ha.room
  have hitems := Ledger.offer_of_new hnew hroom
  refine ⟨h.localIp, h.localPort, h.capacity, ?_, ?_, ?_, ?_⟩
  · rw [hitems, List.length_append, List.length_singleton, UInt32.ofNat_add, ← UInt32.add_assoc, ← h.counter]
    rfl
  · rw [hitems, List.length_append, List.length_singleton, ← h.len]
    exact HashMap.len_insert_of_lookup_none ha.new _
  · intro key connection hconnection
    rw [connection_admitted] at hconnection
    rw [hitems]
    by_cases hk : key = listener.keyOf call.endpoint
    · exact ⟨call, by simp, hk.trans hkey⟩
    · rw [if_neg hk] at hconnection
      obtain ⟨call', hcall', hkey'⟩ := h.keys key connection hconnection
      exact ⟨call', List.mem_append_left _ hcall', hkey'⟩
  · intro i call' hi
    rw [hitems] at hi
    rw [connection_admitted, hkey]
    by_cases hlast : i = table.items.length
    · -- the new entry is the last of the ledger
      subst hlast
      obtain rfl : call = call' := by simpa using hi
      refine ⟨.synReceived, ?_⟩
      rw [if_pos rfl, newConnection, h.counter]
      rfl
    · have hold : table.items[i]? = some call' := by
        obtain ⟨hlt, -⟩ := List.getElem?_eq_some_iff.1 hi
        rw [List.length_append, List.length_singleton] at hlt
        rwa [List.getElem?_append_left (by omega)] at hi
      obtain ⟨state, hstate⟩ := h.entry i call' hold
      refine ⟨state, ?_⟩
      rw [if_neg ?_, hstate]
      intro heq
      have hmem : call'.endpoint ∈ table.items.map Call.endpoint :=
        List.mem_map.2 ⟨call', List.mem_of_getElem? hold, rfl⟩
      rw [keyOf_injective heq] at hmem
      exact hnew hmem

lemma establish (h : Represents start table listener) {call : Call} {connection : TcpConnection}
    (hc : listener.Completes call connection) : Represents start table (listener.establish call connection) := by
  have hkey := h.keyOf call.endpoint
  refine ⟨h.localIp, h.localPort, h.capacity, h.counter, ?_, ?_, ?_⟩
  · rw [← h.len]
    exact HashMap.len_insert_of_lookup_some hc.found _
  · intro key connection' hconnection
    rw [connection_establish hc] at hconnection
    by_cases hk : key = listener.keyOf call.endpoint
    · obtain ⟨call', hcall', hkey'⟩ := h.keys _ _ hc.found
      exact ⟨call', hcall', hk.trans hkey'⟩
    · rw [if_neg hk] at hconnection
      exact h.keys key connection' hconnection
  · intro i call' hi
    obtain ⟨state, hstate⟩ := h.entry i call' hi
    rw [connection_establish hc]
    by_cases hk : start.keyOf call'.endpoint = listener.keyOf call.endpoint
    · -- this entry is the one whose handshake is completed
      refine ⟨.established, ?_⟩
      rw [if_pos hk]
      rw [hk] at hstate
      obtain rfl := Option.some.inj (hc.found.symm.trans hstate)
      rfl
    · exact ⟨state, by rw [if_neg hk, hstate]⟩

/-- **One call**: an acceptable SYN is an arrival at the ledger, no other segment changes it. -/
theorem step (h : Represents start table listener) (call : Call) :
    Represents start (if call.InitialSyn start.localPort then table.offer call else table)
      (listener.step call).2 := by
  have heffect := receiveSegment_effect listener call
  generalize listener.step call = result at heffect ⊢
  obtain ⟨action, after⟩ := result
  dsimp only at heffect ⊢
  cases heffect with
  | accept ha =>
    rw [if_pos (h.localPort ▸ ha.syn)]
    exact h.admitted ha
  | retransmit connection hr =>
    have hmem : call.endpoint ∈ table.items.map Call.endpoint := by
      rw [h.mem_iff, ← h.keyOf, hr.found]
      exact Option.some_ne_none _
    rw [if_pos (h.localPort ▸ hr.syn), Ledger.offer_of_mem hmem]
    exact h
  | establish connection hc =>
    rw [if_neg (not_initialSyn_of_pureAck hc.ack)]
    exact h.establish hc
  | ignore hadmits _ _ =>
    split_ifs with hsyn
    · -- the endpoint is in the table, or the table is full
      by_cases hfound : listener.connection (listener.keyOf call.endpoint) = none
      · have hfull : start.capacity ≤ table.items.length := by
          rw [← h.len, ← h.capacity]
          exact Nat.le_of_not_lt fun hroom => hadmits ⟨h.localPort ▸ hsyn, hfound, hroom⟩
        rw [Ledger.offer_of_full hfull]
        exact h
      · have hmem : call.endpoint ∈ table.items.map Call.endpoint := by
          rw [h.mem_iff, ← h.keyOf]
          exact hfound
        rw [Ledger.offer_of_mem hmem]
        exact h
    · exact h

end Represents

/-- The acceptable initial SYNs of a run, in order. -/
def initialSyns (localPort : UInt16) (calls : List Call) : List Call :=
  calls.filter fun call => call.InitialSyn localPort

lemma initialSyns_snoc (localPort : UInt16) (calls : List Call) (call : Call) :
    initialSyns localPort (calls ++ [call]) =
      if call.InitialSyn localPort then initialSyns localPort calls ++ [call] else initialSyns localPort calls := by
  unfold initialSyns
  rw [List.filter_append]
  split_ifs with h
  · simp [h]
  · simp [h]

/-- **A run of a new listener** leaves the ledger of its SYNs. -/
theorem represents_run {start : TcpListener} (hstart : Represents start Ledger.empty start) (calls : List Call) :
    Represents start (Ledger.offers (initialSyns start.localPort calls)) (run step start calls) := by
  refine run_history (fun past listener =>
    Represents start (Ledger.offers (initialSyns start.localPort past)) listener) hstart ?_ calls
  intro past call listener h
  have hstep := h.step call
  rw [initialSyns_snoc]
  split_ifs at hstep ⊢ with hsyn
  · rw [Ledger.offers_snoc]
    exact hstep
  · exact hstep

/-- **What the table holds after a run.**  The endpoints that sent an acceptable initial SYN are served in the order
of their first SYN, as long as there is room; the sequence numbers of a connection follow from its place in that order
and from its SYN; a connection that is in the table stays there. -/
theorem connection_table (localIp : Ipv4Addr) (localPort : UInt16) (capacity : ℕ) (initialSequence : UInt32)
    (calls : List Call) :
    let listener := run step (TcpListener.new localIp localPort capacity initialSequence) calls
    let firsts := firstsBy Call.endpoint (calls.filter fun call => call.InitialSyn localPort)
    (∀ key, (∃ connection, listener.connection key = some connection) ↔ ∃ call ∈ firsts.take capacity,
      key = { localIp, localPort, remoteIp := call.remoteIp, remotePort := call.segment.sourcePort }) ∧
    (∀ i call, i < capacity → firsts[i]? = some call → ∃ connection,
      listener.connection { localIp, localPort, remoteIp := call.remoteIp, remotePort := call.segment.sourcePort } =
        some connection ∧
      connection.initialSendSequence = initialSequence + UInt32.ofNat i ∧
      connection.initialReceiveSequence = call.segment.sequenceNumber ∧
      connection.sendNext = connection.initialSendSequence + 1 ∧
      connection.receiveNext = connection.initialReceiveSequence + 1 ∧
      (connection.state = .synReceived → connection.sendUnacknowledged = connection.initialSendSequence) ∧
      (connection.state = .established → connection.sendUnacknowledged = connection.sendNext)) ∧
    listener.len = min capacity firsts.length ∧
    listener.nextInitialSequence = initialSequence + UInt32.ofNat listener.len ∧
    (∀ later key connection, listener.connection key = some connection →
      (run step listener later).connection key = some connection ∨ connection.state = .synReceived ∧
        (run step listener later).connection key = some { connection with
          state := .established, sendUnacknowledged := connection.sendNext }) := by
  intro listener firsts
  have h := represents_run (Represents.new localIp localPort capacity initialSequence) calls
  have hitems : (Ledger.offers (initialSyns localPort calls) : Ledger Call.endpoint capacity).items =
    firsts.take capacity := Ledger.items_offers _
  refine ⟨fun key => ⟨?_, ?_⟩, ?_, ?_, ?_, ?_⟩
  · rintro ⟨connection, hconnection⟩
    obtain ⟨call, hcall, hkey⟩ := h.keys key connection hconnection
    exact ⟨call, hitems ▸ hcall, hkey⟩
  · rintro ⟨call, hcall, rfl⟩
    rw [← hitems] at hcall
    have hmem := (h.mem_iff call.endpoint).1 (List.mem_map.2 ⟨call, hcall, rfl⟩)
    exact Option.ne_none_iff_exists'.1 hmem
  · intro i call hi hcall
    have hentry : (firsts.take capacity)[i]? = some call := by
      rw [List.getElem?_take_of_lt hi, hcall]
    rw [← hitems] at hentry
    obtain ⟨state, hstate⟩ := h.entry i call hentry
    refine ⟨_, hstate, rfl, rfl, rfl, rfl, ?_, ?_⟩
    · rintro rfl
      rfl
    · rintro rfl
      rfl
  · rw [h.len]
    exact (congrArg List.length hitems).trans List.length_take
  · rw [h.len]
    exact h.counter
  · intro later key connection hconnection
    exact run_connection_of_some later hconnection

/-! ### SYN-ACKs -/

section SynAcks

variable {listener : TcpListener}

lemma synAck_of_run {key : TcpConnectionKey} {connection : TcpConnection} (calls : List Call)
    (h : listener.connection key = some connection) : ∃ last,
      (run step listener calls).connection key = some last ∧ synAck key last = synAck key connection := by
  rcases run_connection_of_some calls h with hsame | ⟨-, hcompleted⟩
  · exact ⟨connection, hsame, rfl⟩
  · exact ⟨completed connection, hcompleted, rfl⟩

/-- **A step of a run sends a SYN-ACK** for an initial SYN that leaves its connection half open with the number of the
SYN, and for no other segment. -/
lemma sendSynAck_iff_of_mem_trace {start : TcpListener} {calls : List Call} {t : Step TcpListener Call TcpAction}
    (ht : t ∈ trace step start calls) : (∃ reply, t.output = .sendSynAck reply) ↔
      t.input.InitialSyn start.localPort ∧ ∃ connection,
        t.after.connection (start.keyOf t.input.endpoint) = some connection ∧ connection.state = .synReceived ∧
          t.input.segment.sequenceNumber = connection.initialReceiveSequence := by
  obtain ⟨past, future, -, hbefore, houtput, hafter⟩ := mem_trace_iff.1 ht
  have hkey : start.keyOf t.input.endpoint = t.before.keyOf t.input.endpoint := by
    rw [hbefore, run_keyOf]
  have hport : start.localPort = t.before.localPort := by
    rw [hbefore]
    exact (run_fields start past).2.1.symm
  rw [houtput, hafter, hkey, hport]
  constructor
  · rintro ⟨reply, hreply⟩
    obtain ⟨hsyn, connection, hfound, hhalf, hsequence, -⟩ := step_eq_sendSynAck_iff.1 hreply
    exact ⟨hsyn, connection, hfound, hhalf, hsequence⟩
  · rintro ⟨hsyn, connection, hfound, hhalf, hsequence⟩
    exact ⟨_, step_eq_sendSynAck_iff.2 ⟨hsyn, connection, hfound, hhalf, hsequence, rfl⟩⟩

lemma step_of_established {call : Call} {connection : TcpConnection}
    (h : listener.connection (listener.keyOf call.endpoint) = some connection)
    (hstate : connection.state = .established) : (listener.step call).1 = .noReply := by
  cases haction : (listener.step call).1 with
  | noReply => rfl
  | sendSynAck reply =>
    obtain ⟨-, connection', hafter, hhalf, -, -⟩ := step_eq_sendSynAck_iff.1 haction
    rcases connection_step_of_some call h with hsame | ⟨hhalf', -⟩
    · rw [hafter] at hsame
      rw [Option.some.inj hsame, hstate] at hhalf
      cases hhalf
    · rw [hstate] at hhalf'
      cases hhalf'

lemma synAck_of_mem_trace {start : TcpListener} {calls : List Call} {t : Step TcpListener Call TcpAction}
    {reply : SynAck} (ht : t ∈ trace step start calls) (hreply : t.output = .sendSynAck reply) : ∃ last,
      (run step start calls).connection (start.keyOf t.input.endpoint) = some last ∧
        reply = synAck (start.keyOf t.input.endpoint) last := by
  obtain ⟨past, future, hcalls, hbefore, houtput, -⟩ := mem_trace_iff.1 ht
  rw [houtput] at hreply
  obtain ⟨-, connection, hafter, -, -, rfl⟩ := step_eq_sendSynAck_iff.1 hreply
  have hkey : t.before.keyOf t.input.endpoint = start.keyOf t.input.endpoint := by
    rw [hbefore, run_keyOf]
  rw [hkey] at hafter ⊢
  obtain ⟨last, hlast, heq⟩ := synAck_of_run future hafter
  refine ⟨last, ?_, heq.symm⟩
  rw [hcalls, run_append, run_cons, ← hbefore]
  exact hlast

end SynAcks

/-- Two endpoints of the table have different initial send sequences as long as there are not more of them than
sequence numbers. -/
lemma Represents.initialSendSequence_ne {start listener : TcpListener} {table : Ledger Call.endpoint start.capacity}
    (h : Represents start table listener) (hcapacity : start.capacity ≤ 2 ^ 32) {e e' : Endpoint} (hne : e ≠ e')
    {connection connection' : TcpConnection} (he : listener.connection (start.keyOf e) = some connection)
    (he' : listener.connection (start.keyOf e') = some connection') :
    connection.initialSendSequence ≠ connection'.initialSendSequence := by
  obtain ⟨call, hcall, hkey⟩ := h.keys _ _ he
  obtain ⟨call', hcall', hkey'⟩ := h.keys _ _ he'
  obtain ⟨i, hi⟩ := List.mem_iff_getElem?.1 hcall
  obtain ⟨j, hj⟩ := List.mem_iff_getElem?.1 hcall'
  obtain ⟨state, hstate⟩ := h.entry i call hi
  obtain ⟨state', hstate'⟩ := h.entry j call' hj
  rw [← hkey, he] at hstate
  rw [← hkey', he'] at hstate'
  obtain ⟨hilt, -⟩ := List.getElem?_eq_some_iff.1 hi
  obtain ⟨hjlt, -⟩ := List.getElem?_eq_some_iff.1 hj
  have hbound := table.bounded
  rw [Option.some.inj hstate, Option.some.inj hstate']
  intro heq
  have hij : UInt32.ofNat i = UInt32.ofNat j := (UInt32.add_right_inj _).1 heq
  have hval := congrArg UInt32.toNat hij
  rw [UInt32.toNat_ofNat', UInt32.toNat_ofNat', Nat.mod_eq_of_lt (by omega), Nat.mod_eq_of_lt (by omega)] at hval
  subst hval
  obtain rfl : call = call' := Option.some.inj (hi.symm.trans hj)
  exact hne (keyOf_injective (hkey.trans hkey'.symm))

/-- **How the SYN-ACKs of a run are related.** -/
theorem synAcks_of_run (localIp : Ipv4Addr) (localPort : UInt16) (capacity : ℕ) (initialSequence : UInt32)
    (calls : List Call) :
    let start := TcpListener.new localIp localPort capacity initialSequence
    let key := fun endpoint : Endpoint =>
      ({ localIp, localPort, remoteIp := endpoint.ip, remotePort := endpoint.port } : TcpConnectionKey)
    (∀ t ∈ trace step start calls, (∃ reply, t.output = .sendSynAck reply) ↔ t.input.InitialSyn localPort ∧
      ∃ connection, t.after.connection (key t.input.endpoint) = some connection ∧
        connection.state = .synReceived ∧
        t.input.segment.sequenceNumber = connection.initialReceiveSequence) ∧
    (∀ t ∈ trace step start calls, ∀ t' ∈ trace step start calls, ∀ reply reply',
      t.output = .sendSynAck reply → t'.output = .sendSynAck reply' →
      t.input.endpoint = t'.input.endpoint → reply = reply') ∧
    (∀ past call future, calls = past ++ call :: future → (∃ earlier later connection, past = earlier ++ later ∧
      (run step start earlier).connection (key call.endpoint) = some connection ∧
        connection.state = .established) → ((run step start past).step call).1 = .noReply) ∧
    (capacity ≤ 2 ^ 32 → ∀ t ∈ trace step start calls, ∀ t' ∈ trace step start calls, ∀ reply reply',
      t.output = .sendSynAck reply → t'.output = .sendSynAck reply' →
      t.input.endpoint ≠ t'.input.endpoint → reply.sequenceNumber ≠ reply'.sequenceNumber) := by
  intro start key
  refine ⟨?_, ?_, ?_, ?_⟩
  · intro t ht
    exact sendSynAck_iff_of_mem_trace ht
  · intro t ht t' ht' reply reply' hreply hreply' hendpoint
    obtain ⟨last, hlast, rfl⟩ := synAck_of_mem_trace ht hreply
    obtain ⟨last', hlast', rfl⟩ := synAck_of_mem_trace ht' hreply'
    rw [hendpoint] at hlast ⊢
    rw [Option.some.inj (hlast.symm.trans hlast')]
  · rintro past call future - ⟨earlier, later, connection, rfl, hconnection, hstate⟩
    have hpast := run_connection_of_established later hconnection hstate
    rw [← run_append] at hpast
    refine step_of_established ?_ hstate
    rw [run_keyOf]
    exact hpast
  · intro hcapacity t ht t' ht' reply reply' hreply hreply' hendpoint
    obtain ⟨last, hlast, rfl⟩ := synAck_of_mem_trace ht hreply
    obtain ⟨last', hlast', rfl⟩ := synAck_of_mem_trace ht' hreply'
    have h := represents_run (Represents.new localIp localPort capacity initialSequence) calls
    exact h.initialSendSequence_ne hcapacity hendpoint hlast hlast'

/-! ### Establishment -/

/-- The call is an acceptable initial SYN of the endpoint while there is room in the table. -/
structure Admissible (listener : TcpListener) (endpoint : Endpoint) (call : Call) : Prop where
  endpoint_eq : call.endpoint = endpoint
  syn : call.InitialSyn listener.localPort
  room : listener.len < listener.capacity

/-- The call is the ACK of the endpoint that answers the SYN-ACK of `connection`. -/
structure Answers (localPort : UInt16) (endpoint : Endpoint) (connection : TcpConnection) (call : Call) : Prop where
  endpoint_eq : call.endpoint = endpoint
  ack : call.PureAck localPort
  sequence : call.segment.sequenceNumber = connection.initialReceiveSequence + 1
  acknowledgement : call.segment.acknowledgementNumber = connection.initialSendSequence + 1

section Establishment

variable (start : TcpListener) (endpoint : Endpoint)

lemma connection_ne_none_of_admissible {listener : TcpListener} {call : Call}
    (h : Admissible listener endpoint call) (later : List Call) :
    (run step listener (call :: later)).connection (listener.keyOf endpoint) ≠ none := by
  have hafter : (listener.step call).2.connection (listener.keyOf endpoint) ≠ none := by
    obtain ⟨rfl, hsyn, hroom⟩ := h
    cases hfound : listener.connection (listener.keyOf call.endpoint) with
    | none =>
      rw [connection_step_of_admits ⟨hsyn, hfound, hroom⟩]
      exact Option.some_ne_none _
    | some connection =>
      rcases connection_step_of_some call hfound with hsame | ⟨-, hcompleted⟩
      · rw [hsame]
        exact Option.some_ne_none _
      · rw [hcompleted]
        exact Option.some_ne_none _
  obtain ⟨connection, hconnection⟩ := Option.ne_none_iff_exists'.1 hafter
  rw [run_cons]
  rcases run_connection_of_some later hconnection with hsame | ⟨-, hcompleted⟩
  · rw [hsame]
    exact Option.some_ne_none _
  · rw [hcompleted]
    exact Option.some_ne_none _

/-- Where a connection of a run comes from: a SYN that entered the table and, once it is established, an ACK. -/
lemma exists_cut_of_connection (hstart : start.connection (start.keyOf endpoint) = none) (calls : List Call) :
    ∀ connection, (run step start calls).connection (start.keyOf endpoint) = some connection →
      ∃ pre syn mid, calls = pre ++ syn :: mid ∧ syn.endpoint = endpoint ∧ (run step start pre).Admits syn ∧
        (connection = (run step start pre).newConnection syn.segment ∨
          connection = completed ((run step start pre).newConnection syn.segment) ∧
            ∃ mid₁ ack mid₂, mid = mid₁ ++ ack :: mid₂ ∧
              Answers start.localPort endpoint ((run step start pre).newConnection syn.segment) ack) := by
  induction calls using List.reverseRecOn with
  | nil =>
    intro connection hconnection
    cases hstart.symm.trans hconnection
  | append_singleton past call ih =>
    intro connection hconnection
    rw [run_snoc] at hconnection
    have hkeyOf : ∀ e, (run step start past).keyOf e = start.keyOf e := run_keyOf start past
    rcases connection_step (run step start past) call (start.keyOf endpoint) with
      hsame | ⟨hadmits, hkey, hnew⟩ | ⟨connection', hcompletes, hkey, hcompleted⟩
    · -- the call leaves the entry alone
      obtain ⟨pre, syn, mid, rfl, hendpoint, hadmits, horigin⟩ := ih connection (hsame.symm.trans hconnection)
      refine ⟨pre, syn, mid ++ [call], by simp, hendpoint, hadmits, ?_⟩
      rcases horigin with horigin | ⟨horigin, mid₁, ack, mid₂, rfl, hanswers⟩
      · exact Or.inl horigin
      · exact Or.inr ⟨horigin, mid₁, ack, mid₂ ++ [call], by simp, hanswers⟩
    · -- the call makes the entry
      rw [hkeyOf] at hkey
      refine ⟨past, call, [], by simp, (keyOf_injective hkey).symm, hadmits, Or.inl ?_⟩
      exact Option.some.inj (hconnection.symm.trans hnew)
    · -- the call completes the handshake of the entry
      rw [hkeyOf] at hkey
      have hendpoint' := keyOf_injective hkey
      have hfound := hcompletes.found
      rw [hkeyOf, ← hendpoint'] at hfound
      obtain ⟨pre, syn, mid, rfl, hendpoint, hadmits, horigin⟩ := ih connection' hfound
      obtain rfl := Option.some.inj (hconnection.symm.trans hcompleted)
      refine ⟨pre, syn, mid ++ [call], by simp, hendpoint, hadmits, Or.inr ?_⟩
      rcases horigin with rfl | ⟨rfl, -⟩
      · have hport := (run_fields start (pre ++ syn :: mid)).2.1
        exact ⟨rfl, mid, call, [], rfl, hendpoint'.symm, hport ▸ hcompletes.ack, hcompletes.sequence,
          hcompletes.acknowledgement⟩
      · cases hcompletes.halfOpen

lemma first_of_admits {calls : List Call} {syn : Call} (hsyn : syn.endpoint = endpoint)
    (h : (run step start calls).Admits syn) (pre : List Call) (call : Call) (rest : List Call)
    (hcut : calls = pre ++ call :: rest) : ¬Admissible (run step start pre) endpoint call := by
  intro hadmissible
  have hne := connection_ne_none_of_admissible endpoint hadmissible rest
  rw [← run_append, ← hcut, run_keyOf] at hne
  have hnew := h.new
  rw [run_keyOf, hsyn] at hnew
  exact hne hnew

/-- The ACK that answers the SYN-ACK of a connection leaves it established, whatever has come in between. -/
lemma established_of_answers {listener : TcpListener} {connection : TcpConnection}
    (hfound : listener.connection (listener.keyOf endpoint) = some connection)
    (hnext : connection.sendNext = connection.initialSendSequence + 1)
    (hreceive : connection.receiveNext = connection.initialReceiveSequence + 1)
    (hstate : connection.state = .established → connection = completed connection) (mid : List Call) {ack : Call}
    (h : Answers listener.localPort endpoint connection ack) (post : List Call) :
    (run step listener (mid ++ ack :: post)).connection (listener.keyOf endpoint) = some (completed connection) := by
  rw [run_append, run_cons]
  refine run_connection_of_established post ?_ rfl
  have hkeyOf : ∀ e, (run step listener mid).keyOf e = listener.keyOf e := run_keyOf listener mid
  have hcompleted : (run step listener mid).connection (listener.keyOf endpoint) = some (completed connection) →
      ((run step listener mid).step ack).2.connection (listener.keyOf endpoint) = some (completed connection) := by
    intro hmid
    rcases connection_step_of_some ack hmid with hsame | ⟨hhalf, -⟩
    · exact hsame
    · cases hhalf
  rcases run_connection_of_some mid hfound with hsame | ⟨-, hmid⟩
  · cases hcase : connection.state with
    | established => exact hcompleted (hstate hcase ▸ hsame)
    | synReceived =>
      have hport := (run_fields listener mid).2.1
      have hcompletes : (run step listener mid).Completes ack connection := by
        refine ⟨hport ▸ h.ack, ?_, hcase, h.sequence.trans hreceive.symm, h.acknowledgement.trans hnext.symm⟩
        rw [hkeyOf, h.endpoint_eq]
        exact hsame
      have hstep := connection_step_of_completes hcompletes
      rwa [hkeyOf, h.endpoint_eq] at hstep
  · exact hcompleted hmid

end Establishment

/-- **Which connections a run establishes.**  An endpoint is established exactly when its first SYN that found room in
the table is followed, anywhere later, by the ACK that acknowledges both initial sequence numbers: that of the SYN, and
the one that the listener was to give out next when the SYN came. -/
theorem established_iff (localIp : Ipv4Addr) (localPort : UInt16) (capacity : ℕ) (initialSequence : UInt32)
    (calls : List Call) (endpoint : Endpoint) :
    let start := TcpListener.new localIp localPort capacity initialSequence
    let key : TcpConnectionKey := { localIp, localPort, remoteIp := endpoint.ip, remotePort := endpoint.port }
    (∃ connection, (run step start calls).connection key = some connection ∧ connection.state = .established) ↔
      ∃ pre syn mid ack post, calls = pre ++ syn :: (mid ++ ack :: post) ∧
        Admissible (run step start pre) endpoint syn ∧
        (∀ pre' call rest, pre = pre' ++ call :: rest → ¬Admissible (run step start pre') endpoint call) ∧
        ack.endpoint = endpoint ∧ ack.PureAck localPort ∧
        ack.segment.sequenceNumber = syn.segment.sequenceNumber + 1 ∧
        ack.segment.acknowledgementNumber = (run step start pre).nextInitialSequence + 1 := by
  intro start key
  have hstart : start.connection (start.keyOf endpoint) = none := Finmap.lookup_empty _
  constructor
  · rintro ⟨connection, hconnection, hstate⟩
    obtain ⟨pre, syn, mid, rfl, hendpoint, hadmits, horigin⟩ :=
      exists_cut_of_connection start endpoint hstart calls connection hconnection
    rcases horigin with rfl | ⟨-, mid₁, ack, mid₂, rfl, hanswers⟩
    · cases hstate
    · exact ⟨pre, syn, mid₁, ack, mid₂, rfl, ⟨hendpoint, hadmits.syn, hadmits.room⟩,
        first_of_admits start endpoint hendpoint hadmits, hanswers.endpoint_eq, hanswers.ack, hanswers.sequence,
        hanswers.acknowledgement⟩
  · rintro ⟨pre, syn, mid, ack, post, rfl, hsyn, hfirst, hendpoint, hack, hsequence, hacknowledgement⟩
    -- the endpoint is not in the table before its first admissible SYN
    have hnew : (run step start pre).connection (start.keyOf endpoint) = none := by
      cases hfound : (run step start pre).connection (start.keyOf endpoint) with
      | none => rfl
      | some connection =>
        obtain ⟨pre', syn', mid', hpre, hendpoint', hadmits, -⟩ :=
          exists_cut_of_connection start endpoint hstart pre connection hfound
        exact absurd ⟨hendpoint', hadmits.syn, hadmits.room⟩ (hfirst pre' syn' mid' hpre)
    have hadmits : (run step start pre).Admits syn := by
      refine ⟨hsyn.syn, ?_, hsyn.room⟩
      rw [run_keyOf, hsyn.endpoint_eq]
      exact hnew
    have hassigned := connection_step_of_admits hadmits
    rw [run_keyOf, hsyn.endpoint_eq, ← run_snoc] at hassigned
    have hkey : (run step start (pre ++ [syn])).keyOf endpoint = key := run_keyOf start _ endpoint
    have hport : (run step start (pre ++ [syn])).localPort = localPort := (run_fields start _).2.1
    have hanswers : Answers (run step start (pre ++ [syn])).localPort endpoint
        ((run step start pre).newConnection syn.segment) ack :=
      ⟨hendpoint, hport.symm ▸ hack, hsequence, hacknowledgement⟩
    have hfinal := established_of_answers endpoint (hkey.symm ▸ hassigned) rfl rfl (fun h => by cases h) mid
      hanswers post
    rw [hkey, ← run_append, List.append_assoc] at hfinal
    exact ⟨_, hfinal, rfl⟩

end TcpIp.Tcp.Handshake
