import TcpIp.Lib.Ledger
import TcpIp.Tcp.Handshake

/-!
# The listener as a ledger of peers

What a listener is for: it writes down who asked for a connection, in the order in which they came, and who confirmed.

* `Peer` — a line of the ledger; `hear` — what the ledger makes of a segment.  There are no keys, no hash map, no
  counter and no five sequence fields in it;
* `Describes` — the ledger says what the listener holds;
* `Describes.step` — the listener does what the ledger says, segment by segment.
-/

namespace TcpIp.Tcp.Register

open TcpIp.Lib TcpIp.Tcp.Listener TcpIp.Tcp.Handshake TcpListener

/-- A peer that was admitted, with the initial sequence numbers of both sides. -/
structure Peer where
  endpoint : Endpoint
  sequenceNumber : UInt32
  remoteSequence : UInt32
  confirmed : Bool
  deriving DecidableEq, Repr

namespace Peer

/-- The connection that a listener holds for the peer. -/
def connection (peer : Peer) : TcpConnection :=
  connectionAt peer.sequenceNumber peer.remoteSequence
    (if peer.confirmed then .established else .synReceived)

/-- The SYN-ACK for the peer. -/
def synAck (localPort : UInt16) (peer : Peer) : SynAck where
  sourcePort := localPort
  destinationPort := peer.endpoint.port
  sequenceNumber := peer.sequenceNumber
  acknowledgementNumber := peer.remoteSequence + 1
  windowSize := defaultTcpReceiveWindow

/-- The peer still waits for a SYN-ACK that answers the segment. -/
def awaits (segment : TcpSegment) (peer : Peer) : Bool :=
  !peer.confirmed && segment.sequenceNumber = peer.remoteSequence

/-- The segment has the sequence numbers that follow those of both SYNs. -/
def confirmedBy (segment : TcpSegment) (peer : Peer) : Bool :=
  segment.sequenceNumber = peer.remoteSequence + 1 && segment.acknowledgementNumber = peer.sequenceNumber + 1

def confirm (segment : TcpSegment) (peer : Peer) : Peer :=
  { peer with confirmed := peer.confirmed || peer.confirmedBy segment }

lemma awaits_iff (segment : TcpSegment) (peer : Peer) : peer.awaits segment = true ↔
    peer.connection.state = .synReceived ∧ segment.sequenceNumber = peer.connection.initialReceiveSequence := by
  obtain ⟨endpoint, iss, irs, confirmed⟩ := peer
  cases confirmed <;> simp [awaits, connection, connectionAt]

lemma confirm_endpoint (segment : TcpSegment) (peer : Peer) : (peer.confirm segment).endpoint = peer.endpoint := rfl

end Peer

/-- What the ledger makes of a segment for the port `localPort`, and the peer that is sent a SYN-ACK; the first peer has
the sequence number `initialSequence`, and the others follow. -/
def hear {capacity : ℕ} (localPort : UInt16) (initialSequence : UInt32) (call : Call)
    (peers : Ledger Peer.endpoint capacity) : Option Peer × Ledger Peer.endpoint capacity :=
  if call.InitialSyn localPort then
    let after := peers.offer {
      endpoint := call.endpoint
      sequenceNumber := initialSequence + UInt32.ofNat peers.items.length
      remoteSequence := call.segment.sequenceNumber
      confirmed := false }
    ((after.find call.endpoint).filter (Peer.awaits call.segment), after)
  else if call.PureAck localPort then
    (none, peers.amend call.endpoint (Peer.confirm call.segment) (Peer.confirm_endpoint call.segment))
  else (none, peers)

/-- The listener is `start` with the peers of the ledger. -/
structure Describes (start : TcpListener) (peers : Ledger Peer.endpoint start.capacity) (listener : TcpListener) :
    Prop where
  localIp : listener.localIp = start.localIp
  localPort : listener.localPort = start.localPort
  capacity : listener.capacity = start.capacity
  counter : listener.nextInitialSequence = start.nextInitialSequence + UInt32.ofNat peers.items.length
  len : listener.len = peers.items.length
  connection : ∀ endpoint, listener.connection (listener.keyOf endpoint) = (peers.find endpoint).map Peer.connection

/-- The answer of the listener when the ledger says whom to send a SYN-ACK. -/
def actionFor (localPort : UInt16) : Option Peer → TcpAction
  | some peer => .sendSynAck (peer.synAck localPort)
  | none => .noReply

namespace Describes

variable {start listener : TcpListener} {peers : Ledger Peer.endpoint start.capacity} {call : Call}

lemma new (localIp : Ipv4Addr) (localPort : UInt16) (capacity : ℕ) (initialSequence : UInt32) :
    Describes (TcpListener.new localIp localPort capacity initialSequence) Ledger.empty
      (TcpListener.new localIp localPort capacity initialSequence) where
  localIp := rfl
  localPort := rfl
  capacity := rfl
  counter := (UInt32.add_zero _).symm
  len := rfl
  connection _ := Finmap.lookup_empty _

section Found

variable (h : Describes start peers listener)
include h

lemma find_eq_none (hnew : listener.connection (listener.keyOf call.endpoint) = none) :
    peers.find call.endpoint = none := by
  rwa [h.connection, Option.map_eq_none_iff] at hnew

lemma find_eq_some {connection : TcpConnection}
    (hfound : listener.connection (listener.keyOf call.endpoint) = some connection) :
    ∃ peer, peers.find call.endpoint = some peer ∧ peer.endpoint = call.endpoint ∧ peer.connection = connection := by
  rw [h.connection, Option.map_eq_some_iff] at hfound
  obtain ⟨peer, hpeer, hconnection⟩ := hfound
  exact ⟨peer, hpeer, Ledger.key_of_find hpeer, hconnection⟩

lemma admitted (ha : listener.Admits call) : Describes start (peers.offer {
    endpoint := call.endpoint
    sequenceNumber := start.nextInitialSequence + UInt32.ofNat peers.items.length
    remoteSequence := call.segment.sequenceNumber
    confirmed := false }) (listener.admitted call) := by
  have hnew := h.find_eq_none ha.new
  have hroom : peers.items.length < start.capacity := by
    rw [← h.len, ← h.capacity]
    exact ha.room
  have hitems := Ledger.offer_of_new (x := Peer.mk call.endpoint
    (start.nextInitialSequence + UInt32.ofNat peers.items.length) call.segment.sequenceNumber false)
    (Ledger.find_eq_none_iff.1 hnew) hroom
  refine ⟨h.localIp, h.localPort, h.capacity, ?_, ?_, fun endpoint => ?_⟩
  · rw [hitems, List.length_append, List.length_singleton, UInt32.ofNat_add, ← UInt32.add_assoc, ← h.counter]
    rfl
  · rw [hitems, List.length_append, List.length_singleton, ← h.len]
    exact HashMap.len_insert_of_lookup_none ha.new _
  · show (listener.admitted call).connection (listener.keyOf endpoint) = _
    rw [connection_admitted, Ledger.find_offer_of_new hnew hroom, h.connection]
    by_cases hendpoint : endpoint = call.endpoint
    · rw [if_pos hendpoint, if_pos (congrArg _ hendpoint), newConnection, h.counter]
      rfl
    · rw [if_neg hendpoint, if_neg fun hkey => hendpoint (keyOf_injective hkey)]

lemma establish {connection : TcpConnection} (hc : listener.Completes call connection) :
    Describes start (peers.amend call.endpoint (Peer.confirm call.segment) (Peer.confirm_endpoint call.segment))
      (listener.establish call connection) := by
  obtain ⟨peer, hpeer, -, rfl⟩ := h.find_eq_some hc.found
  refine ⟨h.localIp, h.localPort, h.capacity, ?_, ?_, fun endpoint => ?_⟩
  · rw [Ledger.amend_length]
    exact h.counter
  · rw [Ledger.amend_length, ← h.len]
    exact HashMap.len_insert_of_lookup_some hc.found _
  · show (listener.establish call peer.connection).connection (listener.keyOf endpoint) = _
    have hconfirmed : (peer.confirm call.segment).connection = completed peer.connection := by
      have hby : peer.confirmedBy call.segment = true := by
        unfold Peer.confirmedBy
        rw [hc.sequence, hc.acknowledgement]
        simp [Peer.connection, connectionAt]
      rw [Peer.confirm, hby, Bool.or_true]
      rfl
    rw [connection_establish hc, Ledger.find_amend, h.connection]
    by_cases hendpoint : endpoint = call.endpoint
    · rw [if_pos hendpoint, if_pos (congrArg _ hendpoint), hpeer, Option.map_some, Option.map_some, hconfirmed]
    · rw [if_neg hendpoint, if_neg fun hkey => hendpoint (keyOf_injective hkey)]

lemma amend_of_not_completes (hack : call.PureAck listener.localPort)
    (hnone : ∀ connection, ¬listener.Completes call connection) :
    Describes start (peers.amend call.endpoint (Peer.confirm call.segment) (Peer.confirm_endpoint call.segment))
      listener := by
  refine ⟨h.localIp, h.localPort, h.capacity, ?_, ?_, fun endpoint => ?_⟩
  · rw [Ledger.amend_length]
    exact h.counter
  · rw [Ledger.amend_length]
    exact h.len
  · rw [Ledger.find_amend, h.connection]
    split_ifs with hendpoint
    · subst hendpoint
      rw [Option.map_map]
      refine Option.map_congr fun peer hpeer => congrArg Peer.connection ?_
      have hfound : listener.connection (listener.keyOf call.endpoint) = some peer.connection := by
        rw [h.connection, hpeer]
        rfl
      obtain ⟨endpoint, iss, irs, confirmed⟩ := peer
      cases confirmed with
      | true => rfl
      | false =>
        cases hby : Peer.confirmedBy call.segment ⟨endpoint, iss, irs, false⟩ with
        | false =>
          rw [Peer.confirm, hby]
          rfl
        | true =>
          rw [Peer.confirmedBy, Bool.and_eq_true, decide_eq_true_iff, decide_eq_true_iff] at hby
          exact absurd ⟨hack, hfound, rfl, hby.1, hby.2⟩ (hnone _)
    · rfl

lemma synAck_connection {peer : Peer} (hpeer : peer.endpoint = call.endpoint) :
    synAck (listener.keyOf call.endpoint) peer.connection = peer.synAck start.localPort := by
  rw [← h.localPort, Peer.synAck, hpeer]
  rfl

/-- **One segment**: the listener does what the ledger says. -/
theorem step (call : Call) : (listener.step call).1 =
      actionFor start.localPort (hear start.localPort start.nextInitialSequence call peers).1 ∧
    Describes start (hear start.localPort start.nextInitialSequence call peers).2 (listener.step call).2 := by
  have heffect := receiveSegment_effect listener call
  generalize listener.step call = result at heffect ⊢
  obtain ⟨action, after⟩ := result
  dsimp only at heffect ⊢
  unfold hear
  cases heffect with
  | accept ha =>
    have hadmitted := h.admitted ha
    have hnew := h.find_eq_none ha.new
    have hroom : peers.items.length < start.capacity := by
      rw [← h.len, ← h.capacity]
      exact ha.room
    rw [if_pos (h.localPort ▸ ha.syn)]
    refine ⟨?_, hadmitted⟩
    dsimp only
    rw [Ledger.find_offer_of_new hnew hroom, if_pos rfl, Option.filter_some, Peer.awaits, if_pos (by simp)]
    have hconnection : listener.newConnection call.segment = Peer.connection ⟨call.endpoint,
        start.nextInitialSequence + UInt32.ofNat peers.items.length, call.segment.sequenceNumber, false⟩ := by
      rw [newConnection, h.counter]
      rfl
    rw [hconnection, h.synAck_connection rfl]
    rfl
  | retransmit connection hr =>
    obtain ⟨peer, hpeer, hendpoint, rfl⟩ := h.find_eq_some hr.found
    rw [if_pos (h.localPort ▸ hr.syn), Ledger.offer_of_find hpeer]
    refine ⟨?_, h⟩
    dsimp only
    rw [hpeer, Option.filter_some, if_pos ((Peer.awaits_iff _ _).2 ⟨hr.halfOpen, hr.sequence⟩),
      h.synAck_connection hendpoint]
    rfl
  | establish connection hc =>
    rw [if_neg (not_initialSyn_of_pureAck hc.ack), if_pos (h.localPort ▸ hc.ack)]
    exact ⟨rfl, h.establish hc⟩
  | ignore hadmits hretransmits hcompletes =>
    by_cases hsyn : call.InitialSyn start.localPort
    · rw [if_pos hsyn]
      dsimp only
      cases hfound : listener.connection (listener.keyOf call.endpoint) with
      | none =>
        have hfull : start.capacity ≤ peers.items.length := by
          rw [← h.len, ← h.capacity]
          exact Nat.le_of_not_lt fun hroom => hadmits ⟨h.localPort ▸ hsyn, hfound, hroom⟩
        rw [Ledger.offer_of_full hfull, h.find_eq_none hfound]
        exact ⟨rfl, h⟩
      | some connection =>
        obtain ⟨peer, hpeer, -, rfl⟩ := h.find_eq_some hfound
        have hdone : ¬peer.awaits call.segment = true := by
          intro hawaits
          obtain ⟨hhalf, hsequence⟩ := (Peer.awaits_iff _ _).1 hawaits
          exact hretransmits _ ⟨h.localPort ▸ hsyn, hfound, hhalf, hsequence⟩
        rw [Ledger.offer_of_find hpeer, hpeer, Option.filter_some, if_neg hdone]
        exact ⟨rfl, h⟩
    · rw [if_neg hsyn]
      by_cases hack : call.PureAck start.localPort
      · rw [if_pos hack]
        exact ⟨rfl, h.amend_of_not_completes (h.localPort ▸ hack) hcompletes⟩
      · rw [if_neg hack]
        exact ⟨rfl, h⟩

end Found

end Describes

end TcpIp.Tcp.Register
