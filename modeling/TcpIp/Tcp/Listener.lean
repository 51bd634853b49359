import TcpIp.Lib.HashMap
import TcpIp.Tcp

/-!
# `tcp/listener.rs`: the passive side of the handshake

* `TcpListener` — the connection table with the counter of initial sequence numbers;
* `TcpListener.receiveSegment` — one segment, as in the source;
* `Bare` — the flags and the payload of an acceptable SYN and of an acceptable ACK;
* `Effect` — the four things a segment can do to a listener, with their guards.  Every call has one of them
  (`receiveSegment_effect`); all that is proved about listeners goes through it.
-/

namespace TcpIp.Tcp.Listener

open TcpIp.Lib

def defaultTcpReceiveWindow : UInt16 := 64240

structure TcpConnectionKey where
  localIp : Ipv4Addr
  localPort : UInt16
  remoteIp : Ipv4Addr
  remotePort : UInt16
  deriving DecidableEq, Repr

inductive TcpConnectionState where
  | synReceived | established
  deriving DecidableEq, Repr

structure TcpConnection where
  state : TcpConnectionState
  initialSendSequence : UInt32
  sendUnacknowledged : UInt32
  sendNext : UInt32
  initialReceiveSequence : UInt32
  receiveNext : UInt32
  deriving DecidableEq, Repr

structure SynAck where
  sourcePort : UInt16
  destinationPort : UInt16
  sequenceNumber : UInt32
  acknowledgementNumber : UInt32
  windowSize : UInt16
  deriving DecidableEq, Repr

inductive TcpAction where
  | sendSynAck (synAck : SynAck)
  | noReply
  deriving DecidableEq, Repr

structure TcpListener where
  localIp : Ipv4Addr
  localPort : UInt16
  capacity : ℕ
  nextInitialSequence : UInt32
  connections : HashMap TcpConnectionKey TcpConnection

def acceptsInitialSyn (segment : TcpSegment) : Bool :=
  segment.flags.contains TcpFlags.syn
    && !segment.flags.contains TcpFlags.ack
    && !segment.flags.contains TcpFlags.rst
    && !segment.flags.contains TcpFlags.fin
    && !segment.flags.contains TcpFlags.psh
    && !segment.flags.contains TcpFlags.urg
    && segment.payload.isEmpty

def acceptsFinalAck (segment : TcpSegment) : Bool :=
  segment.flags.contains TcpFlags.ack
    && !segment.flags.contains TcpFlags.syn
    && !segment.flags.contains TcpFlags.rst
    && !segment.flags.contains TcpFlags.fin
    && !segment.flags.contains TcpFlags.psh
    && !segment.flags.contains TcpFlags.urg
    && segment.payload.isEmpty

def synAck (key : TcpConnectionKey) (connection : TcpConnection) : SynAck where
  sourcePort := key.localPort
  destinationPort := key.remotePort
  sequenceNumber := connection.initialSendSequence
  acknowledgementNumber := connection.receiveNext
  windowSize := defaultTcpReceiveWindow

namespace TcpListener

def new (localIp : Ipv4Addr) (localPort : UInt16) (capacity : ℕ) (initialSequence : UInt32) : TcpListener where
  localIp := localIp
  localPort := localPort
  capacity := capacity
  nextInitialSequence := initialSequence
  connections := ∅

def connection (listener : TcpListener) (key : TcpConnectionKey) : Option TcpConnection :=
  listener.connections.lookup key

def len (listener : TcpListener) : ℕ := HashMap.len listener.connections

def receiveInitialSyn (key : TcpConnectionKey) (segment : TcpSegment) (listener : TcpListener) :
    TcpAction × TcpListener :=
  match listener.connections.lookup key with
  | some connection =>
    if connection.state = .synReceived ∧ segment.sequenceNumber = connection.initialReceiveSequence then
      (.sendSynAck (synAck key connection), listener)
    else (.noReply, listener)
  | none =>
    if HashMap.len listener.connections ≥ listener.capacity then (.noReply, listener)
    else
      let initialSendSequence := listener.nextInitialSequence
      let connection := {
        state := .synReceived
        initialSendSequence
        sendUnacknowledged := initialSendSequence
        sendNext := initialSendSequence + 1
        initialReceiveSequence := segment.sequenceNumber
        receiveNext := segment.sequenceNumber + 1 }
      (.sendSynAck (synAck key connection), { listener with
        nextInitialSequence := listener.nextInitialSequence + 1
        connections := listener.connections.insert key connection })

def completeHandshake (key : TcpConnectionKey) (segment : TcpSegment) (listener : TcpListener) : TcpListener :=
  match listener.connections.lookup key with
  | none => listener
  | some connection =>
    if connection.state ≠ .synReceived ∨ segment.sequenceNumber ≠ connection.receiveNext ∨
        segment.acknowledgementNumber ≠ connection.sendNext then listener
    else { listener with
      connections := listener.connections.insert key { connection with
        sendUnacknowledged := segment.acknowledgementNumber
        state := .established } }

def receiveSegment (remoteIp : Ipv4Addr) (segment : TcpSegment) (listener : TcpListener) :
    TcpAction × TcpListener :=
  if segment.destinationPort ≠ listener.localPort ∨ segment.sourcePort = 0 then (.noReply, listener)
  else
    let key := {
      localIp := listener.localIp
      localPort := listener.localPort
      remoteIp
      remotePort := segment.sourcePort }
    if acceptsInitialSyn segment then receiveInitialSyn key segment listener
    else if acceptsFinalAck segment then (.noReply, completeHandshake key segment listener)
    else (.noReply, listener)

end TcpListener

/-! ### What a segment can do -/

/-- The arguments of one call of `receive_segment`. -/
structure Call where
  remoteIp : Ipv4Addr
  segment : TcpSegment
  deriving DecidableEq, Repr

/-- A remote address and port. -/
structure Endpoint where
  ip : Ipv4Addr
  port : UInt16
  deriving DecidableEq, Repr

def Call.endpoint (call : Call) : Endpoint := ⟨call.remoteIp, call.segment.sourcePort⟩

/-- `flag` is set; `other`, RST, FIN, PSH and URG are clear; and there is no payload. -/
def Bare (flag other : TcpFlags) (segment : TcpSegment) : Prop :=
  segment.flags.contains flag = true ∧ segment.flags.contains other = false ∧
    segment.flags.contains TcpFlags.rst = false ∧ segment.flags.contains TcpFlags.fin = false ∧
    segment.flags.contains TcpFlags.psh = false ∧ segment.flags.contains TcpFlags.urg = false ∧ segment.payload = []

instance (flag other : TcpFlags) : DecidablePred (Bare flag other) := fun _ =>
  inferInstanceAs (Decidable (_ ∧ _ ∧ _ ∧ _ ∧ _ ∧ _ ∧ _))

lemma acceptsInitialSyn_iff {segment : TcpSegment} :
    acceptsInitialSyn segment = true ↔ Bare TcpFlags.syn TcpFlags.ack segment := by
  simp [acceptsInitialSyn, Bare, and_assoc]

lemma acceptsFinalAck_iff {segment : TcpSegment} :
    acceptsFinalAck segment = true ↔ Bare TcpFlags.ack TcpFlags.syn segment := by
  simp [acceptsFinalAck, Bare, and_assoc]

/-- An acceptable initial SYN for the port `localPort`. -/
def Call.InitialSyn (localPort : UInt16) (call : Call) : Prop :=
  call.segment.destinationPort = localPort ∧ call.segment.sourcePort ≠ 0 ∧
    Bare TcpFlags.syn TcpFlags.ack call.segment

/-- A pure ACK for the port `localPort`. -/
def Call.PureAck (localPort : UInt16) (call : Call) : Prop :=
  call.segment.destinationPort = localPort ∧ call.segment.sourcePort ≠ 0 ∧
    Bare TcpFlags.ack TcpFlags.syn call.segment

instance (localPort : UInt16) : DecidablePred (Call.InitialSyn localPort) := fun _ =>
  inferInstanceAs (Decidable (_ ∧ _ ∧ _))

instance (localPort : UInt16) : DecidablePred (Call.PureAck localPort) := fun _ =>
  inferInstanceAs (Decidable (_ ∧ _ ∧ _))

lemma not_initialSyn_of_pureAck {call : Call} {localPort localPort' : UInt16} (h : call.PureAck localPort) :
    ¬call.InitialSyn localPort' := by
  rintro ⟨-, -, -, hclear, -⟩
  cases hclear.symm.trans h.2.2.1

namespace TcpListener

/-- One call, as the step of a machine. -/
def step (call : Call) (listener : TcpListener) : TcpAction × TcpListener :=
  listener.receiveSegment call.remoteIp call.segment

def keyOf (listener : TcpListener) (endpoint : Endpoint) : TcpConnectionKey where
  localIp := listener.localIp
  localPort := listener.localPort
  remoteIp := endpoint.ip
  remotePort := endpoint.port

lemma keyOf_injective {listener : TcpListener} {e e' : Endpoint}
    (h : listener.keyOf e = listener.keyOf e') : e = e' := by
  obtain ⟨ip, port⟩ := e
  obtain ⟨ip', port'⟩ := e'
  simp only [keyOf, TcpConnectionKey.mk.injEq] at h
  rw [h.2.2.1, h.2.2.2]

/-- The connection of a newly admitted SYN. -/
def newConnection (listener : TcpListener) (segment : TcpSegment) : TcpConnection where
  state := .synReceived
  initialSendSequence := listener.nextInitialSequence
  sendUnacknowledged := listener.nextInitialSequence
  sendNext := listener.nextInitialSequence + 1
  initialReceiveSequence := segment.sequenceNumber
  receiveNext := segment.sequenceNumber + 1

def admitted (listener : TcpListener) (call : Call) : TcpListener := { listener with
  nextInitialSequence := listener.nextInitialSequence + 1
  connections := listener.connections.insert (listener.keyOf call.endpoint) (listener.newConnection call.segment) }

def establish (listener : TcpListener) (call : Call) (connection : TcpConnection) : TcpListener := { listener with
  connections := listener.connections.insert (listener.keyOf call.endpoint) { connection with
    sendUnacknowledged := call.segment.acknowledgementNumber
    state := .established } }

/-- The call is a SYN that enters the table. -/
structure Admits (listener : TcpListener) (call : Call) : Prop where
  syn : call.InitialSyn listener.localPort
  new : listener.connection (listener.keyOf call.endpoint) = none
  room : listener.len < listener.capacity

/-- The call repeats the SYN of a half-open connection. -/
structure Retransmits (listener : TcpListener) (call : Call) (connection : TcpConnection) : Prop where
  syn : call.InitialSyn listener.localPort
  found : listener.connection (listener.keyOf call.endpoint) = some connection
  halfOpen : connection.state = .synReceived
  sequence : call.segment.sequenceNumber = connection.initialReceiveSequence

/-- The call is the ACK that a half-open connection waits for. -/
structure Completes (listener : TcpListener) (call : Call) (connection : TcpConnection) : Prop where
  ack : call.PureAck listener.localPort
  found : listener.connection (listener.keyOf call.endpoint) = some connection
  halfOpen : connection.state = .synReceived
  sequence : call.segment.sequenceNumber = connection.receiveNext
  acknowledgement : call.segment.acknowledgementNumber = connection.sendNext

end TcpListener

/-- What a call does to a listener. -/
inductive Effect (listener : TcpListener) (call : Call) : TcpAction → TcpListener → Prop
  | accept (h : listener.Admits call) : Effect listener call
      (.sendSynAck (synAck (listener.keyOf call.endpoint) (listener.newConnection call.segment)))
      (listener.admitted call)
  | retransmit (connection : TcpConnection) (h : listener.Retransmits call connection) :
      Effect listener call (.sendSynAck (synAck (listener.keyOf call.endpoint) connection)) listener
  | establish (connection : TcpConnection) (h : listener.Completes call connection) :
      Effect listener call .noReply (listener.establish call connection)
  | ignore (hadmits : ¬listener.Admits call) (hretransmit : ∀ connection, ¬listener.Retransmits call connection)
      (hcomplete : ∀ connection, ¬listener.Completes call connection) : Effect listener call .noReply listener

namespace TcpListener

lemma receiveInitialSyn_effect {listener : TcpListener} {call : Call} (h : call.InitialSyn listener.localPort) :
    Effect listener call (listener.receiveInitialSyn (listener.keyOf call.endpoint) call.segment).1
      (listener.receiveInitialSyn (listener.keyOf call.endpoint) call.segment).2 := by
  have hnoAck : ∀ connection, ¬listener.Completes call connection := fun _ hc => not_initialSyn_of_pureAck hc.ack h
  unfold receiveInitialSyn
  cases hfound : listener.connections.lookup (listener.keyOf call.endpoint) with
  | some connection =>
    by_cases hc : connection.state = .synReceived ∧ call.segment.sequenceNumber = connection.initialReceiveSequence
    · dsimp only
      rw [if_pos hc]
      exact Effect.retransmit connection ⟨h, hfound, hc.1, hc.2⟩
    · dsimp only
      rw [if_neg hc]
      refine Effect.ignore (fun ha => ?_) (fun connection' hr => hc ?_) hnoAck
      · have hnone := ha.new.symm.trans hfound
        cases hnone
      · have hsome : some connection' = some connection := hr.found.symm.trans hfound
        cases hsome
        exact ⟨hr.halfOpen, hr.sequence⟩
  | none =>
    dsimp only
    by_cases hfull : HashMap.len listener.connections ≥ listener.capacity
    · rw [if_pos hfull]
      refine Effect.ignore (fun ha => ?_) (fun connection hr => ?_) hnoAck
      · exact absurd ha.room (Nat.not_lt.2 hfull)
      · have hsome := hr.found.symm.trans hfound
        cases hsome
    · rw [if_neg hfull]
      exact Effect.accept ⟨h, hfound, Nat.lt_of_not_le hfull⟩

lemma completeHandshake_effect {listener : TcpListener} {call : Call} (hsyn : ¬call.InitialSyn listener.localPort)
    (hack : call.PureAck listener.localPort) :
    Effect listener call .noReply (listener.completeHandshake (listener.keyOf call.endpoint) call.segment) := by
  have hnoAdmit : ¬listener.Admits call := fun ha => hsyn ha.syn
  have hnoRetransmit : ∀ connection, ¬listener.Retransmits call connection := fun _ hr => hsyn hr.syn
  unfold completeHandshake
  cases hfound : listener.connections.lookup (listener.keyOf call.endpoint) with
  | none =>
    refine Effect.ignore hnoAdmit hnoRetransmit fun connection hc => ?_
    have hsome := hc.found.symm.trans hfound
    cases hsome
  | some connection =>
    dsimp only
    by_cases hc : connection.state ≠ .synReceived ∨ call.segment.sequenceNumber ≠ connection.receiveNext ∨
        call.segment.acknowledgementNumber ≠ connection.sendNext
    · rw [if_pos hc]
      refine Effect.ignore hnoAdmit hnoRetransmit fun connection' hc' => ?_
      have hsome : some connection' = some connection := hc'.found.symm.trans hfound
      cases hsome
      rcases hc with hc | hc | hc
      · exact hc hc'.halfOpen
      · exact hc hc'.sequence
      · exact hc hc'.acknowledgement
    · rw [if_neg hc]
      push Not at hc
      exact Effect.establish connection ⟨hack, hfound, hc.1, hc.2.1, hc.2.2⟩

/-- **Every call is an admission, a retransmission, an establishment, or is ignored.** -/
theorem receiveSegment_effect (listener : TcpListener) (call : Call) :
    Effect listener call (listener.step call).1 (listener.step call).2 := by
  unfold step receiveSegment
  by_cases hport : call.segment.destinationPort ≠ listener.localPort ∨ call.segment.sourcePort = 0
  · rw [if_pos hport]
    have hbad : ∀ {P : Prop}, ¬(call.segment.destinationPort = listener.localPort ∧
        call.segment.sourcePort ≠ 0 ∧ P) := by
      rintro P ⟨hd, hs, -⟩
      rcases hport with h | h
      · exact h hd
      · exact hs h
    exact Effect.ignore (fun ha => hbad ha.syn) (fun _ hr => hbad hr.syn) (fun _ hc => hbad hc.ack)
  · rw [if_neg hport]
    push Not at hport
    dsimp only
    by_cases hsyn : acceptsInitialSyn call.segment = true
    · rw [if_pos hsyn]
      exact receiveInitialSyn_effect ⟨hport.1, hport.2, acceptsInitialSyn_iff.1 hsyn⟩
    · have hnoSyn : ¬call.InitialSyn listener.localPort := fun h => hsyn (acceptsInitialSyn_iff.2 h.2.2)
      rw [if_neg hsyn]
      by_cases hack : acceptsFinalAck call.segment = true
      · rw [if_pos hack]
        exact completeHandshake_effect hnoSyn ⟨hport.1, hport.2, acceptsFinalAck_iff.1 hack⟩
      · have hnoAck : ¬call.PureAck listener.localPort := fun h => hack (acceptsFinalAck_iff.2 h.2.2)
        rw [if_neg hack]
        exact Effect.ignore (fun ha => hnoSyn ha.syn) (fun _ hr => hnoSyn hr.syn) (fun _ hc => hnoAck hc.ack)

section Deterministic

variable {listener : TcpListener} {call : Call} {connection connection' : TcpConnection}

lemma Admits.not_retransmits (h : listener.Admits call) : ¬listener.Retransmits call connection := by
  intro hr
  cases h.new.symm.trans hr.found

lemma Admits.not_completes (h : listener.Admits call) : ¬listener.Completes call connection :=
  fun hc => not_initialSyn_of_pureAck hc.ack h.syn

lemma Retransmits.not_completes (h : listener.Retransmits call connection) :
    ¬listener.Completes call connection' :=
  fun hc => not_initialSyn_of_pureAck hc.ack h.syn

/-- The effects exclude each other: the one whose guard is met is the one the call has. -/
theorem step_eq_of_effect {action : TcpAction} {after : TcpListener} (h : Effect listener call action after) :
    listener.step call = (action, after) := by
  have heffect := receiveSegment_effect listener call
  generalize listener.step call = result at heffect ⊢
  obtain ⟨action', after'⟩ := result
  dsimp only at heffect
  cases heffect with
  | accept ha =>
    cases h with
    | accept _ => rfl
    | retransmit _ hr => exact absurd hr ha.not_retransmits
    | establish _ hc => exact absurd hc ha.not_completes
    | ignore hadmits _ _ => exact absurd ha hadmits
  | retransmit _ hr =>
    cases h with
    | accept ha => exact absurd hr ha.not_retransmits
    | retransmit _ hr' => rw [Option.some.inj (hr.found.symm.trans hr'.found)]
    | establish _ hc => exact absurd hc hr.not_completes
    | ignore _ hretransmit _ => exact absurd hr (hretransmit _)
  | establish _ hc =>
    cases h with
    | accept ha => exact absurd hc ha.not_completes
    | retransmit _ hr => exact absurd hc hr.not_completes
    | establish _ hc' => rw [Option.some.inj (hc.found.symm.trans hc'.found)]
    | ignore _ _ hcomplete => exact absurd hc (hcomplete _)
  | ignore hadmits hretransmit hcomplete =>
    cases h with
    | accept ha => exact absurd ha hadmits
    | retransmit _ hr => exact absurd hr (hretransmit _)
    | establish _ hc => exact absurd hc (hcomplete _)
    | ignore _ _ _ => rfl

end Deterministic

/-! ### One key under one call -/

/-- The connection once its handshake is complete. -/
def completed (connection : TcpConnection) : TcpConnection :=
  { connection with sendUnacknowledged := connection.sendNext, state := .established }

section Frame

variable (listener : TcpListener) (call : Call)

lemma step_fields : (listener.step call).2.localIp = listener.localIp ∧
    (listener.step call).2.localPort = listener.localPort ∧
    (listener.step call).2.capacity = listener.capacity := by
  have heffect := receiveSegment_effect listener call
  generalize listener.step call = result at heffect ⊢
  obtain ⟨action, after⟩ := result
  dsimp only at heffect ⊢
  cases heffect <;> exact ⟨rfl, rfl, rfl⟩

lemma step_keyOf (endpoint : Endpoint) : (listener.step call).2.keyOf endpoint = listener.keyOf endpoint := by
  obtain ⟨hip, hport, -⟩ := step_fields listener call
  rw [keyOf, hip, hport]
  rfl

lemma connection_admitted (key : TcpConnectionKey) : (listener.admitted call).connection key =
    if key = listener.keyOf call.endpoint then some (listener.newConnection call.segment)
    else listener.connection key :=
  HashMap.lookup_insert_eq _ _ _ _

variable {listener call}

lemma connection_establish {connection : TcpConnection} (h : listener.Completes call connection)
    (key : TcpConnectionKey) : (listener.establish call connection).connection key =
      if key = listener.keyOf call.endpoint then some (completed connection) else listener.connection key := by
  unfold TcpListener.connection establish completed
  rw [HashMap.lookup_insert_eq, h.acknowledgement]

/-- **A segment that comes again is answered again, and changes nothing.** -/
lemma step_step (listener : TcpListener) (call : Call) :
    (listener.step call).2.step call = listener.step call := by
  have heffect := receiveSegment_effect listener call
  generalize hresult : listener.step call = result at heffect ⊢
  obtain ⟨action, after⟩ := result
  dsimp only at heffect ⊢
  cases heffect with
  | accept h =>
    -- the SYN is now a retransmission
    refine step_eq_of_effect (Effect.retransmit (listener.newConnection call.segment) ⟨h.syn, ?_, rfl, rfl⟩)
    exact (connection_admitted listener call _).trans (if_pos rfl)
  | retransmit connection h => exact hresult
  | establish connection h =>
    have hsyn : ¬call.InitialSyn listener.localPort := not_initialSyn_of_pureAck h.ack
    refine step_eq_of_effect (Effect.ignore (fun ha => hsyn ha.syn) (fun _ hr => hsyn hr.syn) fun _ hc => ?_)
    have hfound := hc.found.symm.trans ((connection_establish h _).trans (if_pos rfl))
    cases (Option.some.inj hfound) ▸ hc.halfOpen
  | ignore => exact hresult

/-- **What a call does to one key**: nothing, or it enters it, or it completes its handshake. -/
lemma connection_step (listener : TcpListener) (call : Call) (key : TcpConnectionKey) :
    (listener.step call).2.connection key = listener.connection key ∨
    (listener.Admits call ∧ key = listener.keyOf call.endpoint ∧
      (listener.step call).2.connection key = some (listener.newConnection call.segment)) ∨
    ∃ connection, listener.Completes call connection ∧ key = listener.keyOf call.endpoint ∧
      (listener.step call).2.connection key = some (completed connection) := by
  have heffect := receiveSegment_effect listener call
  generalize listener.step call = result at heffect ⊢
  obtain ⟨action, after⟩ := result
  dsimp only at heffect ⊢
  cases heffect with
  | accept h =>
    by_cases hkey : key = listener.keyOf call.endpoint
    · exact Or.inr (Or.inl ⟨h, hkey, by rw [connection_admitted, if_pos hkey]⟩)
    · exact Or.inl (by rw [connection_admitted, if_neg hkey])
  | retransmit connection h => exact Or.inl rfl
  | establish connection h =>
    by_cases hkey : key = listener.keyOf call.endpoint
    · exact Or.inr (Or.inr ⟨connection, h, hkey, by rw [connection_establish h, if_pos hkey]⟩)
    · exact Or.inl (by rw [connection_establish h, if_neg hkey])
  | ignore => exact Or.inl rfl

lemma connection_step_of_admits (h : listener.Admits call) :
    (listener.step call).2.connection (listener.keyOf call.endpoint) = some (listener.newConnection call.segment) := by
  rw [step_eq_of_effect (Effect.accept h), connection_admitted, if_pos rfl]

lemma connection_step_of_completes {connection : TcpConnection} (h : listener.Completes call connection) :
    (listener.step call).2.connection (listener.keyOf call.endpoint) = some (completed connection) := by
  rw [step_eq_of_effect (Effect.establish connection h), connection_establish h, if_pos rfl]

/-- A SYN-ACK answers for the connection that is in the table after the call. -/
lemma step_eq_sendSynAck_iff {reply : SynAck} : (listener.step call).1 = .sendSynAck reply ↔
    call.InitialSyn listener.localPort ∧ ∃ connection,
      (listener.step call).2.connection (listener.keyOf call.endpoint) = some connection ∧
      connection.state = .synReceived ∧
      call.segment.sequenceNumber = connection.initialReceiveSequence ∧
      reply = synAck (listener.keyOf call.endpoint) connection := by
  have heffect := receiveSegment_effect listener call
  generalize listener.step call = result at heffect ⊢
  obtain ⟨action, after⟩ := result
  dsimp only at heffect ⊢
  cases heffect with
  | accept ha =>
    have hafter : (listener.admitted call).connection (listener.keyOf call.endpoint) =
      some (listener.newConnection call.segment) := by rw [connection_admitted, if_pos rfl]
    constructor
    · intro heq
      cases heq
      exact ⟨ha.syn, _, hafter, rfl, rfl, rfl⟩
    · rintro ⟨-, connection, hconnection, -, -, rfl⟩
      rw [Option.some.inj (hconnection.symm.trans hafter)]
  | retransmit connection hr =>
    constructor
    · intro heq
      cases heq
      exact ⟨hr.syn, connection, hr.found, hr.halfOpen, hr.sequence, rfl⟩
    · rintro ⟨-, connection', hconnection, -, -, rfl⟩
      rw [Option.some.inj (hconnection.symm.trans hr.found)]
  | establish connection hc =>
    constructor
    · intro heq
      cases heq
    · rintro ⟨hsyn, -⟩
      exact absurd hsyn (not_initialSyn_of_pureAck hc.ack)
  | ignore _ hretransmit _ =>
    constructor
    · intro heq
      cases heq
    · rintro ⟨hsyn, connection, hfound, hhalf, hsequence, -⟩
      exact absurd ⟨hsyn, hfound, hhalf, hsequence⟩ (hretransmit connection)

/-- **A connection stays**, with its sequence fields; only its handshake can be completed. -/
lemma connection_step_of_some (call : Call) {key : TcpConnectionKey} {connection : TcpConnection}
    (h : listener.connection key = some connection) :
    (listener.step call).2.connection key = some connection ∨
      connection.state = .synReceived ∧ (listener.step call).2.connection key = some (completed connection) := by
  rcases connection_step listener call key with hsame | ⟨hadmits, rfl, -⟩ | ⟨connection', hc, rfl, hafter⟩
  · exact Or.inl (hsame.trans h)
  · have hnone := hadmits.new.symm.trans h
    cases hnone
  · obtain rfl : connection' = connection := Option.some.inj (hc.found.symm.trans h)
    exact Or.inr ⟨hc.halfOpen, hafter⟩

end Frame

end TcpListener

end TcpIp.Tcp.Listener
