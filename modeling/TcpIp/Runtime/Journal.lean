import TcpIp.Runtime.Tap

/-!
# The run loop on any device

Nothing is assumed about the device: it may return what it likes, and do with the buffer what it likes.

* `TurnEffect` — what one turn does, and it does nothing else (`turn_run_iff`);
* `Journal` — a device that also writes down what it returns and what it is given; the loop does not notice;
* `Accounts` — what the loop has done with the frames that the device has returned; `loop_accounts` — it can be
  accounted for, however the loop ends;
* `left_iff` — how the loop is left.
-/

namespace TcpIp.Runtime

open TcpIp.Lib TcpIp.Device TcpIp.Interface TcpIp.Arp.Cache

/-- The error at the end of the input. -/
def endOfInput : IoError := ⟨.unexpectedEof, some "Ethernet device reached the end of its input stream"⟩

/-- The error of a frame that is longer than the buffer. -/
def tooLong (received : ℕ) (buffer : Bytes) : IoError :=
  ⟨.invalidData, some (s!"Ethernet device reported {received} bytes but the receive buffer holds " ++
    s!"only {buffer.length}")⟩

section Turn

variable {δ ω : Type} [EthernetDevice δ]

/-- What one turn does. -/
inductive TurnEffect (observe : RunOutcome → ω → ω) (now : Instant) (s : RunLoop δ ω) :
    Outcome IoError Unit × RunLoop δ ω → Prop
  | notReceived {e : IoError} {device : δ} {buffer : Bytes}
      (receive : (EthernetDevice.receive : Exec (δ × Bytes) IoError ℕ).run (s.stack.device, s.stack.receiveBuffer) =
        (.err e, (device, buffer))) :
      TurnEffect observe now s (leave e, ⟨⟨device, s.stack.interface, buffer⟩, s.observer⟩)
  | receivePanic {p : Panic} {device : δ} {buffer : Bytes}
      (receive : (EthernetDevice.receive : Exec (δ × Bytes) IoError ℕ).run (s.stack.device, s.stack.receiveBuffer) =
        (.panic p, (device, buffer))) :
      TurnEffect observe now s (.panic p, ⟨⟨device, s.stack.interface, buffer⟩, s.observer⟩)
  | endOfInput {device : δ} {buffer : Bytes}
      (receive : (EthernetDevice.receive : Exec (δ × Bytes) IoError ℕ).run (s.stack.device, s.stack.receiveBuffer) =
        (.ok 0, (device, buffer))) :
      TurnEffect observe now s (.err endOfInput, ⟨⟨device, s.stack.interface, buffer⟩, s.observer⟩)
  | tooLong {received : ℕ} {device : δ} {buffer : Bytes}
      (receive : (EthernetDevice.receive : Exec (δ × Bytes) IoError ℕ).run (s.stack.device, s.stack.receiveBuffer) =
        (.ok received, (device, buffer))) (long : buffer.length < received) :
      TurnEffect observe now s (.err (tooLong received buffer), ⟨⟨device, s.stack.interface, buffer⟩, s.observer⟩)
  | ignored {frame buffer : Bytes} {device : δ} {interface : NetworkInterface}
      (receives : Receives s.stack frame device buffer)
      (processed : process (frame, now) s.stack.interface = (.ok none, interface)) :
      TurnEffect observe now s
        (.ok (), ⟨⟨device, interface, buffer⟩, observe (.ignored frame.length) s.observer⟩)
  | malformed {frame buffer : Bytes} {device : δ} {interface : NetworkInterface} {error : InterfaceError}
      (receives : Receives s.stack frame device buffer)
      (processed : process (frame, now) s.stack.interface = (.err error, interface)) :
      TurnEffect observe now s
        (.ok (), ⟨⟨device, interface, buffer⟩, observe (.malformedFrame frame.length error) s.observer⟩)
  | transmitted {frame reply buffer : Bytes} {device device' : δ} {interface : NetworkInterface}
      (receives : Receives s.stack frame device buffer)
      (processed : process (frame, now) s.stack.interface = (.ok (some reply), interface))
      (transmit : (EthernetDevice.transmit reply : Exec δ IoError Unit).run device = (.ok (), device')) :
      TurnEffect observe now s (.ok (),
        ⟨⟨device', interface, buffer⟩, observe (.replyTransmitted frame.length reply.length) s.observer⟩)
  | notTransmitted {frame reply buffer : Bytes} {device device' : δ} {interface : NetworkInterface} {e : IoError}
      (receives : Receives s.stack frame device buffer)
      (processed : process (frame, now) s.stack.interface = (.ok (some reply), interface))
      (transmit : (EthernetDevice.transmit reply : Exec δ IoError Unit).run device = (.err e, device')) :
      TurnEffect observe now s (leave e, ⟨⟨device', interface, buffer⟩, s.observer⟩)
  | transmitPanic {frame reply buffer : Bytes} {device device' : δ} {interface : NetworkInterface} {p : Panic}
      (receives : Receives s.stack frame device buffer)
      (processed : process (frame, now) s.stack.interface = (.ok (some reply), interface))
      (transmit : (EthernetDevice.transmit reply : Exec δ IoError Unit).run device = (.panic p, device')) :
      TurnEffect observe now s (.panic p, ⟨⟨device', interface, buffer⟩, s.observer⟩)

variable {observe : RunOutcome → ω → ω} {observer : ω} {now : Instant} {s : Stack δ}

lemma turn_of_panic {p : Panic} {s' : Stack δ} (h : (runOnceAt now).run s = (.panic p, s')) :
    (turn observe now).run ⟨s, observer⟩ = (.panic p, ⟨s', observer⟩) := by
  refine Exec.bind_of_panic ?_
  rw [Exec.zoom_run, Exec.attempt]
  dsimp only
  rw [h]

lemma runOnceAt_of_transmit_panic {frame reply buffer : Bytes} {device device' : δ} {interface : NetworkInterface}
    {p : Panic} (h : Receives s frame device buffer)
    (hprocess : (NetworkInterface.processFrameAt frame now).run s.interface = (.ok (some reply), interface))
    (htransmit : (EthernetDevice.transmit reply : Exec δ IoError Unit).run device = (.panic p, device')) :
    (runOnceAt now).run s = (.panic p, ⟨device', interface, buffer⟩) := by
  rw [runOnceAt_of_receives h (Exec.attempt_of_ok hprocess)]
  refine Exec.bind_of_panic ?_
  rw [Stack.onDevice, Exec.zoom_run, htransmit]

lemma runOnceAt_of_received {received : ℕ} {device : δ} {buffer : Bytes}
    (h : (EthernetDevice.receive : Exec (δ × Bytes) IoError ℕ).run (s.device, s.receiveBuffer) =
      (.ok received, (device, buffer))) (hbad : received = 0 ∨ buffer.length < received) :
    (runOnceAt now).run s = (.err (if received = 0 then endOfInput else tooLong received buffer),
      ⟨device, s.interface, buffer⟩) := by
  have hreceive : (Stack.onReceive EthernetDevice.receive : Exec (Stack δ) IoError ℕ).run s =
      (.ok received, ⟨device, s.interface, buffer⟩) := by
    rw [Stack.onReceive, Exec.zoom_run, h]
  unfold runOnceAt
  rw [Exec.bind_of_ok hreceive]
  split_ifs with hzero
  · rfl
  · have hnone : getTo buffer received = none := if_neg (Nat.not_le.2 (hbad.resolve_left hzero))
    rw [Exec.get_bind]
    dsimp only
    rw [hnone]
    rfl

lemma runOnceAt_of_receive_panic {p : Panic} {device : δ} {buffer : Bytes}
    (h : (EthernetDevice.receive : Exec (δ × Bytes) IoError ℕ).run (s.device, s.receiveBuffer) =
      (.panic p, (device, buffer))) : (runOnceAt now).run s = (.panic p, ⟨device, s.interface, buffer⟩) := by
  refine Exec.bind_of_panic ?_
  rw [Stack.onReceive, Exec.zoom_run, h]

lemma TurnEffect.run {loop : RunLoop δ ω} {result : Outcome IoError Unit × RunLoop δ ω}
    (h : TurnEffect observe now loop result) : (turn observe now).run loop = result := by
  obtain ⟨s, observer⟩ := loop
  cases h with
  | notReceived hcall => exact turn_of_err (runOnceAt_of_receive_err hcall)
  | receivePanic hcall => exact turn_of_panic (runOnceAt_of_receive_panic hcall)
  | endOfInput hcall => exact turn_of_err (runOnceAt_of_received hcall (Or.inl rfl))
  | tooLong hcall hlong =>
    have honce : (runOnceAt now).run s = _ := runOnceAt_of_received hcall (Or.inr hlong)
    rw [if_neg (Nat.ne_of_gt (Nat.zero_lt_of_lt hlong))] at honce
    exact turn_of_err honce
  | ignored hreceives hprocess => exact turn_of_ok (runOnceAt_of_ignored hreceives hprocess)
  | malformed hreceives hprocess => exact turn_of_ok (runOnceAt_of_malformed hreceives hprocess)
  | transmitted hreceives hprocess hcall => exact turn_of_ok (runOnceAt_of_transmitted hreceives hprocess hcall)
  | notTransmitted hreceives hprocess hcall =>
    exact turn_of_err (runOnceAt_of_transmit_err hreceives hprocess hcall)
  | transmitPanic hreceives hprocess hcall =>
    exact turn_of_panic (runOnceAt_of_transmit_panic hreceives hprocess hcall)

lemma exists_effect_of_receives {frame buffer : Bytes} {device : δ} (h : Receives s frame device buffer) :
    ∃ result, TurnEffect observe now ⟨s, observer⟩ result := by
  rcases process_cases (frame, now) s.interface with hnone | ⟨error, herr⟩ | ⟨reply, hsome⟩
  · exact ⟨_, .ignored h (Prod.ext hnone rfl)⟩
  · exact ⟨_, .malformed h (Prod.ext herr rfl)⟩
  · cases htransmit : (EthernetDevice.transmit reply : Exec δ IoError Unit).run device with
    | mk result device' =>
      cases result with
      | ok u => exact ⟨_, .transmitted h (Prod.ext hsome rfl) htransmit⟩
      | err e => exact ⟨_, .notTransmitted h (Prod.ext hsome rfl) htransmit⟩
      | panic p => exact ⟨_, .transmitPanic h (Prod.ext hsome rfl) htransmit⟩

lemma exists_effect (loop : RunLoop δ ω) : ∃ result, TurnEffect observe now loop result := by
  obtain ⟨s, observer⟩ := loop
  cases hcall : (EthernetDevice.receive : Exec (δ × Bytes) IoError ℕ).run (s.device, s.receiveBuffer) with
  | mk result after =>
    obtain ⟨device, buffer⟩ := after
    cases result with
    | err e => exact ⟨_, .notReceived hcall⟩
    | panic p => exact ⟨_, .receivePanic hcall⟩
    | ok received =>
      rcases Nat.eq_zero_or_pos received with rfl | hpos
      · exact ⟨_, .endOfInput hcall⟩
      rcases Nat.lt_or_ge buffer.length received with hlong | hfits
      · exact ⟨_, .tooLong hcall hlong⟩
      -- the frame is the start of the buffer
      · have hlength : (buffer.take received).length = received := List.length_take_of_le hfits
        have hframe : Receives s (buffer.take received) device buffer :=
          ⟨by rw [hlength, hcall], by rw [hlength]; exact hpos.ne', by rw [hlength, getTo, if_pos hfits]⟩
        exact exists_effect_of_receives hframe

/-- **What a turn does** is one of the effects, and no other. -/
theorem turn_run_iff {loop : RunLoop δ ω} {result : Outcome IoError Unit × RunLoop δ ω} :
    (turn observe now).run loop = result ↔ TurnEffect observe now loop result := by
  refine ⟨?_, TurnEffect.run⟩
  rintro rfl
  obtain ⟨result, heffect⟩ : ∃ result, TurnEffect observe now loop result := exists_effect loop
  rw [heffect.run]
  exact heffect

end Turn

/-! ### The journal of a device -/

/-- The frame that a call of `receive` has brought, by what it returned and left in the buffer. -/
def frameOf (result : Outcome IoError ℕ) (buffer : Bytes) : Option Bytes :=
  match result with
  | .ok received => if received = 0 then none else getTo buffer received
  | .err _ | .panic _ => none

/-- A device that writes down its calls: what each call of `receive` has brought, the frames that it was given to
transmit, and those of them that it has taken. -/
structure Journal (δ : Type) where
  device : δ
  polls : List (Option Bytes)
  offered : List Bytes
  taken : List Bytes

namespace Journal

variable {δ : Type}

def new (device : δ) : Journal δ := ⟨device, [], [], []⟩

/-- The frames that the calls of `receive` have brought, each with the clock reading of its turn. -/
def received (journal : Journal δ) (clock : List Instant) : List (Bytes × Instant) :=
  (journal.polls.zip clock).filterMap fun turn => turn.1.map fun frame => (frame, turn.2)

/-- What is added to a journal. -/
structure Adds (journal journal' : Journal δ) (polls : List (Option Bytes)) (offered taken : List Bytes) : Prop where
  polls : journal'.polls = journal.polls ++ polls
  offered : journal'.offered = journal.offered ++ offered
  taken : journal'.taken = journal.taken ++ taken

lemma Adds.trans {journal journal' journal'' : Journal δ} {polls polls' : List (Option Bytes)}
    {offered offered' taken taken' : List Bytes} (h : Adds journal journal' polls offered taken)
    (h' : Adds journal' journal'' polls' offered' taken') :
    Adds journal journal'' (polls ++ polls') (offered ++ offered') (taken ++ taken') where
  polls := by rw [h'.polls, h.polls, List.append_assoc]
  offered := by rw [h'.offered, h.offered, List.append_assoc]
  taken := by rw [h'.taken, h.taken, List.append_assoc]

lemma Adds.turns {journal journal' : Journal δ} {poll : Option Bytes} {offered taken : List Bytes}
    (h : Adds journal journal' [poll] offered taken) {past : List Instant} (hturns : journal.polls.length = past.length)
    (now : Instant) : journal'.polls.length = (past ++ [now]).length := by
  rw [h.polls, List.length_append, List.length_append, hturns]
  rfl

/-- A turn adds the frame that its call of `receive` has brought. -/
lemma Adds.received {journal journal' : Journal δ} {poll : Option Bytes} {offered taken : List Bytes}
    (h : Adds journal journal' [poll] offered taken) {past : List Instant} (hturns : journal.polls.length = past.length)
    (now : Instant) : journal'.received (past ++ [now]) =
      journal.received past ++ (poll.map fun frame => (frame, now)).toList := by
  unfold Journal.received
  rw [h.polls, List.zip_append hturns, List.filterMap_append]
  cases poll <;> rfl

variable [EthernetDevice δ]

def receive : Exec (Journal δ × Bytes) IoError ℕ where
  run s :=
    let call := (EthernetDevice.receive : Exec (δ × Bytes) IoError ℕ).run (s.1.device, s.2)
    (call.1, ({ s.1 with device := call.2.1, polls := s.1.polls ++ [frameOf call.1 call.2.2] }, call.2.2))

def transmit (frame : Bytes) : Exec (Journal δ) IoError Unit where
  run s :=
    let call := (EthernetDevice.transmit frame : Exec δ IoError Unit).run s.device
    (call.1, { s with
      device := call.2
      offered := s.offered ++ [frame]
      taken := s.taken ++ if call.1 = .ok () then [frame] else [] })

instance : EthernetDevice (Journal δ) where
  receive := receive
  transmit := transmit

/-- The device does what it does without the journal. -/
theorem simulates : Simulates (Journal.device : Journal δ → δ) where
  receive _ := rfl
  transmit _ _ := rfl

lemma adds_of_receive {journal journal' : Journal δ} {buffer buffer' : Bytes} {result : Outcome IoError ℕ}
    (h : (EthernetDevice.receive : Exec (Journal δ × Bytes) IoError ℕ).run (journal, buffer) =
      (result, (journal', buffer'))) : Adds journal journal' [frameOf result buffer'] [] [] := by
  obtain ⟨hresult, hafter⟩ := Prod.mk.inj h
  obtain ⟨rfl, hbuffer⟩ := Prod.mk.inj hafter
  rw [← hresult, ← hbuffer]
  exact ⟨rfl, (List.append_nil _).symm, (List.append_nil _).symm⟩

lemma adds_of_transmit {frame : Bytes} {journal journal' : Journal δ} {result : Outcome IoError Unit}
    (h : (EthernetDevice.transmit frame : Exec (Journal δ) IoError Unit).run journal = (result, journal')) :
    Adds journal journal' [] [frame] (if result = .ok () then [frame] else []) := by
  obtain ⟨hresult, rfl⟩ := Prod.mk.inj h
  rw [← hresult]
  exact ⟨(List.append_nil _).symm, rfl, rfl⟩

lemma adds_of_receives {interface : NetworkInterface} {frame buffer buffer' : Bytes} {journal journal' : Journal δ}
    (h : Receives ⟨journal, interface, buffer⟩ frame journal' buffer') : Adds journal journal' [some frame] [] [] := by
  have hadds := adds_of_receive h.receive
  rwa [frameOf, if_neg h.nonempty, h.frame] at hadds

end Journal

/-- The length of a transmission that the observer is told about. -/
def RunOutcome.transmission : RunOutcome → Option ℕ
  | .replyTransmitted _ transmitted => some transmitted
  | .ignored _ => none
  | .malformedFrame _ _ => none

section Accounts

variable {δ : Type}

/-- The replies to the frames, one after the other. -/
def repliesTo (interface : NetworkInterface) (received : List (Bytes × Instant)) : List Bytes :=
  (trace process interface received).filterMap fun t => replyOf t.output

/-- What there is to tell of the frames. -/
def outcomesOf (interface : NetworkInterface) (received : List (Bytes × Instant)) : List RunOutcome :=
  (trace process interface received).filterMap fun t => outcomeOf t.input.1 t.output

/-- What the loop has done in the turns at the instants of `clock`.  It has called `receive` once in each of them, and
the interface has processed the frames that these calls have brought, one after the other.  The device was given all of
the replies, in order, and has taken some of them; the observer was told the outcomes, in order, and those that are
missing are the ones of the replies that were not taken. -/
structure Accounts (interface : NetworkInterface) (clock : List Instant)
    (s : RunLoop (Journal δ) (List RunOutcome)) : Prop where
  turns : s.stack.device.polls.length = clock.length
  state : s.stack.interface = Lib.run process interface (s.stack.device.received clock)
  offered : s.stack.device.offered = repliesTo interface (s.stack.device.received clock)
  taken : s.stack.device.taken.Sublist s.stack.device.offered
  told : s.observer.Sublist (outcomesOf interface (s.stack.device.received clock))
  agree : s.observer.filterMap RunOutcome.transmission = s.stack.device.taken.map List.length
  balance : s.observer.length + s.stack.device.offered.length =
    (outcomesOf interface (s.stack.device.received clock)).length + s.stack.device.taken.length

namespace Accounts

variable {interface interface' : NetworkInterface} {past : List Instant} {s : RunLoop (Journal δ) (List RunOutcome)}
  {journal : Journal δ} {buffer frame : Bytes}

lemma new (device : δ) (interface : NetworkInterface) :
    Accounts interface [] ⟨⟨Journal.new device, interface, vec 0 defaultReceiveBufferLen⟩, []⟩ where
  turns := rfl
  state := rfl
  offered := rfl
  taken := List.Sublist.refl []
  told := List.Sublist.refl []
  agree := rfl
  balance := rfl

lemma unheard (h : Accounts interface past s) (now : Instant) (hadds : s.stack.device.Adds journal [none] [] []) :
    Accounts interface (past ++ [now]) ⟨⟨journal, s.stack.interface, buffer⟩, s.observer⟩ := by
  have hreceived : journal.received (past ++ [now]) = s.stack.device.received past :=
    (hadds.received h.turns now).trans (List.append_nil _)
  have hoffered : journal.offered = s.stack.device.offered := hadds.offered.trans (List.append_nil _)
  have htaken : journal.taken = s.stack.device.taken := hadds.taken.trans (List.append_nil _)
  constructor
  · exact hadds.turns h.turns now
  · rw [hreceived]
    exact h.state
  · rw [hreceived, hoffered]
    exact h.offered
  · rw [hoffered, htaken]
    exact h.taken
  · rw [hreceived]
    exact h.told
  · rw [htaken]
    exact h.agree
  · rw [hreceived, hoffered, htaken]
    exact h.balance

/-- The call has brought a frame: `taken` is what the device took for it, and `told` what the observer was told. -/
lemma heard (h : Accounts interface past s) {now : Instant} {result : Outcome InterfaceError (Option Bytes)}
    (hprocess : process (frame, now) s.stack.interface = (result, interface')) {taken : List Bytes}
    {told : List RunOutcome} (hadds : s.stack.device.Adds journal [some frame] (replyOf result).toList taken)
    (htaken : taken.Sublist (replyOf result).toList) (htold : told.Sublist (outcomeOf frame result).toList)
    (hagree : told.filterMap RunOutcome.transmission = taken.map List.length)
    (hbalance : told.length + (replyOf result).toList.length = (outcomeOf frame result).toList.length + taken.length) :
    Accounts interface (past ++ [now]) ⟨⟨journal, interface', buffer⟩, s.observer ++ told⟩ := by
  rw [h.state] at hprocess
  have hreceived : journal.received (past ++ [now]) = s.stack.device.received past ++ [(frame, now)] :=
    hadds.received h.turns now
  have hreplies : repliesTo interface (journal.received (past ++ [now])) =
      repliesTo interface (s.stack.device.received past) ++ (replyOf result).toList := by
    rw [hreceived, repliesTo, trace_snoc, List.filterMap_append, hprocess]
    rfl
  have houtcomes : outcomesOf interface (journal.received (past ++ [now])) =
      outcomesOf interface (s.stack.device.received past) ++ (outcomeOf frame result).toList := by
    rw [hreceived, outcomesOf, trace_snoc, List.filterMap_append, hprocess]
    rfl
  have hbefore := h.balance
  constructor
  · exact hadds.turns h.turns now
  · rw [hreceived, run_snoc, hprocess]
  · rw [hreplies, hadds.offered, h.offered]
  · rw [hadds.offered, hadds.taken]
    exact h.taken.append htaken
  · rw [houtcomes]
    exact h.told.append htold
  · dsimp only
    rw [hadds.taken, List.filterMap_append, h.agree, hagree, List.map_append]
  · dsimp only
    rw [houtcomes, hadds.offered, hadds.taken]
    simp only [List.length_append]
    omega

/-- **One turn** can be accounted for, also when it ends the loop. -/
lemma turn [EthernetDevice δ] (h : Accounts interface past s) (now : Instant) :
    Accounts interface (past ++ [now]) ((Runtime.turn record now).run s).2 := by
  have heffect := turn_run_iff.1 (rfl : (Runtime.turn record now).run s = _)
  generalize (Runtime.turn record now).run s = result at heffect ⊢
  cases heffect with
  | notReceived hcall | receivePanic hcall | endOfInput hcall => exact h.unheard now (Journal.adds_of_receive hcall)
  | tooLong hcall hlong =>
    refine h.unheard now ?_
    have hadds := Journal.adds_of_receive hcall
    rwa [frameOf, if_neg (Nat.ne_of_gt (Nat.zero_lt_of_lt hlong)), getTo, if_neg (Nat.not_le.2 hlong)] at hadds
  | ignored hreceives hprocess | malformed hreceives hprocess =>
    have hadds := Journal.adds_of_receives hreceives
    exact h.heard hprocess hadds (List.Sublist.refl _) (List.Sublist.refl _) rfl rfl
  | transmitted hreceives hprocess hcall =>
    have hadds := (Journal.adds_of_receives hreceives).trans (Journal.adds_of_transmit hcall)
    exact h.heard hprocess hadds (List.Sublist.refl _) (List.Sublist.refl _) rfl rfl
  | notTransmitted hreceives hprocess hcall | transmitPanic hreceives hprocess hcall =>
    have hadds := (Journal.adds_of_receives hreceives).trans (Journal.adds_of_transmit hcall)
    rw [if_neg (by rintro ⟨⟩)] at hadds
    rw [← List.append_nil s.observer]
    exact h.heard hprocess hadds (List.nil_sublist _) (List.nil_sublist _) rfl rfl

end Accounts

end Accounts

section Loop

variable {δ : Type} [EthernetDevice δ]

/-- **What the loop did can be accounted for**, on any device and however the loop ends: it used the clock readings
`past`, one for each call of `receive`, and these are all of them unless the loop was left; what it did with the frames
that the device returned in these calls is accounted for; and it does the same without the journal. -/
theorem loop_accounts (device : δ) (interface : NetworkInterface) (clock : List Instant) :
    let journal := runWithObserver record [] (Journal.new device) interface clock
    let past := clock.take journal.2.stack.device.polls.length
    runWithObserver record [] device interface clock = Prod.map id (RunLoop.map Journal.device) journal ∧
      runWithObserver record [] (Journal.new device) interface past = journal ∧
      (journal.1 = .ok () → past = clock) ∧ Accounts interface past journal.2 := by
  intro journal past
  obtain ⟨used, hprefix, hrun, hok, h⟩ := Exec.forEach_prefix (Accounts interface) (Accounts.new device interface)
    (fun past now s h => h.turn now) clock
  have hpast : past = used := (congrArg clock.take h.turns).trans (List.prefix_iff_eq_take.1 hprefix).symm
  rw [hpast]
  exact ⟨Journal.simulates.runWithObserver record [] (Journal.new device) interface clock, hrun, hok, h⟩

/-- **How the loop is left**, on any device: a turn had one of the effects that leave it, and the loop ran through the
clock readings before. -/
theorem left_iff {ω : Type} {observe : RunOutcome → ω → ω} {observer : ω} {device : δ} {interface : NetworkInterface}
    {clock : List Instant} {result : Outcome IoError Unit} {loop : RunLoop δ ω} (hresult : result ≠ .ok ()) :
    runWithObserver observe observer device interface clock = (result, loop) ↔ ∃ past now rest before,
      clock = past ++ now :: rest ∧ runWithObserver observe observer device interface past = (.ok (), before) ∧
      TurnEffect observe now before (result, loop) := by
  unfold runWithObserver Runtime.loop
  rw [Exec.forEach_left_iff hresult]
  simp only [turn_run_iff]

/-- A device whose cable was pulled after one interruption. -/
theorem left_iff_unplugged :
    let script : Script := ⟨fun call => .error (IoError.ofKind (if call = 0 then .interrupted else .networkDown)),
      fun _ _ => .ok ()⟩
    ∃ past now rest before loop, [7, 8, 9] = past ++ now :: rest ∧
      runWithObserver record [] (ScriptDevice.new script) TestFrames.interface past = (.ok (), before) ∧
      TurnEffect record now before (.err (IoError.ofKind .networkDown), loop) := by
  intro script
  have hrun : runWithObserver record [] (ScriptDevice.new script) TestFrames.interface [7, 8, 9] =
      (.err (IoError.ofKind .networkDown), ⟨⟨⟨2, 0, []⟩, TestFrames.interface, vec 0 defaultReceiveBufferLen⟩, []⟩) :=
    rfl
  have hresult : (.err (IoError.ofKind .networkDown) : Outcome IoError Unit) ≠ .ok () := nofun
  obtain ⟨past, now, rest, before, hcut, hpast, heffect⟩ := (left_iff hresult).1 hrun
  exact ⟨past, now, rest, before, _, hcut, hpast, heffect⟩

end Loop

end TcpIp.Runtime
