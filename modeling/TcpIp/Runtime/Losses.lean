import TcpIp.Runtime.Script

/-!
# What the run loop loses

The run loop on a scripted device, observed by a list of outcomes.

* `Served` — what the loop has done with the script, at every clock reading after which it has not returned; one rule
  for each way in which a turn goes on;
* `running_iff` — the loop runs for as long as every error is an interruption;
* `keeps_replies_iff` — it loses no reply and no outcome exactly when no call of `transmit` is interrupted.
-/

namespace TcpIp.Runtime

open TcpIp.Lib TcpIp.Device TcpIp.Interface TcpIp.Arp.Cache

/-- The observer that keeps every outcome. -/
def record (outcome : RunOutcome) (outcomes : List RunOutcome) : List RunOutcome := outcomes ++ [outcome]

/-- What the loop has done with the script. -/
structure Served (script : Script) (interface : NetworkInterface) (clock : List Instant)
    (s : RunLoop (ScriptDevice script) (List RunOutcome)) : Prop where
  receiveCalls : s.stack.device.receiveCalls = clock.length
  transmitCalls : s.stack.device.transmitCalls = (script.replies interface clock).length
  state : s.stack.interface = script.served interface clock
  room : s.stack.receiveBuffer.length = defaultReceiveBufferLen
  /-- What is sent and what is observed is in order, and nothing is made up. -/
  transmitted : s.stack.device.transmittedFrames.Sublist (script.replies interface clock)
  observed : s.observer.Sublist (script.outcomes interface clock)
  /-- A reply and its outcome are lost together. -/
  balance : s.observer.length + (script.replies interface clock).length =
    (script.outcomes interface clock).length + s.stack.device.transmittedFrames.length
  lost : s.stack.device.transmittedFrames.length = (script.replies interface clock).length ↔
    script.Uninterrupted (script.replies interface clock)

namespace Served

variable {script : Script} {interface : NetworkInterface} {clock : List Instant} {now : Instant}
  {s : RunLoop (ScriptDevice script) (List RunOutcome)} {frame : Frame} {reply : Bytes} {outcome : RunOutcome}

lemma new : Served script interface []
    ⟨⟨ScriptDevice.new script, interface, vec 0 defaultReceiveBufferLen⟩, []⟩ where
  receiveCalls := rfl
  transmitCalls := rfl
  state := rfl
  room := vec_length 0 defaultReceiveBufferLen
  transmitted := List.Sublist.refl []
  observed := List.Sublist.refl []
  balance := rfl
  lost := by
    constructor
    · intro _ call reply hreply
      cases hreply
    · intro _
      rfl

/-! ### The ways to go on -/

lemma receiveCalls_snoc (h : Served script interface clock s) (now : Instant) :
    s.stack.device.received.receiveCalls = (clock ++ [now]).length := by
  rw [List.length_append, ← h.receiveCalls]
  rfl

lemma retried (h : Served script interface clock s) {e : IoError}
    (hreceive : script.receives clock.length = .error e) : Served script interface (clock ++ [now])
      ⟨⟨s.stack.device.received, s.stack.interface, s.stack.receiveBuffer⟩, s.observer⟩ where
  receiveCalls := h.receiveCalls_snoc now
  transmitCalls := by
    rw [Script.replies_snoc_of_error hreceive]
    exact h.transmitCalls
  state := by
    rw [Script.served_snoc_of_error hreceive]
    exact h.state
  room := h.room
  transmitted := by
    rw [Script.replies_snoc_of_error hreceive]
    exact h.transmitted
  observed := by
    rw [Script.outcomes_snoc_of_error hreceive]
    exact h.observed
  balance := by
    rw [Script.replies_snoc_of_error hreceive, Script.outcomes_snoc_of_error hreceive]
    exact h.balance
  lost := by
    rw [Script.replies_snoc_of_error hreceive]
    exact h.lost

lemma room_snoc (h : Served script interface clock s) (frame : Frame) :
    (frame.bytes ++ s.stack.receiveBuffer.drop frame.bytes.length).length = defaultReceiveBufferLen := by
  have hfits := frame.fits
  rw [List.length_append, List.length_drop, h.room]
  omega

lemma silent (h : Served script interface clock s) (hreceive : script.receives clock.length = .ok frame)
    (hreply : replyOf (process (frame.bytes, now) (script.served interface clock)).1 = none)
    (houtcome : outcomeOf frame.bytes (process (frame.bytes, now) (script.served interface clock)).1 = some outcome) :
    Served script interface (clock ++ [now])
      ⟨⟨s.stack.device.received, (process (frame.bytes, now) (script.served interface clock)).2,
        frame.bytes ++ s.stack.receiveBuffer.drop frame.bytes.length⟩, s.observer ++ [outcome]⟩ := by
  have hreplies := Script.replies_snoc_of_silent hreceive hreply
  have houtcomes := Script.outcomes_snoc_of_ok hreceive houtcome
  have hbalance := h.balance
  constructor
  · exact h.receiveCalls_snoc now
  · rw [hreplies]
    exact h.transmitCalls
  · exact (Script.served_snoc_of_ok hreceive).symm
  · exact h.room_snoc frame
  · rw [hreplies]
    exact h.transmitted
  · rw [houtcomes]
    exact h.observed.append_right [outcome]
  · rw [hreplies, houtcomes, List.length_append, List.length_append]
    show _ = _ + s.stack.device.transmittedFrames.length
    omega
  · rw [hreplies]
    exact h.lost

section Reply

variable (h : Served script interface clock s) (hreceive : script.receives clock.length = .ok frame)
  (hreply : replyOf (process (frame.bytes, now) (script.served interface clock)).1 = some reply)
  (houtcome : outcomeOf frame.bytes (process (frame.bytes, now) (script.served interface clock)).1 = some outcome)

include h hreceive hreply houtcome

lemma answered (htransmit : script.transmits (script.replies interface clock).length reply = .ok ()) :
    Served script interface (clock ++ [now])
      ⟨⟨s.stack.device.received.took reply, (process (frame.bytes, now) (script.served interface clock)).2,
        frame.bytes ++ s.stack.receiveBuffer.drop frame.bytes.length⟩, s.observer ++ [outcome]⟩ := by
  have hreplies := Script.replies_snoc_of_reply hreceive hreply
  have houtcomes := Script.outcomes_snoc_of_ok hreceive houtcome
  have hbalance := h.balance
  have hlost := h.lost
  have hkept : ¬Retried (script.transmits (script.replies interface clock).length reply) := by
    rw [htransmit]
    rintro ⟨e, he, -⟩
    cases he
  have htook : (s.stack.device.received.took reply).transmittedFrames = s.stack.device.transmittedFrames ++ [reply] :=
    rfl
  constructor
  · exact h.receiveCalls_snoc now
  · rw [hreplies, List.length_append, ← h.transmitCalls]
    rfl
  · exact (Script.served_snoc_of_ok hreceive).symm
  · exact h.room_snoc frame
  · rw [hreplies]
    exact h.transmitted.append_right [reply]
  · rw [houtcomes]
    exact h.observed.append_right [outcome]
  · rw [hreplies, houtcomes]
    dsimp only
    rw [htook]
    simp only [List.length_append, List.length_singleton]
    omega
  · dsimp only
    rw [hreplies, htook, Script.Uninterrupted, Script.forall_call_snoc, ← Script.Uninterrupted,
      and_iff_left hkept, ← hlost]
    simp only [List.length_append, List.length_singleton]
    omega

lemma interrupted (htransmit : Retried (script.transmits (script.replies interface clock).length reply)) :
    Served script interface (clock ++ [now])
      ⟨⟨s.stack.device.received.refused, (process (frame.bytes, now) (script.served interface clock)).2,
        frame.bytes ++ s.stack.receiveBuffer.drop frame.bytes.length⟩, s.observer⟩ := by
  have hreplies := Script.replies_snoc_of_reply hreceive hreply
  have houtcomes := Script.outcomes_snoc_of_ok hreceive houtcome
  have hbalance := h.balance
  have hshort := h.transmitted.length_le
  have hsame : s.stack.device.received.refused.transmittedFrames = s.stack.device.transmittedFrames := rfl
  constructor
  · exact h.receiveCalls_snoc now
  · rw [hreplies, List.length_append, ← h.transmitCalls]
    rfl
  · exact (Script.served_snoc_of_ok hreceive).symm
  · exact h.room_snoc frame
  · rw [hreplies]
    exact h.transmitted.trans (List.sublist_append_left _ _)
  · rw [houtcomes]
    exact h.observed.trans (List.sublist_append_left _ _)
  · rw [hreplies, houtcomes]
    dsimp only
    rw [hsame]
    simp only [List.length_append, List.length_singleton]
    omega
  · dsimp only
    rw [hreplies, hsame, Script.Uninterrupted, Script.forall_call_snoc]
    simp only [List.length_append, List.length_singleton]
    constructor
    · intro hlength
      omega
    · rintro ⟨-, hlast⟩
      exact absurd htransmit hlast

end Reply

/-- Nothing is lost, neither a reply nor an outcome, or a call was interrupted. -/
lemma intact_iff (h : Served script interface clock s) :
    (s.stack.device.transmittedFrames = script.replies interface clock ∧
      s.observer = script.outcomes interface clock) ↔
      script.Uninterrupted (script.replies interface clock) := by
  have hbalance := h.balance
  rw [← h.lost]
  constructor
  · rintro ⟨htransmitted, -⟩
    rw [htransmitted]
  · intro hlength
    refine ⟨h.transmitted.eq_of_length hlength, h.observed.eq_of_length ?_⟩
    omega

end Served

/-! ### One turn -/

section Turn

variable {script : Script} {interface : NetworkInterface} {clock : List Instant} {now : Instant}
  {s s' : RunLoop (ScriptDevice script) (List RunOutcome)}

/-- What a turn returns: an error of the device, unless it is an interruption. -/
def leave (e : IoError) : Outcome IoError Unit := if e.kind = .interrupted then .ok () else .err e

lemma leave_eq_ok_iff {e : IoError} : leave e = .ok () ↔ e.kind = .interrupted := by
  unfold leave
  split_ifs with h
  · exact iff_of_true rfl h
  · refine iff_of_false (fun herr => ?_) h
    cases herr

/-- What a turn of the loop returns. -/
def turnResult (script : Script) (interface : NetworkInterface) (clock : List Instant) (now : Instant) :
    Outcome IoError Unit :=
  match script.receives clock.length with
  | .error e => leave e
  | .ok frame =>
    match replyOf (process (frame.bytes, now) (script.served interface clock)).1 with
    | none => .ok ()
    | some reply =>
      match script.transmits (script.replies interface clock).length reply with
      | .ok () => .ok ()
      | .error e => leave e

lemma process_cases (input : Bytes × Instant) (interface : NetworkInterface) :
    (process input interface).1 = .ok none ∨ (∃ error, (process input interface).1 = .err error) ∨
      ∃ reply, (process input interface).1 = .ok (some reply) := by
  rcases Outcome.ok_or_err (NetworkInterface.processFrameAt_panics interface input.1 input.2) with
    ⟨reply | reply, hok⟩ | ⟨error, herr⟩
  · exact Or.inl hok
  · exact Or.inr (Or.inr ⟨reply, hok⟩)
  · exact Or.inr (Or.inl ⟨error, herr⟩)

/-- **One turn**, from a state that the loop has reached. -/
theorem Served.turn (h : Served script interface clock s) (now : Instant) : ∃ s',
    (turn record now).run s = (turnResult script interface clock now, s') ∧
      (turnResult script interface clock now = .ok () → Served script interface (clock ++ [now]) s') := by
  obtain ⟨stack, observer⟩ := s
  unfold turnResult
  cases hreceive : script.receives clock.length with
  | error e =>
    have hcall := @ScriptDevice.receive_of_error script stack.device stack.receiveBuffer e
      ((congrArg script.receives h.receiveCalls).trans hreceive)
    exact ⟨_, turn_of_err (runOnceAt_of_receive_err hcall), fun _ => h.retried hreceive⟩
  | ok frame =>
    dsimp only
    have hcall : Receives stack frame.bytes stack.device.received
        (frame.bytes ++ stack.receiveBuffer.drop frame.bytes.length) := by
      have hreceived := @ScriptDevice.receive_of_ok script stack.device stack.receiveBuffer frame
        ((congrArg script.receives h.receiveCalls).trans hreceive)
      rw [fillBuffer_run frame h.room] at hreceived
      refine ⟨hreceived, frame.nonempty, ?_⟩
      rw [getTo, if_pos (by simp), List.take_left]
    have hprocess : (NetworkInterface.processFrameAt frame.bytes now).run stack.interface =
        process (frame.bytes, now) (script.served interface clock) := by
      rw [← h.state]
      rfl
    rcases process_cases (frame.bytes, now) (script.served interface clock) with
      hnone | ⟨error, herr⟩ | ⟨reply, hsome⟩
    · rw [hnone]
      refine ⟨_, turn_of_ok (runOnceAt_of_ignored hcall (hprocess.trans (Prod.ext hnone rfl))), fun _ => ?_⟩
      exact h.silent hreceive (by rw [hnone]; rfl) (by rw [hnone]; rfl)
    · rw [herr]
      refine ⟨_, turn_of_ok (runOnceAt_of_malformed hcall (hprocess.trans (Prod.ext herr rfl))), fun _ => ?_⟩
      exact h.silent hreceive (by rw [herr]; rfl) (by rw [herr]; rfl)
    · rw [hsome]
      dsimp only [replyOf]
      have hcalls : stack.device.received.transmitCalls = (script.replies interface clock).length := h.transmitCalls
      have hreply : (NetworkInterface.processFrameAt frame.bytes now).run stack.interface =
          (.ok (some reply), (process (frame.bytes, now) (script.served interface clock)).2) :=
        hprocess.trans (Prod.ext hsome rfl)
      cases htransmit : script.transmits (script.replies interface clock).length reply with
      | ok u =>
        have hsend := ScriptDevice.transmit_of_ok ((congrArg (script.transmits · reply) hcalls).trans htransmit)
        refine ⟨_, turn_of_ok (runOnceAt_of_transmitted hcall hreply hsend), fun _ => ?_⟩
        exact h.answered hreceive (by rw [hsome]; rfl) (by rw [hsome]; rfl) htransmit
      | error e =>
        have hsend := ScriptDevice.transmit_of_error ((congrArg (script.transmits · reply) hcalls).trans htransmit)
        refine ⟨_, turn_of_err (runOnceAt_of_transmit_err hcall hreply hsend), fun hretry => ?_⟩
        exact h.interrupted hreceive (by rw [hsome]; rfl) (by rw [hsome]; rfl)
          ⟨e, htransmit, leave_eq_ok_iff.1 hretry⟩

end Turn

/-! ### The loop -/

section Loop

variable {script : Script} {interface : NetworkInterface} {clock : List Instant}
  {s : RunLoop (ScriptDevice script) (List RunOutcome)}

lemma served_of_running (h : runWithObserver record [] (ScriptDevice.new script) interface clock = (.ok (), s)) :
    Served script interface clock s := by
  refine Exec.forEach_history (Served script interface) Served.new (fun past now t t' ht hturn => ?_) h
  obtain ⟨t'', hturn', hserved⟩ := ht.turn now
  rw [hturn'] at hturn
  obtain ⟨hresult, rfl⟩ := Prod.mk.inj hturn
  exact hserved hresult

lemma turnResult_eq_ok_iff {now : Instant} : turnResult script interface clock now = .ok () ↔
    (∀ e, script.receives clock.length = .error e → e.kind = .interrupted) ∧
    ∀ frame reply e, script.receives clock.length = .ok frame →
      replyOf (process (frame.bytes, now) (script.served interface clock)).1 = some reply →
      script.transmits (script.replies interface clock).length reply = .error e → e.kind = .interrupted := by
  unfold turnResult
  cases hreceive : script.receives clock.length with
  | error e =>
    dsimp only
    rw [leave_eq_ok_iff]
    constructor
    · intro hkind
      refine ⟨fun e' he => ?_, fun frame reply e' hframe => ?_⟩
      · cases he
        exact hkind
      · cases hframe
    · intro h
      exact h.1 e rfl
  | ok frame =>
    dsimp only
    cases hreply : replyOf (process (frame.bytes, now) (script.served interface clock)).1 with
    | none =>
      refine iff_of_true rfl ⟨fun e' he => ?_, fun frame' reply e' hframe hsome => ?_⟩
      · cases he
      · cases hframe
        cases hreply.symm.trans hsome
    | some reply =>
      dsimp only
      cases htransmit : script.transmits (script.replies interface clock).length reply with
      | ok u =>
        refine iff_of_true rfl ⟨fun e' he => ?_, fun frame' reply' e' hframe hsome herror => ?_⟩
        · cases he
        · cases hframe
          cases hreply.symm.trans hsome
          cases htransmit.symm.trans herror
      | error e =>
        dsimp only
        rw [leave_eq_ok_iff]
        constructor
        · intro hkind
          refine ⟨fun e' he => ?_, fun frame' reply' e' hframe hsome herror => ?_⟩
          · cases he
          · cases hframe
            cases hreply.symm.trans hsome
            cases htransmit.symm.trans herror
            exact hkind
        · intro h
          exact h.2 frame reply e rfl hreply htransmit

lemma running_snoc_iff {now : Instant} :
    (runWithObserver record [] (ScriptDevice.new script) interface (clock ++ [now])).1 = .ok () ↔
      (runWithObserver record [] (ScriptDevice.new script) interface clock).1 = .ok () ∧
        turnResult script interface clock now = .ok () := by
  constructor
  · intro h
    obtain ⟨t, hpast, hturn⟩ := Exec.forEach_snoc_eq_ok (Prod.ext h rfl)
    obtain ⟨t', hturn', -⟩ := (served_of_running hpast).turn now
    exact ⟨congrArg Prod.fst hpast, congrArg Prod.fst (hturn'.symm.trans hturn)⟩
  · rintro ⟨hpast, hresult⟩
    have hrun : runWithObserver record [] (ScriptDevice.new script) interface clock = (.ok (), _) :=
      Prod.ext hpast rfl
    obtain ⟨t', hturn, -⟩ := (served_of_running hrun).turn now
    have hlast : runWithObserver record [] (ScriptDevice.new script) interface (clock ++ [now]) =
        (turn record now).run _ := (Exec.forEach_snoc_run clock now _).trans (Exec.bind_of_ok hrun)
    rw [hturn, hresult] at hlast
    exact congrArg Prod.fst hlast

/-- **When the loop returns**: at the first error that is not an interruption. -/
theorem running_iff : (runWithObserver record [] (ScriptDevice.new script) interface clock).1 = .ok () ↔
    (∀ call < clock.length, ∀ e, script.receives call = .error e → e.kind = .interrupted) ∧
    ∀ call reply, (script.replies interface clock)[call]? = some reply → ∀ e, script.transmits call reply = .error e →
      e.kind = .interrupted := by
  induction clock using List.reverseRecOn with
  | nil =>
    refine iff_of_true rfl ⟨fun call hcall => absurd hcall (Nat.not_lt_zero call), fun call reply hreply => ?_⟩
    cases hreply
  | append_singleton clock now ih =>
    have hlength : (clock ++ [now]).length = clock.length + 1 := by rw [List.length_append, List.length_singleton]
    rw [running_snoc_iff, ih, turnResult_eq_ok_iff, hlength, Nat.forall_lt_succ_right]
    cases hreceive : script.receives clock.length with
    | error e =>
      rw [Script.replies_snoc_of_error hreceive]
      constructor
      · rintro ⟨⟨hpast, hsent⟩, hlast, -⟩
        exact ⟨⟨hpast, hlast⟩, hsent⟩
      · rintro ⟨⟨hpast, hlast⟩, hsent⟩
        refine ⟨⟨hpast, hsent⟩, hlast, fun frame reply e' hframe => ?_⟩
        cases hframe
    | ok frame =>
      rw [Script.replies_snoc_of_ok hreceive]
      cases hreply : replyOf (process (frame.bytes, now) (script.served interface clock)).1 with
      | none =>
        rw [Option.toList_none, List.append_nil]
        constructor
        · rintro ⟨⟨hpast, hsent⟩, hlast, -⟩
          exact ⟨⟨hpast, hlast⟩, hsent⟩
        · rintro ⟨⟨hpast, hlast⟩, hsent⟩
          refine ⟨⟨hpast, hsent⟩, hlast, fun frame' reply e' hframe hsome => ?_⟩
          cases hframe
          cases hreply.symm.trans hsome
      | some reply =>
        rw [Option.toList_some, Script.forall_call_snoc]
        constructor
        · rintro ⟨⟨hpast, hsent⟩, hlast, hnext⟩
          exact ⟨⟨hpast, hlast⟩, hsent, fun e he => hnext frame reply e rfl hreply he⟩
        · rintro ⟨⟨hpast, hlast⟩, hsent, hnext⟩
          refine ⟨⟨hpast, hsent⟩, hlast, fun frame' reply' e' hframe hsome => ?_⟩
          cases hframe
          cases hreply.symm.trans hsome
          exact hnext e'

/-- **What the loop loses.**  At every clock reading after which the loop has not returned: the device has taken the
replies, all of them in order, and every received frame has been observed, exactly if no call of `transmit` was
interrupted. -/
theorem keeps_replies_iff (h : runWithObserver record [] (ScriptDevice.new script) interface clock = (.ok (), s)) :
    (s.stack.device.transmittedFrames = script.replies interface clock ∧
      s.observer = script.outcomes interface clock) ↔
      script.Uninterrupted (script.replies interface clock) :=
  (served_of_running h).intact_iff

end Loop

/-- A script with the request of the tests: `receive` is interrupted once, then it returns an ARP request; every call
of `transmit` is answered alike. -/
def requestScript (answer : Except IoError Unit) : Script where
  receives call := if call = 0 then .error (IoError.ofKind .interrupted)
    else .ok ⟨TestFrames.arpRequestFrame, by decide, by decide⟩
  transmits _ _ := answer

/-- The bytes of the reply. -/
def arpReplyBytes : Bytes := [2, 0, 0, 0, 0, 2, 2, 0, 0, 0, 0, 1, 8, 6, 0, 1, 8, 0, 6, 4, 0, 2, 2, 0, 0, 0, 0, 1,
  10, 0, 0, 2, 2, 0, 0, 0, 0, 2, 10, 0, 0, 1]

lemma requestScript_running {answer : Except IoError Unit} (h : ∀ e, answer = .error e → e.kind = .interrupted)
    (interface : NetworkInterface) (clock : List Instant) :
    ∃ s, runWithObserver record [] (ScriptDevice.new (requestScript answer)) interface clock = (.ok (), s) := by
  have hrunning :
      (runWithObserver record [] (ScriptDevice.new (requestScript answer)) interface clock).1 = .ok () := by
    refine running_iff.2 ⟨fun call _ e he => ?_, fun call reply _ e he => h e he⟩
    dsimp only [requestScript] at he
    split_ifs at he
    cases he
    rfl
  exact ⟨_, Prod.ext hrunning rfl⟩

/-- A call of `receive` that is interrupted costs nothing. -/
theorem keeps_replies_iff_retried : ∃ s, runWithObserver record [] (ScriptDevice.new (requestScript (.ok ())))
    TestFrames.interface [7, 8] = (.ok (), s) ∧ s.stack.device.transmittedFrames = [arpReplyBytes] ∧
      s.observer = [.replyTransmitted 42 42] := by
  obtain ⟨s, hrun⟩ := @requestScript_running (.ok ()) (fun e he => by cases he) TestFrames.interface [7, 8]
  have hreplies : (requestScript (.ok ())).replies TestFrames.interface [7, 8] = [arpReplyBytes] := by
    decide +kernel
  have houtcomes : (requestScript (.ok ())).outcomes TestFrames.interface [7, 8] = [.replyTransmitted 42 42] := by
    decide +kernel
  obtain ⟨htransmitted, hobserved⟩ := (keeps_replies_iff hrun).2 fun call reply _ ⟨e, he, _⟩ => by cases he
  exact ⟨s, hrun, htransmitted.trans hreplies, hobserved.trans houtcomes⟩

/-- A call of `transmit` that is interrupted costs the reply and its outcome. -/
theorem interrupted_transmit_loses_reply : ∃ s,
    runWithObserver record [] (ScriptDevice.new (requestScript (.error (IoError.ofKind .interrupted))))
      TestFrames.interface [7, 8] = (.ok (), s) ∧
    (requestScript (.error (IoError.ofKind .interrupted))).replies TestFrames.interface [7, 8] = [arpReplyBytes] ∧
    (requestScript (.error (IoError.ofKind .interrupted))).outcomes TestFrames.interface [7, 8] =
      [.replyTransmitted 42 42] ∧
    s.stack.device.transmittedFrames = [] ∧ s.observer = [] := by
  obtain ⟨s, hrun⟩ := @requestScript_running (.error (IoError.ofKind .interrupted))
    (fun e he => by
      cases he
      rfl) TestFrames.interface [7, 8]
  have hreplies : (requestScript (.error (IoError.ofKind .interrupted))).replies TestFrames.interface [7, 8] =
      [arpReplyBytes] := by decide +kernel
  have houtcomes : (requestScript (.error (IoError.ofKind .interrupted))).outcomes TestFrames.interface [7, 8] =
      [.replyTransmitted 42 42] := by decide +kernel
  have hserved := served_of_running hrun
  have hlost : ¬(requestScript (.error (IoError.ofKind .interrupted))).Uninterrupted [arpReplyBytes] := by
    intro h
    exact h 0 arpReplyBytes rfl ⟨_, rfl, rfl⟩
  have htransmitted := hserved.transmitted.length_le
  have hbalance := hserved.balance
  have hshort := (not_congr hserved.lost).2 (by rwa [hreplies])
  rw [hreplies] at htransmitted hbalance hshort
  rw [houtcomes] at hbalance
  simp only [List.length_singleton] at htransmitted hbalance hshort
  exact ⟨s, hrun, hreplies, houtcomes, List.eq_nil_of_length_eq_zero (by omega),
    List.eq_nil_of_length_eq_zero (by omega)⟩

end TcpIp.Runtime
