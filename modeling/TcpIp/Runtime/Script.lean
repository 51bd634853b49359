import TcpIp.Lib.Trace
import TcpIp.Runtime

/-!
# The run loop on a scripted device

A device that answers every call as a script says, and the run loop on it.

* `Script` — an answer for every call of `receive` and of `transmit`; `ScriptDevice` — the device that gives them, and
  keeps the frames that it takes, as the device of the tests does;
* `received`, `results`, `replies`, `outcomes` — what should come of a script: the frames that are received, what the
  interface makes of them one after the other, the replies among that, and what there is to observe.
-/

namespace TcpIp.Runtime

open TcpIp.Lib TcpIp.Device TcpIp.Interface TcpIp.Arp.Cache

/-- A frame that fits the receive buffer of the loop. -/
structure Frame where
  bytes : Bytes
  nonempty : bytes.length ≠ 0
  fits : bytes.length ≤ defaultReceiveBufferLen

/-- Writes as much of a frame to the start of the buffer as fits. -/
def fillBuffer (frame : Bytes) : Exec Bytes IoError ℕ := do
  let buffer ← Exec.get
  let length := min frame.length buffer.length
  copyFromSlice 0 length (frame.take length)
  return length

lemma fillBuffer_run (frame : Frame) {buffer : Bytes} (hroom : buffer.length = defaultReceiveBufferLen) :
    (fillBuffer frame.bytes).run buffer = (.ok frame.bytes.length, frame.bytes ++ buffer.drop frame.bytes.length) := by
  have hfits := frame.fits
  have hlength : min frame.bytes.length buffer.length = frame.bytes.length := Nat.min_eq_left (by omega)
  have hcopy : (copyFromSlice 0 frame.bytes.length frame.bytes : Exec Bytes IoError Unit).run buffer =
      (.ok (), frame.bytes ++ buffer.drop frame.bytes.length) :=
    copyFromSlice_run (List.length_nil : ([] : Bytes).length = 0) (Nat.zero_add _).symm (by omega)
  unfold fillBuffer
  rw [Exec.get_bind]
  dsimp only
  rw [hlength, List.take_length]
  exact Exec.bind_of_ok hcopy

/-- An answer for every call. -/
structure Script where
  receives : ℕ → Except IoError Frame
  transmits : ℕ → Bytes → Except IoError Unit

structure ScriptDevice (script : Script) where
  receiveCalls : ℕ
  transmitCalls : ℕ
  transmittedFrames : List Bytes

namespace ScriptDevice

variable {script : Script}

def new (script : Script) : ScriptDevice script := ⟨0, 0, []⟩

def receive : Exec (ScriptDevice script × Bytes) IoError ℕ := do
  let (device, _buffer) ← Exec.get
  Exec.modify fun s => ({ s.1 with receiveCalls := s.1.receiveCalls + 1 }, s.2)
  match script.receives device.receiveCalls with
  | .error error => Exec.fail error
  | .ok frame => Exec.zoom Prod.snd (fun buffer s => (s.1, buffer)) (fillBuffer frame.bytes)

def transmit (frame : Bytes) : Exec (ScriptDevice script) IoError Unit := do
  let device ← Exec.get
  Exec.modify fun s => { s with transmitCalls := s.transmitCalls + 1 }
  match script.transmits device.transmitCalls frame with
  | .error error => Exec.fail error
  | .ok () => Exec.modify fun s => { s with transmittedFrames := s.transmittedFrames ++ [frame] }

instance : EthernetDevice (ScriptDevice script) where
  receive := receive
  transmit := transmit

/-! ### The calls -/

section Calls

variable {device : ScriptDevice script} {buffer frame : Bytes} {e : IoError}

/-- The device after a call of `receive`. -/
def received (device : ScriptDevice script) : ScriptDevice script :=
  { device with receiveCalls := device.receiveCalls + 1 }

/-- The device after a call of `transmit` that failed. -/
def refused (device : ScriptDevice script) : ScriptDevice script :=
  { device with transmitCalls := device.transmitCalls + 1 }

/-- The device after a call of `transmit` that took the frame. -/
def took (device : ScriptDevice script) (frame : Bytes) : ScriptDevice script :=
  { device.refused with transmittedFrames := device.transmittedFrames ++ [frame] }

lemma receive_of_error (h : script.receives device.receiveCalls = .error e) :
    (receive : Exec (ScriptDevice script × Bytes) IoError ℕ).run (device, buffer) =
      (.err e, (device.received, buffer)) := by
  unfold receive
  rw [Exec.get_bind, Exec.modify_bind]
  dsimp only
  rw [h]
  rfl

lemma receive_of_ok {frame : Frame} (h : script.receives device.receiveCalls = .ok frame) :
    (receive : Exec (ScriptDevice script × Bytes) IoError ℕ).run (device, buffer) =
      (((fillBuffer frame.bytes).run buffer).1, (device.received, ((fillBuffer frame.bytes).run buffer).2)) := by
  unfold receive
  rw [Exec.get_bind, Exec.modify_bind]
  dsimp only
  rw [h]
  rfl

lemma transmit_of_error (h : script.transmits device.transmitCalls frame = .error e) :
    (transmit frame).run device = (.err e, device.refused) := by
  unfold transmit
  rw [Exec.get_bind, Exec.modify_bind, h]
  rfl

lemma transmit_of_ok (h : script.transmits device.transmitCalls frame = .ok ()) :
    (transmit frame).run device = (.ok (), device.took frame) := by
  unfold transmit
  rw [Exec.get_bind, Exec.modify_bind, h]
  rfl

end Calls

end ScriptDevice

/-! ### What should come of a script -/

/-- One received frame, as the step of a machine. -/
def process (input : Bytes × Instant) (interface : NetworkInterface) :
    Outcome InterfaceError (Option Bytes) × NetworkInterface :=
  (NetworkInterface.processFrameAt input.1 input.2).run interface

/-- The reply that is to be transmitted. -/
def replyOf : Outcome InterfaceError (Option Bytes) → Option Bytes
  | .ok reply => reply
  | _ => none

/-- What there is to observe of a received frame. -/
def outcomeOf (input : Bytes) : Outcome InterfaceError (Option Bytes) → Option RunOutcome
  | .ok (some reply) => some (.replyTransmitted input.length reply.length)
  | .ok none => some (.ignored input.length)
  | .err error => some (.malformedFrame input.length error)
  | .panic _ => none

/-- The error is one that the loop goes on after. -/
def Retried (result : Except IoError Unit) : Prop := ∃ error, result = .error error ∧ error.kind = .interrupted

namespace Script

variable (script : Script) (interface : NetworkInterface) (clock : List Instant)

/-- The frames that the first calls of `receive` return, each with the clock reading of its turn. -/
def received : List (Bytes × Instant) :=
  clock.zipIdx.filterMap fun (now, call) =>
    match script.receives call with
    | .ok frame => some (frame.bytes, now)
    | .error _ => none

/-- What the interface makes of them. -/
def results : List (Step NetworkInterface (Bytes × Instant) (Outcome InterfaceError (Option Bytes))) :=
  trace process interface (script.received clock)

def replies : List Bytes := (script.results interface clock).filterMap fun t => replyOf t.output

def outcomes : List RunOutcome := (script.results interface clock).filterMap fun t => outcomeOf t.input.1 t.output

/-- The interface after them. -/
def served : NetworkInterface := Lib.run process interface (script.received clock)

/-- No call of `transmit` with these replies is interrupted. -/
def Uninterrupted (replies : List Bytes) : Prop :=
  ∀ call reply, replies[call]? = some reply → ¬Retried (script.transmits call reply)

section Snoc

variable {script interface clock} {now : Instant}

lemma received_snoc_of_error {e : IoError} (h : script.receives clock.length = .error e) :
    script.received (clock ++ [now]) = script.received clock := by
  unfold received
  rw [List.zipIdx_append, List.filterMap_append]
  simp [h]

lemma received_snoc_of_ok {frame : Frame} (h : script.receives clock.length = .ok frame) :
    script.received (clock ++ [now]) = script.received clock ++ [(frame.bytes, now)] := by
  unfold received
  rw [List.zipIdx_append, List.filterMap_append]
  simp [h]

lemma replies_snoc_of_error {e : IoError} (h : script.receives clock.length = .error e) :
    script.replies interface (clock ++ [now]) = script.replies interface clock := by
  rw [replies, results, received_snoc_of_error h]
  rfl

lemma replies_snoc_of_ok {frame : Frame} (h : script.receives clock.length = .ok frame) :
    script.replies interface (clock ++ [now]) = script.replies interface clock ++
      (replyOf (process (frame.bytes, now) (script.served interface clock)).1).toList := by
  rw [replies, results, received_snoc_of_ok h, trace_snoc, List.filterMap_append]
  rfl

lemma replies_snoc_of_silent {frame : Frame} (h : script.receives clock.length = .ok frame)
    (hreply : replyOf (process (frame.bytes, now) (script.served interface clock)).1 = none) :
    script.replies interface (clock ++ [now]) = script.replies interface clock := by
  rw [replies_snoc_of_ok h, hreply]
  exact List.append_nil _

lemma replies_snoc_of_reply {frame : Frame} {reply : Bytes} (h : script.receives clock.length = .ok frame)
    (hreply : replyOf (process (frame.bytes, now) (script.served interface clock)).1 = some reply) :
    script.replies interface (clock ++ [now]) = script.replies interface clock ++ [reply] := by
  rw [replies_snoc_of_ok h, hreply]
  rfl

lemma outcomes_snoc_of_error {e : IoError} (h : script.receives clock.length = .error e) :
    script.outcomes interface (clock ++ [now]) = script.outcomes interface clock := by
  rw [outcomes, results, received_snoc_of_error h]
  rfl

lemma outcomes_snoc_of_ok {frame : Frame} {outcome : RunOutcome} (h : script.receives clock.length = .ok frame)
    (houtcome : outcomeOf frame.bytes (process (frame.bytes, now) (script.served interface clock)).1 = some outcome) :
    script.outcomes interface (clock ++ [now]) = script.outcomes interface clock ++ [outcome] := by
  have hsnoc : script.outcomes interface (clock ++ [now]) = script.outcomes interface clock ++
      (outcomeOf frame.bytes (process (frame.bytes, now) (script.served interface clock)).1).toList := by
    rw [outcomes, results, received_snoc_of_ok h, trace_snoc, List.filterMap_append]
    rfl
  rw [hsnoc, houtcome]
  rfl

lemma served_snoc_of_error {e : IoError} (h : script.receives clock.length = .error e) :
    script.served interface (clock ++ [now]) = script.served interface clock := by
  rw [served, received_snoc_of_error h]
  rfl

lemma served_snoc_of_ok {frame : Frame} (h : script.receives clock.length = .ok frame) :
    script.served interface (clock ++ [now]) =
      (process (frame.bytes, now) (script.served interface clock)).2 := by
  rw [served, received_snoc_of_ok h, run_snoc]
  rfl

lemma forall_call_snoc {P : ℕ → Bytes → Prop} {replies : List Bytes} {reply : Bytes} :
    (∀ call reply', (replies ++ [reply])[call]? = some reply' → P call reply') ↔
      (∀ call reply', replies[call]? = some reply' → P call reply') ∧ P replies.length reply := by
  constructor
  · intro h
    refine ⟨fun call reply' hreply => h call reply' ?_, h _ reply (by simp)⟩
    obtain ⟨hlt, -⟩ := List.getElem?_eq_some_iff.1 hreply
    rw [List.getElem?_append_left hlt, hreply]
  · rintro ⟨h, hlast⟩ call reply' hreply
    rcases Nat.lt_trichotomy call replies.length with hlt | rfl | hgt
    · exact h call reply' (by rwa [List.getElem?_append_left hlt] at hreply)
    · obtain rfl : reply = reply' := by simpa using hreply
      exact hlast
    · rw [List.getElem?_eq_none (by simp; omega)] at hreply
      cases hreply

end Snoc

end Script

end TcpIp.Runtime
