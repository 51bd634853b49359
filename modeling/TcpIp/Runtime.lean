import TcpIp.Device
import TcpIp.Interface.Demux
import TcpIp.Lib.Loop

/-!
# `runtime.rs`: the run loop

* `runOnceAt` — one frame: receive, process, transmit the reply;
* `turn` — one turn of the loop of `run_with_observer`, with the clock reading that it takes;
* `loop` — as many turns as there are clock readings, for as long as the loop has not returned.

The rules say what a turn does on any device, one rule for each way in which `receive` and `transmit` may end.
-/

namespace TcpIp.Runtime

open TcpIp.Lib TcpIp.Device TcpIp.Interface

def defaultReceiveBufferLen : ℕ := ethernetHeaderLen + 65535

inductive RunOutcome where
  | ignored (received : ℕ)
  | replyTransmitted (received transmitted : ℕ)
  | malformedFrame (received : ℕ) (error : InterfaceError)
  deriving DecidableEq, Repr

/-- What `run_once_at` borrows. -/
structure Stack (δ : Type) where
  device : δ
  interface : NetworkInterface
  receiveBuffer : Bytes

namespace Stack

variable {δ ε α : Type}

def onReceive (call : Exec (δ × Bytes) ε α) : Exec (Stack δ) ε α :=
  Exec.zoom (fun s => (s.device, s.receiveBuffer))
    (fun t s => { s with device := t.1, receiveBuffer := t.2 }) call

def onDevice (call : Exec δ ε α) : Exec (Stack δ) ε α :=
  Exec.zoom Stack.device (fun device s => { s with device := device }) call

def onInterface (call : Exec NetworkInterface ε α) : Exec (Stack δ) ε α :=
  Exec.zoom Stack.interface (fun interface s => { s with interface := interface }) call

end Stack

section RunOnce

variable {δ : Type} [EthernetDevice δ]

open Stack

/-- The arms of the match on the result of `process_frame_at`. -/
def finish (received : ℕ) : Except InterfaceError (Option Bytes) → Exec (Stack δ) IoError RunOutcome
  | .ok (some reply) => do
    let transmitted := reply.length
    onDevice (EthernetDevice.transmit reply)
    return .replyTransmitted received transmitted
  | .ok none => return .ignored received
  | .error error => return .malformedFrame received error

def runOnceAt (now : Instant) : Exec (Stack δ) IoError RunOutcome := do
  let received ← onReceive EthernetDevice.receive
  if received = 0 then
    Exec.fail ⟨.unexpectedEof, some "Ethernet device reached the end of its input stream"⟩
  else do
    let s ← Exec.get
    match getTo s.receiveBuffer received with
    | none =>
      Exec.fail ⟨.invalidData, some (s!"Ethernet device reported {received} bytes but the receive buffer holds " ++
        s!"only {s.receiveBuffer.length}")⟩
    | some frame => do
      let result ← onInterface (Exec.attempt (NetworkInterface.processFrameAt frame now))
      finish received result

end RunOnce

/-! ### The loop -/

/-- The variables of `run_with_observer`; the observer is a closure with a state of its own. -/
structure RunLoop (δ ω : Type) where
  stack : Stack δ
  observer : ω

section RunWithObserver

variable {δ ω : Type} [EthernetDevice δ]

/-- One turn of the loop. -/
def turn (observe : RunOutcome → ω → ω) (now : Instant) : Exec (RunLoop δ ω) IoError Unit := do
  match ← Exec.zoom RunLoop.stack (fun stack s => { s with stack := stack }) (Exec.attempt (runOnceAt now)) with
  | .ok outcome => Exec.modify fun s => { s with observer := observe outcome s.observer }
  | .error error => if error.kind = .interrupted then return () else Exec.fail error

/-- The turns of the loop, one for each clock reading. -/
def loop (observe : RunOutcome → ω → ω) (clock : List Instant) : Exec (RunLoop δ ω) IoError Unit :=
  Exec.forEach (turn observe) clock

/-- `run_with_observer`, for as many turns as there are clock readings: it ends in `Ok` if it has not returned. -/
def runWithObserver (observe : RunOutcome → ω → ω) (observer : ω) (device : δ) (interface : NetworkInterface)
    (clock : List Instant) : Outcome IoError Unit × RunLoop δ ω :=
  (loop observe clock).run ⟨⟨device, interface, vec 0 defaultReceiveBufferLen⟩, observer⟩

def run (device : δ) (interface : NetworkInterface) (clock : List Instant) : Outcome IoError Unit × RunLoop δ Unit :=
  runWithObserver (fun _ _ => ()) () device interface clock

end RunWithObserver

/-! ### What a turn does -/

/-- `receive` returns the length of `frame`, and the buffer starts with the frame. -/
structure Receives {δ : Type} [EthernetDevice δ] (s : Stack δ) (frame : Bytes) (device : δ) (buffer : Bytes) :
    Prop where
  receive : (EthernetDevice.receive : Exec (δ × Bytes) IoError ℕ).run (s.device, s.receiveBuffer) =
    (.ok frame.length, (device, buffer))
  nonempty : frame.length ≠ 0
  frame : getTo buffer frame.length = some frame

section Rules

variable {δ ω : Type} [EthernetDevice δ] {s : Stack δ} {now : Instant} {frame reply buffer : Bytes}
  {device device' : δ} {interface : NetworkInterface} {e : IoError}

lemma runOnceAt_of_receive_err (h : (EthernetDevice.receive : Exec (δ × Bytes) IoError ℕ).run
    (s.device, s.receiveBuffer) = (.err e, (device, buffer))) :
    (runOnceAt now).run s = (.err e, ⟨device, s.interface, buffer⟩) := by
  refine Exec.bind_of_err ?_
  rw [Stack.onReceive, Exec.zoom_run, h]

lemma runOnceAt_of_receives (h : Receives s frame device buffer) {result : Except InterfaceError (Option Bytes)}
    (hprocess : (Exec.attempt (NetworkInterface.processFrameAt frame now) :
      Exec NetworkInterface IoError _).run s.interface = (.ok result, interface)) : (runOnceAt now).run s =
    (finish frame.length result).run ⟨device, interface, buffer⟩ := by
  have hreceive : (Stack.onReceive EthernetDevice.receive : Exec (Stack δ) IoError ℕ).run s =
      (.ok frame.length, ⟨device, s.interface, buffer⟩) := by
    rw [Stack.onReceive, Exec.zoom_run, h.receive]
  have hresult : (Stack.onInterface (Exec.attempt (NetworkInterface.processFrameAt frame now)) :
      Exec (Stack δ) IoError _).run ⟨device, s.interface, buffer⟩ = (.ok result, ⟨device, interface, buffer⟩) := by
    rw [Stack.onInterface, Exec.zoom_run, hprocess]
  unfold runOnceAt
  rw [Exec.bind_of_ok hreceive, if_neg h.nonempty, Exec.get_bind]
  dsimp only
  rw [h.frame]
  dsimp only
  exact Exec.bind_of_ok hresult

lemma runOnceAt_of_ignored (h : Receives s frame device buffer)
    (hprocess : (NetworkInterface.processFrameAt frame now).run s.interface = (.ok none, interface)) :
    (runOnceAt now).run s = (.ok (.ignored frame.length), ⟨device, interface, buffer⟩) := by
  rw [runOnceAt_of_receives h (Exec.attempt_of_ok hprocess)]
  rfl

lemma runOnceAt_of_malformed (h : Receives s frame device buffer) {error : InterfaceError}
    (hprocess : (NetworkInterface.processFrameAt frame now).run s.interface = (.err error, interface)) :
    (runOnceAt now).run s = (.ok (.malformedFrame frame.length error), ⟨device, interface, buffer⟩) := by
  rw [runOnceAt_of_receives h (Exec.attempt_of_err hprocess)]
  rfl

lemma runOnceAt_of_transmitted (h : Receives s frame device buffer)
    (hprocess : (NetworkInterface.processFrameAt frame now).run s.interface = (.ok (some reply), interface))
    (htransmit : (EthernetDevice.transmit reply).run device = (.ok (), device')) : (runOnceAt now).run s =
      (.ok (.replyTransmitted frame.length reply.length), ⟨device', interface, buffer⟩) := by
  rw [runOnceAt_of_receives h (Exec.attempt_of_ok hprocess)]
  refine Exec.bind_of_ok (a := ()) ?_
  rw [Stack.onDevice, Exec.zoom_run, htransmit]

/-- The interface has changed its state when the reply is lost. -/
lemma runOnceAt_of_transmit_err (h : Receives s frame device buffer)
    (hprocess : (NetworkInterface.processFrameAt frame now).run s.interface = (.ok (some reply), interface))
    (htransmit : (EthernetDevice.transmit reply).run device = (.err e, device')) :
    (runOnceAt now).run s = (.err e, ⟨device', interface, buffer⟩) := by
  rw [runOnceAt_of_receives h (Exec.attempt_of_ok hprocess)]
  refine Exec.bind_of_err ?_
  rw [Stack.onDevice, Exec.zoom_run, htransmit]

variable {observe : RunOutcome → ω → ω} {observer : ω} {s' : Stack δ}

lemma turn_of_ok {outcome : RunOutcome} (h : (runOnceAt now).run s = (.ok outcome, s')) :
    (turn observe now).run ⟨s, observer⟩ = (.ok (), ⟨s', observe outcome observer⟩) := by
  have hattempt : (Exec.zoom RunLoop.stack (fun stack s => { s with stack := stack })
      (Exec.attempt (runOnceAt now)) : Exec (RunLoop δ ω) IoError (Except IoError RunOutcome)).run ⟨s, observer⟩ =
        (.ok (.ok outcome), ⟨s', observer⟩) := by
    rw [Exec.zoom_run, Exec.attempt_of_ok h]
  exact Exec.bind_of_ok hattempt

lemma turn_of_err (h : (runOnceAt now).run s = (.err e, s')) : (turn observe now).run ⟨s, observer⟩ =
    (if e.kind = .interrupted then .ok () else .err e, ⟨s', observer⟩) := by
  have hattempt : (Exec.zoom RunLoop.stack (fun stack s => { s with stack := stack })
      (Exec.attempt (runOnceAt now)) : Exec (RunLoop δ ω) IoError (Except IoError RunOutcome)).run ⟨s, observer⟩ =
        (.ok (.error e), ⟨s', observer⟩) := by
    rw [Exec.zoom_run, Exec.attempt_of_err h]
  refine (Exec.bind_of_ok hattempt).trans ?_
  dsimp only
  split_ifs
  · rfl
  · rfl

end Rules

end TcpIp.Runtime
