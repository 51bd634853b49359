import TcpIp.Lib.Simulation
import TcpIp.Runtime.Losses

/-!
# The run loop on a TAP device

* `Simulates` — a map of devices that commutes with the calls commutes with the run loop;
* `ScriptFile` — a file that answers every read and every write as a script says; a TAP device over it is a scripted
  device, which takes the frames that were written whole (`tap_simulates`);
* `tap_intact_iff` — what the run loop loses on a TAP device.
-/

namespace TcpIp.Runtime

open TcpIp.Lib TcpIp.Device TcpIp.Interface TcpIp.Arp.Cache

section Simulates

variable {δ δ' ω : Type} [EthernetDevice δ] [EthernetDevice δ']

/-- Through `f`, the devices do the same. -/
structure Simulates (f : δ → δ') : Prop where
  receive : Exec.Maps (Prod.map f id) (EthernetDevice.receive : Exec (δ × Bytes) IoError ℕ) EthernetDevice.receive
  transmit : ∀ frame, Exec.Maps f (EthernetDevice.transmit frame) (EthernetDevice.transmit frame)

def Stack.map (f : δ → δ') (s : Stack δ) : Stack δ' := ⟨f s.device, s.interface, s.receiveBuffer⟩

def RunLoop.map (f : δ → δ') (s : RunLoop δ ω) : RunLoop δ' ω := ⟨s.stack.map f, s.observer⟩

namespace Simulates

variable {f : δ → δ'}

lemma finish (h : Simulates f) (received : ℕ) (result : Except InterfaceError (Option Bytes)) :
    Exec.Maps (Stack.map f) (Runtime.finish received result) (Runtime.finish received result) := by
  match result with
  | .ok (some reply) =>
    refine Exec.Maps.bind ?_ fun _ => Exec.Maps.pure _
    exact Exec.Maps.zoom (fun _ => rfl) (fun _ _ => rfl) (h.transmit reply)
  | .ok none => exact Exec.Maps.pure _
  | .error error => exact Exec.Maps.pure _

lemma runOnceAt (h : Simulates f) (now : Instant) :
    Exec.Maps (Stack.map f) (Runtime.runOnceAt now) (Runtime.runOnceAt now) := by
  refine Exec.Maps.bind (Exec.Maps.zoom (fun _ => rfl) (fun _ _ => rfl) h.receive) fun received => ?_
  split_ifs
  · exact Exec.Maps.fail _
  · refine Exec.Maps.get_bind fun s => ?_
    have hbuffer : (s.map f).receiveBuffer = s.receiveBuffer := rfl
    rw [hbuffer]
    cases getTo s.receiveBuffer received with
    | none => exact Exec.Maps.fail _
    | some frame =>
      refine Exec.Maps.bind ?_ fun result => h.finish received result
      exact Exec.Maps.zoom (fun _ => rfl) (fun _ _ => rfl) fun _ => rfl

lemma turn (h : Simulates f) (observe : RunOutcome → ω → ω) (now : Instant) :
    Exec.Maps (RunLoop.map f) (Runtime.turn observe now) (Runtime.turn observe now) := by
  refine Exec.Maps.bind ?_ fun result => ?_
  · exact Exec.Maps.zoom (fun _ => rfl) (fun _ _ => rfl) (Exec.Maps.attempt (h.runOnceAt now))
  cases result with
  | ok outcome => exact Exec.Maps.modify fun _ => rfl
  | error error =>
    dsimp only
    split_ifs
    · exact Exec.Maps.pure _
    · exact Exec.Maps.fail _

/-- **The loop commutes with the map.** -/
theorem runWithObserver (h : Simulates f) (observe : RunOutcome → ω → ω) (observer : ω) (device : δ)
    (interface : NetworkInterface) (clock : List Instant) :
    Runtime.runWithObserver observe observer (f device) interface clock =
      Prod.map id (RunLoop.map f) (Runtime.runWithObserver observe observer device interface clock) :=
  Exec.Maps.forEach (h.turn observe) clock ⟨⟨device, interface, vec 0 defaultReceiveBufferLen⟩, observer⟩

end Simulates

end Simulates

/-! ### A scripted file -/

/-- An answer for every read and every write; a write says how many bytes it wrote. -/
structure FileScript where
  reads : ℕ → Except IoError Frame
  writes : ℕ → Bytes → Except IoError ℕ

structure ScriptFile (script : FileScript) where
  readCalls : ℕ
  writeCalls : ℕ
  written : List (Bytes × ℕ)

namespace ScriptFile

variable {script : FileScript}

def new (script : FileScript) : ScriptFile script := ⟨0, 0, []⟩

def read : Exec (ScriptFile script × Bytes) IoError ℕ := do
  let (file, _buffer) ← Exec.get
  Exec.modify fun s => ({ s.1 with readCalls := s.1.readCalls + 1 }, s.2)
  match script.reads file.readCalls with
  | .error error => Exec.fail error
  | .ok frame => Exec.zoom Prod.snd (fun buffer s => (s.1, buffer)) (fillBuffer frame.bytes)

def write (bytes : Bytes) : Exec (ScriptFile script) IoError ℕ := do
  let file ← Exec.get
  Exec.modify fun s => { s with writeCalls := s.writeCalls + 1 }
  match script.writes file.writeCalls bytes with
  | .error error => Exec.fail error
  | .ok length => do
    Exec.modify fun s => { s with written := s.written ++ [(bytes, length)] }
    return length

instance : File (ScriptFile script) where
  read := read
  write := write

/-- The frames that were written whole. -/
def frames (file : ScriptFile script) : List Bytes :=
  (file.written.filter fun w => w.2 = w.1.length).map Prod.fst

/-- The file after a write that returned `length`. -/
def wrote (file : ScriptFile script) (bytes : Bytes) (length : ℕ) : ScriptFile script :=
  ⟨file.readCalls, file.writeCalls + 1, file.written ++ [(bytes, length)]⟩

section Calls

variable {file : ScriptFile script} {buffer bytes : Bytes} {e : IoError}

lemma frames_wrote_whole : (file.wrote bytes bytes.length).frames = file.frames ++ [bytes] := by
  simp [frames, wrote]

lemma frames_wrote_part {length : ℕ} (h : length ≠ bytes.length) : (file.wrote bytes length).frames = file.frames := by
  simp [frames, wrote, h]

lemma read_of_error (h : script.reads file.readCalls = .error e) :
    (read : Exec (ScriptFile script × Bytes) IoError ℕ).run (file, buffer) =
      (.err e, ({ file with readCalls := file.readCalls + 1 }, buffer)) := by
  unfold read
  rw [Exec.get_bind, Exec.modify_bind]
  dsimp only
  rw [h]
  rfl

lemma read_of_ok {frame : Frame} (h : script.reads file.readCalls = .ok frame) :
    (read : Exec (ScriptFile script × Bytes) IoError ℕ).run (file, buffer) =
      (((fillBuffer frame.bytes).run buffer).1,
        ({ file with readCalls := file.readCalls + 1 }, ((fillBuffer frame.bytes).run buffer).2)) := by
  unfold read
  rw [Exec.get_bind, Exec.modify_bind]
  dsimp only
  rw [h]
  rfl

lemma write_of_error (h : script.writes file.writeCalls bytes = .error e) :
    (write bytes).run file = (.err e, { file with writeCalls := file.writeCalls + 1 }) := by
  unfold write
  rw [Exec.get_bind, Exec.modify_bind, h]
  rfl

lemma write_of_ok {length : ℕ} (h : script.writes file.writeCalls bytes = .ok length) :
    (write bytes).run file = (.ok length, file.wrote bytes length) := by
  unfold write
  rw [Exec.get_bind, Exec.modify_bind, h]
  rfl

end Calls

end ScriptFile

/-- What a TAP device over the file answers. -/
def FileScript.toScript (script : FileScript) : Script where
  receives := script.reads
  transmits call frame :=
    match script.writes call frame with
    | .error error => .error error
    | .ok written => if written ≠ frame.length then .error (TapDevice.partialWrite written frame) else .ok ()

section Tap

variable {script : FileScript} {interface : NetworkInterface} {clock : List Instant}

/-- A TAP device over a scripted file, as a scripted device. -/
def ofTap (device : TapDevice (ScriptFile script)) : ScriptDevice script.toScript :=
  ⟨device.file.readCalls, device.file.writeCalls, device.file.frames⟩

lemma tap_receive : Exec.Maps (Prod.map ofTap id)
    (TapDevice.receive : Exec (TapDevice (ScriptFile script) × Bytes) IoError ℕ) ScriptDevice.receive := by
  rintro ⟨⟨file⟩, buffer⟩
  unfold TapDevice.receive
  rw [Exec.zoom_run]
  show ScriptDevice.receive.run (ofTap ⟨file⟩, buffer) = Prod.map id (Prod.map ofTap id)
    ((ScriptFile.read.run (file, buffer)).1,
      (⟨(ScriptFile.read.run (file, buffer)).2.1⟩, (ScriptFile.read.run (file, buffer)).2.2))
  cases hread : script.reads file.readCalls with
  | error e =>
    rw [ScriptFile.read_of_error hread, ScriptDevice.receive_of_error hread]
    rfl
  | ok frame =>
    rw [ScriptFile.read_of_ok hread, ScriptDevice.receive_of_ok hread]
    rfl

lemma tap_transmit (frame : Bytes) : Exec.Maps ofTap
    (TapDevice.transmit frame : Exec (TapDevice (ScriptFile script)) IoError Unit) (ScriptDevice.transmit frame) := by
  rintro ⟨file⟩
  cases hwrite : script.writes file.writeCalls frame with
  | error e =>
    have hcall : (TapDevice.transmit frame).run ⟨file⟩ =
        (.err e, ⟨{ file with writeCalls := file.writeCalls + 1 }⟩) := by
      refine Exec.bind_of_err ?_
      rw [Exec.zoom_run]
      exact congrArg (fun r => (r.1, TapDevice.mk r.2)) (ScriptFile.write_of_error hwrite)
    have htransmit : script.toScript.transmits (ofTap ⟨file⟩).transmitCalls frame = .error e := by
      dsimp only [FileScript.toScript, ofTap]
      rw [hwrite]
    rw [hcall, ScriptDevice.transmit_of_error htransmit]
    rfl
  | ok written =>
    have hcall : (TapDevice.transmit frame).run ⟨file⟩ =
        (if written ≠ frame.length then Exec.fail (TapDevice.partialWrite written frame) else pure () :
          Exec (TapDevice (ScriptFile script)) IoError Unit).run ⟨file.wrote frame written⟩ := by
      refine Exec.bind_of_ok ?_
      rw [Exec.zoom_run]
      exact congrArg (fun r => (r.1, TapDevice.mk r.2)) (ScriptFile.write_of_ok hwrite)
    rw [hcall]
    by_cases hwhole : written = frame.length
    · have htransmit : script.toScript.transmits (ofTap ⟨file⟩).transmitCalls frame = .ok () := by
        dsimp only [FileScript.toScript, ofTap]
        rw [hwrite]
        exact if_neg (not_not_intro hwhole)
      rw [if_neg (not_not_intro hwhole), ScriptDevice.transmit_of_ok htransmit, hwhole]
      exact Prod.ext rfl (congrArg (ScriptDevice.mk _ _) ScriptFile.frames_wrote_whole.symm)
    · have htransmit : script.toScript.transmits (ofTap ⟨file⟩).transmitCalls frame =
          .error (TapDevice.partialWrite written frame) := by
        dsimp only [FileScript.toScript, ofTap]
        rw [hwrite]
        exact if_pos hwhole
      rw [if_pos hwhole, ScriptDevice.transmit_of_error htransmit]
      exact Prod.ext rfl (congrArg (ScriptDevice.mk _ _) (ScriptFile.frames_wrote_part hwhole).symm)

theorem tap_simulates : Simulates (ofTap : TapDevice (ScriptFile script) → ScriptDevice script.toScript) :=
  ⟨tap_receive, tap_transmit⟩

/-- A partial write is not an interruption: it ends the loop. -/
lemma retried_toScript_iff {call : ℕ} {frame : Bytes} : Retried (script.toScript.transmits call frame) ↔
    ∃ e, script.writes call frame = .error e ∧ e.kind = .interrupted := by
  dsimp only [FileScript.toScript]
  cases hwrite : script.writes call frame with
  | error e =>
    constructor
    · rintro ⟨e', he, hkind⟩
      cases he
      exact ⟨e, rfl, hkind⟩
    · rintro ⟨e', he, hkind⟩
      cases he
      exact ⟨e, rfl, hkind⟩
  | ok written =>
    refine iff_of_false ?_ ?_
    · rintro ⟨e', he, hkind⟩
      dsimp only at he
      split_ifs at he
      cases he
      cases hkind
    · rintro ⟨e', he, -⟩
      cases he

/-- **What the loop loses on a TAP device.**  The frames that were written whole are the replies, and every received
frame was observed, exactly if no write was interrupted. -/
theorem tap_intact_iff {s : RunLoop (TapDevice (ScriptFile script)) (List RunOutcome)}
    (h : runWithObserver record [] (⟨ScriptFile.new script⟩ : TapDevice (ScriptFile script)) interface clock =
      (.ok (), s)) :
    (s.stack.device.file.frames = script.toScript.replies interface clock ∧
      s.observer = script.toScript.outcomes interface clock) ↔
      ∀ call reply, (script.toScript.replies interface clock)[call]? = some reply →
        ¬∃ e, script.writes call reply = .error e ∧ e.kind = .interrupted := by
  have hscript := tap_simulates.runWithObserver record [] (⟨ScriptFile.new script⟩ : TapDevice (ScriptFile script))
    interface clock
  rw [h] at hscript
  refine (served_of_running hscript).intact_iff.trans ?_
  unfold Script.Uninterrupted
  simp only [retried_toScript_iff]

end Tap

end TcpIp.Runtime
