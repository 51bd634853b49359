import TcpIp.Interface.Responder
import TcpIp.Runtime.Tap

/-!
# The program

The run loop on a TAP device with a new interface, from the bytes that are read from the file to the bytes that are
written to it.

* `framesRead` — the frames that the first reads return; `Responder.replies` — what the abstract machine replies to
  them;
* `replies_eq` — the interface in the loop replies what the machine replies;
* `program_refines_responder` — how long the program runs, and what it has written by then.
-/

namespace TcpIp.Interface

open TcpIp.Lib TcpIp.Runtime

/-- The replies of a new machine to the frames. -/
def Responder.replies (mac : MacAddress) (ip : Ipv4Addr) (frames : List Bytes) : List Bytes :=
  (trace Responder.step (Responder.new mac ip) frames).filterMap fun t => replyOf t.output

end TcpIp.Interface

namespace TcpIp.Runtime

open TcpIp.Lib TcpIp.Device TcpIp.Interface TcpIp.Arp.Cache

/-- The frames that the first `count` reads return. -/
def FileScript.framesRead (script : FileScript) (count : ℕ) : List Bytes :=
  (List.range count).filterMap fun call =>
    match script.reads call with
    | .ok frame => some frame.bytes
    | .error _ => none

variable {script : FileScript} {mac : MacAddress} {ip : Ipv4Addr} {interface : NetworkInterface}

lemma received_eq (script : FileScript) (clock : List Instant) :
    (script.toScript.received clock).map Prod.fst = script.framesRead clock.length := by
  induction clock using List.reverseRecOn with
  | nil => rfl
  | append_singleton clock now ih =>
    rw [List.length_append, List.length_singleton, FileScript.framesRead, List.range_succ, List.filterMap_append,
      ← FileScript.framesRead, ← ih]
    cases hread : script.reads clock.length with
    | error e =>
      rw [Script.received_snoc_of_error hread]
      simp [hread]
    | ok frame =>
      rw [Script.received_snoc_of_ok hread]
      simp [hread]

/-- **The interface in the loop replies what the machine replies.** -/
theorem replies_eq (h : interface.Implements (Responder.new mac ip)) (clock : List Instant) :
    script.toScript.replies interface clock = Responder.replies mac ip (script.framesRead clock.length) := by
  have hown : ∀ (input : Bytes × Instant) i s model, NetworkInterface.Implements s model → some input.1 = some i →
      some (process input s).1 = some (Responder.step i model).1 ∧
        NetworkInterface.Implements (process input s).2 (Responder.step i model).2 := by
    rintro ⟨input, now⟩ i s model hs hinput
    cases hinput
    obtain ⟨hresult, hafter⟩ := hs.step input now
    exact ⟨congrArg some hresult, hafter⟩
  have hother : ∀ (input : Bytes × Instant) s model, NetworkInterface.Implements s model →
      (some input.1 : Option Bytes) = none → (some (process input s).1 = none) ∧
        NetworkInterface.Implements (process input s).2 model := by
    rintro input s model hs hinput
    cases hinput
  have hsimulates := (trace_simulates NetworkInterface.Implements (fun input : Bytes × Instant => some input.1) some
    hown hother h (script.toScript.received clock)).1
  have hframes : (script.toScript.received clock).filterMap (fun input => some input.1) =
      script.framesRead clock.length := by
    rw [List.filterMap_eq_map', received_eq]
  have houtputs : (script.toScript.results interface clock).map Lib.Step.output =
      (trace Responder.step (Responder.new mac ip) (script.framesRead clock.length)).map Lib.Step.output := by
    rw [← hframes, ← hsimulates, List.filterMap_eq_map']
    rfl
  have hreplies : script.toScript.replies interface clock =
      ((script.toScript.results interface clock).map Lib.Step.output).filterMap replyOf := by
    rw [List.filterMap_map]
    rfl
  rw [hreplies, houtputs, List.filterMap_map]
  rfl

lemma transmits_iff {call : ℕ} {frame : Bytes} :
    (∀ e, script.toScript.transmits call frame = .error e → e.kind = .interrupted) ↔
      (∀ e, script.writes call frame = .error e → e.kind = .interrupted) ∧
      ∀ length, script.writes call frame = .ok length → length = frame.length := by
  dsimp only [FileScript.toScript]
  cases script.writes call frame with
  | error e => simp
  | ok written =>
    dsimp only
    by_cases hwhole : written = frame.length
    · simp [hwhole]
    · have hpartial : (TapDevice.partialWrite written frame).kind ≠ .interrupted := by
        intro h
        cases h
      simp [hwhole, hpartial]

/-- **The program answers what the machine answers.**  The program runs on for as long as every error of a read or a
write is an interruption and every write is whole.  As long as it runs, the frames that it has written are replies of
the machine to the frames that it has read, in order; and they are all of them if no write was interrupted. -/
theorem program_refines_responder (script : FileScript) (macAddress : MacAddress) (ipv4Address : Ipv4Addr)
    (cacheCapacity : ℕ) (cacheTtl retryInterval : Duration) (maxAttempts : UInt64) (clock : List Instant) :
    let interface := NetworkInterface.withArpConfig macAddress ipv4Address cacheCapacity cacheTtl retryInterval
      maxAttempts
    let program := runWithObserver record [] (⟨ScriptFile.new script⟩ : TapDevice (ScriptFile script)) interface clock
    let replies := Responder.replies macAddress ipv4Address (script.framesRead clock.length)
    let written := program.2.stack.device.file.frames
    (program.1 = .ok () ↔
      (∀ call < clock.length, ∀ e, script.reads call = .error e → e.kind = .interrupted) ∧
      ∀ call reply, replies[call]? = some reply →
        (∀ e, script.writes call reply = .error e → e.kind = .interrupted) ∧
        ∀ length, script.writes call reply = .ok length → length = reply.length) ∧
    (program.1 = .ok () → written.Sublist replies ∧
      (written = replies ↔ ∀ call reply, replies[call]? = some reply →
        ∀ e, script.writes call reply = .error e → e.kind ≠ .interrupted)) := by
  intro interface program replies written
  have hscript := tap_simulates.runWithObserver record [] (⟨ScriptFile.new script⟩ : TapDevice (ScriptFile script))
    interface clock
  have hreplies : script.toScript.replies interface clock = replies :=
    replies_eq (NetworkInterface.Implements.new macAddress ipv4Address cacheCapacity cacheTtl retryInterval maxAttempts)
      clock
  have hresult : (runWithObserver record [] (ScriptDevice.new script.toScript) interface clock).1 = program.1 :=
    congrArg Prod.fst hscript
  refine ⟨?_, fun hrunning => ?_⟩
  · rw [← hresult, running_iff, hreplies]
    simp only [transmits_iff]
    rfl
  · have hserved := served_of_running (Prod.ext (hresult.trans hrunning) rfl)
    have hwritten : (runWithObserver record [] (ScriptDevice.new script.toScript) interface
        clock).2.stack.device.transmittedFrames = written :=
      congrArg (fun r => r.2.stack.device.transmittedFrames) hscript
    have hsublist := hserved.transmitted
    have hlost := hserved.lost
    rw [hwritten, hreplies] at hsublist hlost
    have hall : written = replies ↔ written.length = replies.length :=
      ⟨congrArg List.length, hsublist.eq_of_length⟩
    refine ⟨hsublist, hall.trans (hlost.trans ?_)⟩
    unfold Script.Uninterrupted
    simp only [retried_toScript_iff, not_exists, not_and]

end TcpIp.Runtime
