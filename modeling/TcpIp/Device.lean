import TcpIp.Lib.Bytes

/-!
# `device.rs`, `device/tap.rs`: devices for Ethernet frames

* `IoError` — `io::Error`: a kind, and a text when the program gives one;
* `EthernetDevice` — the trait: `receive` fills a buffer and returns the length, `transmit` takes a frame;
* `TapDevice` — a device over a file of which every read and every write is one frame.
-/

namespace TcpIp.Device

open TcpIp.Lib

/-- `io::ErrorKind`. -/
inductive ErrorKind where
  | notFound | permissionDenied | connectionRefused | connectionReset | hostUnreachable | networkUnreachable
  | connectionAborted | notConnected | addrInUse | addrNotAvailable | networkDown | brokenPipe | alreadyExists
  | wouldBlock | notADirectory | isADirectory | directoryNotEmpty | readOnlyFilesystem | staleNetworkFileHandle
  | invalidInput | invalidData | timedOut | writeZero | storageFull | notSeekable | quotaExceeded | fileTooLarge
  | resourceBusy | executableFileBusy | deadlock | crossesDevices | tooManyLinks | invalidFilename
  | argumentListTooLong | interrupted | unsupported | unexpectedEof | outOfMemory | other | uncategorized
  deriving DecidableEq, Repr

/-- `io::Error`. -/
structure IoError where
  kind : ErrorKind
  text : Option String
  deriving DecidableEq, Repr

/-- `io::Error::from(kind)`. -/
def IoError.ofKind (kind : ErrorKind) : IoError := ⟨kind, none⟩

/-- A source and sink of complete Ethernet frames. -/
class EthernetDevice (δ : Type) where
  /-- Mutates the device and the buffer. -/
  receive : Exec (δ × Bytes) IoError ℕ
  transmit (frame : Bytes) : Exec δ IoError Unit

/-! ### The TAP device -/

/-- `Read` and `Write` of `std::fs::File`. -/
class File (φ : Type) where
  read : Exec (φ × Bytes) IoError ℕ
  write (bytes : Bytes) : Exec φ IoError ℕ

structure TapDevice (φ : Type) where
  file : φ

namespace TapDevice

variable {φ : Type} [File φ]

def receive : Exec (TapDevice φ × Bytes) IoError ℕ :=
  Exec.zoom (fun s => (s.1.file, s.2)) (fun t _ => (⟨t.1⟩, t.2)) File.read

/-- The error of a partial write. -/
def partialWrite (written : ℕ) (frame : Bytes) : IoError :=
  ⟨.writeZero, some s!"TAP device wrote {written} of {frame.length} Ethernet-frame bytes"⟩

/-- A partial write is reported: a second write would be a second frame. -/
def transmit (frame : Bytes) : Exec (TapDevice φ) IoError Unit := do
  let written ← Exec.zoom TapDevice.file (fun file _ => ⟨file⟩) (File.write frame)
  if written ≠ frame.length then Exec.fail (partialWrite written frame) else return ()

instance : EthernetDevice (TapDevice φ) where
  receive := receive
  transmit := transmit

end TapDevice

end TcpIp.Device
