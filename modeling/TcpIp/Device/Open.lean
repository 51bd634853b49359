import TcpIp.Device
import TcpIp.Lib.Utf8

/-!
# `device/tap.rs`: the name of a TAP device

The name is handed to the kernel in a field of `ifNamSiz` bytes, up to a zero byte, and read back from there.

* `validateName`, `copyNameToRequest`, `nameFromRequest`, `TapDevice.open` — from the source; the kernel is a parameter;
* `IfReq.Holds` — the field holds a name: it is the name with a zero byte behind it;
* `open_exact` — the names that are refused are those that would not arrive.
-/

namespace TcpIp.Device

open TcpIp.Lib TcpIp.Lib.Utf8

/-- `libc::IFNAMSIZ`. -/
def ifNamSiz : ℕ := 16

/-- `libc::IFF_TAP | libc::IFF_NO_PI`. -/
def tapFlags : UInt16 := 0x0002 ||| 0x1000

/-- `libc::ifreq`, with the member of its union that is used; a `c_char` is a byte. -/
structure IfReq where
  ifrName : Bytes
  ifruFlags : UInt16
  ifrName_length : ifrName.length = ifNamSiz

namespace IfReq

def zeroed : IfReq where
  ifrName := vec 0 ifNamSiz
  ifruFlags := 0
  ifrName_length := vec_length 0 ifNamSiz

end IfReq

def validateName (name : String) : Outcome IoError Unit :=
  if 0 ∈ asBytes name then .err ⟨.invalidInput, some "TAP device name cannot contain a NUL byte"⟩
  else if (asBytes name).length ≥ ifNamSiz then
    .err ⟨.invalidInput, some (s!"TAP device name is {(asBytes name).length} bytes long; maximum is " ++
      s!"{ifNamSiz - 1}")⟩
  else .ok ()

/-- As many bytes as there is room for; the others stay as they are. -/
def copyNameToRequest (name : String) (request : IfReq) : IfReq where
  ifrName := (asBytes name).take ifNamSiz ++ request.ifrName.drop (asBytes name).length
  ifruFlags := request.ifruFlags
  ifrName_length := by
    rw [List.length_append, List.length_take, List.length_drop, request.ifrName_length]
    omega

def nameFromRequest (request : IfReq) : String :=
  let length := (request.ifrName.findIdx? (· = 0)).getD request.ifrName.length
  fromUtf8Lossy (request.ifrName.take length)

/-- What a kernel does for `open`, with state `κ` and descriptors `φ`. -/
class Kernel (κ φ : Type) where
  /-- Opens `/dev/net/tun` for reading and writing. -/
  openFile : Exec κ IoError φ
  /-- `ioctl(file, TUNSETIFF, &mut request)`: the request as the kernel leaves it, or the last error of the system. -/
  tunSetIff (file : φ) (request : IfReq) : Exec κ IoError IfReq

section Open

variable {κ φ : Type} [Kernel κ φ]

/-- What the kernel is asked for. -/
def tapRequest (name : String) : IfReq :=
  { copyNameToRequest name IfReq.zeroed with ifruFlags := tapFlags }

/-- `TapDevice::open`: the device, and its name. -/
def TapDevice.open (requestedName : String) : Exec κ IoError (TapDevice φ × String) := do
  Exec.lift (validateName requestedName)
  let file ← Kernel.openFile
  let request ← Kernel.tunSetIff file (tapRequest requestedName)
  return (⟨file⟩, nameFromRequest request)

end Open

/-! ### What arrives -/

/-- The kernel finds a zero byte in the field, and the name before it. -/
def Arrives (name : String) : Prop :=
  0 ∈ (tapRequest name).ifrName ∧ nameFromRequest (tapRequest name) = name

lemma nameFromRequest_eq (request : IfReq) :
    nameFromRequest request = fromUtf8Lossy (request.ifrName.takeWhile (· ≠ 0)) := by
  have hlength : (request.ifrName.findIdx? (· = 0)).getD request.ifrName.length =
      request.ifrName.findIdx (· = 0) := List.findIdx_eq_getD_findIdx?.symm
  rw [nameFromRequest, hlength, List.takeWhile_eq_take_findIdx_not]
  simp only [ne_eq, decide_not, Bool.not_not]

lemma ifrName_tapRequest (name : String) :
    (tapRequest name).ifrName = (asBytes name).take ifNamSiz ++ vec 0 (ifNamSiz - (asBytes name).length) :=
  congrArg _ List.drop_replicate

lemma validateName_eq_ok_iff {name : String} :
    validateName name = .ok () ↔ 0 ∉ asBytes name ∧ (asBytes name).length < ifNamSiz := by
  rw [validateName, Outcome.check_eq_ok, Outcome.check_eq_ok, Nat.not_le]
  exact and_congr_right fun _ => and_iff_left rfl

lemma takeWhile_append_of_zero_mem {bytes : Bytes} (h : 0 ∈ bytes) (rest : Bytes) :
    (bytes ++ rest).takeWhile (· ≠ 0) = bytes.takeWhile (· ≠ 0) := by
  rw [List.takeWhile_append, if_neg]
  intro hlength
  have hall := (List.takeWhile_prefix _).eq_of_length hlength
  rw [List.takeWhile_eq_self_iff] at hall
  exact of_decide_eq_true (hall 0 h) rfl

lemma takeWhile_tapRequest {name : String} (h : 0 ∈ (tapRequest name).ifrName) :
    (tapRequest name).ifrName.takeWhile (· ≠ 0) = (asBytes name).takeWhile (· ≠ 0) := by
  rw [ifrName_tapRequest] at h ⊢
  rcases Nat.lt_or_ge (asBytes name).length ifNamSiz with hfits | hlong
  · rw [List.take_of_length_le hfits.le]
    by_cases hnul : 0 ∈ asBytes name
    · exact takeWhile_append_of_zero_mem hnul _
    · have hall : ∀ b ∈ asBytes name, decide (b ≠ 0) = true := fun b hb => decide_eq_true fun hb' => hnul (hb' ▸ hb)
      rw [List.takeWhile_append_of_pos hall, List.takeWhile_eq_self_iff.2 hall, vec, List.takeWhile_replicate,
        if_neg (by decide), List.append_nil]
  · rw [Nat.sub_eq_zero_of_le hlong, vec, List.replicate_zero, List.append_nil] at h ⊢
    rw [← takeWhile_append_of_zero_mem h ((asBytes name).drop ifNamSiz), List.take_append_drop]

/-- **The names that arrive** are those without a NUL, for which there is room with a zero byte behind. -/
theorem arrives_iff {name : String} : Arrives name ↔ 0 ∉ asBytes name ∧ (asBytes name).length < ifNamSiz := by
  have hname (h : 0 ∈ (tapRequest name).ifrName) : nameFromRequest (tapRequest name) =
      String.ofList (name.toList.takeWhile (·.val ≠ 0)) := by
    rw [nameFromRequest_eq, takeWhile_tapRequest h, fromUtf8Lossy_takeWhile]
  constructor
  · rintro ⟨hzero, hread⟩
    have hall : name.toList.takeWhile (·.val ≠ 0) = name.toList := by
      rw [← String.toList_ofList (l := name.toList.takeWhile _), ← hname hzero, hread]
    rw [List.takeWhile_eq_self_iff] at hall
    have hnone : 0 ∉ asBytes name := by
      rw [asBytes, zero_mem_encode]
      rintro ⟨c, hc, hval⟩
      exact of_decide_eq_true (hall c hc) hval
    refine ⟨hnone, Nat.lt_of_not_le fun hlong => hnone ?_⟩
    rw [ifrName_tapRequest, Nat.sub_eq_zero_of_le hlong, vec, List.replicate_zero, List.append_nil] at hzero
    exact List.mem_of_mem_take hzero
  · rintro ⟨hnone, hfits⟩
    have hzero : 0 ∈ (tapRequest name).ifrName := by
      rw [ifrName_tapRequest, List.mem_append, vec, List.mem_replicate]
      exact Or.inr ⟨Nat.sub_ne_zero_of_lt hfits, rfl⟩
    refine ⟨hzero, ?_⟩
    rw [nameFromRequest_eq, takeWhile_tapRequest hzero, List.takeWhile_eq_self_iff.2, fromUtf8Lossy_asBytes]
    exact fun b hb => decide_eq_true fun h => hnone (h ▸ hb)

lemma validateName_of_not_arrives {name : String} (h : ¬Arrives name) :
    ∃ e, e.kind = .invalidInput ∧ validateName name = .err e := by
  rw [arrives_iff] at h
  unfold validateName
  by_cases hnul : 0 ∈ asBytes name
  · exact ⟨_, rfl, if_pos hnul⟩
  · rw [if_neg hnul, if_pos (Nat.not_lt.1 fun hfits => h ⟨hnul, hfits⟩)]
    exact ⟨_, rfl, rfl⟩

lemma arrives_nameFromRequest {request : IfReq} (hzero : 0 ∈ request.ifrName) {name : String}
    (hname : request.ifrName.takeWhile (· ≠ 0) = asBytes name) : nameFromRequest request = name ∧ Arrives name := by
  refine ⟨by rw [nameFromRequest_eq, hname, fromUtf8Lossy_asBytes], arrives_iff.2 ⟨?_, ?_⟩⟩
  · rw [← hname]
    intro hmem
    exact of_decide_eq_true (@List.mem_takeWhile_imp UInt8 (fun b => decide (b ≠ 0)) _ _ hmem) rfl
  · rw [← hname, ← request.ifrName_length]
    refine lt_of_le_of_ne (List.takeWhile_prefix _).length_le fun hlength => ?_
    have hall := (List.takeWhile_prefix _).eq_of_length hlength
    rw [List.takeWhile_eq_self_iff] at hall
    exact of_decide_eq_true (hall 0 hzero) rfl

section Open

variable {κ φ : Type} [Kernel κ φ]

/-- **The name arrives, or the kernel is not asked.**  `open` refuses a name as an invalid input, before it asks the
kernel for anything, if it could not be read back from the request or no zero byte stood behind it.  Every other name
arrives, and `open` returns the name that the kernel gives; one that is given in UTF-8 can be asked for again. -/
theorem open_exact (name : String) (kernel : κ) :
    (Arrives name → (TapDevice.open name : Exec κ IoError (TapDevice φ × String)).run kernel =
      (do let file ← Kernel.openFile
          let request ← Kernel.tunSetIff file (tapRequest name)
          return (⟨file⟩, nameFromRequest request) : Exec κ IoError (TapDevice φ × String)).run kernel) ∧
    (¬Arrives name → ∃ e, e.kind = .invalidInput ∧
      (TapDevice.open name : Exec κ IoError (TapDevice φ × String)).run kernel = (.err e, kernel)) ∧
    ∀ (request : IfReq) (given : String), 0 ∈ request.ifrName →
      request.ifrName.takeWhile (· ≠ 0) = asBytes given → nameFromRequest request = given ∧ Arrives given := by
  refine ⟨fun harrives => ?_, fun hlost => ?_, fun request given hzero hname => arrives_nameFromRequest hzero hname⟩
  · have hvalid := validateName_eq_ok_iff.2 (arrives_iff.1 harrives)
    rw [TapDevice.open, hvalid, Exec.lift_ok_bind]
  · obtain ⟨e, hkind, hrefused⟩ := validateName_of_not_arrives hlost
    refine ⟨e, hkind, Exec.bind_of_err ?_⟩
    rw [hrefused]
    rfl

end Open

end TcpIp.Device
