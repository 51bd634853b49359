import TcpIp.Address

/-!
# `lib.rs`: Ethernet frames

* `EtherType`, `EthernetFrame` — the header fields and the payload;
* `parseEthFrame`, `EthernetFrame.writeTo` — the parser and the writer of the source;
* `EthernetFrame.encode` — the bytes of a frame.  The writer puts them at the start of a buffer that has room and
  leaves a shorter one alone (`EthernetFrame.writeTo_eq`); parser and encoding are inverse to each other
  (`parseEthFrame_encode`, `encode_of_parseEthFrame`).
-/

namespace TcpIp

open TcpIp.Lib

def ethernetHeaderLen : ℕ := 14

inductive EtherType where
  | ipv4 | arp | ipv6
  | unknown (value : UInt16)
  deriving DecidableEq, Repr

namespace EtherType

def fromU16 (value : UInt16) : EtherType :=
  if value = 0x0800 then .ipv4
  else if value = 0x0806 then .arp
  else if value = 0x86dd then .ipv6
  else .unknown value

def asU16 : EtherType → UInt16
  | .ipv4 => 0x0800
  | .arp => 0x0806
  | .ipv6 => 0x86dd
  | .unknown value => value

@[simp] lemma asU16_fromU16 (value : UInt16) : (fromU16 value).asU16 = value := by
  unfold fromU16
  split_ifs with h1 h2 h3
  · exact h1.symm
  · exact h2.symm
  · exact h3.symm
  · rfl

end EtherType

structure EthernetFrame where
  destinationMac : MacAddress
  sourceMac : MacAddress
  etherType : EtherType
  payload : Bytes
  deriving DecidableEq, Repr

inductive EthernetParseError where
  | frameTooShort (actual minimum : ℕ)
  deriving DecidableEq, Repr

inductive SerialiseError where
  | bufferTooSmall (actual required : ℕ)
  deriving DecidableEq, Repr

def parseEthFrame (data : Bytes) : Outcome EthernetParseError EthernetFrame :=
  match splitAtChecked data ethernetHeaderLen with
  | none => .err (.frameTooShort data.length ethernetHeaderLen)
  | some (header, payload) =>
    match header with
    | [destination0, destination1, destination2, destination3, destination4, destination5,
        source0, source1, source2, source3, source4, source5, type0, type1] =>
      .ok {
        destinationMac := ⟨destination0, destination1, destination2, destination3, destination4, destination5⟩
        sourceMac := ⟨source0, source1, source2, source3, source4, source5⟩
        etherType := EtherType.fromU16 (u16FromBeBytes type0 type1)
        payload }
    | _ => .err (.frameTooShort data.length ethernetHeaderLen)

/-! ### The writer -/

namespace EthernetFrame

def writeTo (frame : EthernetFrame) : Exec Bytes SerialiseError ℕ := do
  let required ← Exec.lift (addUsize ethernetHeaderLen frame.payload.length)
  if (← Exec.get).length < required then
    Exec.fail (.bufferTooSmall (← Exec.get).length required)
  else do
    copyFromSlice 0 6 frame.destinationMac.octets
    copyFromSlice 6 12 frame.sourceMac.octets
    copyFromSlice 12 14 (u16ToBeBytes frame.etherType.asU16)
    copyFromSlice ethernetHeaderLen required frame.payload
    return required

/-- The bytes of a frame. -/
def encode (frame : EthernetFrame) : Bytes :=
  frame.destinationMac.octets ++ frame.sourceMac.octets ++ u16ToBeBytes frame.etherType.asU16 ++ frame.payload

lemma encode_length (frame : EthernetFrame) :
    frame.encode.length = ethernetHeaderLen + frame.payload.length := by
  simp only [encode, List.length_append, MacAddress.octets_length, u16ToBeBytes_length, ethernetHeaderLen]

/-- **What the writer does to a buffer.** -/
theorem writeTo_eq {frame : EthernetFrame} (h : ethernetHeaderLen + frame.payload.length ≤ usizeMax)
    (output : Bytes) :
    frame.writeTo.run output =
      if output.length < frame.encode.length then
        (.err (.bufferTooSmall output.length frame.encode.length), output)
      else (.ok frame.encode.length, frame.encode ++ output.drop frame.encode.length) := by
  rw [encode_length]
  unfold writeTo
  rw [addUsize_of_le h, Exec.lift_ok_bind, Exec.get_bind]
  split_ifs with hlen
  · rfl
  · have hroom : 14 + frame.payload.length ≤ output.length := by simpa [ethernetHeaderLen] using hlen
    conv_lhs => rw [← List.nil_append output]
    rw [copyFromSlice_bind, copyFromSlice_bind, copyFromSlice_bind, copyFromSlice_bind]
    · simp [encode, ethernetHeaderLen]
    all_goals simp [ethernetHeaderLen]
    all_goals omega

/-- **The writer** puts a frame into every buffer with room; it checks nothing but the addition of the lengths. -/
theorem writes (frame : EthernetFrame) : Writes frame.writeTo .bufferTooSmall
    (ethernetHeaderLen + frame.payload.length ≤ usizeMax) frame.encode where
  accepts := writeTo_eq
  refuses := by
    intro hno
    refine ⟨.panic .addOverflow, nofun, nofun, fun output => ?_⟩
    unfold writeTo addUsize
    rw [if_neg hno]
    rfl

end EthernetFrame

/-! ### The parser -/

lemma parseEthFrame_panics (data : Bytes) : (parseEthFrame data).panics = false := by
  unfold parseEthFrame
  split
  · rfl
  · split <;> rfl

/-- **The parser undoes the encoding.** -/
theorem parseEthFrame_encode (frame : EthernetFrame) :
    parseEthFrame frame.encode = .ok { frame with etherType := EtherType.fromU16 frame.etherType.asU16 } := by
  have hlen : (frame.destinationMac.octets ++ frame.sourceMac.octets ++
      u16ToBeBytes frame.etherType.asU16).length = ethernetHeaderLen := rfl
  unfold parseEthFrame EthernetFrame.encode
  rw [splitAtChecked_append hlen]
  obtain ⟨⟨d0, d1, d2, d3, d4, d5⟩, ⟨s0, s1, s2, s3, s4, s5⟩, etherType, payload⟩ := frame
  simp [MacAddress.octets, u16ToBeBytes]

/-- **The parser accepts encodings only.** -/
theorem encode_of_parseEthFrame {data : Bytes} {frame : EthernetFrame} (h : parseEthFrame data = .ok frame) :
    frame.encode = data := by
  unfold parseEthFrame at h
  split at h
  · cases h
  next hsplit =>
    rw [splitAtChecked_eq_some hsplit]
    split at h
    · cases h
      simp [EthernetFrame.encode, MacAddress.octets]
    · cases h

lemma length_of_parseEthFrame {data : Bytes} {frame : EthernetFrame} (h : parseEthFrame data = .ok frame) :
    ethernetHeaderLen + frame.payload.length = data.length := by
  rw [← encode_of_parseEthFrame h, EthernetFrame.encode_length]

/-- The frame with padding behind its payload. -/
def EthernetFrame.pad (pad : Bytes) (frame : EthernetFrame) : EthernetFrame :=
  { frame with payload := frame.payload ++ pad }

/-- **Padding belongs to the payload.** -/
theorem parseEthFrame_append {data : Bytes} {frame : EthernetFrame} (h : parseEthFrame data = .ok frame)
    (pad : Bytes) : parseEthFrame (data ++ pad) = .ok (frame.pad pad) := by
  have hsame := (parseEthFrame_encode frame).symm.trans ((congrArg parseEthFrame (encode_of_parseEthFrame h)).trans h)
  have hencode : data ++ pad = (frame.pad pad).encode := by
    rw [← encode_of_parseEthFrame h]
    exact List.append_assoc _ _ _
  rw [hencode, parseEthFrame_encode]
  exact congrArg (fun f => Outcome.ok (EthernetFrame.pad pad f)) (Outcome.ok.inj hsame)

end TcpIp
