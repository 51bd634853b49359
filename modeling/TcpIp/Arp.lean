import TcpIp.Ethernet

/-!
# `arp.rs`: ARP packets

* `ArpPacket.parse`, `ArpPacket.writeTo`, `buildReply`, `buildRequest` — the functions of the source;
* `ArpPacket.view` — what the parser sees behind its checks (`ArpPacket.parse_eq`);
* `ArpPacket.encode` — the 28 bytes of a packet, with the round trips of the parser and the writer.
-/

namespace TcpIp.Arp

open TcpIp.Lib

def arpHeaderLen : ℕ := 28

inductive ArpOperation where
  | request | reply
  | unknown (value : UInt16)
  deriving DecidableEq, Repr

namespace ArpOperation

/-- The parser's `match operation`. -/
def fromU16 (value : UInt16) : ArpOperation :=
  if value = 1 then .request else if value = 2 then .reply else .unknown value

/-- The writer's `match self.operation`. -/
def asU16 : ArpOperation → UInt16
  | .request => 1
  | .reply => 2
  | .unknown value => value

@[simp] lemma asU16_fromU16 (value : UInt16) : (fromU16 value).asU16 = value := by
  unfold fromU16
  split_ifs with h1 h2
  · exact h1.symm
  · exact h2.symm
  · rfl

end ArpOperation

inductive HardwareType where
  | ethernet
  deriving DecidableEq, Repr

inductive ProtocolType where
  | ipv4
  deriving DecidableEq, Repr

inductive ArpParseError where
  | packetTooShort (actual minimum : ℕ)
  | unsupportedHardwareType (value : UInt16)
  | unsupportedProtocolType (value : UInt16)
  | invalidHardwareAddressLength (value : UInt8)
  | invalidProtocolAddressLength (value : UInt8)
  deriving DecidableEq, Repr

structure ArpPacket where
  hardwareType : HardwareType
  protocolType : ProtocolType
  hardwareSize : UInt8
  protocolSize : UInt8
  operation : ArpOperation
  senderMac : MacAddress
  senderIp : Ipv4Addr
  targetMac : MacAddress
  targetIp : Ipv4Addr
  trailingBytes : Bytes
  deriving DecidableEq, Repr

namespace ArpPacket

def parse (data : Bytes) : Outcome ArpParseError ArpPacket :=
  match splitAtChecked data arpHeaderLen with
  | none => .err (.packetTooShort data.length arpHeaderLen)
  | some (header, trailingBytes) =>
    match header with
    | [hardwareType0, hardwareType1, protocolType0, protocolType1, hardwareSize, protocolSize,
        operation0, operation1,
        senderMac0, senderMac1, senderMac2, senderMac3, senderMac4, senderMac5,
        senderIp0, senderIp1, senderIp2, senderIp3,
        targetMac0, targetMac1, targetMac2, targetMac3, targetMac4, targetMac5,
        targetIp0, targetIp1, targetIp2, targetIp3] =>
      let hardwareType := u16FromBeBytes hardwareType0 hardwareType1
      let protocolType := u16FromBeBytes protocolType0 protocolType1
      let operation := u16FromBeBytes operation0 operation1
      if hardwareType ≠ 1 then .err (.unsupportedHardwareType hardwareType)
      else if protocolType ≠ 0x0800 then .err (.unsupportedProtocolType protocolType)
      else if hardwareSize ≠ 6 then .err (.invalidHardwareAddressLength hardwareSize)
      else if protocolSize ≠ 4 then .err (.invalidProtocolAddressLength protocolSize)
      else .ok {
        hardwareType := .ethernet
        protocolType := .ipv4
        hardwareSize := 6
        protocolSize := 4
        operation := ArpOperation.fromU16 operation
        senderMac := ⟨senderMac0, senderMac1, senderMac2, senderMac3, senderMac4, senderMac5⟩
        senderIp := ⟨senderIp0, senderIp1, senderIp2, senderIp3⟩
        targetMac := ⟨targetMac0, targetMac1, targetMac2, targetMac3, targetMac4, targetMac5⟩
        targetIp := ⟨targetIp0, targetIp1, targetIp2, targetIp3⟩
        trailingBytes }
    | _ => .err (.packetTooShort data.length arpHeaderLen)

def writeTo (packet : ArpPacket) : Exec Bytes SerialiseError ℕ := do
  if (← Exec.get).length < arpHeaderLen then
    Exec.fail (.bufferTooSmall (← Exec.get).length arpHeaderLen)
  else do
    let hardwareType : UInt16 := match packet.hardwareType with
      | .ethernet => 1
    let protocolType : UInt16 := match packet.protocolType with
      | .ipv4 => 0x0800
    copyFromSlice 0 2 (u16ToBeBytes hardwareType)
    copyFromSlice 2 4 (u16ToBeBytes protocolType)
    setIndex 4 packet.hardwareSize
    setIndex 5 packet.protocolSize
    copyFromSlice 6 8 (u16ToBeBytes packet.operation.asU16)
    copyFromSlice 8 14 packet.senderMac.octets
    copyFromSlice 14 18 packet.senderIp.octets
    copyFromSlice 18 24 packet.targetMac.octets
    copyFromSlice 24 28 packet.targetIp.octets
    return arpHeaderLen

/-- The bytes of a packet, without those that trail it. -/
def encode (packet : ArpPacket) : Bytes :=
  u16ToBeBytes 1 ++ u16ToBeBytes 0x0800 ++ [packet.hardwareSize] ++ [packet.protocolSize] ++
    u16ToBeBytes packet.operation.asU16 ++ packet.senderMac.octets ++ packet.senderIp.octets ++
    packet.targetMac.octets ++ packet.targetIp.octets

@[simp] lemma encode_length (packet : ArpPacket) : packet.encode.length = arpHeaderLen := rfl

/-- **What the writer does to a buffer.** -/
theorem writeTo_eq (packet : ArpPacket) (output : Bytes) :
    packet.writeTo.run output =
      if output.length < arpHeaderLen then (.err (.bufferTooSmall output.length arpHeaderLen), output)
      else (.ok arpHeaderLen, packet.encode ++ output.drop arpHeaderLen) := by
  unfold writeTo
  rw [Exec.get_bind]
  split_ifs with hlen
  · rfl
  · have hroom : 28 ≤ output.length := by simpa [arpHeaderLen] using hlen
    obtain ⟨⟨⟩, ⟨⟩, hardwareSize, protocolSize, operation, senderMac, senderIp, targetMac, targetIp, -⟩ := packet
    conv_lhs => rw [← List.nil_append output]
    dsimp only
    rw [copyFromSlice_bind, copyFromSlice_bind, setIndex_bind, setIndex_bind, copyFromSlice_bind,
      copyFromSlice_bind, copyFromSlice_bind, copyFromSlice_bind, copyFromSlice_bind]
    · simp [encode, arpHeaderLen]
    all_goals simp
    all_goals omega

/-- **The writer** puts a packet into every buffer with room. -/
theorem writes (packet : ArpPacket) : Writes packet.writeTo .bufferTooSmall True packet.encode where
  accepts := fun _ => packet.writeTo_eq
  refuses := fun hno => absurd trivial hno

/-! ### The parser -/

/-- The packet at the start of `data`. -/
def view (data : Bytes) : ArpPacket where
  hardwareType := .ethernet
  protocolType := .ipv4
  hardwareSize := 6
  protocolSize := 4
  operation := ArpOperation.fromU16 (u16FromBeBytes (byteAt data 6) (byteAt data 7))
  senderMac := ⟨byteAt data 8, byteAt data 9, byteAt data 10, byteAt data 11, byteAt data 12, byteAt data 13⟩
  senderIp := ⟨byteAt data 14, byteAt data 15, byteAt data 16, byteAt data 17⟩
  targetMac := ⟨byteAt data 18, byteAt data 19, byteAt data 20, byteAt data 21, byteAt data 22, byteAt data 23⟩
  targetIp := ⟨byteAt data 24, byteAt data 25, byteAt data 26, byteAt data 27⟩
  trailingBytes := data.drop arpHeaderLen

/-- **The parser is its checks, one after the other, in front of `view`.** -/
theorem parse_eq (data : Bytes) : parse data =
    if data.length < arpHeaderLen then .err (.packetTooShort data.length arpHeaderLen)
    else if u16FromBeBytes (byteAt data 0) (byteAt data 1) ≠ 1 then
      .err (.unsupportedHardwareType (u16FromBeBytes (byteAt data 0) (byteAt data 1)))
    else if u16FromBeBytes (byteAt data 2) (byteAt data 3) ≠ 0x0800 then
      .err (.unsupportedProtocolType (u16FromBeBytes (byteAt data 2) (byteAt data 3)))
    else if byteAt data 4 ≠ 6 then .err (.invalidHardwareAddressLength (byteAt data 4))
    else if byteAt data 5 ≠ 4 then .err (.invalidProtocolAddressLength (byteAt data 5))
    else .ok (view data) := by
  unfold parse splitAtChecked
  by_cases hshort : data.length < arpHeaderLen
  · rw [if_pos hshort, if_neg (Nat.not_le.2 hshort)]
  · have hlong := Nat.le_of_not_lt hshort
    rw [if_neg hshort, if_pos hlong, take_eq_map_byteAt hlong]
    rfl

lemma parse_panics (data : Bytes) : (parse data).panics = false := by
  rw [parse_eq]
  repeat apply Outcome.check_panics
  rfl

lemma length_of_parse {data : Bytes} {packet : ArpPacket} (h : parse data = .ok packet) :
    arpHeaderLen ≤ data.length := by
  rw [parse_eq, Outcome.check_eq_ok] at h
  exact Nat.le_of_not_lt h.1

/-- The packet with padding behind it. -/
def pad (pad : Bytes) (packet : ArpPacket) : ArpPacket := { packet with trailingBytes := packet.trailingBytes ++ pad }

/-- **Padding trails the packet.** -/
theorem parse_append {data : Bytes} (h : arpHeaderLen ≤ data.length) (pad : Bytes) :
    parse (data ++ pad) = ArpPacket.pad pad <$> parse data := by
  have hbyte : ∀ i < 28, byteAt (data ++ pad) i = byteAt data i := fun i hi => byteAt_append (hi.trans_le h) pad
  have hdrop : (data ++ pad).drop arpHeaderLen = data.drop arpHeaderLen ++ pad := List.drop_append_of_le_length h
  have hview : view (data ++ pad) = ArpPacket.pad pad (view data) := by
    simp only [view, ArpPacket.pad, hbyte, hdrop, Nat.reduceLT]
  rw [parse_eq, parse_eq, hview, if_neg (by rw [List.length_append]; omega), if_neg (Nat.not_lt.2 h)]
  simp only [hbyte, Nat.reduceLT]
  split_ifs <;> rfl

/-- **The parser undoes the encoding** of a packet with the address lengths of Ethernet and IPv4. -/
theorem parse_encode {packet : ArpPacket} (hhardware : packet.hardwareSize = 6)
    (hprotocol : packet.protocolSize = 4) (trailing : Bytes) :
    parse (packet.encode ++ trailing) = .ok { packet with
      operation := ArpOperation.fromU16 packet.operation.asU16
      trailingBytes := trailing } := by
  obtain ⟨⟨⟩, ⟨⟩, hardwareSize, protocolSize, operation, ⟨s0, s1, s2, s3, s4, s5⟩, ⟨i0, i1, i2, i3⟩,
    ⟨t0, t1, t2, t3, t4, t5⟩, ⟨j0, j1, j2, j3⟩, trailingBytes⟩ := packet
  unfold parse
  rw [splitAtChecked_append (encode_length _)]
  dsimp only at hhardware hprotocol
  dsimp only [encode, MacAddress.octets, Ipv4Addr.octets, u16ToBeBytes, List.cons_append, List.nil_append]
  simp only [u16FromBeBytes_toBeBytes]
  rw [if_neg (by simp), if_neg (by simp), if_neg (not_not_intro hhardware), if_neg (not_not_intro hprotocol),
    hhardware, hprotocol]

/-- **The parser accepts encodings only**, with the bytes that trail them. -/
theorem encode_of_parse {data : Bytes} {packet : ArpPacket} (h : parse data = .ok packet) :
    packet.encode ++ packet.trailingBytes = data ∧ packet.hardwareSize = 6 ∧ packet.protocolSize = 4 := by
  rw [parse_eq] at h
  simp only [Outcome.check_eq_ok, ne_eq, not_not, Nat.not_lt, Outcome.ok.injEq] at h
  obtain ⟨hlong, hhardware, hprotocol, hhardwareSize, hprotocolSize, rfl⟩ := h
  have htype := u16ToBeBytes_fromBeBytes (byteAt data 0) (byteAt data 1)
  have hprot := u16ToBeBytes_fromBeBytes (byteAt data 2) (byteAt data 3)
  rw [hhardware] at htype
  rw [hprotocol] at hprot
  have hheader : (view data).encode = data.take arpHeaderLen := by
    rw [take_eq_map_byteAt hlong, encode, htype, hprot]
    simp [view, MacAddress.octets, Ipv4Addr.octets, hhardwareSize, hprotocolSize, arpHeaderLen, List.range_succ]
  refine ⟨?_, rfl, rfl⟩
  rw [hheader]
  exact List.take_append_drop arpHeaderLen data

end ArpPacket

def buildReply (request : ArpPacket) (localMac : MacAddress) (localIp : Ipv4Addr) : Option ArpPacket :=
  if request.operation ≠ .request ∨ request.targetIp ≠ localIp then none
  else some {
    hardwareType := .ethernet
    protocolType := .ipv4
    hardwareSize := 6
    protocolSize := 4
    operation := .reply
    senderMac := localMac
    senderIp := localIp
    targetMac := request.senderMac
    targetIp := request.senderIp
    trailingBytes := [] }

def buildRequest (targetIp : Ipv4Addr) (sourceMac : MacAddress) (sourceIp : Ipv4Addr) : ArpPacket where
  hardwareType := .ethernet
  protocolType := .ipv4
  hardwareSize := 6
  protocolSize := 4
  operation := .request
  senderMac := sourceMac
  senderIp := sourceIp
  targetMac := ⟨0, 0, 0, 0, 0, 0⟩
  targetIp := targetIp
  trailingBytes := []

end TcpIp.Arp
