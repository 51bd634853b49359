import TcpIp.Address
import TcpIp.Checksum

/-!
# `ipv4.rs`: IPv4 packets

* `parseIpv4Packet`, `Ipv4Packet.writeTo` — the parser and the writer of the source;
* `WellFormed`, `view` — what the parser accepts, and the packet it then sees.  The parser is the chain of its checks
  in front of `view` (`parseIpv4Packet_eq`), so it never reads outside the packet;
* `Ipv4Packet.encode` — the bytes of a packet, with the checksum in place.  The writer puts them into a buffer with
  room (`Ipv4Packet.writeTo_eq`) and the parser reads them back (`parseIpv4Packet_encode`), so that what is written
  is what is read (`Ipv4Packet.write_then_parse`).
-/

namespace TcpIp.Ipv4

open TcpIp.Lib TcpIp.Checksum

def ipv4MinHeaderLen : ℕ := 20

inductive Ipv4ParseError where
  | packetTooShort (actual minimum : ℕ)
  | invalidVersion (version : UInt8)
  | invalidIhl (ihl : UInt8)
  | truncatedHeader (actual required : ℕ)
  | totalLengthTooSmall (totalLength headerLength : ℕ)
  | truncatedPacket (actual declared : ℕ)
  | invalidChecksum
  | reservedFlagSet
  deriving DecidableEq, Repr

/-- The errors that say that bytes are missing. -/
def Ipv4ParseError.isTruncation : Ipv4ParseError → Bool
  | .packetTooShort _ _ | .truncatedHeader _ _ | .truncatedPacket _ _ => true
  | .invalidVersion _ | .invalidIhl _ | .totalLengthTooSmall _ _ | .invalidChecksum | .reservedFlagSet => false

inductive Ipv4Protocol where
  | icmp | tcp | udp
  | unknown (value : UInt8)
  deriving DecidableEq, Repr

namespace Ipv4Protocol

def fromU8 (value : UInt8) : Ipv4Protocol :=
  if value = 1 then .icmp
  else if value = 6 then .tcp
  else if value = 17 then .udp
  else .unknown value

def asU8 : Ipv4Protocol → UInt8
  | .icmp => 1
  | .tcp => 6
  | .udp => 17
  | .unknown value => value

@[simp] lemma asU8_fromU8 (value : UInt8) : (fromU8 value).asU8 = value := by
  unfold fromU8
  split_ifs with h1 h2 h3
  · exact h1.symm
  · exact h2.symm
  · exact h3.symm
  · rfl

end Ipv4Protocol

structure Ipv4Packet where
  dscp : UInt8
  ecn : UInt8
  identification : UInt16
  ttl : UInt8
  protocol : Ipv4Protocol
  dontFragment : Bool
  moreFragments : Bool
  fragmentOffset : UInt16
  source : Ipv4Addr
  destination : Ipv4Addr
  options : Bytes
  payload : Bytes
  trailingBytes : Bytes
  deriving DecidableEq, Repr

inductive Ipv4SerialiseError where
  | bufferTooSmall (actual required : ℕ)
  | totalLengthTooLarge (actual maximum : ℕ)
  | optionsNotMultipleOfFour (actual : ℕ)
  | optionsTooLong (actual maximum : ℕ)
  | fragmentOffsetOutOfRange (value : UInt16)
  | dscpOutOfRange (value : UInt8)
  | ecnOutOfRange (value : UInt8)
  deriving DecidableEq, Repr

def parseIpv4Packet (data : Bytes) : Outcome Ipv4ParseError Ipv4Packet :=
  if data.length < ipv4MinHeaderLen then .err (.packetTooShort data.length ipv4MinHeaderLen)
  else do
    let version := (← index data 0) >>> 4
    if version ≠ 4 then .err (.invalidVersion version)
    else do
      let ihl := (← index data 0) &&& 0x0f
      if ihl < 5 then .err (.invalidIhl ihl)
      else do
        let headerLength := ihl.toNat * 4
        if data.length < headerLength then .err (.truncatedHeader data.length headerLength)
        else do
          let totalLength := (u16FromBeBytes (← index data 2) (← index data 3)).toNat
          if totalLength < headerLength then .err (.totalLengthTooSmall totalLength headerLength)
          else if data.length < totalLength then .err (.truncatedPacket data.length totalLength)
          else do
            let flagsAndFragmentOffset := u16FromBeBytes (← index data 6) (← index data 7)
            if flagsAndFragmentOffset &&& 0x8000 ≠ 0 then .err .reservedFlagSet
            else do
              let header ← sliceTo data headerLength
              if (← checksum header) ≠ 0 then .err .invalidChecksum
              else return {
                dscp := (← index data 1) >>> 2
                ecn := (← index data 1) &&& 0x03
                identification := u16FromBeBytes (← index data 4) (← index data 5)
                ttl := ← index data 8
                protocol := Ipv4Protocol.fromU8 (← index data 9)
                dontFragment := flagsAndFragmentOffset &&& 0x4000 ≠ 0
                moreFragments := flagsAndFragmentOffset &&& 0x2000 ≠ 0
                fragmentOffset := flagsAndFragmentOffset &&& 0x1fff
                source := ⟨← index data 12, ← index data 13, ← index data 14, ← index data 15⟩
                destination := ⟨← index data 16, ← index data 17, ← index data 18, ← index data 19⟩
                options := ← slice data ipv4MinHeaderLen headerLength
                payload := ← slice data headerLength totalLength
                trailingBytes := ← sliceFrom data totalLength }

/-! ### What the parser accepts -/

section View

variable (data : Bytes)

def version : UInt8 := byteAt data 0 >>> 4

def ihl : UInt8 := byteAt data 0 &&& 0x0f

def headerLength : ℕ := (ihl data).toNat * 4

def totalLength : ℕ := (u16FromBeBytes (byteAt data 2) (byteAt data 3)).toNat

def flagsAndFragmentOffset : UInt16 := u16FromBeBytes (byteAt data 6) (byteAt data 7)

/-- The packet at the start of `data`. -/
def view : Ipv4Packet where
  dscp := byteAt data 1 >>> 2
  ecn := byteAt data 1 &&& 0x03
  identification := u16FromBeBytes (byteAt data 4) (byteAt data 5)
  ttl := byteAt data 8
  protocol := Ipv4Protocol.fromU8 (byteAt data 9)
  dontFragment := flagsAndFragmentOffset data &&& 0x4000 ≠ 0
  moreFragments := flagsAndFragmentOffset data &&& 0x2000 ≠ 0
  fragmentOffset := flagsAndFragmentOffset data &&& 0x1fff
  source := ⟨byteAt data 12, byteAt data 13, byteAt data 14, byteAt data 15⟩
  destination := ⟨byteAt data 16, byteAt data 17, byteAt data 18, byteAt data 19⟩
  options := (data.take (headerLength data)).drop ipv4MinHeaderLen
  payload := (data.take (totalLength data)).drop (headerLength data)
  trailingBytes := data.drop (totalLength data)

/-- `data` starts with an IPv4 packet that the parser accepts. -/
structure WellFormed : Prop where
  long : ipv4MinHeaderLen ≤ data.length
  version_eq : version data = 4
  five_le_ihl : 5 ≤ ihl data
  headerLength_le : headerLength data ≤ totalLength data
  totalLength_le : totalLength data ≤ data.length
  reserved : flagsAndFragmentOffset data &&& 0x8000 = 0
  checksum_eq : internetChecksum (data.take (headerLength data)) = 0

/-- **The parser is its checks, one after the other, in front of `view`.** -/
theorem parseIpv4Packet_eq : parseIpv4Packet data =
    if data.length < ipv4MinHeaderLen then .err (.packetTooShort data.length ipv4MinHeaderLen)
    else if version data ≠ 4 then .err (.invalidVersion (version data))
    else if ihl data < 5 then .err (.invalidIhl (ihl data))
    else if data.length < headerLength data then .err (.truncatedHeader data.length (headerLength data))
    else if totalLength data < headerLength data then
      .err (.totalLengthTooSmall (totalLength data) (headerLength data))
    else if data.length < totalLength data then .err (.truncatedPacket data.length (totalLength data))
    else if flagsAndFragmentOffset data &&& 0x8000 ≠ 0 then .err .reservedFlagSet
    else if internetChecksum (data.take (headerLength data)) ≠ 0 then .err .invalidChecksum
    else .ok (view data) := by
  unfold parseIpv4Packet
  apply Outcome.check_congr
  intro hlen
  have hlong : 20 ≤ data.length := Nat.le_of_not_lt hlen
  have hindex : ∀ i < 20, (index data i : Outcome Ipv4ParseError UInt8) = .ok (byteAt data i) :=
    fun i hi => index_of_lt (by omega)
  have hheaderLength : (byteAt data 0 &&& 0x0f).toNat * 4 = headerLength data := rfl
  have htotalLength : (u16FromBeBytes (byteAt data 2) (byteAt data 3)).toNat = totalLength data := rfl
  simp only [hindex, Nat.reduceLT, Outcome.ok_bind, hheaderLength, htotalLength]
  apply Outcome.check_congr
  intro _
  apply Outcome.check_congr
  intro hihl
  apply Outcome.check_congr
  intro hheader
  apply Outcome.check_congr
  intro htotal
  apply Outcome.check_congr
  intro hdata
  apply Outcome.check_congr
  intro _
  have h20 : ipv4MinHeaderLen ≤ headerLength data := by
    have h5 : 5 ≤ (ihl data).toNat := UInt8.le_iff_toNat_le.1 (UInt8.not_lt.1 hihl)
    unfold headerLength ipv4MinHeaderLen
    omega
  rw [sliceTo_of_le (by omega), Outcome.ok_bind, checksum_eq, Outcome.ok_bind]
  apply Outcome.check_congr
  intro _
  rw [slice_of_le h20 (by omega), Outcome.ok_bind, slice_of_le (by omega) (by omega), Outcome.ok_bind,
    sliceFrom_of_le (by omega)]
  rfl

lemma parseIpv4Packet_panics : (parseIpv4Packet data).panics = false := by
  rw [parseIpv4Packet_eq]
  repeat apply Outcome.check_panics
  rfl

variable {data}

/-- **What the parser accepts.** -/
theorem parseIpv4Packet_ok_iff {packet : Ipv4Packet} :
    parseIpv4Packet data = .ok packet ↔ WellFormed data ∧ view data = packet := by
  rw [parseIpv4Packet_eq]
  simp only [Outcome.check_eq_ok, ne_eq, not_not, Nat.not_lt, Outcome.ok.injEq]
  constructor
  · rintro ⟨hlong, hversion, hihl, -, hheader, htotal, hreserved, hchecksum, hview⟩
    exact ⟨⟨hlong, hversion, UInt8.not_lt.1 hihl, hheader, htotal, hreserved, hchecksum⟩, hview⟩
  · rintro ⟨h, hview⟩
    exact ⟨h.long, h.version_eq, UInt8.not_lt.2 h.five_le_ihl, h.headerLength_le.trans h.totalLength_le,
      h.headerLength_le, h.totalLength_le, h.reserved, h.checksum_eq, hview⟩

lemma parseIpv4Packet_of_wellFormed (h : WellFormed data) : parseIpv4Packet data = .ok (view data) :=
  parseIpv4Packet_ok_iff.2 ⟨h, rfl⟩

/-- The packet with padding behind it. -/
def Ipv4Packet.pad (pad : Bytes) (packet : Ipv4Packet) : Ipv4Packet :=
  { packet with trailingBytes := packet.trailingBytes ++ pad }

section Append

variable (hlong : ipv4MinHeaderLen ≤ data.length) (pad : Bytes)
include hlong

lemma header_append : version (data ++ pad) = version data ∧ ihl (data ++ pad) = ihl data ∧
    headerLength (data ++ pad) = headerLength data ∧ totalLength (data ++ pad) = totalLength data ∧
    flagsAndFragmentOffset (data ++ pad) = flagsAndFragmentOffset data := by
  have hbyte : ∀ i < 20, byteAt (data ++ pad) i = byteAt data i := fun i hi => byteAt_append (hi.trans_le hlong) pad
  unfold headerLength totalLength flagsAndFragmentOffset version ihl
  simp only [hbyte, Nat.reduceLT, and_self]

lemma view_append (hheader : headerLength data ≤ data.length) (htotal : totalLength data ≤ data.length) :
    view (data ++ pad) = (view data).pad pad := by
  have hbyte : ∀ i < 20, byteAt (data ++ pad) i = byteAt data i := fun i hi => byteAt_append (hi.trans_le hlong) pad
  have htake : ∀ n ≤ data.length, (data ++ pad).take n = data.take n := fun n hn => List.take_append_of_le_length hn
  obtain ⟨-, -, hheaderLength, htotalLength, hflags⟩ := header_append hlong pad
  simp only [view, Ipv4Packet.pad, hbyte, hheaderLength, htotalLength, hflags, htake _ hheader, htake _ htotal,
    List.drop_append_of_le_length htotal, Nat.reduceLT]

end Append

/-- **Padding trails the packet**, and changes no error but one that says that bytes are missing. -/
theorem parseIpv4Packet_append (h : ∀ e, parseIpv4Packet data = .err e → e.isTruncation = false) (pad : Bytes) :
    parseIpv4Packet (data ++ pad) = Ipv4Packet.pad pad <$> parseIpv4Packet data := by
  have hlength : (data ++ pad).length = data.length + pad.length := List.length_append
  rw [parseIpv4Packet_eq] at h ⊢
  rw [parseIpv4Packet_eq]
  by_cases hshort : data.length < ipv4MinHeaderLen
  · rw [if_pos hshort] at h
    cases h _ rfl
  have hlong := Nat.le_of_not_lt hshort
  obtain ⟨hversion, hihl, hheaderLength, htotalLength, hflags⟩ := header_append hlong pad
  rw [if_neg hshort] at h ⊢
  rw [if_neg (by omega), hversion, hihl, hheaderLength, htotalLength, hflags]
  by_cases hv : version data ≠ 4
  · rw [if_pos hv, if_pos hv]
    rfl
  rw [if_neg hv] at h ⊢
  rw [if_neg hv]
  by_cases hi : ihl data < 5
  · rw [if_pos hi, if_pos hi]
    rfl
  rw [if_neg hi] at h ⊢
  rw [if_neg hi]
  by_cases hheader : data.length < headerLength data
  · rw [if_pos hheader] at h
    cases h _ rfl
  rw [if_neg hheader] at h ⊢
  rw [if_neg (by omega)]
  by_cases hsmall : totalLength data < headerLength data
  · rw [if_pos hsmall, if_pos hsmall]
    rfl
  rw [if_neg hsmall] at h ⊢
  rw [if_neg hsmall]
  by_cases htotal : data.length < totalLength data
  · rw [if_pos htotal] at h
    cases h _ rfl
  rw [if_neg htotal, if_neg (by omega), List.take_append_of_le_length (Nat.le_of_not_lt hheader),
    view_append hlong pad (Nat.le_of_not_lt hheader) (Nat.le_of_not_lt htotal)]
  split_ifs <;> rfl

end View

/-! ### The writer -/

namespace Ipv4Packet

def writeTo (packet : Ipv4Packet) : Exec Bytes Ipv4SerialiseError ℕ := do
  if packet.options.length > 40 then Exec.fail (.optionsTooLong packet.options.length 40)
  else if packet.options.length % 4 ≠ 0 then Exec.fail (.optionsNotMultipleOfFour packet.options.length)
  else if packet.dscp > 63 then Exec.fail (.dscpOutOfRange packet.dscp)
  else if packet.ecn > 3 then Exec.fail (.ecnOutOfRange packet.ecn)
  else if packet.fragmentOffset > 0x1fff then Exec.fail (.fragmentOffsetOutOfRange packet.fragmentOffset)
  else do
    let headerLength ← Exec.lift (addUsize ipv4MinHeaderLen packet.options.length)
    let maximumTotalLength := 65535
    if packet.payload.length > (← Exec.lift (subUsize maximumTotalLength headerLength)) then
      Exec.fail (.totalLengthTooLarge (saturatingAddUsize headerLength packet.payload.length) maximumTotalLength)
    else do
      let totalLength ← Exec.lift (addUsize headerLength packet.payload.length)
      if (← Exec.get).length < totalLength then
        Exec.fail (.bufferTooSmall (← Exec.get).length totalLength)
      else do
        setIndex 0 (((4 : UInt8) <<< 4) ||| UInt8.ofNat (headerLength / 4))
        setIndex 1 ((packet.dscp <<< 2) ||| packet.ecn)
        copyFromSlice 2 4 (u16ToBeBytes (UInt16.ofNat totalLength))
        copyFromSlice 4 6 (u16ToBeBytes packet.identification)
        let flagsAndFragmentOffset := (packet.dontFragment.toUInt16 <<< 14) |||
          (packet.moreFragments.toUInt16 <<< 13) ||| (packet.fragmentOffset &&& 0x1fff)
        copyFromSlice 6 8 (u16ToBeBytes flagsAndFragmentOffset)
        setIndex 8 packet.ttl
        setIndex 9 packet.protocol.asU8
        fill 10 12 0
        copyFromSlice 12 16 packet.source.octets
        copyFromSlice 16 20 packet.destination.octets
        copyFromSlice 20 headerLength packet.options
        let header ← Exec.lift (sliceTo (← Exec.get) headerLength)
        let checksumValue ← Exec.lift (checksum header)
        copyFromSlice 10 12 (u16ToBeBytes checksumValue)
        copyFromSlice headerLength totalLength packet.payload
        return totalLength

/-! ### The bytes of a packet -/

section Encode

variable (packet : Ipv4Packet)

def headerLen : ℕ := ipv4MinHeaderLen + packet.options.length

def totalLen : ℕ := packet.headerLen + packet.payload.length

/-- The flags and the fragment offset as the writer puts them together. -/
def flagsWord : UInt16 :=
  (packet.dontFragment.toUInt16 <<< 14) ||| (packet.moreFragments.toUInt16 <<< 13) |||
    (packet.fragmentOffset &&& 0x1fff)

/-- The header in front of the checksum. -/
def headerTop : Bytes :=
  [((4 : UInt8) <<< 4) ||| UInt8.ofNat (packet.headerLen / 4), (packet.dscp <<< 2) ||| packet.ecn] ++
    u16ToBeBytes (UInt16.ofNat packet.totalLen) ++ u16ToBeBytes packet.identification ++
    u16ToBeBytes packet.flagsWord ++ [packet.ttl, packet.protocol.asU8]

/-- The header behind the checksum. -/
def headerBottom : Bytes := packet.source.octets ++ packet.destination.octets ++ packet.options

/-- The header with `c` in the checksum field. -/
def header (c : UInt16) : Bytes := packet.headerTop ++ u16ToBeBytes c ++ packet.headerBottom

/-- The bytes of a packet, without those that trail it. -/
def encode : Bytes := packet.header (internetChecksum (packet.header 0)) ++ packet.payload

/-- The packet with `c` in the checksum field. -/
def withChecksum (c : UInt16) : Bytes := packet.header c ++ packet.payload

@[simp] lemma headerTop_length : packet.headerTop.length = 10 := rfl

lemma header_length (c : UInt16) : (packet.header c).length = packet.headerLen := by
  simp only [header, headerBottom, headerLen, ipv4MinHeaderLen, List.length_append, headerTop_length,
    u16ToBeBytes_length, Ipv4Addr.octets_length]
  omega

lemma withChecksum_length (c : UInt16) : (packet.withChecksum c).length = packet.totalLen := by
  rw [withChecksum, List.length_append, header_length, totalLen]

lemma encode_length : packet.encode.length = packet.totalLen := packet.withChecksum_length _

end Encode

/-- The fields that the writer checks are in range, and the packet is not too long. -/
structure Encodable (packet : Ipv4Packet) : Prop where
  options_le : packet.options.length ≤ 40
  options_mod : packet.options.length % 4 = 0
  dscp_le : packet.dscp ≤ 63
  ecn_le : packet.ecn ≤ 3
  fragmentOffset_le : packet.fragmentOffset ≤ 0x1fff
  payload_le : packet.totalLen ≤ 65535

/-- **What the writer does to a buffer** with an encodable packet. -/
theorem writeTo_eq {packet : Ipv4Packet} (h : packet.Encodable) (output : Bytes) :
    packet.writeTo.run output =
      if output.length < packet.totalLen then (.err (.bufferTooSmall output.length packet.totalLen), output)
      else (.ok packet.totalLen, packet.encode ++ output.drop packet.totalLen) := by
  obtain ⟨hoptions, hmod, hdscp, hecn, hoffset, hpayload⟩ := h
  have hheaderLen : packet.headerLen = 20 + packet.options.length := rfl
  have htotalLen : packet.totalLen = packet.headerLen + packet.payload.length := rfl
  have hmax : usizeMax = 18446744073709551615 := rfl
  have hadd1 : (addUsize ipv4MinHeaderLen packet.options.length : Outcome Ipv4SerialiseError ℕ) =
    .ok packet.headerLen := addUsize_of_le (by rw [ipv4MinHeaderLen]; omega)
  have hadd2 : (addUsize packet.headerLen packet.payload.length : Outcome Ipv4SerialiseError ℕ) =
    .ok packet.totalLen := addUsize_of_le (by omega)
  unfold writeTo
  rw [if_neg (by omega), if_neg (by omega), if_neg (UInt8.not_lt.2 hdscp), if_neg (UInt8.not_lt.2 hecn),
    if_neg (UInt16.not_lt.2 hoffset), hadd1, Exec.lift_ok_bind]
  dsimp only
  rw [subUsize_of_le (by omega), Exec.lift_ok_bind, if_neg (by omega), hadd2, Exec.lift_ok_bind, Exec.get_bind]
  split_ifs with hlen
  · rfl
  · conv_lhs => rw [← List.nil_append output]
    rw [setIndex_bind, setIndex_bind, copyFromSlice_bind, copyFromSlice_bind, copyFromSlice_bind, setIndex_bind,
      setIndex_bind, fill_bind, copyFromSlice_bind, copyFromSlice_bind, copyFromSlice_bind]
    · -- the header is written, with a zero checksum
      refine (congrArg _ (?_ : _ = packet.header 0 ++ output.drop packet.headerLen)).trans ?_
      · simp [header, headerTop, headerBottom, flagsWord, hheaderLen]
      rw [Exec.get_bind, sliceTo_append (packet.header_length 0), Exec.lift_ok_bind, checksum_eq,
        Exec.lift_ok_bind]
      generalize hc : internetChecksum (packet.header 0) = c
      rw [header, List.append_assoc (packet.headerTop ++ _), copyFromSlice_patch, ← List.append_assoc, ← header,
        copyFromSlice_bind]
      · simp [encode, hc, htotalLen]
      · exact packet.header_length c
      · exact htotalLen
      · rw [List.length_drop]
        omega
      · rfl
      · rfl
      · rfl
    all_goals try simp
    all_goals omega

/-- **The writer** puts an encodable packet into every buffer with room, and refuses another one at once. -/
theorem writes (packet : Ipv4Packet) : Writes packet.writeTo .bufferTooSmall packet.Encodable packet.encode where
  accepts := by
    intro h output
    rw [encode_length]
    exact writeTo_eq h output
  refuses := by
    intro hno
    unfold writeTo
    by_cases hoptions : packet.options.length > 40
    · exact ⟨.err (.optionsTooLong packet.options.length 40), nofun, nofun, fun _ => by rw [if_pos hoptions]; rfl⟩
    by_cases hmod : packet.options.length % 4 ≠ 0
    · refine ⟨.err (.optionsNotMultipleOfFour packet.options.length), nofun, nofun, fun _ => ?_⟩
      rw [if_neg hoptions, if_pos hmod]
      rfl
    by_cases hdscp : packet.dscp > 63
    · refine ⟨.err (.dscpOutOfRange packet.dscp), nofun, nofun, fun _ => ?_⟩
      rw [if_neg hoptions, if_neg hmod, if_pos hdscp]
      rfl
    by_cases hecn : packet.ecn > 3
    · refine ⟨.err (.ecnOutOfRange packet.ecn), nofun, nofun, fun _ => ?_⟩
      rw [if_neg hoptions, if_neg hmod, if_neg hdscp, if_pos hecn]
      rfl
    by_cases hoffset : packet.fragmentOffset > 0x1fff
    · refine ⟨.err (.fragmentOffsetOutOfRange packet.fragmentOffset), nofun, nofun, fun _ => ?_⟩
      rw [if_neg hoptions, if_neg hmod, if_neg hdscp, if_neg hecn, if_pos hoffset]
      rfl
    -- only the length is left
    have hmax : usizeMax = 18446744073709551615 := rfl
    have hmin : ipv4MinHeaderLen = 20 := rfl
    have hpayload : packet.payload.length > 65535 - (ipv4MinHeaderLen + packet.options.length) := by
      by_contra hfits
      have htotalLen : packet.totalLen = ipv4MinHeaderLen + packet.options.length + packet.payload.length := rfl
      exact hno ⟨by omega, not_not.1 hmod, UInt8.not_lt.1 hdscp, UInt8.not_lt.1 hecn, UInt16.not_lt.1 hoffset,
        by omega⟩
    refine ⟨.err (.totalLengthTooLarge (saturatingAddUsize (ipv4MinHeaderLen + packet.options.length)
      packet.payload.length) 65535), nofun, nofun, fun _ => ?_⟩
    rw [if_neg hoptions, if_neg hmod, if_neg hdscp, if_neg hecn, if_neg hoffset, addUsize_of_le (by omega),
      Exec.lift_ok_bind]
    dsimp only
    rw [subUsize_of_le (by omega), Exec.lift_ok_bind, if_pos hpayload]
    rfl

/-! ### The parser reads back what the writer wrote -/

lemma version_ihl_bits : ∀ n < 16, (((4 : UInt8) <<< 4) ||| UInt8.ofNat n) >>> 4 = 4 ∧
    ((((4 : UInt8) <<< 4) ||| UInt8.ofNat n) &&& 0x0f).toNat = n := by decide

lemma dscp_ecn_bits_ofNat : ∀ d < 64, ∀ e < 4,
    ((UInt8.ofNat d <<< 2) ||| UInt8.ofNat e) >>> 2 = UInt8.ofNat d ∧
      ((UInt8.ofNat d <<< 2) ||| UInt8.ofNat e) &&& 0x03 = UInt8.ofNat e := by decide +kernel

lemma dscp_ecn_bits {d e : UInt8} (hd : d ≤ 63) (he : e ≤ 3) :
    ((d <<< 2) ||| e) >>> 2 = d ∧ ((d <<< 2) ||| e) &&& 0x03 = e := by
  have hd' : d.toNat < 64 := Nat.lt_succ_of_le (UInt8.le_iff_toNat_le.1 hd)
  have he' : e.toNat < 4 := Nat.lt_succ_of_le (UInt8.le_iff_toNat_le.1 he)
  have h := dscp_ecn_bits_ofNat d.toNat hd' e.toNat he'
  rwa [UInt8.ofNat_toNat, UInt8.ofNat_toNat] at h

lemma flagsWord_toNat {packet : Ipv4Packet} (h : packet.fragmentOffset ≤ 0x1fff) :
    packet.flagsWord.toNat =
      16384 * packet.dontFragment.toNat + 8192 * packet.moreFragments.toNat + packet.fragmentOffset.toNat := by
  have hlt : packet.fragmentOffset.toNat < 2 ^ 13 := Nat.lt_succ_of_le (UInt16.le_iff_toNat_le.1 h)
  have hand : (packet.fragmentOffset &&& 0x1fff).toNat = packet.fragmentOffset.toNat := by
    rw [UInt16.toNat_and]
    exact (Nat.and_two_pow_sub_one_eq_mod _ 13).trans (Nat.mod_eq_of_lt hlt)
  have hflags : ∀ df mf : Bool, ((df.toUInt16 <<< 14) ||| (mf.toUInt16 <<< 13)).toNat =
      2 ^ 13 * (2 * df.toNat + mf.toNat) := by decide
  rw [flagsWord, UInt16.toNat_or, hflags, hand, ← Nat.two_pow_add_eq_or_of_lt hlt]
  omega

lemma flagsWord_reserved {packet : Ipv4Packet} (h : packet.fragmentOffset ≤ 0x1fff) :
    packet.flagsWord &&& 0x8000 = 0 := by
  have hle : packet.fragmentOffset.toNat ≤ 8191 := UInt16.le_iff_toNat_le.1 h
  have hdf := Bool.toNat_le packet.dontFragment
  have hmf := Bool.toNat_le packet.moreFragments
  have hmask : (0x8000 : UInt16).toNat = 2 ^ 15 := rfl
  rw [u16_and_mask_eq_zero_iff hmask, flagsWord_toNat h]
  omega

lemma flagsWord_dontFragment {packet : Ipv4Packet} (h : packet.fragmentOffset ≤ 0x1fff) :
    decide (packet.flagsWord &&& 0x4000 ≠ 0) = packet.dontFragment := by
  have hle : packet.fragmentOffset.toNat ≤ 8191 := UInt16.le_iff_toNat_le.1 h
  have hmf := Bool.toNat_le packet.moreFragments
  have hmask : (0x4000 : UInt16).toNat = 2 ^ 14 := rfl
  rw [Bool.eq_iff_iff, decide_eq_true_iff, ne_eq, u16_and_mask_eq_zero_iff hmask, flagsWord_toNat h]
  cases packet.dontFragment
  · simp
    omega
  · simp
    omega

lemma flagsWord_moreFragments {packet : Ipv4Packet} (h : packet.fragmentOffset ≤ 0x1fff) :
    decide (packet.flagsWord &&& 0x2000 ≠ 0) = packet.moreFragments := by
  have hle : packet.fragmentOffset.toNat ≤ 8191 := UInt16.le_iff_toNat_le.1 h
  have hmask : (0x2000 : UInt16).toNat = 2 ^ 13 := rfl
  rw [Bool.eq_iff_iff, decide_eq_true_iff, ne_eq, u16_and_mask_eq_zero_iff hmask, flagsWord_toNat h]
  cases packet.moreFragments
  · simp
    omega
  · simp
    omega

lemma flagsWord_fragmentOffset {packet : Ipv4Packet} (h : packet.fragmentOffset ≤ 0x1fff) :
    packet.flagsWord &&& 0x1fff = packet.fragmentOffset := by
  have hle : packet.fragmentOffset.toNat ≤ 8191 := UInt16.le_iff_toNat_le.1 h
  rw [← UInt16.toNat_inj, UInt16.toNat_and, flagsWord_toNat h]
  refine (Nat.and_two_pow_sub_one_eq_mod _ 13).trans ?_
  omega

lemma flagsAndFragmentOffset_withChecksum (packet : Ipv4Packet) (c : UInt16) (trailing : Bytes) :
    flagsAndFragmentOffset (packet.withChecksum c ++ trailing) = packet.flagsWord :=
  u16FromBeBytes_toBeBytes packet.flagsWord

lemma take_headerLen (packet : Ipv4Packet) (c : UInt16) (trailing : Bytes) :
    (packet.withChecksum c ++ trailing).take packet.headerLen = packet.header c := by
  rw [withChecksum, List.append_assoc, List.take_left' (packet.header_length _)]

section ReadBack

variable {packet : Ipv4Packet} (h : packet.Encodable) (c : UInt16) (trailing : Bytes)
include h

lemma headerLength_withChecksum : headerLength (packet.withChecksum c ++ trailing) = packet.headerLen := by
  have hoptions := h.options_le
  have hmod := h.options_mod
  have hlen : packet.headerLen = 20 + packet.options.length := rfl
  have hbits := (version_ihl_bits (packet.headerLen / 4) (by omega)).2
  have hihl : (ihl (packet.withChecksum c ++ trailing)).toNat = packet.headerLen / 4 := hbits
  rw [headerLength, hihl]
  omega

lemma totalLength_withChecksum : totalLength (packet.withChecksum c ++ trailing) = packet.totalLen := by
  have hpayload := h.payload_le
  have hword : totalLength (packet.withChecksum c ++ trailing) = (u16FromBeBytes
      (UInt8.ofNat ((UInt16.ofNat packet.totalLen).toNat / 256)) (UInt16.ofNat packet.totalLen).toUInt8).toNat := rfl
  rw [hword, u16FromBeBytes_toBeBytes, UInt16.toNat_ofNat', Nat.mod_eq_of_lt (by omega)]

lemma wellFormed_withChecksum (hc : internetChecksum (packet.header c) = 0) :
    WellFormed (packet.withChecksum c ++ trailing) := by
  have hoptions := h.options_le
  have hheaderLen : packet.headerLen = 20 + packet.options.length := rfl
  have htotalLen : packet.totalLen = packet.headerLen + packet.payload.length := rfl
  have hlen : (packet.withChecksum c ++ trailing).length = packet.totalLen + trailing.length := by
    rw [List.length_append, withChecksum_length]
  refine ⟨?_, ?_, ?_, ?_, ?_, ?_, ?_⟩
  · rw [hlen, ipv4MinHeaderLen]
    omega
  · exact (version_ihl_bits (packet.headerLen / 4) (by omega)).1
  · have hlength := headerLength_withChecksum h c trailing
    rw [headerLength] at hlength
    have h5 : 5 ≤ (ihl (packet.withChecksum c ++ trailing)).toNat := by omega
    exact UInt8.le_iff_toNat_le.2 h5
  · rw [headerLength_withChecksum h, totalLength_withChecksum h]
    omega
  · rw [totalLength_withChecksum h, hlen]
    omega
  · rw [flagsAndFragmentOffset_withChecksum]
    exact flagsWord_reserved h.fragmentOffset_le
  · rw [headerLength_withChecksum h, take_headerLen]
    exact hc

lemma view_withChecksum : view (packet.withChecksum c ++ trailing) =
    { packet with protocol := Ipv4Protocol.fromU8 packet.protocol.asU8, trailingBytes := trailing } := by
  obtain ⟨hdscp, hecn⟩ : byteAt (packet.withChecksum c ++ trailing) 1 >>> 2 = packet.dscp ∧
      byteAt (packet.withChecksum c ++ trailing) 1 &&& 0x03 = packet.ecn := dscp_ecn_bits h.dscp_le h.ecn_le
  have hoptions : ((packet.withChecksum c ++ trailing).take (headerLength (packet.withChecksum c ++ trailing))).drop
      ipv4MinHeaderLen = packet.options := by
    rw [headerLength_withChecksum h, take_headerLen]
    rfl
  have htotal : (packet.withChecksum c ++ trailing).take (totalLength (packet.withChecksum c ++ trailing)) =
      packet.withChecksum c := by
    rw [totalLength_withChecksum h, List.take_left' (packet.withChecksum_length c)]
  have hpayload : ((packet.withChecksum c ++ trailing).take (totalLength (packet.withChecksum c ++ trailing))).drop
      (headerLength (packet.withChecksum c ++ trailing)) = packet.payload := by
    rw [htotal, headerLength_withChecksum h, withChecksum, List.drop_left' (packet.header_length _)]
  have htrailing : (packet.withChecksum c ++ trailing).drop (totalLength (packet.withChecksum c ++ trailing)) =
      trailing := by
    rw [totalLength_withChecksum h, List.drop_left' (packet.withChecksum_length c)]
  have hid : u16FromBeBytes (byteAt (packet.withChecksum c ++ trailing) 4)
    (byteAt (packet.withChecksum c ++ trailing) 5) = packet.identification :=
    u16FromBeBytes_toBeBytes packet.identification
  unfold view
  rw [hoptions, hpayload, htrailing, hid, flagsAndFragmentOffset_withChecksum,
    flagsWord_dontFragment h.fragmentOffset_le, flagsWord_moreFragments h.fragmentOffset_le,
    flagsWord_fragmentOffset h.fragmentOffset_le, hdscp, hecn]
  rfl

/-- **The parser undoes the encoding.** -/
theorem parseIpv4Packet_encode : parseIpv4Packet (packet.encode ++ trailing) =
    .ok { packet with protocol := Ipv4Protocol.fromU8 packet.protocol.asU8, trailingBytes := trailing } := by
  have hchecksum : internetChecksum (packet.header (internetChecksum (packet.header 0))) = 0 :=
    internetChecksum_stored (by rw [headerTop_length]) _
  exact (parseIpv4Packet_of_wellFormed (wellFormed_withChecksum h _ trailing hchecksum)).trans
    (congrArg Outcome.ok (view_withChecksum h _ trailing))

end ReadBack

/-- **What is written is read back.**  The writer succeeds exactly on the packets that fit their fields and the buffer,
and then the parser finds the packet in the buffer, followed by the bytes that were there before. -/
theorem write_then_parse {packet : Ipv4Packet} (hprotocol : ∃ value, packet.protocol = Ipv4Protocol.fromU8 value)
    (output : Bytes) :
    ((∃ n, (packet.writeTo.run output).1 = .ok n) ↔
      packet.options.length % 4 = 0 ∧ packet.options.length ≤ 40 ∧ packet.dscp ≤ 63 ∧ packet.ecn ≤ 3 ∧
      packet.fragmentOffset ≤ 0x1fff ∧ 20 + packet.options.length + packet.payload.length ≤ 65535 ∧
      20 + packet.options.length + packet.payload.length ≤ output.length) ∧
    ∀ n written, packet.writeTo.run output = (.ok n, written) →
      parseIpv4Packet written = .ok { packet with trailingBytes := written.drop n } ∧
      written.drop n = output.drop n := by
  have htotalLen : packet.totalLen = 20 + packet.options.length + packet.payload.length := rfl
  refine ⟨?_, ?_⟩
  · rw [(writes packet).ok_iff, encode_length]
    constructor
    · rintro ⟨⟨hoptions, hmod, hdscp, hecn, hoffset, htotal⟩, hroom⟩
      exact ⟨hmod, hoptions, hdscp, hecn, hoffset, htotalLen ▸ htotal, htotalLen ▸ hroom⟩
    · rintro ⟨hmod, hoptions, hdscp, hecn, hoffset, htotal, hroom⟩
      exact ⟨⟨hoptions, hmod, hdscp, hecn, hoffset, htotalLen ▸ htotal⟩, htotalLen ▸ hroom⟩
  · intro n written hrun
    obtain ⟨hencodable, rfl, -, rfl⟩ := (writes packet).of_ok hrun
    obtain ⟨value, hvalue⟩ := hprotocol
    have hnumber : Ipv4Protocol.fromU8 packet.protocol.asU8 = packet.protocol := by
      rw [hvalue, Ipv4Protocol.asU8_fromU8]
    rw [parseIpv4Packet_encode hencodable, hnumber, List.drop_left' rfl]
    exact ⟨rfl, rfl⟩

/-- A packet with options, into a buffer with a byte to spare. -/
theorem write_then_parse_options :
    let packet : Ipv4Packet := ⟨42, 3, 0xabcd, 64, .udp, true, false, 0, ⟨192, 0, 2, 1⟩, ⟨198, 51, 100, 2⟩,
      [1, 1, 1, 0], [0xde, 0xad, 0xbe, 0xef], []⟩
    ∃ written, packet.writeTo.run (vec 0xff 29) = (.ok 28, written) ∧
      parseIpv4Packet written = .ok { packet with trailingBytes := [0xff] } := by
  intro packet
  have hrun : packet.writeTo.run (vec 0xff 29) = (.ok 28, packet.encode ++ [0xff]) := by decide +kernel
  have hparse := (write_then_parse ⟨17, rfl⟩ (vec 0xff 29)).2 28 _ hrun
  exact ⟨_, hrun, hparse.1⟩

end Ipv4Packet

/-! ### What the stack relies on -/

section Bounds

variable {data : Bytes} {packet : Ipv4Packet} (h : parseIpv4Packet data = .ok packet)
include h

lemma payload_length_le : packet.payload.length ≤ 65515 := by
  obtain ⟨hwf, rfl⟩ := parseIpv4Packet_ok_iff.1 h
  have htotal : totalLength data < 65536 := UInt16.toNat_lt _
  have hihl : 5 ≤ (ihl data).toNat := UInt8.le_iff_toNat_le.1 hwf.five_le_ihl
  have hheader : headerLength data = (ihl data).toNat * 4 := rfl
  simp only [view, List.length_drop, List.length_take]
  omega

lemma payload_length_add_le : ipv4MinHeaderLen + packet.payload.length ≤ data.length := by
  obtain ⟨hwf, rfl⟩ := parseIpv4Packet_ok_iff.1 h
  have htotal := hwf.totalLength_le
  have hle := hwf.headerLength_le
  have hihl : 5 ≤ (ihl data).toNat := UInt8.le_iff_toNat_le.1 hwf.five_le_ihl
  have hheader : headerLength data = (ihl data).toNat * 4 := rfl
  simp only [view, List.length_drop, List.length_take, ipv4MinHeaderLen]
  omega

lemma dscp_le : packet.dscp ≤ 63 := by
  obtain ⟨-, rfl⟩ := parseIpv4Packet_ok_iff.1 h
  have hb := (byteAt data 1).toNat_lt
  rw [UInt8.le_iff_toNat_le]
  show (byteAt data 1 >>> 2).toNat ≤ 63
  rw [UInt8.toNat_shiftRight]
  refine (Nat.shiftRight_eq_div_pow _ 2).le.trans ?_
  omega

lemma ecn_le : packet.ecn ≤ 3 := by
  obtain ⟨-, rfl⟩ := parseIpv4Packet_ok_iff.1 h
  rw [UInt8.le_iff_toNat_le]
  show (byteAt data 1 &&& 0x03).toNat ≤ 3
  rw [UInt8.toNat_and]
  exact Nat.and_le_right

end Bounds

end TcpIp.Ipv4
