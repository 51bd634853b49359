import TcpIp.Transport

/-!
# `tcp.rs`: TCP segments

* `parseTcpSegment`, `validateTcpChecksum`, `TcpSegmentToSend.writeTo` — the functions of the source;
* `parseTcpSegment_eq` — the parser is the chain of its checks in front of `view`;
* `TcpSegmentToSend.encode` — the bytes of a segment, with the checksum in place: what the writer puts into a buffer
  with room (`TcpSegmentToSend.writeTo_eq`), what the parser reads back and the validation accepts.
-/

namespace TcpIp.Tcp

open TcpIp.Lib TcpIp.Checksum TcpIp.Transport

def tcpMinHeaderLen : ℕ := 20

def tcpMaxOptionLen : ℕ := 40

def tcpMinDataOffset : UInt8 := 5

def ipv4TcpProtocolNumber : UInt8 := 6

structure TcpFlags where
  bits : UInt8
  deriving DecidableEq, Repr

namespace TcpFlags

def fin : TcpFlags := ⟨0x01⟩
def syn : TcpFlags := ⟨0x02⟩
def rst : TcpFlags := ⟨0x04⟩
def psh : TcpFlags := ⟨0x08⟩
def ack : TcpFlags := ⟨0x10⟩
def urg : TcpFlags := ⟨0x20⟩

def contains (flags flag : TcpFlags) : Bool := flags.bits &&& flag.bits == flag.bits

instance : OrOp TcpFlags := ⟨fun flags rhs => ⟨flags.bits ||| rhs.bits⟩⟩

end TcpFlags

inductive TcpParseError where
  | segmentTooShort (actual minimum : ℕ)
  | segmentTooLong (actual maximum : ℕ)
  | invalidDataOffset (dataOffset minimum : UInt8)
  | truncatedHeader (actual required : ℕ)
  | invalidChecksum
  deriving DecidableEq, Repr

inductive TcpSerialiseError where
  | bufferTooSmall (actual required : ℕ)
  | segmentTooLong (actual maximum : ℕ)
  | optionsNotMultipleOfFour (actual : ℕ)
  | optionsTooLong (actual maximum : ℕ)
  deriving DecidableEq, Repr

structure TcpSegment where
  sourcePort : UInt16
  destinationPort : UInt16
  sequenceNumber : UInt32
  acknowledgementNumber : UInt32
  dataOffset : UInt8
  reserved : UInt8
  flags : TcpFlags
  windowSize : UInt16
  checksum : UInt16
  urgentPointer : UInt16
  options : Bytes
  payload : Bytes
  deriving DecidableEq, Repr

structure TcpSegmentToSend where
  sourcePort : UInt16
  destinationPort : UInt16
  sequenceNumber : UInt32
  acknowledgementNumber : UInt32
  flags : TcpFlags
  windowSize : UInt16
  urgentPointer : UInt16
  options : Bytes
  payload : Bytes
  deriving DecidableEq, Repr

def calculateTcpChecksum {ε : Type} (sourceIp destinationIp : Ipv4Addr) (length : UInt16) (segmentBytes : Bytes) :
    Outcome ε UInt16 :=
  calculateChecksum ipv4TcpProtocolNumber sourceIp destinationIp length segmentBytes

def parseTcpSegment (data : Bytes) : Outcome TcpParseError TcpSegment :=
  if data.length < tcpMinHeaderLen then .err (.segmentTooShort data.length tcpMinHeaderLen)
  else do
    let dataOffset := (← index data 12) >>> 4
    if dataOffset < tcpMinDataOffset then .err (.invalidDataOffset dataOffset tcpMinDataOffset)
    else do
      let headerLength := dataOffset.toNat * 4
      if data.length < headerLength then .err (.truncatedHeader data.length headerLength)
      else return {
        sourcePort := u16FromBeBytes (← index data 0) (← index data 1)
        destinationPort := u16FromBeBytes (← index data 2) (← index data 3)
        sequenceNumber := u32FromBeBytes (← index data 4) (← index data 5) (← index data 6) (← index data 7)
        acknowledgementNumber :=
          u32FromBeBytes (← index data 8) (← index data 9) (← index data 10) (← index data 11)
        dataOffset
        reserved := (← index data 12) &&& 0x0f
        flags := ⟨← index data 13⟩
        windowSize := u16FromBeBytes (← index data 14) (← index data 15)
        checksum := u16FromBeBytes (← index data 16) (← index data 17)
        urgentPointer := u16FromBeBytes (← index data 18) (← index data 19)
        options := ← slice data tcpMinHeaderLen headerLength
        payload := ← sliceFrom data headerLength }

def validateTcpChecksum (sourceIp destinationIp : Ipv4Addr) (data : Bytes) : Outcome TcpParseError Unit := do
  let _segment ← parseTcpSegment data
  -- `u16::try_from(data.len())`
  if 65535 < data.length then .err (.segmentTooLong data.length 65535)
  else do
    let length := UInt16.ofNat data.length
    if (← calculateTcpChecksum sourceIp destinationIp length data) = 0 then return ()
    else .err .invalidChecksum

/-! ### What the parser accepts -/

section View

variable (data : Bytes)

/-- The segment in `data`. -/
def view : TcpSegment where
  sourcePort := u16FromBeBytes (byteAt data 0) (byteAt data 1)
  destinationPort := u16FromBeBytes (byteAt data 2) (byteAt data 3)
  sequenceNumber := u32FromBeBytes (byteAt data 4) (byteAt data 5) (byteAt data 6) (byteAt data 7)
  acknowledgementNumber := u32FromBeBytes (byteAt data 8) (byteAt data 9) (byteAt data 10) (byteAt data 11)
  dataOffset := byteAt data 12 >>> 4
  reserved := byteAt data 12 &&& 0x0f
  flags := ⟨byteAt data 13⟩
  windowSize := u16FromBeBytes (byteAt data 14) (byteAt data 15)
  checksum := u16FromBeBytes (byteAt data 16) (byteAt data 17)
  urgentPointer := u16FromBeBytes (byteAt data 18) (byteAt data 19)
  options := (data.take ((byteAt data 12 >>> 4).toNat * 4)).drop tcpMinHeaderLen
  payload := data.drop ((byteAt data 12 >>> 4).toNat * 4)

/-- **The parser is its checks, one after the other, in front of `view`.** -/
theorem parseTcpSegment_eq : parseTcpSegment data =
    if data.length < tcpMinHeaderLen then .err (.segmentTooShort data.length tcpMinHeaderLen)
    else if (view data).dataOffset < tcpMinDataOffset then
      .err (.invalidDataOffset (view data).dataOffset tcpMinDataOffset)
    else if data.length < (view data).dataOffset.toNat * 4 then
      .err (.truncatedHeader data.length ((view data).dataOffset.toNat * 4))
    else .ok (view data) := by
  unfold parseTcpSegment
  apply Outcome.check_congr
  intro hlen
  have hlong : 20 ≤ data.length := Nat.le_of_not_lt hlen
  have hindex : ∀ i < 20, (index data i : Outcome TcpParseError UInt8) = .ok (byteAt data i) :=
    fun i hi => index_of_lt (by omega)
  have hoffset : byteAt data 12 >>> 4 = (view data).dataOffset := rfl
  simp only [hindex, Nat.reduceLT, Outcome.ok_bind, hoffset]
  apply Outcome.check_congr
  intro hmin
  apply Outcome.check_congr
  intro hheader
  have h20 : tcpMinHeaderLen ≤ (view data).dataOffset.toNat * 4 := by
    have h5 : 5 ≤ (view data).dataOffset.toNat := by
      simpa [UInt8.lt_iff_toNat_lt, tcpMinDataOffset] using hmin
    rw [tcpMinHeaderLen]
    omega
  rw [slice_of_le h20 (by omega), Outcome.ok_bind, sliceFrom_of_le (by omega)]
  rfl

lemma parseTcpSegment_panics : (parseTcpSegment data).panics = false := by
  rw [parseTcpSegment_eq]
  repeat apply Outcome.check_panics
  rfl

variable {data} {segment : TcpSegment}

lemma of_parse (h : parseTcpSegment data = .ok segment) : 20 ≤ data.length ∧ 20 ≤ segment.dataOffset.toNat * 4 ∧
    segment.dataOffset.toNat * 4 ≤ data.length ∧ view data = segment := by
  rw [parseTcpSegment_eq] at h
  simp only [Outcome.check_eq_ok, Nat.not_lt, Outcome.ok.injEq] at h
  obtain ⟨hlong, hmin, hheader, rfl⟩ := h
  have hfive : 5 ≤ (view data).dataOffset.toNat := UInt8.le_iff_toNat_le.1 (UInt8.not_lt.1 hmin)
  exact ⟨hlong, by omega, hheader, rfl⟩

lemma length_of_parse (h : parseTcpSegment data = .ok segment) : tcpMinHeaderLen ≤ data.length := (of_parse h).1

lemma validateTcpChecksum_of_parse (h : parseTcpSegment data = .ok segment) (sourceIp destinationIp : Ipv4Addr) :
    validateTcpChecksum sourceIp destinationIp data =
      if 65535 < data.length then .err (.segmentTooLong data.length 65535)
      else if transportChecksum ipv4TcpProtocolNumber sourceIp destinationIp (UInt16.ofNat data.length) data = 0 then
        .ok ()
      else .err .invalidChecksum := by
  unfold validateTcpChecksum
  rw [h, Outcome.ok_bind]
  apply Outcome.check_congr
  intro hlen
  have hcalc : (calculateTcpChecksum sourceIp destinationIp (UInt16.ofNat data.length) data :
      Outcome TcpParseError UInt16) =
      .ok (transportChecksum ipv4TcpProtocolNumber sourceIp destinationIp (UInt16.ofNat data.length) data) :=
    calculateChecksum_eq (by rw [usizeMax]; omega)
  dsimp only
  rw [hcalc, Outcome.ok_bind]
  rfl

lemma validateTcpChecksum_panics (sourceIp destinationIp : Ipv4Addr) (data : Bytes) :
    (validateTcpChecksum sourceIp destinationIp data).panics = false := by
  rcases Outcome.ok_or_err (parseTcpSegment_panics data) with ⟨segment, h⟩ | ⟨e, h⟩
  · rw [validateTcpChecksum_of_parse h]
    split_ifs <;> rfl
  · rw [validateTcpChecksum, h]
    rfl

end View

/-! ### The writer -/

namespace TcpSegmentToSend

def writeTo (segment : TcpSegmentToSend) (sourceIp destinationIp : Ipv4Addr) :
    Exec Bytes TcpSerialiseError ℕ := do
  if segment.options.length > tcpMaxOptionLen then
    Exec.fail (.optionsTooLong segment.options.length tcpMaxOptionLen)
  else if segment.options.length % 4 ≠ 0 then
    Exec.fail (.optionsNotMultipleOfFour segment.options.length)
  else do
    let headerLength ← Exec.lift (addUsize tcpMinHeaderLen segment.options.length)
    let maximumSegmentLength := 65535
    if segment.payload.length > (← Exec.lift (subUsize maximumSegmentLength headerLength)) then
      Exec.fail (.segmentTooLong (saturatingAddUsize headerLength segment.payload.length) maximumSegmentLength)
    else do
      let segmentLength ← Exec.lift (addUsize headerLength segment.payload.length)
      if (← Exec.get).length < segmentLength then
        Exec.fail (.bufferTooSmall (← Exec.get).length segmentLength)
      else do
        copyFromSlice 0 2 (u16ToBeBytes segment.sourcePort)
        copyFromSlice 2 4 (u16ToBeBytes segment.destinationPort)
        copyFromSlice 4 8 (u32ToBeBytes segment.sequenceNumber)
        copyFromSlice 8 12 (u32ToBeBytes segment.acknowledgementNumber)
        setIndex 12 (UInt8.ofNat (headerLength / 4) <<< 4)
        setIndex 13 segment.flags.bits
        copyFromSlice 14 16 (u16ToBeBytes segment.windowSize)
        fill 16 18 0
        copyFromSlice 18 20 (u16ToBeBytes segment.urgentPointer)
        copyFromSlice tcpMinHeaderLen headerLength segment.options
        copyFromSlice headerLength segmentLength segment.payload
        let length := UInt16.ofNat segmentLength
        let written ← Exec.lift (sliceTo (← Exec.get) segmentLength)
        let checksumValue ← Exec.lift (calculateTcpChecksum sourceIp destinationIp length written)
        copyFromSlice 16 18 (u16ToBeBytes checksumValue)
        return segmentLength

section Encode

variable (segment : TcpSegmentToSend) (sourceIp destinationIp : Ipv4Addr)

def headerLen : ℕ := tcpMinHeaderLen + segment.options.length

def segmentLen : ℕ := segment.headerLen + segment.payload.length

/-- The bytes in front of the checksum. -/
def top : Bytes :=
  u16ToBeBytes segment.sourcePort ++ u16ToBeBytes segment.destinationPort ++ u32ToBeBytes segment.sequenceNumber ++
    u32ToBeBytes segment.acknowledgementNumber ++ [UInt8.ofNat (segment.headerLen / 4) <<< 4, segment.flags.bits] ++
    u16ToBeBytes segment.windowSize

/-- The bytes behind the checksum. -/
def bottom : Bytes := u16ToBeBytes segment.urgentPointer ++ segment.options ++ segment.payload

/-- The segment with `c` in the checksum field. -/
def withChecksum (c : UInt16) : Bytes := segment.top ++ u16ToBeBytes c ++ segment.bottom

def sentChecksum : UInt16 := transportChecksum ipv4TcpProtocolNumber sourceIp destinationIp
  (UInt16.ofNat segment.segmentLen) (segment.withChecksum 0)

/-- The bytes of a segment. -/
def encode : Bytes := segment.withChecksum (segment.sentChecksum sourceIp destinationIp)

lemma top_length : segment.top.length = 16 := rfl

lemma withChecksum_length (c : UInt16) : (segment.withChecksum c).length = segment.segmentLen := by
  simp only [withChecksum, bottom, segmentLen, headerLen, tcpMinHeaderLen, List.length_append, top_length,
    u16ToBeBytes_length]
  omega

lemma encode_length : (segment.encode sourceIp destinationIp).length = segment.segmentLen := withChecksum_length ..

/-- The fields that the writer checks are in range. -/
structure Encodable : Prop where
  options_le : segment.options.length ≤ 40
  options_mod : segment.options.length % 4 = 0
  segmentLen_le : segment.segmentLen ≤ 65535

variable {segment}

/-- **What the writer does to a buffer** with an encodable segment. -/
theorem writeTo_eq (h : segment.Encodable) (output : Bytes) :
    (segment.writeTo sourceIp destinationIp).run output =
      if output.length < segment.segmentLen then
        (.err (.bufferTooSmall output.length segment.segmentLen), output)
      else (.ok segment.segmentLen, segment.encode sourceIp destinationIp ++ output.drop segment.segmentLen) := by
  obtain ⟨hoptions, hmod, hlength⟩ := h
  have hheaderLen : segment.headerLen = 20 + segment.options.length := rfl
  have hsegmentLen : segment.segmentLen = segment.headerLen + segment.payload.length := rfl
  have hmax : usizeMax = 18446744073709551615 := rfl
  have hmin : tcpMinHeaderLen = 20 := rfl
  have hadd1 : (addUsize tcpMinHeaderLen segment.options.length : Outcome TcpSerialiseError ℕ) =
    .ok segment.headerLen := addUsize_of_le (by omega)
  have hadd2 : (addUsize segment.headerLen segment.payload.length : Outcome TcpSerialiseError ℕ) =
    .ok segment.segmentLen := addUsize_of_le (by omega)
  have hcalc : ∀ (length : UInt16) (bytes : Bytes), bytes.length = segment.segmentLen →
      (calculateTcpChecksum sourceIp destinationIp length bytes : Outcome TcpSerialiseError UInt16) =
        .ok (transportChecksum ipv4TcpProtocolNumber sourceIp destinationIp length bytes) :=
    fun length bytes hbytes => calculateChecksum_eq (by omega)
  unfold writeTo
  rw [if_neg (by rw [tcpMaxOptionLen]; omega), if_neg (by omega), hadd1, Exec.lift_ok_bind]
  dsimp only
  rw [subUsize_of_le (by omega), Exec.lift_ok_bind, if_neg (by omega), hadd2, Exec.lift_ok_bind, Exec.get_bind]
  split_ifs with hlen
  · rfl
  · conv_lhs => rw [← List.nil_append output]
    rw [copyFromSlice_bind, copyFromSlice_bind, copyFromSlice_bind, copyFromSlice_bind, setIndex_bind,
      setIndex_bind, copyFromSlice_bind, fill_bind, copyFromSlice_bind, copyFromSlice_bind, copyFromSlice_bind]
    · -- the segment is written, with a zero checksum
      refine (congrArg _ (?_ : _ = segment.withChecksum 0 ++ output.drop segment.segmentLen)).trans ?_
      · simp [withChecksum, top, bottom, hheaderLen, hsegmentLen]
      rw [Exec.get_bind, sliceTo_append (segment.withChecksum_length 0), Exec.lift_ok_bind,
        hcalc _ _ (segment.withChecksum_length 0), Exec.lift_ok_bind]
      rw [← sentChecksum]
      generalize hc : segment.sentChecksum sourceIp destinationIp = c
      rw [withChecksum, List.append_assoc (segment.top ++ _), copyFromSlice_patch, ← List.append_assoc,
        ← withChecksum, encode, hc, Exec.pure_run]
      all_goals rfl
    all_goals try simp
    all_goals omega

/-- **The writer** puts an encodable segment into every buffer with room, and refuses another one at once. -/
theorem writes (segment : TcpSegmentToSend) (sourceIp destinationIp : Ipv4Addr) :
    Writes (segment.writeTo sourceIp destinationIp) .bufferTooSmall segment.Encodable
      (segment.encode sourceIp destinationIp) where
  accepts := by
    intro h output
    rw [encode_length]
    exact writeTo_eq sourceIp destinationIp h output
  refuses := by
    intro hno
    have hmax : usizeMax = 18446744073709551615 := rfl
    have hmin : tcpMinHeaderLen = 20 := rfl
    have hoption : tcpMaxOptionLen = 40 := rfl
    unfold writeTo
    by_cases hoptions : segment.options.length > tcpMaxOptionLen
    · refine ⟨.err (.optionsTooLong segment.options.length tcpMaxOptionLen), nofun, nofun, fun _ => ?_⟩
      rw [if_pos hoptions]
      rfl
    by_cases hmod : segment.options.length % 4 ≠ 0
    · refine ⟨.err (.optionsNotMultipleOfFour segment.options.length), nofun, nofun, fun _ => ?_⟩
      rw [if_neg hoptions, if_pos hmod]
      rfl
    -- only the length is left
    have hpayload : segment.payload.length > 65535 - (tcpMinHeaderLen + segment.options.length) := by
      by_contra hfits
      have hsegmentLen : segment.segmentLen = tcpMinHeaderLen + segment.options.length + segment.payload.length := rfl
      exact hno ⟨by omega, not_not.1 hmod, by omega⟩
    refine ⟨.err (.segmentTooLong (saturatingAddUsize (tcpMinHeaderLen + segment.options.length)
      segment.payload.length) 65535), nofun, nofun, fun _ => ?_⟩
    rw [if_neg hoptions, if_neg hmod, addUsize_of_le (by omega), Exec.lift_ok_bind]
    dsimp only
    rw [subUsize_of_le (by omega), Exec.lift_ok_bind, if_pos hpayload]
    rfl

/-! ### The parser reads back what the writer wrote -/

lemma data_offset_bits : ∀ n < 16, (UInt8.ofNat n <<< 4) >>> 4 = UInt8.ofNat n ∧
    (UInt8.ofNat n <<< 4) &&& 0x0f = 0 := by decide

/-- What the parser sees of a segment that was sent. -/
def received (segment : TcpSegmentToSend) (checksum : UInt16) : TcpSegment where
  sourcePort := segment.sourcePort
  destinationPort := segment.destinationPort
  sequenceNumber := segment.sequenceNumber
  acknowledgementNumber := segment.acknowledgementNumber
  dataOffset := UInt8.ofNat (segment.headerLen / 4)
  reserved := 0
  flags := segment.flags
  windowSize := segment.windowSize
  checksum := checksum
  urgentPointer := segment.urgentPointer
  options := segment.options
  payload := segment.payload

lemma view_withChecksum (h : segment.Encodable) (c : UInt16) :
    view (segment.withChecksum c) = segment.received c := by
  obtain ⟨hoptions, hmod, -⟩ := h
  have hheaderLen : segment.headerLen = 20 + segment.options.length := rfl
  obtain ⟨hshift, hmask⟩ := data_offset_bits (segment.headerLen / 4) (by omega)
  have hoffset : byteAt (segment.withChecksum c) 12 = UInt8.ofNat (segment.headerLen / 4) <<< 4 := rfl
  have hlength : (UInt8.ofNat (segment.headerLen / 4)).toNat * 4 = segment.headerLen := by
    rw [UInt8.toNat_ofNat', Nat.mod_eq_of_lt (by omega)]
    omega
  have hcut : segment.withChecksum c =
      (segment.top ++ u16ToBeBytes c ++ u16ToBeBytes segment.urgentPointer ++ segment.options) ++ segment.payload := by
    simp [withChecksum, bottom]
  have hcutLength : (segment.top ++ u16ToBeBytes c ++ u16ToBeBytes segment.urgentPointer ++
      segment.options).length = segment.headerLen := by
    simp only [List.length_append, top_length, u16ToBeBytes_length, hheaderLen]
  unfold view received
  rw [hoffset, hshift, hmask, hlength]
  congr 1
  · exact u16FromBeBytes_toBeBytes segment.sourcePort
  · exact u16FromBeBytes_toBeBytes segment.destinationPort
  · exact u32FromBeBytes_toBeBytes segment.sequenceNumber
  · exact u32FromBeBytes_toBeBytes segment.acknowledgementNumber
  · exact u16FromBeBytes_toBeBytes segment.windowSize
  · exact u16FromBeBytes_toBeBytes c
  · exact u16FromBeBytes_toBeBytes segment.urgentPointer
  · rw [hcut, List.take_left' hcutLength]
    rfl
  · rw [hcut, List.drop_left' hcutLength]

lemma parseTcpSegment_withChecksum (h : segment.Encodable) (c : UInt16) :
    parseTcpSegment (segment.withChecksum c) = .ok (segment.received c) := by
  have hlen := segment.withChecksum_length c
  have hheaderLen : segment.headerLen = 20 + segment.options.length := rfl
  have hsegmentLen : segment.segmentLen = segment.headerLen + segment.payload.length := rfl
  have hoptions := h.options_le
  have hmod := h.options_mod
  have hoffset : (UInt8.ofNat (segment.headerLen / 4)).toNat = segment.headerLen / 4 := by
    rw [UInt8.toNat_ofNat', Nat.mod_eq_of_lt (by omega)]
  have hmin : tcpMinDataOffset ≤ UInt8.ofNat (segment.headerLen / 4) := by
    rw [UInt8.le_iff_toNat_le, hoffset]
    show 5 ≤ _
    omega
  rw [parseTcpSegment_eq, hlen, view_withChecksum h]
  unfold received
  rw [if_neg (by rw [tcpMinHeaderLen]; omega), if_neg (UInt8.not_lt.2 hmin), if_neg (by rw [hoffset]; omega)]

/-- **The parser undoes the encoding.** -/
theorem parseTcpSegment_encode (h : segment.Encodable) :
    parseTcpSegment (segment.encode sourceIp destinationIp) =
      .ok (segment.received (segment.sentChecksum sourceIp destinationIp)) :=
  parseTcpSegment_withChecksum h _

/-- **What the validation accepts in the place of the checksum**: the checksum, or all ones for a checksum of zero. -/
theorem validateTcpChecksum_withChecksum_iff (h : segment.Encodable) (c : UInt16) :
    validateTcpChecksum sourceIp destinationIp (segment.withChecksum c) = .ok () ↔
      c = segment.sentChecksum sourceIp destinationIp ∨
        (segment.sentChecksum sourceIp destinationIp = 0 ∧ c = 0xffff) := by
  have heven : segment.top.length % 2 = 0 := by rw [top_length]
  have hle := h.segmentLen_le
  have hstored : _ ↔ c = segment.sentChecksum sourceIp destinationIp ∨
      (segment.sentChecksum sourceIp destinationIp = 0 ∧ c = 0xffff) :=
    transportChecksum_stored_iff heven segment.bottom c
  rw [validateTcpChecksum_of_parse (parseTcpSegment_withChecksum h c), withChecksum_length, if_neg (by omega),
    ← hstored]
  unfold withChecksum
  split_ifs with hzero
  · exact iff_of_true rfl hzero
  · exact iff_of_false (fun hok => nomatch hok) hzero

/-- **The validation accepts the encoding.** -/
theorem validateTcpChecksum_encode (h : segment.Encodable) :
    validateTcpChecksum sourceIp destinationIp (segment.encode sourceIp destinationIp) = .ok () :=
  (validateTcpChecksum_withChecksum_iff sourceIp destinationIp h _).2 (Or.inl rfl)

end Encode

end TcpSegmentToSend

end TcpIp.Tcp
