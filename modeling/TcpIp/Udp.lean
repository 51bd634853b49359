import TcpIp.Transport

/-!
# `udp.rs`: UDP datagrams

* `parseUdpDatagram`, `validateUdpChecksum`, `serialiseUdpDatagram` — the functions of the source;
* `parseUdpDatagram_eq` — the parser is the chain of its checks in front of `view`;
* `encode` — the bytes of a datagram, with a checksum that is never zero: what the writer puts into a buffer with
  room (`serialiseUdpDatagram_eq`), what the parser reads back and the validation accepts.
-/

namespace TcpIp.Udp

open TcpIp.Lib TcpIp.Checksum TcpIp.Transport

def udpHeaderLen : ℕ := 8

def ipv4UdpProtocolNumber : UInt8 := 17

structure UdpDatagram where
  sourcePort : UInt16
  destinationPort : UInt16
  length : UInt16
  checksum : UInt16
  payload : Bytes
  deriving DecidableEq, Repr

inductive UdpParseError where
  | datagramTooShort (actual minimum : ℕ)
  | invalidLength (declared minimum : ℕ)
  | truncatedDatagram (actual declared : ℕ)
  | invalidChecksum
  deriving DecidableEq, Repr

inductive UdpSerialiseError where
  | bufferTooSmall (actual required : ℕ)
  | datagramTooLong (actual maximum : ℕ)
  deriving DecidableEq, Repr

def calculateUdpChecksum {ε : Type} (sourceIp destinationIp : Ipv4Addr) (length : UInt16) (datagramBytes : Bytes) :
    Outcome ε UInt16 :=
  calculateChecksum ipv4UdpProtocolNumber sourceIp destinationIp length datagramBytes

def parseUdpDatagram (data : Bytes) : Outcome UdpParseError UdpDatagram :=
  if data.length < udpHeaderLen then .err (.datagramTooShort data.length udpHeaderLen)
  else do
    let sourcePort := u16FromBeBytes (← index data 0) (← index data 1)
    let destinationPort := u16FromBeBytes (← index data 2) (← index data 3)
    let length := u16FromBeBytes (← index data 4) (← index data 5)
    let checksum := u16FromBeBytes (← index data 6) (← index data 7)
    let declared := length.toNat
    if declared < udpHeaderLen then .err (.invalidLength declared udpHeaderLen)
    else if declared > data.length then .err (.truncatedDatagram data.length declared)
    else do
      let payload ← slice data udpHeaderLen declared
      return { sourcePort, destinationPort, length, checksum, payload }

def validateUdpChecksum (sourceIp destinationIp : Ipv4Addr) (data : Bytes) : Outcome UdpParseError Unit := do
  let datagram ← parseUdpDatagram data
  if datagram.checksum = 0 then return ()
  else do
    let datagramLength := datagram.length.toNat
    let datagramBytes ← sliceTo data datagramLength
    if (← calculateUdpChecksum sourceIp destinationIp datagram.length datagramBytes) = 0 then return ()
    else .err .invalidChecksum

def serialiseUdpDatagram (sourceIp destinationIp : Ipv4Addr) (sourcePort destinationPort : UInt16)
    (payload : Bytes) : Exec Bytes UdpSerialiseError ℕ := do
  let required ← Exec.lift (addUsize udpHeaderLen payload.length)
  if required > 65535 then Exec.fail (.datagramTooLong required 65535)
  else do
    if (← Exec.get).length < required then Exec.fail (.bufferTooSmall (← Exec.get).length required)
    else do
      let length := UInt16.ofNat required
      copyFromSlice 0 2 (u16ToBeBytes sourcePort)
      copyFromSlice 2 4 (u16ToBeBytes destinationPort)
      copyFromSlice 4 6 (u16ToBeBytes length)
      fill 6 8 0
      copyFromSlice udpHeaderLen required payload
      let written ← Exec.lift (sliceTo (← Exec.get) required)
      let calculated ← Exec.lift (calculateUdpChecksum sourceIp destinationIp length written)
      let transmitted := if calculated = 0 then 65535 else calculated
      copyFromSlice 6 8 (u16ToBeBytes transmitted)
      return required

/-! ### What the parser accepts -/

section View

variable (data : Bytes)

/-- The datagram at the start of `data`. -/
def view : UdpDatagram where
  sourcePort := u16FromBeBytes (byteAt data 0) (byteAt data 1)
  destinationPort := u16FromBeBytes (byteAt data 2) (byteAt data 3)
  length := u16FromBeBytes (byteAt data 4) (byteAt data 5)
  checksum := u16FromBeBytes (byteAt data 6) (byteAt data 7)
  payload := (data.take (u16FromBeBytes (byteAt data 4) (byteAt data 5)).toNat).drop udpHeaderLen

/-- **The parser is its checks, one after the other, in front of `view`.** -/
theorem parseUdpDatagram_eq : parseUdpDatagram data =
    if data.length < udpHeaderLen then .err (.datagramTooShort data.length udpHeaderLen)
    else if (view data).length.toNat < udpHeaderLen then
      .err (.invalidLength (view data).length.toNat udpHeaderLen)
    else if (view data).length.toNat > data.length then
      .err (.truncatedDatagram data.length (view data).length.toNat)
    else .ok (view data) := by
  unfold parseUdpDatagram
  apply Outcome.check_congr
  intro hlen
  have hlong : 8 ≤ data.length := Nat.le_of_not_lt hlen
  have hindex : ∀ i < 8, (index data i : Outcome UdpParseError UInt8) = .ok (byteAt data i) :=
    fun i hi => index_of_lt (by omega)
  have hlength : u16FromBeBytes (byteAt data 4) (byteAt data 5) = (view data).length := rfl
  simp only [hindex, Nat.reduceLT, Outcome.ok_bind, hlength]
  apply Outcome.check_congr
  intro hmin
  apply Outcome.check_congr
  intro hmax
  rw [slice_of_le (by omega) (by omega)]
  rfl

lemma parseUdpDatagram_panics : (parseUdpDatagram data).panics = false := by
  rw [parseUdpDatagram_eq]
  repeat apply Outcome.check_panics
  rfl

variable {data} {datagram : UdpDatagram}

/-- **What the parser accepts.** -/
theorem parseUdpDatagram_ok_iff : parseUdpDatagram data = .ok datagram ↔
    (udpHeaderLen ≤ (view data).length.toNat ∧ (view data).length.toNat ≤ data.length) ∧ view data = datagram := by
  rw [parseUdpDatagram_eq]
  simp only [Outcome.check_eq_ok, Nat.not_lt, Outcome.ok.injEq]
  constructor
  · rintro ⟨-, hmin, hmax, hview⟩
    exact ⟨⟨hmin, hmax⟩, hview⟩
  · rintro ⟨⟨hmin, hmax⟩, hview⟩
    exact ⟨hmin.trans hmax, hmin, hmax, hview⟩

lemma payload_length (h : parseUdpDatagram data = .ok datagram) :
    udpHeaderLen + datagram.payload.length = datagram.length.toNat := by
  obtain ⟨⟨hmin, hmax⟩, rfl⟩ := parseUdpDatagram_ok_iff.1 h
  have hpayload : (view data).payload.length = min (view data).length.toNat data.length - udpHeaderLen := by
    simp [view]
  omega

lemma payload_length_le (h : parseUdpDatagram data = .ok datagram) :
    udpHeaderLen + datagram.payload.length ≤ data.length := by
  have hlength := payload_length h
  obtain ⟨⟨-, hmax⟩, rfl⟩ := parseUdpDatagram_ok_iff.1 h
  omega

lemma validateUdpChecksum_of_parse (h : parseUdpDatagram data = .ok datagram) (sourceIp destinationIp : Ipv4Addr) :
    validateUdpChecksum sourceIp destinationIp data =
      if datagram.checksum = 0 ∨ transportChecksum ipv4UdpProtocolNumber sourceIp destinationIp datagram.length
        (data.take datagram.length.toNat) = 0 then .ok () else .err .invalidChecksum := by
  obtain ⟨⟨hmin, hmax⟩, rfl⟩ := parseUdpDatagram_ok_iff.1 h
  have hlt := (view data).length.toNat_lt
  have hcalc : ∀ bytes : Bytes, bytes.length ≤ 65535 →
      (calculateUdpChecksum sourceIp destinationIp (view data).length bytes : Outcome UdpParseError UInt16) =
        .ok (transportChecksum ipv4UdpProtocolNumber sourceIp destinationIp (view data).length bytes) :=
    fun bytes hbytes => calculateChecksum_eq (by rw [usizeMax]; omega)
  unfold validateUdpChecksum
  rw [h, Outcome.ok_bind]
  by_cases hzero : (view data).checksum = 0
  · rw [if_pos hzero, if_pos (Or.inl hzero)]
    rfl
  · rw [if_neg hzero]
    dsimp only
    rw [sliceTo_of_le hmax, Outcome.ok_bind, hcalc _ (by rw [List.length_take]; omega), Outcome.ok_bind]
    by_cases hsum : transportChecksum ipv4UdpProtocolNumber sourceIp destinationIp (view data).length
        (data.take (view data).length.toNat) = 0
    · rw [if_pos hsum, if_pos (Or.inr hsum)]
      rfl
    · rw [if_neg hsum, if_neg (not_or.2 ⟨hzero, hsum⟩)]

lemma validateUdpChecksum_panics (sourceIp destinationIp : Ipv4Addr) (data : Bytes) :
    (validateUdpChecksum sourceIp destinationIp data).panics = false := by
  rcases Outcome.ok_or_err (parseUdpDatagram_panics data) with ⟨datagram, h⟩ | ⟨e, h⟩
  · rw [validateUdpChecksum_of_parse h]
    split_ifs <;> rfl
  · rw [validateUdpChecksum, h]
    rfl

end View

/-! ### The bytes of a datagram -/

section Encode

variable (sourceIp destinationIp : Ipv4Addr) (sourcePort destinationPort : UInt16) (payload : Bytes)

/-- The bytes in front of the checksum. -/
def headerTop : Bytes :=
  u16ToBeBytes sourcePort ++ u16ToBeBytes destinationPort ++ u16ToBeBytes (UInt16.ofNat (udpHeaderLen + payload.length))

/-- The datagram with `c` in the checksum field. -/
def withChecksum (c : UInt16) : Bytes := headerTop sourcePort destinationPort payload ++ u16ToBeBytes c ++ payload

/-- The checksum of the datagram: a computed zero is sent as all ones. -/
def transmittedChecksum : UInt16 :=
  let calculated := transportChecksum ipv4UdpProtocolNumber sourceIp destinationIp
    (UInt16.ofNat (udpHeaderLen + payload.length)) (withChecksum sourcePort destinationPort payload 0)
  if calculated = 0 then 65535 else calculated

/-- The bytes of a datagram. -/
def encode : Bytes := withChecksum sourcePort destinationPort payload
  (transmittedChecksum sourceIp destinationIp sourcePort destinationPort payload)

lemma headerTop_length : (headerTop sourcePort destinationPort payload).length = 6 := rfl

lemma withChecksum_length (c : UInt16) :
    (withChecksum sourcePort destinationPort payload c).length = udpHeaderLen + payload.length := by
  rw [withChecksum, List.length_append, List.length_append, headerTop_length, u16ToBeBytes_length, udpHeaderLen]

lemma encode_length : (encode sourceIp destinationIp sourcePort destinationPort payload).length =
    udpHeaderLen + payload.length := withChecksum_length ..

lemma transmittedChecksum_ne_zero :
    transmittedChecksum sourceIp destinationIp sourcePort destinationPort payload ≠ 0 := by
  unfold transmittedChecksum
  dsimp only
  split_ifs with h
  · decide
  · exact h

variable {payload}

/-- **What the writer does to a buffer.** -/
theorem serialiseUdpDatagram_eq (h : udpHeaderLen + payload.length ≤ 65535) (output : Bytes) :
    (serialiseUdpDatagram sourceIp destinationIp sourcePort destinationPort payload).run output =
      if output.length < udpHeaderLen + payload.length then
        (.err (.bufferTooSmall output.length (udpHeaderLen + payload.length)), output)
      else (.ok (udpHeaderLen + payload.length), encode sourceIp destinationIp sourcePort destinationPort payload ++
        output.drop (udpHeaderLen + payload.length)) := by
  have hmax : usizeMax = 18446744073709551615 := rfl
  have hheader : udpHeaderLen = 8 := rfl
  have hcalc : ∀ (length : UInt16) (bytes : Bytes), bytes.length = udpHeaderLen + payload.length →
      (calculateUdpChecksum sourceIp destinationIp length bytes : Outcome UdpSerialiseError UInt16) =
        .ok (transportChecksum ipv4UdpProtocolNumber sourceIp destinationIp length bytes) :=
    fun length bytes hbytes => calculateChecksum_eq (by omega)
  unfold serialiseUdpDatagram
  rw [addUsize_of_le (by omega), Exec.lift_ok_bind, if_neg (by omega), Exec.get_bind]
  split_ifs with hlen
  · rfl
  · conv_lhs => rw [← List.nil_append output]
    dsimp only
    rw [copyFromSlice_bind, copyFromSlice_bind, copyFromSlice_bind, fill_bind, copyFromSlice_bind]
    · refine (congrArg _ (?_ : _ = withChecksum sourcePort destinationPort payload 0 ++
        output.drop (udpHeaderLen + payload.length))).trans ?_
      · simp [withChecksum, headerTop, hheader]
      rw [Exec.get_bind, sliceTo_append (withChecksum_length _ _ _ 0), Exec.lift_ok_bind,
        hcalc _ _ (withChecksum_length _ _ _ 0), Exec.lift_ok_bind]
      show (copyFromSlice 6 8 (u16ToBeBytes (transmittedChecksum sourceIp destinationIp sourcePort destinationPort
        payload)) >>= _).run _ = _
      rw [withChecksum, List.append_assoc (headerTop _ _ _ ++ _), copyFromSlice_patch, ← List.append_assoc,
        ← withChecksum, ← encode, Exec.pure_run]
      · exact headerTop_length ..
      · rw [u16ToBeBytes_length]
      · rw [u16ToBeBytes_length, u16ToBeBytes_length]
    all_goals try simp
    all_goals omega

/-- **The writer** puts a datagram of admissible length into every buffer with room, and refuses another one at once. -/
theorem writes (payload : Bytes) : Writes
    (serialiseUdpDatagram sourceIp destinationIp sourcePort destinationPort payload) .bufferTooSmall
    (udpHeaderLen + payload.length ≤ 65535)
    (encode sourceIp destinationIp sourcePort destinationPort payload) where
  accepts := by
    intro h output
    rw [encode_length]
    exact serialiseUdpDatagram_eq sourceIp destinationIp sourcePort destinationPort h output
  refuses := by
    intro hno
    unfold serialiseUdpDatagram
    by_cases hfits : udpHeaderLen + payload.length ≤ usizeMax
    · refine ⟨.err (.datagramTooLong (udpHeaderLen + payload.length) 65535), nofun, nofun, fun output => ?_⟩
      rw [addUsize_of_le hfits, Exec.lift_ok_bind, if_pos (Nat.lt_of_not_le hno)]
      rfl
    · refine ⟨.panic .addOverflow, nofun, nofun, fun output => ?_⟩
      unfold addUsize
      rw [if_neg hfits]
      rfl

/-! ### The parser reads back what the writer wrote -/

lemma view_withChecksum (h : udpHeaderLen + payload.length ≤ 65535) (c : UInt16) (trailing : Bytes) :
    view (withChecksum sourcePort destinationPort payload c ++ trailing) = {
      sourcePort, destinationPort
      length := UInt16.ofNat (udpHeaderLen + payload.length)
      checksum := c
      payload } := by
  let bytes := withChecksum sourcePort destinationPort payload c ++ trailing
  have hlength : u16FromBeBytes (byteAt bytes 4) (byteAt bytes 5) = UInt16.ofNat (udpHeaderLen + payload.length) :=
    u16FromBeBytes_toBeBytes _
  have hchecksum : u16FromBeBytes (byteAt bytes 6) (byteAt bytes 7) = c := u16FromBeBytes_toBeBytes _
  have hsource : u16FromBeBytes (byteAt bytes 0) (byteAt bytes 1) = sourcePort := u16FromBeBytes_toBeBytes sourcePort
  have hdestination : u16FromBeBytes (byteAt bytes 2) (byteAt bytes 3) = destinationPort :=
    u16FromBeBytes_toBeBytes destinationPort
  unfold view
  rw [hsource, hdestination, hlength, hchecksum, UInt16.toNat_ofNat', Nat.mod_eq_of_lt (by omega),
    List.take_left' (withChecksum_length sourcePort destinationPort payload c)]
  rfl

lemma parseUdpDatagram_withChecksum (h : udpHeaderLen + payload.length ≤ 65535) (c : UInt16) (trailing : Bytes) :
    parseUdpDatagram (withChecksum sourcePort destinationPort payload c ++ trailing) = .ok {
      sourcePort, destinationPort
      length := UInt16.ofNat (udpHeaderLen + payload.length)
      checksum := c
      payload } := by
  have hview := view_withChecksum sourcePort destinationPort h c trailing
  have hlen := withChecksum_length sourcePort destinationPort payload c
  rw [parseUdpDatagram_ok_iff, hview, UInt16.toNat_ofNat', Nat.mod_eq_of_lt (by omega), List.length_append]
  exact ⟨⟨by omega, by omega⟩, rfl⟩

/-- **The parser undoes the encoding.** -/
theorem parseUdpDatagram_encode (h : udpHeaderLen + payload.length ≤ 65535) :
    parseUdpDatagram (encode sourceIp destinationIp sourcePort destinationPort payload) = .ok {
      sourcePort, destinationPort
      length := UInt16.ofNat (udpHeaderLen + payload.length)
      checksum := transmittedChecksum sourceIp destinationIp sourcePort destinationPort payload
      payload } := by
  have hparse := parseUdpDatagram_withChecksum sourcePort destinationPort h
    (transmittedChecksum sourceIp destinationIp sourcePort destinationPort payload) []
  rwa [List.append_nil] at hparse

/-- **What the validation accepts in the place of the checksum**: nothing, or the checksum that is sent. -/
theorem validateUdpChecksum_withChecksum_iff (h : udpHeaderLen + payload.length ≤ 65535) (c : UInt16)
    (trailing : Bytes) : validateUdpChecksum sourceIp destinationIp
      (withChecksum sourcePort destinationPort payload c ++ trailing) = .ok () ↔
        c = 0 ∨ c = transmittedChecksum sourceIp destinationIp sourcePort destinationPort payload := by
  have heven : (headerTop sourcePort destinationPort payload).length % 2 = 0 := by rw [headerTop_length]
  have hstored := @transportChecksum_stored_iff ipv4UdpProtocolNumber sourceIp destinationIp
    (UInt16.ofNat (udpHeaderLen + payload.length)) _ heven payload c
  rw [validateUdpChecksum_of_parse (parseUdpDatagram_withChecksum sourcePort destinationPort h c trailing),
    UInt16.toNat_ofNat', Nat.mod_eq_of_lt (by omega),
    List.take_left' (withChecksum_length sourcePort destinationPort payload c)]
  have hsum : c = 0 ∨ transportChecksum ipv4UdpProtocolNumber sourceIp destinationIp
      (UInt16.ofNat (udpHeaderLen + payload.length)) (withChecksum sourcePort destinationPort payload c) = 0 ↔
        c = 0 ∨ c = transmittedChecksum sourceIp destinationIp sourcePort destinationPort payload := by
    refine or_congr_right' fun hc => hstored.trans ?_
    unfold transmittedChecksum withChecksum
    dsimp only
    split_ifs with hzero
    · rw [hzero]
      exact ⟨fun h => (h.resolve_left hc).2, fun h => Or.inr ⟨rfl, h⟩⟩
    · exact ⟨fun h => h.resolve_right fun hones => hzero hones.1, Or.inl⟩
  rw [← hsum]
  split_ifs with hok
  · exact iff_of_true rfl hok
  · exact iff_of_false (fun hok => nomatch hok) hok

/-- **The validation accepts the encoding.** -/
theorem validateUdpChecksum_encode (h : udpHeaderLen + payload.length ≤ 65535) :
    validateUdpChecksum sourceIp destinationIp
      (encode sourceIp destinationIp sourcePort destinationPort payload) = .ok () := by
  have hvalid := (validateUdpChecksum_withChecksum_iff sourceIp destinationIp sourcePort destinationPort h
    (transmittedChecksum sourceIp destinationIp sourcePort destinationPort payload) []).2 (Or.inr rfl)
  rwa [List.append_nil] at hvalid

end Encode

end TcpIp.Udp
