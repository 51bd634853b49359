import TcpIp.Ethernet
import TcpIp.Checksum

/-!
# `icmp.rs`: ICMP messages

* `parseIcmpMessage`, `IcmpMessage.writeTo`, `buildEchoReply` — the functions of the source;
* `parseIcmpMessage_eq` — the parser is the chain of its checks in front of `view`;
* `IcmpMessage.encode` — the bytes of a message, with the checksum in place: what the writer puts into a buffer
  with room (`IcmpMessage.writeTo_eq`), and what the parser reads back (`parseIcmpMessage_encode`).
-/

namespace TcpIp.Icmp

open TcpIp.Lib TcpIp.Checksum

def icmpHeaderLen : ℕ := 4

def icmpEchoHeaderLen : ℕ := 8

def echoReplyType : UInt8 := 0

def echoRequestType : UInt8 := 8

structure IcmpEchoMessage where
  identifier : UInt16
  sequenceNumber : UInt16
  payload : Bytes
  deriving DecidableEq, Repr

inductive IcmpMessage where
  | echoRequest (message : IcmpEchoMessage)
  | echoReply (message : IcmpEchoMessage)
  | unknown (messageType code : UInt8) (body : Bytes)
  deriving DecidableEq, Repr

inductive IcmpParseError where
  | messageTooShort (actual minimum : ℕ)
  | echoMessageTooShort (actual minimum : ℕ)
  | invalidEchoCode (messageType code : UInt8)
  | invalidChecksum
  deriving DecidableEq, Repr

/-- `matches!(message_type, ECHO_REPLY_TYPE | ECHO_REQUEST_TYPE)`. -/
def isEcho (messageType : UInt8) : Bool := messageType == echoReplyType || messageType == echoRequestType

def parseIcmpMessage (data : Bytes) : Outcome IcmpParseError IcmpMessage :=
  if data.length < icmpHeaderLen then .err (.messageTooShort data.length icmpHeaderLen)
  else do
    let messageType ← index data 0
    let code ← index data 1
    if isEcho messageType ∧ code ≠ 0 then .err (.invalidEchoCode messageType code)
    else if isEcho messageType ∧ data.length < icmpEchoHeaderLen then
      .err (.echoMessageTooShort data.length icmpEchoHeaderLen)
    else do
      if (← checksum data) ≠ 0 then .err .invalidChecksum
      else if messageType = echoRequestType then
        return .echoRequest {
          identifier := u16FromBeBytes (← index data 4) (← index data 5)
          sequenceNumber := u16FromBeBytes (← index data 6) (← index data 7)
          payload := ← sliceFrom data icmpEchoHeaderLen }
      else if messageType = echoReplyType then
        return .echoReply {
          identifier := u16FromBeBytes (← index data 4) (← index data 5)
          sequenceNumber := u16FromBeBytes (← index data 6) (← index data 7)
          payload := ← sliceFrom data icmpEchoHeaderLen }
      else return .unknown messageType code (← sliceFrom data icmpHeaderLen)

def buildEchoReply : IcmpMessage → Option IcmpMessage
  | .echoRequest message => some (.echoReply message)
  | .echoReply _ => none
  | .unknown _ _ _ => none

/-! ### What the parser accepts -/

section View

variable (data : Bytes)

def echoView : IcmpEchoMessage where
  identifier := u16FromBeBytes (byteAt data 4) (byteAt data 5)
  sequenceNumber := u16FromBeBytes (byteAt data 6) (byteAt data 7)
  payload := data.drop icmpEchoHeaderLen

/-- The message in `data`. -/
def view : IcmpMessage :=
  if byteAt data 0 = echoRequestType then .echoRequest (echoView data)
  else if byteAt data 0 = echoReplyType then .echoReply (echoView data)
  else .unknown (byteAt data 0) (byteAt data 1) (data.drop icmpHeaderLen)

/-- **The parser is its checks, one after the other, in front of `view`.** -/
theorem parseIcmpMessage_eq : parseIcmpMessage data =
    if data.length < icmpHeaderLen then .err (.messageTooShort data.length icmpHeaderLen)
    else if isEcho (byteAt data 0) ∧ byteAt data 1 ≠ 0 then
      .err (.invalidEchoCode (byteAt data 0) (byteAt data 1))
    else if isEcho (byteAt data 0) ∧ data.length < icmpEchoHeaderLen then
      .err (.echoMessageTooShort data.length icmpEchoHeaderLen)
    else if internetChecksum data ≠ 0 then .err .invalidChecksum
    else .ok (view data) := by
  unfold parseIcmpMessage
  apply Outcome.check_congr
  intro hlen
  have hlong : 4 ≤ data.length := Nat.le_of_not_lt hlen
  rw [index_of_lt (by omega), Outcome.ok_bind, index_of_lt (by omega), Outcome.ok_bind]
  apply Outcome.check_congr
  intro _
  apply Outcome.check_congr
  intro hecho
  rw [checksum_eq, Outcome.ok_bind]
  apply Outcome.check_congr
  intro _
  -- an Echo message has its eight bytes
  have hindex : isEcho (byteAt data 0) = true → 8 ≤ data.length ∧ ∀ i < 8,
      (index data i : Outcome IcmpParseError UInt8) = .ok (byteAt data i) := by
    intro he
    have h8 : 8 ≤ data.length := Nat.le_of_not_lt fun h => hecho ⟨he, h⟩
    exact ⟨h8, fun i hi => index_of_lt (by omega)⟩
  unfold view
  split_ifs with hrequest hreply
  · obtain ⟨h8, hi⟩ := hindex (by rw [hrequest]; rfl)
    simp only [hi, Nat.reduceLT, Outcome.ok_bind]
    rw [sliceFrom_of_le (by rw [icmpEchoHeaderLen]; omega)]
    rfl
  · obtain ⟨h8, hi⟩ := hindex (by rw [hreply]; rfl)
    simp only [hi, Nat.reduceLT, Outcome.ok_bind]
    rw [sliceFrom_of_le (by rw [icmpEchoHeaderLen]; omega)]
    rfl
  · rw [sliceFrom_of_le (by rw [icmpHeaderLen]; omega)]
    rfl

lemma parseIcmpMessage_panics : (parseIcmpMessage data).panics = false := by
  rw [parseIcmpMessage_eq]
  repeat apply Outcome.check_panics
  rfl

lemma of_parse {data : Bytes} {message : IcmpMessage} (h : parseIcmpMessage data = .ok message) :
    4 ≤ data.length ∧ (isEcho (byteAt data 0) → byteAt data 1 = 0 ∧ 8 ≤ data.length) ∧
      internetChecksum data = 0 ∧ message = view data := by
  rw [parseIcmpMessage_eq] at h
  simp only [Outcome.check_eq_ok, ne_eq, not_not, Nat.not_lt, Outcome.ok.injEq] at h
  obtain ⟨hlong, hcode, hecho, hchecksum, rfl⟩ := h
  refine ⟨hlong, ?_, hchecksum, rfl⟩
  intro he
  refine ⟨?_, ?_⟩
  · exact not_not.1 fun hne => hcode ⟨he, hne⟩
  · exact Nat.le_of_not_lt fun hlt => hecho ⟨he, hlt⟩

end View

/-! ### The writer -/

namespace IcmpMessage

/-- The second `match self` of `write_to`. -/
def writeBody (message : IcmpMessage) (required : ℕ) : Exec Bytes SerialiseError Unit :=
  match message with
  | .echoRequest message => do
    setIndex 0 echoRequestType
    setIndex 1 0
    copyFromSlice 4 6 (u16ToBeBytes message.identifier)
    copyFromSlice 6 8 (u16ToBeBytes message.sequenceNumber)
    copyFromSlice icmpEchoHeaderLen required message.payload
  | .echoReply message => do
    setIndex 0 echoReplyType
    setIndex 1 0
    copyFromSlice 4 6 (u16ToBeBytes message.identifier)
    copyFromSlice 6 8 (u16ToBeBytes message.sequenceNumber)
    copyFromSlice icmpEchoHeaderLen required message.payload
  | .unknown messageType code body => do
    setIndex 0 messageType
    setIndex 1 code
    copyFromSlice icmpHeaderLen required body

/-- The first `match self` of `write_to`. -/
def required : IcmpMessage → Outcome SerialiseError ℕ
  | .echoRequest message => addUsize icmpEchoHeaderLen message.payload.length
  | .echoReply message => addUsize icmpEchoHeaderLen message.payload.length
  | .unknown _ _ body => addUsize icmpHeaderLen body.length

def writeTo (message : IcmpMessage) : Exec Bytes SerialiseError ℕ := do
  let required ← Exec.lift message.required
  if (← Exec.get).length < required then
    Exec.fail (.bufferTooSmall (← Exec.get).length required)
  else do
    writeBody message required
    fill 2 4 0
    let written ← Exec.lift (sliceTo (← Exec.get) required)
    let checksumValue ← Exec.lift (checksum written)
    copyFromSlice 2 4 (u16ToBeBytes checksumValue)
    return required

def messageType : IcmpMessage → UInt8
  | .echoRequest _ => echoRequestType
  | .echoReply _ => echoReplyType
  | .unknown messageType _ _ => messageType

def code : IcmpMessage → UInt8
  | .echoRequest _ => 0
  | .echoReply _ => 0
  | .unknown _ code _ => code

/-- The bytes behind the checksum. -/
def body : IcmpMessage → Bytes
  | .echoRequest message => u16ToBeBytes message.identifier ++ u16ToBeBytes message.sequenceNumber ++ message.payload
  | .echoReply message => u16ToBeBytes message.identifier ++ u16ToBeBytes message.sequenceNumber ++ message.payload
  | .unknown _ _ body => body

/-- The message with `c` in the checksum field. -/
def withChecksum (message : IcmpMessage) (c : UInt16) : Bytes :=
  [message.messageType, message.code] ++ u16ToBeBytes c ++ message.body

/-- The bytes of a message. -/
def encode (message : IcmpMessage) : Bytes :=
  message.withChecksum (internetChecksum (message.withChecksum 0))

lemma withChecksum_length (message : IcmpMessage) (c : UInt16) :
    (message.withChecksum c).length = 4 + message.body.length := by
  simp only [withChecksum, List.length_append, u16ToBeBytes_length, List.length_cons, List.length_nil]

lemma body_echo_length (message : IcmpEchoMessage) : (u16ToBeBytes message.identifier ++
    u16ToBeBytes message.sequenceNumber ++ message.payload).length = 4 + message.payload.length := by
  simp only [List.length_append, u16ToBeBytes_length]

lemma required_eq {message : IcmpMessage} (h : 4 + message.body.length ≤ usizeMax) :
    message.required = .ok (4 + message.body.length) := by
  cases message with
  | echoRequest m =>
    rw [body, body_echo_length] at h ⊢
    rw [required, addUsize_of_le (by rw [icmpEchoHeaderLen]; omega), icmpEchoHeaderLen]
    congr 1
    omega
  | echoReply m =>
    rw [body, body_echo_length] at h ⊢
    rw [required, addUsize_of_le (by rw [icmpEchoHeaderLen]; omega), icmpEchoHeaderLen]
    congr 1
    omega
  | unknown t c body => exact addUsize_of_le h

lemma required_of_gt {message : IcmpMessage} (h : usizeMax < 4 + message.body.length) :
    message.required = .panic .addOverflow := by
  cases message with
  | echoRequest m =>
    rw [body, body_echo_length] at h
    exact if_neg (by rw [icmpEchoHeaderLen]; omega)
  | echoReply m =>
    rw [body, body_echo_length] at h
    exact if_neg (by rw [icmpEchoHeaderLen]; omega)
  | unknown t c body => exact if_neg (Nat.not_le.2 h)

/-- An Echo message is written around the checksum field, which keeps its old bytes. -/
lemma writeEcho_run (t : UInt8) (message : IcmpEchoMessage) {required : ℕ}
    (hrequired : required = 8 + message.payload.length) (o0 o1 o2 o3 : UInt8) {out : Bytes}
    (hout : 4 + message.payload.length ≤ out.length) :
    (do
      setIndex 0 t
      setIndex 1 0
      copyFromSlice 4 6 (u16ToBeBytes message.identifier)
      copyFromSlice 6 8 (u16ToBeBytes message.sequenceNumber)
      copyFromSlice icmpEchoHeaderLen required message.payload : Exec Bytes SerialiseError Unit).run
        (o0 :: o1 :: o2 :: o3 :: out) =
      (.ok (), [t, 0, o2, o3] ++ (u16ToBeBytes message.identifier ++ u16ToBeBytes message.sequenceNumber ++
        message.payload) ++ out.drop (4 + message.payload.length)) := by
  rw [← List.nil_append (o0 :: _), setIndex_bind, setIndex_bind]
  · show (copyFromSlice 4 6 _ >>= _).run ([t, 0, o2, o3] ++ out) = _
    rw [copyFromSlice_bind, copyFromSlice_bind, copyFromSlice_run]
    · simp
    all_goals simp [icmpEchoHeaderLen, hrequired]
    all_goals omega
  all_goals simp

lemma writeBody_run (message : IcmpMessage) {required : ℕ} (hrequired : required = 4 + message.body.length)
    (o0 o1 o2 o3 : UInt8) {out : Bytes} (hout : message.body.length ≤ out.length) :
    (message.writeBody required).run (o0 :: o1 :: o2 :: o3 :: out) =
      (.ok (), [message.messageType, message.code, o2, o3] ++ message.body ++ out.drop message.body.length) := by
  cases message with
  | echoRequest m =>
    rw [body, body_echo_length] at hrequired hout
    rw [body, body_echo_length]
    exact writeEcho_run echoRequestType m (by omega) o0 o1 o2 o3 hout
  | echoReply m =>
    rw [body, body_echo_length] at hrequired hout
    rw [body, body_echo_length]
    exact writeEcho_run echoReplyType m (by omega) o0 o1 o2 o3 hout
  | unknown t c body =>
    unfold writeBody
    dsimp only
    rw [← List.nil_append (o0 :: _), setIndex_bind, setIndex_bind]
    · show (copyFromSlice icmpHeaderLen required body).run ([t, c, o2, o3] ++ out) = _
      exact copyFromSlice_run rfl hrequired hout
    all_goals simp

/-- **What the writer does to a buffer.** -/
theorem writeTo_eq {message : IcmpMessage} (h : 4 + message.body.length ≤ usizeMax) (output : Bytes) :
    message.writeTo.run output =
      if output.length < message.encode.length then
        (.err (.bufferTooSmall output.length message.encode.length), output)
      else (.ok message.encode.length, message.encode ++ output.drop message.encode.length) := by
  have hlength : message.encode.length = 4 + message.body.length := message.withChecksum_length _
  unfold writeTo
  rw [required_eq h, Exec.lift_ok_bind, Exec.get_bind, hlength]
  split_ifs with hlen
  · rfl
  · obtain ⟨o0, o1, o2, o3, out, rfl⟩ := exists_cons_four (by omega : 4 ≤ output.length)
    have hout : message.body.length ≤ out.length := by
      simp only [List.length_cons] at hlen
      omega
    rw [Exec.bind_of_ok (message.writeBody_run rfl o0 o1 o2 o3 hout)]
    show (fill 2 4 0 >>= _).run ([message.messageType, message.code] ++
      ([o2, o3] ++ (message.body ++ out.drop message.body.length))) = _
    rw [fill_bind]
    · show (Exec.get >>= _).run (message.withChecksum 0 ++ out.drop message.body.length) = _
      rw [Exec.get_bind, sliceTo_append (message.withChecksum_length 0), Exec.lift_ok_bind, checksum_eq,
        Exec.lift_ok_bind]
      generalize hc : internetChecksum (message.withChecksum 0) = c
      rw [withChecksum, List.append_assoc ([message.messageType, message.code] ++ _), copyFromSlice_patch,
        ← List.append_assoc, ← withChecksum, encode, hc]
      · simp [Nat.add_comm 4]
      all_goals rfl
    · rfl
    · omega
    · simp

/-- **The writer** puts a message into every buffer with room; it checks nothing but the addition of the lengths. -/
theorem writes (message : IcmpMessage) : Writes message.writeTo .bufferTooSmall
    (4 + message.body.length ≤ usizeMax) message.encode where
  accepts := writeTo_eq
  refuses := by
    intro hno
    refine ⟨.panic .addOverflow, nofun, nofun, fun output => ?_⟩
    unfold writeTo
    rw [required_of_gt (Nat.lt_of_not_le hno)]
    rfl

/-! ### The parser reads back what the writer wrote -/

lemma length_of_parse {data : Bytes} {message : IcmpMessage} (h : parseIcmpMessage data = .ok message) :
    4 + message.body.length = data.length := by
  obtain ⟨hlong, hecho, -, rfl⟩ := of_parse h
  unfold view
  split_ifs with hrequest hreply
  · have h8 := (hecho (by rw [hrequest]; rfl)).2
    rw [body, body_echo_length, echoView, List.length_drop, icmpEchoHeaderLen]
    omega
  · have h8 := (hecho (by rw [hreply]; rfl)).2
    rw [body, body_echo_length, echoView, List.length_drop, icmpEchoHeaderLen]
    omega
  · rw [body, List.length_drop, icmpHeaderLen]
    omega

/-- The type of an unknown message is not that of an Echo message. -/
def Canonical : IcmpMessage → Prop
  | .unknown messageType _ _ => isEcho messageType = false
  | _ => True

lemma echoView_echo (t code : UInt8) (c : UInt16) (message : IcmpEchoMessage) :
    echoView ([t, code] ++ u16ToBeBytes c ++ (u16ToBeBytes message.identifier ++
      u16ToBeBytes message.sequenceNumber ++ message.payload)) = message := by
  obtain ⟨identifier, sequenceNumber, payload⟩ := message
  unfold echoView
  congr 1
  · exact u16FromBeBytes_toBeBytes identifier
  · exact u16FromBeBytes_toBeBytes sequenceNumber

lemma view_encode {message : IcmpMessage} (h : message.Canonical) : view message.encode = message := by
  have htype : byteAt message.encode 0 = message.messageType := rfl
  unfold view
  rw [htype]
  cases message with
  | echoRequest m =>
    refine (if_pos rfl).trans ?_
    exact congrArg IcmpMessage.echoRequest (echoView_echo _ _ _ m)
  | echoReply m =>
    have hne : echoReplyType ≠ echoRequestType := by decide
    refine (if_neg hne).trans ((if_pos rfl).trans ?_)
    exact congrArg IcmpMessage.echoReply (echoView_echo _ _ _ m)
  | unknown t c body =>
    obtain ⟨hreply, hrequest⟩ : t ≠ echoReplyType ∧ t ≠ echoRequestType := by
      simpa [Canonical, isEcho] using h
    exact (if_neg hrequest).trans (if_neg hreply)

/-- **The parser undoes the encoding.** -/
theorem parseIcmpMessage_encode {message : IcmpMessage} (h : message.Canonical) :
    parseIcmpMessage message.encode = .ok message := by
  have hchecksum : internetChecksum message.encode = 0 := internetChecksum_stored (by simp) _
  have htype : byteAt message.encode 0 = message.messageType := rfl
  have hcode : byteAt message.encode 1 = message.code := rfl
  have hlength : message.encode.length = 4 + message.body.length := message.withChecksum_length _
  have hecho : isEcho message.messageType → message.code = 0 ∧ 4 ≤ message.body.length := by
    intro he
    cases message with
    | echoRequest m => exact ⟨rfl, by rw [body, body_echo_length]; omega⟩
    | echoReply m => exact ⟨rfl, by rw [body, body_echo_length]; omega⟩
    | unknown t c body => exact absurd (h.symm.trans he) (by decide)
  rw [parseIcmpMessage_eq, hlength, htype, hcode, if_neg (by rw [icmpHeaderLen]; omega),
    if_neg (fun ⟨he, hne⟩ => hne (hecho he).1),
    if_neg (fun ⟨he, hlt⟩ => absurd (hecho he).2 (by rw [icmpEchoHeaderLen] at hlt; omega)),
    if_neg (not_not_intro hchecksum), view_encode h]

lemma echoReply_encode_length {data : Bytes} {message : IcmpEchoMessage}
    (h : parseIcmpMessage data = .ok (.echoRequest message)) :
    (IcmpMessage.echoReply message).encode.length = data.length := by
  have hlength := length_of_parse h
  rw [encode, withChecksum_length]
  exact hlength

end IcmpMessage

end TcpIp.Icmp
