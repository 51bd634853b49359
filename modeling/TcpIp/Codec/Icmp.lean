import TcpIp.Icmp

/-!
# The format of ICMP messages

* `withChecksum_view` — a message that the parser accepts is made of the fields that the parser finds, with some word in
  the place of the checksum;
* `message_round_trips` — what is written is parsed back, and what was parsed is written back, up to the zero in the
  place of the checksum.
-/

namespace TcpIp.Icmp

open TcpIp.Lib TcpIp.Checksum

namespace IcmpMessage

lemma withChecksum_eq (message : IcmpMessage) (c : UInt16) :
    message.withChecksum c = [message.messageType, message.code] ++ u16ToBeBytes c ++ message.body := rfl

lemma body_echoView {data : Bytes} (h : 8 ≤ data.length) :
    u16ToBeBytes (echoView data).identifier ++ u16ToBeBytes (echoView data).sequenceNumber ++ (echoView data).payload =
      data.drop 4 := by
  have hidentifier : u16ToBeBytes (echoView data).identifier = [byteAt data 4, byteAt data 5] :=
    u16ToBeBytes_fromBeBytes _ _
  have hsequence : u16ToBeBytes (echoView data).sequenceNumber = [byteAt data 6, byteAt data 7] :=
    u16ToBeBytes_fromBeBytes _ _
  have hfields : (data.drop 4).take 4 = [byteAt data 4, byteAt data 5, byteAt data 6, byteAt data 7] := by
    have htake : data.take 8 = (List.range 8).map (byteAt data) := take_eq_map_byteAt h
    rw [List.take_drop, htake]
    rfl
  have hcut := List.take_append_drop 4 (data.drop 4)
  rw [hfields, List.drop_drop] at hcut
  rw [hidentifier, hsequence]
  exact hcut

end IcmpMessage

section Parsed

variable {data : Bytes} {message : IcmpMessage} (h : parseIcmpMessage data = .ok message)
include h

/-- **A message that the parser accepts is a message of the writer**, with some word for the checksum. -/
theorem withChecksum_view : message.withChecksum (wordAt data 2) = data := by
  obtain ⟨hlong, hecho, -, rfl⟩ := of_parse h
  have hfields : (view data).messageType = byteAt data 0 ∧ (view data).code = byteAt data 1 ∧
      (view data).body = data.drop 4 := by
    unfold view
    split_ifs with hrequest hreply
    · obtain ⟨hcode, height⟩ := hecho (by rw [hrequest]; rfl)
      exact ⟨hrequest.symm, hcode.symm, IcmpMessage.body_echoView height⟩
    · obtain ⟨hcode, height⟩ := hecho (by rw [hreply]; rfl)
      exact ⟨hreply.symm, hcode.symm, IcmpMessage.body_echoView height⟩
    · exact ⟨rfl, rfl, rfl⟩
  obtain ⟨htype, hcode, hbody⟩ := hfields
  have hstart : data.take 4 = [byteAt data 0, byteAt data 1] ++ u16ToBeBytes (wordAt data 2) := by
    rw [take_eq_map_byteAt hlong, wordAt, u16ToBeBytes_fromBeBytes]
    rfl
  rw [IcmpMessage.withChecksum, htype, hcode, hbody, ← hstart]
  exact List.take_append_drop 4 data

lemma upToZero_encode : UpToZero 2 message.encode data := by
  obtain ⟨-, -, hchecksum, -⟩ := of_parse h
  have hdata := withChecksum_view h
  generalize wordAt data 2 = c at hdata
  subst hdata
  have hhead : [message.messageType, message.code].length = 2 := rfl
  rw [IcmpMessage.withChecksum_eq, internetChecksum_stored_iff (by rw [hhead])] at hchecksum
  exact (upToZero_mid_iff hhead _ _ _).2 hchecksum

end Parsed

/-- **What is written is parsed back**, of all messages but unknown ones with the type of an Echo message; **and what
was parsed is written back**, up to the zero in the place of the checksum.  No buffer is longer than `usizeMax`. -/
theorem message_round_trips :
    (∀ message : IcmpMessage, (∀ messageType code body, message = .unknown messageType code body →
        messageType ≠ 0 ∧ messageType ≠ 8) →
      ∀ output : Bytes, 4 + message.body.length ≤ output.length → output.length ≤ usizeMax →
        ∃ n written, message.writeTo.run output = (.ok n, written) ∧
          parseIcmpMessage (written.take n) = .ok message) ∧
    ∀ data message, parseIcmpMessage data = .ok message →
      ∀ output : Bytes, data.length ≤ output.length → output.length ≤ usizeMax →
        ∃ written, message.writeTo.run output = (.ok data.length, written) ∧
          UpToZero 2 (written.take data.length) data := by
  refine ⟨?_, ?_⟩
  · intro message hknown output hroom hmachine
    have hcanonical : message.Canonical := by
      cases message with
      | echoRequest m => trivial
      | echoReply m => trivial
      | unknown messageType code body =>
        obtain ⟨hreply, hrequest⟩ := hknown messageType code body rfl
        show isEcho messageType = false
        simp [isEcho, echoReplyType, echoRequestType, hreply, hrequest]
    have hlength : message.encode.length = 4 + message.body.length := message.withChecksum_length _
    obtain ⟨written, hrun, hwritten⟩ :=
      message.writes.written_of_le (hroom.trans hmachine) (hlength.trans_le hroom)
    refine ⟨_, written, hrun, ?_⟩
    rw [hwritten]
    exact IcmpMessage.parseIcmpMessage_encode hcanonical
  · intro data message hparse output hroom hmachine
    have hlength : message.encode.length = data.length :=
      (message.withChecksum_length _).trans (IcmpMessage.length_of_parse hparse)
    have hchecked : 4 + message.body.length ≤ usizeMax := by
      rw [IcmpMessage.length_of_parse hparse]
      exact hroom.trans hmachine
    rw [← hlength] at hroom ⊢
    obtain ⟨written, hrun, hwritten⟩ := message.writes.written_of_le hchecked hroom
    refine ⟨written, hrun, ?_⟩
    rw [hwritten]
    exact upToZero_encode hparse

end TcpIp.Icmp
