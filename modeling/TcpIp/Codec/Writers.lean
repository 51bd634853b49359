import TcpIp.Arp
import TcpIp.Icmp
import TcpIp.Ipv4
import TcpIp.Tcp
import TcpIp.Udp

/-!
# The six writers and their buffers

`writers_all_or_nothing` — every writer leaves a buffer alone or puts the bytes of its value at the front.  What it has
checked of the value is a condition on the value alone: that its fields fit the wire, or for the writers that check no
field that the length of its bytes is a length of the machine.
-/

namespace TcpIp

open TcpIp.Lib

/-- **No writer leaves a part of its work behind**, reads from the buffer what it did not write, or writes behind what
it returns. -/
theorem writers_all_or_nothing :
    (∀ frame : EthernetFrame, AllOrNothing frame.writeTo .bufferTooSmall
      (ethernetHeaderLen + frame.payload.length ≤ usizeMax) frame.encode) ∧
    (∀ packet : Arp.ArpPacket, AllOrNothing packet.writeTo .bufferTooSmall True packet.encode) ∧
    (∀ packet : Ipv4.Ipv4Packet, AllOrNothing packet.writeTo .bufferTooSmall packet.Encodable packet.encode) ∧
    (∀ message : Icmp.IcmpMessage, AllOrNothing message.writeTo .bufferTooSmall
      (4 + message.body.length ≤ usizeMax) message.encode) ∧
    (∀ sourceIp destinationIp sourcePort destinationPort payload,
      AllOrNothing (Udp.serialiseUdpDatagram sourceIp destinationIp sourcePort destinationPort payload) .bufferTooSmall
        (Udp.udpHeaderLen + payload.length ≤ 65535)
        (Udp.encode sourceIp destinationIp sourcePort destinationPort payload)) ∧
    ∀ (segment : Tcp.TcpSegmentToSend) (sourceIp destinationIp : Ipv4Addr),
      AllOrNothing (segment.writeTo sourceIp destinationIp) .bufferTooSmall segment.Encodable
        (segment.encode sourceIp destinationIp) := by
  refine ⟨?_, ?_, ?_, ?_, ?_, ?_⟩
  · intro frame
    exact frame.writes.allOrNothing
  · intro packet
    exact packet.writes.allOrNothing
  · intro packet
    exact packet.writes.allOrNothing
  · intro message
    exact message.writes.allOrNothing
  · intro sourceIp destinationIp sourcePort destinationPort payload
    exact (Udp.writes sourceIp destinationIp sourcePort destinationPort payload).allOrNothing
  · intro segment sourceIp destinationIp
    exact (segment.writes sourceIp destinationIp).allOrNothing

end TcpIp
