import TcpIp.Interface.WireTable

/-!
# The identifications of a run

Runs of an interface on frames and lookups in any order.

* `Response.ipv4Reply` — the frame that a call sends, if it carries an IPv4 packet;
* `step_identification` — such a frame carries the counter as its identification and moves it by one, and nothing else
  moves it;
* `identification_sequence` — the identifications of a run are consecutive.
-/

namespace TcpIp.Interface

open TcpIp.Lib TcpIp.Arp TcpIp.Arp.Cache TcpIp.Arp.Resolver TcpIp.Icmp TcpIp.Ipv4 TcpIp.Tcp TcpIp.Tcp.Listener
  TcpIp.Udp

/-- The frame of an IPv4 reply. -/
def Response.ipv4Reply : Response → Option EthernetFrame
  | .frame (.ok (some out)) =>
    match parseEthFrame out with
    | .ok sent => if sent.etherType = .ipv4 then some sent else none
    | .err _ | .panic _ => none
  | .frame (.ok none) | .frame (.err _) | .frame (.panic _) | .lookup _ => none

/-- The packet in the frame has the identification. -/
def Identified (identification : UInt16) (frame : EthernetFrame) : Prop :=
  ∃ packet, parseIpv4Packet frame.payload = .ok packet ∧ packet.identification = identification

namespace NetworkInterface

lemma ipv4Reply_of_frame {frame : EthernetFrame} (h : parseEthFrame frame.encode = .ok frame) :
    (Response.frame (.ok (some frame.encode))).ipv4Reply = if frame.etherType = .ipv4 then some frame else none := by
  rw [Response.ipv4Reply, h]

/-- **One call** uses up the identification that it sends, or none. -/
theorem step_identification (event : Event) (self : NetworkInterface) :
    ((step event self).1.ipv4Reply = none ∧
      (step event self).2.nextIpv4Identification = self.nextIpv4Identification) ∨
    ∃ frame, (step event self).1.ipv4Reply = some frame ∧ Identified self.nextIpv4Identification frame ∧
      (step event self).2.nextIpv4Identification = self.nextIpv4Identification + 1 := by
  cases event with
  | lookup ip now =>
    rw [step_lookup]
    exact Or.inl ⟨rfl, rfl⟩
  | frame input now =>
    rcases processFrameAt_parts self input now with ⟨e, -, hrun⟩ | ⟨delivery, -, hdelivers, hrun⟩
    · rw [step, hrun]
      exact Or.inl ⟨rfl, rfl⟩
    · rw [step, hrun]
      dsimp only
      cases hreply : self.replyTo delivery with
      | nothing =>
        refine Or.inl ⟨rfl, ?_⟩
        rw [changed, hreply]
        exact UInt16.add_zero _
      | arp reply =>
        refine Or.inl ⟨ipv4Reply_of_frame (parse_arpReplyFrame reply), ?_⟩
        rw [changed, hreply]
        exact UInt16.add_zero _
      | ipv4 ethernet request protocol payload =>
        obtain ⟨host, hnumber, hpayload⟩ := replyTo_ipv4 hdelivers hreply
        have hroom := hpayload.trans (Ipv4.payload_length_le host.packet)
        refine Or.inr ⟨self.replyFrame ethernet request protocol payload, ipv4Reply_of_frame parse_replyFrame,
          ⟨_, parse_replyPacket host.packet hnumber hroom, rfl⟩, ?_⟩
        rw [changed, hreply]
        rfl

/-- The IPv4 replies of a run. -/
def ipv4Replies (steps : List (Step NetworkInterface Event Response)) : List EthernetFrame :=
  steps.filterMap fun t => t.output.ipv4Reply

/-- **A run** uses up one identification after the other. -/
theorem run_identification (events : List Event) (self : NetworkInterface) :
    (run step self events).nextIpv4Identification =
      self.nextIpv4Identification + UInt16.ofNat (ipv4Replies (trace step self events)).length ∧
    ∀ k frame, (ipv4Replies (trace step self events))[k]? = some frame →
      Identified (self.nextIpv4Identification + UInt16.ofNat k) frame := by
  induction events generalizing self with
  | nil => exact ⟨(UInt16.add_zero _).symm, fun k frame hk => by cases hk⟩
  | cons event rest ih =>
    obtain ⟨hcounter, hreplies⟩ := ih (step event self).2
    have hsucc : ∀ k, self.nextIpv4Identification + 1 + UInt16.ofNat k =
        self.nextIpv4Identification + UInt16.ofNat (k + 1) := by
      intro k
      rw [UInt16.add_assoc, UInt16.add_comm 1, UInt16.ofNat_add]
      rfl
    rw [run_cons, trace]
    rcases step_identification event self with ⟨hnone, hsame⟩ | ⟨frame, hsome, hidentified, hnext⟩
    · have hcons : ipv4Replies (⟨self, event, (step event self).1, (step event self).2⟩ ::
          trace step (step event self).2 rest) = ipv4Replies (trace step (step event self).2 rest) :=
        List.filterMap_cons_none hnone
      rw [hcons, ← hsame]
      exact ⟨hcounter, hreplies⟩
    · have hcons : ipv4Replies (⟨self, event, (step event self).1, (step event self).2⟩ ::
          trace step (step event self).2 rest) = frame :: ipv4Replies (trace step (step event self).2 rest) :=
        List.filterMap_cons_some hsome
      rw [hcons]
      refine ⟨?_, ?_⟩
      · rw [hcounter, hnext, hsucc]
        rfl
      · intro k frame' hk
        cases k with
        | zero =>
          obtain rfl : frame = frame' := Option.some.inj hk
          exact (UInt16.add_zero self.nextIpv4Identification).symm ▸ hidentified
        | succ k =>
          rw [← hsucc, ← hnext]
          exact hreplies k frame' hk

lemma ofNat_ne_of_lt {i j : ℕ} (hlt : i < j) (hnear : j < i + 65536) : UInt16.ofNat i ≠ UInt16.ofNat j := by
  intro h
  have hmod := congrArg UInt16.toNat h
  rw [UInt16.toNat_ofNat', UInt16.toNat_ofNat'] at hmod
  omega

/-- **The identifications of a run are consecutive**, whatever comes in between, and come round after 65536 replies. -/
theorem identification_sequence (self : NetworkInterface) (events : List Event) :
    let steps := trace step self events
    let replies := ipv4Replies steps
    (∀ k frame, replies[k]? = some frame → Identified (self.nextIpv4Identification + UInt16.ofNat k) frame) ∧
    (run step self events).nextIpv4Identification =
      self.nextIpv4Identification + UInt16.ofNat replies.length ∧
    (∀ t ∈ steps, t.output.ipv4Reply = none →
      t.after.nextIpv4Identification = t.before.nextIpv4Identification) ∧
    ∀ i j frame frame' n, i < j → j < i + 65536 → replies[i]? = some frame → replies[j]? = some frame' →
      Identified n frame → ¬Identified n frame' := by
  intro steps replies
  obtain ⟨hcounter, hreplies⟩ := run_identification events self
  refine ⟨hreplies, hcounter, ?_, ?_⟩
  · intro t ht hnone
    obtain ⟨past, future, -, -, houtput, hafter⟩ := mem_trace_iff.1 ht
    rcases step_identification t.input t.before with ⟨-, hsame⟩ | ⟨frame, hsome, -, -⟩
    · rw [hafter, hsame]
    · rw [houtput, hsome] at hnone
      cases hnone
  · rintro i j frame frame' n hlt hnear hi hj ⟨packet, hpacket, hn⟩ ⟨packet', hpacket', hn'⟩
    obtain ⟨p, hp, hid⟩ := hreplies i frame hi
    obtain ⟨p', hp', hid'⟩ := hreplies j frame' hj
    obtain rfl := Outcome.ok.inj (hp.symm.trans hpacket)
    obtain rfl := Outcome.ok.inj (hp'.symm.trans hpacket')
    have hsame := hid.symm.trans (hn.trans (hn'.symm.trans hid'))
    exact ofNat_ne_of_lt hlt hnear ((UInt16.add_right_inj _).1 hsame)

end NetworkInterface

end TcpIp.Interface
