import TcpIp.Interface.Exchange
import TcpIp.Interface.Resolution
import TcpIp.Interface.WireTable
import TcpIp.Interface.Effects
import TcpIp.Lib.Network
import TcpIp.Runtime.Script

/-!
# Many stacks on one link

Any number of interfaces on a link that brings a frame to all hosts but its sender, in any order, with losses and
duplicates; frames of other stations come in at any time, and the hosts look addresses up.

* `answers_owned_iff` — the addresses that the hosts know are true in every run, if and only if nobody else lies to
  them;
* `comes_to_rest_iff` — frames on the link die out if and only if no host echoes the echo port of another host;
* `one_reply` — a frame that all hosts receive is answered by the host that it is for and by no other, and once at
  most, but for the copies that are doubled.
-/

namespace TcpIp.Interface

open TcpIp.Lib TcpIp.Lib.Network TcpIp.Arp TcpIp.Arp.Cache TcpIp.Arp.Resolver TcpIp.Icmp TcpIp.Ipv4 TcpIp.Tcp
  TcpIp.Tcp.Listener TcpIp.Udp TcpIp.Runtime

namespace NetworkInterface

/-- An interface on a link: it is given the frames that it receives, and its user looks addresses up. -/
def host : Machine NetworkInterface Bytes Instant (Ipv4Addr × Instant) where
  receive now input self := (replyOf (process (input, now) self).1, (process (input, now) self).2)
  call lookup self := (step (.lookup lookup.1 lookup.2) self).2

variable {self peer : NetworkInterface} {input answer : Bytes} {now : Instant}

lemma host_reply : (host.receive now input self).1 = some answer ↔
    ((processFrameAt input now).run self).1 = .ok (some answer) := by
  show replyOf ((processFrameAt input now).run self).1 = some answer ↔ _
  cases ((processFrameAt input now).run self).1 <;> simp [replyOf]

/-- Two interfaces with the same addresses. -/
def SameAddresses (self peer : NetworkInterface) : Prop :=
  self.macAddress = peer.macAddress ∧ self.ipv4Address = peer.ipv4Address

lemma SameAddresses.receive (h : SameAddresses self peer) (now : Instant) (input : Bytes) :
    SameAddresses (host.receive now input self).2 peer := by
  obtain ⟨hmac, hip⟩ := processFrameAt_addresses self input now
  exact ⟨hmac.trans h.1, hip.trans h.2⟩

lemma SameAddresses.call (h : SameAddresses self peer) (lookup : Ipv4Addr × Instant) :
    SameAddresses (host.call lookup self) peer := by
  obtain ⟨hmac, hip⟩ := step_addresses self (.lookup lookup.1 lookup.2)
  exact ⟨hmac.trans h.1, hip.trans h.2⟩

/-! ### The addresses that the hosts know -/

section Truth

variable {owner : Ipv4Addr → MacAddress → Prop}

/-- What the frame tells the host of an address is true. -/
def Truthful (owner : Ipv4Addr → MacAddress → Prop) (self : NetworkInterface) (input : Bytes) : Prop :=
  ∀ ethernet packet, Delivers self.macAddress self.ipv4Address input (.arp ethernet packet) →
    packet.operation = .request ∨ packet.operation = .reply → owner packet.senderIp packet.senderMac

/-- What the host says of itself and knows of others is true. -/
structure Honest (owner : Ipv4Addr → MacAddress → Prop) (interface : NetworkInterface) : Prop where
  own : owner interface.ipv4Address interface.macAddress
  cache : ∀ ip entry, interface.arpResolver.cache.ipToMac.lookup ip = some entry → owner ip entry.mac

lemma Truthful.congr (h : SameAddresses self peer) (htruth : Truthful owner peer input) :
    Truthful owner self input := by
  unfold Truthful
  rw [h.1, h.2]
  exact htruth

lemma Honest.receive (h : Honest owner self) (htruth : Truthful owner self input) (now : Instant) :
    Honest owner (host.receive now input self).2 := by
  show Honest owner ((processFrameAt input now).run self).2
  rcases processFrameAt_parts self input now with ⟨e, -, hrun⟩ | ⟨delivery, -, hdelivers, hrun⟩
  · rw [hrun]
    exact h
  · rw [hrun]
    refine ⟨h.own, fun ip entry hentry => ?_⟩
    cases delivery with
    | ignored => exact h.cache ip entry hentry
    | echo ethernet ipv4 message => exact h.cache ip entry hentry
    | datagram ethernet ipv4 request => exact h.cache ip entry hentry
    | segment ethernet ipv4 request => exact h.cache ip entry hentry
    | arp ethernet packet =>
      by_cases hsame : self.arpResolver.observed packet now = self.arpResolver
      · have hold : (self.changed now (.arp ethernet packet)).arpResolver = self.arpResolver := hsame
        rw [hold] at hentry
        exact h.cache ip entry hentry
      · obtain ⟨hknown, heffect⟩ := resolverEffect_observed hsame
        rcases heffect.cache ip entry hentry with hold | ⟨rfl, rfl⟩
        · exact h.cache ip entry hold
        · exact htruth ethernet packet hdelivers hknown

lemma Honest.call (h : Honest owner self) (lookup : Ipv4Addr × Instant) : Honest owner (host.call lookup self) := by
  show Honest owner (step (.lookup lookup.1 lookup.2) self).2
  rw [step_lookup]
  exact ⟨h.own, fun ip entry hentry => h.cache ip entry (ArpCache.lookup_unexpired_eq_some.1 hentry).1⟩

/-- **An honest host tells the truth**: of itself in ARP replies, and of nobody in IPv4 packets. -/
lemma Honest.reply (h : Honest owner self) (hreply : (host.receive now input self).1 = some answer)
    (peer : NetworkInterface) : Truthful owner peer answer := by
  rw [host_reply] at hreply
  intro ethernet packet hdelivers _
  cases hdelivers with
  | @arp _ _ hframe htype haccepted hpacket =>
    rcases processFrameAt_parts self input now with ⟨e, -, hrun⟩ | ⟨delivery, -, hdelivers, hrun⟩
    · rw [hrun] at hreply
      cases hreply
    · rw [hrun] at hreply
      obtain ⟨frame, hsent, rfl⟩ := Option.map_eq_some_iff.1 (Outcome.ok.inj hreply)
      cases hparts : self.replyTo delivery with
      | nothing =>
        rw [hparts] at hsent
        cases hsent
      | ipv4 request ipv4 protocol payload =>
        rw [hparts] at hsent
        cases hsent
        rw [← Outcome.ok.inj (parse_replyFrame.symm.trans hframe)] at htype
        cases htype
      | arp reply =>
        rw [hparts] at hsent
        cases hsent
        obtain ⟨-, request, -, -, hbuild⟩ := replyTo_arp hdelivers hparts
        obtain rfl := Outcome.ok.inj ((parse_arpReplyFrame reply).symm.trans hframe)
        obtain rfl := Outcome.ok.inj ((parse_arpReply hbuild).symm.trans hpacket)
        unfold buildReply at hbuild
        split_ifs at hbuild
        cases hbuild
        exact h.own

lemma Honest.cachedMac (h : Honest owner self) {ip : Ipv4Addr} {mac : MacAddress}
    (hanswer : ((cachedMac ip now : Exec NetworkInterface InterfaceError _).run self).1 = .ok (some mac)) :
    owner ip mac := by
  rw [NetworkInterface.cachedMac, onResolver, Exec.zoom_run, ArpResolver.cachedMac_run] at hanswer
  obtain ⟨entry, hentry, rfl⟩ := Option.map_eq_some_iff.1 (Outcome.ok.inj hanswer)
  exact h.cache ip entry (ArpCache.lookup_unexpired_eq_some.1 hentry).1

lemma honest_keeps {κ : Type} (hosts : κ → NetworkInterface) (owner : Ipv4Addr → MacAddress → Prop) :
    Keeps host (fun k self => SameAddresses self (hosts k) ∧ Honest owner self)
      fun k input => Truthful owner (hosts k) input where
  receive _ now input _ h htruth := ⟨h.1.receive now input, h.2.receive (htruth.congr h.1) now⟩
  reply _ _ _ _ _ j h _ hreply _ := h.2.reply hreply (hosts j)
  call _ lookup _ h := ⟨h.1.call lookup, h.2.call lookup⟩

lemma cachedMac_of_arp {ethernet : EthernetFrame} {packet : ArpPacket}
    (h : Delivers self.macAddress self.ipv4Address input (.arp ethernet packet))
    (hknown : packet.operation = .request ∨ packet.operation = .reply) (hsize : 1 ≤ self.arpResolver.cache.maxEntries)
    (httl : 0 < self.arpResolver.cache.ttl) (now : Instant) :
    ((cachedMac packet.senderIp now : Exec NetworkInterface InterfaceError _).run
      (host.receive now input self).2).1 = .ok (some packet.senderMac) := by
  cases h with
  | arp hframe htype haccepted hpacket =>
    have hafter : (host.receive now input self).2.arpResolver = self.arpResolver.observed packet now := by
      show ((processFrameAt input now).run self).2.arpResolver = _
      rw [processFrameAt_eq, demux_of_arp hframe htype haccepted hpacket]
      rfl
    rw [NetworkInterface.cachedMac, onResolver, Exec.zoom_run, hafter]
    exact ArpResolver.cachedMac_observed (ArpResolver.learns_of_known hsize hknown) (by rw [Nat.sub_self]; exact httl)

/-- **The hosts know true addresses in every run if and only if nobody else lies to them**: neither the order of the
frames nor losses, duplicates and the answers of other hosts can make a host answer an address that is not the owner's,
and any lie can. -/
theorem answers_owned_iff {κ : Type} [Fintype κ] [DecidableEq κ] (hosts : κ → NetworkInterface)
    (owner : Ipv4Addr → MacAddress → Prop) (sent : κ → Bytes → Prop) (hhonest : ∀ k, Honest owner (hosts k))
    (hsize : ∀ k, 1 ≤ (hosts k).arpResolver.cache.maxEntries) (httl : ∀ k, 0 < (hosts k).arpResolver.cache.ttl) :
    (∀ actions net, Run host ⟨hosts, 0⟩ actions net → Injects sent actions → ∀ k ip now mac,
      ((cachedMac ip now : Exec NetworkInterface InterfaceError _).run (net.node k)).1 = .ok (some mac) →
        owner ip mac) ↔
      ∀ k input, sent k input → Truthful owner (hosts k) input := by
  constructor
  · intro hsafe k input hsent ethernet packet hdelivers hknown
    have hrun : Run host ⟨hosts, 0⟩ [.inject k input, .deliver k input 0 (host.receive 0 input (hosts k)).1]
        ⟨Function.update hosts k (host.receive 0 input (hosts k)).2,
          copies k (host.receive 0 input (hosts k)).1 + 0⟩ :=
      Run.cons (Step.inject k input) (Run.cons (Step.deliver k input 0) (Run.nil _))
    refine hsafe _ _ hrun (fun j m hmem => ?_) k packet.senderIp 0 packet.senderMac ?_
    · simp only [List.mem_cons, Action.inject.injEq, reduceCtorEq, List.not_mem_nil, or_false] at hmem
      obtain ⟨rfl, rfl⟩ := hmem
      exact hsent
    · dsimp only
      rw [Function.update_self]
      exact cachedMac_of_arp hdelivers hknown (hsize k) (httl k) 0
  · intro htruth actions net hrun hinject k ip now mac hanswer
    have hholds := (honest_keeps hosts owner).run hrun
      ⟨fun k => ⟨⟨rfl, rfl⟩, hhonest k⟩, fun copy hcopy => absurd hcopy (Multiset.notMem_zero copy)⟩
      fun j m hmem => htruth j m (hinject j m hmem)
    exact (hholds.node k).2.cachedMac hanswer

/-- The interface of the tests and the one that asks it for its address: the request is true, so all answers are. -/
theorem answers_owned_iff_request :
    let hosts := fun asked : Bool =>
      if asked then TestFrames.interface else .new TestFrames.remoteMac TestFrames.remoteIp
    let owner := fun ip mac => ip = TestFrames.localIp ∧ mac = TestFrames.localMac ∨
      ip = TestFrames.remoteIp ∧ mac = TestFrames.remoteMac
    (∀ k, Truthful owner (hosts k) TestFrames.arpRequestFrame) ∧ ∀ actions net, Run host ⟨hosts, 0⟩ actions net →
      Injects (fun _ input => input = TestFrames.arpRequestFrame) actions → ∀ k ip now mac,
        ((cachedMac ip now : Exec NetworkInterface InterfaceError _).run (net.node k)).1 = .ok (some mac) →
          owner ip mac := by
  intro hosts owner
  have htruth : ∀ k input, input = TestFrames.arpRequestFrame → Truthful owner (hosts k) input := by
    rintro asked input rfl ethernet packet hdelivers -
    cases hdelivers with
    | arp hframe htype haccepted hpacket =>
      have hsender : ArpPacket.parse (TestFrames.arpRequestFrame.drop 14) =
          .ok (buildRequest TestFrames.localIp TestFrames.remoteMac TestFrames.remoteIp) := by decide +kernel
      have hparse : parseEthFrame TestFrames.arpRequestFrame =
          .ok ⟨MacAddress.broadcast, TestFrames.remoteMac, .arp, TestFrames.arpRequestFrame.drop 14⟩ := by
        decide +kernel
      obtain rfl := Outcome.ok.inj (hparse.symm.trans hframe)
      obtain rfl := Outcome.ok.inj (hsender.symm.trans hpacket)
      exact Or.inr ⟨rfl, rfl⟩
  refine ⟨fun k => htruth k _ rfl, (answers_owned_iff hosts owner _ (fun asked => ⟨?_, fun ip entry hentry => ?_⟩)
    (fun asked => ?_) fun asked => ?_).2 htruth⟩
  · cases asked
    · exact Or.inr ⟨rfl, rfl⟩
    · exact Or.inl ⟨rfl, rfl⟩
  · have hempty : (∅ : HashMap Ipv4Addr CacheEntry).lookup ip = some entry := by
      cases asked <;> exact hentry
    rw [Finmap.lookup_empty] at hempty
    cases hempty
  · cases asked <;> decide
  · cases asked <;> decide

end Truth

/-! ### Rest -/

section Rest

variable {κ : Type} {hosts : κ → NetworkInterface} {k j : κ}

/-- A host with the addresses of `self` does not answer the frame, whatever happened before. -/
def Unanswered (self : NetworkInterface) (input : Bytes) : Prop :=
  ∀ s now, SameAddresses s self → (host.receive now input s).1 = none

lemma EchoLoop.congr {self' peer' : NetworkInterface} (h : SameAddresses self self') (h' : SameAddresses peer peer')
    (hloop : EchoLoop self peer input) : EchoLoop self' peer' input := by
  unfold EchoLoop at hloop ⊢
  rw [← h.1, ← h.2, ← h'.1, ← h'.2]
  exact hloop

lemma SameAddresses.symm (h : SameAddresses self peer) : SameAddresses peer self := ⟨h.1.symm, h.2.symm⟩

/-- No host echoes the frame to another host's echo port. -/
def Quiet (hosts : κ → NetworkInterface) (k : κ) (input : Bytes) : Prop :=
  ∀ j, j ≠ k → ¬EchoLoop (hosts k) (hosts j) input

lemma settles (hosts : κ → NetworkInterface) : Settles host (fun k self => SameAddresses self (hosts k))
    (fun k input => Unanswered (hosts k) input) (Quiet hosts) where
  receive _ now input _ h := h.receive now input
  call _ lookup _ h := h.call lookup
  silent _ now _ s h hsilent := hsilent s now h
  quiet k now input s answer j h hquiet hanswer hother := by
    intro t later ht
    rw [host_reply] at hanswer
    have hloop : ¬EchoLoop s t input := fun hloop => hquiet j hother (hloop.congr h ht)
    show replyOf ((processFrameAt answer later).run t).1 = none
    rw [silent_of_not_echoLoop hloop hanswer]
    rfl

variable [Fintype κ] [DecidableEq κ]

lemma exists_run_of_echoLoop (n : ℕ) {net : Network κ NetworkInterface Bytes} (hcopy : (k, input) ∈ net.flight)
    (hother : j ≠ k) (hloop : EchoLoop (net.node k) (net.node j) input) :
    ∃ actions net', Run host net actions net' ∧ (∀ action ∈ actions, action.Moves) ∧ actions.length = n := by
  induction n generalizing net k j input with
  | zero => exact ⟨[], net, Run.nil net, fun action hmem => absurd hmem List.not_mem_nil, rfl⟩
  | succ n ih =>
    obtain ⟨node, flight⟩ := net
    obtain ⟨rest, rfl⟩ := Multiset.exists_cons_of_mem hcopy
    obtain ⟨answer, hanswer, hback⟩ := hloop.reply 0
    rw [← host_reply] at hanswer
    let after := (host.receive 0 input (node k)).2
    let net' : Network κ NetworkInterface Bytes :=
      ⟨Function.update node k after, copies k (host.receive 0 input (node k)).1 + rest⟩
    have hstep : Step host ⟨node, (k, input) ::ₘ rest⟩ _ net' := Step.deliver k input 0
    have hsent : (j, answer) ∈ net'.flight := Multiset.mem_add.2 (Or.inl (mem_copies.2 ⟨hanswer, hother⟩))
    have hsame : SameAddresses after (node k) := SameAddresses.receive ⟨rfl, rfl⟩ 0 input
    have hloop' : EchoLoop (net'.node j) (net'.node k) answer := by
      show EchoLoop (Function.update node k after j) (Function.update node k after k) answer
      rw [Function.update_of_ne hother, Function.update_self]
      exact hback.congr ⟨rfl, rfl⟩ hsame.symm
    obtain ⟨actions, last, hrun, hmoves, hlength⟩ := ih hsent hother.symm hloop'
    refine ⟨_ :: actions, last, Run.cons hstep hrun, ?_, ?_⟩
    · intro action hmem
      rcases List.mem_cons.1 hmem with rfl | hmem
      · trivial
      · exact hmoves action hmem
    · rw [List.length_cons, hlength]

/-- **When a link comes to rest.**  With any number of hosts, the frames on a link are used up after a bounded number of
deliveries and losses, in whatever order these happen, if and only if none of them goes from the echo port of one host
to the echo port of another. -/
theorem comes_to_rest_iff (hosts : κ → NetworkInterface) (flight : Multiset (κ × Bytes)) :
    ((∃ bound, ∀ actions net, Run host ⟨hosts, flight⟩ actions net → (∀ action ∈ actions, action.Moves) →
      actions.length ≤ bound) ↔ ∀ k input, (k, input) ∈ flight → Quiet hosts k input) ∧
    ((∀ k input, (k, input) ∈ flight → Quiet hosts k input) → ∀ actions net, Run host ⟨hosts, flight⟩ actions net →
      (∀ action ∈ actions, action.Moves) → actions.length ≤ flight.card * Fintype.card κ) := by
  have hbound : (∀ k input, (k, input) ∈ flight → Quiet hosts k input) → ∀ actions net,
      Run host ⟨hosts, flight⟩ actions net → (∀ action ∈ actions, action.Moves) →
        actions.length ≤ flight.card * Fintype.card κ := by
    intro hquiet actions net hrun hmoves
    exact (settles hosts).rest hrun hmoves ⟨fun k => ⟨rfl, rfl⟩, fun copy hcopy => Or.inr (hquiet _ _ hcopy)⟩
  refine ⟨⟨?_, fun hquiet => ⟨_, hbound hquiet⟩⟩, hbound⟩
  rintro ⟨bound, hrest⟩ k input hcopy j hother hloop
  obtain ⟨actions, net, hrun, hmoves, hlength⟩ :=
    exists_run_of_echoLoop (bound + 1) (show (k, input) ∈ (Network.mk hosts flight).flight from hcopy) hother hloop
  have hshort := hrest actions net hrun hmoves
  omega

/-! ### One reply -/

/-- The frame is for the host with the address `ip`: an IPv4 packet to it, or an ARP packet that asks for it. -/
def Addressed (ip : Ipv4Addr) (input : Bytes) : Prop := ∃ ethernet, parseEthFrame input = .ok ethernet ∧
  ((∃ ipv4, ethernet.etherType = .ipv4 ∧ parseIpv4Packet ethernet.payload = .ok ipv4 ∧ ipv4.destination = ip) ∨
    ∃ packet, ethernet.etherType = .arp ∧ ArpPacket.parse ethernet.payload = .ok packet ∧ packet.targetIp = ip)

lemma Addressed.unique {ip ip' : Ipv4Addr} (h : Addressed ip input) (h' : Addressed ip' input) : ip = ip' := by
  obtain ⟨ethernet, hframe, h⟩ := h
  obtain ⟨ethernet', hframe', h'⟩ := h'
  obtain rfl := Outcome.ok.inj (hframe.symm.trans hframe')
  rcases h with ⟨ipv4, htype, hpacket, rfl⟩ | ⟨packet, htype, hpacket, rfl⟩
  · rcases h' with ⟨ipv4', -, hpacket', rfl⟩ | ⟨packet', htype', -⟩
    · rw [Outcome.ok.inj (hpacket.symm.trans hpacket')]
    · cases htype.symm.trans htype'
  · rcases h' with ⟨ipv4', htype', -⟩ | ⟨packet', -, hpacket', rfl⟩
    · cases htype.symm.trans htype'
    · rw [Outcome.ok.inj (hpacket.symm.trans hpacket')]

lemma addressed_of_reply (h : (host.receive now input self).1 = some answer) : Addressed self.ipv4Address input := by
  rw [host_reply] at h
  have hipv4 : ∀ {ethernet ipv4}, ForHost self.macAddress self.ipv4Address input ethernet ipv4 →
      Addressed self.ipv4Address input := fun {ethernet ipv4} host =>
    ⟨ethernet, host.frame, Or.inl ⟨ipv4, host.etherType, host.packet, host.destination⟩⟩
  obtain ⟨delivery, hdelivers, hrespond, -⟩ := exists_delivery h
  cases hdelivers with
  | ignored => cases hrespond
  | echo host => exact hipv4 host
  | datagram host => exact hipv4 host
  | segment host => exact hipv4 host
  | @arp ethernet packet hframe htype haccepted hpacket =>
    obtain ⟨reply, hbuild, -⟩ := Option.map_eq_some_iff.1 hrespond
    unfold buildReply at hbuild
    split_ifs at hbuild with hother
    push Not at hother
    exact ⟨ethernet, hframe, Or.inr ⟨packet, htype, hpacket, hother.2⟩⟩

lemma addressed_of_not_unanswered (h : ¬Unanswered self input) : Addressed self.ipv4Address input := by
  unfold Unanswered at h
  push Not at h
  obtain ⟨s, later, hs, hanswer⟩ := h
  obtain ⟨answer, hanswer⟩ := Option.ne_none_iff_exists'.1 hanswer
  exact hs.2 ▸ addressed_of_reply hanswer

omit [Fintype κ] [DecidableEq κ] in
lemma settles_input (hosts : κ → NetworkInterface) (input : Bytes) :
    Settles host (fun k self => SameAddresses self (hosts k)) (fun k input => Unanswered (hosts k) input)
      fun k m => m = input ∧ ¬Unanswered (hosts k) input ∧ Quiet hosts k m :=
  { settles hosts with
    quiet := fun k now m s reply j hs hm => (settles hosts).quiet k now m s reply j hs hm.2.2 }

omit [Fintype κ] [DecidableEq κ] in
/-- If no two hosts share an address, one copy of a frame at most may be answered. -/
lemma answerable_le_one (hdistinct : Function.Injective fun k => (hosts k).ipv4Address) (receivers : Finset κ) :
    answerable (fun k input => Unanswered (hosts k) input) (receivers.val.map fun k => (k, input)) ≤ 1 := by
  classical
  have hcount : answerable (fun k input => Unanswered (hosts k) input) (receivers.val.map fun k => (k, input)) =
      (receivers.filter fun k => ¬Unanswered (hosts k) input).card := Multiset.countP_map _ _ _
  rw [hcount, Finset.card_le_one]
  intro k hk j hj
  exact hdistinct ((addressed_of_not_unanswered (Finset.mem_filter.1 hk).2).unique
    (addressed_of_not_unanswered (Finset.mem_filter.1 hj).2))

/-- **One reply to a frame**: hosts with different addresses do not answer the same frame.  However the copies of a
frame, and of what is sent in answer to it, are delivered, lost and doubled, and whatever the hosts look up meanwhile:
nothing is answered but the frame itself, and by no host but the one that it is for; and this host sends one answer in
the whole run at most, and one more for each time that its copy of the frame is doubled. -/
theorem one_reply {hosts : κ → NetworkInterface} (hdistinct : Function.Injective fun k => (hosts k).ipv4Address)
    (hquiet : ∀ k, Quiet hosts k input) (receivers : Finset κ) {actions : List (Action κ Bytes Instant _)}
    {net : Network κ NetworkInterface Bytes}
    (hrun : Run host ⟨hosts, receivers.val.map fun k => (k, input)⟩ actions net) (hclosed : Closed actions) :
    (∀ k m now answer, .deliver k m now (some answer) ∈ actions → m = input ∧ Addressed (hosts k).ipv4Address input) ∧
      ∀ k, Addressed (hosts k).ipv4Address input →
        (actions.filterMap Action.sent).length ≤ 1 + (actions.filterMap Action.doubled).count (k, input) := by
  have hsettles := settles_input hosts input
  have hnet : Settling (fun k self => SameAddresses self (hosts k)) (fun k input => Unanswered (hosts k) input)
      (fun k m => m = input ∧ ¬Unanswered (hosts k) input ∧ Quiet hosts k m)
      ⟨hosts, receivers.val.map fun k => (k, input)⟩ := by
    refine ⟨fun k => ⟨rfl, rfl⟩, fun copy hcopy => ?_⟩
    obtain ⟨k, -, rfl⟩ := Multiset.mem_map.1 hcopy
    by_cases hsilent : Unanswered (hosts k) input
    · exact Or.inl hsilent
    · exact Or.inr ⟨rfl, hsilent, hquiet k⟩
  constructor
  · intro k m now answer hmem
    obtain ⟨⟨rfl, hloud, -⟩, -⟩ := hsettles.answered hrun hclosed hnet hmem
    exact ⟨rfl, addressed_of_not_unanswered hloud⟩
  · intro k hk
    have hcopy : ∀ j m, m = input ∧ ¬Unanswered (hosts j) input ∧ Quiet hosts j m → ((j, m) == (k, input)) = true := by
      rintro j m ⟨rfl, hloud, -⟩
      obtain rfl : j = k := hdistinct ((addressed_of_not_unanswered hloud).unique hk)
      exact beq_self_eq_true _
    have hcount := hsettles.answers_le (p := fun copy => copy == (k, input)) hcopy hrun hclosed hnet
    exact hcount.trans (Nat.add_le_add_right (answerable_le_one hdistinct receivers) _)

/-- The request of the tests is doubled on the way to the interface that it asks for, and answered twice. -/
theorem one_reply_request :
    let hosts := fun asked : Bool =>
      if asked then TestFrames.interface else .new TestFrames.remoteMac TestFrames.remoteIp
    ∃ actions net,
      Run host ⟨hosts, ({true} : Finset Bool).val.map fun k => (k, TestFrames.arpRequestFrame)⟩ actions net ∧
        (actions.filterMap Action.sent).length = 2 ∧ (actions.filterMap Action.sent).length ≤
          1 + (actions.filterMap Action.doubled).count (true, TestFrames.arpRequestFrame) := by
  intro hosts
  let input := TestFrames.arpRequestFrame
  have hquiet : ∀ k, Quiet hosts k input := by
    rintro k j - ⟨ethernet, ipv4, -, forHost, -⟩
    have hparse : parseEthFrame input = .ok ⟨MacAddress.broadcast, TestFrames.remoteMac, .arp, input.drop 14⟩ := by
      decide +kernel
    have htype := forHost.etherType
    rw [← Outcome.ok.inj (hparse.symm.trans forHost.frame)] at htype
    cases htype
  have hdistinct : Function.Injective fun k => (hosts k).ipv4Address := by decide
  have hflight : ({true} : Finset Bool).val.map (fun k => (k, input)) = (true, input) ::ₘ 0 :=
    Multiset.map_singleton _ _
  let after := Function.update hosts true (host.receive 7 input (hosts true)).2
  have hfirst : (host.receive 7 input (hosts true)).1.isSome = true := by decide +kernel
  have hsecond : (host.receive 8 input (after true)).1.isSome = true := by decide +kernel
  obtain ⟨first, hfirst⟩ := Option.isSome_iff_exists.1 hfirst
  obtain ⟨second, hsecond⟩ := Option.isSome_iff_exists.1 hsecond
  have hdouble : Step host ⟨hosts, (true, input) ::ₘ 0⟩ _ _ := Step.duplicate true input
  have hdeliver : Step host ⟨hosts, (true, input) ::ₘ (true, input) ::ₘ 0⟩ _ _ := Step.deliver true input 7
  rw [Multiset.add_cons] at hdeliver
  have hagain : Step host ⟨after, (true, input) ::ₘ (copies true (host.receive 7 input (hosts true)).1 + 0)⟩ _ _ :=
    Step.deliver true input 8
  have hrun := Run.cons hdouble (Run.cons hdeliver (Run.cons hagain (Run.nil _)))
  rw [← hflight] at hrun
  refine ⟨_, _, hrun, ?_, (one_reply hdistinct hquiet {true} hrun ?_).2 true (addressed_of_reply hfirst)⟩
  · show (List.filterMap Action.sent [_, .deliver true input 7 _, .deliver true input 8 _]).length = 2
    rw [hsecond, hfirst]
    rfl
  · intro k m hmem
    simp at hmem

end Rest

end NetworkInterface

end TcpIp.Interface
