import Caraka.Delivery

/-! Hop authentication along a path: what each node of it receives, checks and passes on. -/

namespace Caraka

open Foundation

variable {crates : Crates}

/-- A node of a path: its router as the packet finds it, and its clock. -/
structure Station where
  router : Router
  now : ℚ

def handOver (packet : ClampPacket) : Option ClampPacket :=
  match sendRawPacket packet.encode with
  | .error _ => none
  | .ok frame =>
    match recvPacketFromReader frame with
    | none => none
    | some (raw, _) => (ClampPacket.decode raw).toOption

/-- What the nodes of a path receive and decide, one after the other; a packet goes on from the
nodes that relay it. -/
def travel (crates : Crates) :
    NodePublicKey → ClampPacket → List Station → List (ClampPacket × RoutingDecision)
  | _, _, [] => []
  | predecessor, packet, station :: path =>
    match handOver packet with
    | none => []
    | some received =>
      match station.router.handleIncoming crates station.now received predecessor with
      | (.deliverAndRelay, next, _) =>
        (received, .deliverAndRelay) :: travel crates station.router.myNodeId next path
      | (decision, _, _) => [(received, decision)]

theorem handOver_eq {packet : ClampPacket} (genuine : packet.Genuine) :
    handOver packet = if packet.encode.length ≤ maxPacketSize then some packet else none := by
  rw [handOver, sendRawPacket]
  split_ifs with large small small
  · omega
  · rfl
  · have sent : sendRawPacket packet.encode =
        .ok (leBytes 2 packet.encode.length ++ packet.encode) := if_neg large
    have read := recv_sendRawPacket [] (encode_ne_nil packet) sent
    rw [List.append_nil] at read
    dsimp only
    rw [read]
    dsimp only
    rw [ClampPacket.decode_encode packet genuine]
    rfl
  · omega

/-- A copy of a packet `hops` relays after its origin, with the hop MAC of the node it comes
from. -/
structure CopyAt (crates : Crates) (key : MacKey) (packet : ClampPacket) (hops : Nat)
    (predecessor : NodePublicKey) (copy : ClampPacket) : Prop where
  genuine : copy.Genuine
  content_eq : copy.content = packet.content
  hops_eq : copy.hopAuth.hopCounter.toNat = hops
  ttl_eq : copy.header.ttl.toNat + hops = ttlMax.toNat
  mac_eq : copy.hopAuth.macTag = computeMac crates key
    (Router.buildMacInput packet.header.packetId copy.hopAuth.hopCounter predecessor)

section Steps

variable {key : MacKey} {packet copy : ClampPacket} {hops : Nat} {predecessor : NodePublicKey}

theorem CopyAt.packetId_eq (at_ : CopyAt crates key packet hops predecessor copy) :
    copy.header.packetId = packet.header.packetId :=
  congrArg Content.packetId at_.content_eq

theorem CopyAt.verifies (at_ : CopyAt crates key packet hops predecessor copy) {router : Router}
    (shared : router.channelMacKey = key) :
    router.verifyHopMac crates copy predecessor = true := by
  rw [Router.verifyHopMac, verifyMac_eq_true, shared, at_.packetId_eq]
  exact at_.mac_eq.symm

theorem CopyAt.relayed (at_ : CopyAt crates key packet hops predecessor copy) {router : Router}
    (shared : router.channelMacKey = key) (live : copy.header.ttl > 0) :
    CopyAt crates key packet (hops + 1) router.myNodeId (router.relayed crates copy) where
  genuine := genuine_relayed router at_.genuine
  content_eq := (content_relayed crates router copy).trans at_.content_eq
  hops_eq := by
    have count := at_.hops_eq
    have budget := at_.ttl_eq
    have limit : ttlMax.toNat = 7 := rfl
    change (copy.hopAuth.hopCounter + 1).toNat = hops + 1
    rw [UInt8.toNat_add, count, Nat.mod_eq_of_lt]
    · rfl
    · rw [UInt8.toNat_one]
      omega
  ttl_eq := by
    have budget := at_.ttl_eq
    have one : (1 : UInt8) ≤ copy.header.ttl := by
      rw [UInt8.le_iff_toNat_le]
      exact UInt8.lt_iff_toNat_lt.mp live
    have positive := UInt8.le_iff_toNat_le.mp one
    change (copy.header.ttl - 1).toNat + (hops + 1) = ttlMax.toNat
    rw [UInt8.toNat_sub_of_le _ _ one]
    rw [UInt8.toNat_one] at positive ⊢
    omega
  mac_eq := by
    change router.computeRelayMac crates { copy with
      hopAuth := { copy.hopAuth with hopCounter := copy.hopAuth.hopCounter + 1 } } = _
    rw [Router.computeRelayMac, shared, ← at_.packetId_eq]
    rfl

end Steps

/-- What a node receives and decides `hops` relays after the origin. -/
structure Passes (packet : ClampPacket) (hops : Nat) (received : ClampPacket)
    (decision : RoutingDecision) : Prop where
  content_eq : received.content = packet.content
  hops_eq : received.hopAuth.hopCounter.toNat = hops
  ttl_eq : received.header.ttl.toNat + hops = 7
  decides : (∃ reason, decision = .drop reason ∧
      (reason = .rateLimitExceeded ∨ reason = .peerUntrusted ∨ reason = .duplicatePacket)) ∨
    hops < 7 ∧ decision = .deliverAndRelay ∨ hops = 7 ∧ decision = .deliverToApp

theorem travel_cons {key : MacKey} {packet copy : ClampPacket} {hops : Nat}
    {predecessor : NodePublicKey} (at_ : CopyAt crates key packet hops predecessor copy)
    {station : Station} (shared : station.router.channelMacKey = key)
    (fits : copy.encode.length ≤ maxPacketSize) (path : List Station) :
    ∃ decision, Passes packet hops copy decision ∧
      travel crates predecessor copy (station :: path) =
        (copy, decision) :: if decision = .deliverAndRelay then
          travel crates station.router.myNodeId (station.router.relayed crates copy) path
        else [] := by
  have budget := at_.ttl_eq
  have limit : ttlMax.toNat = 7 := rfl
  have passes : ∀ decision, (∃ reason, decision = .drop reason ∧
      (reason = .rateLimitExceeded ∨ reason = .peerUntrusted ∨ reason = .duplicatePacket)) ∨
      hops < 7 ∧ decision = .deliverAndRelay ∨ hops = 7 ∧ decision = .deliverToApp →
      Passes packet hops copy decision := by
    intro decision decides
    exact ⟨at_.content_eq, at_.hops_eq, budget, decides⟩
  rw [travel, handOver_eq at_.genuine, if_pos fits]
  dsimp only
  rcases Router.handleIncoming_valid crates station.router station.now copy predecessor
    (at_.verifies shared) with ⟨reason, router, dropped, why⟩ | ⟨router, accepted⟩
  · refine ⟨.drop reason, passes _ (.inl ⟨reason, rfl, why⟩), ?_⟩
    rw [dropped]
    rfl
  · by_cases live : copy.header.ttl > 0
    · have positive : 0 < copy.header.ttl.toNat := UInt8.lt_iff_toNat_lt.mp live
      refine ⟨.deliverAndRelay, passes _ (.inr (.inl ⟨by omega, rfl⟩)), ?_⟩
      rw [accepted, if_pos live]
      rfl
    · have none_left : copy.header.ttl.toNat = 0 := by
        by_contra positive
        exact live (UInt8.lt_iff_toNat_lt.mpr (Nat.pos_of_ne_zero positive))
      refine ⟨.deliverToApp, passes _ (.inr (.inr ⟨by omega, rfl⟩)), ?_⟩
      rw [accepted, if_neg live]
      rfl

theorem travel_passes {key : MacKey} {packet copy : ClampPacket} {hops : Nat}
    {predecessor : NodePublicKey} {path : List Station}
    (at_ : CopyAt crates key packet hops predecessor copy)
    (shared : ∀ station ∈ path, station.router.channelMacKey = key) (i : Nat)
    (received : ClampPacket) (decision : RoutingDecision)
    (reached : (travel crates predecessor copy path)[i]? = some (received, decision)) :
    Passes packet (hops + i) received decision := by
  induction path generalizing hops predecessor copy i with
  | nil => simp [travel] at reached
  | cons station path ih =>
      simp only [List.forall_mem_cons] at shared
      by_cases fits : copy.encode.length ≤ maxPacketSize
      · rcases travel_cons at_ shared.1 fits path with ⟨here, passes, steps⟩
        rw [steps] at reached
        cases i with
        | zero =>
            simp only [List.getElem?_cons_zero, Option.some.injEq, Prod.mk.injEq] at reached
            rw [← reached.1, ← reached.2]
            exact passes
        | succ i =>
            rw [List.getElem?_cons_succ] at reached
            split_ifs at reached with relays
            · rcases passes.decides with ⟨reason, dropped, _⟩ | ⟨early, _⟩ | ⟨_, last⟩
              · rw [relays] at dropped
                cases dropped
              · have live : copy.header.ttl > 0 := by
                  rw [gt_iff_lt, UInt8.lt_iff_toNat_lt, UInt8.toNat_zero]
                  have budget := passes.ttl_eq
                  omega
                have next := ih (at_.relayed shared.1 live) shared.2 i reached
                rwa [Nat.add_assoc, Nat.add_comm 1 i] at next
              · rw [relays] at last
                cases last
            · simp at reached
      · rw [travel, handOver_eq at_.genuine, if_neg fits] at reached
        simp at reached

theorem travel_goes_on {key : MacKey} {packet copy : ClampPacket} {hops : Nat}
    {predecessor : NodePublicKey} {path : List Station}
    (at_ : CopyAt crates key packet hops predecessor copy)
    (shared : ∀ station ∈ path, station.router.channelMacKey = key)
    (fits : copy.encode.length ≤ maxPacketSize) (i : Nat) (inside : i < path.length)
    (relayed : ∀ before, before < i → ∃ received,
      (travel crates predecessor copy path)[before]? = some (received, .deliverAndRelay)) :
    ((travel crates predecessor copy path)[i]?).isSome = true := by
  induction path generalizing hops predecessor copy i with
  | nil => simp at inside
  | cons station path ih =>
      simp only [List.forall_mem_cons] at shared
      rcases travel_cons at_ shared.1 fits path with ⟨here, passes, steps⟩
      rw [steps] at relayed ⊢
      cases i with
      | zero => rfl
      | succ i =>
          rcases relayed 0 (Nat.succ_pos i) with ⟨first, relays⟩
          simp only [List.getElem?_cons_zero, Option.some.injEq, Prod.mk.injEq] at relays
          rw [if_pos relays.2] at relayed ⊢
          have live : copy.header.ttl > 0 := by
            rcases passes.decides with ⟨reason, dropped, _⟩ | ⟨early, _⟩ | ⟨_, last⟩
            · rw [relays.2] at dropped
              cases dropped
            · rw [gt_iff_lt, UInt8.lt_iff_toNat_lt, UInt8.toNat_zero]
              have budget := passes.ttl_eq
              omega
            · rw [relays.2] at last
              cases last
          rw [List.getElem?_cons_succ]
          apply ih (at_.relayed shared.1 live) shared.2
          · rw [length_encode_relayed]
            exact fits
          · exact Nat.lt_of_succ_lt_succ inside
          · intro before earlier
            have later := relayed (before + 1) (Nat.succ_lt_succ earlier)
            simpa only [List.getElem?_cons_succ] using later

/-- A packet as its origin broadcasts it. -/
structure Originated (crates : Crates) (origin : Router) (packet : ClampPacket) : Prop where
  genuine : packet.Genuine
  ttl_eq : packet.header.ttl = ttlMax
  hops_eq : packet.hopAuth.hopCounter = 0
  mac_eq : packet.hopAuth.macTag = origin.computeOriginMac crates packet

theorem originated_of_buildPacket {origin : Router} {packetType : PacketType}
    {packetId : Octets 8} {key : AeadKey} {nonce : Nonce} {message : Bytes} {packet : ClampPacket}
    (built : buildPacket crates origin packetType packetId key nonce message = .ok packet) :
    Originated crates origin packet := by
  rw [buildPacket] at built
  dsimp only at built
  split at built
  · cases built
  · cases built
    exact ⟨⟨rfl, rfl⟩, rfl, rfl, rfl⟩

theorem Originated.copyAt {origin : Router} {packet : ClampPacket}
    (originated : Originated crates origin packet) :
    CopyAt crates origin.channelMacKey packet 0 origin.myNodeId packet where
  genuine := originated.genuine
  content_eq := rfl
  hops_eq := by
    rw [originated.hops_eq]
    rfl
  ttl_eq := by
    rw [originated.ttl_eq]
    rfl
  mac_eq := by
    rw [originated.mac_eq, originated.hops_eq]
    rfl

/-- Along every path of nodes that share a MAC key, the node `i` relays after the origin receives
the content unchanged with hop counter `i` and ttl `7 - i`, never finds the hop MAC invalid, and
unless it drops the packet for its rate, its source or its id, relays it where `i < 7` and only
delivers it where `i = 7`; what fits a frame reaches every node up to the first that does not
relay it. -/
theorem hop_authentication_composes {origin : Router} {packet : ClampPacket} {path : List Station}
    (originated : Originated crates origin packet)
    (shared : ∀ station ∈ path, station.router.channelMacKey = origin.channelMacKey) :
    (∀ i received decision,
      (travel crates origin.myNodeId packet path)[i]? = some (received, decision) →
        decision ≠ .drop .invalidHopMac ∧ Passes packet i received decision) ∧
    (packet.encode.length ≤ maxPacketSize → ∀ i, i < path.length →
      (∀ before, before < i → ∃ received,
        (travel crates origin.myNodeId packet path)[before]? = some (received, .deliverAndRelay)) →
      ((travel crates origin.myNodeId packet path)[i]?).isSome = true) := by
  constructor
  · intro i received decision reached
    have passes := travel_passes originated.copyAt shared i received decision reached
    rw [Nat.zero_add] at passes
    refine ⟨?_, passes⟩
    intro invalid
    rcases passes.decides with ⟨reason, dropped, why⟩ | ⟨_, relays⟩ | ⟨_, last⟩
    · rw [dropped, RoutingDecision.drop.injEq] at invalid
      rw [invalid] at why
      simp at why
    · rw [relays] at invalid
      cases invalid
    · rw [last] at invalid
      cases invalid
  · intro fits i inside relayed
    exact travel_goes_on originated.copyAt shared fits i inside relayed

/-- The sample message over two relays, to the second of them. -/
theorem hop_authentication_composes_halo :
    ∃ received, (travel Sample.haloCrates (Sample.key 1) Sample.haloPacket
        [⟨Router.new (Sample.key 2), 0⟩, ⟨Router.new (Sample.key 3), 0⟩])[1]? =
          some (received, .deliverAndRelay) ∧
      received.hopAuth.hopCounter.toNat = 1 ∧ received.content = Sample.haloPacket.content := by
  rcases sendDm_sent Sample.sendDm_halo with ⟨peerPub, facts⟩
  have originated : Originated Sample.haloCrates Sample.alice.router Sample.haloPacket :=
    originated_of_buildPacket facts.built
  have shared : ∀ station ∈ ([⟨Router.new (Sample.key 2), 0⟩, ⟨Router.new (Sample.key 3), 0⟩] :
      List Station), station.router.channelMacKey = Sample.alice.router.channelMacKey := by
    simp only [List.forall_mem_cons, List.not_mem_nil, false_implies, implies_true, and_true]
    exact ⟨rfl, rfl⟩
  have composes := (hop_authentication_composes originated shared).1 1
  have relays : (travel Sample.haloCrates (Sample.key 1) Sample.haloPacket
      [⟨Router.new (Sample.key 2), 0⟩, ⟨Router.new (Sample.key 3), 0⟩])[1]?.map Prod.snd =
        some .deliverAndRelay := by
    decide +kernel
  rcases Option.map_eq_some_iff.mp relays with ⟨⟨received, decision⟩, reached, same⟩
  obtain rfl : decision = .deliverAndRelay := same
  have passes := (composes received _ reached).2
  exact ⟨received, reached, passes.hops_eq, passes.content_eq⟩

end Caraka
