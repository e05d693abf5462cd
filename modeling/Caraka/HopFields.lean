import Caraka.Registration
import Caraka.Gates

/-! The two counters that a relay changes: whether the machine arithmetic on them is exact, and
whether they stay in the range of the format. -/

namespace Caraka

open Foundation

variable {crates : Crates}

structure SoundStep (packet next : ClampPacket) : Prop where
  ttl_exact : next.header.ttl.toNat + 1 = packet.header.ttl.toNat
  hop_exact : next.hopAuth.hopCounter.toNat = packet.hopAuth.hopCounter.toNat + 1
  ttl_lt : next.header.ttl < ttlMax
  hop_le : next.hopAuth.hopCounter ≤ ttlMax

structure RelayStep (packet next : ClampPacket) : Prop where
  live : packet.header.ttl > 0
  ttl_eq : next.header.ttl = packet.header.ttl - 1
  hop_eq : next.hopAuth.hopCounter = packet.hopAuth.hopCounter + 1
  genuine : packet.Genuine → next.Genuine

theorem RelayStep.sound_iff {packet next : ClampPacket} (step : RelayStep packet next) :
    SoundStep packet next ↔ packet.header.ttl ≤ ttlMax ∧ packet.hopAuth.hopCounter < ttlMax := by
  have live : 0 < packet.header.ttl.toNat := UInt8.lt_iff_toNat_lt.mp step.live
  have ttl_small := packet.header.ttl.toNat_lt
  have hop_small := packet.hopAuth.hopCounter.toNat_lt
  have ttl : next.header.ttl.toNat = packet.header.ttl.toNat - 1 := by
    rw [step.ttl_eq, UInt8.toNat_sub]
    change (2 ^ 8 - 1 + packet.header.ttl.toNat) % 2 ^ 8 = _
    omega
  have hop : next.hopAuth.hopCounter.toNat = (packet.hopAuth.hopCounter.toNat + 1) % 2 ^ 8 := by
    rw [step.hop_eq, UInt8.toNat_add]
    rfl
  have limit : ttlMax.toNat = 7 := rfl
  constructor
  · rintro ⟨-, exact, low, high⟩
    rw [UInt8.lt_iff_toNat_lt, limit] at low
    rw [UInt8.le_iff_toNat_le, limit] at high
    rw [UInt8.le_iff_toNat_le, UInt8.lt_iff_toNat_lt, limit]
    omega
  · rintro ⟨low, high⟩
    rw [UInt8.le_iff_toNat_le, limit] at low
    rw [UInt8.lt_iff_toNat_lt, limit] at high
    refine ⟨?_, ?_, ?_, ?_⟩
    · omega
    · omega
    · rw [UInt8.lt_iff_toNat_lt, limit]
      omega
    · rw [UInt8.le_iff_toNat_le, limit]
      omega

/-- The checks after which a received packet is handed to `relay_packet`. -/
def AppState.PassesOn (node : AppState crates) (env : ReceiveEnv) (packet : ClampPacket)
    (senderKey : String) : Prop :=
  node.Admits env packet senderKey ∧ packet.header.ttl > 0 ∧
    (packet.header.packetType = .broadcast →
      ∃ payload, crates.broadcastFromSlice packet.ciphertext = some payload)

section Steps

variable {node : AppState crates} {env : ReceiveEnv} {packet next : ClampPacket}
  {senderKey : String}

theorem relays_of_passesOn (passes : node.PassesOn env packet senderKey) :
    ∃ next, node.relayed env packet senderKey = some next := by
  rcases passes with ⟨admitted, live, readable⟩
  by_cases routed : Routed packet
  · rcases (admits_of_routed routed).mp admitted with ⟨source, named, passed⟩
    have ended := handleRouted_end node env senderKey routed
    generalize handleRouted node env packet senderKey = outcome at ended
    generalize node.relayed env packet senderKey = next at ended ⊢
    cases ended with
    | relayed => exact ⟨_, rfl⟩
    | last named' passes spent => exact absurd live spent
    | unnamed unnamed =>
        rw [named] at unnamed
        cases unnamed
    | dropped named' fails =>
        rw [named] at named'
        cases named'
        exact absurd passed fails
  by_cases broadcast : packet.header.packetType = .broadcast
  · rcases readable broadcast with ⟨payload, read⟩
    have new := (admits_of_broadcast broadcast).mp admitted
    have ended := handleBroadcast_end node env senderKey broadcast
    generalize handleBroadcast node packet senderKey = outcome at ended
    generalize node.relayed env packet senderKey = next at ended ⊢
    cases ended with
    | duplicate seen => exact absurd seen new
    | unreadable unseen unread =>
        rw [read] at unread
        cases unread
    | relayed => exact ⟨_, rfl⟩
    | last unseen read spent => exact absurd live spent
  · exfalso
    rw [Routed, not_or, not_or] at routed
    revert admitted
    rw [AppState.Admits]
    cases type : packet.header.packetType with
    | dm => exact absurd type routed.1
    | channel => exact absurd type routed.2.1
    | file => exact absurd type routed.2.2
    | broadcast => exact absurd type broadcast
    | hello | syncReq | syncResp | syncData => exact id

theorem passesOn_of_relays (relays : node.relayed env packet senderKey = some next) :
    node.PassesOn env packet senderKey ∧ RelayStep packet next := by
  by_cases routed : Routed packet
  · have ended := handleRouted_end node env senderKey routed
    rw [relays] at ended
    generalize handleRouted node env packet senderKey = outcome at ended
    have notBroadcast : packet.header.packetType ≠ .broadcast := by
      rcases routed with type | type | type
      all_goals simp [type]
    cases ended with
    | relayed named passes live =>
        exact ⟨⟨(admits_of_routed routed).mpr ⟨_, named, passes⟩, live,
          fun broadcast => absurd broadcast notBroadcast⟩, ⟨live, rfl, rfl, id⟩⟩
  by_cases broadcast : packet.header.packetType = .broadcast
  · have ended := handleBroadcast_end node env senderKey broadcast
    rw [relays] at ended
    generalize handleBroadcast node packet senderKey = outcome at ended
    cases ended with
    | relayed unseen read live next_eq =>
        subst next_eq
        exact ⟨⟨(admits_of_broadcast broadcast).mpr unseen, live, fun _ => ⟨_, read⟩⟩,
          ⟨live, rfl, rfl, id⟩⟩
  · exfalso
    rw [Routed, not_or, not_or] at routed
    rw [AppState.relayed] at relays
    cases type : packet.header.packetType with
    | dm => exact absurd type routed.1
    | channel => exact absurd type routed.2.1
    | file => exact absurd type routed.2.2
    | broadcast => exact absurd type broadcast
    | hello | syncReq | syncResp | syncData =>
        rw [type] at relays
        cases relays

end Steps

/-- The relay step on a received frame is sound. -/
def RelaysSoundly (node : AppState crates) (env : ReceiveEnv) (raw : Bytes) (senderKey : String) :
    Prop :=
  ∀ packet next, ClampPacket.decode raw = .ok packet →
    node.relayed env packet senderKey = some next → SoundStep packet next

/-- A frame that is passed on leaves room for one more hop in both counters. -/
def LeavesRoom (node : AppState crates) (env : ReceiveEnv) (raw : Bytes) (senderKey : String) :
    Prop :=
  ∀ packet, ClampPacket.decode raw = .ok packet → node.PassesOn env packet senderKey →
    packet.header.ttl ≤ ttlMax ∧ packet.hopAuth.hopCounter < ttlMax

/-- Whatever arrives and in whatever state: what the node relays comes from a sound step exactly
when the fields that `decode` let through leave room for it. -/
theorem relays_soundly_iff (node : AppState crates) (env : ReceiveEnv) (raw : Bytes)
    (senderKey : String) :
    RelaysSoundly node env raw senderKey ↔ LeavesRoom node env raw senderKey := by
  constructor
  · intro sound packet read passes
    rcases relays_of_passesOn passes with ⟨next, relays⟩
    exact (passesOn_of_relays relays).2.sound_iff.mp (sound packet next read relays)
  · intro room packet next read relays
    rcases passesOn_of_relays relays with ⟨passes, step⟩
    exact step.sound_iff.mpr (room packet read passes)

namespace Sample

def worn : ClampPacket := { spam with hopAuth.hopCounter := 255 }

theorem worn_passesOn : (wary spamCrates).PassesOn receiveEnv worn (nodeId 1) := by
  have new : worn.header.packetId ∉ (wary spamCrates).router.packetCache.recent := List.not_mem_nil
  have payload : spamCrates.broadcastFromSlice worn.ciphertext = some spamPayload := by
    simp only [worn, spamCrates, if_true]
  refine ⟨(admits_of_broadcast rfl).mpr new, ?_, fun _ => ⟨spamPayload, payload⟩⟩
  change (5 : UInt8) > 0
  decide

end Sample

/-- A broadcast whose hop counter is 255 is accepted, and its counter overflows. -/
theorem hop_counter_overflows :
    ¬ RelaysSoundly (Sample.wary Sample.spamCrates) Sample.receiveEnv Sample.worn.encode
      (Sample.nodeId 1) := by
  intro sound
  have read := ClampPacket.decode_encode Sample.worn ⟨rfl, rfl⟩
  rcases relays_of_passesOn Sample.worn_passesOn with ⟨next, relays⟩
  have room := (passesOn_of_relays relays).2.sound_iff.mp (sound _ _ read relays)
  have low : (255 : UInt8) < ttlMax := room.2
  exact absurd low (by decide)

inductive Travels (crates : Crates) (first : Bytes) : Bytes → Prop
  | origin : Travels crates first first
  | hop {raw : Bytes} {packet next : ClampPacket} (node : AppState crates) (env : ReceiveEnv)
      (senderKey : String) (travels : Travels crates first raw)
      (read : ClampPacket.decode raw = .ok packet)
      (relays : node.relayed env packet senderKey = some next) :
      Travels crates first next.encode

def Budgeted (packet : ClampPacket) : Prop :=
  packet.header.ttl.toNat + packet.hopAuth.hopCounter.toNat ≤ ttlMax.toNat

theorem budgeted_step {packet next : ClampPacket} (step : RelayStep packet next)
    (budgeted : Budgeted packet) : SoundStep packet next ∧ Budgeted next := by
  have live : 0 < packet.header.ttl.toNat := UInt8.lt_iff_toNat_lt.mp step.live
  have sound : SoundStep packet next := by
    rw [step.sound_iff, UInt8.le_iff_toNat_le, UInt8.lt_iff_toNat_lt]
    unfold Budgeted at budgeted
    omega
  refine ⟨sound, ?_⟩
  have ttl := sound.ttl_exact
  have hop := sound.hop_exact
  unfold Budgeted at budgeted ⊢
  omega

theorem sound_of_budgeted {first raw : Bytes} {packet : ClampPacket}
    (read : ClampPacket.decode first = .ok packet) (budgeted : Budgeted packet)
    (travels : Travels crates first raw) (node : AppState crates) (env : ReceiveEnv)
    (senderKey : String) : RelaysSoundly node env raw senderKey := by
  have kept : ∃ copy, ClampPacket.decode raw = .ok copy ∧ Budgeted copy := by
    induction travels with
    | origin => exact ⟨packet, read, budgeted⟩
    | hop node env senderKey travels read' relays ih =>
        rcases ih with ⟨copy, read'', budgeted⟩
        rw [read'] at read''
        cases read''
        have step := (passesOn_of_relays relays).2
        have genuine := step.genuine (ClampPacket.decode_eq_ok.mp read').1
        exact ⟨_, ClampPacket.decode_encode _ genuine, (budgeted_step step budgeted).2⟩
  rcases kept with ⟨copy, read', budgeted'⟩
  intro other next read'' relays
  rw [read'] at read''
  cases read''
  exact (budgeted_step (passesOn_of_relays relays).2 budgeted').1

end Caraka
