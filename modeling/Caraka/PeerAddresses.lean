import Caraka.Activity
import Caraka.Discovery
import Caraka.Commands.Connect
import Caraka.Foundation.Transition
import Caraka.Sample

/-! Whether the stored addresses of a peer stay dialable while it is sighted by beacons, Hellos and
Tor dials. -/

namespace Caraka

open Foundation

variable {crates : Crates}

structure PeerAddresses where
  ip : String
  port : UInt16
  onion : String

namespace PeerAddresses

/-- What `ON CONFLICT .. DO UPDATE` makes of the columns, or the insertion where no row is. -/
def merge (old : Option PeerAddresses) (seen : PeerAddresses) : PeerAddresses where
  ip := if seen.ip = "" then (old.map ip).getD "" else seen.ip
  port := seen.port
  onion := if seen.onion = "" then (old.map onion).getD "" else seen.onion

theorem merge_none (seen : PeerAddresses) : merge none seen = seen := by
  have filled (text : String) : (if text = "" then "" else text) = text := by
    split
    · rename_i empty
      exact empty.symm
    · rfl
  rw [merge, Option.map_none, Option.map_none, Option.getD_none, filled, filled]

end PeerAddresses

def PeerRow.addresses (row : PeerRow) : PeerAddresses := ⟨row.ipAddress, row.tcpPort,
  row.onionAddress⟩

def Store.addresses (store : Store) (nodeId : String) : Option PeerAddresses :=
  (store.peers.get? nodeId).map PeerRow.addresses

theorem addresses_upsertPeer (store : Store) (peer : PeerRecord) :
    (store.upsertPeer peer).addresses peer.nodeId =
      some (PeerAddresses.merge (store.addresses peer.nodeId) peer.toPeerRow.addresses) := by
  rw [Store.addresses, Store.upsertPeer, AssocMap.get?_insert_self, Store.addresses]
  cases store.peers.get? peer.nodeId with
  | none => exact congrArg some (PeerAddresses.merge_none _).symm
  | some old => rfl

/-- One sighting of a peer: what reaches the node, and where the peer listens at the time. -/
inductive Sighting where
  | beacon (now : UInt64) (data : Bytes) (srcAddr : SocketAddr) (listening : UInt16)
  | helloInbound (env : ReceiveEnv) (raw : Bytes) (senderKey : String) (addr : SocketAddr)
      (listening : UInt16)
  /-- On a connection this node dialled, so that the peer listens on its port. -/
  | helloOutbound (env : ReceiveEnv) (raw : Bytes) (senderKey : String) (addr : SocketAddr)
  | helloTorInbound (env : ReceiveEnv) (raw : Bytes) (senderKey connId : String)
  | helloTorOutbound (env : ReceiveEnv) (raw : Bytes) (senderKey onion : String)
  | connectViaTor (tor : TorState) (now : UInt64) (onionAddress : String)

def Introduces (crates : Crates) (peer : NodePublicKey) (raw : Bytes) : Prop :=
  ∃ packet, ClampPacket.decode raw = .ok packet ∧ packet.header.packetType = .hello ∧
    (((crates.valueFromSlice packet.ciphertext).getD .other).member "nodeId").asStr =
      some (Hex.encode peer.bytes)

section Seen

variable (fromBytes : Bytes → Option PeerBeacon) (toLowercase : String → String)
  (peer : NodePublicKey)

namespace Sighting

/-- The sightings that an honest peer gives rise to. -/
def Of (crates : Crates) : Sighting → Prop
  | beacon _ data srcAddr listening =>
    srcAddr.ip ≠ "" ∧ ∃ displayName,
      fromBytes data = some (PeerBeacon.new peer displayName listening)
  | helloInbound _ raw _ addr _ | helloOutbound _ raw _ addr =>
    addr.ip ≠ "" ∧ Introduces crates peer raw
  | helloTorInbound _ raw _ _ | helloTorOutbound _ raw _ _ => Introduces crates peer raw
  | connectViaTor .. => True

/-- Where a sighting on the local network says the peer listens. -/
def lan : Sighting → Option (String × UInt16)
  | beacon _ _ srcAddr listening => some (srcAddr.ip, listening)
  | helloInbound _ _ _ addr listening => some (addr.ip, listening)
  | helloOutbound _ _ _ addr => some (addr.ip, addr.port)
  | helloTorInbound .. | helloTorOutbound .. | connectViaTor .. => none

/-- Whether `connect_via_tor` gets past its checks. -/
def Dials : Sighting → Prop
  | connectViaTor tor _ onionAddress =>
    endsWith (toLowercase (trim onionAddress)) ".onion" = true ∧ tor = .ready
  | beacon .. | helloInbound .. | helloOutbound .. | helloTorInbound .. | helloTorOutbound .. =>
    False

instance : (sighting : Sighting) → Decidable (sighting.Dials toLowercase)
  | connectViaTor .. => inferInstanceAs (Decidable (_ ∧ _))
  | beacon .. | helloInbound .. | helloOutbound .. | helloTorInbound .. | helloTorOutbound .. =>
    inferInstanceAs (Decidable False)

/-- The columns that a sighting hands to `upsert_peer`. -/
def written : Sighting → Option PeerAddresses
  | beacon _ _ srcAddr listening => some ⟨srcAddr.ip, listening, ""⟩
  | helloInbound _ _ _ addr _ | helloOutbound _ _ _ addr => some ⟨addr.ip, addr.port, ""⟩
  | helloTorInbound .. => some ⟨"", torVirtualPort, ""⟩
  | helloTorOutbound _ _ _ onion => some ⟨"", torVirtualPort, onion⟩
  | connectViaTor tor now onionAddress =>
    if (connectViaTor tor now onionAddress).Dials toLowercase then
      some ⟨"", torVirtualPort, toLowercase (trim onionAddress)⟩
    else none

/-- The onion address seen, empty where there is none. -/
def onion : Sighting → String
  | helloTorOutbound _ _ _ onion => onion
  | connectViaTor tor now onionAddress =>
    if (connectViaTor tor now onionAddress).Dials toLowercase then
      toLowercase (trim onionAddress)
    else ""
  | beacon .. | helloInbound .. | helloOutbound .. | helloTorInbound .. => ""

end Sighting

def AppState.sight (node : AppState crates) : Sighting → AppState crates
  | .beacon now data srcAddr _ => (receiveDatagram fromBytes node now data srcAddr).1
  | .helloInbound env raw senderKey addr _ | .helloOutbound env raw senderKey addr =>
    (processIncomingPacket node env raw senderKey (.lan addr)).1
  | .helloTorInbound env raw senderKey connId =>
    (processIncomingPacket node env raw senderKey (.torInbound connId)).1
  | .helloTorOutbound env raw senderKey onion =>
    (processIncomingPacket node env raw senderKey (.torOutbound onion)).1
  | .connectViaTor tor now onionAddress =>
    (connectViaTor toLowercase node tor now onionAddress (some (Hex.encode peer.bytes))).node

end Seen

section Steps

variable {fromBytes : Bytes → Option PeerBeacon} {toLowercase : String → String}
  {peer : NodePublicKey} {node : AppState crates}

theorem addresses_hello (env : ReceiveEnv) {raw : Bytes} (senderKey : String) (kind : ConnKind)
    (hello : Introduces crates peer raw) :
    (processIncomingPacket node env raw senderKey kind).1.store.addresses
        (Hex.encode peer.bytes) =
      some (PeerAddresses.merge (node.store.addresses (Hex.encode peer.bytes)) (
        match kind with
        | .lan addr => ⟨addr.ip, addr.port, ""⟩
        | .torOutbound onion => ⟨"", torVirtualPort, onion⟩
        | .torInbound _ => ⟨"", torVirtualPort, ""⟩)) := by
  rcases hello with ⟨packet, read, type, named⟩
  simp only [processIncomingPacket, read, type, handleHello, named, Option.getD_some,
    savePeerFromHello]
  have stored := addresses_upsertPeer node.store
  cases kind with
  | lan addr => exact stored { nodeId := Hex.encode peer.bytes, .. }
  | torOutbound onion => exact stored { nodeId := Hex.encode peer.bytes, .. }
  | torInbound connId => exact stored { nodeId := Hex.encode peer.bytes, .. }

theorem addresses_beacon {now : UInt64} {data : Bytes} {srcAddr : SocketAddr} {listening : UInt16}
    {displayName : String} (other : node.identity.nodeIdHex ≠ Hex.encode peer.bytes)
    (read : fromBytes data = some (PeerBeacon.new peer displayName listening)) :
    (receiveDatagram fromBytes node now data srcAddr).1.store.addresses (Hex.encode peer.bytes) =
      some (PeerAddresses.merge (node.store.addresses (Hex.encode peer.bytes))
        ⟨srcAddr.ip, listening, ""⟩) := by
  have valid : ¬ (PeerBeacon.new peer displayName listening).isValid = false := by
    rw [PeerBeacon.isValid_new]
    exact Bool.noConfusion
  have foreign : node.identity.nodeIdHex ≠ (PeerBeacon.new peer displayName listening).nodeId :=
    other
  rw [receiveDatagram, read]
  dsimp only
  rw [if_neg valid, if_neg foreign]
  exact addresses_upsertPeer node.store { nodeId := Hex.encode peer.bytes, .. }

theorem addresses_connectViaTor (tor : TorState) (now : UInt64) (onionAddress : String) :
    (connectViaTor toLowercase node tor now onionAddress
        (some (Hex.encode peer.bytes))).node.store.addresses (Hex.encode peer.bytes) =
      if (Sighting.connectViaTor tor now onionAddress).Dials toLowercase then
        some (PeerAddresses.merge (node.store.addresses (Hex.encode peer.bytes))
          ⟨"", torVirtualPort, toLowercase (trim onionAddress)⟩)
      else node.store.addresses (Hex.encode peer.bytes) := by
  split
  · rename_i dials
    rcases dials with ⟨suffix, rfl⟩
    rcases torPeerRecord_encode (node.store.peers.get? (Hex.encode peer.bytes)) now peer.bytes
      (toLowercase (trim onionAddress)) with ⟨displayName, trustScore, made⟩
    rw [connectViaTor_ready suffix made]
    exact addresses_upsertPeer node.store { nodeId := Hex.encode peer.bytes, .. }
  · rename_i refused
    rw [connectViaTor_refused _ refused]

theorem addresses_sight {sighting : Sighting}
    (other : node.identity.nodeIdHex ≠ Hex.encode peer.bytes)
    (honest : sighting.Of fromBytes peer crates) :
    (node.sight fromBytes toLowercase peer sighting).store.addresses (Hex.encode peer.bytes) =
      match sighting.written toLowercase with
      | none => node.store.addresses (Hex.encode peer.bytes)
      | some seen =>
        some (PeerAddresses.merge (node.store.addresses (Hex.encode peer.bytes)) seen) := by
  cases sighting with
  | beacon now data srcAddr listening =>
      rcases honest with ⟨-, displayName, read⟩
      exact addresses_beacon other read
  | helloInbound env raw senderKey addr listening => exact addresses_hello env senderKey _ honest.2
  | helloOutbound env raw senderKey addr => exact addresses_hello env senderKey _ honest.2
  | helloTorInbound env raw senderKey connId => exact addresses_hello env senderKey _ honest
  | helloTorOutbound env raw senderKey onion => exact addresses_hello env senderKey _ honest
  | connectViaTor tor now onionAddress =>
      rw [AppState.sight, addresses_connectViaTor, Sighting.written]
      split <;> rfl

theorem identity_sight (sighting : Sighting) :
    (node.sight fromBytes toLowercase peer sighting).identity = node.identity := by
  cases sighting with
  | beacon now data srcAddr listening =>
      rw [AppState.sight, receiveDatagram]
      split
      · rfl
      · split_ifs <;> rfl
  | helloInbound => exact (evolves_processIncomingPacket ..).1.identity_eq
  | helloOutbound => exact (evolves_processIncomingPacket ..).1.identity_eq
  | helloTorInbound => exact (evolves_processIncomingPacket ..).1.identity_eq
  | helloTorOutbound => exact (evolves_processIncomingPacket ..).1.identity_eq
  | connectViaTor tor now onionAddress =>
      rw [AppState.sight]
      by_cases dials : (Sighting.connectViaTor tor now onionAddress).Dials toLowercase
      · rcases dials with ⟨suffix, rfl⟩
        rcases torPeerRecord_encode (node.store.peers.get? (Hex.encode peer.bytes)) now peer.bytes
          (toLowercase (trim onionAddress)) with ⟨displayName, trustScore, made⟩
        rw [connectViaTor_ready suffix made]
      · rw [connectViaTor_refused _ dials]

end Steps

variable (crates) in
structure Observed where
  node : AppState crates
  lastLan : Option (String × UInt16)
  lastOnion : String

namespace Observed

/-- Nothing seen of the peer yet. -/
def start (node : AppState crates) : Observed crates := ⟨node, none, ""⟩

variable (fromBytes : Bytes → Option PeerBeacon) (toLowercase : String → String)
  (peer : NodePublicKey)

def step (observed : Observed crates) (sighting : Sighting) : Observed crates where
  node := observed.node.sight fromBytes toLowercase peer sighting
  lastLan := sighting.lan.or observed.lastLan
  lastOnion :=
    if sighting.onion toLowercase = "" then observed.lastOnion else sighting.onion toLowercase

/-- The row holds the pair of the last sighting on the local network and the last onion address,
and only that pair is dialled. -/
structure Dialable (observed : Observed crates) : Prop where
  pair : ∀ ip listening, observed.lastLan = some (ip, listening) →
    ∃ row, observed.node.store.peers.get? (Hex.encode peer.bytes) = some row ∧
      row.ipAddress = ip ∧ row.tcpPort = listening
  onion : ∀ row, observed.node.store.peers.get? (Hex.encode peer.bytes) = some row →
    row.onionAddress = observed.lastOnion
  dials : ∀ dial ∈ reconnectKnownPeers observed.node, dial.nodeId = Hex.encode peer.bytes →
    observed.lastLan = some (dial.ip, dial.port)

/-- The port that the sighting writes is the one the peer was last said to listen on: an inbound
connection comes from that port, and a sighting over Tor finds no other port than the virtual. -/
def KeepsPort (observed : Observed crates) : Sighting → Prop
  | .beacon .. | .helloOutbound .. => True
  | .helloInbound _ _ _ addr listening => addr.port = listening
  | .helloTorInbound .. | .helloTorOutbound .. =>
    ∀ ip listening, observed.lastLan = some (ip, listening) → listening = torVirtualPort
  | .connectViaTor tor now onionAddress =>
    (Sighting.connectViaTor tor now onionAddress).Dials toLowercase →
      ∀ ip listening, observed.lastLan = some (ip, listening) → listening = torVirtualPort

structure Tracked (observed : Observed crates) : Prop where
  other : observed.node.identity.nodeIdHex ≠ Hex.encode peer.bytes
  ip_ne : ∀ ip listening, observed.lastLan = some (ip, listening) → ip ≠ ""
  ip_eq : ((observed.node.store.addresses (Hex.encode peer.bytes)).map PeerAddresses.ip).getD "" =
    (observed.lastLan.map Prod.fst).getD ""
  onion_eq :
    ((observed.node.store.addresses (Hex.encode peer.bytes)).map PeerAddresses.onion).getD "" =
      observed.lastOnion

variable {fromBytes toLowercase peer}

theorem written_spec {sighting : Sighting} (honest : sighting.Of fromBytes peer crates) :
    (∀ ip listening, sighting.lan = some (ip, listening) → ip ≠ "") ∧
      match sighting.written toLowercase with
      | none => sighting.lan = none ∧ sighting.onion toLowercase = ""
      | some seen => seen.ip = (sighting.lan.map Prod.fst).getD "" ∧
          seen.onion = sighting.onion toLowercase := by
  cases sighting with
  | beacon now data srcAddr listening =>
      refine ⟨fun ip port same => ?_, rfl, rfl⟩
      cases same
      exact honest.1
  | helloInbound env raw senderKey addr listening =>
      refine ⟨fun ip port same => ?_, rfl, rfl⟩
      cases same
      exact honest.1
  | helloOutbound env raw senderKey addr =>
      refine ⟨fun ip port same => ?_, rfl, rfl⟩
      cases same
      exact honest.1
  | helloTorInbound =>
      refine ⟨fun ip port same => ?_, rfl, rfl⟩
      cases same
  | helloTorOutbound =>
      refine ⟨fun ip port same => ?_, rfl, rfl⟩
      cases same
  | connectViaTor tor now onionAddress =>
      constructor
      · intro ip port same
        cases same
      · simp only [Sighting.written, Sighting.onion]
        by_cases dials : (Sighting.connectViaTor tor now onionAddress).Dials toLowercase
        · rw [if_pos dials, if_pos dials]
          exact ⟨rfl, rfl⟩
        · rw [if_neg dials, if_neg dials]
          exact ⟨rfl, rfl⟩

theorem keepsPort_iff {observed : Observed crates} {sighting : Sighting} :
    observed.KeepsPort toLowercase sighting ↔
      ∀ seen, sighting.written toLowercase = some seen → ∀ ip listening,
        (sighting.lan.or observed.lastLan) = some (ip, listening) → seen.port = listening := by
  cases sighting with
  | beacon => simp [KeepsPort, Sighting.written, Sighting.lan]
  | helloInbound => simp [KeepsPort, Sighting.written, Sighting.lan]
  | helloOutbound => simp [KeepsPort, Sighting.written, Sighting.lan]
  | helloTorInbound => simp [KeepsPort, Sighting.written, Sighting.lan, eq_comm]
  | helloTorOutbound => simp [KeepsPort, Sighting.written, Sighting.lan, eq_comm]
  | connectViaTor tor now onionAddress =>
      simp only [KeepsPort, Sighting.written, Sighting.lan, Option.none_or]
      split <;> simp_all [eq_comm]

theorem tracked_step {observed : Observed crates} {sighting : Sighting}
    (honest : sighting.Of fromBytes peer crates) (tracked : observed.Tracked peer) :
    (observed.step fromBytes toLowercase peer sighting).Tracked peer := by
  have columns := @addresses_sight _ fromBytes toLowercase peer observed.node sighting
    tracked.other honest
  rcases @written_spec _ fromBytes toLowercase peer sighting honest with ⟨filled, seen_eq⟩
  have nonempty : ∀ ip listening, sighting.lan.or observed.lastLan = some (ip, listening) →
      ip ≠ "" := by
    intro ip listening last
    cases lan : sighting.lan with
    | none =>
        rw [lan, Option.none_or] at last
        exact tracked.ip_ne ip listening last
    | some pair =>
        rw [lan, Option.some_or] at last
        exact filled ip listening (lan.trans last)
  constructor
  · rw [step, identity_sight]
    exact tracked.other
  · exact nonempty
  · simp only [step, columns]
    cases written : sighting.written toLowercase with
    | none =>
        rw [written] at seen_eq
        rw [seen_eq.1, Option.none_or]
        exact tracked.ip_eq
    | some seen =>
        rw [written] at seen_eq
        simp only [Option.map_some, Option.getD_some, PeerAddresses.merge, seen_eq.1]
        cases lan : sighting.lan with
        | none => exact tracked.ip_eq
        | some pair => exact if_neg (filled pair.1 pair.2 lan)
  · simp only [step, columns]
    cases written : sighting.written toLowercase with
    | none =>
        rw [written] at seen_eq
        rw [seen_eq.2, if_pos rfl]
        exact tracked.onion_eq
    | some seen =>
        rw [written] at seen_eq
        simp only [Option.map_some, Option.getD_some, PeerAddresses.merge, seen_eq.2,
          tracked.onion_eq]

theorem dialable_iff {observed : Observed crates} (tracked : observed.Tracked peer) :
    observed.Dialable peer ↔ ∀ row ip listening,
      observed.node.store.peers.get? (Hex.encode peer.bytes) = some row →
      observed.lastLan = some (ip, listening) → row.tcpPort = listening := by
  have ip_eq := tracked.ip_eq
  have onion_eq := tracked.onion_eq
  rw [Store.addresses] at ip_eq onion_eq
  constructor
  · intro dialable row ip listening stored last
    rcases dialable.pair ip listening last with ⟨row', stored', -, port⟩
    rw [stored] at stored'
    cases stored'
    exact port
  · intro port
    refine ⟨?_, ?_, ?_⟩
    · intro ip listening last
      rw [last] at ip_eq
      cases stored : observed.node.store.peers.get? (Hex.encode peer.bytes) with
      | none =>
          rw [stored] at ip_eq
          exact absurd ip_eq.symm (tracked.ip_ne ip listening last)
      | some row =>
          rw [stored] at ip_eq
          exact ⟨row, rfl, ip_eq, port row ip listening stored last⟩
    · intro row stored
      rw [stored] at onion_eq
      exact onion_eq
    · intro dial member named
      rcases List.mem_map.mp member with ⟨record, kept, rfl⟩
      rcases List.mem_filter.mp kept with ⟨listed, filled⟩
      have stored := Store.get?_of_mem_getAllPeers listed
      change record.nodeId = _ at named
      rw [named] at stored
      rw [stored] at ip_eq
      cases last : observed.lastLan with
      | none =>
          rw [last] at ip_eq
          exact absurd ip_eq (of_decide_eq_true filled)
      | some pair =>
          rw [last] at ip_eq
          have same := port _ pair.1 pair.2 stored last
          exact congrArg some (Prod.ext ip_eq.symm same.symm)

theorem tracked_start {node : AppState crates}
    (other : node.identity.nodeIdHex ≠ Hex.encode peer.bytes)
    (unknown : node.store.peers.get? (Hex.encode peer.bytes) = none) :
    (start node).Tracked peer := by
  refine ⟨other, fun ip listening last => ?_, ?_, ?_⟩
  · cases last
  · rw [start, Store.addresses, unknown]
    rfl
  · rw [start, Store.addresses, unknown]
    rfl

theorem dialable_start {node : AppState crates}
    (other : node.identity.nodeIdHex ≠ Hex.encode peer.bytes)
    (unknown : node.store.peers.get? (Hex.encode peer.bytes) = none) :
    (start node).Dialable peer := by
  apply (dialable_iff (tracked_start other unknown)).mpr
  intro row ip listening stored last
  cases last

theorem dialable_step_iff {observed : Observed crates} {sighting : Sighting}
    (honest : sighting.Of fromBytes peer crates) (tracked : observed.Tracked peer)
    (dialable : observed.Dialable peer) :
    (observed.step fromBytes toLowercase peer sighting).Dialable peer ↔
      observed.KeepsPort toLowercase sighting := by
  have columns := @addresses_sight _ fromBytes toLowercase peer observed.node sighting
    tracked.other honest
  have seen_eq := (@written_spec _ fromBytes toLowercase peer sighting honest).2
  rw [dialable_iff (tracked_step honest tracked), keepsPort_iff]
  cases written : sighting.written toLowercase with
  | none =>
      rw [written] at seen_eq columns
      simp only [step, seen_eq.1, Option.none_or, reduceCtorEq, false_implies, implies_true,
        iff_true]
      intro row ip listening stored last
      rw [Store.addresses, stored] at columns
      rcases Option.map_eq_some_iff.mp columns.symm with ⟨old, stored', same⟩
      have port : old.tcpPort = row.tcpPort := congrArg PeerAddresses.port same
      rw [← port]
      exact (dialable_iff tracked).mp dialable old ip listening stored' last
  | some seen =>
      rw [written] at columns
      rcases Option.map_eq_some_iff.mp columns with ⟨row, stored, same⟩
      have port : row.tcpPort = seen.port := congrArg PeerAddresses.port same
      constructor
      · intro each seen' written' ip listening last
        cases written'
        rw [← port]
        exact each row ip listening stored last
      · intro each row' ip listening stored' last
        change (observed.node.sight ..).store.peers.get? _ = _ at stored'
        rw [stored] at stored'
        cases stored'
        rw [port]
        exact each seen rfl ip listening last

end Observed

/-- In every state of a run the stored pair is the one of the last sighting on the local network,
exactly when every sighting keeps the port. -/
theorem stored_addresses_dialable_iff (fromBytes : Bytes → Option PeerBeacon)
    (toLowercase : String → String) (node : AppState crates) (peer : NodePublicKey)
    (other : node.identity.nodeIdHex ≠ Hex.encode peer.bytes)
    (unknown : node.store.peers.get? (Hex.encode peer.bytes) = none) (sightings : List Sighting)
    (honest : ∀ sighting ∈ sightings, sighting.Of fromBytes peer crates) :
    Always (Observed.step fromBytes toLowercase peer) (Observed.Dialable peer)
        (Observed.start node) sightings ↔
      Along (Observed.step fromBytes toLowercase peer) (Observed.KeepsPort toLowercase)
        (Observed.start node) sightings := by
  exact @always_iff_along_of_mem _ _ _ _ (Observed.Tracked peer) _
    (Sighting.Of fromBytes peer crates)
    (fun observed sighting honest tracked => Observed.tracked_step honest tracked)
    (fun observed sighting honest tracked => Observed.dialable_step_iff honest tracked)
    (Observed.start node) sightings honest (Observed.tracked_start other unknown)
    (Observed.dialable_start other unknown)

namespace Sample

def beaconText : String :=
  "\x7b\"protocol\":\"CARAKA-v1\",\"node_id\":\"" ++ nodeId 1 ++
    "\",\"display_name\":\"User\",\"tcp_port\":7771,\"version\":1\x7d"

def beaconFromBytes (data : Bytes) : Option PeerBeacon :=
  if data = utf8 beaconText then some (PeerBeacon.new (key 1) "User" 7771) else none

def lanAddr (port : UInt16) : SocketAddr := ⟨"192.168.1.7", false, port⟩

def seenBeacon : Sighting := .beacon 1000 (utf8 beaconText) (lanAddr 7770) 7771

def seenHello (port : UInt16) : Sighting :=
  .helloInbound receiveEnv hello (nodeId 1) (lanAddr port) 7771

theorem lan_named (port : UInt16) : (lanAddr port).ip ≠ "" := by
  change "192.168.1.7" ≠ ""
  decide

theorem beacon_honest : seenBeacon.Of beaconFromBytes (key 1) helloCrates :=
  ⟨lan_named 7770, "User", if_pos rfl⟩

theorem hello_honest (port : UInt16) :
    (seenHello port).Of beaconFromBytes (key 1) helloCrates := by
  refine ⟨lan_named port, _, ClampPacket.decode_encode _ ⟨rfl, rfl⟩, rfl, ?_⟩
  have parsed : helloCrates.valueFromSlice (ClampPacket.buildHello (key 1) "User"
      (octets 4 0)).ciphertext =
        some (.object [("displayName", .string "User"), ("nodeId", .string (nodeId 1))]) := by
    simp only [helloCrates, if_true]
  rw [parsed]
  rfl

theorem node_two_other :
    (node helloCrates 2 []).identity.nodeIdHex ≠ Hex.encode (key 1).bytes := by
  intro same
  exact absurd (Hex.encode_injective same) (by decide)

end Sample

/-- A beacon and a Hello that came from the port the peer listens on. -/
theorem stored_addresses_dialable_iff_beacon :
    Always (Observed.step Sample.beaconFromBytes id (Sample.key 1))
      (Observed.Dialable (Sample.key 1)) (Observed.start (Sample.node Sample.helloCrates 2 []))
      [Sample.seenBeacon, Sample.seenHello 7771] := by
  have honest : ∀ sighting ∈ [Sample.seenBeacon, Sample.seenHello 7771],
      sighting.Of Sample.beaconFromBytes (Sample.key 1) Sample.helloCrates := by
    simp only [List.forall_mem_cons]
    exact ⟨Sample.beacon_honest, Sample.hello_honest 7771,
      fun _ member => absurd member List.not_mem_nil⟩
  exact (stored_addresses_dialable_iff Sample.beaconFromBytes id _ (Sample.key 1)
    Sample.node_two_other rfl _ honest).mpr ⟨trivial, rfl, trivial⟩

/-- A peer that listens on 7771 connects from port 50123: that port is stored and dialled. -/
theorem inbound_hello_stores_source_port :
    (Sample.seenHello 50123).Of Sample.beaconFromBytes (Sample.key 1) Sample.helloCrates ∧
      ¬ Always (Observed.step Sample.beaconFromBytes id (Sample.key 1))
        (Observed.Dialable (Sample.key 1))
        (Observed.start (Sample.node Sample.helloCrates 2 [])) [Sample.seenHello 50123] := by
  refine ⟨Sample.hello_honest 50123, fun always => ?_⟩
  have tracked := @Observed.tracked_start _ (Sample.key 1) _ Sample.node_two_other rfl
  have dialable := @Observed.dialable_start _ (Sample.key 1) _ Sample.node_two_other rfl
  have kept := (Observed.dialable_step_iff (Sample.hello_honest 50123) tracked dialable).mp always.2
  change (50123 : UInt16) = 7771 at kept
  exact absurd kept (by decide)

end Caraka
