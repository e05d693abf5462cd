import Caraka.Discovery
import Caraka.Foundation.Subnets
import Caraka.FrameSizes
import Caraka.InviteCodes
import Mathlib.Data.List.Flatten
import Mathlib.Tactic.IntervalCases

/-! The broadcaster of `discovery.rs` against its listener: where the beacons of a node go, who
hears them, and what the nodes of a network come to know of each other. -/

namespace Caraka

open Foundation

namespace Ipv4Addr

/-- `u32::from`. -/
def toU32 (ip : Ipv4Addr) : BitVec 32 :=
  ip.a.toBitVec ++ ip.b.toBitVec ++ ip.c.toBitVec ++ ip.d.toBitVec

/-- `Ipv4Addr::from`. -/
def ofU32 (bits : BitVec 32) : Ipv4Addr where
  a := ⟨bits.extractLsb' 24 8⟩
  b := ⟨bits.extractLsb' 16 8⟩
  c := ⟨bits.extractLsb' 8 8⟩
  d := ⟨bits.extractLsb' 0 8⟩

theorem getLsbD_octet {bits : BitVec 32} {start offset i : Nat} (inside : offset < 8)
    (index : start + offset = i) : (bits.extractLsb' start 8).getLsbD offset = bits.getLsbD i := by
  rw [BitVec.getLsbD_extractLsb', decide_eq_true inside, Bool.true_and, index]

theorem toU32_ofU32 (bits : BitVec 32) : (ofU32 bits).toU32 = bits := by
  apply BitVec.eq_of_getLsbD_eq
  intro i bound
  simp only [toU32, ofU32, BitVec.getLsbD_append]
  split_ifs with d c b
  · exact getLsbD_octet d (Nat.zero_add i)
  · exact getLsbD_octet c (by omega)
  · exact getLsbD_octet b (by omega)
  · exact getLsbD_octet (by omega) (by omega)

theorem ofU32_injective : Function.Injective ofU32 :=
  Function.LeftInverse.injective toU32_ofU32

def broadcastAll : Ipv4Addr := ⟨255, 255, 255, 255⟩

end Ipv4Addr

def discoveryPort : UInt16 := 7770

/-- `effective_discovery_port`, given what CARAKA_UDP_PORT is set to. -/
def effectiveDiscoveryPort (udpPort : Option String) : UInt16 :=
  (udpPort.bind parseU16).getD discoveryPort

structure SocketAddrV4 where
  ip : Ipv4Addr
  port : UInt16
  deriving DecidableEq

/-- The address an interface gives to `get_local_broadcast_addrs`. -/
def broadcastAddr? : IfAddr → Option Ipv4Addr
  | .v4 ip netmask =>
    if netmask.toU32 = 0 then none
    else
      let broadcast := ip.toU32 ||| ~~~netmask.toU32
      if broadcast = 0xFFFFFFFF then none
      else if (Ipv4Addr.ofU32 broadcast).isLoopback then none
      else if ip.isLinkLocal then none
      else some (Ipv4Addr.ofU32 broadcast)
  | .v6 _ => none

def getLocalBroadcastAddrs (udpPort : Option String) : IfAddrs → List SocketAddrV4
  | .error _ => [⟨.broadcastAll, discoveryPort⟩]
  | .ok ifaces =>
    let addrs := ((ifaces.filter fun iface => !iface.isLoopback).filterMap broadcastAddr?).map
      fun ip => ⟨ip, effectiveDiscoveryPort udpPort⟩
    if addrs.isEmpty then [⟨.broadcastAll, effectiveDiscoveryPort udpPort⟩]
    else addrs ++ [⟨.broadcastAll, effectiveDiscoveryPort udpPort⟩]

/-- `serde_json::to_vec`. -/
def PeerBeacon.toBytes (beacon : PeerBeacon) : Bytes :=
  Json.object [
    jsonString "protocol" beacon.protocol,
    jsonString "node_id" beacon.nodeId,
    jsonString "display_name" beacon.displayName,
    jsonNumber "tcp_port" beacon.tcpPort.toUInt64,
    jsonNumber "version" beacon.version.toUInt64]

structure LanEnv where
  ifaces : List IfAddr
  tcpPort : Option String
  udpPort : Option String

variable {crates : Crates}

def beaconOf (node : AppState crates) (env : LanEnv) : PeerBeacon :=
  .new node.identity.myNodeId node.displayName.val (effectiveDataPort env.tcpPort)

def buildBeacon (node : AppState crates) (env : LanEnv) : Option Bytes :=
  ((Hex.decode node.identity.nodeIdHex).bind (tryInto 32)).map fun arr =>
    (PeerBeacon.new arr node.displayName.val (effectiveDataPort env.tcpPort)).toBytes

/-- What `get_if_addrs` returns, given its error. -/
def LanEnv.read (env : LanEnv) : Option String → IfAddrs
  | some e => .error e
  | none => .ok env.ifaces

/-- The datagrams of one round of `start_broadcaster`. -/
def beaconRound (node : AppState crates) (env : LanEnv) (readError : Option String) :
    List (SocketAddrV4 × Bytes) :=
  match buildBeacon node env with
  | none => []
  | some beacon =>
    (getLocalBroadcastAddrs env.udpPort (env.read readError)).map fun target => (target, beacon)

theorem buildBeacon_eq (node : AppState crates) (env : LanEnv) :
    buildBeacon node env = some (beaconOf node env).toBytes := by
  rw [buildBeacon, node.identity.nodeIdHex_eq, Hex.decode_encode, Option.bind_some, tryInto_bytes]
  rfl

/-- An interface that a beacon is sent out of by its own broadcast address. -/
def IfAddr.Announces (iface : IfAddr) (ip netmask : Ipv4Addr) : Prop :=
  iface = .v4 ip netmask ∧ ip.isLoopback = false ∧ ip.isLinkLocal = false ∧ netmask.toU32 ≠ 0 ∧
    Subnet.broadcast netmask.toU32 ip.toU32 ≠ 0xFFFFFFFF ∧
    (Ipv4Addr.ofU32 (Subnet.broadcast netmask.toU32 ip.toU32)).isLoopback = false

theorem broadcastAddr?_v4 (ip netmask : Ipv4Addr) : broadcastAddr? (.v4 ip netmask) =
    if netmask.toU32 = 0 then none
    else if Subnet.broadcast netmask.toU32 ip.toU32 = 0xFFFFFFFF then none
    else if (Ipv4Addr.ofU32 (Subnet.broadcast netmask.toU32 ip.toU32)).isLoopback then none
    else if ip.isLinkLocal then none
    else some (.ofU32 (Subnet.broadcast netmask.toU32 ip.toU32)) := rfl

theorem broadcastAddr?_eq_some {iface : IfAddr} {address : Ipv4Addr} :
    (iface.isLoopback = false ∧ broadcastAddr? iface = some address) ↔
      ∃ ip netmask, iface.Announces ip netmask ∧
        address = .ofU32 (Subnet.broadcast netmask.toU32 ip.toU32) := by
  cases iface with
  | v6 loopback =>
      constructor
      · rintro ⟨-, gives⟩
        cases gives
      · rintro ⟨ip, netmask, ⟨same, -⟩, -⟩
        cases same
  | v4 ip netmask =>
      have looped : (IfAddr.v4 ip netmask).isLoopback = ip.isLoopback := rfl
      rw [looped, broadcastAddr?_v4]
      constructor
      · rintro ⟨outside, gives⟩
        split_ifs at gives with unset whole looping link
        refine ⟨ip, netmask, ⟨rfl, outside, ?_, unset, whole, ?_⟩, (Option.some.inj gives).symm⟩
        · exact Bool.eq_false_iff.mpr link
        · exact Bool.eq_false_iff.mpr looping
      · rintro ⟨ip', netmask', ⟨same, outside, link, set, whole, looping⟩, rfl⟩
        cases same
        refine ⟨outside, ?_⟩
        rw [if_neg set, if_neg whole, if_neg (Bool.eq_false_iff.mp looping),
          if_neg (Bool.eq_false_iff.mp link)]

theorem mem_getLocalBroadcastAddrs {udpPort : Option String} {ifaces : List IfAddr}
    {target : SocketAddrV4} :
    target ∈ getLocalBroadcastAddrs udpPort (.ok ifaces) ↔
      target.port = effectiveDiscoveryPort udpPort ∧
        (target.ip = .broadcastAll ∨ ∃ iface ∈ ifaces, ∃ ip netmask, iface.Announces ip netmask ∧
          target.ip = .ofU32 (Subnet.broadcast netmask.toU32 ip.toU32)) := by
  have listed : target ∈ getLocalBroadcastAddrs udpPort (.ok ifaces) ↔
      target ∈ ((ifaces.filter fun iface => !iface.isLoopback).filterMap broadcastAddr?).map
          (fun ip => ⟨ip, effectiveDiscoveryPort udpPort⟩) ∨
        target = ⟨.broadcastAll, effectiveDiscoveryPort udpPort⟩ := by
    rw [getLocalBroadcastAddrs]
    split_ifs with none
    · rw [List.isEmpty_iff.mp none]
      simp
    · rw [List.mem_append, List.mem_singleton]
  rw [listed]
  rcases target with ⟨address, port⟩
  constructor
  · rintro (member | everybody)
    · rcases List.mem_map.mp member with ⟨given, present, same⟩
      cases same
      rcases List.mem_filterMap.mp present with ⟨iface, kept, gives⟩
      rw [List.mem_filter, Bool.not_eq_true'] at kept
      rcases broadcastAddr?_eq_some.mp ⟨kept.2, gives⟩ with ⟨ip, netmask, announces, last⟩
      exact ⟨rfl, .inr ⟨iface, kept.1, ip, netmask, announces, last⟩⟩
    · cases everybody
      exact ⟨rfl, .inl rfl⟩
  · rintro ⟨rfl, rfl | ⟨iface, member, ip, netmask, announces, rfl⟩⟩
    · exact .inr rfl
    · rcases broadcastAddr?_eq_some.mpr ⟨ip, netmask, announces, rfl⟩ with ⟨outside, gives⟩
      refine .inl (List.mem_map.mpr ⟨_, List.mem_filterMap.mpr ⟨iface, ?_, gives⟩, rfl⟩)
      rw [List.mem_filter, Bool.not_eq_true']
      exact ⟨member, outside⟩

def IfAddr.accepts (target : Ipv4Addr) : IfAddr → Bool
  | v4 ip netmask =>
    target = ip ∨ target = .ofU32 (Subnet.broadcast netmask.toU32 ip.toU32) ∨
      target = .broadcastAll
  | v6 _ => false

def LanEnv.accepts (env : LanEnv) (target : SocketAddrV4) : Bool :=
  target.port = effectiveDiscoveryPort env.udpPort ∧
    env.ifaces.any (fun iface => iface.accepts target.ip) = true

theorem accepts_broadcast_iff {iface : IfAddr} {ip netmask : Ipv4Addr}
    (announces : iface.Announces ip netmask) (host : Ipv4Addr) :
    (IfAddr.v4 host netmask).accepts (.ofU32 (Subnet.broadcast netmask.toU32 ip.toU32)) = true ↔
      Subnet.Same netmask.toU32 ip.toU32 host.toU32 := by
  rcases announces with ⟨-, -, -, -, whole, -⟩
  rw [IfAddr.accepts, decide_eq_true_eq]
  constructor
  · rintro (own | last | everybody)
    · rw [← own, Ipv4Addr.toU32_ofU32]
      exact (Subnet.same_broadcast _ _).symm
    · exact Subnet.broadcast_eq_iff.mp (Ipv4Addr.ofU32_injective last)
    · apply absurd _ whole
      rw [← Ipv4Addr.toU32_ofU32 (Subnet.broadcast _ _), everybody]
      decide
  · intro same
    exact .inr (.inl (congrArg _ (Subnet.broadcast_eq_iff.mpr same)))

/-- An address is no business of an interface: one of IPv6, the loopback, or one whose subnet,
under whatever mask, does not hold the address. -/
def IfAddr.Apart (target : Ipv4Addr) : IfAddr → Prop
  | v4 host netmask =>
    host.isLoopback = true ∧ netmask = ⟨255, 0, 0, 0⟩ ∨
      ¬ Subnet.Same netmask.toU32 host.toU32 target.toU32
  | v6 _ => True

theorem broadcast_octet (host : Ipv4Addr) :
    (Ipv4Addr.ofU32 (Subnet.broadcast (Ipv4Addr.mk 255 0 0 0).toU32 host.toU32)).a = host.a := by
  have mask : (Ipv4Addr.mk 255 0 0 0).toU32 = 0xFF000000#32 := by decide
  apply UInt8.toBitVec_inj.mp
  apply BitVec.eq_of_getLsbD_eq
  intro i bound
  rw [mask, Ipv4Addr.ofU32, Ipv4Addr.toU32, Subnet.broadcast, Ipv4Addr.getLsbD_octet bound rfl,
    BitVec.getLsbD_or]
  simp only [BitVec.getLsbD_append]
  interval_cases i <;> simp

theorem not_accepts_of_apart {iface other : IfAddr} {ip netmask : Ipv4Addr}
    (announces : iface.Announces ip netmask)
    (apart : other.Apart (.ofU32 (Subnet.broadcast netmask.toU32 ip.toU32))) :
    ¬ other.accepts (.ofU32 (Subnet.broadcast netmask.toU32 ip.toU32)) = true := by
  rcases announces with ⟨-, -, -, -, whole, outside⟩
  rw [← Ipv4Addr.toU32_ofU32 (Subnet.broadcast _ _)] at whole
  generalize Ipv4Addr.ofU32 (Subnet.broadcast netmask.toU32 ip.toU32) = target at *
  intro accepted
  cases other with
  | v6 loopback => cases accepted
  | v4 host mask =>
      rw [IfAddr.accepts, decide_eq_true_eq] at accepted
      rcases accepted with rfl | rfl | rfl
      · rcases apart with ⟨loopback, -⟩ | different
        · rw [loopback] at outside
          cases outside
        · exact different rfl
      · rcases apart with ⟨loopback, rfl⟩ | different
        · rw [Ipv4Addr.isLoopback, broadcast_octet, ← Ipv4Addr.isLoopback, loopback] at outside
          cases outside
        · apply different
          rw [Ipv4Addr.toU32_ofU32]
          exact (Subnet.same_broadcast _ _).symm
      · exact whole (by decide)

theorem length_beaconOf_le (node : AppState crates) (env : LanEnv) :
    (beaconOf node env).toBytes.length ≤ 1024 := by
  have name : escapedLength node.displayName.val ≤ 6 * 50 :=
    Nat.le_trans (Json.length_escaped_le _) (Nat.mul_le_mul_left 6 node.displayName.property)
  have keys : escapedLength "protocol" = 8 ∧ escapedLength "node_id" = 7 ∧
      escapedLength "display_name" = 12 ∧ escapedLength "tcp_port" = 8 ∧
      escapedLength "version" = 7 ∧ escapedLength "CARAKA-v1" = 9 := by decide
  have id : escapedLength (Hex.encode node.identity.myNodeId.bytes) = 64 := by
    rw [escapedLength_encode, node.identity.myNodeId.length_eq]
  have port := decimals_le (effectiveDataPort env.tcpPort).toUInt64
  have version := decimals_le (1 : UInt8).toUInt64
  simp only [PeerBeacon.toBytes, beaconOf, PeerBeacon.new, Json.length_object, List.map_cons,
    List.map_nil, List.sum_cons, List.sum_nil, List.length_cons, List.length_nil,
    length_jsonString, length_jsonNumber, keys, id]
  omega

theorem length_trim_le (text : String) : (utf8 (trim text)).length ≤ (utf8 text).length := by
  have front : (text.toList.dropWhile isWhitespace).Sublist text.toList :=
    List.dropWhile_sublist isWhitespace
  have back : ((text.toList.dropWhile isWhitespace).reverse.dropWhile isWhitespace).Sublist
      (text.toList.dropWhile isWhitespace).reverse := List.dropWhile_sublist isWhitespace
  have kept := back.reverse
  rw [List.reverse_reverse] at kept
  rw [trim, utf8, utf8, String.toList_ofList]
  exact ((kept.trans front).flatMap _).length_le

/-- `set_display_name`, given the error met where the setting is saved. -/
def setDisplayName (node : AppState crates) (name : String) (saveError : Option String) :
    AppState crates × Except String Unit :=
  if empty : isBlank name ∨ 50 < (utf8 name).length then
    (node, .error "Display name harus 1–50 karakter")
  else
    match saveError with
    | some e => (node, .error ("Gagal simpan setting: " ++ e))
    | none =>
      let fits := Nat.le_trans (length_trim_le name) (Nat.le_of_not_lt (not_or.mp empty).2)
      ({ node with displayName := ⟨trim name, fits⟩ }, .ok ())

def beaconRecord (fromBytes : Bytes → Option PeerBeacon) (node : AppState crates) (now : UInt64)
    (data : Bytes) (srcAddr : SocketAddr) : Option PeerRecord :=
  (fromBytes data).bind fun beacon =>
    if beacon.isValid = true ∧ node.identity.nodeIdHex ≠ beacon.nodeId then
      some {
        nodeId := beacon.nodeId
        displayName := beacon.displayName
        lastSeen := now.toInt64.toInt
        ipAddress := srcAddr.ip
        tcpPort := beacon.tcpPort
        onionAddress := ""
        trustScore := 1 }
    else none

/-- What the frontend and the dialler are told of it. -/
def beaconEvents (peer : PeerRecord) : List DiscoveryEvent :=
  [.peerDiscovered peer.nodeId peer.displayName peer.ipAddress peer.tcpPort,
    .connectToPeer peer.ipAddress peer.tcpPort peer.nodeId]

theorem receiveDatagram_eq (fromBytes : Bytes → Option PeerBeacon) (node : AppState crates)
    (now : UInt64) (data : Bytes) (srcAddr : SocketAddr) :
    receiveDatagram fromBytes node now data srcAddr =
      match beaconRecord fromBytes node now data srcAddr with
      | none => (node, [])
      | some peer => ({ node with store := node.store.upsertPeer peer }, beaconEvents peer) := by
  rw [receiveDatagram, beaconRecord]
  cases fromBytes data with
  | none => rfl
  | some beacon =>
      rw [Option.bind_some]
      dsimp only
      by_cases invalid : beacon.isValid = false
      · rw [if_pos invalid, if_neg]
        rw [invalid]
        exact fun met => Bool.false_ne_true met.1
      · rw [if_neg invalid]
        by_cases own : node.identity.nodeIdHex = beacon.nodeId
        · rw [if_pos own, if_neg fun met => met.2 own]
        · rw [if_neg own, if_pos ⟨Bool.eq_true_of_not_eq_false invalid, own⟩]
          rfl

structure LanHost (crates : Crates) where
  node : AppState crates
  env : LanEnv
  /-- What its listener has emitted, the oldest first. -/
  events : List DiscoveryEvent

structure Datagram where
  source : SocketAddrV4
  target : SocketAddrV4
  data : Bytes

structure Lan (crates : Crates) (ι : Type) where
  hosts : ι → LanHost crates
  /-- Every datagram sent so far: it may still arrive anywhere, at any time, or never. -/
  air : List Datagram

inductive LanInput (ι : Type) where
  /-- A round of the broadcaster of a host, and the address its network layer sends from. -/
  | send (sender : ι) (readError : Option String) (source : SocketAddrV4 → SocketAddrV4)
  | arrive (listener : ι) (index : Nat) (now : UInt64)
  | rename (host : ι) (name : String) (saveError : Option String)
  | rewire (host : ι) (ifaces : List IfAddr)

namespace Lan

variable {ι : Type}

/-- The datagrams of a round, as they leave the host. -/
def round (host : LanHost crates) (readError : Option String)
    (source : SocketAddrV4 → SocketAddrV4) : List Datagram :=
  (beaconRound host.node host.env readError).map fun sent => ⟨source sent.1, sent.1, sent.2⟩

def arriving (net : Lan crates ι) (listener : ι) (index : Nat) : Option Datagram :=
  (net.air[index]?).filter fun datagram => (net.hosts listener).env.accepts datagram.target

def Datagram.srcAddr (datagram : Datagram) : SocketAddr :=
  ⟨datagram.source.ip.text, false, datagram.source.port⟩

section Steps

variable [DecidableEq ι] (fromBytes : Bytes → Option PeerBeacon)

def listen (host : LanHost crates) (now : UInt64) (datagram : Datagram) : LanHost crates :=
  let received := receiveDatagram fromBytes host.node now (datagram.data.take 1024)
    (Datagram.srcAddr datagram)
  { host with node := received.1, events := host.events ++ received.2 }

def step (net : Lan crates ι) : LanInput ι → Lan crates ι
  | .send sender readError source =>
    { net with air := net.air ++ round (net.hosts sender) readError source }
  | .arrive listener index now =>
    match net.arriving listener index with
    | none => net
    | some datagram =>
      { net with
        hosts := Function.update net.hosts listener
          (listen fromBytes (net.hosts listener) now datagram) }
  | .rename host name saveError =>
    { net with
      hosts := Function.update net.hosts host
        { net.hosts host with node := (setDisplayName (net.hosts host).node name saveError).1 } }
  | .rewire host ifaces =>
    { net with
      hosts := Function.update net.hosts host
        { net.hosts host with env := { (net.hosts host).env with ifaces } } }

def heard (host : ι) (net : Lan crates ι) : LanInput ι → Option PeerRecord
  | .arrive listener index now =>
    if listener = host then
      (net.arriving listener index).bind fun datagram =>
        beaconRecord fromBytes (net.hosts host).node now (datagram.data.take 1024)
          (Datagram.srcAddr datagram)
    else none
  | _ => none

/-- What the JSON parser reads back as it was written: the beacon of every round. -/
def Legible (net : Lan crates ι) : LanInput ι → Prop
  | .send sender _ _ =>
    fromBytes (beaconOf (net.hosts sender).node (net.hosts sender).env).toBytes =
      some (beaconOf (net.hosts sender).node (net.hosts sender).env)
  | .arrive .. | .rename .. | .rewire .. => True

structure Follows (old new : LanHost crates) (saved : Option PeerRecord) : Prop where
  identity : new.node.identity = old.node.identity
  udpPort : new.env.udpPort = old.env.udpPort
  tcpPort : new.env.tcpPort = old.env.tcpPort
  store : new.node.store = saved.toList.foldl Store.upsertPeer old.node.store
  events : new.events = old.events ++ saved.toList.flatMap beaconEvents

theorem Follows.refl (host : LanHost crates) : Follows host host none :=
  ⟨rfl, rfl, rfl, rfl, (List.append_nil _).symm⟩

theorem follows_listen (host : LanHost crates) (now : UInt64) (datagram : Datagram) :
    Follows host (listen fromBytes host now datagram)
      (beaconRecord fromBytes host.node now (datagram.data.take 1024)
        (Datagram.srcAddr datagram)) := by
  rw [listen, receiveDatagram_eq]
  cases beaconRecord fromBytes host.node now (datagram.data.take 1024)
      (Datagram.srcAddr datagram) with
  | none => exact ⟨rfl, rfl, rfl, rfl, rfl⟩
  | some peer => exact ⟨rfl, rfl, rfl, rfl, congrArg _ (List.append_nil _).symm⟩

theorem follows_rename (host : LanHost crates) (name : String) (saveError : Option String) :
    Follows host { host with node := (setDisplayName host.node name saveError).1 } none := by
  rw [setDisplayName]
  split_ifs
  · exact .refl host
  · cases saveError with
    | none => exact ⟨rfl, rfl, rfl, rfl, (List.append_nil _).symm⟩
    | some e => exact .refl host

theorem follows_update (net : Lan crates ι) (changed host : ι) (new : LanHost crates)
    {saved : Option PeerRecord} (own : host = changed → Follows (net.hosts changed) new saved)
    (other : host ≠ changed → saved = none) :
    Follows (net.hosts host) (Function.update net.hosts changed new host) saved := by
  by_cases same : host = changed
  · rw [same, Function.update_self]
    exact own same
  · rw [Function.update_of_ne same, other same]
    exact .refl _

theorem follows_step (net : Lan crates ι) (input : LanInput ι) (host : ι) :
    Follows (net.hosts host) ((net.step fromBytes input).hosts host)
      (heard fromBytes host net input) := by
  cases input with
  | send sender readError source => exact .refl _
  | rename changed name saveError =>
      exact follows_update net changed host _ (fun _ => follows_rename _ name saveError)
        fun _ => rfl
  | rewire changed ifaces =>
      exact follows_update net changed host _
        (fun _ => ⟨rfl, rfl, rfl, rfl, (List.append_nil _).symm⟩) fun _ => rfl
  | arrive listener index now =>
      rw [step, heard]
      cases found : net.arriving listener index with
      | none =>
          rw [Option.bind_none, ite_self]
          exact .refl _
      | some datagram =>
          apply follows_update net listener host
          · rintro rfl
            rw [if_pos rfl]
            exact follows_listen fromBytes _ now datagram
          · intro other
            exact if_neg (Ne.symm other)

/-- The rows a host has saved over a run, the oldest first. -/
def heardAlong (host : ι) : Lan crates ι → List (LanInput ι) → List PeerRecord :=
  emitted (step fromBytes) (heard fromBytes host)

theorem store_run (net : Lan crates ι) (inputs : List (LanInput ι)) (host : ι) :
    ((run (step fromBytes) net inputs).hosts host).node.store =
      (heardAlong fromBytes host net inputs).foldl Store.upsertPeer
        (net.hosts host).node.store :=
  @view_run _ _ _ _ _ (fun net : Lan crates ι => (net.hosts host).node.store) _ _
    (fun net input => (follows_step fromBytes net input host).store) net inputs

theorem events_run (net : Lan crates ι) (inputs : List (LanInput ι)) (host : ι) :
    ((run (step fromBytes) net inputs).hosts host).events =
      (net.hosts host).events ++ (heardAlong fromBytes host net inputs).flatMap beaconEvents := by
  induction inputs generalizing net with
  | nil => exact (List.append_nil _).symm
  | cons input rest ih =>
      rw [run_cons, ih, (follows_step fromBytes net input host).events, List.append_assoc,
        ← List.flatMap_append]
      rfl

theorem host_run (net : Lan crates ι) (inputs : List (LanInput ι)) (host : ι) :
    ((run (step fromBytes) net inputs).hosts host).node.identity =
        (net.hosts host).node.identity ∧
      ((run (step fromBytes) net inputs).hosts host).env.tcpPort = (net.hosts host).env.tcpPort := by
  apply @run_induction _ _ _ fun now : Lan crates ι =>
    (now.hosts host).node.identity = (net.hosts host).node.identity ∧
      (now.hosts host).env.tcpPort = (net.hosts host).env.tcpPort
  · intro now input same
    have follows := follows_step fromBytes now input host
    exact ⟨follows.identity.trans same.1, follows.tcpPort.trans same.2⟩
  · exact ⟨rfl, rfl⟩

variable {fromBytes} {net : Lan crates ι}

/-- A datagram was sent in a round of some host. -/
theorem mem_air_run {inputs : List (LanInput ι)} {datagram : Datagram}
    (member : datagram ∈ (run (step fromBytes) net inputs).air) :
    datagram ∈ net.air ∨ ∃ front sender readError source back,
      inputs = front ++ .send sender readError source :: back ∧
        datagram ∈ round ((run (step fromBytes) net front).hosts sender) readError source := by
  induction inputs using List.reverseRecOn with
  | nil => exact .inl member
  | append_singleton inputs last ih =>
      have earlier : datagram ∈ (run (step fromBytes) net inputs).air →
          datagram ∈ net.air ∨ ∃ front sender readError source back,
            inputs ++ [last] = front ++ .send sender readError source :: back ∧
              datagram ∈ round ((run (step fromBytes) net front).hosts sender) readError
                source := by
        intro before
        rcases ih before with old | ⟨front, sender, readError, source, back, split, sent⟩
        · exact .inl old
        · refine .inr ⟨front, sender, readError, source, back ++ [last], ?_, sent⟩
          rw [split, List.append_assoc, List.cons_append]
      rw [run_concat] at member
      cases last with
      | send sender readError source =>
          rcases List.mem_append.mp member with before | sent
          · exact earlier before
          · exact .inr ⟨inputs, sender, readError, source, [], rfl, sent⟩
      | rename host name saveError => exact earlier member
      | rewire host ifaces => exact earlier member
      | arrive listener index now =>
          apply earlier
          rw [step] at member
          split at member
          · exact member
          · exact member

/-- The row that a beacon of a host stands for, received from an address. -/
def record (sender : LanHost crates) (now : UInt64) (source : SocketAddrV4) : PeerRecord where
  nodeId := sender.node.identity.nodeIdHex
  displayName := sender.node.displayName.val
  lastSeen := now.toInt64.toInt
  ipAddress := source.ip.text
  tcpPort := effectiveDataPort sender.env.tcpPort
  onionAddress := ""
  trustScore := 1

theorem mem_round {sender : LanHost crates} {datagram : Datagram} {readError : Option String}
    {source : SocketAddrV4 → SocketAddrV4} :
    datagram ∈ round sender readError source ↔
      ∃ target ∈ getLocalBroadcastAddrs sender.env.udpPort (sender.env.read readError),
        datagram = ⟨source target, target, (beaconOf sender.node sender.env).toBytes⟩ := by
  rw [round, beaconRound, buildBeacon_eq]
  constructor
  · intro sent
    rcases List.mem_map.mp sent with ⟨pair, listed, rfl⟩
    rcases List.mem_map.mp listed with ⟨target, present, rfl⟩
    exact ⟨target, present, rfl⟩
  · rintro ⟨target, present, rfl⟩
    exact List.mem_map.mpr ⟨_, List.mem_map.mpr ⟨target, present, rfl⟩, rfl⟩

theorem beaconRecord_round {sender host : LanHost crates} {datagram : Datagram}
    {readError : Option String} {source : SocketAddrV4 → SocketAddrV4}
    (sent : datagram ∈ round sender readError source)
    (legible : fromBytes (beaconOf sender.node sender.env).toBytes =
      some (beaconOf sender.node sender.env)) (now : UInt64) :
    beaconRecord fromBytes host.node now (datagram.data.take 1024) (Datagram.srcAddr datagram) =
      if host.node.identity.nodeIdHex ≠ sender.node.identity.nodeIdHex then
        some (record sender now datagram.source)
      else none := by
  rcases mem_round.mp sent with ⟨target, -, rfl⟩
  have valid := PeerBeacon.isValid_new sender.node.identity.myNodeId sender.node.displayName.val
    (effectiveDataPort sender.env.tcpPort)
  have own : (beaconOf sender.node sender.env).nodeId = sender.node.identity.nodeIdHex :=
    sender.node.identity.nodeIdHex_eq.symm
  rw [beaconRecord, List.take_of_length_le (length_beaconOf_le _ _), legible, Option.bind_some,
    own]
  simp only [beaconOf, valid, true_and]
  rfl

/-- The row of a peer of whom the latest of some beacons is kept, beside an onion address known
before. -/
def latestRow (old : Option PeerRow) (heard : List PeerRecord) (nodeId : String) :
    Option PeerRow :=
  match heard.reverse.find? fun peer => peer.nodeId = nodeId with
  | none => old
  | some peer =>
    some { peer.toPeerRow with onionAddress := (old.map PeerRow.onionAddress).getD "" }

theorem get?_upsertPeer {store : Store} {peer : PeerRecord} (addressed : peer.ipAddress ≠ "")
    (plain : peer.onionAddress = "") (nodeId : String) :
    (store.upsertPeer peer).peers.get? nodeId =
      if nodeId = peer.nodeId then
        some { peer.toPeerRow with
          onionAddress := ((store.peers.get? nodeId).map PeerRow.onionAddress).getD "" }
      else store.peers.get? nodeId := by
  rw [Store.upsertPeer, AssocMap.get?_insert]
  by_cases same : nodeId = peer.nodeId
  · rw [if_pos same, if_pos same, same]
    cases store.peers.get? peer.nodeId with
    | none =>
        rw [← plain]
        rfl
    | some old =>
        simp only [addressed, plain, if_true, if_false]
        rfl
  · rw [if_neg same, if_neg same]

theorem get?_foldl_upsertPeer (store : Store) {heard : List PeerRecord}
    (beacons : ∀ peer ∈ heard, peer.ipAddress ≠ "" ∧ peer.onionAddress = "") (nodeId : String) :
    (heard.foldl Store.upsertPeer store).peers.get? nodeId =
      latestRow (store.peers.get? nodeId) heard nodeId := by
  induction heard using List.reverseRecOn with
  | nil => rfl
  | append_singleton heard last ih =>
      have before := ih fun peer member => beacons peer (List.mem_append_left _ member)
      rcases beacons last (List.mem_append_right _ List.mem_cons_self) with ⟨addressed, plain⟩
      rw [List.foldl_append, List.foldl_cons, List.foldl_nil, get?_upsertPeer addressed plain,
        before, latestRow, latestRow, List.reverse_append, List.reverse_singleton,
        List.singleton_append, List.find?_cons]
      by_cases same : nodeId = last.nodeId
      · rw [if_pos same, decide_eq_true same.symm]
        split <;> rfl
      · rw [if_neg same, decide_eq_false (Ne.symm same)]

theorem heardAlong_true {inputs : List (LanInput ι)} (silent : net.air = [])
    (legible : Along (step fromBytes) (Legible fromBytes) net inputs) {host : ι}
    {peer : PeerRecord} (member : peer ∈ heardAlong fromBytes host net inputs) :
    ∃ front sender readError source back target now,
      inputs = front ++ .send sender readError source :: back ∧
        (net.hosts sender).node.identity.nodeIdHex ≠ (net.hosts host).node.identity.nodeIdHex ∧
        peer = record ((run (step fromBytes) net front).hosts sender) now (source target) := by
  rcases exists_of_mem_emitted member with ⟨past, input, rest, split, emits⟩
  cases input with
  | send sender readError source => cases emits
  | rename changed name saveError => cases emits
  | rewire changed ifaces => cases emits
  | arrive listener index now =>
      rw [heard] at emits
      split_ifs at emits with here
      rcases Option.bind_eq_some_iff.mp emits with ⟨datagram, arrives, saves⟩
      rw [arriving, Option.filter_eq_some_iff] at arrives
      rcases mem_air_run (List.mem_of_getElem? arrives.1) with old | sent
      · rw [silent] at old
        cases old
      · rcases sent with ⟨front, sender, readError, source, back, past_eq, sent⟩
        rw [split, along_append] at legible
        rw [past_eq, along_append] at legible
        rw [beaconRecord_round sent legible.1.2.1] at saves
        split_ifs at saves with others
        rw [(host_run fromBytes net past host).1, (host_run fromBytes net front sender).1] at others
        rcases mem_round.mp sent with ⟨target, -, rfl⟩
        refine ⟨front, sender, readError, source, back ++ .arrive listener index now :: rest,
          target, now, ?_, Ne.symm others, (Option.some.inj saves).symm⟩
        rw [split, past_eq, List.append_assoc, List.cons_append]

/-- The peers a host knows over any run of the network are the other hosts whose beacons have
arrived, each as it was when it sent the latest of them; each arrival is one dial of that
address. -/
theorem known_peers (net : Lan crates ι) (silent : net.air = []) (inputs : List (LanInput ι))
    (legible : Along (step fromBytes) (Legible fromBytes) net inputs) (host : ι) :
    (∀ nodeId, ((run (step fromBytes) net inputs).hosts host).node.store.peers.get? nodeId =
        latestRow ((net.hosts host).node.store.peers.get? nodeId)
          (heardAlong fromBytes host net inputs) nodeId) ∧
      ((run (step fromBytes) net inputs).hosts host).events =
        (net.hosts host).events ++ (heardAlong fromBytes host net inputs).flatMap beaconEvents ∧
      ∀ peer ∈ heardAlong fromBytes host net inputs,
        ∃ front sender readError source back target now,
          inputs = front ++ .send sender readError source :: back ∧
            (net.hosts sender).node.identity.nodeIdHex ≠
              (net.hosts host).node.identity.nodeIdHex ∧
            peer = record ((run (step fromBytes) net front).hosts sender) now
              (source target) := by
  refine ⟨fun nodeId => ?_, events_run fromBytes net inputs host,
    fun peer => heardAlong_true silent legible⟩
  rw [store_run]
  apply get?_foldl_upsertPeer
  intro peer member
  rcases heardAlong_true silent legible member with
    ⟨front, sender, readError, source, back, target, now, -, -, rfl⟩
  refine ⟨fun empty => ?_, rfl⟩
  have dot := dot_mem_text (source target).ip
  rw [show (source target).ip.text = "" from empty] at dot
  cases dot

/-- One of the datagrams of a round goes to the last address of the subnet of each interface it is
sent out of. A host of the subnet that it reaches saves the sender and dials it where it sent from;
a host whose interfaces are all apart from that address, and the sender itself, are left as they
were. -/
theorem beacon_reaches (net : Lan crates ι) {sender : ι} {iface : IfAddr}
    {ip netmask : Ipv4Addr} (present : iface ∈ (net.hosts sender).env.ifaces)
    (announces : iface.Announces ip netmask) (source : SocketAddrV4 → SocketAddrV4)
    (legible : Legible fromBytes net (.send sender none source)) :
    ∃ index target datagram,
      (net.step fromBytes (.send sender none source)).air[index]? = some datagram ∧
        datagram ∈ round (net.hosts sender) none source ∧ datagram.target = target ∧
        datagram.source = source target ∧ datagram.data.length ≤ 1024 ∧
        IsGreatest (Subnet.Same netmask.toU32 · ip.toU32) (Ipv4Addr.toU32 target.ip) ∧
        ∀ listener now after,
          (run (step fromBytes) net
            [.send sender none source, .arrive listener index now]).hosts listener = after →
          (∀ host, .v4 host netmask ∈ (net.hosts listener).env.ifaces →
            Subnet.Same netmask.toU32 host.toU32 ip.toU32 →
            effectiveDiscoveryPort (net.hosts listener).env.udpPort =
              effectiveDiscoveryPort (net.hosts sender).env.udpPort →
            (net.hosts listener).node.identity.nodeIdHex ≠
              (net.hosts sender).node.identity.nodeIdHex →
            after.node.store = (net.hosts listener).node.store.upsertPeer
                (record (net.hosts sender) now (source target)) ∧
              after.events = (net.hosts listener).events ++
                beaconEvents (record (net.hosts sender) now (source target))) ∧
          ((∀ other ∈ (net.hosts listener).env.ifaces, other.Apart target.ip) ∨
              listener = sender →
            after.node.store = (net.hosts listener).node.store ∧
              after.events = (net.hosts listener).events) := by
  have target_mem : (⟨.ofU32 (Subnet.broadcast netmask.toU32 ip.toU32),
      effectiveDiscoveryPort (net.hosts sender).env.udpPort⟩ : SocketAddrV4) ∈
      getLocalBroadcastAddrs (net.hosts sender).env.udpPort ((net.hosts sender).env.read none) :=
    mem_getLocalBroadcastAddrs.mpr ⟨rfl, .inr ⟨iface, present, ip, netmask, announces, rfl⟩⟩
  generalize aimed : (⟨.ofU32 (Subnet.broadcast netmask.toU32 ip.toU32),
    effectiveDiscoveryPort (net.hosts sender).env.udpPort⟩ : SocketAddrV4) = target at target_mem
  have sent : (⟨source target, target,
      (beaconOf (net.hosts sender).node (net.hosts sender).env).toBytes⟩ : Datagram) ∈
      round (net.hosts sender) none source := mem_round.mpr ⟨target, target_mem, rfl⟩
  rcases List.mem_iff_getElem?.mp sent with ⟨position, placed⟩
  have placed_air : (net.step fromBytes (.send sender none source)).air[net.air.length +
      position]? = some ⟨source target, target,
        (beaconOf (net.hosts sender).node (net.hosts sender).env).toBytes⟩ := by
    rw [step, List.getElem?_append_right (Nat.le_add_right _ _), Nat.add_sub_cancel_left, placed]
  refine ⟨net.air.length + position, target, _, placed_air, sent, rfl, rfl,
    length_beaconOf_le _ _, ?_, fun listener now after ran => ?_⟩
  · rw [← aimed, Ipv4Addr.toU32_ofU32]
    exact Subnet.isGreatest_broadcast ..
  have follows := follows_step fromBytes (net.step fromBytes (.send sender none source))
    (.arrive listener (net.air.length + position) now) listener
  have arrives : (net.step fromBytes (.send sender none source)).arriving listener
      (net.air.length + position) =
      if (net.hosts listener).env.accepts target then
        some ⟨source target, target,
          (beaconOf (net.hosts sender).node (net.hosts sender).env).toBytes⟩
      else none := by
    rw [arriving, placed_air]
    rfl
  rw [heard, if_pos rfl, arrives] at follows
  change Follows (net.hosts listener) _ _ at follows
  rw [run_cons, run_cons, run_nil] at ran
  rw [ran] at follows
  constructor
  · intro host attached same port others
    have accepted : (net.hosts listener).env.accepts target = true := by
      rw [LanEnv.accepts, decide_eq_true_eq, ← aimed, List.any_eq_true]
      exact ⟨port.symm, _, attached, (accepts_broadcast_iff announces host).mpr same.symm⟩
    rw [if_pos accepted, Option.bind_some] at follows
    change Follows _ _ (beaconRecord fromBytes (net.hosts listener).node now _ _) at follows
    rw [beaconRecord_round sent legible, if_pos others] at follows
    exact ⟨follows.store, by simpa using follows.events⟩
  · intro apart
    suffices silent : Follows (net.hosts listener) after none from
      ⟨silent.store, by simpa using silent.events⟩
    by_cases accepted : (net.hosts listener).env.accepts target = true
    · rcases apart with outside | own
      · rw [LanEnv.accepts, decide_eq_true_eq, ← aimed, List.any_eq_true] at accepted
        rcases accepted with ⟨-, other, attached, accepts⟩
        have apart := outside other attached
        rw [← aimed] at apart
        exact absurd accepts (not_accepts_of_apart announces apart)
      · rw [if_pos accepted, Option.bind_some] at follows
        change Follows _ _ (beaconRecord fromBytes (net.hosts listener).node now _ _) at follows
        rwa [beaconRecord_round sent legible, if_neg fun others => others (by rw [own])] at follows
    · rwa [if_neg accepted] at follows

end Steps

end Lan

namespace Sample

def lanEnv (last : UInt8) : LanEnv where
  ifaces := [.v4 ⟨127, 0, 0, 1⟩ ⟨255, 0, 0, 0⟩, .v4 ⟨192, 168, 1, last⟩ ⟨255, 255, 255, 0⟩]
  tcpPort := none
  udpPort := none

def twoNodes : Lan haloCrates Bool where
  hosts first := ⟨if first then alice else bob, lanEnv (if first then 7 else 9), []⟩
  air := []

def aliceSource (_ : SocketAddrV4) : SocketAddrV4 := ⟨⟨192, 168, 1, 7⟩, 50000⟩

def readBeacon (bytes : Bytes) : Option PeerBeacon :=
  if bytes = (beaconOf alice (lanEnv 7)).toBytes then some (beaconOf alice (lanEnv 7)) else none

theorem announces_alice : (IfAddr.v4 ⟨192, 168, 1, 7⟩ ⟨255, 255, 255, 0⟩).Announces
    ⟨192, 168, 1, 7⟩ ⟨255, 255, 255, 0⟩ :=
  ⟨rfl, by decide, by decide, by decide, by decide, by decide⟩

theorem legible_alice (source : SocketAddrV4 → SocketAddrV4) :
    Lan.Legible readBeacon twoNodes (.send true none source) := if_pos rfl

theorem alice_not_bob : bob.identity.nodeIdHex ≠ alice.identity.nodeIdHex := by
  decide

def farNodes : Lan haloCrates Bool :=
  { twoNodes with
    hosts := fun first => if first then twoNodes.hosts true else
      ⟨bob, { lanEnv 9 with ifaces := [.v4 ⟨127, 0, 0, 1⟩ ⟨255, 0, 0, 0⟩, .v6 true,
        .v4 ⟨10, 0, 0, 9⟩ ⟨255, 255, 0, 0⟩] }, []⟩ }

/-- Node 2 hears node 1 in its subnet and nowhere else, and node 1 does not hear itself. -/
theorem beacon_reaches_bob :
    (∃ index target,
      ((run (Lan.step readBeacon) twoNodes [.send true none aliceSource,
        .arrive false index 1000]).hosts false).node.store =
          bob.store.upsertPeer (Lan.record (twoNodes.hosts true) 1000 (aliceSource target)) ∧
      ((run (Lan.step readBeacon) twoNodes [.send true none aliceSource,
        .arrive true index 1000]).hosts true).node.store = alice.store) ∧
    ∃ index, ((run (Lan.step readBeacon) farNodes [.send true none aliceSource,
      .arrive false index 1000]).hosts false).node.store = bob.store := by
  have attached : IfAddr.v4 ⟨192, 168, 1, 7⟩ ⟨255, 255, 255, 0⟩ ∈
      (twoNodes.hosts true).env.ifaces :=
    List.mem_cons_of_mem _ List.mem_cons_self
  constructor
  · rcases Lan.beacon_reaches twoNodes attached announces_alice aliceSource (legible_alice _) with
      ⟨index, target, -, -, -, -, -, -, -, effect⟩
    exact ⟨index, target, ((effect false 1000 _ rfl).1 ⟨192, 168, 1, 9⟩
      (List.mem_cons_of_mem _ List.mem_cons_self) (by decide) rfl alice_not_bob).1,
      ((effect true 1000 _ rfl).2 (.inr rfl)).1⟩
  · have legible : Lan.Legible readBeacon farNodes (.send true none aliceSource) := if_pos rfl
    have attached : IfAddr.v4 ⟨192, 168, 1, 7⟩ ⟨255, 255, 255, 0⟩ ∈
        (farNodes.hosts true).env.ifaces :=
      attached
    rcases Lan.beacon_reaches farNodes attached announces_alice aliceSource legible with
      ⟨index, target, datagram, -, -, -, -, -, last, effect⟩
    refine ⟨index, ((effect false 1000 _ rfl).2 (.inl ?_)).1⟩
    have known : target.ip.toU32 = Subnet.broadcast (Ipv4Addr.mk 255 255 255 0).toU32
        (Ipv4Addr.mk 192 168 1 7).toU32 :=
      have greatest := Subnet.isGreatest_broadcast _ _
      BitVec.le_antisymm (greatest.2 last.1) (last.2 greatest.1)
    intro other member
    simp only [farNodes, Bool.false_eq_true, if_false, List.mem_cons, List.not_mem_nil,
      or_false] at member
    rcases member with rfl | rfl | rfl
    · exact .inl ⟨by decide, rfl⟩
    · exact trivial
    · right
      rw [known]
      decide

def beacons : List (LanInput Bool) :=
  [.send true none aliceSource, .arrive false 0 1000, .rename true "pos jaga" none,
    .arrive false 0 2000]

theorem known_peers_bob :
    (((run (Lan.step readBeacon) twoNodes beacons).hosts false).node.store.peers.get?
        alice.identity.nodeIdHex).map
          (fun row => (row.displayName, row.lastSeen, row.ipAddress, row.tcpPort)) =
      some (alice.displayName.val, 2000, "192.168.1.7", 7771) := by
  have row := (Lan.known_peers twoNodes rfl beacons
    ⟨legible_alice _, trivial, trivial, trivial, trivial⟩ false).1 alice.identity.nodeIdHex
  rw [row]
  decide +kernel

end Sample

end Caraka
