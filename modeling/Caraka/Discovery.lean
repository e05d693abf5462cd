import Caraka.Transport

/-! `discovery.rs`: the beacons of the local network and what a received one leads to. -/

namespace Caraka

open Foundation

structure PeerBeacon where
  protocol : String
  nodeId : String
  displayName : String
  tcpPort : UInt16
  version : UInt8
  deriving DecidableEq

namespace PeerBeacon

def new (nodeId : NodePublicKey) (displayName : String) (tcpPort : UInt16) : PeerBeacon where
  protocol := "CARAKA-v1"
  nodeId := Hex.encode nodeId.bytes
  displayName
  tcpPort
  version := 1

def isValid (beacon : PeerBeacon) : Bool :=
  beacon.protocol = "CARAKA-v1" ∧ (utf8 beacon.nodeId).length = 64 ∧ beacon.version = 1

theorem isValid_new (nodeId : NodePublicKey) (displayName : String) (tcpPort : UInt16) :
    (new nodeId displayName tcpPort).isValid = true := by
  have length : (utf8 (Hex.encode nodeId.bytes)).length = 64 := by
    rw [Hex.length_decode (Hex.decode_encode nodeId.bytes), nodeId.length_eq]
  exact decide_eq_true ⟨rfl, length, rfl⟩

end PeerBeacon

inductive DiscoveryEvent where
  | peerDiscovered (nodeId displayName ip : String) (port : UInt16)
  | connectToPeer (ip : String) (port : UInt16) (nodeId : String)
  deriving DecidableEq

variable {crates : Crates}

def savePeerFromBeacon (node : AppState crates) (now : UInt64) (beacon : PeerBeacon)
    (srcAddr : SocketAddr) : AppState crates :=
  let peer : PeerRecord := {
    nodeId := beacon.nodeId
    displayName := beacon.displayName
    lastSeen := now.toInt64.toInt
    ipAddress := srcAddr.ip
    tcpPort := beacon.tcpPort
    onionAddress := ""
    trustScore := 1 }
  { node with store := node.store.upsertPeer peer }

/-- One datagram in the loop of `start_listener`, given how `from_bytes` reads it. -/
def receiveDatagram (fromBytes : Bytes → Option PeerBeacon) (node : AppState crates) (now : UInt64)
    (data : Bytes) (srcAddr : SocketAddr) : AppState crates × List DiscoveryEvent :=
  match fromBytes data with
  | none => (node, [])
  | some beacon =>
    if beacon.isValid = false then (node, [])
    else if node.identity.nodeIdHex = beacon.nodeId then (node, [])
    else (savePeerFromBeacon node now beacon srcAddr,
      [.peerDiscovered beacon.nodeId beacon.displayName srcAddr.ip beacon.tcpPort,
        .connectToPeer srcAddr.ip beacon.tcpPort beacon.nodeId])

end Caraka
