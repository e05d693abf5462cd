import Caraka.State

/-! `transport.rs`: framing, the processing of received packets and the sends it leads to. -/

namespace Caraka

open Foundation

def maxPacketSize : Nat := 65535

def torVirtualPort : UInt16 := 9999

structure SocketAddr where
  ip : String
  /-- IPv6 addresses are written in brackets before the port. -/
  v6 : Bool
  port : UInt16

inductive ConnKind where
  | lan (addr : SocketAddr)
  | torOutbound (onion : String)
  | torInbound (connId : String)

namespace ConnKind

def preHelloKey : ConnKind → String
  | lan addr =>
    if addr.v6 then "[" ++ addr.ip ++ "]:" ++ toString addr.port
    else addr.ip ++ ":" ++ toString addr.port
  | torOutbound onion => "tor:" ++ onion
  | torInbound connId => "tor-in:" ++ connId

def displayHost : ConnKind → String
  | lan addr => addr.ip
  | torOutbound onion => onion
  | torInbound _ => "tor"

def port : ConnKind → UInt16
  | lan addr => addr.port
  | torOutbound _ | torInbound _ => torVirtualPort

end ConnKind

/-- `send_raw_packet`: the bytes written for one packet, on a stream that raises no error. -/
def sendRawPacket (data : Bytes) : Except String Bytes :=
  if data.length > maxPacketSize then
    .error ("Packet terlalu besar: " ++ toString data.length ++ " bytes")
  else .ok (leBytes 2 data.length ++ data)

/-- `recv_packet_from_reader`: one packet and the rest of the stream, or an error where the
stream ends or the length is not valid. -/
def recvPacketFromReader (stream : Bytes) : Option (Bytes × Bytes) :=
  if stream.length < 2 then none
  else
    let len := leValue (stream.take 2)
    if len = 0 ∨ len > maxPacketSize then none
    else if (stream.drop 2).length < len then none
    else some ((stream.drop 2).take len, (stream.drop 2).drop len)

theorem recv_sendRawPacket {data frame : Bytes} (rest : Bytes) (nonempty : data ≠ [])
    (sent : sendRawPacket data = .ok frame) :
    recvPacketFromReader (frame ++ rest) = some (data, rest) := by
  unfold sendRawPacket at sent
  split at sent
  · cases sent
  · rename_i small
    have bound : data.length < 256 ^ 2 := by
      simp only [maxPacketSize] at small
      omega
    have positive : data.length ≠ 0 := by simpa using nonempty
    rcases Except.ok.inj sent with rfl
    simp only [recvPacketFromReader, List.append_assoc, List.length_append, length_leBytes]
    rw [if_neg (by omega), List.take_left' (length_leBytes ..),
      List.drop_left' (length_leBytes ..), leValue_leBytes bound, if_neg (by omega),
      if_neg (by simp), List.take_left, List.drop_left]

/-- One round of the writer task on a queue that is not empty; an error of `send_raw_packet` ends
the task. -/
def Channel.writeNext (channel : Channel) : Option (Channel × Option Bytes) :=
  match channel.queued with
  | [] => none
  | data :: _ =>
    match sendRawPacket data with
    | .error _ => some (Channel.close, none)
    | .ok _ => some (channel.pop, some data)

/-- `relay_packet`: to every peer but the one the packet came from. -/
def relayPacket (packet : ClampPacket) (senderKey : String) (peerSenders : PeerSenders) :
    PeerSenders :=
  peerSenders.mapValues fun peerId sender =>
    if peerId ≠ senderKey then sender.trySend packet.encode else sender

def broadcastPacket (packet : ClampPacket) (peerSenders : PeerSenders) : PeerSenders :=
  peerSenders.mapValues fun _ sender => sender.trySend packet.encode

def deliverToApp (packet : ClampPacket) : Event :=
  .clampPacketReceived {
    packetId := Hex.encode packet.header.packetId.bytes
    packetType := packet.header.packetType.toU8
    nonce := Hex.encode packet.nonce.bytes
    ciphertext := Hex.encode packet.ciphertext
    aeadTag := Hex.encode packet.aeadTag.bytes
    hopCounter := packet.hopAuth.hopCounter }

/-- What processing one packet reads from its surroundings. -/
structure ReceiveEnv where
  /-- The monotonic clock, in seconds. -/
  instant : ℚ
  /-- The wall clock. -/
  now : UInt64
  /-- The random bytes of a packet id. -/
  idRandom : Octets 4

variable (crates : Crates)

/-- The packet `handle_sync_req` answers with. -/
def syncRespPacket (node : AppState crates) (idRandom : Octets 4) : ClampPacket where
  header := {
    magic := Caraka.magic
    version := protocolVersion
    packetType := .syncResp
    ttl := 1
    packetId := ClampPacket.generatePacketId node.identity.myNodeId idRandom }
  hopAuth := { hopCounter := 0, macTag := Octets.zero 16 }
  nonce := Octets.zero 16
  ciphertext := fingerprintsJson node.store.getAllMessageIds
  aeadTag := Octets.zero 16

variable {crates}

def handleSyncReq (node : AppState crates) (env : ReceiveEnv) (senderKey : String) :
    AppState crates :=
  { node with
    peerSenders := node.peerSenders.modify senderKey
      fun sender => sender.trySend (syncRespPacket crates node env.idRandom).encode }

def handleSyncResp (node : AppState crates) (packet : ClampPacket) : List Event :=
  match crates.valueFromSlice packet.ciphertext with
  | none => []
  | some payload =>
    let peerFingerprints :=
      ((payload.member "fingerprints").asArray.getD []).filterMap Json.Value.asStr
    let ours := node.store.getAllMessageIds
    let missing := peerFingerprints.filter fun id => id ∉ ours
    if missing.isEmpty then [] else [.syncMissingDetected missing]

def handleSyncData (node : AppState crates) (packet : ClampPacket) : AppState crates :=
  match crates.messageFromSlice packet.ciphertext with
  | none => node
  | some message => { node with store := node.store.saveMessage message }

def savePeerFromHello (node : AppState crates) (env : ReceiveEnv) (nodeId displayName : String)
    (kind : ConnKind) : AppState crates × List Event :=
  let peer : PeerRecord := {
    nodeId
    displayName
    lastSeen := env.now.toInt64.toInt
    ipAddress := match kind with
      | .lan addr => addr.ip
      | .torOutbound _ | .torInbound _ => ""
    tcpPort := kind.port
    onionAddress := match kind with
      | .torOutbound onion => onion
      | .lan _ | .torInbound _ => ""
    trustScore := 2 }
  ({ node with store := node.store.upsertPeer peer },
    [.peerHandshaked nodeId displayName kind.displayHost kind.port])

def handleHello (node : AppState crates) (env : ReceiveEnv) (packet : ClampPacket)
    (kind : ConnKind) : AppState crates × List Event :=
  let payload := (crates.valueFromSlice packet.ciphertext).getD .other
  let nodeId := (payload.member "nodeId").asStr.getD ""
  let displayName := (payload.member "displayName").asStr.getD "Unknown"
  savePeerFromHello node env nodeId displayName kind

def handleBroadcast (node : AppState crates) (packet : ClampPacket) (senderKey : String) :
    AppState crates × List Event :=
  if node.router.isDuplicate packet.header.packetId then (node, [])
  else
    let node := { node with router := node.router.registerBroadcast packet.header.packetId }
    match crates.broadcastFromSlice packet.ciphertext with
    | none => (node, [])
    | some payload =>
      let received := .broadcastReceived payload packet.hopAuth.hopCounter
      if packet.header.ttl > 0 then
        let relayPkt := { packet with
          header.ttl := packet.header.ttl - 1
          hopAuth.hopCounter := packet.hopAuth.hopCounter + 1 }
        ({ node with peerSenders := relayPacket relayPkt senderKey node.peerSenders }, [received])
      else (node, [received])

/-- The identity a packet is routed under: the key of its connection, or before the handshake
the id of the packet itself. -/
def sourceNodeId (senderKey : String) (packet : ClampPacket) : Option NodePublicKey :=
  match Hex.decode senderKey with
  | some bytes => tryInto 32 bytes
  | none => some (packet.header.packetId.append (Octets.zero 24))

theorem sourceNodeId_of_parse {senderKey : String} {source : NodePublicKey}
    (named : parseNodeId senderKey = some source) (packet : ClampPacket) :
    sourceNodeId senderKey packet = some source := by
  rcases Option.bind_eq_some_iff.mp named with ⟨bytes, read, parsed⟩
  simp only [sourceNodeId, read, parsed]

/-- The part of `process_incoming_packet` that goes through the router. -/
def handleRouted (node : AppState crates) (env : ReceiveEnv) (packet : ClampPacket)
    (senderKey : String) : AppState crates × List Event :=
  match sourceNodeId senderKey packet with
  | none => (node, [])
  | some source =>
    match node.router.handleIncoming crates env.instant packet source with
    | (.deliverToApp, packet, router) => ({ node with router }, [deliverToApp packet])
    | (.relay, packet, router) =>
      ({ node with router, peerSenders := relayPacket packet senderKey node.peerSenders }, [])
    | (.deliverAndRelay, packet, router) =>
      ({ node with router, peerSenders := relayPacket packet senderKey node.peerSenders },
        [deliverToApp packet])
    | (.drop _, _, router) => ({ node with router }, [])

def processIncomingPacket (node : AppState crates) (env : ReceiveEnv) (raw : Bytes)
    (senderKey : String) (kind : ConnKind) : AppState crates × List Event :=
  match ClampPacket.decode raw with
  | .error _ => (node, [])
  | .ok packet =>
    match packet.header.packetType with
    | .syncReq => (handleSyncReq node env senderKey, [])
    | .syncResp => (node, handleSyncResp node packet)
    | .syncData => (handleSyncData node packet, [])
    | .hello => handleHello node env packet kind
    | .broadcast => handleBroadcast node packet senderKey
    | .dm | .channel | .file => handleRouted node env packet senderKey

end Caraka
