import Caraka.Transport
import Caraka.FileTransfer
import Caraka.Foundation.Base64

/-! The sending commands of `commands.rs`: `send_dm`, `send_file` and `send_broadcast`. -/

namespace Caraka

open Foundation

structure SendFaults where
  session : Option String
  save : Option String
  /-- The `UPDATE` of `increment_msg_counter`. -/
  update : Option String
  /-- The `SELECT` after it. -/
  select : Option String

/-- What one send reads from its surroundings. -/
structure SendEnv where
  /-- The wall clock when the payload is built. -/
  now : UInt64
  /-- The wall clock when the nonce is drawn. -/
  nonceNow : UInt64
  idRandom : Octets 4
  nonceRandom : Octets 12
  uuidRandom : Octets 16
  faults : SendFaults

def SendFaults.none : SendFaults := ⟨Option.none, Option.none, Option.none, Option.none⟩

/-- `Uuid::new_v4().to_string()`, given the bytes drawn. -/
def uuidV4 (random : Octets 16) : String :=
  let bytes := random.bytes.mapIdx fun index byte =>
    if index = 6 then (byte &&& 0x0F) ||| 0x40
    else if index = 8 then (byte &&& 0x3F) ||| 0x80
    else byte
  String.ofList (Hex.digits (bytes.take 4) ++ '-' :: Hex.digits ((bytes.drop 4).take 2) ++
    '-' :: Hex.digits ((bytes.drop 6).take 2) ++ '-' :: Hex.digits ((bytes.drop 8).take 2) ++
    '-' :: Hex.digits (bytes.drop 10))

/-- `char::is_whitespace`. -/
def isWhitespace (c : Char) : Bool :=
  let code := c.toNat
  (9 ≤ code ∧ code ≤ 13) ∨ code = 0x20 ∨ code = 0x85 ∨ code = 0xA0 ∨ code = 0x1680 ∨
    (0x2000 ≤ code ∧ code ≤ 0x200A) ∨ code = 0x2028 ∨ code = 0x2029 ∨ code = 0x202F ∨
    code = 0x205F ∨ code = 0x3000

/-- `text.trim().is_empty()`. -/
def isBlank (text : String) : Bool := text.toList.all isWhitespace

variable (crates : Crates)

structure SendOutcome where
  node : AppState crates
  result : Except String String
  sent : Option ClampPacket
  events : List Event

def buildPacket (router : Router) (packetType : PacketType) (packetId : Octets 8)
    (aeadKey : AeadKey) (nonce : Nonce) (payloadJson : Bytes) :
    Except CryptoError ClampPacket :=
  let header : ClampHeader :=
    { magic := Caraka.magic, version := protocolVersion, packetType, ttl := ttlMax, packetId }
  let tempPacket : ClampPacket :=
    { header, hopAuth := { hopCounter := 0, macTag := Octets.zero 16 }
      nonce := Octets.zero 16, ciphertext := [], aeadTag := Octets.zero 16 }
  let aad := tempPacket.headerBytes
  match encrypt crates aeadKey nonce payloadJson aad.bytes with
  | .error e => .error e
  | .ok (ciphertext, aeadTag) =>
    let hopMac := router.computeOriginMac crates
      { header, hopAuth := { hopCounter := 0, macTag := Octets.zero 16 }
        nonce, ciphertext, aeadTag }
    .ok { header, hopAuth := { hopCounter := 0, macTag := hopMac }, nonce, ciphertext, aeadTag }

variable {crates}

def SendOutcome.fail (node : AppState crates) (error : String) : SendOutcome crates :=
  ⟨node, .error error, none, []⟩

/-- The payload `send_dm` encrypts. -/
def dmPayload (identity : Identity crates) (env : SendEnv) (recipientId plaintext : String)
    (replyToId replyToText : Option String) (sessionId : Octets 8) (msgCounter : Nat) :
    DmInnerPayload where
  senderId := identity.nodeIdHex
  recipientId
  text := plaintext
  timestamp := env.now
  sessionId := Hex.encode sessionId.bytes
  msgCounter := UInt64.ofNat msgCounter
  replyToId
  replyToText

/-- The row `send_dm` saves. -/
def dmRow (identity : Identity crates) (env : SendEnv) (recipientId : String)
    (msgCounter : Nat) (packet : ClampPacket) : StoredMessage where
  id := toString (env.now * 1000 + UInt64.ofNat msgCounter)
  packetId := Hex.encode packet.header.packetId.bytes
  senderId := identity.nodeIdHex
  recipientId
  nonce := packet.nonce.bytes
  ciphertext := packet.ciphertext
  aeadTag := packet.aeadTag.bytes
  receivedAt := env.now.toInt64.toInt
  delivered := false
  msgCounter

/-- The payload `send_file` encrypts. -/
def filePayload (identity : Identity crates) (env : SendEnv) (recipientId : String)
    (fileBytes : Bytes) (filename mimeType : String) (sessionId : Octets 8) (msgCounter : Nat) :
    FilePayload where
  senderId := identity.nodeIdHex
  recipientId
  transferId := uuidV4 env.uuidRandom
  filename
  mimeType
  fileSize := UInt64.ofNat fileBytes.length
  fileDataB64 := Base64.encode fileBytes
  timestamp := env.now
  sessionId := Hex.encode sessionId.bytes
  msgCounter := UInt64.ofNat msgCounter

def AppState.dispatch (node : AppState crates) (packet : ClampPacket) : AppState crates :=
  { node with
    router := node.router.registerOutgoing packet
    peerSenders := broadcastPacket packet node.peerSenders }

def sendDm (node : AppState crates) (env : SendEnv) (recipientId plaintext : String)
    (replyToId replyToText : Option String) : SendOutcome crates :=
  if isBlank plaintext then .fail node "Pesan tidak boleh kosong"
  else if (utf8 plaintext).length > 4096 then
    .fail node "Pesan terlalu panjang (max 4096 karakter)"
  else
    match Hex.decode recipientId with
    | none => .fail node "Recipient ID tidak valid (bukan hex string)"
    | some recipientBytes =>
    match tryInto 32 recipientBytes with
    | none => .fail node "Recipient ID harus 32 byte (64 hex chars)"
    | some peerId =>
    let sharedSecret := ecdh crates node.identity.myPrivateKey peerId
    match env.faults.session with
    | some e => .fail node e
    | none =>
    let opened := node.store.getOrCreateSession crates recipientId sharedSecret
    let sessionId := opened.1.1
    let msgCounter := opened.1.2
    let node := { node with store := opened.2 }
    let aeadKey := deriveDmKey crates sharedSecret node.identity.myNodeId peerId sessionId
      (UInt64.ofNat msgCounter)
    let packetId := ClampPacket.generatePacketId node.identity.myNodeId env.idRandom
    let inner := dmPayload node.identity env recipientId plaintext replyToId replyToText sessionId
      msgCounter
    let nonce := generateNonce env.nonceNow env.nonceRandom
    match buildPacket crates node.router .dm packetId aeadKey nonce inner.toVec with
    | .error e => .fail node e.toString
    | .ok fullPacket =>
    let storedMsg := dmRow node.identity env recipientId msgCounter fullPacket
    match env.faults.save with
    | some e => .fail node e
    | none =>
    let node := { node with store := node.store.saveMessage storedMsg }
    match env.faults.update with
    | some e => .fail node e
    | none =>
    let node := { node with store := node.store.incrementMsgCounter recipientId }
    match env.faults.select with
    | some e => .fail node e
    | none =>
    { node := node.dispatch fullPacket
      result := .ok (Hex.encode packetId.bytes)
      sent := some fullPacket
      events := [.messageSent storedMsg.id recipientId plaintext env.now replyToId replyToText] }

def sendFile (node : AppState crates) (env : SendEnv) (recipientId : String) (file : DiskFile) :
    SendOutcome crates :=
  match readFileForTransfer file with
  | .error e => .fail node e
  | .ok (fileBytes, filename, mimeType) =>
    match Hex.decode recipientId with
    | none => .fail node "Recipient ID tidak valid"
    | some recipientBytes =>
    match tryInto 32 recipientBytes with
    | none => .fail node "Recipient ID harus 32 byte"
    | some peerId =>
    let sharedSecret := ecdh crates node.identity.myPrivateKey peerId
    match env.faults.session with
    | some e => .fail node e
    | none =>
    let opened := node.store.getOrCreateSession crates recipientId sharedSecret
    let sessionId := opened.1.1
    let msgCounter := opened.1.2
    let node := { node with store := opened.2 }
    let aeadKey := deriveDmKey crates sharedSecret node.identity.myNodeId peerId sessionId
      (UInt64.ofNat msgCounter)
    let payload := filePayload node.identity env recipientId fileBytes filename mimeType sessionId
      msgCounter
    let packetId := ClampPacket.generatePacketId node.identity.myNodeId env.idRandom
    let nonce := generateNonce env.nonceNow env.nonceRandom
    match buildPacket crates node.router .file packetId aeadKey nonce payload.toVec with
    | .error e => .fail node e.toString
    | .ok fullPkt =>
    match env.faults.update with
    | some e => .fail node e
    | none =>
    let node := { node with store := node.store.incrementMsgCounter recipientId }
    match env.faults.select with
    | some e => .fail node e
    | none =>
    { node := node.dispatch fullPkt
      result := .ok payload.transferId
      sent := some fullPkt
      events := [.fileSent payload.transferId recipientId filename mimeType payload.fileSize
        env.now] }

def sendBroadcast (node : AppState crates) (env : SendEnv) (text : String) : SendOutcome crates :=
  if isBlank text then .fail node "Pesan tidak boleh kosong"
  else if (utf8 text).length > 500 then
    .fail node "Pesan broadcast terlalu panjang (max 500 karakter)"
  else
    let payload : BroadcastPayload := {
      senderId := node.identity.nodeIdHex
      senderName := node.displayName.val
      text
      timestamp := env.now
      messageId := uuidV4 env.uuidRandom }
    let packet := ClampPacket.buildBroadcast node.identity.myNodeId payload env.idRandom
    { node := node.dispatch packet
      result := .ok "Pesan broadcast terkirim"
      sent := some packet
      events := [.broadcastSent payload] }

end Caraka
