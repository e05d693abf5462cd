import Caraka.Transport
import Caraka.FileTransfer

/-! The receiving commands of `commands.rs`: `try_decrypt_packet` and
`try_decrypt_file_packet`. -/

namespace Caraka

open Foundation

inductive Failure where
  | error (text : String)
  | panic
  deriving DecidableEq

/-- The first characters of a string that fill exactly `count` bytes, or all of a shorter one;
none where the cut falls inside a character. -/
def prefixChars : List Char → Nat → Option (List Char)
  | [], _ => some []
  | c :: rest, count =>
    if count = 0 then some []
    else if c.utf8Size ≤ count then (prefixChars rest (count - c.utf8Size)).map (c :: ·)
    else none

/-- `&text[..count.min(text.len())]`, which panics inside a character. -/
def strPrefix (text : String) (count : Nat) : Option String :=
  (prefixChars text.toList count).map String.ofList

theorem prefixChars_ascii {chars : List Char} (ascii : ∀ c ∈ chars, c.utf8Size = 1) (count : Nat) :
    prefixChars chars count = some (chars.take count) := by
  induction chars generalizing count with
  | nil => simp [prefixChars]
  | cons c rest ih =>
      simp only [List.forall_mem_cons] at ascii
      cases count with
      | zero => rfl
      | succ count => simp [prefixChars, ascii.1, ih ascii.2]

theorem strPrefix_encode (bytes : Bytes) (count : Nat) :
    strPrefix (Hex.encode bytes) count = some (String.ofList ((Hex.digits bytes).take count)) := by
  rw [strPrefix, Hex.encode, String.toList_ofList, prefixChars_ascii (Hex.utf8Size_digits bytes)]
  rfl

structure MessageInfo where
  id : String
  senderId : String
  senderFingerprint : String
  recipientId : String
  plaintext : String
  timestamp : Int64
  isOutgoing : Bool
  replyToId : Option String
  replyToText : Option String
  deriving DecidableEq

structure Presented where
  packetId : Octets 8
  nonce : Nonce
  ciphertext : Bytes
  aeadTag : Octets 16

def parsePresented (packetId nonceHex ciphertextHex aeadTagHex : String) :
    Except String Presented :=
  match Hex.decode packetId with
  | none => .error "Packet ID hex invalid"
  | some packetIdBytes =>
  match tryInto 8 packetIdBytes with
  | none => .error "Packet ID harus 8 byte"
  | some packetId =>
  match Hex.decode nonceHex with
  | none => .error "Nonce hex invalid"
  | some nonceBytes =>
  match Hex.decode ciphertextHex with
  | none => .error "Ciphertext hex invalid"
  | some ciphertext =>
  match Hex.decode aeadTagHex with
  | none => .error "AEAD tag hex invalid"
  | some aeadTagBytes =>
  match tryInto 16 nonceBytes with
  | none => .error "Nonce harus 16 byte"
  | some nonce =>
  match tryInto 16 aeadTagBytes with
  | none => .error "AEAD tag harus 16 byte"
  | some aeadTag => .ok { packetId, nonce, ciphertext, aeadTag }

/-- The associated data a receiver rebuilds: the header as its sender encrypted it, with the
constant `TTL_MAX` in place of the ttl that arrived. -/
def receiveAad (packetType : PacketType) (packetId : Octets 8) : Bytes :=
  magic.bytes ++ protocolVersion :: packetType.toU8 :: ttlMax :: packetId.bytes

/-- The counters tried around a hint. -/
def window (recvHint : Nat) : List Nat :=
  List.range' (recvHint - 5) (recvHint + 60 - (recvHint - 5))

theorem mem_window {recvHint counter : Nat} :
    counter ∈ window recvHint ↔ recvHint - 5 ≤ counter ∧ counter < recvHint + 60 := by
  simp only [window, List.mem_range'_1]
  omega

variable (crates : Crates) {α : Type}

/-- The key a message from `peerPub` to this node is tried under. -/
def receiveKey (identity : Identity crates) (peerPub : NodePublicKey) (counter : Nat) : AeadKey :=
  let shared := ecdh crates identity.myPrivateKey peerPub
  deriveDmKey crates shared peerPub identity.myNodeId (deriveSessionId crates shared)
    (UInt64.ofNat counter)

structure Found (α : Type) where
  peer : PeerRecord
  peerPub : NodePublicKey
  counter : Nat
  payload : α

section Search

variable (parse : Bytes → Option α) (packetType : PacketType) (identity : Identity crates)
  (now : UInt64) (presented : Presented)

def tryCounter (peerPub : NodePublicKey) (sessionId : Octets 8) (counter : Nat) : Option α :=
  let shared := ecdh crates identity.myPrivateKey peerPub
  let aeadKey := deriveDmKey crates shared peerPub identity.myNodeId sessionId
    (UInt64.ofNat counter)
  match decrypt crates now aeadKey presented.nonce presented.ciphertext presented.aeadTag
      (receiveAad packetType presented.packetId) with
  | .error _ => none
  | .ok plaintext => parse plaintext

def searchCounters (peerPub : NodePublicKey) (sessionId : Octets 8) :
    List Nat → Option (Nat × α)
  | [] => none
  | counter :: counters =>
    match tryCounter crates parse packetType identity now presented peerPub sessionId counter with
    | some payload => some (counter, payload)
    | none => searchCounters peerPub sessionId counters

def searchPeers : List PeerRecord → Store → Option (Found α) × Store
  | [], store => (none, store)
  | peer :: peers, store =>
    match parseNodeId peer.nodeId with
    | none => searchPeers peers store
    | some peerPub =>
      let shared := ecdh crates identity.myPrivateKey peerPub
      let ((sessionId, _), store) := store.getOrCreateSession crates peer.nodeId shared
      let recvHint := store.getRecvCounterHint peer.nodeId
      match searchCounters crates parse packetType identity now presented peerPub sessionId
          (window recvHint) with
      | some (counter, payload) => (some { peer, peerPub, counter, payload }, store)
      | none => searchPeers peers store

end Search

structure ReceiveOutcome (β : Type) where
  node : AppState crates
  result : Except Failure (Option β)
  events : List Event

/-- The row `try_decrypt_packet` saves, or none where building its id panics. -/
def receivedRow (now : UInt64) (packetId : String) (presented : Presented)
    (found : Found DmInnerPayload) : Option StoredMessage :=
  (strPrefix found.payload.senderId 8).map fun front => {
    id := front ++ "_" ++ toString found.payload.timestamp
    packetId
    senderId := found.payload.senderId
    recipientId := found.payload.recipientId
    nonce := presented.nonce.bytes
    ciphertext := presented.ciphertext
    aeadTag := presented.aeadTag.bytes
    receivedAt := now.toInt64.toInt
    delivered := true
    msgCounter := found.counter }

def messageInfo (packetId : String) (inner : DmInnerPayload) : MessageInfo where
  id := packetId
  senderId := inner.senderId
  senderFingerprint := ((parseNodeId inner.senderId).map (fingerprint crates)).getD ""
  recipientId := inner.recipientId
  plaintext := inner.text
  timestamp := inner.timestamp.toInt64
  isOutgoing := false
  replyToId := inner.replyToId
  replyToText := inner.replyToText

def fileInfo (payload : FilePayload) (savedPath : String) : FileInfo where
  transferId := payload.transferId
  senderId := payload.senderId
  filename := payload.filename
  mimeType := payload.mimeType
  fileSize := payload.fileSize
  savedPath
  isImage := isPreviewableImage payload.mimeType
  timestamp := payload.timestamp

variable {crates}

def tryDecryptPacket (node : AppState crates) (now : UInt64)
    (packetId nonceHex ciphertextHex aeadTagHex : String) : ReceiveOutcome crates MessageInfo :=
  match parsePresented packetId nonceHex ciphertextHex aeadTagHex with
  | .error e => ⟨node, .error (.error e), []⟩
  | .ok presented =>
    let (found, store) := searchPeers crates crates.dmFromSlice .dm node.identity now presented
      node.store.getAllPeers node.store
    match found with
    | none => ⟨{ node with store }, .ok none, []⟩
    | some found =>
      match receivedRow now packetId presented found with
      | none => ⟨{ node with store }, .error .panic, []⟩
      | some storedMsg =>
        let store := (store.saveMessage storedMsg).bumpRecvCounterHint found.peer.nodeId
          (found.counter + 1)
        ⟨{ node with store }, .ok (some (messageInfo crates packetId found.payload)), []⟩

/-- `try_decrypt_file_packet`, with `save_received_file` as the disk answers it. -/
def tryDecryptFilePacket (node : AppState crates) (now : UInt64)
    (saveReceivedFile : String → Bytes → Except String String)
    (packetId nonceHex ciphertextHex aeadTagHex : String) : ReceiveOutcome crates FileInfo :=
  match parsePresented packetId nonceHex ciphertextHex aeadTagHex with
  | .error e => ⟨node, .error (.error e), []⟩
  | .ok presented =>
    let (found, store) := searchPeers crates crates.fileFromSlice .file node.identity now presented
      node.store.getAllPeers node.store
    match found with
    | none => ⟨{ node with store }, .ok none, []⟩
    | some found =>
      let node := { node with
        store := store.bumpRecvCounterHint found.peer.nodeId (found.counter + 1) }
      match crates.base64Decode found.payload.fileDataB64 with
      | .error e => ⟨node, .error (.error ("Gagal decode base64 file: " ++ e)), []⟩
      | .ok fileBytes =>
        match saveReceivedFile found.payload.filename fileBytes with
        | .error e => ⟨node, .error (.error e), []⟩
        | .ok savedPath =>
          let info := fileInfo found.payload savedPath
          ⟨node, .ok (some info), [.fileReceived info]⟩

end Caraka
