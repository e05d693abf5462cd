import Caraka.Commands.Search

/-! `get_messages`: the stored conversation with a peer, decrypted again. -/

namespace Caraka

open Foundation

structure ShownMessage where
  id : String
  senderId : String
  recipientId : String
  text : String
  timestamp : Int
  isOutgoing : Bool
  decrypted : Bool
  deriving DecidableEq

def chunks2 : Bytes → List Bytes
  | [] => []
  | [a] => [[a]]
  | a :: b :: rest => [a, b] :: chunks2 rest

/-- `u8::from_str_radix(.., 16)` on at most two bytes. A leading plus sign is accepted. -/
def fromStrRadix16 : Bytes → Option UInt8
  | [a] => (Hex.value a).map UInt8.ofNat
  | [a, b] =>
    if a = 0x2B then (Hex.value b).map UInt8.ofNat
    else
      match Hex.value a, Hex.value b with
      | some high, some low => some (UInt8.ofNat (16 * high + low))
      | _, _ => none
  | _ => none

def storedPacketId (packetId : String) : Octets 8 :=
  (tryInto 8 (((chunks2 (utf8 packetId)).take 8).filterMap fromStrRadix16)).getD (Octets.zero 8)

section Rows

variable (crates : Crates) (identity : Identity crates) (now : UInt64) (peerPub : NodePublicKey)
  (sessionId : Octets 8)

/-- The closure `try_counter` of one row. -/
def tryStoredCounter (isOutgoing : Bool) (nonce : Nonce) (ciphertext : Bytes) (tag : Octets 16)
    (aad : Bytes) (counter : UInt64) : Option DmInnerPayload :=
  let shared := ecdh crates identity.myPrivateKey peerPub
  let aeadKey :=
    if isOutgoing then deriveDmKey crates shared identity.myNodeId peerPub sessionId counter
    else deriveDmKey crates shared peerPub identity.myNodeId sessionId counter
  match decrypt crates now aeadKey nonce ciphertext tag aad with
  | .error _ => none
  | .ok plain => crates.dmFromSlice plain

def readRow (sendCounter recvHint : Nat) (msg : StoredMessage) (nonce : Nonce) (tag : Octets 16) :
    Option (DmInnerPayload × Option Nat) :=
  let isOutgoing : Bool := msg.senderId = identity.nodeIdHex
  let tryCounter := tryStoredCounter crates identity now peerPub sessionId isOutgoing nonce
    msg.ciphertext tag (receiveAad .dm (storedPacketId msg.packetId))
  if msg.msgCounter ≥ 0 then
    (tryCounter (UInt64.ofInt msg.msgCounter)).map fun inner => (inner, none)
  else
    let endCounter := if isOutgoing then sendCounter + 1 else max recvHint 500 + 60
    (List.range endCounter).findSome? fun counter =>
      (tryCounter (UInt64.ofNat counter)).map fun inner => (inner, some counter)

def showRow (msg : StoredMessage) (read : Option DmInnerPayload) : ShownMessage :=
  let isOutgoing : Bool := msg.senderId = identity.nodeIdHex
  match read with
  | some inner => ⟨msg.id, msg.senderId, msg.recipientId, inner.text, inner.timestamp.toInt64.toInt,
      isOutgoing, true⟩
  | none => ⟨msg.id, msg.senderId, msg.recipientId, "[pesan terenkripsi]", msg.receivedAt,
      isOutgoing, false⟩

def showRows (sendCounter recvHint : Nat) : List StoredMessage → Store → List ShownMessage × Store
  | [], store => ([], store)
  | msg :: msgs, store =>
    match tryInto 16 msg.nonce, tryInto 16 msg.aeadTag with
    | some nonce, some tag =>
      let read := readRow crates identity now peerPub sessionId sendCounter recvHint msg nonce tag
      let store :=
        match read.bind Prod.snd with
        | some counter => store.setMessageCounter msg.id (UInt64.ofNat counter)
        | none => store
      let (shown, store) := showRows sendCounter recvHint msgs store
      (showRow crates identity msg (read.map Prod.fst) :: shown, store)
    | _, _ => showRows sendCounter recvHint msgs store

end Rows

variable {crates : Crates}

def getMessages (node : AppState crates) (now : UInt64) (peerId : String) (limit : Option Nat) :
    AppState crates × Except String (List ShownMessage) :=
  let limit := min (limit.getD 50) 200
  let messages := node.store.getMessagesBetween node.identity.nodeIdHex peerId limit
  match Hex.decode peerId with
  | none => (node, .error "Peer ID tidak valid")
  | some peerBytes =>
    match tryInto 32 peerBytes with
    | none => (node, .error "Peer ID harus 32 byte")
    | some peerPub =>
      let shared := ecdh crates node.identity.myPrivateKey peerPub
      let ((sessionId, sendCounter), store) := node.store.getOrCreateSession crates peerId shared
      let recvHint := store.getRecvCounterHint peerId
      let (shown, store) := showRows crates node.identity now peerPub sessionId sendCounter recvHint
        messages store
      ({ node with store }, .ok shown)

theorem id_showRow (identity : Identity crates) (msg : StoredMessage)
    (read : Option DmInnerPayload) : (showRow crates identity msg read).id = msg.id := by
  cases read <;> rfl

section Frame

variable {identity : Identity crates} {now : UInt64} {peerPub : NodePublicKey}
  {sessionId : Octets 8} {sendCounter recvHint : Nat}

theorem readRow_recorded {msg : StoredMessage} (nonce : Nonce) (tag : Octets 16)
    (recorded : 0 ≤ msg.msgCounter) :
    readRow crates identity now peerPub sessionId sendCounter recvHint msg nonce tag =
      (tryStoredCounter crates identity now peerPub sessionId
        (decide (msg.senderId = identity.nodeIdHex)) nonce msg.ciphertext tag
        (receiveAad .dm (storedPacketId msg.packetId)) (UInt64.ofInt msg.msgCounter)).map
          fun inner => (inner, none) :=
  if_pos recorded

theorem showRows_frame (msgs : List StoredMessage) (store : Store) :
    (showRows crates identity now peerPub sessionId sendCounter recvHint msgs store).2.peers =
        store.peers ∧
      (showRows crates identity now peerPub sessionId sendCounter recvHint msgs
        store).2.sessions = store.sessions ∧
      ∀ row ∈ store.messages.rows, (∀ msg ∈ msgs, msg.id = row.id → 0 ≤ msg.msgCounter) →
        row ∈ (showRows crates identity now peerPub sessionId sendCounter recvHint msgs
          store).2.messages.rows := by
  induction msgs generalizing store with
  | nil => exact ⟨rfl, rfl, fun _ present _ => present⟩
  | cons msg msgs ih =>
      rw [showRows]
      split
      · rename_i nonce tag _ _
        dsimp only
        split
        · rename_i counter found
          obtain ⟨peers, sessions, kept⟩ :=
            ih (store.setMessageCounter msg.id (UInt64.ofNat counter))
          refine ⟨peers, sessions, fun row present recorded => ?_⟩
          refine kept row (Messages.mem_setCounter present ?_)
            fun other member => recorded other (List.mem_cons_of_mem _ member)
          intro same
          rw [readRow_recorded nonce tag (recorded msg List.mem_cons_self same)] at found
          rcases Option.bind_eq_some_iff.mp found with ⟨_, opened, healed⟩
          rcases Option.map_eq_some_iff.mp opened with ⟨inner, -, rfl⟩
          cases healed
        · rcases ih store with ⟨peers, sessions, kept⟩
          exact ⟨peers, sessions, fun row present recorded =>
            kept row present fun other member => recorded other (List.mem_cons_of_mem _ member)⟩
      · rcases ih store with ⟨peers, sessions, kept⟩
        exact ⟨peers, sessions, fun row present recorded =>
          kept row present fun other member => recorded other (List.mem_cons_of_mem _ member)⟩

theorem mem_showRows {msgs : List StoredMessage} {store : Store} {shown : ShownMessage} :
    shown ∈ (showRows crates identity now peerPub sessionId sendCounter recvHint msgs store).1 ↔
      ∃ msg ∈ msgs, ∃ nonce tag, tryInto 16 msg.nonce = some nonce ∧
        tryInto 16 msg.aeadTag = some tag ∧
        shown = showRow crates identity msg ((readRow crates identity now peerPub sessionId
          sendCounter recvHint msg nonce tag).map Prod.fst) := by
  induction msgs generalizing store with
  | nil => simp [showRows]
  | cons msg msgs ih =>
      rw [showRows]
      split
      · rename_i nonce tag readNonce readTag
        simp only [List.mem_cons, ih, exists_eq_or_imp, readNonce, readTag, Option.some.injEq]
        constructor
        · rintro (rfl | later)
          · exact .inl ⟨nonce, tag, rfl, rfl, rfl⟩
          · exact .inr later
        · rintro (⟨_, _, rfl, rfl, rfl⟩ | later)
          · exact .inl rfl
          · exact .inr later
      · rename_i unreadable
        simp only [ih, List.mem_cons, exists_eq_or_imp]
        constructor
        · exact .inr
        · rintro (⟨nonce, tag, readNonce, readTag, -⟩ | later)
          · exact absurd readTag (unreadable nonce tag readNonce)
          · exact later

end Frame

end Caraka
