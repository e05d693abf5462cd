import Caraka.Keys
import Caraka.Foundation.AssocMap
import Mathlib.Data.List.Sort
import Mathlib.Data.Rat.Defs

/-! `store.rs`: the tables of the database and the statements run on them. Counters are those
SQLite holds exactly, below `2^63`; the creation time of a session, which nothing reads, is
left out. -/

namespace Caraka

open Foundation

/-- The `messages` table, with its primary key and its unique column. -/
structure Messages where
  rows : List StoredMessage
  ids_nodup : (rows.map StoredMessage.id).Nodup
  packetIds_nodup : (rows.map StoredMessage.packetId).Nodup

structure PeerRow where
  displayName : String
  lastSeen : Int
  ipAddress : String
  tcpPort : UInt16
  onionAddress : String
  trustScore : ℚ
  deriving DecidableEq

structure PeerRecord extends PeerRow where
  nodeId : String
  deriving DecidableEq

structure Session where
  sessionId : Bytes
  msgCounter : Nat
  recvCounterHint : Nat
  deriving DecidableEq

structure Store where
  messages : Messages
  peers : AssocMap String PeerRow
  sessions : AssocMap String Session

namespace Messages

def empty : Messages := ⟨[], List.nodup_nil, List.nodup_nil⟩

/-- A row that `INSERT OR IGNORE` skips: its id or its packet id is taken. -/
def Conflicts (table : Messages) (message : StoredMessage) : Prop :=
  message.id ∈ table.rows.map StoredMessage.id ∨
    message.packetId ∈ table.rows.map StoredMessage.packetId

instance (table : Messages) (message : StoredMessage) : Decidable (table.Conflicts message) :=
  inferInstanceAs (Decidable (_ ∨ _))

def insertOrIgnore (table : Messages) (message : StoredMessage) : Messages :=
  if taken : table.Conflicts message then table
  else {
    rows := table.rows ++ [message]
    ids_nodup := by
      rw [List.map_append]
      exact table.ids_nodup.append (List.nodup_singleton _)
        (List.disjoint_singleton.mpr fun member => taken (.inl member))
    packetIds_nodup := by
      rw [List.map_append]
      exact table.packetIds_nodup.append (List.nodup_singleton _)
        (List.disjoint_singleton.mpr fun member => taken (.inr member)) }

/-- `UPDATE messages SET msg_counter = .. WHERE id = ..`. -/
def setCounter (table : Messages) (id : String) (counter : Int) : Messages where
  rows := table.rows.map fun row => if row.id = id then { row with msgCounter := counter } else row
  ids_nodup := by
    rw [List.map_map]
    convert table.ids_nodup using 2
    funext row
    simp only [Function.comp]
    split <;> rfl
  packetIds_nodup := by
    rw [List.map_map]
    convert table.packetIds_nodup using 2
    funext row
    simp only [Function.comp]
    split <;> rfl

theorem mem_insertOrIgnore {table : Messages} {message row : StoredMessage}
    (member : row ∈ (table.insertOrIgnore message).rows) : row ∈ table.rows ∨ row = message := by
  unfold insertOrIgnore at member
  split at member
  · exact .inl member
  · simpa using member

theorem subset_insertOrIgnore {table : Messages} {message row : StoredMessage}
    (member : row ∈ table.rows) : row ∈ (table.insertOrIgnore message).rows := by
  rw [insertOrIgnore]
  split
  · exact member
  · exact List.mem_append_left _ member

theorem mem_setCounter {table : Messages} {row : StoredMessage} {id : String} {counter : Int}
    (member : row ∈ table.rows) (other : id ≠ row.id) : row ∈ (table.setCounter id counter).rows :=
  List.mem_map.mpr ⟨row, member, if_neg fun same => other same.symm⟩

end Messages

namespace Store

def empty : Store := ⟨Messages.empty, AssocMap.empty, AssocMap.empty⟩

def saveMessage (store : Store) (message : StoredMessage) : Store :=
  { store with messages := store.messages.insertOrIgnore message }

def setMessageCounter (store : Store) (id : String) (counter : UInt64) : Store :=
  { store with messages := store.messages.setCounter id counter.toInt64.toInt }

def getMessagesBetween (store : Store) (myNodeId peerNodeId : String) (limit : Nat) :
    List StoredMessage :=
  ((store.messages.rows.filter fun row =>
      (row.senderId = myNodeId ∧ row.recipientId = peerNodeId) ∨
        (row.senderId = peerNodeId ∧ row.recipientId = myNodeId)).insertionSort
    fun left right => right.receivedAt ≤ left.receivedAt).take limit

def getAllMessageIds (store : Store) : List String :=
  ((store.messages.rows.insertionSort
    fun left right => right.receivedAt ≤ left.receivedAt).take 500).map StoredMessage.packetId

def upsertPeer (store : Store) (peer : PeerRecord) : Store :=
  let updated : PeerRow :=
    match store.peers.get? peer.nodeId with
    | none => peer.toPeerRow
    | some old => {
        displayName := peer.displayName
        lastSeen := peer.lastSeen
        ipAddress := if peer.ipAddress = "" then old.ipAddress else peer.ipAddress
        tcpPort := peer.tcpPort
        onionAddress := if peer.onionAddress = "" then old.onionAddress else peer.onionAddress
        trustScore := peer.trustScore }
  { store with peers := store.peers.insert peer.nodeId updated }

def getAllPeers (store : Store) : List PeerRecord :=
  (store.peers.entries.map fun entry => { toPeerRow := entry.2, nodeId := entry.1 }).insertionSort
    fun left right => right.lastSeen ≤ left.lastSeen

variable (crates : Crates)

/-- `get_or_create_session`: a row whose session id is not the derived one is reset. -/
def getOrCreateSession (store : Store) (peerId : String) (sharedSecret : Octets 32) :
    (Octets 8 × Nat) × Store :=
  let expectedSessionId := deriveSessionId crates sharedSecret
  match store.sessions.get? peerId with
  | some session =>
    let storedSessionId := (tryInto 8 session.sessionId).getD (Octets.zero 8)
    if storedSessionId = expectedSessionId then
      ((expectedSessionId, session.msgCounter), store)
    else
      ((expectedSessionId, 0),
        { store with
          sessions := store.sessions.insert peerId ⟨expectedSessionId.bytes, 0, 0⟩ })
  | none =>
    ((expectedSessionId, 0),
      { store with
        sessions := store.sessions.insert peerId ⟨expectedSessionId.bytes, 0, 0⟩ })

def incrementMsgCounter (store : Store) (peerId : String) : Store :=
  { store with
    sessions := store.sessions.modify peerId
      fun session => { session with msgCounter := session.msgCounter + 1 } }

def getRecvCounterHint (store : Store) (peerId : String) : Nat :=
  ((store.sessions.get? peerId).map Session.recvCounterHint).getD 0

def bumpRecvCounterHint (store : Store) (peerId : String) (next : Nat) : Store :=
  { store with
    sessions := store.sessions.modify peerId
      fun session => { session with recvCounterHint := max session.recvCounterHint next } }

/-- The session row of a peer once `get_or_create_session` has run. -/
def openedSession (store : Store) (peerId : String) (sharedSecret : Octets 32) : Session :=
  let expectedSessionId := deriveSessionId crates sharedSecret
  match store.sessions.get? peerId with
  | some session =>
    if (tryInto 8 session.sessionId).getD (Octets.zero 8) = expectedSessionId then session
    else ⟨expectedSessionId.bytes, 0, 0⟩
  | none => ⟨expectedSessionId.bytes, 0, 0⟩

theorem getOrCreateSession_spec (store : Store) (peerId : String) (sharedSecret : Octets 32) :
    (store.getOrCreateSession crates peerId sharedSecret).1 =
        (deriveSessionId crates sharedSecret,
          (store.openedSession crates peerId sharedSecret).msgCounter) ∧
      (store.getOrCreateSession crates peerId sharedSecret).2.messages = store.messages ∧
      (store.getOrCreateSession crates peerId sharedSecret).2.peers = store.peers ∧
      ∀ other, (store.getOrCreateSession crates peerId sharedSecret).2.sessions.get? other =
        if other = peerId then some (store.openedSession crates peerId sharedSecret)
        else store.sessions.get? other := by
  rw [getOrCreateSession, openedSession]
  cases present : store.sessions.get? peerId with
  | none =>
      refine ⟨rfl, rfl, rfl, fun other => ?_⟩
      exact AssocMap.get?_insert ..
  | some session =>
      by_cases current : (tryInto 8 session.sessionId).getD (Octets.zero 8) =
          deriveSessionId crates sharedSecret
      · simp only [current, if_true, true_and]
        intro other
        split
        · rename_i same
          rw [same, present]
        · rfl
      · simp only [current, if_false, true_and]
        intro other
        exact AssocMap.get?_insert ..

@[simp] theorem messages_getOrCreateSession (store : Store) (peerId : String)
    (sharedSecret : Octets 32) :
    (store.getOrCreateSession crates peerId sharedSecret).2.messages = store.messages :=
  (getOrCreateSession_spec crates store peerId sharedSecret).2.1

@[simp] theorem peers_getOrCreateSession (store : Store) (peerId : String)
    (sharedSecret : Octets 32) :
    (store.getOrCreateSession crates peerId sharedSecret).2.peers = store.peers :=
  (getOrCreateSession_spec crates store peerId sharedSecret).2.2.1

theorem get?_getOrCreateSession (store : Store) (peerId other : String)
    (sharedSecret : Octets 32) :
    (store.getOrCreateSession crates peerId sharedSecret).2.sessions.get? other =
      if other = peerId then some (store.openedSession crates peerId sharedSecret)
      else store.sessions.get? other :=
  (getOrCreateSession_spec crates store peerId sharedSecret).2.2.2 other

@[simp] theorem getOrCreateSession_fst (store : Store) (peerId : String)
    (sharedSecret : Octets 32) :
    (store.getOrCreateSession crates peerId sharedSecret).1 =
      (deriveSessionId crates sharedSecret,
        (store.openedSession crates peerId sharedSecret).msgCounter) :=
  (getOrCreateSession_spec crates store peerId sharedSecret).1

theorem openedSession_congr {store other : Store} {peerId : String} (sharedSecret : Octets 32)
    (same : other.sessions.get? peerId = store.sessions.get? peerId) :
    other.openedSession crates peerId sharedSecret =
      store.openedSession crates peerId sharedSecret := by
  simp only [openedSession, same]

theorem openedSession_current (store : Store) (peerId : String) (sharedSecret : Octets 32) :
    (tryInto 8 (store.openedSession crates peerId sharedSecret).sessionId).getD (Octets.zero 8) =
      deriveSessionId crates sharedSecret := by
  unfold openedSession
  dsimp only
  split
  · split
    · assumption
    · simp
  · simp

theorem openedSession_of_row {store other : Store} {peerId : String} {sharedSecret : Octets 32}
    (change : Session → Session) (keeps : ∀ session, (change session).sessionId = session.sessionId)
    (row : other.sessions.get? peerId =
      some (change (store.openedSession crates peerId sharedSecret))) :
    other.openedSession crates peerId sharedSecret =
      change (store.openedSession crates peerId sharedSecret) := by
  rw [openedSession, row]
  simp only [keeps, openedSession_current, if_true]

theorem openedSession_getOrCreateSession (store : Store) (peerId : String)
    (sharedSecret : Octets 32) :
    (store.getOrCreateSession crates peerId sharedSecret).2.openedSession crates peerId
      sharedSecret = store.openedSession crates peerId sharedSecret := by
  apply openedSession_of_row crates id (fun _ => rfl)
  rw [get?_getOrCreateSession, if_pos rfl, id]

theorem openedSession_getOrCreateSession_ne (store : Store) {peerId other : String}
    (sharedSecret otherSecret : Octets 32) (distinct : other ≠ peerId) :
    (store.getOrCreateSession crates peerId sharedSecret).2.openedSession crates other
      otherSecret = store.openedSession crates other otherSecret := by
  apply openedSession_congr
  rw [get?_getOrCreateSession, if_neg distinct]

theorem openedSession_bump {store : Store} {peerId : String} {sharedSecret : Octets 32}
    (next : Nat) (opened : store.sessions.get? peerId =
      some (store.openedSession crates peerId sharedSecret)) :
    (store.bumpRecvCounterHint peerId next).openedSession crates peerId sharedSecret =
      { store.openedSession crates peerId sharedSecret with
        recvCounterHint :=
          max (store.openedSession crates peerId sharedSecret).recvCounterHint next } := by
  refine openedSession_of_row crates
    (fun session => { session with recvCounterHint := max session.recvCounterHint next })
    (fun _ => rfl) ?_
  rw [bumpRecvCounterHint, AssocMap.get?_modify_self, opened]
  rfl

theorem openedSession_increment {store : Store} {peerId : String} {sharedSecret : Octets 32}
    (opened : store.sessions.get? peerId =
      some (store.openedSession crates peerId sharedSecret)) :
    (store.incrementMsgCounter peerId).openedSession crates peerId sharedSecret =
      { store.openedSession crates peerId sharedSecret with
        msgCounter := (store.openedSession crates peerId sharedSecret).msgCounter + 1 } := by
  refine openedSession_of_row crates
    (fun session => { session with msgCounter := session.msgCounter + 1 }) (fun _ => rfl) ?_
  rw [incrementMsgCounter, AssocMap.get?_modify_self, opened]
  rfl

theorem openedSession_bump_ne (store : Store) {peerId other : String} (sharedSecret : Octets 32)
    (next : Nat) (distinct : other ≠ peerId) :
    (store.bumpRecvCounterHint peerId next).openedSession crates other sharedSecret =
      store.openedSession crates other sharedSecret :=
  openedSession_congr crates sharedSecret (AssocMap.get?_modify_ne _ _ distinct)

theorem openedSession_increment_ne (store : Store) {peerId other : String}
    (sharedSecret : Octets 32) (distinct : other ≠ peerId) :
    (store.incrementMsgCounter peerId).openedSession crates other sharedSecret =
      store.openedSession crates other sharedSecret :=
  openedSession_congr crates sharedSecret (AssocMap.get?_modify_ne _ _ distinct)

theorem getAllPeers_of_get? {store : Store} {nodeId : String} {row : PeerRow}
    (known : store.peers.get? nodeId = some row) :
    { toPeerRow := row, nodeId } ∈ store.getAllPeers := by
  rw [getAllPeers, List.mem_insertionSort]
  exact List.mem_map.mpr ⟨(nodeId, row), AssocMap.get?_eq_some.mp known, rfl⟩

theorem get?_of_mem_getAllPeers {store : Store} {peer : PeerRecord}
    (member : peer ∈ store.getAllPeers) :
    store.peers.get? peer.nodeId = some peer.toPeerRow := by
  rw [getAllPeers, List.mem_insertionSort] at member
  rcases List.mem_map.mp member with ⟨entry, present, rfl⟩
  exact AssocMap.get?_eq_some.mpr present

theorem mem_getMessagesBetween {store : Store} {myNodeId peerNodeId : String} {limit : Nat}
    {row : StoredMessage} (member : row ∈ store.getMessagesBetween myNodeId peerNodeId limit) :
    row ∈ store.messages.rows ∧
      ((row.senderId = myNodeId ∧ row.recipientId = peerNodeId) ∨
        (row.senderId = peerNodeId ∧ row.recipientId = myNodeId)) := by
  have chat := List.mem_of_mem_take member
  rw [List.mem_insertionSort, List.mem_filter] at chat
  simpa using chat

theorem isSome_upsertPeer {store : Store} {peer : PeerRecord} {peerId : String}
    (known : (store.peers.get? peerId).isSome) :
    ((store.upsertPeer peer).peers.get? peerId).isSome := by
  rw [upsertPeer, AssocMap.get?_insert]
  split
  · rfl
  · exact known

end Store

section Sessions

variable {crates : Crates} {identity : Identity crates}

def sessionOf (identity : Identity crates) (store : Store) (peerId : String)
    (peerPub : NodePublicKey) : Session :=
  store.openedSession crates peerId (ecdh crates identity.myPrivateKey peerPub)

/-- The hint the search reads for a peer. -/
def recvHint (identity : Identity crates) (store : Store) (peerId : String)
    (peerPub : NodePublicKey) : Nat :=
  (sessionOf identity store peerId peerPub).recvCounterHint

theorem recvHint_of_none {store : Store} {peerId : String} (peerPub : NodePublicKey)
    (absent : store.sessions.get? peerId = none) : recvHint identity store peerId peerPub = 0 := by
  rw [recvHint, sessionOf, Store.openedSession, absent]

theorem getRecvCounterHint_opened (store : Store) (peerId : String) (peerPub : NodePublicKey) :
    (store.getOrCreateSession crates peerId
        (ecdh crates identity.myPrivateKey peerPub)).2.getRecvCounterHint peerId =
      recvHint identity store peerId peerPub := by
  rw [Store.getRecvCounterHint, Store.get?_getOrCreateSession, if_pos rfl]
  rfl

theorem sessionOf_getOrCreateSession (store : Store) {peerId other : String}
    {peerPub otherPub : NodePublicKey} (known : parseNodeId peerId = some peerPub)
    (otherKnown : parseNodeId other = some otherPub) :
    sessionOf identity (store.getOrCreateSession crates peerId
        (ecdh crates identity.myPrivateKey peerPub)).2 other otherPub =
      sessionOf identity store other otherPub := by
  by_cases same : other = peerId
  · subst same
    rw [known] at otherKnown
    cases otherKnown
    exact Store.openedSession_getOrCreateSession ..
  · exact Store.openedSession_getOrCreateSession_ne crates store _ _ same

theorem recvHint_getOrCreateSession (store : Store) {peerId other : String}
    {peerPub otherPub : NodePublicKey} (known : parseNodeId peerId = some peerPub)
    (otherKnown : parseNodeId other = some otherPub) :
    recvHint identity (store.getOrCreateSession crates peerId
        (ecdh crates identity.myPrivateKey peerPub)).2 other otherPub =
      recvHint identity store other otherPub :=
  congrArg Session.recvCounterHint (sessionOf_getOrCreateSession store known otherKnown)

theorem recvHint_increment (store : Store) (peerId other : String) (otherPub : NodePublicKey) :
    recvHint identity (store.incrementMsgCounter peerId) other otherPub =
      recvHint identity store other otherPub := by
  by_cases same : other = peerId
  · subst same
    simp only [recvHint, sessionOf, Store.openedSession, Store.incrementMsgCounter,
      AssocMap.get?_modify_self]
    cases store.sessions.get? other with
    | none => rfl
    | some session =>
        simp only [Option.map_some]
        split <;> rfl
  · exact congrArg Session.recvCounterHint
      (Store.openedSession_increment_ne crates store _ same)

theorem recvHint_bump {store : Store} {peerId other : String} {peerPub otherPub : NodePublicKey}
    (next : Nat) (known : parseNodeId peerId = some peerPub)
    (otherKnown : parseNodeId other = some otherPub)
    (opened : store.sessions.get? peerId = some (sessionOf identity store peerId peerPub)) :
    recvHint identity (store.bumpRecvCounterHint peerId next) other otherPub =
      if other = peerId then max (recvHint identity store other otherPub) next
      else recvHint identity store other otherPub := by
  split_ifs with same
  · subst same
    rw [known] at otherKnown
    cases otherKnown
    exact congrArg Session.recvCounterHint (Store.openedSession_bump crates next opened)
  · exact congrArg Session.recvCounterHint
      (Store.openedSession_bump_ne crates store _ next same)

end Sessions

end Caraka
