import Caraka.Schema
import Mathlib.Data.List.Forall2

/-! What the store reads from a database that was made by an older version and then opened. -/

namespace Caraka

open Foundation

variable {ρ : Type}

abbrev Fields (ρ : Type) := List (String × (ρ → SqlValue))

def Rows (fields : Fields ρ) (table : Sql.Table String SqlValue) (records : List ρ) : Prop :=
  List.Forall₂ (fun row record => ∀ field ∈ fields, field.1 ∈ table.columns →
    table.cell row field.1 = some (field.2 record)) table.rows records

def Lists (db : SqlDatabase) (name : String) (fields : Fields ρ) (records : List ρ) : Prop :=
  match db.tables.get? name with
  | none => records = []
  | some table => Rows fields table records

def messageFields : Fields StoredMessage := [
  ("id", fun message => .text message.id),
  ("packet_id", fun message => .text message.packetId),
  ("sender_id", fun message => .text message.senderId),
  ("recipient_id", fun message => .text message.recipientId),
  ("nonce", fun message => .blob message.nonce),
  ("ciphertext", fun message => .blob message.ciphertext),
  ("aead_tag", fun message => .blob message.aeadTag),
  ("received_at", fun message => .integer message.receivedAt),
  ("delivered", fun message => .integer (if message.delivered then 1 else 0)),
  ("msg_counter", fun message => .integer message.msgCounter)]

def peerFields : Fields (String × PeerRow) := [
  ("node_id", fun peer => .text peer.1),
  ("display_name", fun peer => .text peer.2.displayName),
  ("last_seen", fun peer => .integer peer.2.lastSeen),
  ("ip_address", fun peer => .text peer.2.ipAddress),
  ("tcp_port", fun peer => .integer peer.2.tcpPort.toNat),
  ("onion_address", fun peer => .text peer.2.onionAddress),
  ("trust_score", fun peer => .real peer.2.trustScore)]

def sessionFields : Fields (String × Session) := [
  ("peer_id", fun session => .text session.1),
  ("session_id", fun session => .blob session.2.sessionId),
  ("msg_counter", fun session => .integer session.2.msgCounter),
  ("recv_counter_hint", fun session => .integer session.2.recvCounterHint)]

/-- The tables of a database are those of a store, in every column that is there. -/
structure Represents (db : SqlDatabase) (store : Store) : Prop where
  messages : Lists db "messages" messageFields store.messages.rows
  peers : Lists db "peers" peerFields store.peers.entries
  sessions : Lists db "sessions" sessionFields store.sessions.entries

def SqlValue.asText : SqlValue → Option String
  | text value => some value
  | _ => none

def SqlValue.asBlob : SqlValue → Option Bytes
  | blob value => some value
  | _ => none

def SqlValue.asInteger : SqlValue → Option Int
  | integer value => some value
  | _ => none

def SqlValue.asReal : SqlValue → Option ℚ
  | real value => some value
  | _ => none

/-- The row mapping of `get_messages_between`. -/
def readMessage (get : String → Option SqlValue) : Option StoredMessage := do
  let id ← (get "id").bind SqlValue.asText
  let packetId ← (get "packet_id").bind SqlValue.asText
  let senderId ← (get "sender_id").bind SqlValue.asText
  let recipientId ← (get "recipient_id").bind SqlValue.asText
  let nonce ← (get "nonce").bind SqlValue.asBlob
  let ciphertext ← (get "ciphertext").bind SqlValue.asBlob
  let aeadTag ← (get "aead_tag").bind SqlValue.asBlob
  let receivedAt ← (get "received_at").bind SqlValue.asInteger
  let delivered ← (get "delivered").bind SqlValue.asInteger
  let msgCounter ← (get "msg_counter").bind SqlValue.asInteger
  return {
    id, packetId, senderId, recipientId, nonce, ciphertext, aeadTag, receivedAt,
    delivered := decide (delivered = 1), msgCounter }

/-- The row mapping of `get_all_peers`. -/
def readPeer (get : String → Option SqlValue) : Option (String × PeerRow) := do
  let nodeId ← (get "node_id").bind SqlValue.asText
  let displayName ← (get "display_name").bind SqlValue.asText
  let lastSeen ← (get "last_seen").bind SqlValue.asInteger
  let ipAddress ← (get "ip_address").bind SqlValue.asText
  let tcpPort ← (get "tcp_port").bind SqlValue.asInteger
  let onionAddress ← (get "onion_address").bind SqlValue.asText
  let trustScore ← (get "trust_score").bind SqlValue.asReal
  return (nodeId, {
    displayName, lastSeen, ipAddress, tcpPort := UInt16.ofInt tcpPort, onionAddress, trustScore })

/-- What `get_or_create_session` reads of a row. -/
def readSession (get : String → Option SqlValue) : Option (String × Session) := do
  let peerId ← (get "peer_id").bind SqlValue.asText
  let sessionId ← (get "session_id").bind SqlValue.asBlob
  let msgCounter ← (get "msg_counter").bind SqlValue.asInteger
  let recvCounterHint ← (get "recv_counter_hint").bind SqlValue.asInteger
  return (peerId, {
    sessionId, msgCounter := msgCounter.toNat, recvCounterHint := recvCounterHint.toNat })

/-- A `SELECT` of some columns of all rows. A row that is not read is passed over. -/
def select (db : SqlDatabase) (name : String) (columns : List String)
    (read : (String → Option SqlValue) → Option ρ) : Except (Sql.Error String String) (List ρ) :=
  match db.tables.get? name with
  | none => .error (.noSuchTable name)
  | some table =>
    match columns.find? fun column => decide (column ∉ table.columns) with
    | some column => .error (.noSuchColumn column)
    | none => .ok (table.rows.filterMap fun row => read (table.cell row))

def Messages.recounted (table : Messages) (counter : StoredMessage → Int) : Messages where
  rows := table.rows.map fun row => { row with msgCounter := counter row }
  ids_nodup := by
    rw [List.map_map]
    exact table.ids_nodup
  packetIds_nodup := by
    rw [List.map_map]
    exact table.packetIds_nodup

/-- A store whose columns that an older database lacks are at their defaults. -/
def Store.upgraded (store : Store) (old : SqlDatabase) : Store where
  messages := store.messages.recounted fun row =>
    if old.hasColumn "messages" "msg_counter" then row.msgCounter else -1
  peers := store.peers.mapValues fun _ row =>
    { row with
      onionAddress := if old.hasColumn "peers" "onion_address" then row.onionAddress else "" }
  sessions := store.sessions.mapValues fun _ row =>
    { row with
      recvCounterHint :=
        if old.hasColumn "sessions" "recv_counter_hint" then row.recvCounterHint else 0 }

theorem Rows.widened {fields : Fields ρ} {added : List (String × SqlValue)}
    {old new : Sql.Table String SqlValue} (widened : Sql.Widened added old new) {records : List ρ}
    (rows : Rows fields old records) (change : ρ → ρ)
    (same : ∀ field ∈ fields, field.1 ∈ old.columns → ∀ record,
      field.2 (change record) = field.2 record)
    (defaults : ∀ field ∈ fields, ∀ entry ∈ added, entry.1 = field.1 → field.1 ∉ old.columns →
      ∀ record, field.2 (change record) = entry.2) :
    Rows fields new (records.map change) := by
  have sized : List.Forall₂ (fun row record => row.length = old.columns.length ∧
      ∀ field ∈ fields, field.1 ∈ old.columns → old.cell row field.1 = some (field.2 record))
      old.rows records := (List.forall₂_and_left _ _).mpr ⟨old.width, rows⟩
  rw [Rows, widened.rows, List.forall₂_map_left_iff, List.forall₂_map_right_iff]
  refine sized.imp fun row record ⟨size, each⟩ field member present => ?_
  by_cases before : field.1 ∈ old.columns
  · rw [widened.cell_old size before, each field member before, same field member before]
  · rw [widened.columns, List.mem_append] at present
    rcases List.mem_map.mp (present.resolve_left before) with ⟨entry, joined, named⟩
    rw [defaults field member entry joined named before record, ← named]
    exact widened.cell_added size joined

theorem Lists.upgraded {old db : SqlDatabase} (descends : Sql.Descends openDb old db)
    {name : String} {fields : Fields ρ} {records : List ρ} (lists : Lists old name fields records)
    (change : ρ → ρ)
    (same : ∀ field ∈ fields, old.hasColumn name field.1 = true → ∀ record,
      field.2 (change record) = field.2 record)
    (defaults : ∀ field ∈ fields, ∀ value, .ensure name field.1 value ∈ openDb →
      old.hasColumn name field.1 = false → ∀ record, field.2 (change record) = value) :
    Lists db name fields (records.map change) := by
  rw [Lists] at lists ⊢
  cases there : db.tables.get? name with
  | none =>
      have absent : old.tables.get? name = none := by
        rw [← Option.not_isSome_iff_eq_none]
        intro before
        have still := descends.kept name before
        rw [there] at still
        cases still
      rw [absent] at lists
      rw [lists]
      rfl
  | some table =>
      rcases descends.origin name table there with ⟨first, added, begins, widened, each⟩
      rcases begins with before | ⟨absent, heading, -, rfl⟩
      · have has : ∀ column, old.hasColumn name column = true ↔ column ∈ first.columns := by
          intro column
          rw [Sql.Database.hasColumn, before, decide_eq_true_eq]
        rw [before] at lists
        refine Rows.widened widened lists change
          (fun field member inside => same field member ((has _).mpr inside)) ?_
        intro field member entry joined named lacks
        apply defaults field member entry.2
        · rw [← named]
          exact each entry joined
        · rw [← Bool.not_eq_true, has]
          exact lacks
      · rw [absent] at lists
        dsimp only at lists ⊢
        rw [lists, Rows, widened.rows]
        exact List.Forall₂.nil

theorem Represents.upgraded {old db : SqlDatabase} {store : Store}
    (descends : Sql.Descends openDb old db) (represents : Represents old store) :
    Represents db (store.upgraded old) where
  messages := by
    apply represents.messages.upgraded descends
    · simp +contextual [messageFields]
    · simp +contextual [messageFields, ensure_mem_openDb, migrateSchema]
  peers := by
    apply represents.peers.upgraded descends
    · simp +contextual [peerFields]
    · simp +contextual [peerFields, ensure_mem_openDb, migrateSchema]
  sessions := by
    apply represents.sessions.upgraded descends
    · simp +contextual [sessionFields]
    · simp +contextual [sessionFields, ensure_mem_openDb, migrateSchema]

theorem readMessage_eq {get : String → Option SqlValue} {message : StoredMessage}
    (each : ∀ field ∈ messageFields, get field.1 = some (field.2 message)) :
    readMessage get = some message := by
  simp only [messageFields, List.forall_mem_cons, List.not_mem_nil, IsEmpty.forall_iff,
    implies_true, and_true] at each
  rcases each with ⟨id, packetId, senderId, recipientId, nonce, ciphertext, aeadTag, receivedAt,
    delivered, msgCounter⟩
  rw [readMessage, id, packetId, senderId, recipientId, nonce, ciphertext, aeadTag, receivedAt,
    delivered, msgCounter]
  simp [SqlValue.asText, SqlValue.asBlob, SqlValue.asInteger]

theorem readPeer_eq {get : String → Option SqlValue} {peer : String × PeerRow}
    (each : ∀ field ∈ peerFields, get field.1 = some (field.2 peer)) :
    readPeer get = some peer := by
  simp only [peerFields, List.forall_mem_cons, List.not_mem_nil, IsEmpty.forall_iff,
    implies_true, and_true] at each
  rcases each with ⟨nodeId, displayName, lastSeen, ipAddress, tcpPort, onionAddress, trustScore⟩
  rw [readPeer, nodeId, displayName, lastSeen, ipAddress, tcpPort, onionAddress, trustScore]
  have port : UInt16.ofInt (peer.2.tcpPort.toNat : Int) = peer.2.tcpPort := by
    have small : (peer.2.tcpPort.toNat : Int) % 2 ^ 16 = peer.2.tcpPort.toNat :=
      Int.emod_eq_of_lt (Int.natCast_nonneg _) (Int.ofNat_lt.mpr peer.2.tcpPort.toNat_lt)
    rw [UInt16.ofInt, small, Int.toNat_natCast, UInt16.ofNat_toNat]
  simp [SqlValue.asText, SqlValue.asInteger, SqlValue.asReal, port]

theorem readSession_eq {get : String → Option SqlValue} {session : String × Session}
    (each : ∀ field ∈ sessionFields, get field.1 = some (field.2 session)) :
    readSession get = some session := by
  simp only [sessionFields, List.forall_mem_cons, List.not_mem_nil, IsEmpty.forall_iff,
    implies_true, and_true] at each
  rcases each with ⟨peerId, sessionId, msgCounter, recvCounterHint⟩
  rw [readSession, peerId, sessionId, msgCounter, recvCounterHint]
  simp [SqlValue.asText, SqlValue.asBlob, SqlValue.asInteger]

theorem filterMap_eq {α β : Type} {read : α → Option β} {rows : List α} {records : List β}
    (pairs : List.Forall₂ (fun row record => read row = some record) rows records) :
    rows.filterMap read = records := by
  induction pairs with
  | nil => rfl
  | cons first _ ih => rw [List.filterMap_cons_some first, ih]

theorem select_eq {db : SqlDatabase} {name : String} {fields : Fields ρ} {records : List ρ}
    {read : (String → Option SqlValue) → Option ρ} (lists : Lists db name fields records)
    (all : ∀ field ∈ fields, db.hasColumn name field.1 = true) (some_field : fields ≠ [])
    (reads : ∀ get record, (∀ field ∈ fields, get field.1 = some (field.2 record)) →
      read get = some record) :
    select db name (fields.map Prod.fst) read = .ok records := by
  rw [Lists] at lists
  rw [select]
  cases there : db.tables.get? name with
  | none =>
      rcases List.exists_mem_of_ne_nil _ some_field with ⟨field, member⟩
      have has := all field member
      rw [Sql.Database.hasColumn, there] at has
      cases has
  | some table =>
      rw [there] at lists
      dsimp only at lists ⊢
      have inside : ∀ field ∈ fields, field.1 ∈ table.columns := by
        intro field member
        have has := all field member
        rw [Sql.Database.hasColumn, there] at has
        exact of_decide_eq_true has
      have found : (fields.map Prod.fst).find? (fun column => decide (column ∉ table.columns)) =
          none := by
        rw [List.find?_eq_none]
        intro column member
        rcases List.mem_map.mp member with ⟨field, listed, rfl⟩
        simpa using inside field listed
      rw [found]
      have pairs : List.Forall₂ (fun row record => read (table.cell row) = some record)
          table.rows records := lists.imp fun row record each =>
        reads _ _ fun field member => each field member (inside field member)
      exact congrArg Except.ok (filterMap_eq pairs)

/-- Once a process has opened the database of an older version, whatever others did to open it,
every message, peer and session of it is read as it was, with the counter, onion address or hint
that its version did not record at its default. -/
theorem opened_reads {ι : Type} [DecidableEq ι] (old : SqlDatabase) (store : Store)
    (older : Sql.Older openDb old) (represents : Represents old store)
    (inputs : List (Sql.Input ι)) {shared : Sql.Shared ι String String SqlValue String}
    (ran : run (Sql.Shared.step openDb) ⟨old, fun _ => none⟩ inputs = shared) {who : ι}
    (finished : shared.processes who = some (.running [])) :
    select shared.db "messages" (messageFields.map Prod.fst) readMessage =
        .ok (store.upgraded old).messages.rows ∧
      select shared.db "peers" (peerFields.map Prod.fst) readPeer =
        .ok (store.upgraded old).peers.entries ∧
      select shared.db "sessions" (sessionFields.map Prod.fst) readSession =
        .ok (store.upgraded old).sessions.entries := by
  have kept := @Sql.kept_run ι _ _ _ _ _ _ _ _ openDb old openDb_sound older inputs
  rw [ran] at kept
  have now := represents.upgraded kept.descends
  have complete := Sql.complete_of_finished openDb_sound older openDb_unique kept finished
  refine ⟨select_eq now.messages ?_ (List.cons_ne_nil _ _) fun _ _ => readMessage_eq,
    select_eq now.peers ?_ (List.cons_ne_nil _ _) fun _ _ => readPeer_eq,
    select_eq now.sessions ?_ (List.cons_ne_nil _ _) fun _ _ => readSession_eq⟩
  · intro field member
    apply complete.columns "messages" ⟨messagesColumns, messagesColumns_nodup⟩ List.mem_cons_self
    revert field
    simp [messageFields, messagesColumns]
  · intro field member
    apply complete.columns "peers" ⟨peersColumns, peersColumns_nodup⟩
      (List.mem_cons_of_mem _ List.mem_cons_self)
    revert field
    simp [peerFields, peersColumns]
  · intro field member
    apply complete.columns "sessions" ⟨sessionsColumns, sessionsColumns_nodup⟩
    · simp [openDb, createTables]
    · revert field
      simp [sessionFields, sessionsColumns]

namespace Sample

def oldMessage : StoredMessage where
  id := "0a"
  packetId := "0b"
  senderId := "01"
  recipientId := "02"
  nonce := []
  ciphertext := [7]
  aeadTag := []
  receivedAt := 5
  delivered := false
  msgCounter := 12

theorem oldMessage_ids : ([oldMessage].map StoredMessage.id).Nodup := List.nodup_singleton _

theorem oldMessage_packetIds : ([oldMessage].map StoredMessage.packetId).Nodup :=
  List.nodup_singleton _

def oldStore : Store where
  messages := ⟨[oldMessage], oldMessage_ids, oldMessage_packetIds⟩
  peers := AssocMap.empty
  sessions := AssocMap.empty

theorem oldDb_represents : Represents oldDb oldStore where
  messages := by
    refine List.Forall₂.cons ?_ List.Forall₂.nil
    simp only [messageFields, List.forall_mem_cons]
    refine ⟨?_, ?_, ?_, ?_, ?_, ?_, ?_, ?_, ?_, ?_, fun _ member => by cases member⟩
    iterate 9 exact fun _ => rfl
    intro there
    exact absurd there (by decide +kernel)
  peers := rfl
  sessions := rfl

/-- The message is read with its counter unknown, also after the race for the column. -/
theorem opened_reads_raced :
    select raced.db "messages" (messageFields.map Prod.fst) readMessage =
      .ok [{ oldMessage with msgCounter := -1 }] :=
  (opened_reads oldDb oldStore oldDb_older oldDb_represents race rfl race_won).1

end Sample

end Caraka
