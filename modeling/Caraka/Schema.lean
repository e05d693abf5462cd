import Caraka.Store
import Caraka.Foundation.Migrations

/-! The schema of the database: `open_db`, `create_tables` and `migrate_schema` of `store.rs`. -/

namespace Caraka

open Foundation

/-- The values of SQLite. -/
inductive SqlValue where
  | null
  | integer (value : Int)
  | real (value : ℚ)
  | text (value : String)
  | blob (value : Bytes)
  deriving DecidableEq

abbrev SqlDatabase := Sql.Database String String SqlValue String

abbrev SqlProgram := Sql.Program String String SqlValue String

def messagesColumns : List String :=
  ["id", "packet_id", "sender_id", "recipient_id", "nonce", "ciphertext", "aead_tag",
    "received_at", "delivered", "msg_counter"]

def peersColumns : List String :=
  ["node_id", "display_name", "last_seen", "ip_address", "tcp_port", "onion_address",
    "trust_score"]

def localKeysColumns : List String := ["key_id", "key_type", "key_material", "created_at"]

def syncStateColumns : List String := ["peer_id", "message_id", "synced"]

def sessionsColumns : List String :=
  ["peer_id", "session_id", "msg_counter", "recv_counter_hint", "created_at"]

def settingsColumns : List String := ["key", "value"]

theorem messagesColumns_nodup : messagesColumns.Nodup := by decide +kernel

theorem peersColumns_nodup : peersColumns.Nodup := by decide +kernel

theorem localKeysColumns_nodup : localKeysColumns.Nodup := by decide +kernel

theorem syncStateColumns_nodup : syncStateColumns.Nodup := by decide +kernel

theorem sessionsColumns_nodup : sessionsColumns.Nodup := by decide +kernel

theorem settingsColumns_nodup : settingsColumns.Nodup := by decide +kernel

def createTables : SqlProgram := [
  .exec (.createTable "messages" ⟨messagesColumns, messagesColumns_nodup⟩),
  .exec (.createTable "peers" ⟨peersColumns, peersColumns_nodup⟩),
  .exec (.createTable "local_keys" ⟨localKeysColumns, localKeysColumns_nodup⟩),
  .exec (.createTable "sync_state" ⟨syncStateColumns, syncStateColumns_nodup⟩),
  .exec (.createTable "sessions" ⟨sessionsColumns, sessionsColumns_nodup⟩),
  .exec (.createTable "settings" ⟨settingsColumns, settingsColumns_nodup⟩),
  .exec (.createIndex "idx_messages_sender" "messages" "sender_id"),
  .exec (.createIndex "idx_messages_recipient" "messages" "recipient_id"),
  .exec (.createIndex "idx_messages_received" "messages" "received_at")]

def migrateSchema : SqlProgram := [
  .ensure "peers" "onion_address" (.text ""),
  .ensure "messages" "msg_counter" (.integer (-1)),
  .ensure "sessions" "recv_counter_hint" (.integer 0)]

def openDb : SqlProgram := createTables ++ migrateSchema

theorem openDb_sound : Sql.Sound openDb := by
  apply Sql.sound_of_supported
  simp [openDb, createTables, migrateSchema, Sql.Supported, Sql.Op.Needs, messagesColumns]

theorem mem_createTables {name : String} {heading : Sql.Heading String}
    (made : .exec (.createTable name heading) ∈ openDb) :
    (name, heading.columns) ∈ [("messages", messagesColumns), ("peers", peersColumns),
      ("local_keys", localKeysColumns), ("sync_state", syncStateColumns),
      ("sessions", sessionsColumns), ("settings", settingsColumns)] := by
  simp only [openDb, createTables, migrateSchema, List.cons_append, List.nil_append,
    List.mem_cons, Sql.Op.exec.injEq, Sql.Statement.createTable.injEq, reduceCtorEq,
    List.not_mem_nil, or_false] at made
  rcases made with ⟨rfl, rfl⟩ | ⟨rfl, rfl⟩ | ⟨rfl, rfl⟩ | ⟨rfl, rfl⟩ | ⟨rfl, rfl⟩ | ⟨rfl, rfl⟩ <;>
    simp

theorem openDb_unique (name : String) (heading other : Sql.Heading String)
    (made : .exec (.createTable name heading) ∈ openDb)
    (also : .exec (.createTable name other) ∈ openDb) : other = heading := by
  have first := mem_createTables made
  have second := mem_createTables also
  have distinct : ([("messages", messagesColumns), ("peers", peersColumns),
      ("local_keys", localKeysColumns), ("sync_state", syncStateColumns),
      ("sessions", sessionsColumns), ("settings", settingsColumns)].map Prod.fst).Nodup := by
    decide +kernel
  have same := List.inj_on_of_nodup_map distinct first second rfl
  cases heading
  cases other
  cases same
  rfl

theorem ensure_mem_openDb {table column : String} {default : SqlValue} :
    .ensure table column default ∈ openDb ↔ .ensure table column default ∈ migrateSchema := by
  simp [openDb, createTables]

/-- Whatever processes open a database of this or an older version, in whatever order their
statements come and wherever one of them stops: no table, row or value is lost, a new column holds
its default, a process that has opened it finds the whole schema, one that fails lost a race for a
column, and one that then opens it on its own succeeds. -/
theorem openDb_keeps {ι : Type} [DecidableEq ι] (old : SqlDatabase)
    (older : Sql.Older openDb old) (inputs : List (Sql.Input ι))
    {shared : Sql.Shared ι String String SqlValue String}
    (ran : run (Sql.Shared.step openDb) ⟨old, fun _ => none⟩ inputs = shared) :
    (∀ name table, old.tables.get? name = some table → ∃ table' added,
      shared.db.tables.get? name = some table' ∧ Sql.Widened added table table' ∧
        ∀ entry ∈ added, .ensure name entry.1 entry.2 ∈ migrateSchema) ∧
    (∀ who, shared.processes who = some (.running []) → Sql.Complete openDb shared.db) ∧
    (∀ who error, shared.processes who = some (.failed error) → ∃ table column default,
      .ensure table column default ∈ migrateSchema ∧ error = .duplicateColumn column ∧
        shared.db.hasColumn table column = true) ∧
    ∀ who, (run (Sql.Shared.step openDb) shared
      (.start who :: List.replicate 24 (.advance who))).processes who = some (.running []) := by
  have kept := @Sql.kept_run ι _ _ _ _ _ _ _ _ openDb old openDb_sound older inputs
  rw [ran] at kept
  refine ⟨?_, ?_, ?_, ?_⟩
  · intro name table before
    have still := kept.descends.kept name (by rw [before]; rfl)
    rcases Option.isSome_iff_exists.mp still with ⟨table', there⟩
    rcases kept.descends.origin name table' there with ⟨first, added, begins, widened, each⟩
    rcases begins with same | ⟨absent, -⟩
    · rw [before, Option.some.injEq] at same
      subst same
      exact ⟨table', added, there, widened,
        fun entry member => ensure_mem_openDb.mp (each entry member)⟩
    · rw [before] at absent
      cases absent
  · intro who finished
    exact Sql.complete_of_finished openDb_sound older openDb_unique kept finished
  · intro who error failed
    rcases kept.stands who _ failed with ⟨table, column, default, ensures, same, there⟩
    exact ⟨table, column, default, ensure_mem_openDb.mp ensures, same, there⟩
  · intro who
    exact Sql.finishes_alone openDb_sound older kept who

namespace Sample

def oldMessagesColumns : List String :=
  ["id", "packet_id", "sender_id", "recipient_id", "nonce", "ciphertext", "aead_tag",
    "received_at", "delivered"]

theorem oldMessagesColumns_nodup : oldMessagesColumns.Nodup := by decide +kernel

def oldRow : List SqlValue :=
  [.text "0a", .text "0b", .text "01", .text "02", .blob [], .blob [7], .blob [], .integer 5,
    .integer 0]

theorem oldRow_width : ∀ row ∈ [oldRow], row.length = oldMessagesColumns.length := by
  intro row member
  cases List.mem_singleton.mp member
  rfl

def oldMessages : Sql.Table String SqlValue :=
  ⟨⟨oldMessagesColumns, oldMessagesColumns_nodup⟩, [oldRow], oldRow_width⟩

theorem oldDb_indexed : ∀ (name : String) (place : String × String),
    (AssocMap.empty : AssocMap String (String × String)).get? name = some place →
      ∃ table, (AssocMap.empty.insert "messages" oldMessages).get? place.1 = some table ∧
        place.2 ∈ table.columns := by
  intro name place found
  cases found

def oldDb : SqlDatabase :=
  ⟨AssocMap.empty.insert "messages" oldMessages, AssocMap.empty, oldDb_indexed⟩

theorem oldDb_older : Sql.Older openDb oldDb := by
  intro name heading made table found column inside
  change (AssocMap.empty.insert "messages" oldMessages).get? name = some table at found
  rw [AssocMap.get?_insert] at found
  split at found
  · rename_i same
    subst same
    cases found
    have listed := mem_createTables made
    have columns : heading.columns = messagesColumns := by simpa using listed
    have each : messagesColumns.all (fun column =>
        decide (column ∈ oldMessagesColumns) || decide (column = "msg_counter")) = true := by
      decide +kernel
    rw [columns] at inside
    have either := List.all_eq_true.mp each column inside
    rw [Bool.or_eq_true, decide_eq_true_eq, decide_eq_true_eq] at either
    rcases either with before | rfl
    · exact .inl before
    · exact .inr ⟨.integer (-1), by simp [openDb, createTables, migrateSchema]⟩
  · cases found

def race : List (Sql.Input Bool) :=
  .start false :: .start true :: (List.replicate 16 [.advance false, .advance true]).flatten

def raced : Sql.Shared Bool String String SqlValue String :=
  run (Sql.Shared.step openDb) ⟨oldDb, fun _ => none⟩ race

theorem race_won : raced.processes false = some (.running []) := rfl

example : raced.processes true = some (.failed (.duplicateColumn "msg_counter")) := rfl

/-- Both have counted no column; the second to add it fails and then opens the database anew. -/
theorem openDb_keeps_raced : (∃ table added, raced.db.tables.get? "messages" = some table ∧
    Sql.Widened added oldMessages table ∧
      ∀ entry ∈ added, .ensure "messages" entry.1 entry.2 ∈ migrateSchema) ∧
    Sql.Complete openDb raced.db ∧
    (run (Sql.Shared.step openDb) raced
      (.start true :: List.replicate 24 (.advance true))).processes true =
        some (.running []) := by
  rcases openDb_keeps oldDb oldDb_older race rfl with ⟨kept, complete, -, again⟩
  exact ⟨kept "messages" oldMessages rfl, complete false race_won, again true⟩

end Sample

end Caraka
