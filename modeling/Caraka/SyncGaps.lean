import Caraka.Sample
import Caraka.Foundation.StableSort

/-! Which ids the handler of a `SyncResp` reports as missing, against those the table lacks. -/

namespace Caraka

open Foundation

namespace Store

/-- How many rows `get_all_message_ids` lists before a row: those received later, and of one
second those stored earlier. -/
def listedBefore (store : Store) (row : StoredMessage) : Nat :=
  store.messages.rows.countP (fun other => row.receivedAt < other.receivedAt) +
    (store.messages.rows.takeWhile (· ≠ row)).countP fun other =>
      other.receivedAt = row.receivedAt

theorem listedBefore_eq (store : Store) (row : StoredMessage) :
    store.listedBefore row =
      stableRank (fun left right : StoredMessage => right.receivedAt ≤ left.receivedAt)
        store.messages.rows row := by
  rw [listedBefore, stableRank]
  congr 2
  · funext other
    rw [decide_eq_decide]
    omega
  · funext other
    rw [decide_eq_decide]
    omega

theorem mem_getAllMessageIds {store : Store} {id : String} :
    id ∈ store.getAllMessageIds ↔
      ∃ row ∈ store.messages.rows, row.packetId = id ∧ store.listedBefore row < 500 := by
  have total : Std.Total fun left right : StoredMessage => right.receivedAt ≤ left.receivedAt :=
    ⟨fun left right => Int.le_total right.receivedAt left.receivedAt⟩
  have transitive :
      IsTrans StoredMessage fun left right => right.receivedAt ≤ left.receivedAt :=
    ⟨fun _ _ _ first second => Int.le_trans second first⟩
  simp only [getAllMessageIds, List.mem_map, mem_take_insertionSort, ← listedBefore_eq]
  constructor
  · intro spared
    rcases spared with ⟨row, ⟨stored, early⟩, named⟩
    exact ⟨row, stored, named, early⟩
  · intro spared
    rcases spared with ⟨row, stored, named, early⟩
    exact ⟨row, ⟨stored, early⟩, named⟩

theorem listedBefore_lt {store : Store} {row : StoredMessage}
    (stored : row ∈ store.messages.rows) :
    store.listedBefore row < store.messages.rows.length := by
  have total : Std.Total fun left right : StoredMessage => right.receivedAt ≤ left.receivedAt :=
    ⟨fun left right => Int.le_total right.receivedAt left.receivedAt⟩
  have transitive :
      IsTrans StoredMessage fun left right => right.receivedAt ≤ left.receivedAt :=
    ⟨fun _ _ _ first second => Int.le_trans second first⟩
  rw [listedBefore_eq]
  exact stableRank_lt_length _ stored

end Store

/-- The ids in a `sync_missing_detected`. -/
def Event.missingIds : Event → List String
  | syncMissingDetected missingIds => missingIds
  | _ => []

/-- The ids a `SyncResp` lists. -/
def listedIds (crates : Crates) (packet : ClampPacket) : List String :=
  match crates.valueFromSlice packet.ciphertext with
  | none => []
  | some payload =>
    ((payload.member "fingerprints").asArray.getD []).filterMap Json.Value.asStr

variable {crates : Crates}

/-- The ids a node reports as missing on a `SyncResp`. -/
def reportedMissing (node : AppState crates) (packet : ClampPacket) : List String :=
  (handleSyncResp node packet).flatMap Event.missingIds

/-- The listed ids that no row of the table carries. -/
def absentIds (node : AppState crates) (packet : ClampPacket) : List String :=
  (listedIds crates packet).filter fun id =>
    id ∉ node.store.messages.rows.map StoredMessage.packetId

section Gaps

variable (node : AppState crates) (packet : ClampPacket)

theorem reportedMissing_eq : reportedMissing node packet =
    (listedIds crates packet).filter fun id => id ∉ node.store.getAllMessageIds := by
  rw [reportedMissing, handleSyncResp, listedIds]
  cases crates.valueFromSlice packet.ciphertext with
  | none => rfl
  | some payload =>
      dsimp only
      split
      · rename_i nothing
        rw [List.isEmpty_iff.mp nothing]
        rfl
      · exact List.append_nil _

theorem absent_reported {id : String} (absent : id ∈ absentIds node packet) :
    id ∈ reportedMissing node packet := by
  rcases List.mem_filter.mp absent with ⟨listed, unstored⟩
  rw [reportedMissing_eq]
  apply List.mem_filter.mpr
  refine ⟨listed, ?_⟩
  rw [decide_eq_true_eq, Store.mem_getAllMessageIds]
  intro held
  rcases held with ⟨row, stored, named, _⟩
  exact of_decide_eq_true unstored (List.mem_map.mpr ⟨row, stored, named⟩)

theorem stored_spared_iff {row : StoredMessage} (stored : row ∈ node.store.messages.rows)
    (listed : row.packetId ∈ listedIds crates packet) :
    row.packetId ∉ reportedMissing node packet ↔ node.store.listedBefore row < 500 := by
  rw [reportedMissing_eq, List.mem_filter, decide_eq_true_eq, Store.mem_getAllMessageIds]
  constructor
  · intro spared
    by_contra late
    apply spared
    refine ⟨listed, ?_⟩
    intro held
    rcases held with ⟨other, present, named, early⟩
    rcases List.inj_on_of_nodup_map node.store.messages.packetIds_nodup present stored named
    exact late early
  · intro early reported
    exact reported.2 ⟨row, stored, rfl, early⟩

theorem gaps_exact_of_reached
    (reached : ∀ row ∈ node.store.messages.rows, row.packetId ∈ listedIds crates packet →
      node.store.listedBefore row < 500) :
    reportedMissing node packet = absentIds node packet := by
  rw [reportedMissing_eq, absentIds]
  apply List.filter_congr
  intro id listed
  rw [decide_eq_decide, not_iff_not, Store.mem_getAllMessageIds, List.mem_map]
  constructor
  · intro held
    rcases held with ⟨row, stored, named, _⟩
    exact ⟨row, stored, named⟩
  · intro held
    rcases held with ⟨row, stored, rfl⟩
    exact ⟨row, stored, rfl, reached row stored listed⟩

theorem small_table_exact (small : node.store.messages.rows.length ≤ 500) :
    reportedMissing node packet = absentIds node packet :=
  gaps_exact_of_reached node packet fun _ stored _ =>
    Nat.lt_of_lt_of_le (Store.listedBefore_lt stored) small

theorem not_absent_of_stored {row : StoredMessage} (stored : row ∈ node.store.messages.rows) :
    row.packetId ∉ absentIds node packet := by
  intro absent
  exact of_decide_eq_true (List.mem_filter.mp absent).2 (List.mem_map_of_mem stored)

theorem gaps_exact_iff : reportedMissing node packet = absentIds node packet ↔
    ∀ row ∈ node.store.messages.rows, row.packetId ∈ listedIds crates packet →
      node.store.listedBefore row < 500 := by
  constructor
  · intro agrees row stored listed
    apply (stored_spared_iff node packet stored listed).mp
    rw [agrees]
    exact not_absent_of_stored node packet stored
  · exact gaps_exact_of_reached node packet

end Gaps

namespace Sample

def agedRow (age : Nat) : StoredMessage where
  id := Hex.encode (leBytes 8 age)
  packetId := Hex.encode (leBytes 8 age)
  senderId := nodeId 1
  recipientId := nodeId 2
  nonce := []
  ciphertext := []
  aeadTag := []
  receivedAt := 2000 - age
  delivered := true
  msgCounter := 0

theorem agedIds_nodup {size : Nat} (small : size ≤ 256 ^ 8) :
    ((List.range size).map fun age => Hex.encode (leBytes 8 age)).Nodup := by
  apply List.nodup_range.map_on
  intro first inFirst second inSecond same
  exact leBytes_injective (Nat.lt_of_lt_of_le (List.mem_range.mp inFirst) small)
    (Nat.lt_of_lt_of_le (List.mem_range.mp inSecond) small) (Hex.encode_injective same)

def agedRows (size : Nat) (small : size ≤ 256 ^ 8) : Messages where
  rows := (List.range size).map agedRow
  ids_nodup := by
    rw [List.map_map]
    exact agedIds_nodup small
  packetIds_nodup := by
    rw [List.map_map]
    exact agedIds_nodup small

def holder : AppState haloCrates :=
  { node haloCrates 1 [2] with
    store := { Store.empty with messages := Messages.empty.insertOrIgnore (agedRow 500) } }

def holderResp : ClampPacket := syncRespPacket haloCrates holder (octets 4 1)

def respCrates : Crates :=
  { haloCrates with
    valueFromSlice := fun bytes =>
      if bytes = holderResp.ciphertext then
        some (.object [("fingerprints", .array [.string (agedRow 500).packetId])])
      else none }

def hoarder (oldest : Nat) (small : oldest + 1 ≤ 256 ^ 8) : AppState respCrates :=
  { node respCrates 2 [1] with
    store := { Store.empty with messages := agedRows (oldest + 1) small } }

theorem listedIds_holderResp : listedIds respCrates holderResp = [(agedRow 500).packetId] := by
  rw [listedIds]
  simp [respCrates, Json.Value.member, Json.Value.asArray, Json.Value.asStr]

theorem countP_newer (size : Nat) : ((List.range size).map agedRow).countP
    (fun other => (agedRow size).receivedAt < other.receivedAt) = size := by
  rw [List.countP_eq_length.mpr, List.length_map, List.length_range]
  intro row member
  rcases List.mem_map.mp member with ⟨age, within, rfl⟩
  have younger := List.mem_range.mp within
  rw [decide_eq_true_eq]
  change (2000 - size : Int) < 2000 - age
  omega

theorem rows_hoarder (oldest : Nat) (small : oldest + 1 ≤ 256 ^ 8) :
    (hoarder oldest small).store.messages.rows =
      (List.range oldest).map agedRow ++ [agedRow oldest] := by
  change (List.range (oldest + 1)).map agedRow = _
  rw [List.range_succ, List.map_append, List.map_singleton]

theorem oldest_stored (oldest : Nat) (small : oldest + 1 ≤ 256 ^ 8) :
    agedRow oldest ∈ (hoarder oldest small).store.messages.rows := by
  rw [rows_hoarder]
  exact List.mem_append_right _ (List.mem_singleton_self _)

theorem oldest_late (oldest : Nat) (small : oldest + 1 ≤ 256 ^ 8) :
    oldest ≤ (hoarder oldest small).store.listedBefore (agedRow oldest) := by
  rw [Store.listedBefore, rows_hoarder, List.countP_append, countP_newer]
  omega

end Sample

/-- The oldest of 501 rows is stored and yet reported as missing. -/
theorem stored_id_reported :
    Sample.agedRow 500 ∈ (Sample.hoarder 500 (by decide)).store.messages.rows ∧
      (Sample.agedRow 500).packetId ∈
        reportedMissing (Sample.hoarder 500 (by decide)) Sample.holderResp ∧
      reportedMissing (Sample.hoarder 500 (by decide)) Sample.holderResp ≠
        absentIds (Sample.hoarder 500 (by decide)) Sample.holderResp := by
  have stored := Sample.oldest_stored 500 (by decide)
  have listed : (Sample.agedRow 500).packetId ∈ listedIds Sample.respCrates Sample.holderResp := by
    rw [Sample.listedIds_holderResp]
    exact List.mem_singleton_self _
  have reported : (Sample.agedRow 500).packetId ∈
      reportedMissing (Sample.hoarder 500 (by decide)) Sample.holderResp := by
    by_contra spared
    have early := (stored_spared_iff _ _ stored listed).mp spared
    exact Nat.not_lt.mpr (Sample.oldest_late 500 (by decide)) early
  refine ⟨stored, reported, ?_⟩
  intro agrees
  rw [agrees] at reported
  exact not_absent_of_stored _ _ stored reported

end Caraka
