import Caraka.Foundation.AssocMap
import Mathlib.Data.List.Basic

/-! Tables of a database, and the statements that make and widen them. -/

namespace Foundation.Sql

structure Heading (κ : Type) where
  columns : List κ
  nodup : columns.Nodup

structure Table (κ ν : Type) extends Heading κ where
  rows : List (List ν)
  width : ∀ row ∈ rows, row.length = columns.length

section Tables

variable {κ ν : Type} [DecidableEq κ]

namespace Table

def created (heading : Heading κ) : Table κ ν where
  toHeading := heading
  rows := []
  width _ member := absurd member List.not_mem_nil

/-- `ALTER TABLE .. ADD COLUMN`: the rows that are there hold the default. -/
def addColumn (table : Table κ ν) (column : κ) (default : ν) (fresh : column ∉ table.columns) :
    Table κ ν where
  columns := table.columns ++ [column]
  nodup := table.nodup.append (List.nodup_singleton _) (List.disjoint_singleton.mpr fresh)
  rows := table.rows.map fun row => row ++ [default]
  width row member := by
    rcases List.mem_map.mp member with ⟨old, present, rfl⟩
    rw [List.length_append, List.length_append, table.width old present]
    rfl

omit [DecidableEq κ] in
theorem columns_addColumn (table : Table κ ν) (column : κ) (default : ν)
    (fresh : column ∉ table.columns) :
    (table.addColumn column default fresh).columns = table.columns ++ [column] := rfl

omit [DecidableEq κ] in
theorem rows_addColumn (table : Table κ ν) (column : κ) (default : ν)
    (fresh : column ∉ table.columns) : (table.addColumn column default fresh).rows =
      table.rows.map fun row => row ++ [default] := rfl

def cell (table : Table κ ν) (row : List ν) (column : κ) : Option ν :=
  row[table.columns.idxOf column]?

end Table

/-- The same rows in more columns; in a column that was added each of them holds its default. -/
structure Widened (added : List (κ × ν)) (old new : Table κ ν) : Prop where
  columns : new.columns = old.columns ++ added.map Prod.fst
  rows : new.rows = old.rows.map fun row => row ++ added.map Prod.snd

omit [DecidableEq κ] in
theorem Widened.refl (table : Table κ ν) : Widened [] table table where
  columns := (List.append_nil _).symm
  rows := by
    apply ((List.map_congr_left fun row _ => ?_).trans (List.map_id _)).symm
    exact List.append_nil row

omit [DecidableEq κ] in
theorem Widened.addColumn {added : List (κ × ν)} {old new : Table κ ν}
    (widened : Widened added old new) {column : κ} (default : ν) (fresh : column ∉ new.columns) :
    Widened (added ++ [(column, default)]) old (new.addColumn column default fresh) where
  columns := by
    rw [Table.columns_addColumn, widened.columns, List.map_append, List.append_assoc]
    rfl
  rows := by
    rw [Table.rows_addColumn, widened.rows, List.map_map]
    apply List.map_congr_left
    intro row _
    rw [List.map_append, Function.comp_apply, List.append_assoc]
    rfl

theorem Widened.cell_old {added : List (κ × ν)} {old new : Table κ ν}
    (widened : Widened added old new) {row : List ν} (size : row.length = old.columns.length)
    {column : κ} (present : column ∈ old.columns) :
    new.cell (row ++ added.map Prod.snd) column = old.cell row column := by
  have inside : old.columns.idxOf column < row.length := by
    rw [size]
    exact List.idxOf_lt_length_of_mem present
  rw [Table.cell, Table.cell, widened.columns, List.idxOf_append_of_mem present]
  exact List.getElem?_append_left inside

theorem Widened.cell_added {added : List (κ × ν)} {old new : Table κ ν}
    (widened : Widened added old new) {row : List ν} (size : row.length = old.columns.length)
    {entry : κ × ν} (member : entry ∈ added) :
    new.cell (row ++ added.map Prod.snd) entry.1 = some entry.2 := by
  have distinct := new.nodup
  rw [widened.columns, List.nodup_append] at distinct
  have absent : entry.1 ∉ old.columns := fun present =>
    distinct.2.2 _ present _ (List.mem_map_of_mem member) rfl
  rcases List.append_of_mem member with ⟨front, back, split⟩
  have first : entry.1 ∉ front.map Prod.fst := by
    rw [split, List.map_append, List.map_cons, List.nodup_append] at distinct
    intro early
    exact distinct.2.1.2.2 _ early _ List.mem_cons_self rfl
  have place : new.columns.idxOf entry.1 = row.length + (front.map Prod.snd).length := by
    rw [widened.columns, split, List.map_append, List.map_cons, List.idxOf_append_of_notMem absent,
      List.idxOf_append_of_notMem first, List.idxOf_cons_self, List.length_map, List.length_map,
      size]
    omega
  rw [Table.cell, place, split, List.map_append, List.map_cons,
    List.getElem?_append_right (Nat.le_add_right ..), Nat.add_sub_cancel_left,
    List.getElem?_append_right (Nat.le_refl _), Nat.sub_self, List.getElem?_cons_zero]

end Tables

section Statements

variable {τ κ ν ξ : Type} [DecidableEq τ] [DecidableEq κ] [DecidableEq ξ]

structure Database (τ κ ν ξ : Type) [DecidableEq τ] [DecidableEq ξ] where
  tables : AssocMap τ (Table κ ν)
  indexes : AssocMap ξ (τ × κ)
  indexed : ∀ name place, indexes.get? name = some place →
    ∃ table, tables.get? place.1 = some table ∧ place.2 ∈ table.columns

inductive Statement (τ κ ν ξ : Type) where
  /-- `CREATE TABLE IF NOT EXISTS`. -/
  | createTable (name : τ) (heading : Heading κ)
  /-- `CREATE INDEX IF NOT EXISTS`. -/
  | createIndex (name : ξ) (table : τ) (column : κ)
  | addColumn (table : τ) (column : κ) (default : ν)

inductive Error (τ κ : Type) where
  | noSuchTable (table : τ)
  | noSuchColumn (column : κ)
  | duplicateColumn (column : κ)
  deriving DecidableEq

namespace Database

def hasColumn (db : Database τ κ ν ξ) (table : τ) (column : κ) : Bool :=
  match db.tables.get? table with
  | none => false
  | some found => decide (column ∈ found.columns)

def put (db : Database τ κ ν ξ) (name : τ) (table : Table κ ν)
    (wider : ∀ old, db.tables.get? name = some old → ∀ column ∈ old.columns,
      column ∈ table.columns) : Database τ κ ν ξ where
  tables := db.tables.insert name table
  indexes := db.indexes
  indexed := by
    intro index place found
    rcases db.indexed index place found with ⟨old, present, inside⟩
    rw [AssocMap.get?_insert]
    split
    · rename_i same
      exact ⟨table, rfl, wider old (same ▸ present) _ inside⟩
    · exact ⟨old, present, inside⟩

def addIndex (db : Database τ κ ν ξ) (name : ξ) (table : τ) (column : κ) {found : Table κ ν}
    (present : db.tables.get? table = some found) (inside : column ∈ found.columns) :
    Database τ κ ν ξ where
  tables := db.tables
  indexes := db.indexes.insert name (table, column)
  indexed := by
    intro index place entry
    rw [AssocMap.get?_insert] at entry
    split at entry
    · cases entry
      exact ⟨found, present, inside⟩
    · exact db.indexed index place entry

omit [DecidableEq κ] in
theorem tables_put (db : Database τ κ ν ξ) (name : τ) (table : Table κ ν) (wider) :
    (db.put name table wider).tables = db.tables.insert name table := rfl

omit [DecidableEq κ] in
theorem indexes_addIndex (db : Database τ κ ν ξ) (name : ξ) (table : τ) (column : κ)
    {found : Table κ ν} (present : db.tables.get? table = some found)
    (inside : column ∈ found.columns) :
    (db.addIndex name table column present inside).indexes =
      db.indexes.insert name (table, column) := rfl

def exec (db : Database τ κ ν ξ) : Statement τ κ ν ξ → Except (Error τ κ) (Database τ κ ν ξ)
  | .createTable name heading =>
    match absent : db.tables.get? name with
    | some _ => .ok db
    | none => .ok (db.put name (Table.created heading) fun old present => by
        rw [absent] at present
        cases present)
  | .createIndex name table column =>
    match db.indexes.get? name with
    | some _ => .ok db
    | none =>
      match present : db.tables.get? table with
      | none => .error (.noSuchTable table)
      | some found =>
        if inside : column ∈ found.columns then .ok (db.addIndex name table column present inside)
        else .error (.noSuchColumn column)
  | .addColumn table column default =>
    match present : db.tables.get? table with
    | none => .error (.noSuchTable table)
    | some found =>
      if taken : column ∈ found.columns then .error (.duplicateColumn column)
      else .ok (db.put table (found.addColumn column default taken) fun old same other inside => by
        rw [present, Option.some.injEq] at same
        exact List.mem_append_left _ (same ▸ inside))

variable {db db' : Database τ κ ν ξ}

theorem hasColumn_eq_true {table : τ} {column : κ} : db.hasColumn table column = true ↔
    ∃ found, db.tables.get? table = some found ∧ column ∈ found.columns := by
  rw [hasColumn]
  cases db.tables.get? table with
  | none => simp
  | some found => simp

theorem exec_createTable {name : τ} {heading : Heading κ}
    (done : db.exec (.createTable name heading) = .ok db') :
    db'.indexes = db.indexes ∧ ∀ other, db'.tables.get? other =
      if other = name then some ((db.tables.get? name).getD (Table.created heading))
      else db.tables.get? other := by
  rw [exec.eq_def] at done
  dsimp only at done
  split at done
  · rename_i found present
    cases done
    refine ⟨rfl, fun other => ?_⟩
    split
    · rename_i same
      rw [same, present]
      rfl
    · rfl
  · rename_i absent
    cases done
    refine ⟨rfl, fun other => ?_⟩
    rw [tables_put, AssocMap.get?_insert, absent]
    rfl

theorem exec_createIndex {name : ξ} {table : τ} {column : κ}
    (done : db.exec (.createIndex name table column) = .ok db') :
    db'.tables = db.tables ∧ ∀ other, (db'.indexes.get? other).isSome =
      (decide (other = name) || (db.indexes.get? other).isSome) := by
  rw [exec.eq_def] at done
  dsimp only at done
  split at done
  · rename_i place present
    cases done
    refine ⟨rfl, fun other => ?_⟩
    by_cases same : other = name
    · rw [same, present]
      simp
    · simp [same]
  · split at done
    · cases done
    · split at done
      · cases done
        refine ⟨rfl, fun other => ?_⟩
        rw [indexes_addIndex, AssocMap.get?_insert]
        by_cases same : other = name
        · simp [same]
        · simp [same]
      · cases done

theorem exec_addColumn {table : τ} {column : κ} {default : ν}
    (done : db.exec (.addColumn table column default) = .ok db') :
    db'.indexes = db.indexes ∧ ∃ found, db.tables.get? table = some found ∧
      ∃ fresh, ∀ other, db'.tables.get? other =
        if other = table then some (found.addColumn column default fresh)
        else db.tables.get? other := by
  rw [exec.eq_def] at done
  dsimp only at done
  split at done
  · cases done
  · rename_i found present
    split at done
    · cases done
    · rename_i fresh
      cases done
      exact ⟨rfl, found, present, fresh, fun other => AssocMap.get?_insert ..⟩

theorem exec_createTable_ok (name : τ) (heading : Heading κ) :
    ∃ next, db.exec (.createTable name heading) = .ok next := by
  rw [exec.eq_def]
  dsimp only
  split
  · exact ⟨_, rfl⟩
  · exact ⟨_, rfl⟩

theorem exec_createIndex_ok (name : ξ) {table : τ} {column : κ}
    (present : db.hasColumn table column = true) :
    ∃ next, db.exec (.createIndex name table column) = .ok next := by
  rcases hasColumn_eq_true.mp present with ⟨found, there, inside⟩
  rw [exec.eq_def]
  dsimp only
  split
  · exact ⟨_, rfl⟩
  · split
    · rename_i absent
      rw [there] at absent
      cases absent
    · rename_i other same
      rw [there, Option.some.injEq] at same
      rw [dif_pos (same ▸ inside)]
      exact ⟨_, rfl⟩

theorem exec_addColumn_of_table {table : τ} (column : κ) (default : ν)
    (present : (db.tables.get? table).isSome = true) :
    if db.hasColumn table column = true then
      db.exec (.addColumn table column default) = .error (.duplicateColumn column)
    else ∃ next, db.exec (.addColumn table column default) = .ok next := by
  rcases Option.isSome_iff_exists.mp present with ⟨found, there⟩
  have known : db.hasColumn table column = true ↔ column ∈ found.columns := by
    rw [hasColumn, there, decide_eq_true_eq]
  rw [exec.eq_def]
  dsimp only
  split
  · rename_i has
    split
    · rename_i absent
      rw [there] at absent
      cases absent
    · rename_i other same
      rw [there, Option.some.injEq] at same
      rw [dif_pos (same ▸ known.mp has)]
  · rename_i lacks
    split
    · rename_i absent
      rw [there] at absent
      cases absent
    · rename_i other same
      rw [there, Option.some.injEq] at same
      rw [dif_neg (same ▸ mt known.mpr lacks)]
      exact ⟨_, rfl⟩

end Database

end Statements

end Foundation.Sql
