import Caraka.Foundation.Sql
import Caraka.Foundation.Transition
import Mathlib.Logic.Function.Iterate

/-! Processes that each run one program of statements on the same database: what they make of it,
in whatever order their steps come and wherever one of them stops. -/

namespace Foundation.Sql

variable {ι τ κ ν ξ : Type} [DecidableEq τ] [DecidableEq κ] [DecidableEq ξ]

inductive Op (τ κ ν ξ : Type) where
  | exec (statement : Statement τ κ ν ξ)
  /-- Count the columns of that name, and add one if there is none. -/
  | ensure (table : τ) (column : κ) (default : ν)

abbrev Program (τ κ ν ξ : Type) := List (Op τ κ ν ξ)

inductive Process (τ κ ν ξ : Type) where
  | running (rest : Program τ κ ν ξ)
  | failed (error : Error τ κ)

/-- A process takes one step. Others may come between the count and the statement after it. -/
def advance (db : Database τ κ ν ξ) :
    Process τ κ ν ξ → Database τ κ ν ξ × Process τ κ ν ξ
  | .failed error => (db, .failed error)
  | .running [] => (db, .running [])
  | .running (.exec statement :: rest) =>
    match db.exec statement with
    | .ok next => (next, .running rest)
    | .error error => (db, .failed error)
  | .running (.ensure table column default :: rest) =>
    if db.hasColumn table column then (db, .running rest)
    else (db, .running (.exec (.addColumn table column default) :: rest))

/-- A database and the processes that have it open. -/
structure Shared (ι τ κ ν ξ : Type) [DecidableEq τ] [DecidableEq ξ] where
  db : Database τ κ ν ξ
  processes : ι → Option (Process τ κ ν ξ)

inductive Input (ι : Type) where
  /-- A process starts, whatever has become of the one before it. -/
  | start (who : ι)
  | advance (who : ι)

namespace Shared

variable [DecidableEq ι]

def set (shared : Shared ι τ κ ν ξ) (who : ι) (db : Database τ κ ν ξ)
    (process : Process τ κ ν ξ) : Shared ι τ κ ν ξ :=
  ⟨db, Function.update shared.processes who (some process)⟩

def step (program : Program τ κ ν ξ) (shared : Shared ι τ κ ν ξ) :
    Input ι → Shared ι τ κ ν ξ
  | .start who => shared.set who shared.db (.running program)
  | .advance who =>
    match shared.processes who with
    | none => shared
    | some process =>
      shared.set who (Sql.advance shared.db process).1 (Sql.advance shared.db process).2

omit [DecidableEq κ] in
theorem processes_set_self (shared : Shared ι τ κ ν ξ) (who : ι) (db : Database τ κ ν ξ)
    (process : Process τ κ ν ξ) : (shared.set who db process).processes who = some process :=
  Function.update_self ..

omit [DecidableEq κ] in
theorem processes_set_ne (shared : Shared ι τ κ ν ξ) {who other : ι} (db : Database τ κ ν ξ)
    (process : Process τ κ ν ξ) (distinct : other ≠ who) :
    (shared.set who db process).processes other = shared.processes other :=
  Function.update_of_ne distinct ..

omit [DecidableEq κ] in
theorem set_set (shared : Shared ι τ κ ν ξ) (who : ι) (db next : Database τ κ ν ξ)
    (process after : Process τ κ ν ξ) :
    (shared.set who db process).set who next after = shared.set who next after := by
  rw [set, set, set, Function.update_idem]

omit [DecidableEq κ] in
theorem set_self {shared : Shared ι τ κ ν ξ} {who : ι} {process : Process τ κ ν ξ}
    (present : shared.processes who = some process) :
    shared.set who shared.db process = shared := by
  rw [set, ← present, Function.update_eq_self]

theorem step_advance (program : Program τ κ ν ξ) {shared : Shared ι τ κ ν ξ} {who : ι}
    {process : Process τ κ ν ξ} (present : shared.processes who = some process) :
    shared.step program (.advance who) =
      shared.set who (Sql.advance shared.db process).1 (Sql.advance shared.db process).2 := by
  rw [step, present]

end Shared

def Op.Done (db : Database τ κ ν ξ) : Op τ κ ν ξ → Prop
  | .exec (.createTable name _) => (db.tables.get? name).isSome = true
  | .exec (.createIndex name _ _) => (db.indexes.get? name).isSome = true
  | .exec (.addColumn table column _) | .ensure table column _ => db.hasColumn table column = true

def Op.Needs (program before : Program τ κ ν ξ) : Op τ κ ν ξ → Prop
  | .exec (.createTable ..) => True
  | .exec (.createIndex _ table column) =>
    (∃ heading, .exec (.createTable table heading) ∈ before) ∧
      (∀ heading, .exec (.createTable table heading) ∈ program → column ∈ heading.columns) ∧
      ∀ default, .ensure table column default ∉ program
  | .exec (.addColumn ..) => False
  | .ensure table _ _ => ∃ heading, .exec (.createTable table heading) ∈ before

def Sound (program : Program τ κ ν ξ) : Prop :=
  ∀ front op back, program = front ++ op :: back → op.Needs program front

def Supported (program before : Program τ κ ν ξ) : Program τ κ ν ξ → Prop
  | [] => True
  | op :: rest => op.Needs program before ∧ Supported program (before ++ [op]) rest

omit [DecidableEq τ] [DecidableEq κ] [DecidableEq ξ] in
theorem Supported.needs {program before front back : Program τ κ ν ξ} {op : Op τ κ ν ξ}
    (supported : Supported program before (front ++ op :: back)) :
    op.Needs program (before ++ front) := by
  induction front generalizing before with
  | nil =>
      rw [List.append_nil]
      exact supported.1
  | cons first front ih =>
      have later := ih supported.2
      rwa [List.append_assoc] at later

omit [DecidableEq τ] [DecidableEq κ] [DecidableEq ξ] in
theorem sound_of_supported {program : Program τ κ ν ξ} (supported : Supported program [] program) :
    Sound program := by
  intro front op back split
  have here := supported
  nth_rewrite 2 [split] at here
  exact here.needs

/-- What is there of a program's tables has their columns, but maybe for those it adds. -/
def Older (program : Program τ κ ν ξ) (db : Database τ κ ν ξ) : Prop :=
  ∀ name heading, .exec (.createTable name heading) ∈ program →
    ∀ table, db.tables.get? name = some table → ∀ column ∈ heading.columns,
      column ∈ table.columns ∨ ∃ default, .ensure name column default ∈ program

def Begins (program : Program τ κ ν ξ) (old : Database τ κ ν ξ) (name : τ) (table : Table κ ν) :
    Prop :=
  old.tables.get? name = some table ∨ old.tables.get? name = none ∧
    ∃ heading, .exec (.createTable name heading) ∈ program ∧ table = Table.created heading

structure Descends (program : Program τ κ ν ξ) (old db : Database τ κ ν ξ) : Prop where
  origin : ∀ name table, db.tables.get? name = some table → ∃ first added,
    Begins program old name first ∧ Widened added first table ∧
      ∀ entry ∈ added, .ensure name entry.1 entry.2 ∈ program
  kept : ∀ name, (old.tables.get? name).isSome = true → (db.tables.get? name).isSome = true

/-- All of a program's tables, with their columns, and all of its indexes. -/
structure Complete (program : Program τ κ ν ξ) (db : Database τ κ ν ξ) : Prop where
  columns : ∀ name heading, .exec (.createTable name heading) ∈ program →
    ∀ column ∈ heading.columns, db.hasColumn name column = true
  indexes : ∀ name table column, .exec (.createIndex name table column) ∈ program →
    (db.indexes.get? name).isSome = true

structure Grows (db next : Database τ κ ν ξ) : Prop where
  tables : ∀ name, (db.tables.get? name).isSome = true → (next.tables.get? name).isSome = true
  columns : ∀ table column, db.hasColumn table column = true → next.hasColumn table column = true
  indexes : ∀ name, (db.indexes.get? name).isSome = true → (next.indexes.get? name).isSome = true

theorem Grows.refl (db : Database τ κ ν ξ) : Grows db db :=
  ⟨fun _ there => there, fun _ _ there => there, fun _ there => there⟩

theorem Op.Done.mono {db next : Database τ κ ν ξ} (grows : Grows db next) {op : Op τ κ ν ξ}
    (done : op.Done db) : op.Done next := by
  cases op with
  | exec statement =>
      cases statement with
      | createTable name heading => exact grows.tables name done
      | createIndex name table column => exact grows.indexes name done
      | addColumn table column default => exact grows.columns table column done
  | ensure table column default => exact grows.columns table column done

theorem grows_of_tables {db next : Database τ κ ν ξ} {name : τ} {table : Table κ ν}
    (same : next.indexes = db.indexes)
    (tables : ∀ other, next.tables.get? other =
      if other = name then some table else db.tables.get? other)
    (wider : ∀ old, db.tables.get? name = some old → ∀ column ∈ old.columns,
      column ∈ table.columns) : Grows db next where
  tables other there := by
    rw [tables other]
    split
    · rfl
    · exact there
  columns other column there := by
    rcases Database.hasColumn_eq_true.mp there with ⟨found, present, inside⟩
    rw [Database.hasColumn_eq_true, tables other]
    split
    · rename_i here
      exact ⟨table, rfl, wider found (here ▸ present) column inside⟩
    · exact ⟨found, present, inside⟩
  indexes other there := by rwa [same]

theorem grows_exec {db next : Database τ κ ν ξ} {statement : Statement τ κ ν ξ}
    (ran : db.exec statement = .ok next) : Grows db next := by
  cases statement with
  | createTable name heading =>
      rcases Database.exec_createTable ran with ⟨same, tables⟩
      apply grows_of_tables same tables
      intro old present column inside
      rwa [present]
  | createIndex name table column =>
      rcases Database.exec_createIndex ran with ⟨same, indexes⟩
      refine ⟨fun other there => by rwa [same], fun other column there => ?_, fun other there => ?_⟩
      · rwa [Database.hasColumn, same]
      · rw [indexes other, there, Bool.or_true]
  | addColumn table column default =>
      rcases Database.exec_addColumn ran with ⟨same, found, present, fresh, tables⟩
      apply grows_of_tables same tables
      intro old there other inside
      rw [present, Option.some.injEq] at there
      exact List.mem_append_left _ (there ▸ inside)

theorem done_exec {db next : Database τ κ ν ξ} {statement : Statement τ κ ν ξ}
    (ran : db.exec statement = .ok next) : (Op.exec statement).Done next := by
  cases statement with
  | createTable name heading =>
      rw [Op.Done, (Database.exec_createTable ran).2, if_pos rfl]
      rfl
  | createIndex name table column =>
      rw [Op.Done, (Database.exec_createIndex ran).2, decide_eq_true rfl, Bool.true_or]
  | addColumn table column default =>
      rcases Database.exec_addColumn ran with ⟨-, found, present, fresh, tables⟩
      rw [Op.Done, Database.hasColumn_eq_true, tables, if_pos rfl]
      exact ⟨_, rfl, List.mem_append_right _ (List.mem_singleton_self _)⟩

omit [DecidableEq κ] in
theorem Descends.refl (program : Program τ κ ν ξ) (old : Database τ κ ν ξ) :
    Descends program old old where
  origin _ table there :=
    ⟨table, [], .inl there, Widened.refl table, fun _ member => absurd member List.not_mem_nil⟩
  kept _ there := there

def Comes (program : Program τ κ ν ξ) : Statement τ κ ν ξ → Prop
  | .createTable name heading => .exec (.createTable name heading) ∈ program
  | .createIndex name table column => .exec (.createIndex name table column) ∈ program
  | .addColumn table column default => .ensure table column default ∈ program

section Program

variable {program : Program τ κ ν ξ} {old db next : Database τ κ ν ξ}

theorem Descends.exec (descends : Descends program old db) {statement : Statement τ κ ν ξ}
    (comes : Comes program statement) (ran : db.exec statement = .ok next) :
    Descends program old next where
  kept name there := (grows_exec ran).tables name (descends.kept name there)
  origin := by
    intro other table there
    cases statement with
    | createTable name heading =>
        rw [(Database.exec_createTable ran).2] at there
        split at there
        · rename_i here
          subst here
          cases present : db.tables.get? other with
          | some found =>
              rw [present, Option.getD_some, Option.some.injEq] at there
              exact descends.origin other table (there ▸ present)
          | none =>
              rw [present, Option.getD_none, Option.some.injEq] at there
              have absent : old.tables.get? other = none := by
                rw [← Option.not_isSome_iff_eq_none]
                intro before
                have still := descends.kept other before
                rw [present] at still
                cases still
              exact ⟨table, [], .inr ⟨absent, heading, comes, there.symm⟩, Widened.refl table,
                fun _ member => absurd member List.not_mem_nil⟩
        · exact descends.origin other table there
    | createIndex name indexed column =>
        rw [(Database.exec_createIndex ran).1] at there
        exact descends.origin other table there
    | addColumn name column default =>
        rcases Database.exec_addColumn ran with ⟨-, found, present, fresh, tables⟩
        rw [tables] at there
        split at there
        · rename_i here
          subst here
          rw [Option.some.injEq] at there
          subst there
          rcases descends.origin other found present with ⟨first, added, begins, widened, each⟩
          refine ⟨first, added ++ [(column, default)], begins, widened.addColumn default fresh, ?_⟩
          intro entry member
          rcases List.mem_append.mp member with before | last
          · exact each entry before
          · cases List.mem_singleton.mp last
            exact comes
        · exact descends.origin other table there

theorem Descends.hasColumn (descends : Descends program old db) (older : Older program old)
    {name : τ} {heading : Heading κ} {column : κ}
    (made : .exec (.createTable name heading) ∈ program) (there : (db.tables.get? name).isSome = true)
    (headed : ∀ other, .exec (.createTable name other) ∈ program → column ∈ other.columns)
    (added : ∀ default, .ensure name column default ∈ program →
      db.hasColumn name column = true) : db.hasColumn name column = true := by
  rcases Option.isSome_iff_exists.mp there with ⟨table, present⟩
  rcases descends.origin name table present with ⟨first, more, begins, widened, -⟩
  have wider : column ∈ first.columns → db.hasColumn name column = true := by
    intro inside
    rw [Database.hasColumn_eq_true]
    refine ⟨table, present, ?_⟩
    rw [widened.columns]
    exact List.mem_append_left _ inside
  rcases begins with before | ⟨-, other, makes, rfl⟩
  · rcases older name heading made first before column (headed heading made) with inside | ⟨_, adds⟩
    · exact wider inside
    · exact added _ adds
  · exact wider (headed other makes)

def Stands (program : Program τ κ ν ξ) (db : Database τ κ ν ξ) : Process τ κ ν ξ → Prop
  | .failed error => ∃ table column default, .ensure table column default ∈ program ∧
      error = .duplicateColumn column ∧ db.hasColumn table column = true
  | .running rest => ∃ done back, program = done ++ back ∧ (∀ op ∈ done, op.Done db) ∧
      (rest = back ∨ ∃ table column default tail, back = .ensure table column default :: tail ∧
        rest = .exec (.addColumn table column default) :: tail)

theorem Stands.mono (grows : Grows db next) {process : Process τ κ ν ξ}
    (stands : Stands program db process) : Stands program next process := by
  cases process with
  | failed error =>
      rcases stands with ⟨table, column, default, ensures, same, there⟩
      exact ⟨table, column, default, ensures, same, grows.columns table column there⟩
  | running rest =>
      rcases stands with ⟨done, back, split, each, place⟩
      exact ⟨done, back, split, fun op member => (each op member).mono grows, place⟩

/-- What a process keeps with each step it takes. -/
structure Moves (program : Program τ κ ν ξ) (old db : Database τ κ ν ξ)
    (after : Database τ κ ν ξ × Process τ κ ν ξ) : Prop where
  descends : Descends program old after.1
  grows : Grows db after.1
  stands : Stands program after.1 after.2

theorem moves_exec (sound : Sound program) (older : Older program old)
    (descends : Descends program old db) {done rest : Program τ κ ν ξ}
    {statement : Statement τ κ ν ξ} (split : program = done ++ .exec statement :: rest)
    (each : ∀ op ∈ done, op.Done db) :
    ∃ next, advance db (.running (.exec statement :: rest)) = (next, .running rest) ∧
      Moves program old db (next, .running rest) := by
  have needs := sound done (.exec statement) rest split
  have present : .exec statement ∈ program := by
    rw [split]
    exact List.mem_append_right _ List.mem_cons_self
  have runs : (∃ next, db.exec statement = .ok next) ∧ Comes program statement := by
    cases statement with
    | createTable name heading => exact ⟨Database.exec_createTable_ok name heading, present⟩
    | createIndex name table column =>
        rcases needs with ⟨⟨heading, before⟩, headed, plain⟩
        have made : .exec (.createTable table heading) ∈ program := by
          rw [split]
          exact List.mem_append_left _ before
        have there := descends.hasColumn older made (each _ before) headed
          fun default adds => absurd adds (plain default)
        exact ⟨Database.exec_createIndex_ok name there, present⟩
    | addColumn table column default => exact needs.elim
  rcases runs with ⟨⟨next, ran⟩, comes⟩
  have grows := grows_exec ran
  refine ⟨next, by rw [advance, ran], descends.exec comes ran, grows, ?_⟩
  refine ⟨done ++ [.exec statement], rest, by rw [split, List.append_assoc]; rfl, ?_, .inl rfl⟩
  intro op member
  rcases List.mem_append.mp member with before | last
  · exact (each op before).mono grows
  · cases List.mem_singleton.mp last
    exact done_exec ran

theorem moves_ensure (descends : Descends program old db) {done rest : Program τ κ ν ξ} {table : τ}
    {column : κ} {default : ν} (split : program = done ++ .ensure table column default :: rest)
    (each : ∀ op ∈ done, op.Done db) :
    Moves program old db (advance db (.running (.ensure table column default :: rest))) := by
  rw [advance]
  split
  · rename_i there
    refine ⟨descends, Grows.refl db, done ++ [.ensure table column default], rest,
      by rw [split, List.append_assoc]; rfl, ?_, .inl rfl⟩
    intro op member
    rcases List.mem_append.mp member with before | last
    · exact each op before
    · cases List.mem_singleton.mp last
      exact there
  · exact ⟨descends, Grows.refl db, done, _, split, each, .inr ⟨_, _, _, _, rfl, rfl⟩⟩

theorem moves_addColumn (sound : Sound program) (descends : Descends program old db)
    {done rest : Program τ κ ν ξ} {table : τ} {column : κ} {default : ν}
    (split : program = done ++ .ensure table column default :: rest)
    (each : ∀ op ∈ done, op.Done db) :
    Moves program old db
        (advance db (.running (.exec (.addColumn table column default) :: rest))) ∧
      (db.hasColumn table column = false →
        ∃ next, advance db (.running (.exec (.addColumn table column default) :: rest)) =
          (next, .running rest)) := by
  rcases sound done _ rest split with ⟨heading, before⟩
  have member : .ensure table column default ∈ program := by
    rw [split]
    exact List.mem_append_right _ List.mem_cons_self
  have outcome := Database.exec_addColumn_of_table column default (each _ before)
  split at outcome
  · rename_i there
    rw [advance, outcome]
    refine ⟨⟨descends, Grows.refl db, table, column, default, member, rfl, there⟩, fun lacks => ?_⟩
    rw [there] at lacks
    cases lacks
  · rcases outcome with ⟨next, ran⟩
    have grows := grows_exec ran
    rw [advance, ran]
    have comes : Comes program (.addColumn table column default) := member
    refine ⟨⟨descends.exec comes ran, grows, done ++ [.ensure table column default], rest,
      by rw [split, List.append_assoc]; rfl, ?_, .inl rfl⟩, fun _ => ⟨next, rfl⟩⟩
    intro op present
    rcases List.mem_append.mp present with early | last
    · exact (each op early).mono grows
    · cases List.mem_singleton.mp last
      exact done_exec ran

theorem moves_advance (sound : Sound program) (older : Older program old)
    (descends : Descends program old db) {process : Process τ κ ν ξ}
    (stands : Stands program db process) : Moves program old db (advance db process) := by
  cases process with
  | failed error => exact ⟨descends, Grows.refl db, stands⟩
  | running rest =>
      rcases stands with ⟨done, back, split, each, rfl | ⟨table, column, default, tail, rfl, rfl⟩⟩
      · cases rest with
        | nil => exact ⟨descends, Grows.refl db, done, [], split, each, .inl rfl⟩
        | cons op rest =>
            cases op with
            | exec statement =>
                rcases moves_exec sound older descends split each with ⟨next, steps, moves⟩
                rwa [steps]
            | ensure table column default => exact moves_ensure descends split each
      · exact (moves_addColumn sound descends split each).1

theorem Stands.each (sound : Sound program) {done rest : Program τ κ ν ξ}
    (split : program = done ++ rest) (stands : Stands program db (.running rest)) :
    ∀ op ∈ done, op.Done db := by
  rcases stands with ⟨before, back, same, each, rfl | ⟨table, column, default, tail, rfl, rfl⟩⟩
  · rw [split] at same
    rwa [List.append_cancel_right same]
  · exact (sound done _ tail split).elim

theorem finishes (sound : Sound program) (older : Older program old) {done rest : Program τ κ ν ξ}
    (split : program = done ++ rest) (descends : Descends program old db)
    (stands : Stands program db (.running rest)) :
    ∃ steps ≤ 2 * rest.length, ∃ last,
      (fun state => advance state.1 state.2)^[steps] (db, .running rest) =
        (last, .running []) := by
  induction rest generalizing done db with
  | nil => exact ⟨0, Nat.zero_le _, db, rfl⟩
  | cons op rest ih =>
      have each := stands.each sound split
      have assoc : program = (done ++ [op]) ++ rest := by rw [split, List.append_assoc]; rfl
      cases op with
      | exec statement =>
          rcases moves_exec sound older descends split each with ⟨next, first, moves⟩
          rcases ih assoc moves.descends moves.stands with ⟨steps, few, last, ends⟩
          refine ⟨steps + 1, by rw [List.length_cons]; omega, last, ?_⟩
          rw [Function.iterate_succ_apply]
          dsimp only
          rw [first, ends]
      | ensure table column default =>
          cases there : db.hasColumn table column with
          | true =>
              have first : advance db (.running (.ensure table column default :: rest)) =
                  (db, .running rest) := by rw [advance, there]; rfl
              have moves := moves_ensure descends split each
              rw [first] at moves
              rcases ih assoc moves.descends moves.stands with ⟨steps, few, last, ends⟩
              refine ⟨steps + 1, by rw [List.length_cons]; omega, last, ?_⟩
              rw [Function.iterate_succ_apply]
              dsimp only
              rw [first, ends]
          | false =>
              have first : advance db (.running (.ensure table column default :: rest)) =
                  (db, .running (.exec (.addColumn table column default) :: rest)) := by
                rw [advance, there]
                rfl
              rcases moves_addColumn sound descends split each with ⟨moves, runs⟩
              rcases runs there with ⟨next, second⟩
              rw [second] at moves
              rcases ih assoc moves.descends moves.stands with ⟨steps, few, last, ends⟩
              refine ⟨steps + 2, by rw [List.length_cons]; omega, last, ?_⟩
              rw [Function.iterate_succ_apply, Function.iterate_succ_apply]
              dsimp only
              rw [first, second, ends]

end Program

section Runs

variable [DecidableEq ι] {program : Program τ κ ν ξ} {old : Database τ κ ν ξ}

/-- What holds of a database and of the processes on it. -/
structure Kept (program : Program τ κ ν ξ) (old : Database τ κ ν ξ)
    (shared : Shared ι τ κ ν ξ) : Prop where
  descends : Descends program old shared.db
  stands : ∀ who process, shared.processes who = some process → Stands program shared.db process

theorem Kept.set {shared : Shared ι τ κ ν ξ} (kept : Kept program old shared) (who : ι)
    {next : Database τ κ ν ξ} {process : Process τ κ ν ξ}
    (moves : Moves program old shared.db (next, process)) :
    Kept program old (shared.set who next process) where
  descends := moves.descends
  stands other other' found := by
    by_cases same : other = who
    · rw [same, Shared.processes_set_self, Option.some.injEq] at found
      exact found ▸ moves.stands
    · rw [Shared.processes_set_ne _ _ _ same] at found
      exact (kept.stands other other' found).mono moves.grows

theorem kept_step (sound : Sound program) (older : Older program old)
    {shared : Shared ι τ κ ν ξ} (kept : Kept program old shared) (input : Input ι) :
    Kept program old (shared.step program input) := by
  cases input with
  | start who =>
      exact kept.set who ⟨kept.descends, Grows.refl _, [], program, rfl,
        fun _ member => absurd member List.not_mem_nil, .inl rfl⟩
  | advance who =>
      cases present : shared.processes who with
      | none =>
          rw [Shared.step, present]
          exact kept
      | some process =>
          rw [Shared.step_advance program present]
          exact kept.set who
            (moves_advance sound older kept.descends (kept.stands who process present))

/-- Whatever processes run the program on a database, in whatever order and wherever they stop. -/
theorem kept_run (sound : Sound program) (older : Older program old) (inputs : List (Input ι)) :
    Kept program old (run (Shared.step program) ⟨old, fun _ => none⟩ inputs) := by
  apply run_induction
  · intro shared input kept
    exact kept_step sound older kept input
  · exact ⟨Descends.refl program old, fun _ _ found => by cases found⟩

theorem run_advance (program : Program τ κ ν ξ) (shared : Shared ι τ κ ν ξ) {who : ι}
    {process : Process τ κ ν ξ} (present : shared.processes who = some process) (steps : Nat) :
    run (Shared.step program) shared (List.replicate steps (.advance who)) =
      shared.set who ((fun state => advance state.1 state.2)^[steps] (shared.db, process)).1
        ((fun state => advance state.1 state.2)^[steps] (shared.db, process)).2 := by
  induction steps generalizing shared process with
  | zero => exact (Shared.set_self present).symm
  | succ steps ih =>
      rw [List.replicate_succ, run_cons, Shared.step_advance program present,
        ih _ (Shared.processes_set_self ..), Shared.set_set, Function.iterate_succ_apply]
      rfl

theorem finishes_alone (sound : Sound program) (older : Older program old)
    {shared : Shared ι τ κ ν ξ} (kept : Kept program old shared) (who : ι) :
    (run (Shared.step program) shared (.start who ::
      List.replicate (2 * program.length) (.advance who))).processes who =
        some (.running []) := by
  have started := kept_step sound older kept (.start who)
  have present : (shared.step program (.start who)).processes who = some (.running program) :=
    Shared.processes_set_self ..
  rcases finishes sound older (List.nil_append program).symm started.descends
    (started.stands who _ present) with ⟨steps, few, last, ends⟩
  have still : ∀ more, (fun state => advance state.1 state.2)^[more] (last, .running []) =
      (last, .running []) := fun more => Function.iterate_fixed rfl more
  have split : 2 * program.length = (2 * program.length - steps) + steps := by omega
  rw [run_cons, run_advance program _ present, Shared.processes_set_self, split,
    Function.iterate_add_apply, ends, still]

omit [DecidableEq ι] in
theorem done_of_finished (sound : Sound program) {shared : Shared ι τ κ ν ξ}
    (kept : Kept program old shared) {who : ι}
    (finished : shared.processes who = some (.running [])) :
    ∀ op ∈ program, op.Done shared.db :=
  (kept.stands who _ finished).each sound (List.append_nil program).symm

omit [DecidableEq ι] in
theorem complete_of_finished (sound : Sound program) (older : Older program old)
    (unique : ∀ name heading other, .exec (.createTable name heading) ∈ program →
      .exec (.createTable name other) ∈ program → other = heading)
    {shared : Shared ι τ κ ν ξ} (kept : Kept program old shared) {who : ι}
    (finished : shared.processes who = some (.running [])) : Complete program shared.db := by
  have done := done_of_finished sound kept finished
  refine ⟨fun name heading made column inside => ?_, fun _ _ _ made => done _ made⟩
  apply kept.descends.hasColumn older made (done _ made)
  · intro other also
    rwa [unique name heading other made also]
  · intro default adds
    exact done _ adds

end Runs

end Foundation.Sql
