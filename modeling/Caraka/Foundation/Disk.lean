import Caraka.Foundation.Bytes
import Mathlib.Logic.Function.Basic

/-! A disk: what paths denote, the files there, and writes of whole files that may stop midway. -/

namespace Foundation

inductive Entry where
  | file (content : Bytes)
  | folder
  deriving DecidableEq

inductive WriteEnd where
  | notOpened
  | stopped (written : Nat)
  | complete
  deriving DecidableEq

def WriteEnd.leaves (data : Bytes) : WriteEnd → Option Bytes
  | notOpened => none
  | stopped written => some (data.take written)
  | complete => some data

/-- Two paths may denote one thing, and a path may denote nothing. -/
structure Disk (ι : Type) where
  resolve : String → Option ι
  entries : ι → Option Entry

namespace Disk

variable {ι : Type}

def pathExists (disk : Disk ι) (path : String) : Bool :=
  ((disk.resolve path).bind disk.entries).isSome

def read (disk : Disk ι) (path : String) : Option Bytes :=
  match (disk.resolve path).bind disk.entries with
  | some (.file content) => some content
  | some .folder | none => none

/-- A path whose file can be opened for writing, or made. -/
def Opens (disk : Disk ι) (path : String) : Prop :=
  ∃ place, disk.resolve path = some place ∧ disk.entries place ≠ some .folder

section Reading

variable {disk : Disk ι} {path other : String} {content : Bytes}

theorem pathExists_of_read (stored : disk.read path = some content) :
    disk.pathExists path = true := by
  rw [read] at stored
  rw [pathExists]
  split at stored
  · rename_i present
    rw [present]
    rfl
  · cases stored
  · cases stored

theorem pathExists_congr (same : disk.resolve other = disk.resolve path) :
    disk.pathExists other = disk.pathExists path := by
  rw [pathExists, pathExists, same]

end Reading

variable [DecidableEq ι]

/-- `fs::write`. -/
def write (disk : Disk ι) (path : String) (data : Bytes) (ending : WriteEnd) (error : String) :
    Disk ι × Except String Unit :=
  match disk.resolve path with
  | none => (disk, .error error)
  | some place =>
    if disk.entries place = some .folder then (disk, .error error)
    else
      match ending.leaves data with
      | none => (disk, .error error)
      | some content =>
        ({ disk with entries := Function.update disk.entries place (some (.file content)) },
          if ending = .complete then .ok () else .error error)

variable {disk : Disk ι} {path other : String} {data : Bytes} {ending : WriteEnd} {error : String}

theorem read_write_opens (opens : disk.Opens path) :
    (disk.write path data ending error).1.read other =
      if disk.resolve other = disk.resolve path then (ending.leaves data).or (disk.read other)
      else disk.read other := by
  rcases opens with ⟨place, found, file⟩
  rw [write, found]
  dsimp only
  rw [if_neg file]
  cases ending.leaves data with
  | none =>
      rw [Option.none_or, ite_self]
  | some content =>
      rw [Option.some_or, read, read]
      dsimp only
      by_cases same : disk.resolve other = some place
      · rw [if_pos same, same, Option.bind_some, Function.update_self]
      · rw [if_neg same]
        cases elsewhere : disk.resolve other with
        | none => rfl
        | some spot =>
            have distinct : spot ≠ place := by
              intro same
              subst same
              exact same elsewhere
            rw [Option.bind_some, Option.bind_some, Function.update_of_ne distinct]

theorem write_closed (closed : ¬ disk.Opens path) :
    disk.write path data ending error = (disk, .error error) := by
  rw [write]
  split
  · rfl
  · rename_i place found
    by_cases folder : disk.entries place = some .folder
    · rw [if_pos folder]
    · exact absurd ⟨place, found, folder⟩ closed

theorem write_eq_ok_iff :
    (disk.write path data ending error).2 = .ok () ↔ disk.Opens path ∧ ending = .complete := by
  by_cases opens : disk.Opens path
  · rcases opens with ⟨place, found, file⟩
    rw [write, found]
    dsimp only
    rw [if_neg file]
    cases ending with
    | notOpened => simp [WriteEnd.leaves]
    | stopped written => simp [WriteEnd.leaves]
    | complete =>
        simp only [WriteEnd.leaves, if_true, true_iff, and_true]
        exact ⟨place, found, file⟩
  · rw [write_closed opens]
    simp [opens]

end Disk

end Foundation
