import Mathlib.Data.List.DropRight

/-! Paths of Windows as `std::path` takes them apart, for file names without separators and
directories that are not verbatim paths. -/

namespace Foundation.WindowsPath

def isSeparator (c : Char) : Bool := c = '\\' ∨ c = '/'

/-- A drive prefix, as in `C:` or `C:name`. -/
def hasDrive : List Char → Bool
  | letter :: ':' :: _ => letter.isAlpha
  | _ => false

def afterDrive (path : List Char) : List Char := if hasDrive path then path.drop 2 else path

def NeedsSeparator (directory : String) : Prop :=
  directory.toList ≠ [] ∧ directory.toList.getLast?.any isSeparator = false ∧
    ¬ (hasDrive directory.toList ∧ directory.toList.length = 2)

instance (directory : String) : Decidable (NeedsSeparator directory) :=
  inferInstanceAs (Decidable (_ ∧ _ ∧ _))

/-- `Path::join`: a name with a drive prefix replaces the directory. -/
def join (directory name : String) : String :=
  if hasDrive name.toList then name
  else if NeedsSeparator directory then directory ++ "\\" ++ name
  else directory ++ name

/-- `Path::file_name` of a name. -/
def fileName (name : String) : Option (List Char) :=
  let file := afterDrive name.toList
  if file = [] ∨ file = ".".toList ∨ file = "..".toList then none else some file

/-- `rsplit_file_at_dot`: what is before the last dot, where there is one behind the first
character, and what is after it. -/
def splitAtDot (file : List Char) : Option (List Char) × Option (List Char) :=
  if file = "..".toList then (some file, none)
  else
    let after := file.rtakeWhile (· ≠ '.')
    match file.rdropWhile (· ≠ '.') with
    | [] => (none, some after)
    | [_] => (some file, none)
    | dotted => (some dotted.dropLast, some after)

/-- `Path::file_stem`. -/
def fileStem (name : String) : Option (List Char) :=
  (fileName name).bind fun file => (splitAtDot file).1.or (splitAtDot file).2

/-- `Path::extension`. -/
def extension (name : String) : Option (List Char) :=
  (fileName name).bind fun file => (splitAtDot file).1.bind fun _ => (splitAtDot file).2

theorem join_plain {directory name : String} (needs : NeedsSeparator directory)
    (plain : hasDrive name.toList = false) : join directory name = directory ++ "\\" ++ name := by
  rw [join, if_neg (Bool.eq_false_iff.mp plain), if_pos needs]

theorem join_drive {directory name : String} (drive : hasDrive name.toList = true) :
    join directory name = name := if_pos drive

theorem join_ends (directory name : String) :
    ∃ front, (join directory name).toList = front ++ name.toList := by
  rw [join]
  split
  · exact ⟨[], rfl⟩
  · split
    · exact ⟨(directory ++ "\\").toList, String.toList_append⟩
    · exact ⟨directory.toList, String.toList_append⟩

theorem colon_of_hasDrive {path : List Char} (drive : hasDrive path = true) : ':' ∈ path := by
  rcases path with _ | ⟨letter, _ | ⟨second, rest⟩⟩
  · cases drive
  · cases drive
  · by_cases colon : second = ':'
    · subst colon
      exact List.mem_cons_of_mem _ List.mem_cons_self
    · rw [hasDrive.eq_def] at drive
      split at drive
      · rename_i same
        cases same
        exact absurd rfl colon
      · cases drive

theorem mem_of_mem_afterDrive {path : List Char} {c : Char} (member : c ∈ afterDrive path) :
    c ∈ path := by
  rw [afterDrive] at member
  split at member
  · exact List.mem_of_mem_drop member
  · exact member

theorem mem_splitAtDot {file : List Char} {c : Char} (other : c ≠ '.') :
    c ∈ file ↔ c ∈ ((splitAtDot file).1.or (splitAtDot file).2).getD [] ∨
      c ∈ ((splitAtDot file).1.bind fun _ => (splitAtDot file).2).getD [] := by
  have whole : file.rdropWhile (· ≠ '.') ++ file.rtakeWhile (· ≠ '.') = file :=
    List.rdropWhile_append_rtakeWhile ..
  rw [splitAtDot]
  split
  · simp
  · dsimp only
    split
    · rename_i empty
      rw [empty, List.nil_append] at whole
      rw [Option.none_or, Option.getD_some, Option.bind_none, Option.getD_none, whole]
      simp
    · simp
    · rename_i filled _
      have dot : (file.rdropWhile (· ≠ '.')).getLast filled = '.' := by
        simpa using List.rdropWhile_last_not (fun c : Char => decide (c ≠ '.')) file filled
      have front : c ∈ file.rdropWhile (· ≠ '.') ↔ c ∈ (file.rdropWhile (· ≠ '.')).dropLast := by
        conv_lhs => rw [← List.dropLast_append_getLast filled, dot]
        simp [other]
      conv_lhs => rw [← whole, List.mem_append, front]
      rfl

theorem mem_stem_extension {name : String} {c : Char} (other : c ≠ '.') :
    c ∈ afterDrive name.toList ↔ c ∈ (fileStem name).getD [] ∨ c ∈ (extension name).getD [] := by
  rw [fileStem, extension, fileName]
  split
  · rename_i special
    rw [Option.bind_none, Option.bind_none, Option.getD_none, or_self]
    rcases special with special | special | special
    · rw [special]
    · rw [special]
      simpa using other
    · rw [special]
      simpa using other
  · exact mem_splitAtDot other

end Foundation.WindowsPath
