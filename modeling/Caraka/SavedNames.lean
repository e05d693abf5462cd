import Caraka.SavedFiles

/-! Whether a received file is written as an ordinary file in the folder of the downloads, for any
file name that a peer may choose. -/

namespace Caraka

open Foundation WindowsPath

/-- A name of an ordinary file in a folder: without separators, NUL or colon, neither dots only nor
a name that the system takes for a device. -/
structure OrdinaryName (device : String → Prop) (name : String) : Prop where
  plain : ∀ c ∈ name.toList, c ≠ '/' ∧ c ≠ '\\' ∧ c.toNat ≠ 0 ∧ c ≠ ':'
  named : ∃ c ∈ name.toList, c ≠ '.' ∧ c ≠ ' '
  file : ¬ device name

def OrdinaryChild (device : String → Prop) (folder path : String) : Prop :=
  ∃ name, path = folder ++ "\\" ++ name ∧ OrdinaryName device name

/-- Without what `save_received_file` filters out of a name. -/
def Separated (name : String) : Prop :=
  ∀ c ∈ name.toList, c ≠ '/' ∧ c ≠ '\\' ∧ c.toNat ≠ 0

section Names

theorem separated_safeName (filename : String) : Separated (safeName filename) := by
  rw [safeName]
  split
  · have plain : "file".toList.all (fun c => c ≠ '/' ∧ c ≠ '\\' ∧ c.toNat ≠ 0) = true := by decide
    intro c member
    exact of_decide_eq_true (List.all_eq_true.mp plain c member)
  · intro c member
    rw [String.toList_ofList, List.mem_filter] at member
    exact of_decide_eq_true member.2

theorem mem_suffixedName {safe : String} {ts : UInt64} {c : Char} :
    c ∈ (suffixedName safe ts).toList ↔
      c ∈ (fileStem safe).getD "file".toList ∨ c = '_' ∨ c ∈ (toString ts).toList ∨
        c ∈ ((extension safe).map fun ext => '.' :: ext).getD [] := by
  rw [suffixedName, String.toList_ofList]
  simp

theorem isDigit_of_mem_toString {ts : UInt64} {c : Char} (member : c ∈ (toString ts).toList) :
    c.isDigit = true := by
  have digits : (toString ts).toList = Nat.toDigits 10 ts.toNat := String.toList_ofList
  rw [digits] at member
  exact Nat.isDigit_of_mem_toDigits (by decide) (by decide) member

theorem mem_suffixedName_iff {safe : String} {ts : UInt64} {c : Char}
    (foreign : c ≠ '.' ∧ c ≠ '_' ∧ c.isDigit = false ∧ c ∉ "file".toList) :
    c ∈ (suffixedName safe ts).toList ↔ c ∈ afterDrive safe.toList := by
  rcases foreign with ⟨dot, underscore, digit, default⟩
  have stem : c ∈ (fileStem safe).getD "file".toList ↔ c ∈ (fileStem safe).getD [] := by
    cases fileStem safe with
    | none => exact iff_of_false default List.not_mem_nil
    | some stem => exact Iff.rfl
  have ext : c ∈ ((extension safe).map fun ext => '.' :: ext).getD [] ↔
      c ∈ (extension safe).getD [] := by
    cases extension safe with
    | none => exact Iff.rfl
    | some ext => simp [dot]
  have time : c ∉ (toString ts).toList := by
    intro member
    rw [isDigit_of_mem_toString member] at digit
    cases digit
  rw [mem_suffixedName, mem_stem_extension dot, stem, ext]
  simp [underscore, time]

theorem foreign_of_forbidden {c : Char} (forbidden : c = '/' ∨ c = '\\' ∨ c.toNat = 0 ∨ c = ':') :
    c ≠ '.' ∧ c ≠ '_' ∧ c.isDigit = false ∧ c ∉ "file".toList := by
  rcases forbidden with rfl | rfl | zero | rfl
  · decide
  · decide
  · have null : c = Char.ofNat 0 := by
      rw [← zero, Char.ofNat_toNat]
    subst null
    decide
  · decide

theorem separated_suffixedName {safe : String} (separated : Separated safe) (ts : UInt64) :
    Separated (suffixedName safe ts) := by
  intro c member
  have kept (forbidden : c = '/' ∨ c = '\\' ∨ c.toNat = 0 ∨ c = ':') : c ∈ safe.toList :=
    mem_of_mem_afterDrive ((mem_suffixedName_iff (foreign_of_forbidden forbidden)).mp member)
  refine ⟨fun slash => ?_, fun backslash => ?_, fun null => ?_⟩
  · exact (separated c (kept (.inl slash))).1 slash
  · exact (separated c (kept (.inr (.inl backslash)))).2.1 backslash
  · exact (separated c (kept (.inr (.inr (.inl null))))).2.2 null

theorem colon_mem_suffixedName {safe : String} {ts : UInt64} :
    ':' ∈ (suffixedName safe ts).toList ↔ ':' ∈ afterDrive safe.toList :=
  mem_suffixedName_iff (foreign_of_forbidden (.inr (.inr (.inr rfl))))

theorem suffixedName_named (safe : String) (ts : UInt64) :
    ∃ c ∈ (suffixedName safe ts).toList, c ≠ '.' ∧ c ≠ ' ' := by
  refine ⟨'_', mem_suffixedName.mpr (.inr (.inl rfl)), ?_⟩
  decide

theorem needsSeparator_getSaveDir (home : Option String) : NeedsSeparator (getSaveDir home) := by
  cases home with
  | none =>
      rw [getSaveDir]
      decide
  | some directory =>
      rcases join_ends (join directory "Downloads") "CARAKA" with ⟨front, ends⟩
      have word : "CARAKA".toList = ['C', 'A', 'R', 'A', 'K', 'A'] := rfl
      rw [getSaveDir, NeedsSeparator, ends, word]
      refine ⟨?_, ?_, ?_⟩
      · exact List.append_ne_nil_of_right_ne_nil _ (List.cons_ne_nil _ _)
      · rw [List.getLast?_append_cons]
        decide
      · intro held
        rcases held with ⟨-, short⟩
        rw [List.length_append] at short
        simp at short

theorem ordinaryChild_join {device : String → Prop} {home : Option String} {name : String}
    (separated : Separated name) :
    OrdinaryChild device (getSaveDir home) (join (getSaveDir home) name) ↔
      OrdinaryName device name := by
  by_cases drive : hasDrive name.toList = true
  · rw [join_drive drive]
    apply iff_of_false
    · intro held
      rcases held with ⟨child, path, -⟩
      have backslash : '\\' ∈ name.toList := by
        rw [path]
        simp
      exact (separated _ backslash).2.1 rfl
    · intro ordinary
      exact (ordinary.plain _ (colon_of_hasDrive drive)).2.2.2 rfl
  · rw [join_plain (needsSeparator_getSaveDir home) (eq_false_of_ne_true drive)]
    constructor
    · intro held
      rcases held with ⟨child, path, ordinary⟩
      have chars := congrArg String.toList path
      rw [String.toList_append, @String.toList_append _ child] at chars
      have same : name = child := String.toList_injective (List.append_cancel_left chars)
      rwa [same]
    · intro ordinary
      exact ⟨name, rfl, ordinary⟩

theorem ordinaryName_iff {device : String → Prop} {name : String} (separated : Separated name)
    (named : ∃ c ∈ name.toList, c ≠ '.' ∧ c ≠ ' ') :
    OrdinaryName device name ↔ ':' ∉ name.toList ∧ ¬ device name := by
  constructor
  · intro ordinary
    exact ⟨fun colon => (ordinary.plain _ colon).2.2.2 rfl, ordinary.file⟩
  · intro named
    rcases named with ⟨colon, file⟩
    refine ⟨fun c member => ?_, named, file⟩
    rcases separated c member with ⟨slash, backslash, null⟩
    refine ⟨slash, backslash, null, ?_⟩
    intro same
    subst same
    exact colon member

end Names

section Children

variable {ι : Type} (device : String → Prop)

/-- In the folder a name of dots and blanks denotes a folder, or nothing. -/
def DotsAreFolders (disk : Disk ι) (folder : String) : Prop :=
  ∀ name : String, (∀ c ∈ name.toList, c = '.' ∨ c = ' ') → ¬ disk.Opens (folder ++ "\\" ++ name)

/-- The name written has no colon and is no device: where the plain path is taken the name is
suffixed and has lost its drive prefix. -/
def NamesFile (disk : Disk ι) (incoming : Incoming) : Prop :=
  if disk.pathExists incoming.plainPath then
    ':' ∉ afterDrive (safeName incoming.filename).toList ∧
      ¬ device (suffixedName (safeName incoming.filename) (incoming.now.getD 0))
  else ':' ∉ (safeName incoming.filename).toList ∧ ¬ device (safeName incoming.filename)

variable {device} {disk : Disk ι} {incoming : Incoming}

theorem ordinaryChild_suffixed :
    OrdinaryChild device incoming.saveDir incoming.suffixedPath ↔
      ':' ∉ afterDrive (safeName incoming.filename).toList ∧
        ¬ device (suffixedName (safeName incoming.filename) (incoming.now.getD 0)) := by
  have separated :=
    separated_suffixedName (separated_safeName incoming.filename) (incoming.now.getD 0)
  rw [Incoming.suffixedPath, Incoming.saveDir, ordinaryChild_join separated,
    ordinaryName_iff separated (suffixedName_named ..), colon_mem_suffixedName]

theorem named_of_opens (dots : DotsAreFolders disk incoming.saveDir)
    (opens : disk.Opens incoming.plainPath) :
    ∃ c ∈ (safeName incoming.filename).toList, c ≠ '.' ∧ c ≠ ' ' := by
  by_contra none
  have only : ∀ c ∈ (safeName incoming.filename).toList, c = '.' ∨ c = ' ' := by
    intro c member
    by_contra other
    rw [not_or] at other
    exact none ⟨c, member, other⟩
  have plain : hasDrive (safeName incoming.filename).toList = false := by
    by_contra drive
    have colon := colon_of_hasDrive (eq_true_of_ne_false drive)
    exact absurd (only _ colon) (by decide)
  apply dots (safeName incoming.filename) only
  rw [Incoming.plainPath, Incoming.saveDir, join_plain (needsSeparator_getSaveDir _) plain] at opens
  exact opens

theorem ordinaryChild_plain (dots : DotsAreFolders disk incoming.saveDir)
    (opens : disk.Opens incoming.plainPath) :
    OrdinaryChild device incoming.saveDir incoming.plainPath ↔
      ':' ∉ (safeName incoming.filename).toList ∧ ¬ device (safeName incoming.filename) := by
  have separated := separated_safeName incoming.filename
  have named := named_of_opens dots opens
  rw [Incoming.plainPath, Incoming.saveDir, ordinaryChild_join separated,
    ordinaryName_iff separated named]

end Children

/-- A path that `save_received_file` returns is that of an ordinary file in the folder, exactly
where the name written has no colon and is no device. -/
theorem saved_as_child_iff {ι : Type} [DecidableEq ι] (device : String → Prop) (disk : Disk ι)
    (incoming : Incoming) (dots : DotsAreFolders disk incoming.saveDir) :
    (∀ path, (saveReceivedFile disk incoming).2 = .ok path →
        OrdinaryChild device incoming.saveDir path) ↔
      (disk.Opens (destination disk incoming) ∧ incoming.ending = .complete →
        NamesFile device disk incoming) := by
  have child_iff (opens : disk.Opens (destination disk incoming)) :
      OrdinaryChild device incoming.saveDir (destination disk incoming) ↔
        NamesFile device disk incoming := by
    rw [destination] at opens ⊢
    rw [NamesFile]
    by_cases taken : disk.pathExists incoming.plainPath = true
    · rw [if_pos taken, if_pos taken]
      exact ordinaryChild_suffixed
    · rw [if_neg taken] at opens
      rw [if_neg taken, if_neg taken]
      exact ordinaryChild_plain dots opens
  constructor
  · intro child saved
    rcases saved with ⟨opens, complete⟩
    exact (child_iff opens).mp (child _ (saveReceivedFile_eq_ok.mpr ⟨rfl, opens, complete⟩))
  · intro names path saved
    rcases saveReceivedFile_eq_ok.mp saved with ⟨rfl, opens, complete⟩
    exact (child_iff opens).mpr (names ⟨opens, complete⟩)

namespace Sample

def freshDisk : Disk String where
  resolve := some
  entries := fun path =>
    if (path.toList.reverse.takeWhile (· ≠ '\\')).all fun c => c = '.' ∨ c = ' ' then some .folder
    else none

theorem freshDisk_dots (folder : String) : DotsAreFolders freshDisk folder := by
  intro name dots opened
  rcases opened with ⟨place, found, file⟩
  rcases (Option.some.inj found).symm with rfl
  apply file
  apply if_pos
  have back : ∀ c ∈ name.toList.reverse, decide (c ≠ '\\') = true := by
    intro c member
    rcases dots c (List.mem_reverse.mp member) with rfl | rfl
    · decide
    · decide
  have last : (folder ++ "\\" ++ name).toList.reverse =
      name.toList.reverse ++ '\\' :: folder.toList.reverse := by
    simp [String.toList_append]
  rw [last, List.takeWhile_append_of_pos back, List.takeWhile_cons_of_neg (by decide),
    List.append_nil, List.all_reverse, List.all_eq_true]
  intro c member
  exact decide_eq_true (dots c member)

def arriving (filename : String) : Incoming :=
  ⟨⟨some "C:\\Users\\User", some 1000, .complete, ""⟩, filename, []⟩

theorem saved_fresh {filename path : String} (plain : (arriving filename).plainPath = path)
    (fresh : freshDisk.entries path = none) :
    (saveReceivedFile freshDisk (arriving filename)).2 = .ok path := by
  have dest : destination freshDisk (arriving filename) = path := by
    have absent : freshDisk.pathExists path = false := congrArg Option.isSome fresh
    rw [destination, plain, absent]
    rfl
  rw [saveReceivedFile_eq_ok, dest]
  refine ⟨rfl, ⟨path, rfl, ?_⟩, rfl⟩
  rw [fresh]
  exact Option.some_ne_none _ ∘ Eq.symm

end Sample

/-- A plain name is written in the folder. -/
theorem saved_as_child_iff_notes :
    ∃ path, (saveReceivedFile Sample.freshDisk (Sample.arriving "notes.txt")).2 = .ok path ∧
      OrdinaryChild (fun _ => False) (Sample.arriving "notes.txt").saveDir path := by
  have saved := @Sample.saved_fresh "notes.txt" "C:\\Users\\User\\Downloads\\CARAKA\\notes.txt"
    (by decide) (by decide)
  refine ⟨_, saved, (saved_as_child_iff (fun _ => False) Sample.freshDisk
    (Sample.arriving "notes.txt") (Sample.freshDisk_dots _)).mpr ?_ _ saved⟩
  intro _
  have safe : safeName "notes.txt" = "notes.txt" := by decide
  rw [NamesFile, Sample.arriving, safe]
  split
  · exact ⟨by decide, not_false⟩
  · exact ⟨by decide, not_false⟩

/-- A name with a drive prefix is written on that drive, outside the folder. -/
theorem drive_name_escapes :
    (saveReceivedFile Sample.freshDisk (Sample.arriving "C:evil.txt")).2 = .ok "C:evil.txt" ∧
      ¬ OrdinaryChild (fun _ => False) (Sample.arriving "C:evil.txt").saveDir "C:evil.txt" := by
  constructor
  · exact Sample.saved_fresh (join_drive (by decide)) (by decide)
  · intro child
    rcases child with ⟨name, path, -⟩
    have backslash : '\\' ∈ "C:evil.txt".toList := by
      rw [path]
      simp
    exact absurd backslash (by decide)

end Caraka
