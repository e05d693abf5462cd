import Caraka.Commands.Received
import Caraka.Foundation.Disk
import Caraka.Foundation.Transition
import Caraka.Foundation.WindowsPath

/-! `save_received_file`: where a received file is written, and what becomes of the files before it.
The folder of the downloads is there, as `get_save_dir` makes it. -/

namespace Caraka

open Foundation WindowsPath

def safeName (filename : String) : String :=
  let safe := String.ofList (filename.toList.filter fun c => c ≠ '/' ∧ c ≠ '\\' ∧ c.toNat ≠ 0)
  if safe = "" then "file" else safe

def suffixedName (safe : String) (ts : UInt64) : String :=
  String.ofList ((fileStem safe).getD "file".toList ++ '_' :: (toString ts).toList ++
    ((extension safe).map fun ext => '.' :: ext).getD [])

/-- What one save reads from its surroundings, and how its write ends. -/
structure SaveEnv where
  /-- The home directory, where the system names one. -/
  home : Option String
  /-- The seconds since 1970, where the clock is not before it. -/
  now : Option UInt64
  ending : WriteEnd
  error : String

/-- A file that arrives. -/
structure Incoming extends SaveEnv where
  filename : String
  data : Bytes

def getSaveDir (home : Option String) : String :=
  match home with
  | some directory => join (join directory "Downloads") "CARAKA"
  | none => "CARAKA-Downloads"

namespace Incoming

variable (incoming : Incoming)

def saveDir : String := getSaveDir incoming.home

def plainPath : String := join incoming.saveDir (safeName incoming.filename)

def suffixedPath : String :=
  join incoming.saveDir (suffixedName (safeName incoming.filename) (incoming.now.getD 0))

end Incoming

variable {ι : Type} [DecidableEq ι]

def destination (disk : Disk ι) (incoming : Incoming) : String :=
  if disk.pathExists incoming.plainPath then incoming.suffixedPath else incoming.plainPath

def saveReceivedFile (disk : Disk ι) (incoming : Incoming) : Disk ι × Except String String :=
  let dest := destination disk incoming
  match disk.write dest incoming.data incoming.ending incoming.error with
  | (disk, .error e) => (disk, .error ("Gagal simpan file: " ++ e))
  | (disk, .ok ()) => (disk, .ok dest)

section Saving

variable {disk : Disk ι} {incoming : Incoming}

theorem disk_saveReceivedFile : (saveReceivedFile disk incoming).1 =
    (disk.write (destination disk incoming) incoming.data incoming.ending incoming.error).1 := by
  rw [saveReceivedFile]
  split
  · rename_i after e written
    rw [written]
  · rename_i after written
    rw [written]

theorem saveReceivedFile_eq_ok {path : String} :
    (saveReceivedFile disk incoming).2 = .ok path ↔ path = destination disk incoming ∧
      disk.Opens (destination disk incoming) ∧ incoming.ending = .complete := by
  rw [← @Disk.write_eq_ok_iff _ _ disk _ incoming.data _ incoming.error, saveReceivedFile]
  split
  · rename_i after e written
    rw [written]
    simp
  · rename_i after written
    rw [written]
    simp [eq_comm]

theorem saved_of_returned {crates : Crates} {node : AppState crates} {now : UInt64} {env : SaveEnv}
    {packetId nonceHex ciphertextHex aeadTagHex : String} {info : FileInfo}
    (returned : (tryDecryptFilePacket node now
      (fun filename data => (saveReceivedFile disk ⟨env, filename, data⟩).2)
      packetId nonceHex ciphertextHex aeadTagHex).result = .ok (some info)) :
    ∃ presented found store data,
      parsePresented packetId nonceHex ciphertextHex aeadTagHex = .ok presented ∧
      searchPeers crates crates.fileFromSlice .file node.identity now presented
        node.store.getAllPeers node.store = (some found, store) ∧
      crates.base64Decode found.payload.fileDataB64 = .ok data ∧
      info = fileInfo found.payload info.savedPath ∧
      (saveReceivedFile disk ⟨env, info.filename, data⟩).2 = .ok info.savedPath := by
  have ended := tryDecryptFilePacket_end node now
    (fun filename data => (saveReceivedFile disk ⟨env, filename, data⟩).2)
    packetId nonceHex ciphertextHex aeadTagHex
  generalize tryDecryptFilePacket node now _ packetId nonceHex ciphertextHex aeadTagHex = outcome
    at ended returned
  cases ended with
  | malformed | missed | unsaved => cases returned
  | @returned _ _ _ fileBytes _ parsed search decoded saved =>
      cases returned
      exact ⟨_, _, _, fileBytes, parsed, search, decoded, rfl, saved⟩

end Saving

structure Downloads (ι : Type) where
  disk : Disk ι
  saved : List (String × Bytes)

namespace Downloads

def start (disk : Disk ι) : Downloads ι := ⟨disk, []⟩

def step (downloads : Downloads ι) (incoming : Incoming) : Downloads ι where
  disk := (saveReceivedFile downloads.disk incoming).1
  saved :=
    match (saveReceivedFile downloads.disk incoming).2 with
    | .ok path => downloads.saved ++ [(path, incoming.data)]
    | .error _ => downloads.saved

/-- Every file saved is still there with its content. -/
def Kept (downloads : Downloads ι) : Prop :=
  ∀ record ∈ downloads.saved, downloads.disk.read record.1 = some record.2

/-- Where the plain path is taken, what is left at the suffixed one is no other content than that
of the files saved there before. -/
def Spares (downloads : Downloads ι) (incoming : Incoming) : Prop :=
  downloads.disk.pathExists incoming.plainPath = true →
    ∀ record ∈ downloads.saved,
      downloads.disk.resolve record.1 = downloads.disk.resolve incoming.suffixedPath →
        ∀ content, incoming.ending.leaves incoming.data = some content → content = record.2

variable {downloads : Downloads ι} {incoming : Incoming}

theorem mem_saved_step {record : String × Bytes}
    (member : record ∈ (downloads.step incoming).saved) :
    record ∈ downloads.saved ∨
      ((saveReceivedFile downloads.disk incoming).2 = .ok record.1 ∧
        record.2 = incoming.data) := by
  rw [step] at member
  dsimp only at member
  split at member
  · rename_i path saved
    rcases List.mem_append.mp member with old | new
    · exact .inl old
    · rcases List.mem_singleton.mp new with rfl
      exact .inr ⟨saved, rfl⟩
  · exact .inl member

theorem read_step (opens : downloads.disk.Opens (destination downloads.disk incoming))
    (path : String) :
    (downloads.step incoming).disk.read path =
      if downloads.disk.resolve path =
          downloads.disk.resolve (destination downloads.disk incoming) then
        (incoming.ending.leaves incoming.data).or (downloads.disk.read path)
      else downloads.disk.read path := by
  rw [step, disk_saveReceivedFile]
  exact Disk.read_write_opens opens

omit [DecidableEq ι] in
theorem leaves_content (kept : downloads.Kept) (spared : downloads.Spares incoming)
    {record : String × Bytes} (member : record ∈ downloads.saved)
    (same : downloads.disk.resolve record.1 =
      downloads.disk.resolve (destination downloads.disk incoming))
    {content : Bytes} (left : incoming.ending.leaves incoming.data = some content) :
    content = record.2 := by
  rw [destination] at same
  by_cases taken : downloads.disk.pathExists incoming.plainPath = true
  · rw [if_pos taken] at same
    exact spared taken record member same content left
  · rw [if_neg taken] at same
    have present := Disk.pathExists_of_read (kept record member)
    rw [Disk.pathExists_congr same] at present
    exact absurd present taken

theorem kept_step (kept : downloads.Kept) (spared : downloads.Spares incoming) :
    (downloads.step incoming).Kept := by
  intro record member
  rcases mem_saved_step member with old | ⟨saved, same⟩
  · have stored := kept record old
    by_cases opens : downloads.disk.Opens (destination downloads.disk incoming)
    · rw [read_step opens]
      split
      · rename_i shared
        cases left : incoming.ending.leaves incoming.data with
        | none => rw [Option.none_or, stored]
        | some content => rw [Option.some_or, leaves_content kept spared old shared left]
      · exact stored
    · rw [step, disk_saveReceivedFile, Disk.write_closed opens]
      exact stored
  · rcases saveReceivedFile_eq_ok.mp saved with ⟨path, opens, complete⟩
    rw [read_step opens, path, if_pos rfl, complete, same]
    rfl

end Downloads

namespace Sample

def emptyDisk : Disk String := ⟨some, fun _ => none⟩

def photo (content : UInt8) : Incoming :=
  ⟨⟨some "C:\\Users\\User", some 1000, .complete, ""⟩, "foto.jpg", [content]⟩

theorem emptyDisk_opens (path : String) : emptyDisk.Opens path :=
  ⟨path, rfl, Option.some_ne_none _ ∘ Eq.symm⟩

end Sample

end Caraka
