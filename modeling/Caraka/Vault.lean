import Caraka.Keys

/-! `vault.rs` and the vault commands of `commands.rs`. -/

namespace Caraka

open Foundation

def vaultMagic : Bytes := utf8 "CARAKA-VAULT-V1\x00"

def vaultSize : Nat := 80

/-- How `fs::write` ends. It truncates the file before the first byte is written. -/
inductive WriteOutcome where
  | notOpened (error : String)
  | stopped (written : Fin vaultSize) (error : String)
  | complete

/-- What `create_vault` reads from its surroundings, and how the steps that can fail end. -/
structure CreateEnv where
  appDataDir : Except String Unit
  /-- The password found in the keyring. -/
  keyring : Option String
  generated : Octets 32
  salt : Octets 16
  nonce : Octets 16
  createDir : Except String Unit
  write : WriteOutcome
  completeInitialize : Octets 32 → Except String Unit

/-- The key of an old keyring entry where it holds one, or the key just generated. -/
def CreateEnv.privateKeyBytes (env : CreateEnv) : Octets 32 :=
  match env.keyring.bind Hex.decode with
  | some keyBytes =>
    match tryInto 32 keyBytes with
    | some arr => arr
    | none => env.generated
  | none => env.generated

structure UnlockEnv where
  appDataDir : Except String Unit
  readable : Bool
  completeInitialize : Octets 32 → Except String Unit

variable (crates : Crates) (argon2 : Bytes → Octets 16 → Except String (Octets 16))

/-- `derive_key`, given Argon2id at its parameters with the errors already rendered. -/
def deriveVaultKey (passphrase : String) (salt : Octets 16) : Except String (Octets 16) :=
  match argon2 (utf8 passphrase) salt with
  | .error e => .error ("Argon2 KDF error: " ++ e)
  | .ok key => .ok key

def vaultData (key salt nonce : Octets 16) (privateKeyBytes : Octets 32) : Option Bytes :=
  (crates.asconEncrypt key nonce privateKeyBytes.bytes vaultMagic).map fun ctWithTag =>
    salt.bytes ++ (nonce.bytes ++ ctWithTag.bytes)

/-- `vault::create_vault`: its result, and the vault file afterwards. -/
def writeVault (file : Option Bytes) (env : CreateEnv) (passphrase : String) :
    Except String Unit × Option Bytes :=
  match deriveVaultKey argon2 passphrase env.salt with
  | .error e => (.error e, file)
  | .ok key =>
    match vaultData crates key env.salt env.nonce env.privateKeyBytes with
    | none => (.error "Gagal enkripsi vault", file)
    | some data =>
      match env.createDir with
      | .error e => (.error ("Gagal buat direktori data: " ++ e), file)
      | .ok () =>
        match env.write with
        | .notOpened e => (.error ("Gagal tulis vault: " ++ e), file)
        | .stopped written e => (.error ("Gagal tulis vault: " ++ e), some (data.take written.val))
        | .complete => (.ok (), some data)

/-- The steps of `vault::create_vault` before the file is opened succeed. -/
structure Seals (env : CreateEnv) (passphrase : String) (key : Octets 16) (data : Bytes) :
    Prop where
  derived : deriveVaultKey argon2 passphrase env.salt = .ok key
  made : vaultData crates key env.salt env.nonce env.privateKeyBytes = some data
  directory : env.createDir = .ok ()

/-- How `vault::create_vault` can end. -/
inductive WriteEnd (file : Option Bytes) (env : CreateEnv) (passphrase : String) :
    Except String Unit × Option Bytes → Prop
  | early (e : String) (unsealed : ∀ key data, ¬ Seals crates argon2 env passphrase key data) :
      WriteEnd file env passphrase (.error e, file)
  | notOpened (e reason : String) (write : env.write = .notOpened reason) :
      WriteEnd file env passphrase (.error e, file)
  | stopped (e : String) (key : Octets 16) (data : Bytes) (written : Fin vaultSize)
      (reason : String) (seals : Seals crates argon2 env passphrase key data)
      (write : env.write = .stopped written reason) :
      WriteEnd file env passphrase (.error e, some (data.take written.val))
  | complete (key : Octets 16) (data : Bytes) (seals : Seals crates argon2 env passphrase key data)
      (write : env.write = .complete) : WriteEnd file env passphrase (.ok (), some data)

theorem writeVault_end (file : Option Bytes) (env : CreateEnv) (passphrase : String) :
    WriteEnd crates argon2 file env passphrase (writeVault crates argon2 file env passphrase) := by
  rw [writeVault]
  cases derived : deriveVaultKey argon2 passphrase env.salt with
  | error e =>
      refine .early _ fun key data seals => ?_
      rw [seals.derived] at derived
      cases derived
  | ok key =>
      dsimp only
      cases made : vaultData crates key env.salt env.nonce env.privateKeyBytes with
      | none =>
          refine .early _ fun key' data seals => ?_
          rw [seals.derived] at derived
          cases derived
          rw [seals.made] at made
          cases made
      | some data =>
          dsimp only
          cases directory : env.createDir with
          | error e =>
              refine .early _ fun key' data seals => ?_
              rw [seals.directory] at directory
              cases directory
          | ok nothing =>
              dsimp only
              cases write : env.write with
              | notOpened e => exact .notOpened _ e write
              | stopped written e =>
                  exact .stopped _ key data written e ⟨derived, made, directory⟩ write
              | complete => exact .complete key data ⟨derived, made, directory⟩ write

/-- `vault::unlock_vault`. -/
def openVault (file : Option Bytes) (passphrase : String) : Except String (Octets 32) :=
  match file with
  | none => .error "File vault tidak ditemukan. Buat password baru."
  | some data =>
    if whole : vaultSize ≤ data.length then
      match deriveVaultKey argon2 passphrase
          (slice data 0 16 (Nat.le_trans (by decide) whole)) with
      | .error e => .error e
      | .ok key =>
        match crates.asconDecrypt key (slice data 16 16 (Nat.le_trans (by decide) whole))
            ((data.take vaultSize).drop 32) vaultMagic with
        | none => .error "Password salah."
        | some plaintext =>
          match tryInto 32 plaintext with
          | none => .error "File vault rusak: ukuran key tidak valid."
          | some key => .ok key
    else .error "File vault rusak atau tidak lengkap."

/-- `create_vault`: its result, and the vault file afterwards. -/
def createVault (file : Option Bytes) (env : CreateEnv) (passphrase : String) :
    Except String Unit × Option Bytes :=
  if (utf8 passphrase).length < 8 then (.error "Password minimal 8 karakter.", file)
  else
    match env.appDataDir with
    | .error e => (.error e, file)
    | .ok () =>
      match writeVault crates argon2 file env passphrase with
      | (.error e, file) => (.error e, file)
      | (.ok (), file) => (env.completeInitialize env.privateKeyBytes, file)

/-- `unlock_vault`, which leaves the vault file as it is. -/
def unlockVault (file : Option Bytes) (env : UnlockEnv) (passphrase : String) :
    Except String Unit :=
  match env.appDataDir with
  | .error e => .error e
  | .ok () =>
    match openVault crates argon2 (if env.readable then file else none) passphrase with
    | .error e => .error e
    | .ok privateKeyBytes => env.completeInitialize privateKeyBytes

/-- `check_vault_exists`, which takes a file that cannot be examined for a missing one. -/
def checkVaultExists (file : Option Bytes) (env : UnlockEnv) : Except String Bool :=
  env.appDataDir.map fun _ => env.readable && file.isSome

/-- The screens between which `initApp` chooses. -/
inductive VaultScreen where
  | unlock
  | create
  deriving DecidableEq

def initialScreen : Except String Bool → VaultScreen
  | .ok vaultExists => if vaultExists then .unlock else .create
  | .error _ => .create

section Opening

variable {crates argon2} {key salt nonce : Octets 16} {privateKeyBytes : Octets 32} {data : Bytes}
  {passphrase : String}

theorem openVault_vaultData (made : vaultData crates key salt nonce privateKeyBytes = some data)
    (passphrase : String) :
    ∃ ctWithTag, crates.asconEncrypt key nonce privateKeyBytes.bytes vaultMagic = some ctWithTag ∧
      openVault crates argon2 (some data) passphrase =
        match deriveVaultKey argon2 passphrase salt with
        | .error e => .error e
        | .ok key =>
          match crates.asconDecrypt key nonce ctWithTag.bytes vaultMagic with
          | none => .error "Password salah."
          | some plaintext =>
            match tryInto 32 plaintext with
            | none => .error "File vault rusak: ukuran key tidak valid."
            | some key => .ok key := by
  rcases Option.map_eq_some_iff.mp made with ⟨ctWithTag, encrypted, rfl⟩
  refine ⟨ctWithTag, encrypted, ?_⟩
  have size : (salt.bytes ++ (nonce.bytes ++ ctWithTag.bytes)).length = vaultSize := by
    simp [vaultSize]
  have first : slice (salt.bytes ++ (nonce.bytes ++ ctWithTag.bytes)) 0 16
      (Nat.le_trans (by decide) (Nat.le_of_eq size.symm)) = salt :=
    @slice_of_append _ [] _ _ salt _ rfl rfl _
  have second : slice (salt.bytes ++ (nonce.bytes ++ ctWithTag.bytes)) 16 16
      (Nat.le_trans (by decide) (Nat.le_of_eq size.symm)) = nonce :=
    slice_of_append nonce rfl salt.length_eq _
  have third : ((salt.bytes ++ (nonce.bytes ++ ctWithTag.bytes)).take vaultSize).drop 32 =
      ctWithTag.bytes := by
    rw [List.take_of_length_le (Nat.le_of_eq size), ← List.append_assoc]
    exact List.drop_left' (by simp)
  rw [openVault]
  simp only [Nat.le_of_eq size.symm, dif_pos, first, second, third]

theorem openVault_own (opens : crates.Opens)
    (made : vaultData crates key salt nonce privateKeyBytes = some data)
    (derived : deriveVaultKey argon2 passphrase salt = .ok key) :
    openVault crates argon2 (some data) passphrase = .ok privateKeyBytes := by
  rcases @openVault_vaultData _ argon2 _ _ _ _ _ made passphrase with
    ⟨ctWithTag, encrypted, opened⟩
  rw [opened, derived]
  dsimp only
  rw [opens _ _ _ _ _ encrypted]
  dsimp only
  rw [tryInto_bytes]

theorem openVault_other (rejects : crates.RejectsOtherKeys)
    (made : vaultData crates key salt nonce privateKeyBytes = some data)
    (apart : deriveVaultKey argon2 passphrase salt ≠ .ok key) (opened : Octets 32) :
    openVault crates argon2 (some data) passphrase ≠ .ok opened := by
  rcases @openVault_vaultData _ argon2 _ _ _ _ _ made passphrase with
    ⟨ctWithTag, encrypted, same⟩
  rw [same]
  cases derived : deriveVaultKey argon2 passphrase salt with
  | error e =>
      intro same
      cases same
  | ok other =>
      dsimp only
      have distinct : other ≠ key := by
        rintro rfl
        exact apart derived
      rw [rejects _ _ _ _ _ encrypted other distinct]
      intro same
      cases same

theorem openVault_short {written : Nat} (short : written < vaultSize) (opened : Octets 32) :
    openVault crates argon2 (some (data.take written)) passphrase ≠ .ok opened := by
  have length : ¬ vaultSize ≤ (data.take written).length := by
    rw [List.length_take]
    omega
  rw [openVault, dif_neg length]
  intro same
  cases same

end Opening

end Caraka
