import Caraka.Vault
import Caraka.Foundation.Transition
import Caraka.Sample

/-! Which private keys can still be unlocked after a history of vault commands. -/

namespace Caraka

open Foundation

inductive VaultCommand where
  | create (env : CreateEnv) (passphrase : String)
  | unlock (env : UnlockEnv) (passphrase : String)

section Create

variable (crates : Crates) (argon2 : Bytes → Octets 16 → Except String (Octets 16))

/-- A `create_vault` that gets as far as opening `vault.key` for writing. -/
structure OpensFile (env : CreateEnv) (passphrase : String) : Prop where
  long : 8 ≤ (utf8 passphrase).length
  located : env.appDataDir = .ok ()
  sealed : ∃ key data, deriveVaultKey argon2 passphrase env.salt = .ok key ∧
    vaultData crates key env.salt env.nonce env.privateKeyBytes = some data
  made : env.createDir = .ok ()
  opened : ∀ e, env.write ≠ .notOpened e

/-- How a `create_vault` can end. -/
inductive CreateEnd (file : Option Bytes) (env : CreateEnv) (passphrase : String) :
    Except String Unit × Option Bytes → Prop
  | early (e : String) (unopened : ¬ OpensFile crates argon2 env passphrase) :
      CreateEnd file env passphrase (.error e, file)
  | stopped (e : String) (data : Bytes) (written : Fin vaultSize) (reason : String)
      (opens : OpensFile crates argon2 env passphrase)
      (write : env.write = .stopped written reason) :
      CreateEnd file env passphrase (.error e, some (data.take written.val))
  | complete (key : Octets 16) (data : Bytes) (opens : OpensFile crates argon2 env passphrase)
      (derived : deriveVaultKey argon2 passphrase env.salt = .ok key)
      (made : vaultData crates key env.salt env.nonce env.privateKeyBytes = some data)
      (write : env.write = .complete) :
      CreateEnd file env passphrase (env.completeInitialize env.privateKeyBytes, some data)

theorem createVault_end (file : Option Bytes) (env : CreateEnv) (passphrase : String) :
    CreateEnd crates argon2 file env passphrase
      (createVault crates argon2 file env passphrase) := by
  rw [createVault]
  by_cases short : (utf8 passphrase).length < 8
  · rw [if_pos short]
    exact .early _ fun opens => absurd opens.long (Nat.not_le.mpr short)
  rw [if_neg short]
  cases located : env.appDataDir with
  | error e =>
      refine .early _ fun opens => ?_
      rw [opens.located] at located
      cases located
  | ok nothing =>
      have opens {key : Octets 16} {data : Bytes}
          (seals : Seals crates argon2 env passphrase key data)
          (opened : ∀ e, env.write ≠ .notOpened e) : OpensFile crates argon2 env passphrase :=
        ⟨Nat.not_lt.mp short, located, ⟨key, data, seals.derived, seals.made⟩, seals.directory,
          opened⟩
      dsimp only
      have ending := writeVault_end crates argon2 file env passphrase
      generalize writeVault crates argon2 file env passphrase = outcome at ending
      cases ending with
      | early e unsealed =>
          refine .early _ fun opens => ?_
          rcases opens.sealed with ⟨key, data, derived, made⟩
          exact unsealed key data ⟨derived, made, opens.made⟩
      | notOpened e reason write => exact .early _ fun opens => opens.opened reason write
      | stopped e key data written reason seals write =>
          refine .stopped _ _ _ _ (opens seals ?_) write
          intro e same
          cases write.symm.trans same
      | complete key data seals write =>
          refine .complete key data (opens seals ?_) seals.derived seals.made write
          intro e same
          cases write.symm.trans same

end Create

/-- The vault file, with the passphrases and keys for which `create_vault` has returned. -/
structure VaultHistory where
  file : Option Bytes
  created : List (String × Octets 32)

namespace VaultHistory

def start (file : Option Bytes) : VaultHistory := ⟨file, []⟩

variable (crates : Crates) (argon2 : Bytes → Octets 16 → Except String (Octets 16))

def step (history : VaultHistory) : VaultCommand → VaultHistory
  | .create env passphrase =>
    let outcome := createVault crates argon2 history.file env passphrase
    { file := outcome.2
      created :=
        match outcome.1 with
        | .ok () => history.created ++ [(passphrase, env.privateKeyBytes)]
        | .error _ => history.created }
  | .unlock .. => history

/-- Every vault created is still the one that its passphrase opens. -/
def Recoverable (history : VaultHistory) : Prop :=
  ∀ vault ∈ history.created, openVault crates argon2 history.file vault.1 = .ok vault.2

/-- The command does not open the vault file for writing once a vault was created, or it writes
the file completely with the same passphrase and the same key. -/
def Spares (history : VaultHistory) : VaultCommand → Prop
  | .create env passphrase => OpensFile crates argon2 env passphrase →
    ∀ vault ∈ history.created,
      env.write = .complete ∧ passphrase = vault.1 ∧ env.privateKeyBytes = vault.2
  | .unlock .. => True

/-- Two passphrases of a history never derive one key under the salt of a vault in it. -/
def Distinguished (commands : List VaultCommand) : Prop :=
  ∀ env passphrase env' other, .create env passphrase ∈ commands → .create env' other ∈ commands →
    ∀ key, deriveVaultKey argon2 passphrase env.salt = .ok key →
      deriveVaultKey argon2 other env.salt = .ok key → other = passphrase

def Requested (commands : List VaultCommand) (history : VaultHistory) : Prop :=
  ∀ vault ∈ history.created, ∃ env, VaultCommand.create env vault.1 ∈ commands

variable {crates argon2} {commands : List VaultCommand} {history : VaultHistory}
  {command : VaultCommand}

theorem unlockVault_of_recoverable (recoverable : history.Recoverable crates argon2)
    {vault : String × Octets 32} (created : vault ∈ history.created) {env : UnlockEnv}
    (located : env.appDataDir = .ok ()) (readable : env.readable = true) :
    unlockVault crates argon2 history.file env vault.1 = env.completeInitialize vault.2 := by
  rw [unlockVault, located, readable, if_pos rfl]
  dsimp only
  rw [recoverable vault created]

theorem requested_step (member : command ∈ commands) (requested : history.Requested commands) :
    (history.step crates argon2 command).Requested commands := by
  cases command with
  | unlock => exact requested
  | create env passphrase =>
      intro vault created
      simp only [step] at created
      split at created
      · rcases List.mem_append.mp created with earlier | now
        · exact requested vault earlier
        · rcases List.mem_singleton.mp now with rfl
          exact ⟨env, member⟩
      · exact requested vault created

theorem openVault_iff (opens : crates.Opens) (rejects : crates.RejectsOtherKeys)
    (distinguished : Distinguished argon2 commands) {env env' : CreateEnv}
    {passphrase other : String} (member : .create env passphrase ∈ commands)
    (known : .create env' other ∈ commands) {key : Octets 16} {data : Bytes}
    (derived : deriveVaultKey argon2 passphrase env.salt = .ok key)
    (made : vaultData crates key env.salt env.nonce env.privateKeyBytes = some data)
    (privateKeyBytes : Octets 32) :
    openVault crates argon2 (some data) other = .ok privateKeyBytes ↔
      passphrase = other ∧ env.privateKeyBytes = privateKeyBytes := by
  constructor
  · intro opened
    by_cases same : deriveVaultKey argon2 other env.salt = .ok key
    · have passphrases := distinguished env passphrase env' other member known key derived same
      rw [openVault_own opens made same] at opened
      exact ⟨passphrases.symm, Except.ok.inj opened⟩
    · exact absurd opened (openVault_other rejects made same privateKeyBytes)
  · rintro ⟨rfl, rfl⟩
    exact openVault_own opens made derived

theorem recoverable_step_iff (opens : crates.Opens) (rejects : crates.RejectsOtherKeys)
    (distinguished : Distinguished argon2 commands) (member : command ∈ commands)
    (requested : history.Requested commands) (recoverable : history.Recoverable crates argon2) :
    (history.step crates argon2 command).Recoverable crates argon2 ↔
      history.Spares crates argon2 command := by
  cases command with
  | unlock => exact iff_of_true recoverable trivial
  | create env passphrase =>
      have ended := createVault_end crates argon2 history.file env passphrase
      simp only [step, Spares]
      generalize createVault crates argon2 history.file env passphrase = outcome at ended ⊢
      cases ended with
      | early e unopened => exact iff_of_true recoverable fun opens => absurd opens unopened
      | stopped e data written reason opened write =>
          simp only [opened, true_implies]
          constructor
          · intro after vault created
            exact absurd (after vault created) (openVault_short written.isLt vault.2)
          · intro spared vault created
            rw [write] at spared
            cases (spared vault created).1
      | complete key data opened derived made write =>
          have each {vault : String × Octets 32} (created : vault ∈ history.created) :
              openVault crates argon2 (some data) vault.1 = .ok vault.2 ↔
                passphrase = vault.1 ∧ env.privateKeyBytes = vault.2 := by
            rcases requested vault created with ⟨env', known⟩
            exact openVault_iff opens rejects distinguished member known derived made vault.2
          simp only [opened, true_implies]
          constructor
          · intro after vault created
            refine ⟨write, (each created).mp (after vault ?_)⟩
            cases env.completeInitialize env.privateKeyBytes with
            | error e => exact created
            | ok nothing => exact List.mem_append_left _ created
          · intro spared vault created
            cases initialised : env.completeInitialize env.privateKeyBytes with
            | error e =>
                rw [initialised] at created
                exact (each created).mpr (spared vault created).2
            | ok nothing =>
                rw [initialised] at created
                rcases List.mem_append.mp created with earlier | now
                · exact (each earlier).mpr (spared vault earlier).2
                · rcases List.mem_singleton.mp now with rfl
                  exact openVault_own opens made derived

theorem recoverable_iff (opens : crates.Opens) (rejects : crates.RejectsOtherKeys)
    (file : Option Bytes) (distinguished : Distinguished argon2 commands) :
    Always (step crates argon2) (Recoverable crates argon2) (start file) commands ↔
      Along (step crates argon2) (Spares crates argon2) (start file) commands := by
  have none (vault : String × Octets 32) : vault ∉ (start file).created := List.not_mem_nil
  exact @always_iff_along_of_mem _ _ _ _ (Requested commands) _ (· ∈ commands)
    (fun _ _ member requested => requested_step member requested)
    (fun _ _ member requested recoverable =>
      recoverable_step_iff opens rejects distinguished member requested recoverable)
    (start file) commands (fun _ member => member)
    (fun vault created => absurd created (none vault))
    (fun vault created => absurd created (none vault))

end VaultHistory

namespace Sample

def vaultArgon2 (passphrase : Bytes) (salt : Octets 16) : Except String (Octets 16) :=
  .ok (Octets.xor (octets 16 (digest passphrase)) salt)

def createEnv (number : Nat) : CreateEnv where
  appDataDir := .ok ()
  keyring := none
  generated := key number
  salt := octets 16 number
  nonce := octets 16 number
  createDir := .ok ()
  write := .complete
  completeInitialize := fun _ => .ok ()

def firstVault : VaultCommand := .create (createEnv 1) "rahasia-satu"

def secondVault : VaultCommand := .create (createEnv 2) "rahasia-dua"

def reopened : VaultCommand := .unlock ⟨.ok (), true, fun _ => .ok ()⟩ "rahasia-satu"

theorem digest_of_derived {first second : String} {salt key : Octets 16}
    (derived : deriveVaultKey vaultArgon2 first salt = .ok key)
    (derived' : deriveVaultKey vaultArgon2 second salt = .ok key) :
    octets 16 (digest (utf8 first)) = octets 16 (digest (utf8 second)) :=
  Octets.xor_left_cancel (Except.ok.inj (derived.trans derived'.symm))

theorem distinguished_pair :
    VaultHistory.Distinguished vaultArgon2 [firstVault, reopened, secondVault] := by
  intro env passphrase env' other member known key derived derived'
  have named {env : CreateEnv} {passphrase : String}
      (member : .create env passphrase ∈ [firstVault, reopened, secondVault]) :
      passphrase = "rahasia-satu" ∨ passphrase = "rahasia-dua" := by
    simp only [firstVault, reopened, secondVault, List.mem_cons, List.not_mem_nil, or_false,
      reduceCtorEq, false_or, VaultCommand.create.injEq] at member
    exact member.imp And.right And.right
  have digests := digest_of_derived derived derived'
  rcases named member with rfl | rfl <;> rcases named known with rfl | rfl
  · rfl
  · exact absurd digests (by decide)
  · exact absurd digests (by decide)
  · rfl

theorem firstVault_created :
    ("rahasia-satu", key 1) ∈ (VaultHistory.step haloCrates vaultArgon2
      (VaultHistory.start none) firstVault).created := by
  decide +kernel

theorem secondVault_opens : OpensFile haloCrates vaultArgon2 (createEnv 2) "rahasia-dua" where
  long := by decide
  located := rfl
  sealed := ⟨_, _, rfl, rfl⟩
  made := rfl
  opened e same := by cases same

end Sample

/-- Whatever the commands and however their steps end: in every state every vault created can be
unlocked, exactly when no later `create_vault` opens the file but to write the same key under the
same passphrase. -/
theorem vaults_recoverable_iff {crates : Crates} (opens : crates.Opens)
    (rejects : crates.RejectsOtherKeys)
    (argon2 : Bytes → Octets 16 → Except String (Octets 16)) (file : Option Bytes)
    (commands : List VaultCommand) (distinguished : VaultHistory.Distinguished argon2 commands) :
    Always (VaultHistory.step crates argon2) (VaultHistory.Recoverable crates argon2)
        (VaultHistory.start file) commands ↔
      Along (VaultHistory.step crates argon2) (VaultHistory.Spares crates argon2)
        (VaultHistory.start file) commands :=
  VaultHistory.recoverable_iff opens rejects file distinguished

/-- A vault that is created and then unlocked. -/
theorem vaults_recoverable_iff_unlocked :
    Always (VaultHistory.step Sample.haloCrates Sample.vaultArgon2)
      (VaultHistory.Recoverable Sample.haloCrates Sample.vaultArgon2) (VaultHistory.start none)
      [Sample.firstVault, Sample.reopened] := by
  have distinguished : VaultHistory.Distinguished Sample.vaultArgon2
      [Sample.firstVault, Sample.reopened] := by
    intro env passphrase env' other member known
    have within {command : VaultCommand} (member : command ∈ [Sample.firstVault, Sample.reopened]) :
        command ∈ [Sample.firstVault, Sample.reopened, Sample.secondVault] :=
      List.mem_append_left [Sample.secondVault] member
    exact Sample.distinguished_pair env passphrase env' other (within member) (within known)
  exact (vaults_recoverable_iff Sample.opens Sample.rejectsOtherKeys Sample.vaultArgon2 none _
    distinguished).mpr ⟨fun _ _ created => absurd created List.not_mem_nil, trivial, trivial⟩

/-- After a restart on which `check_vault_exists` fails, the screen to create a vault is shown, and
a vault created there replaces the first one. -/
theorem second_vault_replaces_first :
    initialScreen (checkVaultExists (run (VaultHistory.step Sample.haloCrates Sample.vaultArgon2)
        (VaultHistory.start none) [Sample.firstVault, Sample.reopened]).file
        ⟨.error "unknown path", true, fun _ => .ok ()⟩) = .create ∧
      ¬ Always (VaultHistory.step Sample.haloCrates Sample.vaultArgon2)
        (VaultHistory.Recoverable Sample.haloCrates Sample.vaultArgon2) (VaultHistory.start none)
        [Sample.firstVault, Sample.reopened, Sample.secondVault] := by
  refine ⟨rfl, ?_⟩
  rw [@VaultHistory.recoverable_iff Sample.haloCrates _ _ Sample.opens Sample.rejectsOtherKeys none
    Sample.distinguished_pair]
  intro along
  have kept := along.2.2.1 Sample.secondVault_opens _ Sample.firstVault_created
  exact absurd kept.2.1 (by decide)

end Caraka
