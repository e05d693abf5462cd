import Caraka.PacketFormat
import Caraka.VaultHistory

/-! The format of a vault file, read from any file there may be. -/

namespace Caraka

open Foundation

/-- Decryption succeeds only on what encryption under the same key, nonce and associated data
returned. -/
def Crates.OpensOnlySealed (crates : Crates) : Prop :=
  ∀ key nonce output aad message, crates.asconDecrypt key nonce output aad = some message →
    ∃ ctWithTag, crates.asconEncrypt key nonce message aad = some ctWithTag ∧
      ctWithTag.bytes = output

variable (crates : Crates) (argon2 : Bytes → Octets 16 → Except String (Octets 16))

/-- `vault::unlock_vault` with every slice and conversion checked as Rust checks it; none is a
panic. -/
def openVaultIndexed (file : Option Bytes) (passphrase : String) :
    Option (Except String (Octets 32)) :=
  match file with
  | none => some (.error "File vault tidak ditemukan. Buat password baru.")
  | some data =>
    if data.length < vaultSize then some (.error "File vault rusak atau tidak lengkap.")
    else do
      let salt ← (range? data 0 16).bind (tryInto 16)
      let nonce ← (range? data 16 32).bind (tryInto 16)
      let ctWithTag ← range? data 32 vaultSize
      match deriveVaultKey argon2 passphrase salt with
      | .error e => return .error e
      | .ok key =>
        match crates.asconDecrypt key nonce ctWithTag vaultMagic with
        | none => return .error "Password salah."
        | some plaintext =>
          if plaintext.length ≠ 32 then
            return .error "File vault rusak: ukuran key tidak valid."
          else do
            let key ← copy? 32 plaintext
            return .ok key

/-- At its offsets the file holds a salt, a nonce and the private key sealed under them and the
passphrase. -/
def HoldsVault (data : Bytes) (passphrase : String) (privateKey : Octets 32) : Prop :=
  ∃ (salt nonce key : Octets 16) (ctWithTag : Octets (privateKey.bytes.length + 16)),
    range? data 0 16 = some salt.bytes ∧ range? data 16 32 = some nonce.bytes ∧
      deriveVaultKey argon2 passphrase salt = .ok key ∧
      crates.asconEncrypt key nonce privateKey.bytes vaultMagic = some ctWithTag ∧
      range? data 32 80 = some ctWithTag.bytes

section Reading

variable {crates argon2} {data : Bytes} {passphrase : String} {privateKey : Octets 32}

theorem openVaultIndexed_fields {salt nonce : Octets 16} {ctWithTag : Bytes}
    (whole : ¬ data.length < vaultSize) (first : range? data 0 16 = some salt.bytes)
    (second : range? data 16 32 = some nonce.bytes)
    (third : range? data 32 vaultSize = some ctWithTag) :
    openVaultIndexed crates argon2 (some data) passphrase =
      some (match deriveVaultKey argon2 passphrase salt with
        | .error e => .error e
        | .ok key =>
          match crates.asconDecrypt key nonce ctWithTag vaultMagic with
          | none => .error "Password salah."
          | some plaintext =>
            match tryInto 32 plaintext with
            | none => .error "File vault rusak: ukuran key tidak valid."
            | some key => .ok key) := by
  rw [openVaultIndexed, if_neg whole, first, second, third]
  simp only [Option.bind_eq_bind, Option.bind_some, tryInto_bytes]
  cases deriveVaultKey argon2 passphrase salt with
  | error e => rfl
  | ok key =>
      dsimp only
      cases crates.asconDecrypt key nonce ctWithTag vaultMagic with
      | none => rfl
      | some plaintext =>
          by_cases size : plaintext.length = 32
          · simp [size, copy?, tryInto]
          · simp [size, tryInto]

theorem openVaultIndexed_eq (file : Option Bytes) (passphrase : String) :
    openVaultIndexed crates argon2 file passphrase =
      some (openVault crates argon2 file passphrase) := by
  cases file with
  | none => rfl
  | some data =>
      by_cases whole : vaultSize ≤ data.length
      · have long : 80 ≤ data.length := whole
        have first : range? data 0 16 = some (slice data 0 16 (by omega)).bytes :=
          @range?_eq_slice data 0 16 (by omega)
        have second : range? data 16 32 = some (slice data 16 16 (by omega)).bytes :=
          @range?_eq_slice data 16 16 (by omega)
        have third : range? data 32 vaultSize = some ((data.take vaultSize).drop 32) :=
          if_pos ⟨by decide, whole⟩
        have opened := @openVaultIndexed_fields crates argon2 data passphrase _ _ _
          (Nat.not_lt.mpr whole) first second third
        have total : openVault crates argon2 (some data) passphrase = _ := dif_pos whole
        rw [total]
        exact opened
      · rw [openVaultIndexed, if_pos (Nat.lt_of_not_le whole), openVault, dif_neg whole]

theorem openVault_of_holdsVault (opens : crates.Opens) (whole : 80 ≤ data.length)
    (holds : HoldsVault crates argon2 data passphrase privateKey) :
    openVaultIndexed crates argon2 (some data) passphrase = some (.ok privateKey) := by
  rcases holds with ⟨salt, nonce, key, ctWithTag, first, second, derived, encrypted, third⟩
  rw [openVaultIndexed_fields (Nat.not_lt.mpr whole) first second third, derived]
  dsimp only
  rw [opens _ _ _ _ _ encrypted]
  dsimp only
  rw [tryInto_bytes]

theorem openVault_ok (opened : openVault crates argon2 (some data) passphrase = .ok privateKey) :
    ∃ (whole : 80 ≤ data.length) (key : Octets 16),
      deriveVaultKey argon2 passphrase (slice data 0 16 (by omega)) = .ok key ∧
        crates.asconDecrypt key (slice data 16 16 (by omega)) ((data.take 80).drop 32) vaultMagic =
          some privateKey.bytes := by
  rw [openVault] at opened
  by_cases whole : vaultSize ≤ data.length
  · rw [dif_pos whole] at opened
    refine ⟨whole, ?_⟩
    cases derived : deriveVaultKey argon2 passphrase (slice data 0 16 _) with
    | error e =>
        rw [derived] at opened
        cases opened
    | ok key =>
        rw [derived] at opened
        dsimp only at opened
        refine ⟨key, rfl, ?_⟩
        cases decrypted : crates.asconDecrypt key (slice data 16 16 _)
            ((data.take vaultSize).drop 32) vaultMagic with
        | none =>
            rw [decrypted] at opened
            cases opened
        | some plaintext =>
            rw [decrypted] at opened
            dsimp only at opened
            cases sized : tryInto 32 plaintext with
            | none =>
                rw [sized] at opened
                cases opened
            | some array =>
                rw [sized] at opened
                cases opened
                rw [tryInto_eq_some.mp sized] at decrypted
                exact decrypted
  · rw [dif_neg whole] at opened
    cases opened

theorem holdsVault_of_openVault (onlySealed : crates.OpensOnlySealed)
    (opened : openVault crates argon2 (some data) passphrase = .ok privateKey) :
    80 ≤ data.length ∧ HoldsVault crates argon2 data passphrase privateKey := by
  rcases openVault_ok opened with ⟨whole, key, derived, decrypted⟩
  rcases onlySealed _ _ _ _ _ decrypted with ⟨ctWithTag, encrypted, same⟩
  refine ⟨whole, _, _, key, ctWithTag, @range?_eq_slice data 0 16 (by omega),
    @range?_eq_slice data 16 16 (by omega), derived, encrypted, ?_⟩
  rw [same]
  exact if_pos ⟨by decide, whole⟩

theorem openVault_eq_ok (opens : crates.Opens) (onlySealed : crates.OpensOnlySealed) :
    openVault crates argon2 (some data) passphrase = .ok privateKey ↔
      80 ≤ data.length ∧ HoldsVault crates argon2 data passphrase privateKey := by
  constructor
  · exact holdsVault_of_openVault onlySealed
  · intro holds
    have opened := openVault_of_holdsVault opens holds.1 holds.2
    rw [openVaultIndexed_eq] at opened
    exact Option.some.inj opened

theorem writeVault_ok {file written : Option Bytes} {env : CreateEnv}
    (created : writeVault crates argon2 file env passphrase = (.ok (), written)) :
    ∃ key data, deriveVaultKey argon2 passphrase env.salt = .ok key ∧
      vaultData crates key env.salt env.nonce env.privateKeyBytes = some data ∧
      written = some data := by
  have ending := writeVault_end crates argon2 file env passphrase
  rw [created] at ending
  cases ending with
  | complete key data seals write => exact ⟨key, data, seals.derived, seals.made, rfl⟩

theorem holdsVault_append {key salt nonce : Octets 16}
    (derived : deriveVaultKey argon2 passphrase salt = .ok key)
    (made : vaultData crates key salt nonce privateKey = some data) (extra : Bytes) :
    80 ≤ (data ++ extra).length ∧
      HoldsVault crates argon2 (data ++ extra) passphrase privateKey := by
  rcases Option.map_eq_some_iff.mp made with ⟨ctWithTag, encrypted, rfl⟩
  have first : salt.bytes ++ (nonce.bytes ++ ctWithTag.bytes) ++ extra =
      [] ++ (salt.bytes ++ (nonce.bytes ++ ctWithTag.bytes ++ extra)) := by
    simp only [List.append_assoc, List.nil_append]
  have second : salt.bytes ++ (nonce.bytes ++ ctWithTag.bytes) ++ extra =
      salt.bytes ++ (nonce.bytes ++ (ctWithTag.bytes ++ extra)) := by
    simp only [List.append_assoc]
  have third : salt.bytes ++ (nonce.bytes ++ ctWithTag.bytes) ++ extra =
      (salt.bytes ++ nonce.bytes) ++ (ctWithTag.bytes ++ extra) := by
    simp only [List.append_assoc]
  constructor
  · simp only [List.length_append, Octets.length_eq]
    omega
  · refine ⟨salt, nonce, key, ctWithTag, range?_of_append first rfl rfl,
      range?_of_append second salt.length_eq rfl, derived, encrypted,
      range?_of_append third ?_ ?_⟩
    · rw [List.length_append, salt.length_eq, nonce.length_eq]
    · rw [privateKey.length_eq]

theorem openVault_too_short (short : data.length < 80) :
    openVault crates argon2 (some data) passphrase =
      .error "File vault rusak atau tidak lengkap." := by
  have cut : ¬ vaultSize ≤ data.length := Nat.not_le.mpr short
  rw [openVault, dif_neg cut]

end Reading

/-- What `create_vault` wrote unlocks with its passphrase also when bytes are appended, and
whatever the file, `unlock_vault` does not panic, refuses fewer than 80 bytes, and returns a key
only where the file holds it sealed at its offsets. -/
theorem vault_format {crates : Crates} {argon2 : Bytes → Octets 16 → Except String (Octets 16)}
    (opens : crates.Opens) (onlySealed : crates.OpensOnlySealed) :
    (∀ file env passphrase written,
      writeVault crates argon2 file env passphrase = (.ok (), some written) → ∀ extra,
        openVaultIndexed crates argon2 (some (written ++ extra)) passphrase =
          some (.ok env.privateKeyBytes)) ∧
    ∀ data passphrase, ∃ result,
      openVaultIndexed crates argon2 (some data) passphrase = some result ∧
        (data.length < 80 → ∃ e, result = .error e) ∧
        ∀ privateKey, result = .ok privateKey →
          80 ≤ data.length ∧ HoldsVault crates argon2 data passphrase privateKey := by
  constructor
  · intro file env passphrase written created extra
    rcases writeVault_ok created with ⟨key, data, derived, made, same⟩
    cases same
    rw [openVaultIndexed_eq]
    apply congrArg some
    exact (openVault_eq_ok opens onlySealed).mpr (holdsVault_append derived made extra)
  · intro data passphrase
    refine ⟨_, openVaultIndexed_eq (some data) passphrase, ?_, ?_⟩
    · intro short
      exact ⟨_, openVault_too_short short⟩
    · intro privateKey opened
      exact (openVault_eq_ok opens onlySealed).mp opened

namespace Sample

theorem opensOnlySealed {dms : List DmInnerPayload} {files : List FilePayload} :
    (Sample.crates dms files).OpensOnlySealed := by
  intro key nonce output aad message decrypted
  simp only [Sample.crates] at decrypted
  split at decrypted
  · rename_i tagged
    cases decrypted
    refine ⟨_, rfl, ?_⟩
    change output.take (output.length - 16) ++ _ = output
    rw [← tagged, List.take_append_drop]
  · cases decrypted

end Sample

/-- A vault with one byte appended. -/
theorem vault_format_first :
    ∃ written, writeVault Sample.haloCrates Sample.vaultArgon2 none (Sample.createEnv 1)
        "rahasia-satu" = (.ok (), some written) ∧
      openVaultIndexed Sample.haloCrates Sample.vaultArgon2 (some (written ++ [7])) "rahasia-satu" =
        some (.ok (Sample.createEnv 1).privateKeyBytes) := by
  have created : ∃ written, writeVault Sample.haloCrates Sample.vaultArgon2 none
      (Sample.createEnv 1) "rahasia-satu" = (.ok (), some written) := ⟨_, rfl⟩
  rcases created with ⟨written, created⟩
  exact ⟨written, created, (@vault_format Sample.haloCrates Sample.vaultArgon2 Sample.opens
    Sample.opensOnlySealed).1 none _ _ written created [7]⟩

end Caraka
