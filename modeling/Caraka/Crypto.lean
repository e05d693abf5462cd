import Caraka.Crates

/-! `crypto.rs`: nonces, authenticated encryption, hop MACs and hashing. -/

namespace Caraka

open Foundation

abbrev AeadKey := Octets 16

abbrev MacKey := Octets 16

abbrev Nonce := Octets 16

inductive CryptoError where
  | decryptionFailed
  | timestampInvalid
  deriving DecidableEq

def CryptoError.toString : CryptoError → String
  | decryptionFailed => "AEAD decryption failed: authentication tag mismatch"
  | timestampInvalid => "Timestamp out of validity window (±300 seconds from now)"

/-- `generate_nonce` at a clock reading, given the twelve bytes drawn. -/
def generateNonce (now : UInt64) (random : Octets 12) : Nonce :=
  Octets.append ⟨leBytes 4 now.toNat, by simp⟩ random

def embeddedTs (nonce : Nonce) : Nat := leValue (slice nonce.bytes 0 4 (by simp)).bytes

def absDiff (left right : Nat) : Nat := (left - right) + (right - left)

def validateNonceTimestamp (now : UInt64) (nonce : Nonce) : Except CryptoError Unit :=
  if absDiff now.toNat (embeddedTs nonce) > 300 then .error .timestampInvalid else .ok ()

/-- The clock is within the window that `validateNonceTimestamp` accepts. -/
def Fresh (now : UInt64) (nonce : Nonce) : Prop := absDiff now.toNat (embeddedTs nonce) ≤ 300

instance (now : UInt64) (nonce : Nonce) : Decidable (Fresh now nonce) :=
  inferInstanceAs (Decidable (_ ≤ _))

variable (crates : Crates)

/-- `encrypt`: the ciphertext and the tag split from behind it. -/
def encrypt (key : AeadKey) (nonce : Nonce) (plaintext aad : Bytes) :
    Except CryptoError (Bytes × Octets 16) :=
  match crates.asconEncrypt key nonce plaintext aad with
  | none => .error .decryptionFailed
  | some ctWithTag =>
    .ok (ctWithTag.bytes.take plaintext.length,
      slice ctWithTag.bytes plaintext.length 16 (by simp))

def decrypt (now : UInt64) (key : AeadKey) (nonce : Nonce) (ciphertext : Bytes)
    (tag : Octets 16) (aad : Bytes) : Except CryptoError Bytes :=
  match validateNonceTimestamp now nonce with
  | .error invalid => .error invalid
  | .ok () =>
    match crates.asconDecrypt key nonce (ciphertext ++ tag.bytes) aad with
    | none => .error .decryptionFailed
    | some plaintext => .ok plaintext

def computeMac (key : MacKey) (data : Bytes) : Octets 16 :=
  crates.hkdfSha256 (some key.bytes) data (utf8 "CARAKA-HOP-MAC-v1") 16

/-- `verify_mac`: the fold of the xor of all byte pairs is zero. -/
def verifyMac (key : MacKey) (data : Bytes) (expected : Octets 16) : Bool :=
  (((computeMac crates key data).bytes.zip expected.bytes).foldl
    (fun acc pair => acc ||| (pair.1 ^^^ pair.2)) 0) == 0

def hash256 (data : Bytes) : Octets 32 := crates.sha256 (utf8 "CARAKA-HASH-v1" ++ data)

def xofDerive (secret context : Bytes) (width : Nat) : Octets width :=
  crates.hkdfSha256 none secret context width

theorem validateNonceTimestamp_ok {now : UInt64} {nonce : Nonce} :
    validateNonceTimestamp now nonce = .ok () ↔ Fresh now nonce := by
  rw [validateNonceTimestamp, Fresh]
  split
  · rename_i late
    simp only [reduceCtorEq, false_iff]
    omega
  · rename_i early
    simp only [true_iff]
    omega

variable {crates}

theorem decrypt_eq_ok {now : UInt64} {key : AeadKey} {nonce : Nonce} {ciphertext : Bytes}
    {tag : Octets 16} {aad plaintext : Bytes} :
    decrypt crates now key nonce ciphertext tag aad = .ok plaintext ↔
      Fresh now nonce ∧
        crates.asconDecrypt key nonce (ciphertext ++ tag.bytes) aad = some plaintext := by
  rw [decrypt]
  cases checked : validateNonceTimestamp now nonce with
  | error invalid =>
      have stale : ¬ Fresh now nonce := by
        rw [← validateNonceTimestamp_ok, checked]
        simp
      simp [stale]
  | ok =>
      have fresh : Fresh now nonce := validateNonceTimestamp_ok.mp checked
      cases crates.asconDecrypt key nonce (ciphertext ++ tag.bytes) aad <;> simp [fresh]

theorem encrypt_eq_ok {key : AeadKey} {nonce : Nonce} {plaintext aad ciphertext : Bytes}
    {tag : Octets 16} :
    encrypt crates key nonce plaintext aad = .ok (ciphertext, tag) ↔
      ∃ output, crates.asconEncrypt key nonce plaintext aad = some output ∧
        output.bytes = ciphertext ++ tag.bytes ∧ ciphertext.length = plaintext.length := by
  rw [encrypt]
  cases sealing : crates.asconEncrypt key nonce plaintext aad with
  | none => simp
  | some output =>
      have rejoined : output.bytes.take plaintext.length ++
          (slice output.bytes plaintext.length 16 (by simp)).bytes = output.bytes := by
        have back := drop_eq_slice_append output.bytes plaintext.length 16 (by simp)
        have whole : output.bytes.drop (plaintext.length + 16) = [] :=
          List.drop_of_length_le (by simp)
        rw [whole, List.append_nil] at back
        rw [← back, List.take_append_drop]
      simp only [Except.ok.injEq, Prod.mk.injEq, Option.some.injEq, exists_eq_left']
      constructor
      · rintro ⟨rfl, rfl⟩
        exact ⟨rejoined.symm, by simp⟩
      · rintro ⟨split, size⟩
        have both := List.append_inj (rejoined.trans split) (by simp [size])
        exact ⟨both.1, Octets.ext both.2⟩

private theorem fold_or_xor (pairs : List (UInt8 × UInt8)) (acc : UInt8) :
    pairs.foldl (fun acc pair => acc ||| (pair.1 ^^^ pair.2)) acc = 0 ↔
      acc = 0 ∧ ∀ pair ∈ pairs, pair.1 = pair.2 := by
  induction pairs generalizing acc with
  | nil => simp
  | cons pair rest ih =>
      simp only [List.foldl_cons, ih, UInt8.or_eq_zero_iff, UInt8.xor_eq_zero_iff,
        List.mem_cons, forall_eq_or_imp, and_assoc]

private theorem zip_pairs_equal (left right : Bytes) (size : left.length = right.length) :
    (∀ pair ∈ left.zip right, pair.1 = pair.2) ↔ left = right := by
  induction left generalizing right with
  | nil => simp [List.length_eq_zero_iff.mp size.symm]
  | cons head tail ih =>
      rcases List.exists_of_length_succ right size.symm with ⟨head', tail', rfl⟩
      simp only [List.zip_cons_cons, List.mem_cons, forall_eq_or_imp, List.cons.injEq,
        ih tail' (by simpa using size)]

theorem verifyMac_eq_true {key : MacKey} {data : Bytes} {expected : Octets 16} :
    verifyMac crates key data expected = true ↔ computeMac crates key data = expected := by
  simp only [verifyMac, beq_iff_eq, fold_or_xor, true_and]
  rw [zip_pairs_equal _ _ (by simp)]
  exact ⟨Octets.ext, congrArg Octets.bytes⟩

end Caraka
