import Caraka.Payload

/-! The third-party code the program calls, and what is assumed of it. -/

namespace Caraka

open Foundation

/-- A row of the `messages` table. -/
structure StoredMessage where
  id : String
  packetId : String
  senderId : String
  recipientId : String
  nonce : Bytes
  ciphertext : Bytes
  aeadTag : Bytes
  receivedAt : Int
  delivered : Bool
  /-- The counter of the key, or -1 where it was never recorded. -/
  msgCounter : Int
  deriving DecidableEq

structure Crates where
  /-- `PublicKey::from(&StaticSecret)` of x25519-dalek. -/
  publicFrom : Octets 32 → Octets 32
  diffieHellman : Octets 32 → Octets 32 → Octets 32
  /-- `Hkdf::<Sha256>::new(salt, ikm)` expanded with `info` to `width` bytes. -/
  hkdfSha256 : Option Bytes → Bytes → Bytes → (width : Nat) → Octets width
  sha256 : Bytes → Octets 32
  /-- `Ascon128` encryption of a message under a key, a nonce and associated data: the
  ciphertext with its 16 byte tag behind it. -/
  asconEncrypt : Octets 16 → Octets 16 → (message : Bytes) → Bytes →
    Option (Octets (message.length + 16))
  asconDecrypt : Octets 16 → Octets 16 → Bytes → Bytes → Option Bytes
  /-- `serde_json::from_slice` at each payload type. -/
  dmFromSlice : Bytes → Option DmInnerPayload
  fileFromSlice : Bytes → Option FilePayload
  broadcastFromSlice : Bytes → Option BroadcastPayload
  valueFromSlice : Bytes → Option Json.Value
  /-- `bincode::deserialize`. -/
  messageFromSlice : Bytes → Option StoredMessage
  /-- The standard base64 decoder, its error already rendered. -/
  base64Decode : String → Except String Bytes

namespace Crates

variable (crates : Crates)

/-- Both ends of an X25519 exchange compute the same secret. -/
def Commutes : Prop :=
  ∀ mine theirs, crates.diffieHellman mine (crates.publicFrom theirs) =
    crates.diffieHellman theirs (crates.publicFrom mine)

/-- Decryption inverts encryption. -/
def Opens : Prop :=
  ∀ key nonce message aad output, crates.asconEncrypt key nonce message aad = some output →
    crates.asconDecrypt key nonce output.bytes aad = some message

/-- What one key sealed, no other key opens. -/
def RejectsOtherKeys : Prop :=
  ∀ key nonce message aad output, crates.asconEncrypt key nonce message aad = some output →
    ∀ other, other ≠ key → crates.asconDecrypt other nonce output.bytes aad = none

/-- The JSON parser reads a payload back as it was written. -/
def ReadsDm (payload : DmInnerPayload) : Prop := crates.dmFromSlice payload.toVec = some payload

def ReadsFile (payload : FilePayload) : Prop :=
  crates.fileFromSlice payload.toVec = some payload

end Crates

end Caraka
