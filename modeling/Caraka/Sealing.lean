import Caraka.Commands.Receive

/-! What is encrypted under a DM key, and an ideal cipher in terms of it. -/

namespace Caraka

open Foundation

/-- One encryption under a DM key: the inputs of the key, the nonce, the authenticated header
and the plaintext. -/
structure SealedPayload where
  sharedSecret : Octets 32
  senderId : NodePublicKey
  receiverId : NodePublicKey
  sessionId : Octets 8
  msgCounter : UInt64
  nonce : Nonce
  packetType : PacketType
  packetId : Octets 8
  plaintext : Bytes

def SealedPayload.key (crates : Crates) (record : SealedPayload) : AeadKey :=
  deriveDmKey crates record.sharedSecret record.senderId record.receiverId record.sessionId
    record.msgCounter

def SealedPayload.aad (record : SealedPayload) : Bytes :=
  receiveAad record.packetType record.packetId

def SealedPayload.keyInput (record : SealedPayload) : Bytes × Bytes :=
  (record.sharedSecret.bytes,
    dmContext record.senderId record.receiverId record.sessionId record.msgCounter)

/-- Decryption succeeds only on what was encrypted under the same key, nonce and associated
data. -/
def Crates.Unforgeable (crates : Crates) (sealed : Set SealedPayload) : Prop :=
  ∀ key nonce output aad plaintext, crates.asconDecrypt key nonce output aad = some plaintext →
    ∃ record ∈ sealed, record.key crates = key ∧ record.nonce = nonce ∧ record.aad = aad ∧
      record.plaintext = plaintext

theorem receiveAad_injective {packetType packetType' : PacketType} {packetId packetId' : Octets 8}
    (same : receiveAad packetType packetId = receiveAad packetType' packetId') :
    packetType = packetType' ∧ packetId = packetId' := by
  simp only [receiveAad, List.append_cancel_left_eq, List.cons.injEq, true_and] at same
  exact ⟨PacketType.toU8_injective same.1, Octets.ext same.2⟩

/-- What was encrypted with one header opens with no other. -/
def Crates.BindsHeader (crates : Crates) (key : AeadKey) (nonce : Nonce) (message : Bytes)
    (packetType : PacketType) (packetId : Octets 8) : Prop :=
  ∀ output, crates.asconEncrypt key nonce message (receiveAad packetType packetId) = some output →
    ∀ other otherType otherId plaintext,
      crates.asconDecrypt other nonce output.bytes (receiveAad otherType otherId) =
        some plaintext → otherType = packetType ∧ otherId = packetId

end Caraka
