import Caraka.Crypto
import Caraka.Foundation.Hex

/-! `keys.rs`: node identities, key agreement and key derivation. -/

namespace Caraka

open Foundation

abbrev NodePrivateKey := Octets 32

abbrev NodePublicKey := Octets 32

variable (crates : Crates)

def publicKeyFromPrivate (privateKey : NodePrivateKey) : NodePublicKey :=
  crates.publicFrom privateKey

def fingerprint (publicKey : NodePublicKey) : String :=
  Hex.encode ((hash256 crates publicKey.bytes).bytes.take 4)

def ecdh (myPrivate : NodePrivateKey) (peerPublic : NodePublicKey) : Octets 32 :=
  crates.diffieHellman myPrivate peerPublic

def dmContext (senderId receiverId : NodePublicKey) (sessionId : Octets 8)
    (msgCounter : UInt64) : Bytes :=
  utf8 "CARAKA-DM-v1" ++ senderId.bytes ++ receiverId.bytes ++ sessionId.bytes ++
    (le64 msgCounter).bytes

def deriveDmKey (sharedSecret : Octets 32) (senderId receiverId : NodePublicKey)
    (sessionId : Octets 8) (msgCounter : UInt64) : AeadKey :=
  xofDerive crates sharedSecret.bytes (dmContext senderId receiverId sessionId msgCounter) 16

def deriveSessionId (sharedSecret : Octets 32) : Octets 8 :=
  xofDerive crates sharedSecret.bytes (utf8 "CARAKA-SESSION-ID-v1") 8

def deriveChannelMacKey (masterSecret : Bytes) (channelId : Octets 8) : MacKey :=
  xofDerive crates masterSecret (utf8 "CARAKA-CH-MAC-v1" ++ channelId.bytes) 16

structure Identity where
  myPrivateKey : NodePrivateKey
  myNodeId : NodePublicKey
  nodeIdHex : String
  myNodeId_eq : myNodeId = publicKeyFromPrivate crates myPrivateKey
  nodeIdHex_eq : nodeIdHex = Hex.encode myNodeId.bytes

def Identity.ofPrivate (privateKey : NodePrivateKey) : Identity crates where
  myPrivateKey := privateKey
  myNodeId := publicKeyFromPrivate crates privateKey
  nodeIdHex := Hex.encode (publicKeyFromPrivate crates privateKey).bytes
  myNodeId_eq := rfl
  nodeIdHex_eq := rfl

/-- `hex::decode` followed by `try_into` at the length of a key. -/
def parseNodeId (text : String) : Option NodePublicKey :=
  (Hex.decode text).bind (tryInto 32)

@[simp] theorem parseNodeId_encode (nodeId : NodePublicKey) :
    parseNodeId (Hex.encode nodeId.bytes) = some nodeId := by simp [parseNodeId]

theorem dmContext_injective {sender sender' receiver receiver' : NodePublicKey}
    {session session' : Octets 8} {counter counter' : UInt64}
    (same : dmContext sender receiver session counter =
      dmContext sender' receiver' session' counter') :
    sender = sender' ∧ receiver = receiver' ∧ session = session' ∧ counter = counter' := by
  unfold dmContext at same
  rcases List.append_inj' same (by simp) with ⟨same, counters⟩
  rcases List.append_inj' same (by simp) with ⟨same, sessions⟩
  rcases List.append_inj' same (by simp) with ⟨same, receivers⟩
  rcases List.append_inj' same (by simp) with ⟨-, senders⟩
  exact ⟨Octets.ext senders, Octets.ext receivers, Octets.ext sessions,
    le64_injective (Octets.ext counters)⟩

variable {crates}

theorem ecdh_comm (commutes : crates.Commutes) (mine theirs : Identity crates) :
    ecdh crates mine.myPrivateKey theirs.myNodeId =
      ecdh crates theirs.myPrivateKey mine.myNodeId := by
  rw [mine.myNodeId_eq, theirs.myNodeId_eq]
  exact commutes _ _

end Caraka
