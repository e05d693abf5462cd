import Caraka.Routing
import Caraka.Sample

/-! What the derived keys and the hop MACs are computed from, and that no two uses share it. -/

namespace Caraka

open Foundation

inductive KeyPurpose where
  | dm (senderId receiverId : NodePublicKey) (sessionId : Octets 8) (msgCounter : UInt64)
  | sessionId
  | channelMac (channelId : Octets 8)
  | hopMac

namespace KeyPurpose

def info : KeyPurpose → Bytes
  | .dm senderId receiverId session msgCounter =>
    dmContext senderId receiverId session msgCounter
  | .sessionId => utf8 "CARAKA-SESSION-ID-v1"
  | .channelMac channelId => utf8 "CARAKA-CH-MAC-v1" ++ channelId.bytes
  | .hopMac => utf8 "CARAKA-HOP-MAC-v1"

def infoWidth : KeyPurpose → Nat
  | .dm .. => 92
  | .sessionId => 20
  | .channelMac _ => 24
  | .hopMac => 17

theorem length_info (purpose : KeyPurpose) : purpose.info.length = purpose.infoWidth := by
  cases purpose with
  | dm senderId receiverId session msgCounter =>
      have label : (utf8 "CARAKA-DM-v1").length = 12 := rfl
      simp only [info, dmContext, List.length_append, label, Octets.length_eq]
      rfl
  | sessionId => rfl
  | channelMac channelId =>
      have label : (utf8 "CARAKA-CH-MAC-v1").length = 16 := rfl
      simp only [info, List.length_append, label, channelId.length_eq]
      rfl
  | hopMac => rfl

theorem info_injective : Function.Injective info := by
  intro first second same
  have widths : first.infoWidth = second.infoWidth := by
    rw [← length_info, ← length_info, same]
  cases first with
  | dm senderId receiverId session msgCounter =>
      cases second with
      | dm senderId' receiverId' session' msgCounter' =>
          rcases dmContext_injective same with ⟨rfl, rfl, rfl, rfl⟩
          rfl
      | sessionId => cases widths
      | channelMac channelId => cases widths
      | hopMac => cases widths
  | sessionId =>
      cases second with
      | sessionId => rfl
      | dm senderId receiverId session msgCounter => cases widths
      | channelMac channelId => cases widths
      | hopMac => cases widths
  | channelMac channelId =>
      cases second with
      | channelMac channelId' =>
          have channels : channelId = channelId' := Octets.ext (List.append_cancel_left same)
          rw [channels]
      | dm senderId receiverId session msgCounter => cases widths
      | sessionId => cases widths
      | hopMac => cases widths
  | hopMac =>
      cases second with
      | hopMac => rfl
      | dm senderId receiverId session msgCounter => cases widths
      | sessionId => cases widths
      | channelMac channelId => cases widths

theorem info_directions_apart {myId peerId : NodePublicKey} (distinct : myId ≠ peerId)
    (session session' : Octets 8) (msgCounter msgCounter' : UInt64) :
    (dm myId peerId session msgCounter).info ≠ (dm peerId myId session' msgCounter').info := by
  intro same
  have purposes := info_injective same
  injection purposes with senders
  exact distinct senders

end KeyPurpose

/-- The purpose of the key that one end derives for sending or for receiving. -/
def directionalPurpose (myId peerId : NodePublicKey) (sessionId : Octets 8) (msgCounter : UInt64)
    (isSender : Bool) : KeyPurpose :=
  if isSender then .dm myId peerId sessionId msgCounter else .dm peerId myId sessionId msgCounter

theorem directionalPurpose_swap (myId peerId : NodePublicKey) (sessionId : Octets 8)
    (msgCounter : UInt64) (isSender : Bool) :
    directionalPurpose myId peerId sessionId msgCounter isSender =
      directionalPurpose peerId myId sessionId msgCounter (!isSender) := by
  cases isSender <;> rfl

section Derivation

variable (crates : Crates)

/-- `derive_dm_key_directional`. -/
def deriveDmKeyDirectional (sharedSecret : Octets 32) (myId peerId : NodePublicKey)
    (sessionId : Octets 8) (msgCounter : UInt64) (isSender : Bool) : AeadKey :=
  if isSender then deriveDmKey crates sharedSecret myId peerId sessionId msgCounter
  else deriveDmKey crates sharedSecret peerId myId sessionId msgCounter

theorem deriveDmKey_eq (sharedSecret : Octets 32) (senderId receiverId : NodePublicKey)
    (sessionId : Octets 8) (msgCounter : UInt64) :
    deriveDmKey crates sharedSecret senderId receiverId sessionId msgCounter =
      crates.hkdfSha256 none sharedSecret.bytes
        (KeyPurpose.dm senderId receiverId sessionId msgCounter).info 16 := rfl

theorem deriveDmKeyDirectional_eq (sharedSecret : Octets 32) (myId peerId : NodePublicKey)
    (sessionId : Octets 8) (msgCounter : UInt64) (isSender : Bool) :
    deriveDmKeyDirectional crates sharedSecret myId peerId sessionId msgCounter isSender =
      crates.hkdfSha256 none sharedSecret.bytes
        (directionalPurpose myId peerId sessionId msgCounter isSender).info 16 := by
  cases isSender <;> rfl

theorem directional_keys_agree {crates : Crates} (commutes : crates.Commutes)
    (mine theirs : Identity crates) (sessionId : Octets 8) (msgCounter : UInt64)
    (isSender : Bool) :
    deriveDmKeyDirectional crates (ecdh crates mine.myPrivateKey theirs.myNodeId) mine.myNodeId
        theirs.myNodeId sessionId msgCounter isSender =
      deriveDmKeyDirectional crates (ecdh crates theirs.myPrivateKey mine.myNodeId)
        theirs.myNodeId mine.myNodeId sessionId msgCounter (!isSender) := by
  rw [deriveDmKeyDirectional_eq, deriveDmKeyDirectional_eq, ecdh_comm commutes mine theirs,
    directionalPurpose_swap]

theorem deriveSessionId_eq (sharedSecret : Octets 32) :
    deriveSessionId crates sharedSecret =
      crates.hkdfSha256 none sharedSecret.bytes KeyPurpose.sessionId.info 8 := rfl

theorem deriveChannelMacKey_eq (masterSecret : Bytes) (channelId : Octets 8) :
    deriveChannelMacKey crates masterSecret channelId =
      crates.hkdfSha256 none masterSecret (KeyPurpose.channelMac channelId).info 16 := rfl

theorem computeMac_eq (key : MacKey) (data : Bytes) :
    computeMac crates key data =
      crates.hkdfSha256 (some key.bytes) data KeyPurpose.hopMac.info 16 := rfl

end Derivation

theorem buildMacInput_eq_iff {packetId packetId' : Octets 8} {hopCounter hopCounter' : UInt8}
    {nodeId nodeId' : Octets 32} :
    Router.buildMacInput packetId hopCounter nodeId =
        Router.buildMacInput packetId' hopCounter' nodeId' ↔
      packetId = packetId' ∧ hopCounter = hopCounter' ∧
        nodeId.bytes.take 4 = nodeId'.bytes.take 4 := by
  constructor
  · intro same
    rcases List.append_inj same (by rw [packetId.length_eq, packetId'.length_eq]) with
      ⟨packets, rest⟩
    rcases List.cons_eq_cons.mp rest with ⟨counters, prefixes⟩
    exact ⟨Octets.ext packets, counters, prefixes⟩
  · intro equal
    rcases equal with ⟨rfl, rfl, prefixes⟩
    rw [Router.buildMacInput, Router.buildMacInput, prefixes]

/-- Each function hands HKDF the info string of its purpose, which determines the purpose and all
that it was built from. So the two directions of a conversation never share an input, the two ends
of one direction always do, and the input of a hop MAC determines what it stands for. -/
theorem key_inputs_separated (crates : Crates) :
    ((∀ secret senderId receiverId session msgCounter,
        deriveDmKey crates secret senderId receiverId session msgCounter =
          crates.hkdfSha256 none secret.bytes
            (KeyPurpose.dm senderId receiverId session msgCounter).info 16) ∧
      (∀ secret myId peerId session msgCounter isSender,
        deriveDmKeyDirectional crates secret myId peerId session msgCounter isSender =
          crates.hkdfSha256 none secret.bytes
            (directionalPurpose myId peerId session msgCounter isSender).info 16) ∧
      (∀ secret, deriveSessionId crates secret =
        crates.hkdfSha256 none secret.bytes KeyPurpose.sessionId.info 8) ∧
      (∀ secret channelId, deriveChannelMacKey crates secret channelId =
        crates.hkdfSha256 none secret (KeyPurpose.channelMac channelId).info 16) ∧
      (∀ key data, computeMac crates key data =
        crates.hkdfSha256 (some key.bytes) data KeyPurpose.hopMac.info 16)) ∧
    Function.Injective KeyPurpose.info ∧
    (∀ myId peerId, myId ≠ peerId → ∀ session session' msgCounter msgCounter',
      (KeyPurpose.dm myId peerId session msgCounter).info ≠
        (KeyPurpose.dm peerId myId session' msgCounter').info) ∧
    (∀ myId peerId session msgCounter isSender,
      directionalPurpose myId peerId session msgCounter isSender =
        directionalPurpose peerId myId session msgCounter (!isSender)) ∧
    ∀ packetId packetId' hopCounter hopCounter' nodeId nodeId',
      Router.buildMacInput packetId hopCounter nodeId =
          Router.buildMacInput packetId' hopCounter' nodeId' ↔
        packetId = packetId' ∧ hopCounter = hopCounter' ∧
          nodeId.bytes.take 4 = nodeId'.bytes.take 4 := by
  refine ⟨⟨?_, ?_, ?_, ?_, ?_⟩, KeyPurpose.info_injective, ?_, directionalPurpose_swap, ?_⟩
  · exact deriveDmKey_eq crates
  · exact deriveDmKeyDirectional_eq crates
  · exact deriveSessionId_eq crates
  · exact deriveChannelMacKey_eq crates
  · exact computeMac_eq crates
  · intro myId peerId distinct session session' msgCounter msgCounter'
    exact KeyPurpose.info_directions_apart distinct session session' msgCounter msgCounter'
  · intro packetId packetId' hopCounter hopCounter' nodeId nodeId'
    exact buildMacInput_eq_iff

theorem key_inputs_separated_apart :
    (KeyPurpose.dm (Octets.zero 32) ⟨List.replicate 32 1, rfl⟩ (Octets.zero 8) 0).info ≠
      (KeyPurpose.dm ⟨List.replicate 32 1, rfl⟩ (Octets.zero 32) (Octets.zero 8) 7).info :=
  (key_inputs_separated (Sample.crates [] [])).2.2.1 _ _ (by decide) _ _ _ _

end Caraka
