import Caraka.Activity

/-! Which messages the table holds: what the insertions add, what they refuse, and that nothing is
taken out again. -/

namespace Caraka

open Foundation

structure Envelope where
  packetId : String
  nonce : Bytes
  ciphertext : Bytes
  aeadTag : Bytes
  deriving DecidableEq

def StoredMessage.envelope (message : StoredMessage) : Envelope :=
  ⟨message.packetId, message.nonce, message.ciphertext, message.aeadTag⟩

def Presented.envelope (packetId : String) (presented : Presented) : Envelope :=
  ⟨packetId, presented.nonce.bytes, presented.ciphertext, presented.aeadTag.bytes⟩

/-- The envelope `send_dm` stores for a packet. -/
def ClampPacket.envelope (packet : ClampPacket) : Envelope :=
  ⟨Hex.encode packet.header.packetId.bytes, packet.nonce.bytes, packet.ciphertext,
    packet.aeadTag.bytes⟩

namespace Messages

def Holds (table : Messages) (envelope : Envelope) : Prop :=
  envelope ∈ table.rows.map StoredMessage.envelope

instance (table : Messages) (envelope : Envelope) : Decidable (table.Holds envelope) :=
  inferInstanceAs (Decidable (_ ∈ _))

def Refuses (table : Messages) (message : StoredMessage) : Prop :=
  table.Conflicts message ∧ ¬ table.Holds message.envelope

instance (table : Messages) (message : StoredMessage) : Decidable (table.Refuses message) :=
  inferInstanceAs (Decidable (_ ∧ _))

def Grows (table later : Messages) : Prop := ∀ envelope, table.Holds envelope →
  later.Holds envelope

theorem Grows.refl (table : Messages) : table.Grows table := fun _ held => held

theorem holds_insertOrIgnore {table : Messages} {message : StoredMessage} {envelope : Envelope} :
    (table.insertOrIgnore message).Holds envelope ↔
      table.Holds envelope ∨ ¬ table.Conflicts message ∧ message.envelope = envelope := by
  by_cases taken : table.Conflicts message
  · rw [insertOrIgnore, dif_pos taken]
    simp only [taken, not_true_eq_false, false_and, or_false]
  · rw [insertOrIgnore, dif_neg taken]
    simp only [taken, not_false_eq_true, true_and, Holds, List.map_append, List.mem_append,
      List.map_cons, List.map_nil, List.mem_singleton, @eq_comm _ envelope]

theorem grows_insertOrIgnore (table : Messages) (message : StoredMessage) :
    table.Grows (table.insertOrIgnore message) :=
  fun _ held => holds_insertOrIgnore.mpr (.inl held)

theorem holds_inserted {table : Messages} {message : StoredMessage} :
    (table.insertOrIgnore message).Holds message.envelope ↔ ¬ table.Refuses message := by
  rw [holds_insertOrIgnore, Refuses]
  tauto

theorem holds_setCounter {table : Messages} {id : String} {counter : Int} {envelope : Envelope} :
    (table.setCounter id counter).Holds envelope ↔ table.Holds envelope := by
  have same : (table.setCounter id counter).rows.map StoredMessage.envelope =
      table.rows.map StoredMessage.envelope := by
    rw [setCounter, List.map_map]
    apply List.map_congr_left
    intro row _
    simp only [Function.comp]
    split <;> rfl
  rw [Holds, same, Holds]

end Messages

variable {crates : Crates}

theorem holds_showRows {identity : Identity crates} {now : UInt64} {peerPub : NodePublicKey}
    {sessionId : Octets 8} {sendCounter recvHint : Nat} (msgs : List StoredMessage) (store : Store)
    (envelope : Envelope) :
    (showRows crates identity now peerPub sessionId sendCounter recvHint msgs
      store).2.messages.Holds envelope ↔ store.messages.Holds envelope := by
  induction msgs generalizing store with
  | nil => rfl
  | cons msg msgs ih =>
      rw [showRows]
      split
      · dsimp only
        split
        · rw [ih, Store.setMessageCounter]
          exact Messages.holds_setCounter
        · exact ih store
      · exact ih store

section Activities

variable (node : AppState crates)

theorem grows_processIncomingPacket (env : ReceiveEnv) (raw : Bytes) (senderKey : String)
    (kind : ConnKind) : node.store.messages.Grows
      (processIncomingPacket node env raw senderKey kind).1.store.messages := by
  by_cases syncs : ∃ packet, ClampPacket.decode raw = .ok packet ∧
      packet.header.packetType = .syncData
  · rcases syncs with ⟨packet, read, type⟩
    simp only [processIncomingPacket, read, type, handleSyncData]
    split
    · exact .refl _
    · exact Messages.grows_insertOrIgnore _ _
  · rw [messages_processIncomingPacket node env senderKey kind fun packet read type =>
      syncs ⟨packet, read, type⟩]
    exact .refl _

theorem grows_sendDm (env : SendEnv) (recipientId plaintext : String)
    (replyToId replyToText : Option String) : node.store.messages.Grows
      (sendDm node env recipientId plaintext replyToId replyToText).node.store.messages := by
  have ended := sendDm_end node env recipientId plaintext replyToId replyToText
  generalize sendDm node env recipientId plaintext replyToId replyToText = outcome at ended ⊢
  have saves : ∀ (peerPub : NodePublicKey) (packet : ClampPacket), node.store.messages.Grows
      (savedStore node env recipientId peerPub packet).messages := by
    intro peerPub packet
    rw [← messages_openedStore node recipientId peerPub]
    exact Messages.grows_insertOrIgnore _ _
  cases ended with
  | refused => exact .refl _
  | @opened peerPub =>
      rw [← messages_openedStore node recipientId peerPub]
      exact .refl _
  | saved | counted | sent => exact saves _ _

theorem grows_sendFile (env : SendEnv) (recipientId : String) (file : DiskFile) :
    node.store.messages.Grows (sendFile node env recipientId file).node.store.messages := by
  rw [messages_sendFile]
  exact .refl _

theorem grows_tryDecryptPacket (now : UInt64)
    (packetId nonceHex ciphertextHex aeadTagHex : String) :
    node.store.messages.Grows (tryDecryptPacket node now packetId nonceHex ciphertextHex
      aeadTagHex).node.store.messages := by
  have ended := tryDecryptPacket_end node now packetId nonceHex ciphertextHex aeadTagHex
  generalize tryDecryptPacket node now packetId nonceHex ciphertextHex aeadTagHex = outcome
    at ended ⊢
  cases ended with
  | malformed => exact .refl _
  | missed parsed search | panicked parsed search =>
      rw [← (frame_of_search search).1]
      exact .refl _
  | returned parsed search =>
      rw [← (frame_of_search search).1]
      exact Messages.grows_insertOrIgnore _ _

theorem grows_tryDecryptFilePacket (now : UInt64)
    (saveReceivedFile : String → Bytes → Except String String)
    (packetId nonceHex ciphertextHex aeadTagHex : String) : node.store.messages.Grows
      (tryDecryptFilePacket node now saveReceivedFile packetId nonceHex ciphertextHex
        aeadTagHex).node.store.messages := by
  rw [messages_tryDecryptFilePacket]
  exact .refl _

theorem grows_getMessages (now : UInt64) (peerId : String) (limit : Option Nat) :
    node.store.messages.Grows (getMessages node now peerId limit).1.store.messages := by
  rw [getMessages]
  dsimp only
  split
  · exact .refl _
  · split
    · exact .refl _
    · intro envelope held
      dsimp only
      rw [holds_showRows, Store.messages_getOrCreateSession]
      exact held

end Activities

theorem grows_perform (node : AppState crates) (activity : Activity) :
    node.store.messages.Grows (node.perform activity).store.messages := by
  cases activity with
  | receive => exact grows_processIncomingPacket _ _ _ _ _
  | sendDm => exact grows_sendDm _ _ _ _ _ _
  | sendFile => exact grows_sendFile _ _ _ _
  | sendBroadcast env text =>
      rw [AppState.perform, store_sendBroadcast]
      exact .refl _
  | tryDecrypt => exact grows_tryDecryptPacket _ _ _ _ _ _
  | tryDecryptFile => exact grows_tryDecryptFilePacket _ _ _ _ _ _ _
  | getMessages => exact grows_getMessages _ _ _ _

end Caraka
