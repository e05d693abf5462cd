import Caraka.Commands.History
import Caraka.Commands.Received
import Caraka.Commands.Sent
import Caraka.Relaying
import Caraka.Foundation.Transition

/-! Whole runs of a node: the frames it receives and the commands it is given, in any order. -/

namespace Caraka

open Foundation

/-- One thing a node does. -/
inductive Activity where
  | receive (env : ReceiveEnv) (raw : Bytes) (senderKey : String) (kind : ConnKind)
  | sendDm (env : SendEnv) (recipientId plaintext : String) (replyToId replyToText : Option String)
  | sendFile (env : SendEnv) (recipientId : String) (file : DiskFile)
  | sendBroadcast (env : SendEnv) (text : String)
  | tryDecrypt (now : UInt64) (packetId nonceHex ciphertextHex aeadTagHex : String)
  | tryDecryptFile (now : UInt64) (saveReceivedFile : String → Bytes → Except String String)
      (packetId nonceHex ciphertextHex aeadTagHex : String)
  | getMessages (now : UInt64) (peerId : String) (limit : Option Nat)

def Activity.IsCommand : Activity → Prop
  | .receive .. => False
  | .sendDm .. | .sendFile .. | .sendBroadcast .. | .tryDecrypt .. | .tryDecryptFile ..
  | .getMessages .. => True

variable {crates : Crates}

def AppState.perform (node : AppState crates) : Activity → AppState crates
  | .receive env raw senderKey kind => (processIncomingPacket node env raw senderKey kind).1
  | .sendDm env recipientId plaintext replyToId replyToText =>
    (Caraka.sendDm node env recipientId plaintext replyToId replyToText).node
  | .sendFile env recipientId file => (Caraka.sendFile node env recipientId file).node
  | .sendBroadcast env text => (Caraka.sendBroadcast node env text).node
  | .tryDecrypt now packetId nonceHex ciphertextHex aeadTagHex =>
    (tryDecryptPacket node now packetId nonceHex ciphertextHex aeadTagHex).node
  | .tryDecryptFile now saveReceivedFile packetId nonceHex ciphertextHex aeadTagHex =>
    (tryDecryptFilePacket node now saveReceivedFile packetId nonceHex ciphertextHex
      aeadTagHex).node
  | .getMessages now peerId limit => (Caraka.getMessages node now peerId limit).1

/-- The node after a run of activities. -/
def AppState.live (node : AppState crates) (activities : List Activity) : AppState crates :=
  run AppState.perform node activities

theorem AppState.live_cons (node : AppState crates) (activity : Activity)
    (activities : List Activity) :
    node.live (activity :: activities) = (node.perform activity).live activities := rfl

/-- What no activity undoes: the identity stays, and so do known peers and rows whose counter
is recorded. -/
structure Evolves (node later : AppState crates) : Prop where
  identity_eq : later.identity = node.identity
  peers_kept : ∀ peerId, (node.store.peers.get? peerId).isSome →
    (later.store.peers.get? peerId).isSome
  rows_kept : ∀ row ∈ node.store.messages.rows, 0 ≤ row.msgCounter →
    row ∈ later.store.messages.rows

theorem Evolves.refl (node : AppState crates) : Evolves node node where
  identity_eq := rfl
  peers_kept _ known := known
  rows_kept _ present _ := present

theorem Evolves.trans {node middle later : AppState crates} (first : Evolves node middle)
    (second : Evolves middle later) : Evolves node later where
  identity_eq := second.identity_eq.trans first.identity_eq
  peers_kept peerId known := second.peers_kept peerId (first.peers_kept peerId known)
  rows_kept row present recorded :=
    second.rows_kept row (first.rows_kept row present recorded) recorded

structure Keeps (node later : AppState crates) : Prop where
  identity_eq : later.identity = node.identity
  displayName_eq : later.displayName = node.displayName
  peers_eq : later.store.peers = node.store.peers
  rows_kept : ∀ row ∈ node.store.messages.rows, 0 ≤ row.msgCounter →
    row ∈ later.store.messages.rows

theorem Keeps.refl (node : AppState crates) : Keeps node node :=
  ⟨rfl, rfl, rfl, fun _ present _ => present⟩

theorem Keeps.of_messages {node later : AppState crates}
    (identity_eq : later.identity = node.identity)
    (displayName_eq : later.displayName = node.displayName)
    (peers_eq : later.store.peers = node.store.peers)
    (same : later.store.messages = node.store.messages) : Keeps node later where
  identity_eq := identity_eq
  displayName_eq := displayName_eq
  peers_eq := peers_eq
  rows_kept row present _ := by rwa [same]

theorem Keeps.evolves {node later : AppState crates} (keeps : Keeps node later) :
    Evolves node later where
  identity_eq := keeps.identity_eq
  peers_kept _ known := by rwa [keeps.peers_eq]
  rows_kept := keeps.rows_kept

section Steps

variable (node : AppState crates)

theorem frame_handleRouted (env : ReceiveEnv) (packet : ClampPacket) (senderKey : String) :
    (handleRouted node env packet senderKey).1.identity = node.identity ∧
      (handleRouted node env packet senderKey).1.displayName = node.displayName ∧
      (handleRouted node env packet senderKey).1.store = node.store := by
  rw [handleRouted]
  split
  · exact ⟨rfl, rfl, rfl⟩
  · split <;> exact ⟨rfl, rfl, rfl⟩

theorem frame_handleBroadcast (packet : ClampPacket) (senderKey : String) :
    (handleBroadcast node packet senderKey).1.identity = node.identity ∧
      (handleBroadcast node packet senderKey).1.displayName = node.displayName ∧
      (handleBroadcast node packet senderKey).1.store = node.store := by
  simp only [handleBroadcast]
  split
  · exact ⟨rfl, rfl, rfl⟩
  · split
    · exact ⟨rfl, rfl, rfl⟩
    · split <;> exact ⟨rfl, rfl, rfl⟩

theorem keeps_processIncomingPacket (env : ReceiveEnv) {raw : Bytes} (senderKey : String)
    (kind : ConnKind) (other : ∀ packet, ClampPacket.decode raw = .ok packet →
      packet.header.packetType ≠ .hello) :
    Keeps node (processIncomingPacket node env raw senderKey kind).1 ∧
      (processIncomingPacket node env raw senderKey kind).1.store.sessions =
        node.store.sessions := by
  rw [processIncomingPacket]
  cases read : ClampPacket.decode raw with
  | error e => exact ⟨Keeps.refl node, rfl⟩
  | ok packet =>
      have untouched : ∀ {later : AppState crates}, later.identity = node.identity →
          later.displayName = node.displayName → later.store = node.store →
          Keeps node later ∧ later.store.sessions = node.store.sessions := by
        intro later identity name store
        exact ⟨.of_messages identity name (by rw [store]) (by rw [store]), by rw [store]⟩
      have routed : Keeps node (handleRouted node env packet senderKey).1 ∧
          (handleRouted node env packet senderKey).1.store.sessions = node.store.sessions := by
        rcases frame_handleRouted node env packet senderKey with ⟨identity, name, store⟩
        exact untouched identity name store
      dsimp only
      cases type : packet.header.packetType with
      | syncReq => exact untouched rfl rfl rfl
      | syncResp => exact untouched rfl rfl rfl
      | syncData =>
          simp only [handleSyncData]
          split
          · exact untouched rfl rfl rfl
          · exact ⟨⟨rfl, rfl, rfl, fun _ present _ => Messages.subset_insertOrIgnore present⟩, rfl⟩
      | hello => exact absurd type (other packet read)
      | broadcast =>
          rcases frame_handleBroadcast node packet senderKey with ⟨identity, name, store⟩
          exact untouched identity name store
      | dm => exact routed
      | channel => exact routed
      | file => exact routed

theorem processIncomingPacket_hello {raw : Bytes} {packet : ClampPacket}
    (read : ClampPacket.decode raw = .ok packet) (hello : packet.header.packetType = .hello)
    (env : ReceiveEnv) (senderKey : String) (kind : ConnKind) :
    processIncomingPacket node env raw senderKey kind = handleHello node env packet kind := by
  simp only [processIncomingPacket, read, hello]

theorem evolves_processIncomingPacket (env : ReceiveEnv) (raw : Bytes) (senderKey : String)
    (kind : ConnKind) :
    Evolves node (processIncomingPacket node env raw senderKey kind).1 ∧
      (processIncomingPacket node env raw senderKey kind).1.store.sessions =
        node.store.sessions := by
  by_cases greets : ∃ packet, ClampPacket.decode raw = .ok packet ∧
      packet.header.packetType = .hello
  · rcases greets with ⟨packet, read, hello⟩
    rw [processIncomingPacket_hello node read hello]
    exact ⟨⟨rfl, fun _ known => Store.isSome_upsertPeer known, fun _ present _ => present⟩, rfl⟩
  · have keeps := keeps_processIncomingPacket node env senderKey kind
      fun packet read hello => greets ⟨packet, read, hello⟩
    exact ⟨keeps.1.evolves, keeps.2⟩

theorem messages_processIncomingPacket (env : ReceiveEnv) {raw : Bytes} (senderKey : String)
    (kind : ConnKind) (other : ∀ packet, ClampPacket.decode raw = .ok packet →
      packet.header.packetType ≠ .syncData) :
    (processIncomingPacket node env raw senderKey kind).1.store.messages =
      node.store.messages := by
  rw [processIncomingPacket]
  cases read : ClampPacket.decode raw with
  | error e => rfl
  | ok packet =>
      dsimp only
      cases type : packet.header.packetType with
      | syncData => exact absurd type (other packet read)
      | broadcast =>
          dsimp only
          rw [(frame_handleBroadcast node packet senderKey).2.2]
      | dm | channel | file =>
          dsimp only
          rw [(frame_handleRouted node env packet senderKey).2.2]
      | syncReq | syncResp | hello => rfl

theorem keeps_sendDm (env : SendEnv) (recipientId plaintext : String)
    (replyToId replyToText : Option String) :
    Keeps node (sendDm node env recipientId plaintext replyToId replyToText).node := by
  have ended := sendDm_end node env recipientId plaintext replyToId replyToText
  generalize sendDm node env recipientId plaintext replyToId replyToText = outcome at ended ⊢
  cases ended with
  | refused => exact Keeps.refl node
  | opened =>
      exact ⟨rfl, rfl, peers_openedStore .., fun _ present _ => mem_openedStore present⟩
  | @saved peerPub packet | @counted peerPub packet | @sent peerPub packet =>
      exact ⟨rfl, rfl, peers_savedStore node env recipientId peerPub packet,
        fun _ present _ => mem_savedStore present⟩

theorem messages_sendFile (env : SendEnv) (recipientId : String) (file : DiskFile) :
    (sendFile node env recipientId file).node.store.messages = node.store.messages := by
  have ended := sendFile_end node env recipientId file
  generalize sendFile node env recipientId file = outcome at ended ⊢
  cases ended with
  | refused => rfl
  | opened | counted | sent => exact messages_openedStore ..

theorem messages_tryDecryptFilePacket (now : UInt64)
    (saveReceivedFile : String → Bytes → Except String String)
    (packetId nonceHex ciphertextHex aeadTagHex : String) :
    (tryDecryptFilePacket node now saveReceivedFile packetId nonceHex ciphertextHex
      aeadTagHex).node.store.messages = node.store.messages := by
  have ended := tryDecryptFilePacket_end node now saveReceivedFile packetId nonceHex ciphertextHex
    aeadTagHex
  generalize tryDecryptFilePacket node now saveReceivedFile packetId nonceHex ciphertextHex
    aeadTagHex = outcome at ended ⊢
  cases ended with
  | malformed => rfl
  | missed parsed search | unsaved error parsed search | returned parsed search =>
      exact (frame_of_search search).1

theorem keeps_sendFile (env : SendEnv) (recipientId : String) (file : DiskFile) :
    Keeps node (sendFile node env recipientId file).node := by
  have messages := messages_sendFile node env recipientId file
  have ended := sendFile_end node env recipientId file
  generalize sendFile node env recipientId file = outcome at messages ended ⊢
  cases ended with
  | refused => exact Keeps.refl node
  | opened | counted | sent => exact .of_messages rfl rfl (peers_openedStore ..) messages

theorem keeps_sendBroadcast (env : SendEnv) (text : String) :
    Keeps node (sendBroadcast node env text).node := by
  rw [sendBroadcast]
  split
  · exact Keeps.refl node
  · split
    · exact Keeps.refl node
    · exact ⟨rfl, rfl, rfl, fun _ present _ => present⟩

theorem keeps_tryDecryptPacket (now : UInt64)
    (packetId nonceHex ciphertextHex aeadTagHex : String) :
    Keeps node (tryDecryptPacket node now packetId nonceHex ciphertextHex aeadTagHex).node := by
  have ended := tryDecryptPacket_end node now packetId nonceHex ciphertextHex aeadTagHex
  generalize tryDecryptPacket node now packetId nonceHex ciphertextHex aeadTagHex = outcome
    at ended ⊢
  cases ended with
  | malformed => exact Keeps.refl node
  | missed parsed search | panicked parsed search =>
      have frame := frame_of_search search
      exact .of_messages rfl rfl frame.2 frame.1
  | returned parsed search saved =>
      have frame := frame_of_search search
      exact ⟨rfl, rfl, frame.2, fun row present _ =>
        Messages.subset_insertOrIgnore (by rwa [frame.1])⟩

theorem keeps_tryDecryptFilePacket (now : UInt64)
    (saveReceivedFile : String → Bytes → Except String String)
    (packetId nonceHex ciphertextHex aeadTagHex : String) :
    Keeps node (tryDecryptFilePacket node now saveReceivedFile packetId nonceHex ciphertextHex
      aeadTagHex).node := by
  have messages := messages_tryDecryptFilePacket node now saveReceivedFile packetId nonceHex
    ciphertextHex aeadTagHex
  have ended := tryDecryptFilePacket_end node now saveReceivedFile packetId nonceHex ciphertextHex
    aeadTagHex
  generalize tryDecryptFilePacket node now saveReceivedFile packetId nonceHex ciphertextHex
    aeadTagHex = outcome at messages ended ⊢
  cases ended with
  | malformed => exact Keeps.refl node
  | missed parsed search | unsaved error parsed search | returned parsed search =>
      exact .of_messages rfl rfl (frame_of_search search).2 messages

theorem keeps_getMessages (now : UInt64) (peerId : String) (limit : Option Nat) :
    Keeps node (getMessages node now peerId limit).1 := by
  rw [getMessages]
  dsimp only
  split
  · exact Keeps.refl node
  · split
    · exact Keeps.refl node
    · rename_i peerPub _
      obtain ⟨peers, -, kept⟩ :=
        @showRows_frame crates node.identity now peerPub _ _ _ (node.store.getMessagesBetween
          node.identity.nodeIdHex peerId (min (limit.getD 50) 200)) (node.store.getOrCreateSession
          crates peerId (ecdh crates node.identity.myPrivateKey peerPub)).2
      refine ⟨rfl, rfl, peers.trans (Store.peers_getOrCreateSession ..),
        fun row present recorded => kept row ?_ ?_⟩
      · rwa [Store.messages_getOrCreateSession]
      · intro msg member same
        have stored := (Store.mem_getMessagesBetween member).1
        rwa [List.inj_on_of_nodup_map node.store.messages.ids_nodup stored present same]

end Steps

theorem keeps_command (node : AppState crates) {activity : Activity} (asked : activity.IsCommand) :
    Keeps node (node.perform activity) := by
  cases activity with
  | receive => cases asked
  | sendDm => exact keeps_sendDm ..
  | sendFile => exact keeps_sendFile ..
  | sendBroadcast => exact keeps_sendBroadcast ..
  | tryDecrypt => exact keeps_tryDecryptPacket ..
  | tryDecryptFile => exact keeps_tryDecryptFilePacket ..
  | getMessages => exact keeps_getMessages ..

theorem evolves_perform (node : AppState crates) (activity : Activity) :
    Evolves node (node.perform activity) := by
  by_cases asked : activity.IsCommand
  · exact (keeps_command node asked).evolves
  · cases activity with
    | receive => exact (evolves_processIncomingPacket ..).1
    | sendDm | sendFile | sendBroadcast | tryDecrypt | tryDecryptFile | getMessages =>
        exact absurd trivial asked

theorem evolves_live (node : AppState crates) (activities : List Activity) :
    Evolves node (node.live activities) :=
  @run_induction _ _ AppState.perform (Evolves node) (fun state activity evolves =>
    evolves.trans (evolves_perform state activity)) node activities (Evolves.refl node)

end Caraka
