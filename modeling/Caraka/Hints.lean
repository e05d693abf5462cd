import Caraka.Activity

/-! The counters a node opens over a run, and the window that follows them. -/

namespace Caraka

open Foundation

variable {crates : Crates}

def AppState.opened (node : AppState crates) : Activity → Option (String × Nat)
  | .tryDecrypt now packetId nonceHex ciphertextHex aeadTagHex =>
    match parsePresented packetId nonceHex ciphertextHex aeadTagHex with
    | .error _ => none
    | .ok presented =>
      match (searchPeers crates crates.dmFromSlice .dm node.identity now presented
          node.store.getAllPeers node.store).1 with
      | none => none
      | some found =>
        (receivedRow now packetId presented found).map fun _ => (found.peer.nodeId, found.counter)
  | .tryDecryptFile now _ packetId nonceHex ciphertextHex aeadTagHex =>
    match parsePresented packetId nonceHex ciphertextHex aeadTagHex with
    | .error _ => none
    | .ok presented =>
      (searchPeers crates crates.fileFromSlice .file node.identity now presented
        node.store.getAllPeers node.store).1.map fun found => (found.peer.nodeId, found.counter)
  | .receive .. | .sendDm .. | .sendFile .. | .sendBroadcast .. | .getMessages .. => none

theorem opened_of_search {node : AppState crates} {now : UInt64}
    {packetId nonceHex ciphertextHex aeadTagHex : String} {presented : Presented}
    {found : Found DmInnerPayload} {row : StoredMessage}
    (parsed : parsePresented packetId nonceHex ciphertextHex aeadTagHex = .ok presented)
    (search : (searchPeers crates crates.dmFromSlice .dm node.identity now presented
      node.store.getAllPeers node.store).1 = some found)
    (saved : receivedRow now packetId presented found = some row) :
    node.opened (.tryDecrypt now packetId nonceHex ciphertextHex aeadTagHex) =
      some (found.peer.nodeId, found.counter) := by
  simp only [AppState.opened, parsed, search, saved, Option.map_some]

def nextCounter (peerId : String) (hint : Nat) (opened : String × Nat) : Nat :=
  if peerId = opened.1 then max hint (opened.2 + 1) else hint

variable {node : AppState crates} {peerId : String} {peerPub : NodePublicKey}

theorem recvHint_congr {identity : Identity crates} {store other : Store}
    (same : other.sessions = store.sessions) :
    recvHint identity other peerId peerPub = recvHint identity store peerId peerPub := by
  rw [recvHint, sessionOf, Store.openedSession, same]
  rfl

theorem recvHint_openedStore {recipientId : String} {recipientPub : NodePublicKey}
    (known : parseNodeId peerId = some peerPub)
    (recipientKnown : parseNodeId recipientId = some recipientPub) :
    recvHint node.identity (openedStore node recipientId recipientPub) peerId peerPub =
      recvHint node.identity node.store peerId peerPub :=
  recvHint_getOrCreateSession node.store recipientKnown known

section Steps

variable (node) (known : parseNodeId peerId = some peerPub)

include known

theorem recvHint_sendDm (env : SendEnv) (recipientId plaintext : String)
    (replyToId replyToText : Option String) :
    recvHint node.identity
        (sendDm node env recipientId plaintext replyToId replyToText).node.store peerId peerPub =
      recvHint node.identity node.store peerId peerPub := by
  have ended := sendDm_end node env recipientId plaintext replyToId replyToText
  generalize sendDm node env recipientId plaintext replyToId replyToText = outcome at ended ⊢
  cases ended with
  | refused => rfl
  | opened error recipientKnown => exact recvHint_openedStore known recipientKnown
  | saved error recipientKnown => exact recvHint_openedStore known recipientKnown
  | counted error recipientKnown =>
      exact (recvHint_increment _ _ _ _).trans (recvHint_openedStore known recipientKnown)
  | sent events notBlank short recipientKnown =>
      exact (recvHint_increment _ _ _ _).trans (recvHint_openedStore known recipientKnown)

theorem recvHint_sendFile (env : SendEnv) (recipientId : String) (file : DiskFile) :
    recvHint node.identity (sendFile node env recipientId file).node.store peerId peerPub =
      recvHint node.identity node.store peerId peerPub := by
  have ended := sendFile_end node env recipientId file
  generalize sendFile node env recipientId file = outcome at ended ⊢
  cases ended with
  | refused => rfl
  | opened error recipientKnown => exact recvHint_openedStore known recipientKnown
  | counted error recipientKnown =>
      exact (recvHint_increment _ _ _ _).trans (recvHint_openedStore known recipientKnown)
  | sent events read recipientKnown =>
      exact (recvHint_increment _ _ _ _).trans (recvHint_openedStore known recipientKnown)

theorem recvHint_search {α : Type} {parse : Bytes → Option α} {packetType : PacketType}
    {now : UInt64} {presented : Presented} {result : Option (Found α)} {store : Store}
    (search : searchPeers crates parse packetType node.identity now presented
      node.store.getAllPeers node.store = (result, store)) :
    recvHint node.identity store peerId peerPub =
      recvHint node.identity node.store peerId peerPub := by
  rcases congrArg Prod.snd search with rfl
  exact congrArg Session.recvCounterHint (sessionOf_searchPeers _ _ known)

theorem recvHint_found {α : Type} {parse : Bytes → Option α} {packetType : PacketType}
    {now : UInt64} {presented : Presented} {found : Found α} {store bumped : Store}
    (search : searchPeers crates parse packetType node.identity now presented
      node.store.getAllPeers node.store = (some found, store))
    (same : bumped.sessions =
      (store.bumpRecvCounterHint found.peer.nodeId (found.counter + 1)).sessions) :
    recvHint node.identity bumped peerId peerPub =
      nextCounter peerId (recvHint node.identity node.store peerId peerPub)
        (found.peer.nodeId, found.counter) := by
  rcases searchPeers_some search with ⟨-, foundKnown, -, -, -, row⟩
  obtain rfl : (searchPeers crates parse packetType node.identity now presented
    node.store.getAllPeers node.store).2 = store := congrArg Prod.snd search
  rw [← sessionOf_searchPeers _ _ foundKnown] at row
  rw [recvHint_congr same, recvHint_bump _ foundKnown known row, recvHint_search node known search]
  rfl

theorem recvHint_tryDecryptPacket (now : UInt64)
    (packetId nonceHex ciphertextHex aeadTagHex : String) :
    recvHint node.identity
        (tryDecryptPacket node now packetId nonceHex ciphertextHex aeadTagHex).node.store peerId
        peerPub =
      (node.opened (.tryDecrypt now packetId nonceHex ciphertextHex aeadTagHex)).toList.foldl
        (nextCounter peerId) (recvHint node.identity node.store peerId peerPub) := by
  have ended := tryDecryptPacket_end node now packetId nonceHex ciphertextHex aeadTagHex
  generalize tryDecryptPacket node now packetId nonceHex ciphertextHex aeadTagHex = outcome
    at ended ⊢
  cases ended with
  | malformed parsed => simp [AppState.opened, parsed]
  | missed parsed search =>
      simpa [AppState.opened, parsed, search] using recvHint_search node known search
  | panicked parsed search uncut =>
      simpa [AppState.opened, parsed, search, uncut] using recvHint_search node known search
  | @returned presented found store row parsed search saved =>
      rw [opened_of_search parsed (congrArg Prod.fst search) saved]
      exact recvHint_found node known search rfl

theorem recvHint_tryDecryptFilePacket (now : UInt64)
    (saveReceivedFile : String → Bytes → Except String String)
    (packetId nonceHex ciphertextHex aeadTagHex : String) :
    recvHint node.identity (tryDecryptFilePacket node now saveReceivedFile packetId nonceHex
        ciphertextHex aeadTagHex).node.store peerId peerPub =
      (node.opened (.tryDecryptFile now saveReceivedFile packetId nonceHex ciphertextHex
        aeadTagHex)).toList.foldl (nextCounter peerId)
          (recvHint node.identity node.store peerId peerPub) := by
  have ended := tryDecryptFilePacket_end node now saveReceivedFile packetId nonceHex ciphertextHex
    aeadTagHex
  generalize tryDecryptFilePacket node now saveReceivedFile packetId nonceHex ciphertextHex
    aeadTagHex = outcome at ended ⊢
  cases ended with
  | malformed parsed => simp [AppState.opened, parsed]
  | missed parsed search =>
      simpa [AppState.opened, parsed, search] using recvHint_search node known search
  | unsaved error parsed search =>
      simpa [AppState.opened, parsed, search] using recvHint_found node known search rfl
  | returned parsed search =>
      simpa [AppState.opened, parsed, search] using recvHint_found node known search rfl

theorem recvHint_getMessages (now : UInt64) (requested : String) (limit : Option Nat) :
    recvHint node.identity (getMessages node now requested limit).1.store peerId peerPub =
      recvHint node.identity node.store peerId peerPub := by
  rw [getMessages]
  dsimp only
  split
  · rfl
  · rename_i bytes decoded
    split
    · rfl
    · rename_i requestedPub parsed
      have requestedKnown : parseNodeId requested = some requestedPub := by
        simp [parseNodeId, decoded, parsed]
      obtain ⟨-, sessions, -⟩ :=
        @showRows_frame crates node.identity now requestedPub _ _ _ (node.store.getMessagesBetween
          node.identity.nodeIdHex requested (min (limit.getD 50) 200))
          (node.store.getOrCreateSession crates requested (ecdh crates node.identity.myPrivateKey
          requestedPub)).2
      exact (recvHint_congr sessions).trans
        (recvHint_getOrCreateSession node.store requestedKnown known)

theorem recvHint_perform (activity : Activity) :
    recvHint (node.perform activity).identity (node.perform activity).store peerId peerPub =
      (node.opened activity).toList.foldl (nextCounter peerId)
        (recvHint node.identity node.store peerId peerPub) := by
  rw [(evolves_perform node activity).identity_eq]
  cases activity with
  | receive => exact recvHint_congr (evolves_processIncomingPacket ..).2
  | sendDm => exact recvHint_sendDm node known ..
  | sendFile => exact recvHint_sendFile node known ..
  | sendBroadcast env text =>
      apply recvHint_congr
      rw [AppState.perform, store_sendBroadcast]
  | tryDecrypt => exact recvHint_tryDecryptPacket node known ..
  | tryDecryptFile => exact recvHint_tryDecryptFilePacket node known ..
  | getMessages => exact recvHint_getMessages node known ..

/-- Over a run the hint follows the largest counter opened from the peer, and nothing else. -/
theorem recvHint_live (activities : List Activity) :
    recvHint (node.live activities).identity (node.live activities).store peerId peerPub =
      (emitted AppState.perform AppState.opened node activities).foldl (nextCounter peerId)
        (recvHint node.identity node.store peerId peerPub) :=
  @view_run _ _ AppState.perform _ _
    (fun state => recvHint state.identity state.store peerId peerPub) AppState.opened
    (nextCounter peerId) (fun state activity => recvHint_perform state known activity) node
    activities

end Steps

end Caraka
