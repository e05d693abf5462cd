import Caraka.Hints

/-! What a call that completes may do to the rows of the `sessions` table. -/

namespace Caraka

open Foundation

variable {crates : Crates}

/-- The row `get_or_create_session` writes for a peer it has none of. -/
def zeroRow (identity : Identity crates) (peerPub : NodePublicKey) : Session :=
  ⟨(deriveSessionId crates (ecdh crates identity.myPrivateKey peerPub)).bytes, 0, 0⟩

def Derived (identity : Identity crates) (store : Store) : Prop :=
  ∀ peerId row, store.sessions.get? peerId = some row →
    ∃ peerPub, parseNodeId peerId = some peerPub ∧
      row.sessionId = (zeroRow identity peerPub).sessionId

def Extends (identity : Identity crates) (store after : Store) : Prop :=
  ∀ peerId, after.sessions.get? peerId = store.sessions.get? peerId ∨
    store.sessions.get? peerId = none ∧
      ∃ peerPub, parseNodeId peerId = some peerPub ∧
        after.sessions.get? peerId = some (zeroRow identity peerPub)

/-- The peer a send went out to. -/
def AppState.sentTo (node : AppState crates) : Activity → Option String
  | .sendDm env recipientId plaintext replyToId replyToText =>
    (Caraka.sendDm node env recipientId plaintext replyToId replyToText).result.toOption.map
      fun _ => recipientId
  | .sendFile env recipientId file =>
    (Caraka.sendFile node env recipientId file).result.toOption.map fun _ => recipientId
  | .receive .. | .sendBroadcast .. | .tryDecrypt .. | .tryDecryptFile .. | .getMessages .. => none

/-- The peer and the counter of the key under which a presented packet authenticated and its
payload parsed. -/
def AppState.authenticated (node : AppState crates) : Activity → Option (String × Nat)
  | .tryDecrypt now packetId nonceHex ciphertextHex aeadTagHex =>
    (parsePresented packetId nonceHex ciphertextHex aeadTagHex).toOption.bind fun presented =>
      (searchPeers crates crates.dmFromSlice .dm node.identity now presented
        node.store.getAllPeers node.store).1.map fun found => (found.peer.nodeId, found.counter)
  | .tryDecryptFile now _ packetId nonceHex ciphertextHex aeadTagHex =>
    (parsePresented packetId nonceHex ciphertextHex aeadTagHex).toOption.bind fun presented =>
      (searchPeers crates crates.fileFromSlice .file node.identity now presented
        node.store.getAllPeers node.store).1.map fun found => (found.peer.nodeId, found.counter)
  | .receive .. | .sendDm .. | .sendFile .. | .sendBroadcast .. | .getMessages .. => none

theorem authenticated_of_search {node : AppState crates} {now : UInt64}
    {packetId nonceHex ciphertextHex aeadTagHex : String} {presented : Presented}
    {found : Found DmInnerPayload} {store : Store}
    (parsed : parsePresented packetId nonceHex ciphertextHex aeadTagHex = .ok presented)
    (search : searchPeers crates crates.dmFromSlice .dm node.identity now presented
      node.store.getAllPeers node.store = (some found, store)) :
    node.authenticated (.tryDecrypt now packetId nonceHex ciphertextHex aeadTagHex) =
      some (found.peer.nodeId, found.counter) := by
  simp [AppState.authenticated, parsed, search, Except.toOption]

/-- The packet handed to a command opens under the DM key of a peer and a counter. -/
def AppState.OpensUnder (node : AppState crates) (peerPub : NodePublicKey) (counter : Nat) :
    Activity → Prop
  | .tryDecrypt _ packetId nonceHex ciphertextHex aeadTagHex =>
    ∃ presented payload, parsePresented packetId nonceHex ciphertextHex aeadTagHex = .ok presented ∧
      OpensAs crates.dmFromSlice .dm node.identity presented peerPub counter payload
  | .tryDecryptFile _ _ packetId nonceHex ciphertextHex aeadTagHex =>
    ∃ presented payload, parsePresented packetId nonceHex ciphertextHex aeadTagHex = .ok presented ∧
      OpensAs crates.fileFromSlice .file node.identity presented peerPub counter payload
  | .receive .. | .sendDm .. | .sendFile .. | .sendBroadcast .. | .getMessages .. => False

theorem opensUnder_of_search {α : Type} {parse : Bytes → Option α} {packetType : PacketType}
    {identity : Identity crates} {now : UInt64} {store : Store} {peerId : String} {counter : Nat}
    {parsed : Except String Presented}
    (searched : (parsed.toOption.bind fun presented =>
      (searchPeers crates parse packetType identity now presented store.getAllPeers store).1.map
        fun found => (found.peer.nodeId, found.counter)) = some (peerId, counter)) :
    ∃ peerPub, parseNodeId peerId = some peerPub ∧ ∃ presented payload, parsed = .ok presented ∧
      OpensAs parse packetType identity presented peerPub counter payload := by
  rcases Option.bind_eq_some_iff.mp searched with ⟨presented, read, mapped⟩
  rcases Option.map_eq_some_iff.mp mapped with ⟨found, search, same⟩
  cases same
  cases parsed with
  | error refused => cases read
  | ok packet =>
      cases read
      have facts := searchPeers_some (Prod.ext search rfl)
      exact ⟨_, facts.2.1, _, _, rfl, facts.2.2.2.2.1⟩

theorem opensUnder_of_authenticated {node : AppState crates} {activity : Activity}
    {peerId : String} {counter : Nat}
    (authenticated : node.authenticated activity = some (peerId, counter)) :
    ∃ peerPub, parseNodeId peerId = some peerPub ∧ node.OpensUnder peerPub counter activity := by
  cases activity with
  | receive | sendDm | sendFile | sendBroadcast | getMessages => cases authenticated
  | tryDecrypt | tryDecryptFile => exact opensUnder_of_search authenticated

/-- The call meets no storage failure and does not panic. -/
def AppState.Completes (node : AppState crates) : Activity → Prop
  | .sendDm env .. => env.faults = SendFaults.none
  | .sendFile env .. => env.faults = SendFaults.none
  | .tryDecrypt now packetId nonceHex ciphertextHex aeadTagHex =>
    (tryDecryptPacket node now packetId nonceHex ciphertextHex aeadTagHex).result ≠ .error .panic
  | .receive .. | .sendBroadcast .. | .tryDecryptFile .. | .getMessages .. => True

/-- All that a completed call may do to the sessions: open rows, and then count one message sent
or move one hint. -/
inductive SessionStep (identity : Identity crates) (store : Store) :
    Option String → Option (String × Nat) → Store → Prop where
  | opened {after : Store} (opens : Extends identity store after) :
      SessionStep identity store none none after
  | sent {middle after : Store} {peerId : String} {row : Session}
      (opens : Extends identity store middle)
      (present : middle.sessions.get? peerId = some row)
      (counted : after.sessions = (middle.incrementMsgCounter peerId).sessions) :
      SessionStep identity store (some peerId) none after
  | received {middle after : Store} {peerId : String} {counter : Nat} {row : Session}
      (opens : Extends identity store middle)
      (present : middle.sessions.get? peerId = some row)
      (bumped : after.sessions = (middle.bumpRecvCounterHint peerId (counter + 1)).sessions) :
      SessionStep identity store none (some (peerId, counter)) after

section Rows

variable {identity : Identity crates} {store middle after : Store}

theorem extends_refl (store : Store) : Extends identity store store := fun _ => .inl rfl

theorem extends_of_sessions (same : after.sessions = store.sessions) :
    Extends identity store after := fun peerId => .inl (by rw [same])

theorem Extends.trans (first : Extends identity store middle)
    (second : Extends identity middle after) : Extends identity store after := by
  intro peerId
  rcases second peerId with same | ⟨absent, new⟩
  · rw [same]
    exact first peerId
  · rcases first peerId with kept | ⟨_, _, _, present⟩
    · exact .inr ⟨kept.symm.trans absent, new⟩
    · rw [present] at absent
      cases absent

theorem Extends.derived (opens : Extends identity store after)
    (derived : Derived identity store) : Derived identity after := by
  intro peerId row present
  rcases opens peerId with same | ⟨_, peerPub, known, new⟩
  · exact derived peerId row (same ▸ present)
  · rw [new, Option.some.injEq] at present
    exact ⟨peerPub, known, by rw [present]⟩

theorem extends_getOrCreateSession (derived : Derived identity store) {peerId : String}
    {peerPub : NodePublicKey} (known : parseNodeId peerId = some peerPub) :
    Extends identity store (store.getOrCreateSession crates peerId
      (ecdh crates identity.myPrivateKey peerPub)).2 := by
  intro other
  rw [Store.get?_getOrCreateSession]
  split_ifs with own
  · rw [own]
    cases present : store.sessions.get? peerId with
    | none =>
        refine .inr ⟨rfl, peerPub, known, ?_⟩
        rw [Store.openedSession, present]
        rfl
    | some row =>
        rcases derived peerId row present with ⟨rowPub, spelled, bears⟩
        obtain rfl : peerPub = rowPub := Option.some.inj (known.symm.trans spelled)
        have current : (tryInto 8 row.sessionId).getD (Octets.zero 8) =
            deriveSessionId crates (ecdh crates identity.myPrivateKey peerPub) := by
          rw [bears, zeroRow, tryInto_bytes, Option.getD_some]
        left
        rw [Store.openedSession, present]
        exact congrArg some (if_pos current)
  · exact .inl rfl

theorem extends_searchPeers {α : Type} {parse : Bytes → Option α} {packetType : PacketType}
    {now : UInt64} {presented : Presented} (peers : List PeerRecord)
    (derived : Derived identity store) :
    Extends identity store
      (searchPeers crates parse packetType identity now presented peers store).2 := by
  induction peers generalizing store with
  | nil => exact extends_refl store
  | cons peer peers ih =>
      cases known : parseNodeId peer.nodeId with
      | none =>
          rw [searchPeers_skip peer peers store known]
          exact ih derived
      | some peerPub =>
          have opens := extends_getOrCreateSession derived known
          rw [searchPeers_cons peer peers store known]
          split
          · exact opens
          · exact opens.trans (ih (opens.derived derived))

end Rows

section Steps

variable {node : AppState crates} (derived : Derived node.identity node.store)

include derived

theorem sessionStep_sendDm {env : SendEnv} (noFault : env.faults = SendFaults.none)
    (recipientId plaintext : String) (replyToId replyToText : Option String) :
    SessionStep node.identity node.store
      ((sendDm node env recipientId plaintext replyToId replyToText).result.toOption.map
        fun _ => recipientId) none
      (sendDm node env recipientId plaintext replyToId replyToText).node.store := by
  generalize outcome : sendDm node env recipientId plaintext replyToId replyToText = result
  simp only [sendDm, noFault, SendFaults.none] at outcome
  have refused : ∀ {error}, SendOutcome.fail node error = result →
      SessionStep node.identity node.store (result.result.toOption.map fun _ => recipientId) none
        result.node.store := by
    intro error same
    rw [← same]
    exact .opened (extends_refl node.store)
  split at outcome
  · exact refused outcome
  split at outcome
  · exact refused outcome
  split at outcome
  · exact refused outcome
  rename_i bytes decoded
  split at outcome
  · exact refused outcome
  rename_i peerPub parsed
  have known : parseNodeId recipientId = some peerPub := by simp [parseNodeId, decoded, parsed]
  have opens := extends_getOrCreateSession derived known
  split at outcome
  · rw [← outcome]
    exact .opened opens
  · have present := Store.get?_getOrCreateSession crates node.store recipientId recipientId
      (ecdh crates node.identity.myPrivateKey peerPub)
    rw [if_pos rfl] at present
    rw [← outcome]
    exact .sent opens present rfl

theorem sessionStep_sendFile {env : SendEnv} (noFault : env.faults = SendFaults.none)
    (recipientId : String) (file : DiskFile) :
    SessionStep node.identity node.store
      ((sendFile node env recipientId file).result.toOption.map fun _ => recipientId) none
      (sendFile node env recipientId file).node.store := by
  generalize outcome : sendFile node env recipientId file = result
  simp only [sendFile, noFault, SendFaults.none] at outcome
  have refused : ∀ {error}, SendOutcome.fail node error = result →
      SessionStep node.identity node.store (result.result.toOption.map fun _ => recipientId) none
        result.node.store := by
    intro error same
    rw [← same]
    exact .opened (extends_refl node.store)
  split at outcome
  · exact refused outcome
  split at outcome
  · exact refused outcome
  rename_i bytes decoded
  split at outcome
  · exact refused outcome
  rename_i peerPub parsed
  have known : parseNodeId recipientId = some peerPub := by simp [parseNodeId, decoded, parsed]
  have opens := extends_getOrCreateSession derived known
  split at outcome
  · rw [← outcome]
    exact .opened opens
  · have present := Store.get?_getOrCreateSession crates node.store recipientId recipientId
      (ecdh crates node.identity.myPrivateKey peerPub)
    rw [if_pos rfl] at present
    rw [← outcome]
    exact .sent opens present rfl

theorem extends_of_search {α : Type} {parse : Bytes → Option α} {packetType : PacketType}
    {now : UInt64} {presented : Presented} {found : Option (Found α)} {store : Store}
    (search : searchPeers crates parse packetType node.identity now presented
      node.store.getAllPeers node.store = (found, store)) :
    Extends node.identity node.store store := by
  have opens := @extends_searchPeers _ _ _ _ parse packetType now presented
    node.store.getAllPeers derived
  rwa [search] at opens

theorem sessionStep_tryDecrypt (now : UInt64) (packetId nonceHex ciphertextHex aeadTagHex : String)
    (returns : (tryDecryptPacket node now packetId nonceHex ciphertextHex aeadTagHex).result ≠
      .error .panic) :
    SessionStep node.identity node.store none
      (node.authenticated (.tryDecrypt now packetId nonceHex ciphertextHex aeadTagHex))
      (tryDecryptPacket node now packetId nonceHex ciphertextHex aeadTagHex).node.store := by
  have ended := tryDecryptPacket_end node now packetId nonceHex ciphertextHex aeadTagHex
  generalize tryDecryptPacket node now packetId nonceHex ciphertextHex aeadTagHex = outcome
    at ended returns ⊢
  cases ended with
  | malformed parsed =>
      simp only [AppState.authenticated, parsed]
      exact .opened (extends_refl node.store)
  | missed parsed search =>
      simp only [AppState.authenticated, parsed, Except.toOption, Option.bind_some, search]
      exact .opened (extends_of_search derived search)
  | panicked => exact absurd rfl returns
  | returned parsed search saved =>
      have row := (searchPeers_some search).2.2.2.2.2
      rw [authenticated_of_search parsed search]
      exact .received (extends_of_search derived search) row rfl

theorem sessionStep_tryDecryptFile (now : UInt64)
    (saveReceivedFile : String → Bytes → Except String String)
    (packetId nonceHex ciphertextHex aeadTagHex : String) :
    SessionStep node.identity node.store none
      (node.authenticated (.tryDecryptFile now saveReceivedFile packetId nonceHex ciphertextHex
        aeadTagHex))
      (tryDecryptFilePacket node now saveReceivedFile packetId nonceHex ciphertextHex
        aeadTagHex).node.store := by
  have ended := tryDecryptFilePacket_end node now saveReceivedFile packetId nonceHex ciphertextHex
    aeadTagHex
  generalize tryDecryptFilePacket node now saveReceivedFile packetId nonceHex ciphertextHex
    aeadTagHex = outcome at ended ⊢
  cases ended with
  | malformed parsed =>
      simp only [AppState.authenticated, parsed]
      exact .opened (extends_refl node.store)
  | missed parsed search =>
      simp only [AppState.authenticated, parsed, Except.toOption, Option.bind_some, search]
      exact .opened (extends_of_search derived search)
  | unsaved error parsed search =>
      have row := (searchPeers_some search).2.2.2.2.2
      simp only [AppState.authenticated, parsed, Except.toOption, Option.bind_some, search,
        Option.map_some]
      exact .received (extends_of_search derived search) row rfl
  | returned parsed search =>
      have row := (searchPeers_some search).2.2.2.2.2
      simp only [AppState.authenticated, parsed, Except.toOption, Option.bind_some, search,
        Option.map_some]
      exact .received (extends_of_search derived search) row rfl

theorem extends_getMessages (now : UInt64) (peerId : String) (limit : Option Nat) :
    Extends node.identity node.store (getMessages node now peerId limit).1.store := by
  rw [getMessages]
  dsimp only
  split
  · exact extends_refl node.store
  · rename_i bytes decoded
    split
    · exact extends_refl node.store
    · rename_i peerPub parsed
      have known : parseNodeId peerId = some peerPub := by
        simp [parseNodeId, decoded, parsed]
      obtain ⟨_, sessions, _⟩ :=
        @showRows_frame crates node.identity now peerPub _ _ _ (node.store.getMessagesBetween
          node.identity.nodeIdHex peerId (min (limit.getD 50) 200)) (node.store.getOrCreateSession
          crates peerId (ecdh crates node.identity.myPrivateKey peerPub)).2
      exact (extends_getOrCreateSession derived known).trans (extends_of_sessions sessions)

theorem sessionStep_perform (activity : Activity) (completes : node.Completes activity) :
    SessionStep node.identity node.store (node.sentTo activity) (node.authenticated activity)
      (node.perform activity).store := by
  cases activity with
  | receive env raw senderKey kind =>
      exact .opened (extends_of_sessions (evolves_processIncomingPacket node env raw senderKey
        kind).2)
  | sendDm env recipientId plaintext replyToId replyToText =>
      exact sessionStep_sendDm derived completes recipientId plaintext replyToId replyToText
  | sendFile env recipientId file =>
      exact sessionStep_sendFile derived completes recipientId file
  | sendBroadcast env text =>
      apply SessionStep.opened
      apply extends_of_sessions
      rw [AppState.perform, store_sendBroadcast]
  | tryDecrypt now packetId nonceHex ciphertextHex aeadTagHex =>
      exact sessionStep_tryDecrypt derived now packetId nonceHex ciphertextHex aeadTagHex completes
  | tryDecryptFile now saveReceivedFile packetId nonceHex ciphertextHex aeadTagHex =>
      exact sessionStep_tryDecryptFile derived now saveReceivedFile packetId nonceHex ciphertextHex
        aeadTagHex
  | getMessages now peerId limit => exact .opened (extends_getMessages derived now peerId limit)

end Steps

end Caraka
