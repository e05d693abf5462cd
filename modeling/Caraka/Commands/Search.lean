import Caraka.Commands.Receive

/-! What the search over peers and counters finds, and what it writes. -/

namespace Caraka

open Foundation

variable {crates : Crates} {α : Type}

/-- Opening the presented packet under the key of one peer and counter yields `payload`. -/
def OpensAs (parse : Bytes → Option α) (packetType : PacketType) (identity : Identity crates)
    (presented : Presented) (peerPub : NodePublicKey) (counter : Nat) (payload : α) : Prop :=
  ∃ plaintext, crates.asconDecrypt (receiveKey crates identity peerPub counter) presented.nonce
      (presented.ciphertext ++ presented.aeadTag.bytes)
      (receiveAad packetType presented.packetId) = some plaintext ∧
    parse plaintext = some payload

variable {parse : Bytes → Option α} {packetType : PacketType} {identity : Identity crates}
  {now : UInt64} {presented : Presented}

theorem tryCounter_eq_some {peerPub : NodePublicKey} {counter : Nat} {payload : α} :
    tryCounter crates parse packetType identity now presented peerPub
        (deriveSessionId crates (ecdh crates identity.myPrivateKey peerPub)) counter =
      some payload ↔
    Fresh now presented.nonce ∧
      OpensAs parse packetType identity presented peerPub counter payload := by
  unfold tryCounter OpensAs receiveKey
  dsimp only
  split
  · rename_i failed
    simp only [reduceCtorEq, false_iff, not_and, not_exists]
    intro fresh plaintext opens
    rw [decrypt_eq_ok.mpr ⟨fresh, opens⟩] at failed
    cases failed
  · rename_i plaintext decrypted
    rcases decrypt_eq_ok.mp decrypted with ⟨fresh, opens⟩
    simp [fresh, opens]

section Counters

variable {peerPub : NodePublicKey}

theorem searchCounters_eq (counters : List Nat) :
    searchCounters crates parse packetType identity now presented peerPub
        (deriveSessionId crates (ecdh crates identity.myPrivateKey peerPub)) counters =
      counters.findSome? fun counter =>
        (tryCounter crates parse packetType identity now presented peerPub
          (deriveSessionId crates (ecdh crates identity.myPrivateKey peerPub)) counter).map
            (counter, ·) := by
  induction counters with
  | nil => rfl
  | cons counter counters ih =>
      rw [searchCounters, List.findSome?_cons]
      cases tryCounter crates parse packetType identity now presented peerPub
        (deriveSessionId crates (ecdh crates identity.myPrivateKey peerPub)) counter with
      | none => exact ih
      | some payload => rfl

theorem searchCounters_some {counters : List Nat} {counter : Nat} {payload : α}
    (found : searchCounters crates parse packetType identity now presented peerPub
      (deriveSessionId crates (ecdh crates identity.myPrivateKey peerPub)) counters =
        some (counter, payload)) :
    counter ∈ counters ∧ Fresh now presented.nonce ∧
      OpensAs parse packetType identity presented peerPub counter payload := by
  rw [searchCounters_eq] at found
  rcases List.exists_of_findSome?_eq_some found with ⟨tried, member, opened⟩
  rcases Option.map_eq_some_iff.mp opened with ⟨read, opened, same⟩
  cases same
  exact ⟨member, tryCounter_eq_some.mp opened⟩

theorem searchCounters_isSome {counters : List Nat} {counter : Nat} {payload : α}
    (member : counter ∈ counters) (fresh : Fresh now presented.nonce)
    (opens : OpensAs parse packetType identity presented peerPub counter payload) :
    (searchCounters crates parse packetType identity now presented peerPub
      (deriveSessionId crates (ecdh crates identity.myPrivateKey peerPub)) counters).isSome := by
  rw [searchCounters_eq, List.findSome?_isSome_iff]
  refine ⟨counter, member, ?_⟩
  rw [tryCounter_eq_some.mpr ⟨fresh, opens⟩]
  rfl

end Counters

theorem searchPeers_cons (peer : PeerRecord) (peers : List PeerRecord) (store : Store)
    {peerPub : NodePublicKey} (known : parseNodeId peer.nodeId = some peerPub) :
    searchPeers crates parse packetType identity now presented (peer :: peers) store =
      match searchCounters crates parse packetType identity now presented peerPub
        (deriveSessionId crates (ecdh crates identity.myPrivateKey peerPub))
        (window (recvHint identity store peer.nodeId peerPub)) with
      | some (counter, payload) =>
        (some { peer, peerPub, counter, payload },
          (store.getOrCreateSession crates peer.nodeId
            (ecdh crates identity.myPrivateKey peerPub)).2)
      | none =>
        searchPeers crates parse packetType identity now presented peers
          (store.getOrCreateSession crates peer.nodeId
            (ecdh crates identity.myPrivateKey peerPub)).2 := by
  have sessionId := congrArg Prod.fst (Store.getOrCreateSession_fst crates store peer.nodeId
    (ecdh crates identity.myPrivateKey peerPub))
  have hint := @getRecvCounterHint_opened _ identity store peer.nodeId peerPub
  cases counted : searchCounters crates parse packetType identity now presented peerPub
      (deriveSessionId crates (ecdh crates identity.myPrivateKey peerPub))
      (window (recvHint identity store peer.nodeId peerPub)) with
  | none => simp only [searchPeers, known, sessionId, hint, counted]
  | some opened => simp only [searchPeers, known, sessionId, hint, counted]

theorem searchPeers_head (peer : PeerRecord) (peers : List PeerRecord) {store : Store}
    {peerPub : NodePublicKey} {payload : α} (known : parseNodeId peer.nodeId = some peerPub)
    (unused : recvHint identity store peer.nodeId peerPub = 0) (fresh : Fresh now presented.nonce)
    (opens : OpensAs parse packetType identity presented peerPub 0 payload) :
    searchPeers crates parse packetType identity now presented (peer :: peers) store =
      (some ⟨peer, peerPub, 0, payload⟩, (store.getOrCreateSession crates peer.nodeId
        (ecdh crates identity.myPrivateKey peerPub)).2) := by
  have first : window 0 = 0 :: List.range' 1 59 := by decide
  rw [searchPeers_cons peer peers store known, unused, first, searchCounters,
    tryCounter_eq_some.mpr ⟨fresh, opens⟩]

theorem searchPeers_skip (peer : PeerRecord) (peers : List PeerRecord) (store : Store)
    (unknown : parseNodeId peer.nodeId = none) :
    searchPeers crates parse packetType identity now presented (peer :: peers) store =
      searchPeers crates parse packetType identity now presented peers store := by
  rw [searchPeers, unknown]

theorem searchPeers_frame (peers : List PeerRecord) (store : Store) :
    (searchPeers crates parse packetType identity now presented peers store).2.messages =
        store.messages ∧
      (searchPeers crates parse packetType identity now presented peers store).2.peers =
        store.peers := by
  induction peers generalizing store with
  | nil => exact ⟨rfl, rfl⟩
  | cons peer peers ih =>
      cases known : parseNodeId peer.nodeId with
      | none =>
          rw [searchPeers_skip peer peers store known]
          exact ih store
      | some peerPub =>
          rw [searchPeers_cons peer peers store known]
          split
          · exact ⟨Store.messages_getOrCreateSession .., Store.peers_getOrCreateSession ..⟩
          · rcases ih (store.getOrCreateSession crates peer.nodeId _).2 with ⟨messages, rows⟩
            exact ⟨messages.trans (Store.messages_getOrCreateSession ..),
              rows.trans (Store.peers_getOrCreateSession ..)⟩

theorem frame_of_search {peers : List PeerRecord} {store store' : Store}
    {result : Option (Found α)}
    (search : searchPeers crates parse packetType identity now presented peers store =
      (result, store')) : store'.messages = store.messages ∧ store'.peers = store.peers := by
  obtain rfl : (searchPeers crates parse packetType identity now presented peers store).2 =
    store' := congrArg Prod.snd search
  exact searchPeers_frame peers store

theorem sessionOf_searchPeers (peers : List PeerRecord) (store : Store) {other : String}
    {otherPub : NodePublicKey} (otherKnown : parseNodeId other = some otherPub) :
    sessionOf identity
        (searchPeers crates parse packetType identity now presented peers store).2 other otherPub =
      sessionOf identity store other otherPub := by
  induction peers generalizing store with
  | nil => rfl
  | cons peer peers ih =>
      cases known : parseNodeId peer.nodeId with
      | none =>
          rw [searchPeers_skip peer peers store known]
          exact ih store
      | some peerPub =>
          rw [searchPeers_cons peer peers store known]
          split
          · exact sessionOf_getOrCreateSession store known otherKnown
          · rw [ih]
            exact sessionOf_getOrCreateSession store known otherKnown

theorem searchPeers_some {peers : List PeerRecord} {store store' : Store} {found : Found α}
    (search : searchPeers crates parse packetType identity now presented peers store =
      (some found, store')) :
    found.peer ∈ peers ∧ parseNodeId found.peer.nodeId = some found.peerPub ∧
      found.counter ∈ window (recvHint identity store found.peer.nodeId found.peerPub) ∧
      Fresh now presented.nonce ∧
      OpensAs parse packetType identity presented found.peerPub found.counter found.payload ∧
      store'.sessions.get? found.peer.nodeId =
        some (sessionOf identity store found.peer.nodeId found.peerPub) := by
  induction peers generalizing store with
  | nil => cases search
  | cons peer peers ih =>
      cases known : parseNodeId peer.nodeId with
      | none =>
          rw [searchPeers_skip peer peers store known] at search
          rcases ih search with ⟨member, rest⟩
          exact ⟨List.mem_cons_of_mem _ member, rest⟩
      | some peerPub =>
          rw [searchPeers_cons peer peers store known] at search
          split at search
          · rename_i counter payload counted
            rcases searchCounters_some counted with ⟨inside, fresh, opens⟩
            simp only [Prod.mk.injEq, Option.some.injEq] at search
            rcases search with ⟨rfl, rfl⟩
            refine ⟨List.mem_cons_self, known, inside, fresh, opens, ?_⟩
            rw [Store.get?_getOrCreateSession, if_pos rfl]
            rfl
          · rcases ih search with ⟨member, parsed, inside, fresh, opens, row⟩
            rw [recvHint, sessionOf_getOrCreateSession store known parsed] at inside
            rw [sessionOf_getOrCreateSession store known parsed] at row
            exact ⟨List.mem_cons_of_mem _ member, parsed, inside, fresh, opens, row⟩

theorem searchPeers_isSome {peers : List PeerRecord} {store : Store} {peer : PeerRecord}
    {peerPub : NodePublicKey} {counter : Nat} {payload : α} (member : peer ∈ peers)
    (known : parseNodeId peer.nodeId = some peerPub)
    (inside : counter ∈ window (recvHint identity store peer.nodeId peerPub))
    (fresh : Fresh now presented.nonce)
    (opens : OpensAs parse packetType identity presented peerPub counter payload) :
    (searchPeers crates parse packetType identity now presented peers store).1.isSome := by
  induction peers generalizing store with
  | nil => cases member
  | cons first peers ih =>
      rcases List.mem_cons.mp member with rfl | later
      · have success := searchCounters_isSome inside fresh opens
        rw [searchPeers_cons peer peers store known]
        split
        · rfl
        · rename_i failed
          rw [failed] at success
          cases success
      · cases first_known : parseNodeId first.nodeId with
        | none =>
            rw [searchPeers_skip first peers store first_known]
            exact ih later inside
        | some firstPub =>
            rw [searchPeers_cons first peers store first_known]
            split
            · rfl
            · apply ih later
              rw [recvHint, sessionOf_getOrCreateSession store first_known known]
              exact inside

/-- A row of the peers table that spells a node id. -/
def Known (node : AppState crates) (peerId : String) (peerPub : NodePublicKey) : Prop :=
  (node.store.peers.get? peerId).isSome ∧ parseNodeId peerId = some peerPub

theorem exists_search {node : AppState crates} {peerId : String} {peerPub : NodePublicKey}
    {counter : Nat} {payload : α} (known : Known node peerId peerPub)
    (inside : counter ∈ window (recvHint node.identity node.store peerId peerPub))
    (fresh : Fresh now presented.nonce)
    (opens : OpensAs parse packetType node.identity presented peerPub counter payload) :
    ∃ found store, searchPeers crates parse packetType node.identity now presented
      node.store.getAllPeers node.store = (some found, store) := by
  rcases Option.isSome_iff_exists.mp known.1 with ⟨row, present⟩
  have success := searchPeers_isSome (Store.getAllPeers_of_get? present) known.2 inside fresh opens
  rcases Option.isSome_iff_exists.mp success with ⟨found, finds⟩
  exact ⟨found, _, Prod.ext finds rfl⟩

theorem mem_knownKeys {node : AppState crates} {peerId : String} {peerPub : NodePublicKey}
    (known : Known node peerId peerPub) :
    peerPub ∈ node.store.peers.entries.filterMap fun entry => parseNodeId entry.1 := by
  rcases Option.isSome_iff_exists.mp known.1 with ⟨row, present⟩
  exact List.mem_filterMap.mpr ⟨(peerId, row), AssocMap.get?_eq_some.mp present, known.2⟩

theorem known_of_search {node : AppState crates} {found : Found α} {store : Store}
    (search : searchPeers crates parse packetType node.identity now presented
      node.store.getAllPeers node.store = (some found, store)) :
    Known node found.peer.nodeId found.peerPub := by
  rcases searchPeers_some search with ⟨member, spelled, -⟩
  exact ⟨by rw [Store.get?_of_mem_getAllPeers member]; rfl, spelled⟩

theorem searchPeers_none {node : AppState crates}
    (shut : ∀ peerId peerPub counter payload, Known node peerId peerPub →
      counter ∈ window (recvHint node.identity node.store peerId peerPub) →
      ¬ OpensAs parse packetType node.identity presented peerPub counter payload) :
    (searchPeers crates parse packetType node.identity now presented node.store.getAllPeers
      node.store).1 = none := by
  cases search : searchPeers crates parse packetType node.identity now presented
      node.store.getAllPeers node.store with
  | mk result store =>
      cases result with
      | none => rfl
      | some found =>
          rcases searchPeers_some search with ⟨-, -, inside, -, opens, -⟩
          exact absurd opens (shut _ _ _ _ (known_of_search search) inside)

end Caraka
