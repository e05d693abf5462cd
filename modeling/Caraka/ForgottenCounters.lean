import Caraka.Readability
import Caraka.SessionRows

/-! `get_messages` over rows whose counter is forgotten: the search finds it again. -/

namespace Caraka

open Foundation

def StoredMessage.forget (chosen : String → Bool) (row : StoredMessage) : StoredMessage :=
  if chosen row.id then { row with msgCounter := -1 } else row

theorem StoredMessage.forget_eq (chosen : String → Bool) (row : StoredMessage) :
    row.forget chosen =
      { row with msgCounter := if chosen row.id then -1 else row.msgCounter } := by
  rw [forget]
  split <;> rfl

theorem StoredMessage.forget_id (chosen : String → Bool) (row : StoredMessage) :
    (row.forget chosen).id = row.id := by rw [forget_eq]

theorem StoredMessage.forget_packetId (chosen : String → Bool) (row : StoredMessage) :
    (row.forget chosen).packetId = row.packetId := by rw [forget_eq]

namespace Messages

def forget (table : Messages) (chosen : String → Bool) : Messages where
  rows := table.rows.map (StoredMessage.forget chosen)
  ids_nodup := by
    have same : StoredMessage.id ∘ StoredMessage.forget chosen = StoredMessage.id :=
      funext (StoredMessage.forget_id chosen)
    rw [List.map_map, same]
    exact table.ids_nodup
  packetIds_nodup := by
    have same : StoredMessage.packetId ∘ StoredMessage.forget chosen = StoredMessage.packetId :=
      funext (StoredMessage.forget_packetId chosen)
    rw [List.map_map, same]
    exact table.packetIds_nodup

theorem rows_injective {table other : Messages} (same : table.rows = other.rows) :
    table = other := by
  cases table
  cases other
  cases same
  rfl

theorem setCounter_forget {table : Messages} {row : StoredMessage} (stored : row ∈ table.rows)
    (chosen : String → Bool) :
    (table.forget chosen).setCounter row.id row.msgCounter =
      table.forget fun id => chosen id && id ≠ row.id := by
  apply rows_injective
  simp only [setCounter, forget, List.map_map]
  apply List.map_congr_left
  intro other member
  simp only [Function.comp, StoredMessage.forget_id]
  by_cases same : other.id = row.id
  · obtain rfl := List.inj_on_of_nodup_map table.ids_nodup member stored same
    simp only [if_true, StoredMessage.forget, ne_eq, not_true_eq_false, decide_false,
      Bool.and_false, Bool.false_eq_true, if_false]
    split <;> rfl
  · simp only [same, if_false, StoredMessage.forget, ne_eq, not_false_eq_true, decide_true,
      Bool.and_true]

end Messages

variable {crates : Crates}

def AppState.forget (node : AppState crates) (chosen : String → Bool) : AppState crates :=
  { node with store := { node.store with messages := node.store.messages.forget chosen } }

/-- No ciphertext opens under two keys. -/
def Crates.OpensUnderOneKey (crates : Crates) : Prop :=
  ∀ key other nonce output aad message message',
    crates.asconDecrypt key nonce output aad = some message →
    crates.asconDecrypt other nonce output aad = some message' → other = key

/-- The keys of a conversation differ from counter to counter. -/
def Crates.SeparatesCounters (crates : Crates) : Prop :=
  ∀ sharedSecret senderId receiverId sessionId,
    Function.Injective (deriveDmKey crates sharedSecret senderId receiverId sessionId)

/-- The two counters of every session fit the signed columns they are stored in. -/
def Store.Fits (store : Store) : Prop :=
  ∀ peerId, store.sentCount peerId < 2 ^ 63 ∧ store.getRecvCounterHint peerId < 2 ^ 63

section Rows

variable {identity : Identity crates} {store : Store}

structure OpensAsStored (identity : Identity crates) (row : StoredMessage)
    (peerPub : NodePublicKey) (nonce : Nonce) (tag : Octets 16) : Prop where
  spelled : ∀ peerId, row.Between identity.nodeIdHex peerId → parseNodeId peerId = some peerPub
  nonce_eq : row.nonce = nonce.bytes
  tag_eq : row.aeadTag = tag.bytes
  opens : ∃ plaintext, crates.asconDecrypt (storedKey identity peerPub row) nonce
    (row.ciphertext ++ tag.bytes) (receiveAad .dm (storedPacketId row.packetId)) = some plaintext

def directionCount (identity : Identity crates) (store : Store) (row : StoredMessage) : Nat :=
  if row.senderId = identity.nodeIdHex then store.sentCount row.recipientId
  else store.getRecvCounterHint row.senderId

structure Healable (identity : Identity crates) (store : Store) (row : StoredMessage) : Prop where
  recorded : 0 ≤ row.msgCounter
  covered : row.msgCounter.toNat < directionCount identity store row
  opens : ∃ peerPub nonce tag, OpensAsStored identity row peerPub nonce tag

structure Covering (identity : Identity crates) (store : Store) : Prop where
  derived : Derived identity store
  healable : ∀ row ∈ store.messages.rows, Healable identity store row

theorem counts_opened (derived : Derived identity store) {peerId : String}
    {peerPub : NodePublicKey} (known : parseNodeId peerId = some peerPub) :
    (sessionOf identity store peerId peerPub).msgCounter = store.sentCount peerId ∧
      recvHint identity store peerId peerPub = store.getRecvCounterHint peerId := by
  have counts := (extends_getOrCreateSession derived known).counts peerId
  refine ⟨?_, ?_⟩
  · rw [← counts.1, Store.sentCount, Store.get?_getOrCreateSession, if_pos rfl]
    rfl
  · rw [← counts.2, getRecvCounterHint_opened]

end Rows

section Reading

variable {identity : Identity crates} {now : UInt64} {peerPub : NodePublicKey}

def readStored (identity : Identity crates) (now : UInt64) (peerPub : NodePublicKey)
    (sendCounter recvHint : Nat) (row : StoredMessage) :
    Option (Option (DmInnerPayload × Option Nat)) :=
  (tryInto 16 row.nonce).bind fun nonce => (tryInto 16 row.aeadTag).map fun tag =>
    readRow crates identity now peerPub
      (deriveSessionId crates (ecdh crates identity.myPrivateKey peerPub)) sendCounter recvHint row
      nonce tag

def shownOf (identity : Identity crates) (row : StoredMessage)
    (read : Option (Option (DmInnerPayload × Option Nat))) : Option ShownMessage :=
  read.map fun payload => showRow crates identity row (payload.map Prod.fst)

def foundBy (read : Option (Option (DmInnerPayload × Option Nat))) : Option Nat :=
  read.join.bind Prod.snd

/-- `set_message_counter`, where a counter was found. -/
def recordFound (store : Store) (id : String) (found : Option Nat) : Store :=
  found.elim store fun counter => store.setMessageCounter id (UInt64.ofNat counter)

theorem showRows_eq (sendCounter recvHint : Nat) (msgs : List StoredMessage) (store : Store) :
    showRows crates identity now peerPub
        (deriveSessionId crates (ecdh crates identity.myPrivateKey peerPub)) sendCounter recvHint
        msgs store =
      (msgs.filterMap fun row => shownOf identity row
          (readStored identity now peerPub sendCounter recvHint row),
        msgs.foldl (fun store row => recordFound store row.id
          (foundBy (readStored identity now peerPub sendCounter recvHint row))) store) := by
  induction msgs generalizing store with
  | nil => rfl
  | cons msg msgs ih =>
      rw [showRows, List.filterMap_cons, List.foldl_cons]
      split
      · rename_i nonce tag readNonce readTag
        have here : readStored identity now peerPub sendCounter recvHint msg =
            some (readRow crates identity now peerPub (deriveSessionId crates (ecdh crates
              identity.myPrivateKey peerPub)) sendCounter recvHint msg nonce tag) := by
          simp only [readStored, readNonce, readTag, Option.bind_some, Option.map_some]
        rw [here]
        dsimp only [shownOf, foundBy, Option.map_some, Option.join_some]
        generalize readRow crates identity now peerPub (deriveSessionId crates (ecdh crates
          identity.myPrivateKey peerPub)) sendCounter recvHint msg nonce tag = read
        rw [ih]
        cases read.bind Prod.snd with
        | none => rfl
        | some counter => rfl
      · rename_i unread
        have skipped : readStored identity now peerPub sendCounter recvHint msg = none := by
          rw [readStored, Option.bind_eq_none_iff]
          intro nonce readNonce
          rw [Option.map_eq_none_iff]
          cases readTag : tryInto 16 msg.aeadTag with
          | none => rfl
          | some tag => exact (unread nonce tag readNonce readTag).elim
        rw [skipped, ih]
        rfl

theorem readStored_recorded {row : StoredMessage} (recorded : 0 ≤ row.msgCounter)
    (sendCounter recvHint : Nat) :
    readStored identity now peerPub sendCounter recvHint row =
        readStored identity now peerPub 0 0 row ∧
      foundBy (readStored identity now peerPub sendCounter recvHint row) = none := by
  cases readNonce : tryInto 16 row.nonce with
  | none => simp [readStored, foundBy, readNonce]
  | some nonce =>
      cases readTag : tryInto 16 row.aeadTag with
      | none => simp [readStored, foundBy, readNonce, readTag]
      | some tag =>
          simp only [readStored, foundBy, readNonce, readTag, Option.bind_some, Option.map_some,
            readRow_recorded nonce tag recorded, Option.join_some, true_and]
          rw [Option.bind_map]
          exact Option.bind_eq_none_iff.mpr fun _ _ => rfl

def endCounter (identity : Identity crates) (sendCounter recvHint : Nat) (row : StoredMessage) :
    Nat :=
  if row.senderId = identity.nodeIdHex then sendCounter + 1 else max recvHint 500 + 60

theorem findSome?_range {α : Type} {tries : Nat → Option α} {bound hit : Nat} (inside : hit < bound)
    (others : ∀ index, index < bound → index ≠ hit → tries index = none) :
    (List.range bound).findSome? tries = tries hit := by
  induction bound with
  | zero => cases inside
  | succ bound ih =>
      rw [List.range_succ, List.findSome?_append, List.findSome?_singleton]
      by_cases last : hit = bound
      · have before : (List.range bound).findSome? tries = none := by
          rw [List.findSome?_eq_none_iff]
          intro index member
          have earlier := List.mem_range.mp member
          exact others index (by omega) (by omega)
        rw [before, Option.none_or, last]
      · have after : tries bound = none :=
          others bound (Nat.lt_succ_self _) fun same => last same.symm
        have front := ih (by omega) fun index small => others index (Nat.lt_succ_of_lt small)
        rw [after, Option.or_none, front]

theorem tryStoredCounter_other (onlyKey : crates.OpensUnderOneKey)
    (separates : crates.SeparatesCounters) {row : StoredMessage} {nonce : Nonce} {tag : Octets 16}
    (opens : OpensAsStored identity row peerPub nonce tag) {counter : UInt64}
    (other : counter ≠ UInt64.ofNat row.msgCounter.toNat) :
    tryStoredCounter crates identity now peerPub
      (deriveSessionId crates (ecdh crates identity.myPrivateKey peerPub))
      (decide (row.senderId = identity.nodeIdHex)) nonce row.ciphertext tag
      (receiveAad .dm (storedPacketId row.packetId)) counter = none := by
  rcases opens.opens with ⟨plaintext, opened⟩
  unfold tryStoredCounter
  dsimp only
  split
  · rfl
  · rename_i plain decrypted
    have same := onlyKey _ _ _ _ _ _ _ opened (decrypt_eq_ok.mp decrypted).2
    exfalso
    apply other
    by_cases own : row.senderId = identity.nodeIdHex
    · simp only [own, decide_true, if_true, storedKey, sendKey] at same
      exact separates _ _ _ _ same
    · simp only [own, decide_false, Bool.false_eq_true, if_false, storedKey, receiveKey] at same
      exact separates _ _ _ _ same

theorem readStored_searched (onlyKey : crates.OpensUnderOneKey)
    (separates : crates.SeparatesCounters) {row : StoredMessage} {nonce : Nonce} {tag : Octets 16}
    (opens : OpensAsStored identity row peerPub nonce tag) (recorded : 0 ≤ row.msgCounter)
    {sendCounter recvHint : Nat}
    (inside : row.msgCounter.toNat < endCounter identity sendCounter recvHint row)
    (fits : endCounter identity sendCounter recvHint row ≤ 2 ^ 64) :
    readStored identity now peerPub sendCounter recvHint { row with msgCounter := -1 } =
      (readStored identity now peerPub 0 0 row).map fun read =>
        read.map fun found => (found.1, some row.msgCounter.toNat) := by
  have readNonce : tryInto 16 row.nonce = some nonce := by rw [opens.nonce_eq, tryInto_bytes]
  have readTag : tryInto 16 row.aeadTag = some tag := by rw [opens.tag_eq, tryInto_bytes]
  have unrecorded : ¬ (-1 : Int) ≥ 0 := by decide
  simp only [readStored, readNonce, readTag, Option.bind_some, Option.map_some,
    readRow_recorded nonce tag recorded, Option.some.injEq]
  rw [readRow]
  simp only [if_neg unrecorded, decide_eq_true_eq]
  rw [uint64_ofInt recorded, Option.map_map]
  apply findSome?_range inside
  intro index small different
  have other : UInt64.ofNat index ≠ UInt64.ofNat row.msgCounter.toNat := by
    intro same
    have values := congrArg UInt64.toNat same
    rw [UInt64.toNat_ofNat', UInt64.toNat_ofNat', Nat.mod_eq_of_lt (Nat.lt_of_lt_of_le small fits),
      Nat.mod_eq_of_lt (Nat.lt_of_lt_of_le inside fits)] at values
    exact different values
  rw [tryStoredCounter_other onlyKey separates opens other, Option.map_none]

end Reading

section Conversation

theorem StoredMessage.forget_between (chosen : String → Bool) (row : StoredMessage)
    (myNodeId peerNodeId : String) :
    (row.forget chosen).Between myNodeId peerNodeId ↔ row.Between myNodeId peerNodeId := by
  rw [forget_eq]
  rfl

theorem StoredMessage.forget_receivedAt (chosen : String → Bool) (row : StoredMessage) :
    (row.forget chosen).receivedAt = row.receivedAt := by rw [forget_eq]

theorem showRow_forget (identity : Identity crates) (chosen : String → Bool) (row : StoredMessage)
    (read : Option DmInnerPayload) :
    showRow crates identity (row.forget chosen) read = showRow crates identity row read := by
  rw [StoredMessage.forget_eq]
  rfl

theorem queried_forget (node : AppState crates) (chosen : String → Bool) (peerId : String)
    (limit : Option Nat) : queried (node.forget chosen) peerId limit =
      (queried node peerId limit).map (StoredMessage.forget chosen) := by
  let later := fun left right : StoredMessage => right.receivedAt ≤ left.receivedAt
  let chat := fun row : StoredMessage => decide (row.Between node.identity.nodeIdHex peerId)
  have rows : (node.store.messages.rows.map (StoredMessage.forget chosen)).filter chat =
      (node.store.messages.rows.filter chat).map (StoredMessage.forget chosen) := by
    rw [List.filter_map]
    congr 1
    apply List.filter_congr
    intro row _
    simp only [chat, Function.comp, StoredMessage.forget_between]
  have sorted := @List.map_insertionSort _ _ later later _ _ (StoredMessage.forget chosen)
    (node.store.messages.rows.filter chat) fun left _ right _ => by
      simp only [later, StoredMessage.forget_receivedAt]
  change List.take _ (List.insertionSort later (List.filter chat
    (node.store.messages.rows.map (StoredMessage.forget chosen)))) = List.map _ (List.take _
      (List.insertionSort later (List.filter chat node.store.messages.rows)))
  rw [rows, List.map_take, sorted]

theorem stored_counter {counter : Int} (recorded : 0 ≤ counter) (small : counter.toNat < 2 ^ 63) :
    (UInt64.ofNat counter.toNat).toInt64.toInt = counter := by
  have same : (UInt64.ofNat counter.toNat).toInt64 = Int64.ofNat counter.toNat := rfl
  rw [same, Int64.toInt_ofNat_of_lt small]
  exact Int.toNat_of_nonneg recorded

theorem recordFound_one {table : Messages} {row : StoredMessage} (stored : row ∈ table.rows)
    (recorded : 0 ≤ row.msgCounter) (small : row.msgCounter.toNat < 2 ^ 63) (found : Bool)
    (kept : String → Bool) {store : Store} (same : store.messages = table.forget kept) :
    recordFound store row.id (if found then some row.msgCounter.toNat else none) =
      { store with messages := table.forget fun id => kept id && !(found && row.id = id) } := by
  cases found with
  | false =>
      have unchanged : (fun id => kept id && !(false && decide (row.id = id))) = kept := by
        funext id
        rw [Bool.false_and, Bool.not_false, Bool.and_true]
      rw [unchanged, ← same]
      rfl
  | true =>
      have others : (fun id => kept id && !(true && decide (row.id = id))) =
          fun id => kept id && decide (id ≠ row.id) := by
        funext id
        rw [Bool.true_and, ← decide_not]
        simp only [ne_eq, eq_comm]
      rw [others, ← Messages.setCounter_forget stored, ← same]
      simp only [if_true, recordFound, Option.elim_some, Store.setMessageCounter,
        stored_counter recorded small]

theorem recordFound_forget {table : Messages} (found : StoredMessage → Bool)
    (msgs : List StoredMessage) (stored : ∀ row ∈ msgs, row ∈ table.rows ∧ 0 ≤ row.msgCounter ∧
      row.msgCounter.toNat < 2 ^ 63) (kept : String → Bool) {store : Store}
    (same : store.messages = table.forget kept) :
    msgs.foldl (fun store row => recordFound store row.id
        (if found row then some row.msgCounter.toNat else none)) store =
      { store with messages :=
          table.forget fun id => kept id && !msgs.any fun row => found row && row.id = id } := by
  induction msgs generalizing kept store with
  | nil =>
      have unchanged : (fun id => kept id &&
          !([] : List StoredMessage).any fun row => found row && decide (row.id = id)) = kept := by
        funext id
        rw [List.any_nil, Bool.not_false, Bool.and_true]
      rw [unchanged, ← same]
      rfl
  | cons row msgs ih =>
      rcases List.forall_mem_cons.mp stored with ⟨⟨here, recorded, small⟩, later⟩
      rw [List.foldl_cons, recordFound_one here recorded small (found row) kept same,
        ih later _ rfl]
      have both : (fun id => (kept id && !(found row && decide (row.id = id))) &&
          !msgs.any fun row => found row && decide (row.id = id)) =
          fun id => kept id && !(row :: msgs).any fun row => found row && decide (row.id = id) := by
        funext id
        rw [List.any_cons, Bool.not_or, Bool.and_assoc]
      rw [both]

theorem directionCount_lt {identity : Identity crates} {store : Store} {row : StoredMessage}
    {peerId : String} (between : row.Between identity.nodeIdHex peerId) :
    directionCount identity store row <
      endCounter identity (store.sentCount peerId) (store.getRecvCounterHint peerId) row := by
  rw [directionCount, endCounter]
  by_cases own : row.senderId = identity.nodeIdHex
  · have recipient : row.recipientId = peerId := by
      rcases between with ⟨-, same⟩ | ⟨sender, recipient⟩
      · exact same
      · exact recipient.trans (own.symm.trans sender)
    rw [if_pos own, if_pos own, recipient]
    exact Nat.lt_succ_self _
  · have sender : row.senderId = peerId := by
      rcases between with ⟨same, -⟩ | ⟨same, -⟩
      · exact absurd same own
      · exact same
    rw [if_neg own, if_neg own, sender]
    omega

theorem endCounter_le {store : Store} (fits : store.Fits) (identity : Identity crates)
    (row : StoredMessage) (peerId : String) :
    endCounter identity (store.sentCount peerId) (store.getRecvCounterHint peerId) row ≤
      2 ^ 64 := by
  rcases fits peerId with ⟨sends, hint⟩
  rw [endCounter]
  split <;> omega

section Chat

variable (node : AppState crates) (now : UInt64) (peerId : String) (peerPub : NodePublicKey)
  (limit : Option Nat)

def opensRow (row : StoredMessage) : Bool :=
  (readStored node.identity now peerPub 0 0 row).join.isSome

def healedIds (id : String) : Bool :=
  (queried node peerId limit).any fun row => opensRow node now peerPub row && row.id = id

def stillForgotten (kept : String → Bool) (id : String) : Bool :=
  kept id && !healedIds node now peerId peerPub limit id

variable {node now peerId peerPub limit}

theorem mem_queried {row : StoredMessage} (included : row ∈ queried node peerId limit) :
    row ∈ node.store.messages.rows ∧ row.Between node.identity.nodeIdHex peerId :=
  Store.mem_getMessagesBetween included

theorem read_forgotten (onlyKey : crates.OpensUnderOneKey) (separates : crates.SeparatesCounters)
    (covering : Covering node.identity node.store) (fits : node.store.Fits)
    (known : parseNodeId peerId = some peerPub) {row : StoredMessage}
    (included : row ∈ queried node peerId limit) (chosen : String → Bool) :
    shownOf node.identity (row.forget chosen) (readStored node.identity now peerPub
        (node.store.sentCount peerId) (node.store.getRecvCounterHint peerId) (row.forget chosen)) =
      shownOf node.identity row (readStored node.identity now peerPub 0 0 row) ∧
    foundBy (readStored node.identity now peerPub (node.store.sentCount peerId)
        (node.store.getRecvCounterHint peerId) (row.forget chosen)) =
      if chosen row.id && opensRow node now peerPub row then some row.msgCounter.toNat
      else none := by
  rcases mem_queried included with ⟨stored, between⟩
  have healable := covering.healable row stored
  cases forgotten : chosen row.id with
  | false =>
      have whole : row.forget chosen = row := by
        rw [StoredMessage.forget, forgotten]
        rfl
      rcases @readStored_recorded _ node.identity now peerPub row healable.recorded
        (node.store.sentCount peerId) (node.store.getRecvCounterHint peerId) with ⟨read, unfound⟩
      rw [whole, unfound, read]
      exact ⟨rfl, rfl⟩
  | true =>
      obtain ⟨rowPub, nonce, tag, opens⟩ := healable.opens
      obtain rfl : rowPub = peerPub :=
        Option.some.inj ((opens.spelled peerId between).symm.trans known)
      have inside := Nat.lt_trans healable.covered
        (@directionCount_lt _ node.identity node.store row peerId between)
      have searched := @readStored_searched _ node.identity now rowPub onlyKey separates row nonce
        tag opens healable.recorded _ _ inside (endCounter_le fits node.identity row peerId)
      have without : row.forget chosen = { row with msgCounter := -1 } := by
        rw [StoredMessage.forget, forgotten]
        rfl
      rw [← without] at searched
      rw [searched, opensRow]
      cases readStored node.identity now rowPub 0 0 row with
      | none => exact ⟨rfl, rfl⟩
      | some read =>
          cases read with
          | none => exact ⟨congrArg some (showRow_forget ..), rfl⟩
          | some found => exact ⟨congrArg some (showRow_forget ..), rfl⟩

theorem getOrCreateSession_forget (store : Store) (chosen : String → Bool) (peerId : String)
    (sharedSecret : Octets 32) :
    Store.getOrCreateSession crates { store with messages := store.messages.forget chosen } peerId
        sharedSecret =
      ((store.getOrCreateSession crates peerId sharedSecret).1,
        { (store.getOrCreateSession crates peerId sharedSecret).2 with
          messages := store.messages.forget chosen }) := by
  rw [Store.getOrCreateSession, Store.getOrCreateSession]
  dsimp only
  split
  · split <;> rfl
  · rfl

theorem getMessages_eq (derived : Derived node.identity node.store)
    (known : parseNodeId peerId = some peerPub) :
    getMessages node now peerId limit =
      ({ node with
          store := (queried node peerId limit).foldl (fun store row => recordFound store row.id
            (foundBy (readStored node.identity now peerPub (node.store.sentCount peerId)
              (node.store.getRecvCounterHint peerId) row)))
            (node.store.getOrCreateSession crates peerId
              (ecdh crates node.identity.myPrivateKey peerPub)).2 },
        .ok ((queried node peerId limit).filterMap fun row => shownOf node.identity row
          (readStored node.identity now peerPub (node.store.sentCount peerId)
            (node.store.getRecvCounterHint peerId) row))) := by
  have counts := counts_opened derived known
  have sends : (node.store.openedSession crates peerId
      (ecdh crates node.identity.myPrivateKey peerPub)).msgCounter =
        node.store.sentCount peerId := counts.1
  have hint := (@getRecvCounterHint_opened _ node.identity node.store peerId peerPub).trans counts.2
  rcases Option.bind_eq_some_iff.mp known with ⟨bytes, decoded, parsed⟩
  simp only [getMessages, decoded, parsed, Store.getOrCreateSession_fst, sends, hint, showRows_eq]
  rfl

theorem getMessages_covered (covering : Covering node.identity node.store)
    (known : parseNodeId peerId = some peerPub) :
    getMessages node now peerId limit =
      ({ node with
          store := (node.store.getOrCreateSession crates peerId
            (ecdh crates node.identity.myPrivateKey peerPub)).2 },
        .ok ((queried node peerId limit).filterMap fun row => shownOf node.identity row
          (readStored node.identity now peerPub 0 0 row))) := by
  have recorded : ∀ row ∈ queried node peerId limit, 0 ≤ row.msgCounter := by
    intro row included
    exact (covering.healable row (mem_queried included).1).recorded
  rw [getMessages_eq covering.derived known]
  congr 2
  · rw [List.foldl_ext _ (fun store _ => store) _ fun store row included => by
      rw [(readStored_recorded (recorded row included) _ _).2]
      rfl]
    exact List.foldl_fixed _
  · apply List.filterMap_congr
    intro row included
    rw [(readStored_recorded (recorded row included) _ _).1]

theorem recordFound_queried (onlyKey : crates.OpensUnderOneKey)
    (separates : crates.SeparatesCounters) (covering : Covering node.identity node.store)
    (fits : node.store.Fits) (known : parseNodeId peerId = some peerPub) (kept : String → Bool)
    {store : Store} (same : store.messages = node.store.messages.forget kept) :
    (queried node peerId limit).foldl (fun store row => recordFound store (row.forget kept).id
        (foundBy (readStored node.identity now peerPub (node.store.sentCount peerId)
          (node.store.getRecvCounterHint peerId) (row.forget kept)))) store =
      { store with messages :=
          node.store.messages.forget (stillForgotten node now peerId peerPub limit kept) } := by
  have stored : ∀ row ∈ queried node peerId limit, row ∈ node.store.messages.rows ∧
      0 ≤ row.msgCounter ∧ row.msgCounter.toNat < 2 ^ 63 := by
    intro row included
    have member := (mem_queried included).1
    have healable := covering.healable row member
    refine ⟨member, healable.recorded, Nat.lt_trans healable.covered ?_⟩
    rw [directionCount]
    split
    · exact (fits row.recipientId).1
    · exact (fits row.senderId).2
  have each : ∀ (store : Store), ∀ row ∈ queried node peerId limit,
      recordFound store (row.forget kept).id (foundBy (readStored node.identity now peerPub
        (node.store.sentCount peerId) (node.store.getRecvCounterHint peerId) (row.forget kept))) =
      recordFound store row.id (if kept row.id && opensRow node now peerPub row then
        some row.msgCounter.toNat else none) := by
    intro store row included
    rw [StoredMessage.forget_id,
      (read_forgotten onlyKey separates covering fits known included kept).2]
  have ids : (fun id => kept id && !(queried node peerId limit).any fun row =>
      (kept row.id && opensRow node now peerPub row) && decide (row.id = id)) =
      stillForgotten node now peerId peerPub limit kept := by
    funext id
    rw [stillForgotten]
    cases chosen : kept id with
    | false => rfl
    | true =>
        rw [healedIds]
        congr 3
        funext row
        by_cases here : row.id = id
        · rw [here, chosen, Bool.true_and]
        · simp only [here, decide_false, Bool.and_false]
  rw [List.foldl_ext _ _ _ each, recordFound_forget
    (fun row => kept row.id && opensRow node now peerPub row) _ stored kept same, ids]

theorem getMessages_forget (onlyKey : crates.OpensUnderOneKey)
    (separates : crates.SeparatesCounters) (covering : Covering node.identity node.store)
    (fits : node.store.Fits) (known : parseNodeId peerId = some peerPub) (kept : String → Bool) :
    getMessages (node.forget kept) now peerId limit =
      ((getMessages node now peerId limit).1.forget
          (stillForgotten node now peerId peerPub limit kept),
        (getMessages node now peerId limit).2) := by
  have derived : Derived (node.forget kept).identity (node.forget kept).store := covering.derived
  have opened := @getOrCreateSession_forget crates node.store kept peerId
    (ecdh crates node.identity.myPrivateKey peerPub)
  have messages := @Store.messages_getOrCreateSession crates node.store peerId
    (ecdh crates node.identity.myPrivateKey peerPub)
  have shown : ((queried node peerId limit).map (StoredMessage.forget kept)).filterMap
      (fun row => shownOf node.identity row (readStored node.identity now peerPub
        (node.store.sentCount peerId) (node.store.getRecvCounterHint peerId) row)) =
      (queried node peerId limit).filterMap fun row => shownOf node.identity row
        (readStored node.identity now peerPub 0 0 row) := by
    rw [List.filterMap_map]
    apply List.filterMap_congr
    intro row included
    exact (read_forgotten onlyKey separates covering fits known included kept).1
  rw [getMessages_covered covering known, getMessages_eq derived known, queried_forget]
  refine Prod.ext ?_ (congrArg Except.ok shown)
  rw [List.foldl_map]
  have healed := @recordFound_queried _ node now peerId peerPub limit onlyKey separates covering
    fits known kept _ (congrArg (fun session => session.2.messages) opened)
  simp only [AppState.forget, messages]
  exact congrArg (fun store => { node with store }) (healed.trans (by rw [opened]))

theorem getMessages_unknown (unknown : parseNodeId peerId = none) :
    ∃ error, ∀ node : AppState crates,
      getMessages node now peerId limit = (node, .error error) := by
  cases decoded : Hex.decode peerId with
  | none => exact ⟨"Peer ID tidak valid", fun node => by simp only [getMessages, decoded]⟩
  | some bytes =>
      have short : tryInto 32 bytes = none := by
        rwa [parseNodeId, decoded, Option.bind_some] at unknown
      exact ⟨"Peer ID harus 32 byte", fun node => by simp only [getMessages, decoded, short]⟩

theorem messages_getMessages (covering : Covering node.identity node.store) :
    (getMessages node now peerId limit).1.store.messages = node.store.messages := by
  cases known : parseNodeId peerId with
  | none =>
      rcases @getMessages_unknown crates now peerId limit known with ⟨error, answer⟩
      rw [answer]
  | some peerPub =>
      rw [getMessages_covered covering known]
      exact Store.messages_getOrCreateSession ..

theorem opensRow_of_shown (covering : Covering node.identity node.store)
    (known : parseNodeId peerId = some peerPub) {row : StoredMessage} {text : String}
    (included : row ∈ queried node peerId limit)
    (shows : ShowsDecrypted node now peerId limit row text) :
    opensRow node now peerPub row = true := by
  rcases shows with ⟨shown, answer, entry, member, sameId, decrypted, -⟩
  rw [getMessages_covered covering known] at answer
  cases answer
  rcases List.mem_filterMap.mp member with ⟨msg, between, made⟩
  rcases Option.map_eq_some_iff.mp made with ⟨read, stored, rfl⟩
  rw [id_showRow] at sameId
  have same := List.inj_on_of_nodup_map node.store.messages.ids_nodup (mem_queried between).1
    (mem_queried included).1 sameId
  rw [← same, opensRow, stored]
  cases read with
  | none => cases decrypted
  | some found => rfl

end Chat

end Conversation

end Caraka
