import Caraka.Sample
import Caraka.Sessions

/-! What the rows of the `sessions` table count after a run of completed calls. -/

namespace Caraka

open Foundation

variable {crates : Crates}

def Activity.Presents : Activity → Prop
  | .tryDecrypt .. | .tryDecryptFile .. => True
  | .receive .. | .sendDm .. | .sendFile .. | .sendBroadcast .. | .getMessages .. => False

theorem messages_of_unauthenticated {node : AppState crates} {activity : Activity}
    (presents : activity.Presents)
    (unknown : node.authenticated activity = none) :
    (node.perform activity).store.messages = node.store.messages := by
  cases activity with
  | receive | sendDm | sendFile | sendBroadcast | getMessages => cases presents
  | tryDecrypt now packetId nonceHex ciphertextHex aeadTagHex =>
      rw [AppState.perform]
      have ended := tryDecryptPacket_end node now packetId nonceHex ciphertextHex aeadTagHex
      generalize tryDecryptPacket node now packetId nonceHex ciphertextHex aeadTagHex = outcome
        at ended ⊢
      cases ended with
      | malformed => rfl
      | missed parsed search => exact (frame_of_search search).1
      | panicked parsed search => exact (frame_of_search search).1
      | returned parsed search =>
          simp [AppState.authenticated, parsed, Except.toOption, search] at unknown
  | tryDecryptFile => exact messages_tryDecryptFilePacket ..

def Store.sentCount (store : Store) (peerId : String) : Nat :=
  ((store.sessions.get? peerId).map Session.msgCounter).getD 0

def nextSent (peerId : String) (count : Nat) (recipientId : String) : Nat :=
  if recipientId = peerId then count + 1 else count

section Views

variable {identity : Identity crates} {store after : Store}

theorem Extends.counts (opens : Extends identity store after) (peerId : String) :
    after.sentCount peerId = store.sentCount peerId ∧
      after.getRecvCounterHint peerId = store.getRecvCounterHint peerId := by
  rcases opens peerId with same | ⟨absent, _, _, new⟩
  · simp only [Store.sentCount, Store.getRecvCounterHint, same, and_self]
  · simp only [Store.sentCount, Store.getRecvCounterHint, absent, new]
    exact ⟨rfl, rfl⟩

variable {sent : Option String} {authenticated : Option (String × Nat)}

theorem SessionStep.derived (step : SessionStep identity store sent authenticated after)
    (derived : Derived identity store) : Derived identity after := by
  have kept : ∀ {middle : Store} {peerId : String} (change : Session → Session),
      (∀ row, (change row).sessionId = row.sessionId) → Extends identity store middle →
      after.sessions = middle.sessions.modify peerId change → Derived identity after := by
    intro middle peerId change keeps opens changed other row present
    rw [changed, AssocMap.get?_modify] at present
    split_ifs at present
    · rcases Option.map_eq_some_iff.mp present with ⟨old, was, same⟩
      rw [← same, keeps]
      exact opens.derived derived other old was
    · exact opens.derived derived other row present
  cases step with
  | opened opens => exact opens.derived derived
  | sent opens _ counted =>
      exact kept (fun session => { session with msgCounter := session.msgCounter + 1 })
        (fun _ => rfl) opens counted
  | @received _ _ _ counter _ opens _ bumped =>
      exact kept (fun session =>
        { session with recvCounterHint := max session.recvCounterHint (counter + 1) })
        (fun _ => rfl) opens bumped

theorem SessionStep.sentCount (step : SessionStep identity store sent authenticated after)
    (peerId : String) :
    after.sentCount peerId = sent.toList.foldl (nextSent peerId) (store.sentCount peerId) := by
  cases step with
  | opened opens => exact (opens.counts peerId).1
  | @sent middle _ recipientId row opens present counted =>
      have before := (opens.counts peerId).1
      simp only [Option.toList_some, List.foldl_cons, List.foldl_nil, nextSent]
      rw [← before, Store.sentCount, counted, Store.incrementMsgCounter, AssocMap.get?_modify]
      split_ifs with own own' own'
      · rw [own, Store.sentCount, present]
        rfl
      · exact absurd own.symm own'
      · exact absurd own'.symm own
      · rfl
  | @received middle _ senderId counter row opens present bumped =>
      rw [← (opens.counts peerId).1]
      simp only [Option.toList_none, List.foldl_nil]
      rw [Store.sentCount, bumped, Store.bumpRecvCounterHint, AssocMap.get?_modify]
      split_ifs
      · rw [Store.sentCount]
        cases middle.sessions.get? peerId <;> rfl
      · rfl

theorem SessionStep.hint (step : SessionStep identity store sent authenticated after)
    (peerId : String) :
    after.getRecvCounterHint peerId =
      authenticated.toList.foldl (nextCounter peerId) (store.getRecvCounterHint peerId) := by
  cases step with
  | opened opens => exact (opens.counts peerId).2
  | @sent middle _ recipientId row opens present counted =>
      rw [← (opens.counts peerId).2]
      simp only [Option.toList_none, List.foldl_nil]
      rw [Store.getRecvCounterHint, counted, Store.incrementMsgCounter, AssocMap.get?_modify]
      split_ifs
      · rw [Store.getRecvCounterHint]
        cases middle.sessions.get? peerId <;> rfl
      · rfl
  | @received middle _ senderId counter row opens present bumped =>
      have before := (opens.counts peerId).2
      simp only [Option.toList_some, List.foldl_cons, List.foldl_nil, nextCounter]
      rw [← before, Store.getRecvCounterHint, bumped, Store.bumpRecvCounterHint,
        AssocMap.get?_modify]
      split_ifs with own
      · rw [own, Store.getRecvCounterHint, present]
        rfl
      · rfl

end Views

theorem foldl_nextSent (peerId : String) (sends : List String) (count : Nat) :
    sends.foldl (nextSent peerId) count = count + sends.count peerId := by
  induction sends generalizing count with
  | nil => rfl
  | cons recipientId sends ih =>
      rw [List.foldl_cons, ih, nextSent, List.count_cons]
      split_ifs with own own' own'
      · omega
      · exact absurd (beq_iff_eq.mpr own) own'
      · exact absurd (beq_iff_eq.mp own') own
      · omega

/-- The packets authenticated from a peer and the hint they leave. -/
def HintOf (peerId : String) (opened : List (String × Nat)) (hint : Nat) : Prop :=
  (hint = 0 ∧ ∀ counter, (peerId, counter) ∉ opened) ∨
    ∃ largest, (peerId, largest) ∈ opened ∧ hint = largest + 1 ∧
      ∀ counter, (peerId, counter) ∈ opened → counter ≤ largest

theorem hintOf_singleton {peerId : String} {counter hint : Nat} :
    HintOf peerId [(peerId, counter)] hint ↔ hint = counter + 1 := by
  simp [HintOf]

theorem foldl_nextCounter (peerId : String) (opened : List (String × Nat)) :
    HintOf peerId opened (opened.foldl (nextCounter peerId) 0) := by
  induction opened using List.reverseRecOn with
  | nil => exact .inl ⟨rfl, fun counter member => by cases member⟩
  | append_singleton opened last ih =>
      rcases last with ⟨sender, counter⟩
      have members : ∀ value, (peerId, value) ∈ opened ++ [(sender, counter)] ↔
          (peerId, value) ∈ opened ∨ peerId = sender ∧ value = counter := by
        intro value
        rw [List.mem_append, List.mem_singleton, Prod.mk.injEq]
      rw [List.foldl_append, List.foldl_cons, List.foldl_nil, nextCounter]
      simp only [HintOf, members]
      by_cases own : peerId = sender
      · right
        rw [if_pos own]
        rcases ih with ⟨zero, none⟩ | ⟨largest, member, hint, bound⟩
        · have first : max (opened.foldl (nextCounter peerId) 0) (counter + 1) = counter + 1 := by
            rw [zero]
            exact Nat.max_eq_right (Nat.zero_le _)
          refine ⟨counter, .inr ⟨own, rfl⟩, first, ?_⟩
          intro value later
          rcases later with old | ⟨_, same⟩
          · exact absurd old (none value)
          · exact Nat.le_of_eq same
        · by_cases more : largest ≤ counter
          · refine ⟨counter, .inr ⟨own, rfl⟩, by rw [hint]; omega, ?_⟩
            intro value later
            rcases later with old | ⟨_, same⟩
            · exact Nat.le_trans (bound value old) more
            · exact Nat.le_of_eq same
          · refine ⟨largest, .inl member, by rw [hint]; omega, ?_⟩
            intro value later
            rcases later with old | ⟨_, same⟩
            · exact bound value old
            · omega
      · rw [if_neg own]
        simpa only [HintOf, own, false_and, or_false] using ih

/-- What one completed activity may do to the counts of the peers: each direction counts only its
own packets, each peer only its own. -/
structure CountsApart (node : AppState crates) (activity : Activity) : Prop where
  hint_grows : ∀ peerId, node.store.getRecvCounterHint peerId ≤
    (node.perform activity).store.getRecvCounterHint peerId
  sends_count : ∀ peerId, node.sentTo activity ≠ some peerId →
    (node.perform activity).store.sentCount peerId = node.store.sentCount peerId
  openings_hint : ∀ peerId, (∀ counter, node.authenticated activity ≠ some (peerId, counter)) →
    (node.perform activity).store.getRecvCounterHint peerId = node.store.getRecvCounterHint peerId
  one_direction : node.sentTo activity = none ∨ node.authenticated activity = none
  unknown_writes_nothing : activity.Presents → node.authenticated activity = none →
    (node.perform activity).store.messages = node.store.messages ∧
      Extends node.identity node.store (node.perform activity).store

theorem le_foldl_nextCounter (peerId : String) (opened : Option (String × Nat)) (hint : Nat) :
    hint ≤ opened.toList.foldl (nextCounter peerId) hint := by
  cases opened with
  | none => exact Nat.le_refl hint
  | some opening =>
      simp only [Option.toList_some, List.foldl_cons, List.foldl_nil, nextCounter]
      split_ifs
      · exact Nat.le_max_left ..
      · exact Nat.le_refl hint

theorem countsApart_of_derived {node : AppState crates} {activity : Activity}
    (derived : Derived node.identity node.store) (completes : node.Completes activity) :
    CountsApart node activity where
  hint_grows := by
    intro peerId
    rw [(sessionStep_perform derived activity completes).hint peerId]
    exact le_foldl_nextCounter ..
  sends_count := by
    intro peerId other
    rw [(sessionStep_perform derived activity completes).sentCount peerId]
    cases sent : node.sentTo activity with
    | none => rfl
    | some recipientId =>
        have distinct : recipientId ≠ peerId := by
          intro same
          exact other (by rw [sent, same])
        exact if_neg distinct
  openings_hint := by
    intro peerId other
    rw [(sessionStep_perform derived activity completes).hint peerId]
    cases opened : node.authenticated activity with
    | none => rfl
    | some opening =>
        have distinct : peerId ≠ opening.1 := by
          intro same
          exact other opening.2 (by rw [opened, same])
        exact if_neg distinct
  one_direction := by
    have step := sessionStep_perform derived activity completes
    generalize node.sentTo activity = sent at step ⊢
    generalize node.authenticated activity = opened at step ⊢
    cases step with
    | opened => exact .inl rfl
    | sent => exact .inr rfl
    | received => exact .inl rfl
  unknown_writes_nothing := by
    intro presents unknown
    refine ⟨messages_of_unauthenticated presents unknown, ?_⟩
    have step := sessionStep_perform derived activity completes
    have unsent : node.sentTo activity = none := by
      cases activity with
      | receive | sendDm | sendFile | sendBroadcast | getMessages => cases presents
      | tryDecrypt | tryDecryptFile => rfl
    rw [unknown, unsent] at step
    cases step with
    | opened opens => exact opens

section Runs

variable {node : AppState crates} {activities : List Activity}

theorem derived_perform {activity : Activity} (derived : Derived node.identity node.store)
    (completes : node.Completes activity) :
    Derived (node.perform activity).identity (node.perform activity).store := by
  rw [(evolves_perform node activity).identity_eq]
  exact (sessionStep_perform derived activity completes).derived derived

theorem derived_live (derived : Derived node.identity node.store)
    (completed : Along AppState.perform AppState.Completes node activities) :
    Derived (node.live activities).identity (node.live activities).store :=
  @run_keeps _ _ AppState.perform (fun state => Derived state.identity state.store)
    AppState.Completes (fun _ _ => derived_perform) node activities derived completed

theorem sentCount_live (derived : Derived node.identity node.store)
    (completed : Along AppState.perform AppState.Completes node activities) (peerId : String) :
    (node.live activities).store.sentCount peerId =
      (emitted AppState.perform AppState.sentTo node activities).foldl (nextSent peerId)
        (node.store.sentCount peerId) :=
  @view_run_along _ _ AppState.perform _ _ (fun state => state.store.sentCount peerId)
    AppState.sentTo (nextSent peerId) (fun state => Derived state.identity state.store)
    AppState.Completes (fun _ _ => derived_perform)
    (fun _ activity derived completes =>
      (sessionStep_perform derived activity completes).sentCount peerId)
    node activities derived completed

theorem hint_live (derived : Derived node.identity node.store)
    (completed : Along AppState.perform AppState.Completes node activities) (peerId : String) :
    (node.live activities).store.getRecvCounterHint peerId =
      (emitted AppState.perform AppState.authenticated node activities).foldl (nextCounter peerId)
        (node.store.getRecvCounterHint peerId) :=
  @view_run_along _ _ AppState.perform _ _ (fun state => state.store.getRecvCounterHint peerId)
    AppState.authenticated (nextCounter peerId)
    (fun state => Derived state.identity state.store)
    AppState.Completes (fun _ _ => derived_perform)
    (fun _ activity derived completes =>
      (sessionStep_perform derived activity completes).hint peerId)
    node activities derived completed

/-- Over a run of completed calls on an empty table, every row bears the derived session id, counts
the sends to its peer and has the hint of the packets authenticated from it; a peer without a row
had neither; and every further completed call keeps the counts of the peers and of the two
directions apart. -/
theorem session_rows_invariant (empty : node.store.sessions = AssocMap.empty)
    (completed : Along AppState.perform AppState.Completes node activities) :
    (∀ peerId row, (node.live activities).store.sessions.get? peerId = some row →
      (∃ peerPub, parseNodeId peerId = some peerPub ∧ row.sessionId =
        (deriveSessionId crates (ecdh crates node.identity.myPrivateKey peerPub)).bytes) ∧
      row.msgCounter = (emitted AppState.perform AppState.sentTo node activities).count peerId ∧
      HintOf peerId (emitted AppState.perform AppState.authenticated node activities)
        row.recvCounterHint) ∧
    (∀ peerId, (node.live activities).store.sessions.get? peerId = none →
      peerId ∉ emitted AppState.perform AppState.sentTo node activities ∧
      ∀ counter, (peerId, counter) ∉
        emitted AppState.perform AppState.authenticated node activities) ∧
    ∀ activity, (node.live activities).Completes activity →
      CountsApart (node.live activities) activity := by
  have start : Derived node.identity node.store := by
    intro peerId row present
    rw [empty] at present
    cases present
  have derived := derived_live start completed
  have identity := (evolves_live node activities).identity_eq
  have counts : ∀ peerId, (node.live activities).store.sentCount peerId =
      (emitted AppState.perform AppState.sentTo node activities).count peerId := by
    intro peerId
    rw [sentCount_live start completed, foldl_nextSent, Store.sentCount, empty]
    exact Nat.zero_add _
  have hints : ∀ peerId, HintOf peerId
      (emitted AppState.perform AppState.authenticated node activities)
      ((node.live activities).store.getRecvCounterHint peerId) := by
    intro peerId
    have zero : node.store.getRecvCounterHint peerId = 0 := by
      rw [Store.getRecvCounterHint, empty]
      rfl
    rw [hint_live start completed, zero]
    exact foldl_nextCounter ..
  refine ⟨?_, ?_, fun activity completes => countsApart_of_derived derived completes⟩
  · intro peerId row present
    have count := counts peerId
    have hint := hints peerId
    rw [Store.sentCount, present] at count
    rw [Store.getRecvCounterHint, present] at hint
    rcases derived peerId row present with ⟨peerPub, known, bears⟩
    rw [identity] at bears
    exact ⟨⟨peerPub, known, bears⟩, count, hint⟩
  · intro peerId absent
    have count := counts peerId
    have hint := hints peerId
    rw [Store.sentCount, absent] at count
    rw [Store.getRecvCounterHint, absent] at hint
    refine ⟨List.count_eq_zero.mp count.symm, ?_⟩
    rcases hint with ⟨_, none⟩ | ⟨largest, _, positive, _⟩
    · exact none
    · cases positive

end Runs

namespace Sample

def haloReply : Activity := .sendDm env (nodeId 1) "halo" none none

def haloOpening : Activity :=
  .tryDecrypt 1200 (Hex.encode haloPacket.content.presented.packetId.bytes)
    (Hex.encode haloPacket.content.presented.nonce.bytes)
    (Hex.encode haloPacket.content.presented.ciphertext)
    (Hex.encode haloPacket.content.presented.aeadTag.bytes)

theorem haloReply_sentTo : bob.sentTo haloReply = some (nodeId 1) := by
  decide +kernel

/-- The message of node 1 opens under counter 0, whatever was sent the other way. -/
theorem haloOpening_search : ∃ found store,
    searchPeers haloCrates haloCrates.dmFromSlice .dm (bob.perform haloReply).identity 1200
      haloPacket.content.presented (bob.perform haloReply).store.getAllPeers
      (bob.perform haloReply).store = (some found, store) ∧
    found.peer.nodeId = nodeId 1 ∧ found.counter = 0 ∧
      found.payload.senderId = Hex.encode (key 1).bytes := by
  have searched : ((searchPeers haloCrates haloCrates.dmFromSlice .dm
      (bob.perform haloReply).identity 1200 haloPacket.content.presented
      (bob.perform haloReply).store.getAllPeers (bob.perform haloReply).store).1.map fun found =>
        (found.peer.nodeId, found.counter, found.payload.senderId)) =
      some (nodeId 1, 0, Hex.encode (key 1).bytes) := by
    decide +kernel
  generalize searchPeers haloCrates _ _ _ _ _ _ _ = outcome at searched ⊢
  rcases outcome with ⟨first, store⟩
  rcases Option.map_eq_some_iff.mp searched with ⟨found, rfl, same⟩
  simp only [Prod.mk.injEq] at same
  exact ⟨found, store, rfl, same⟩

theorem haloOpening_authenticated :
    (bob.perform haloReply).authenticated haloOpening = some (nodeId 1, 0) := by
  rcases haloOpening_search with ⟨found, store, search, peer, counter, -⟩
  rw [haloOpening, authenticated_of_search (parsePresented_encode _) search, peer, counter]

theorem halo_exchange_completes :
    Along AppState.perform AppState.Completes bob [haloReply, haloOpening] := by
  rcases haloOpening_search with ⟨found, store, search, -, -, spelled⟩
  refine ⟨rfl, fun panics => ?_, trivial⟩
  rw [tryDecryptPacket_finds (parsePresented_encode _) search spelled] at panics
  cases panics

end Sample

/-- Node 2 writes to node 1 and then decrypts the message that node 1 sent it: one message is
counted in each direction. -/
theorem session_rows_invariant_halo :
    ∃ row, (Sample.bob.live [Sample.haloReply, Sample.haloOpening]).store.sessions.get?
        (Sample.nodeId 1) = some row ∧
      row.msgCounter = 1 ∧ row.recvCounterHint = 1 := by
  have sends : emitted AppState.perform AppState.sentTo Sample.bob
      [Sample.haloReply, Sample.haloOpening] = [Sample.nodeId 1] := by
    simp only [emitted, Sample.haloReply_sentTo]
    rfl
  have opens : emitted AppState.perform AppState.authenticated Sample.bob
      [Sample.haloReply, Sample.haloOpening] = [(Sample.nodeId 1, 0)] := by
    simp only [emitted, Sample.haloOpening_authenticated]
    rfl
  obtain ⟨rows, absent, -⟩ := session_rows_invariant rfl Sample.halo_exchange_completes
  rw [sends] at rows absent
  rw [opens] at rows
  cases stored : (Sample.bob.live [Sample.haloReply, Sample.haloOpening]).store.sessions.get?
      (Sample.nodeId 1) with
  | none => exact absurd (List.mem_singleton_self _) (absent _ stored).1
  | some row =>
      obtain ⟨-, counted, hint⟩ := rows _ row stored
      exact ⟨row, rfl, counted.trans List.count_singleton_self, hintOf_singleton.mp hint⟩

end Caraka
