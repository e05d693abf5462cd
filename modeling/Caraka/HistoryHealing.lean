import Caraka.ForgottenCounters

/-! The history over runs with honest peers: every row is covered by the counters of its session,
so that a counter forgotten is found and recorded again. -/

namespace Caraka

open Foundation

variable {crates : Crates}

/-- A message the search opened comes from an honest peer: it names the peer, which the table names
alike, and what comes from this node itself has been sent by it. -/
structure FromHonest (node : AppState crates) (found : Found DmInnerPayload) : Prop where
  sender : found.payload.senderId = Hex.encode found.peerPub.bytes
  named : found.peer.nodeId = Hex.encode found.peerPub.bytes
  own : found.peerPub = node.identity.myNodeId →
    found.payload.recipientId = node.identity.nodeIdHex ∧
      found.counter < node.store.sentCount node.identity.nodeIdHex

/-- The sends meet no fault, what is received comes from honest peers, and nothing is taken over
from a SyncData. -/
def AppState.Honest (node : AppState crates) : Activity → Prop
  | .sendDm env .. | .sendFile env .. => env.faults = SendFaults.none
  | .receive _ raw _ _ => ∀ packet, ClampPacket.decode raw = .ok packet →
    packet.header.packetType ≠ .syncData
  | .tryDecrypt now packetId nonceHex ciphertextHex aeadTagHex =>
    ∀ presented found store,
      parsePresented packetId nonceHex ciphertextHex aeadTagHex = .ok presented →
      searchPeers crates crates.dmFromSlice .dm node.identity now presented
        node.store.getAllPeers node.store = (some found, store) → FromHonest node found
  | .sendBroadcast .. | .tryDecryptFile .. | .getMessages .. => True

theorem FromHonest.row {node : AppState crates} {found : Found DmInnerPayload}
    (honest : FromHonest node found) (now : UInt64) (packetId : String) (presented : Presented) :
    ∃ row, receivedRow now packetId presented found = some row := by
  simp only [receivedRow, honest.sender, strPrefix_encode, Option.map_some]
  exact ⟨_, rfl⟩

theorem completes_of_honest {node : AppState crates} {activity : Activity}
    (honest : node.Honest activity) : node.Completes activity := by
  cases activity with
  | receive | sendBroadcast | tryDecryptFile | getMessages => trivial
  | sendDm | sendFile => exact honest
  | tryDecrypt now packetId nonceHex ciphertextHex aeadTagHex =>
      rw [AppState.Completes]
      have ended := tryDecryptPacket_end node now packetId nonceHex ciphertextHex aeadTagHex
      generalize tryDecryptPacket node now packetId nonceHex ciphertextHex aeadTagHex = outcome
        at ended ⊢
      cases ended with
      | malformed | missed | returned =>
          intro same
          cases same
      | panicked parsed search uncut =>
          rcases (honest _ _ _ parsed search).row now packetId _ with ⟨row, cut⟩
          rw [uncut] at cut
          cases cut

section Counts

variable {identity : Identity crates} {store after : Store}

theorem SessionStep.directionCount_le {sent : Option String}
    {authenticated : Option (String × Nat)}
    (step : SessionStep identity store sent authenticated after) (row : StoredMessage) :
    directionCount identity store row ≤ directionCount identity after row := by
  rw [directionCount, directionCount]
  split
  · rw [step.sentCount]
    cases sent with
    | none => exact Nat.le_refl _
    | some recipientId =>
        simp only [Option.toList_some, List.foldl_cons, List.foldl_nil, nextSent]
        split <;> omega
  · rw [step.hint]
    exact le_foldl_nextCounter ..

theorem Healable.mono {row : StoredMessage} (healable : Healable identity store row)
    (grows : directionCount identity store row ≤ directionCount identity after row) :
    Healable identity after row :=
  ⟨healable.recorded, Nat.lt_of_lt_of_le healable.covered grows, healable.opens⟩

end Counts

section Steps

variable {node : AppState crates}

theorem Covering.step {after : Store} {sent : Option String}
    {authenticated : Option (String × Nat)} (covering : Covering node.identity node.store)
    (step : SessionStep node.identity node.store sent authenticated after)
    (rows : ∀ row ∈ after.messages.rows, row ∈ node.store.messages.rows ∨
      Healable node.identity after row) : Covering node.identity after where
  derived := step.derived covering.derived
  healable := by
    intro row member
    rcases rows row member with old | new
    · exact (covering.healable row old).mono (step.directionCount_le row)
    · exact new

theorem opensAsStored_of_built (opens : crates.Opens) {env : SendEnv}
    {recipientId plaintext : String} {replyToId replyToText : Option String}
    {peerPub : NodePublicKey} {packet : ClampPacket}
    (known : parseNodeId recipientId = some peerPub)
    (built : DmBuilt node env recipientId plaintext replyToId replyToText peerPub packet) :
    OpensAsStored node.identity
      (dmRow node.identity env recipientId (sendCounter node recipientId peerPub) packet) peerPub
      packet.nonce packet.aeadTag where
  spelled := spelled_of_own rfl known
  nonce_eq := rfl
  tag_eq := rfl
  opens := by
    have packetId : storedPacketId (dmRow node.identity env recipientId
        (sendCounter node recipientId peerPub) packet).packetId = packet.header.packetId :=
      storedPacketId_of_decode (Hex.decode_encode _)
    rw [packetId]
    exact ⟨_, opens_dmRow opens built⟩

theorem opensAsStored_of_search {now : UInt64} {packetId nonceHex ciphertextHex aeadTagHex : String}
    {presented : Presented} {found : Found DmInnerPayload} {store : Store} {row : StoredMessage}
    (parsed : parsePresented packetId nonceHex ciphertextHex aeadTagHex = .ok presented)
    (search : searchPeers crates crates.dmFromSlice .dm node.identity now presented
      node.store.getAllPeers node.store = (some found, store))
    (saved : receivedRow now packetId presented found = some row)
    (honest : FromHonest node found) :
    OpensAsStored node.identity row found.peerPub presented.nonce presented.aeadTag := by
  rcases searchPeers_some search with ⟨-, -, -, -, ⟨plaintext, decrypted, -⟩, -⟩
  rcases Option.map_eq_some_iff.mp saved with ⟨front, -, rfl⟩
  refine ⟨spelled_of_sender honest.sender ?_, rfl, rfl, plaintext, ?_⟩
  · intro own
    dsimp only at own
    rw [honest.sender, node.identity.nodeIdHex_eq] at own
    exact (honest.own (Octets.ext (Hex.encode_injective own))).1
  · dsimp only
    rw [storedPacketId_of_decode (parsePresented_eq_ok.mp parsed).1,
      storedKey_of_sender honest.sender]
    exact decrypted

theorem messages_sendDm_unsent {env : SendEnv} (noFault : env.faults = SendFaults.none)
    {recipientId plaintext : String} {replyToId replyToText : Option String}
    (unsent : (sendDm node env recipientId plaintext replyToId replyToText).sent = none) :
    (sendDm node env recipientId plaintext replyToId replyToText).node.store.messages =
      node.store.messages := by
  generalize outcome : sendDm node env recipientId plaintext replyToId replyToText = result
    at unsent ⊢
  simp only [sendDm, noFault, SendFaults.none] at outcome
  split at outcome
  · rw [← outcome, SendOutcome.fail]
  split at outcome
  · rw [← outcome, SendOutcome.fail]
  split at outcome
  · rw [← outcome, SendOutcome.fail]
  split at outcome
  · rw [← outcome, SendOutcome.fail]
  split at outcome
  · rw [← outcome, SendOutcome.fail]
    exact Store.messages_getOrCreateSession ..
  · rw [← outcome] at unsent
    cases unsent

theorem covering_sendDm (opens : crates.Opens) (covering : Covering node.identity node.store)
    {env : SendEnv} (noFault : env.faults = SendFaults.none) (recipientId plaintext : String)
    (replyToId replyToText : Option String) : Covering node.identity
      (sendDm node env recipientId plaintext replyToId replyToText).node.store := by
  have step := sessionStep_sendDm covering.derived noFault recipientId plaintext replyToId
    replyToText
  refine covering.step step ?_
  intro row member
  cases sent : (sendDm node env recipientId plaintext replyToId replyToText).sent with
  | none =>
      rw [messages_sendDm_unsent noFault sent] at member
      exact .inl member
  | some packet =>
      rcases sendDm_sent sent with ⟨peerPub, facts⟩
      have counted := step.sentCount recipientId
      simp only [facts.result_eq, Except.toOption, Option.map_some, Option.toList_some,
        List.foldl_cons, List.foldl_nil, nextSent, if_true] at counted
      rw [facts.node_eq] at member
      rcases Messages.mem_insertOrIgnore member with before | new
      · rw [messages_openedStore] at before
        exact .inl before
      · have read := (counts_opened covering.derived facts.known).1
        right
        rw [new]
        refine ⟨Int.natCast_nonneg _, ?_, peerPub, _, _, opensAsStored_of_built opens facts.known
          facts.built⟩
        have own : (dmRow node.identity env recipientId (sendCounter node recipientId peerPub)
          packet).senderId = node.identity.nodeIdHex := rfl
        rw [directionCount, if_pos own]
        change Int.toNat (sendCounter node recipientId peerPub : Int) <
          Store.sentCount _ recipientId
        rw [counted, Int.toNat_natCast, sendCounter, read]
        exact Nat.lt_succ_self _

theorem covering_tryDecrypt (covering : Covering node.identity node.store) {now : UInt64}
    {packetId nonceHex ciphertextHex aeadTagHex : String}
    (honest : node.Honest (.tryDecrypt now packetId nonceHex ciphertextHex aeadTagHex)) :
    Covering node.identity
      (tryDecryptPacket node now packetId nonceHex ciphertextHex aeadTagHex).node.store := by
  have step := sessionStep_tryDecrypt covering.derived now packetId nonceHex ciphertextHex
    aeadTagHex (completes_of_honest honest)
  refine covering.step step ?_
  intro row member
  have ended := tryDecryptPacket_end node now packetId nonceHex ciphertextHex aeadTagHex
  generalize tryDecryptPacket node now packetId nonceHex ciphertextHex aeadTagHex = outcome
    at ended step member ⊢
  cases ended with
  | malformed => exact .inl member
  | missed parsed search | panicked parsed search =>
      rw [← (frame_of_search search).1]
      exact .inl member
  | @returned presented found store saved parsed search cut =>
      have genuine := honest presented found store parsed search
      have hint := step.hint found.peer.nodeId
      simp only [AppState.authenticated, parsed, Except.toOption, Option.bind_some, search,
        Option.map_some, Option.toList_some, List.foldl_cons, List.foldl_nil, nextCounter, if_true]
        at hint
      rcases Messages.mem_insertOrIgnore member with before | new
      · rw [(frame_of_search search).1] at before
        exact .inl before
      · right
        rw [new]
        have grown := step.directionCount_le saved
        have opened := opensAsStored_of_search parsed search cut genuine
        rcases Option.map_eq_some_iff.mp cut with ⟨front, -, made⟩
        have sender : saved.senderId = Hex.encode found.peerPub.bytes := by
          rw [← made]
          exact genuine.sender
        have counter : saved.msgCounter = found.counter := by rw [← made]
        refine ⟨?_, ?_, found.peerPub, _, _, opened⟩
        · rw [counter]
          exact Int.natCast_nonneg _
        · rw [counter, Int.toNat_natCast]
          by_cases own : saved.senderId = node.identity.nodeIdHex
          · rw [sender, node.identity.nodeIdHex_eq] at own
            rcases genuine.own (Octets.ext (Hex.encode_injective own)) with ⟨recipient, sent⟩
            have recipient : saved.recipientId = node.identity.nodeIdHex := by
              rw [← made]
              exact recipient
            rw [← node.identity.nodeIdHex_eq, ← sender] at own
            rw [directionCount, if_pos own, recipient] at grown
            exact Nat.lt_of_lt_of_le sent grown
          · rw [directionCount, if_neg own, sender, ← genuine.named, hint]
            exact Nat.lt_of_lt_of_le (Nat.lt_succ_self _) (Nat.le_max_right ..)

end Steps

section Runs

variable {node : AppState crates}

theorem Covering.kept (covering : Covering node.identity node.store) {activity : Activity}
    (honest : node.Honest activity)
    (same : (node.perform activity).store.messages = node.store.messages) :
    Covering node.identity (node.perform activity).store := by
  refine covering.step (sessionStep_perform covering.derived activity
    (completes_of_honest honest)) ?_
  intro row member
  rw [same] at member
  exact .inl member

theorem covering_perform (opens : crates.Opens) (covering : Covering node.identity node.store)
    {activity : Activity} (honest : node.Honest activity) :
    Covering (node.perform activity).identity (node.perform activity).store := by
  rw [(evolves_perform node activity).identity_eq]
  cases activity with
  | receive env raw senderKey kind =>
      exact covering.kept honest (messages_processIncomingPacket node env senderKey kind honest)
  | sendDm => exact covering_sendDm opens covering honest ..
  | sendFile => exact covering.kept honest (messages_sendFile ..)
  | sendBroadcast env text =>
      apply covering.kept honest
      rw [AppState.perform, store_sendBroadcast]
  | tryDecrypt => exact covering_tryDecrypt covering honest
  | tryDecryptFile => exact covering.kept honest (messages_tryDecryptFilePacket ..)
  | getMessages => exact covering.kept honest (messages_getMessages covering)

theorem covering_live (opens : crates.Opens) (covering : Covering node.identity node.store)
    {activities : List Activity}
    (honest : Along AppState.perform AppState.Honest node activities) :
    Covering (node.live activities).identity (node.live activities).store :=
  @run_keeps _ _ AppState.perform (fun state => Covering state.identity state.store)
    AppState.Honest (fun _ _ covering honest => covering_perform opens covering honest) node
    activities covering honest

end Runs

/-- What `get_messages` does where the counters of the chosen rows were forgotten. -/
structure HistoryAgrees (node : AppState crates) (chosen : String → Bool) (now : UInt64)
    (peerId : String) (limit : Option Nat) : Prop where
  same : (getMessages (node.forget chosen) now peerId limit).2 =
    (getMessages node now peerId limit).2
  healed : ∀ row ∈ queried node peerId limit, ∀ text,
    ShowsDecrypted (node.forget chosen) now peerId limit row text → 0 ≤ row.msgCounter ∧
      row ∈ (getMessages (node.forget chosen) now peerId limit).1.store.messages.rows
  again : (getMessages (getMessages (node.forget chosen) now peerId limit).1 now peerId limit).2 =
    (getMessages node now peerId limit).2
  settled : (getMessages (getMessages (node.forget chosen) now peerId limit).1 now peerId
      limit).1.store.messages =
    (getMessages (node.forget chosen) now peerId limit).1.store.messages

section Agreement

variable {node : AppState crates} {now : UInt64} {peerId : String} {limit : Option Nat}

theorem chat_getMessages (opens : crates.Opens) {peerPub : NodePublicKey}
    (covering : Covering node.identity node.store) (known : parseNodeId peerId = some peerPub) :
    (getMessages (getMessages node now peerId limit).1 now peerId limit).2 =
        (getMessages node now peerId limit).2 ∧
      healedIds (getMessages node now peerId limit).1 now peerId peerPub limit =
        healedIds node now peerId peerPub limit := by
  have later := @covering_perform _ node opens covering (.getMessages now peerId limit) trivial
  have identity : (getMessages node now peerId limit).1.identity = node.identity :=
    (evolves_perform node (.getMessages now peerId limit)).identity_eq
  have chat : queried (getMessages node now peerId limit).1 peerId limit =
      queried node peerId limit := by
    rw [queried, queried, Store.getMessagesBetween, Store.getMessagesBetween, identity,
      messages_getMessages covering]
  have first := congrArg Prod.snd (@getMessages_covered _ node now peerId peerPub limit covering
    known)
  have second := congrArg Prod.snd (@getMessages_covered _ (getMessages node now peerId limit).1
    now peerId peerPub limit later known)
  constructor
  · rw [second, first]
    dsimp only
    rw [chat, identity]
  · funext id
    rw [healedIds, healedIds, chat]
    simp only [opensRow, identity]

theorem historyAgrees_of_covering (opens : crates.Opens) (onlyKey : crates.OpensUnderOneKey)
    (separates : crates.SeparatesCounters) (covering : Covering node.identity node.store)
    (fits : node.store.Fits) (chosen : String → Bool) :
    HistoryAgrees node chosen now peerId limit := by
  cases known : parseNodeId peerId with
  | none =>
      rcases @getMessages_unknown crates now peerId limit known with ⟨error, answer⟩
      refine ⟨by simp only [answer], ?_, by simp only [answer], by simp only [answer]⟩
      intro row _ text shows
      rcases shows with ⟨shown, shows, -⟩
      rw [answer] at shows
      cases shows
  | some peerPub =>
      have first := @getMessages_forget _ node now peerId peerPub limit onlyKey separates covering
        fits known chosen
      have later := @covering_perform _ node opens covering (.getMessages now peerId limit) trivial
      have laterFits : (getMessages node now peerId limit).1.store.Fits := by
        intro other
        have counts := (extends_getMessages covering.derived now peerId limit).counts other
        rw [counts.1, counts.2]
        exact fits other
      have second := @getMessages_forget _ (getMessages node now peerId limit).1 now peerId peerPub
        limit onlyKey separates later laterFits known
        (stillForgotten node now peerId peerPub limit chosen)
      rcases @chat_getMessages _ node now peerId limit opens peerPub covering known with
        ⟨answer, ids⟩
      have messages := @messages_getMessages _ node now peerId limit covering
      have still : stillForgotten (getMessages node now peerId limit).1 now peerId peerPub limit
          (stillForgotten node now peerId peerPub limit chosen) =
            stillForgotten node now peerId peerPub limit chosen := by
        funext id
        rw [stillForgotten, ids, stillForgotten, Bool.and_assoc, Bool.and_self]
      have rows : (getMessages (node.forget chosen) now peerId limit).1.store.messages =
          node.store.messages.forget (stillForgotten node now peerId peerPub limit chosen) := by
        rw [first]
        exact congrArg (Messages.forget · _) messages
      refine ⟨by rw [first], ?_, ?_, ?_⟩
      · intro row included text shows
        rcases mem_queried included with ⟨stored, -⟩
        refine ⟨(covering.healable row stored).recorded, ?_⟩
        rw [ShowsDecrypted, first] at shows
        have opened := opensRow_of_shown covering known included shows
        have healed : healedIds node now peerId peerPub limit row.id = true := by
          rw [healedIds, List.any_eq_true]
          exact ⟨row, included, by rw [opened, Bool.true_and, decide_eq_true rfl]⟩
        have whole : row.forget (stillForgotten node now peerId peerPub limit chosen) = row := by
          rw [StoredMessage.forget, stillForgotten, healed, Bool.not_true, Bool.and_false]
          rfl
        rw [rows]
        exact List.mem_map.mpr ⟨row, stored, whole⟩
      · rw [first, second, answer]
      · rw [rows, first, second, still]
        have twice := @messages_getMessages _ (getMessages node now peerId limit).1 now peerId limit
          later
        exact congrArg (Messages.forget · _) (twice.trans messages)

end Agreement

namespace Sample

variable {dms : List DmInnerPayload} {files : List FilePayload}

theorem opensUnderOneKey : (Sample.crates dms files).OpensUnderOneKey := by
  intro key other nonce output aad message message' opened opened'
  simp only [Sample.crates, Option.ite_none_right_eq_some] at opened opened'
  exact (Octets.xor_left_cancel (Octets.ext (opened.1.symm.trans opened'.1))).symm

theorem separatesCounters : (Sample.crates dms files).SeparatesCounters := by
  intro sharedSecret senderId receiverId sessionId counter counter' same
  apply le64_injective
  apply Octets.ext
  have small : ∀ bytes : Bytes, digest bytes < 256 ^ 16 := by
    intro bytes
    rw [digest_eq]
    exact Nat.lt_trans (Nat.mod_lt _ (by decide)) (by decide)
  have digests := leBytes_injective (small _) (small _) (congrArg Octets.bytes same)
  have fronts : ∀ counter, [] ++ sharedSecret.bytes ++ dmContext senderId receiverId sessionId
      counter = (sharedSecret.bytes ++ (utf8 "CARAKA-DM-v1" ++ senderId.bytes ++
        receiverId.bytes ++ sessionId.bytes)) ++ (le64 counter).bytes := by
    intro counter
    rw [dmContext, List.nil_append, List.append_assoc sharedSecret.bytes]
  change digest ([] ++ _ ++ _) = digest ([] ++ _ ++ _) at digests
  rw [fronts, fronts] at digests
  exact digest_separates _ (le64 counter).length_eq (le64 counter').length_eq digests

theorem haloSend_honest : Along AppState.perform AppState.Honest alice [haloSend] := ⟨rfl, trivial⟩

theorem haloSend_fits : (alice.live [haloSend]).store.Fits := by
  have start : Derived alice.identity alice.store := by
    intro peerId row present
    cases present
  have completed : Along AppState.perform AppState.Completes alice [haloSend] := ⟨rfl, trivial⟩
  intro peerId
  rw [sentCount_live start completed, hint_live start completed, foldl_nextSent]
  have sends := @List.count_le_length _ _ peerId
    (emitted AppState.perform AppState.sentTo alice [haloSend])
  have one := @length_emitted_le _ _ AppState.perform _ AppState.sentTo alice [haloSend]
  have zero : alice.store.sentCount peerId = 0 := rfl
  have unread : (emitted AppState.perform AppState.authenticated alice [haloSend]).foldl
      (nextCounter peerId) (alice.store.getRecvCounterHint peerId) = 0 := rfl
  rw [zero, unread]
  rw [List.length_singleton] at one
  omega

theorem haloSend_live : alice.live [haloSend] = alice.perform haloSend := rfl

theorem haloRow_shown : ShowsDecrypted (alice.live [haloSend]) 1200 bob.identity.nodeIdHex none
    haloRow "halo" := by
  obtain ⟨-, peerPub, nonce, inner, holds, text⟩ := holds_of_stored opens haloRow_stored
  rw [← (evolves_perform alice haloSend).identity_eq] at holds
  rw [← text, haloSend_live]
  exact (holds.shown_iff 1200 haloRow_queried).mpr (by decide)

end Sample

/-- After any run of completed calls with honest peers on an empty database, `get_messages` answers
the same whichever counters are forgotten, and records again the counter of every row that it shows
decrypted; a second call answers the same and records nothing more. -/
theorem cached_and_searched_history_agree (opens : crates.Opens)
    (onlyKey : crates.OpensUnderOneKey) (separates : crates.SeparatesCounters)
    {node : AppState crates} {activities : List Activity}
    (noMessages : node.store.messages = Messages.empty)
    (noSessions : node.store.sessions = AssocMap.empty)
    (honest : Along AppState.perform AppState.Honest node activities)
    (fits : (node.live activities).store.Fits) (chosen : String → Bool) (now : UInt64)
    (peerId : String) (limit : Option Nat) :
    HistoryAgrees (node.live activities) chosen now peerId limit := by
  have start : Covering node.identity node.store := by
    constructor
    · intro peerId row present
      rw [noSessions] at present
      cases present
    · intro row member
      rw [noMessages] at member
      cases member
  exact historyAgrees_of_covering opens onlyKey separates (covering_live opens start honest) fits
    chosen

/-- The sample message with its counter forgotten: it is shown, and its counter is back. -/
theorem cached_and_searched_history_agree_halo :
    (getMessages ((Sample.alice.live [Sample.haloSend]).forget fun _ => true) 1200
        Sample.bob.identity.nodeIdHex none).2 =
      (getMessages (Sample.alice.live [Sample.haloSend]) 1200 Sample.bob.identity.nodeIdHex
        none).2 ∧
    Sample.haloRow ∈ (getMessages ((Sample.alice.live [Sample.haloSend]).forget fun _ => true) 1200
      Sample.bob.identity.nodeIdHex none).1.store.messages.rows := by
  have agrees := @cached_and_searched_history_agree Sample.haloCrates Sample.opens
    Sample.opensUnderOneKey Sample.separatesCounters Sample.alice [Sample.haloSend] (by rfl)
    (by rfl) Sample.haloSend_honest Sample.haloSend_fits (fun _ => true) 1200
    Sample.bob.identity.nodeIdHex none
  have included := Sample.haloRow_queried
  rw [← Sample.haloSend_live] at included
  refine ⟨agrees.same, (agrees.healed _ included "halo" ?_).2⟩
  rw [ShowsDecrypted, agrees.same]
  exact Sample.haloRow_shown

end Caraka
