import Caraka.Retention
import Caraka.Delivery
import Caraka.Hints

/-! Whether the messages that `try_decrypt_packet` returns are in the store. -/

namespace Caraka

open Foundation

variable {crates : Crates}

def AppState.returns (node : AppState crates) : Activity → Option Envelope
  | .tryDecrypt now packetId nonceHex ciphertextHex aeadTagHex =>
    match parsePresented packetId nonceHex ciphertextHex aeadTagHex,
        (tryDecryptPacket node now packetId nonceHex ciphertextHex aeadTagHex).result with
    | .ok presented, .ok (some _) => some (presented.envelope packetId)
    | _, _ => none
  | .receive .. | .sendDm .. | .sendFile .. | .sendBroadcast .. | .tryDecryptFile ..
  | .getMessages .. => none

variable (crates) in
structure Inbox where
  node : AppState crates
  returned : List Envelope

namespace Inbox

def start (node : AppState crates) : Inbox crates := ⟨node, []⟩

def step (inbox : Inbox crates) (activity : Activity) : Inbox crates where
  node := inbox.node.perform activity
  returned := inbox.returned ++ (inbox.node.returns activity).toList

/-- Every message returned has a row with its packet id, nonce, ciphertext and tag. -/
def Stored (inbox : Inbox crates) : Prop :=
  ∀ envelope ∈ inbox.returned, inbox.node.store.messages.Holds envelope

/-- The row that the packet asks for under the id `sender_id[..8]_timestamp` of its payload is not
refused: neither this id nor its packet id is taken, or the packet is stored already. -/
def FindsRoom (inbox : Inbox crates) : Activity → Prop
  | .tryDecrypt now packetId nonceHex ciphertextHex aeadTagHex =>
    ∀ presented found row,
      parsePresented packetId nonceHex ciphertextHex aeadTagHex = .ok presented →
      (searchPeers crates crates.dmFromSlice .dm inbox.node.identity now presented
        inbox.node.store.getAllPeers inbox.node.store).1 = some found →
      receivedRow now packetId presented found = some row →
      ¬ inbox.node.store.messages.Refuses row
  | .receive .. | .sendDm .. | .sendFile .. | .sendBroadcast .. | .tryDecryptFile ..
  | .getMessages .. => True

end Inbox

section Row

variable {node : AppState crates} {now : UInt64}
  {packetId nonceHex ciphertextHex aeadTagHex : String} {presented : Presented}
  {found : Found DmInnerPayload} {row : StoredMessage}

theorem envelope_receivedRow (made : receivedRow now packetId presented found = some row) :
    row.envelope = presented.envelope packetId := by
  rcases Option.map_eq_some_iff.mp made with ⟨front, -, rfl⟩
  rfl

theorem returns_of_search
    (parsed : parsePresented packetId nonceHex ciphertextHex aeadTagHex = .ok presented)
    (search : (searchPeers crates crates.dmFromSlice .dm node.identity now presented
      node.store.getAllPeers node.store).1 = some found)
    (made : receivedRow now packetId presented found = some row) :
    node.returns (.tryDecrypt now packetId nonceHex ciphertextHex aeadTagHex) =
        some (presented.envelope packetId) ∧
      (node.perform (.tryDecrypt now packetId nonceHex ciphertextHex aeadTagHex)).store.messages =
        node.store.messages.insertOrIgnore row := by
  have whole : searchPeers crates crates.dmFromSlice .dm node.identity now presented
      node.store.getAllPeers node.store = (some found, _) := Prod.ext search rfl
  have frame := (frame_of_search whole).1
  constructor
  · rw [AppState.returns, tryDecryptPacket_of_search parsed whole made, parsed]
  · simp only [AppState.perform, tryDecryptPacket, parsed, search, made, Store.saveMessage,
      Store.bumpRecvCounterHint, frame]

theorem search_of_returns {activity : Activity} {envelope : Envelope}
    (returned : node.returns activity = some envelope) :
    ∃ now packetId nonceHex ciphertextHex aeadTagHex presented found row,
      activity = .tryDecrypt now packetId nonceHex ciphertextHex aeadTagHex ∧
      parsePresented packetId nonceHex ciphertextHex aeadTagHex = .ok presented ∧
      (searchPeers crates crates.dmFromSlice .dm node.identity now presented
        node.store.getAllPeers node.store).1 = some found ∧
      receivedRow now packetId presented found = some row ∧
      envelope = presented.envelope packetId := by
  cases activity with
  | tryDecrypt now packetId nonceHex ciphertextHex aeadTagHex =>
      simp only [AppState.returns] at returned
      split at returned
      · rename_i presented info parsed result
        rcases tryDecryptPacket_some result with ⟨same, found, store, row, parsed', facts, -⟩
        rw [parsed] at parsed'
        cases parsed'
        cases returned
        exact ⟨now, packetId, nonceHex, ciphertextHex, aeadTagHex, presented, found, row, rfl,
          parsed, congrArg Prod.fst facts.search, facts.row_eq, rfl⟩
      · cases returned
  | receive | sendDm | sendFile | sendBroadcast | tryDecryptFile | getMessages => cases returned

end Row

namespace Inbox

theorem stored_step {inbox : Inbox crates} {activity : Activity} (stored : inbox.Stored)
    (room : inbox.FindsRoom activity) : (inbox.step activity).Stored := by
  intro envelope member
  rcases List.mem_append.mp member with earlier | now
  · exact grows_perform inbox.node activity envelope (stored envelope earlier)
  · rw [Option.mem_toList] at now
    obtain ⟨now', packetId, nonceHex, ciphertextHex, aeadTagHex, presented, found, row, rfl,
      parsed, search, made, rfl⟩ := search_of_returns now
    have table := (returns_of_search parsed search made).2
    rw [step, table, ← envelope_receivedRow made]
    exact Messages.holds_inserted.mpr (room presented found row parsed search made)

theorem lost_step {inbox : Inbox crates} {activity : Activity}
    (refused : ¬ inbox.FindsRoom activity) : ¬ (inbox.step activity).Stored := by
  intro stored
  apply refused
  cases activity with
  | tryDecrypt now packetId nonceHex ciphertextHex aeadTagHex =>
      intro presented found row parsed search made
      rcases returns_of_search parsed search made with ⟨returned, table⟩
      have held := stored (presented.envelope packetId)
        (List.mem_append_right _ (Option.mem_toList.mpr returned))
      rw [step, table, ← envelope_receivedRow made] at held
      exact Messages.holds_inserted.mp held
  | receive | sendDm | sendFile | sendBroadcast | tryDecryptFile | getMessages => trivial

end Inbox

/-- In every state of a run each message returned by `try_decrypt_packet` is in the table, exactly
when every packet that opened found room for its row. -/
theorem received_rows_kept_iff (node : AppState crates) (activities : List Activity) :
    Always Inbox.step Inbox.Stored (Inbox.start node) activities ↔
      Along Inbox.step Inbox.FindsRoom (Inbox.start node) activities := by
  have empty : (Inbox.start node).Stored := by
    intro envelope member
    cases member
  exact @always_iff_along _ _ _ _ (fun _ => True) _ (fun _ _ _ => trivial)
    (fun _ _ _ stored room => Inbox.stored_step stored room)
    (fun _ _ _ _ refused => Inbox.lost_step refused) _ _ trivial empty

namespace Sample

theorem sends {dms : List DmInnerPayload} {files : List FilePayload}
    (sender : AppState (Sample.crates dms files)) {sendEnv : SendEnv} {text : String}
    (notBlank : isBlank text = false) (short : (utf8 text).length ≤ 4096)
    (noFault : sendEnv.faults = SendFaults.none) :
    ∃ packet, (sendDm sender sendEnv (nodeId 2) text none none).sent = some packet := by
  have built : ∃ packet, DmBuilt sender sendEnv (nodeId 2) text none none (key 2) packet := by
    simp [DmBuilt, buildPacket, encrypt, Sample.crates]
  rcases built with ⟨packet, built⟩
  exact ⟨packet, sendDm_of_built notBlank short (key_spelled 2) noFault built⟩

def lagiEnv : SendEnv := { env with idRandom := octets 4 8, nonceRandom := octets 12 10 }

def afterHalo (crates : Crates) : AppState crates :=
  (sendDm (node crates 1 [2]) env (nodeId 2) "halo" none none).node

def lagi : DmInnerPayload := { halo with text := "lagi", msgCounter := 1 }

def pairCrates : Crates := Sample.crates [lagi, halo] []

theorem toVec_apart {payload : DmInnerPayload} (msgCounter : UInt64)
    (text : payload.text = "halo") :
    { payload with text := "lagi", msgCounter }.toVec ≠ payload.toVec := by
  have first : jsonString "text" "lagi" = utf8 "\"text\":\"lagi\"" := by decide
  have second : jsonString "text" "halo" = utf8 "\"text\":\"halo\"" := by decide
  have firstText : utf8 "\"text\":\"lagi\"" =
    [34, 116, 101, 120, 116, 34, 58, 34, 108, 97, 103, 105, 34] := by decide
  have secondText : utf8 "\"text\":\"halo\"" =
    [34, 116, 101, 120, 116, 34, 58, 34, 104, 97, 108, 111, 34] := by decide
  intro same
  simp [DmInnerPayload.toVec, Json.object, Json.commas, jsonOptional, text, first, second,
    firstText, secondText] at same

theorem reads : pairCrates.ReadsDm lagi ∧ pairCrates.ReadsDm halo := by
  constructor
  · exact dmFromSlice_listed lagi
  · have apart : lagi.toVec ≠ halo.toVec := toVec_apart 1 rfl
    simp [Crates.ReadsDm, pairCrates, Sample.crates, apart]

def reader : AppState pairCrates := node pairCrates 2 [1]

def reading (packet : ClampPacket) : Activity :=
  .tryDecrypt 1200 (Hex.encode packet.header.packetId.bytes) (Hex.encode packet.nonce.bytes)
    (Hex.encode packet.ciphertext) (Hex.encode packet.aeadTag.bytes)

theorem reader_peers : reader.store.getAllPeers = [⟨peerRow, nodeId 1⟩] := rfl

theorem parse_reading (packet : ClampPacket) :
    parsePresented (Hex.encode packet.header.packetId.bytes) (Hex.encode packet.nonce.bytes)
      (Hex.encode packet.ciphertext) (Hex.encode packet.aeadTag.bytes) =
        .ok packet.content.presented :=
  parsePresented_encode packet.content.presented

theorem row_made {packet : ClampPacket} {found : Found DmInnerPayload} {payload : DmInnerPayload}
    (same : found.payload = payload) (spelled : payload.senderId = nodeId 1)
    (timed : payload.timestamp = 1000) :
    ∃ row, receivedRow 1200 (Hex.encode packet.header.packetId.bytes) packet.content.presented
        found = some row ∧ row.id = String.ofList ((Hex.digits (key 1).bytes).take 8) ++ "_" ++
          toString (1000 : UInt64) ∧
      row.packetId = Hex.encode packet.header.packetId.bytes := by
  subst same
  simp only [receivedRow, spelled, timed, nodeId, strPrefix_encode, Option.map_some,
    Option.some.injEq, exists_eq_left', and_self]

theorem identity_afterHalo :
    (afterHalo pairCrates).identity = (node pairCrates 1 [2]).identity := by
  rw [afterHalo]
  exact (keeps_sendDm _ env (nodeId 2) "halo" none none).identity_eq

theorem written (sender : AppState pairCrates)
    (own : sender.identity = (node pairCrates 1 [2]).identity) (sendEnv : SendEnv)
    (now : sendEnv.now = 1000) (text : String) :
    sentDmPayload sender sendEnv (nodeId 2) text none none (key 2) =
      { halo with
        text
        msgCounter := UInt64.ofNat (sendCounter sender (nodeId 2) (key 2)) } := by
  rw [halo, sentDmPayload, sentDmPayload, dmPayload, dmPayload, own, now]
  rfl

theorem ids_apart {first second : ClampPacket}
    (sent : (sendDm (node pairCrates 1 [2]) env (nodeId 2) "halo" none none).sent = some first)
    (resent : (sendDm (afterHalo pairCrates) lagiEnv (nodeId 2) "lagi" none none).sent =
      some second) :
    Hex.encode first.header.packetId.bytes ≠ Hex.encode second.header.packetId.bytes := by
  rcases sendDm_sent sent with ⟨_, facts⟩
  rcases sendDm_sent resent with ⟨_, refacts⟩
  have sameNode := identity_afterHalo
  rw [facts.encryption.packetId_eq, refacts.encryption.packetId_eq]
  intro same
  have bytes := Octets.ext (Hex.encode_injective same)
  rw [sentPacketId, sentPacketId, sameNode] at bytes
  exact absurd bytes (by decide)

section Pair

variable {first second : ClampPacket}
  (sent : (sendDm (node pairCrates 1 [2]) env (nodeId 2) "halo" none none).sent = some first)

include sent

theorem finds_first : (searchPeers pairCrates pairCrates.dmFromSlice .dm reader.identity 1200
    first.content.presented reader.store.getAllPeers reader.store).1 =
      some ⟨⟨peerRow, nodeId 1⟩, key 1, 0, halo⟩ := by
  rcases sendDm_sent sent with ⟨peerPub, facts⟩
  obtain rfl : key 2 = peerPub := Option.some.inj ((key_spelled 2).symm.trans facts.known)
  have encryption := facts.encryption
  have fresh : Fresh 1200 first.content.presented.nonce := by
    rw [ClampPacket.presented_nonce, encryption.nonce_eq]
    decide
  have sharedKey : sendKey (node pairCrates 1 [2]).identity (key 2) 0 =
      receiveKey pairCrates reader.identity (key 1) 0 :=
    sendKey_eq_receiveKey commutes (node pairCrates 1 [2]).identity reader.identity 0
  have unused : sendCounter (node pairCrates 1 [2]) (nodeId 2) (key 2) = 0 := rfl
  rw [written _ rfl env rfl, unused, sharedKey, ← encryption.nonce_eq,
    ← encryption.packetId_eq] at encryption
  have opened : OpensAs pairCrates.dmFromSlice .dm reader.identity first.content.presented
      (key 1) 0 halo := opensAs_of_sealed opens encryption rfl rfl reads.2
  have unopened : recvHint reader.identity reader.store (nodeId 1) (key 1) = 0 :=
    recvHint_of_none _ rfl
  rw [reader_peers,
    searchPeers_head ⟨peerRow, nodeId 1⟩ [] (key_spelled 1) unopened fresh opened]

theorem hint_after_first : recvHint (reader.perform (reading first)).identity
    (reader.perform (reading first)).store (nodeId 1) (key 1) = 1 := by
  rcases @row_made first ⟨⟨peerRow, nodeId 1⟩, key 1, 0, halo⟩ halo rfl rfl rfl
    with ⟨row, made, -⟩
  have opened : reader.opened (reading first) = some (nodeId 1, 0) :=
    opened_of_search (parse_reading first) (finds_first sent) made
  have unopened : recvHint reader.identity reader.store (nodeId 1) (key 1) = 0 :=
    recvHint_of_none _ rfl
  rw [recvHint_perform reader (key_spelled 1), opened, unopened, Option.toList_some,
    List.foldl_cons, List.foldl_nil, nextCounter, if_pos rfl]
  decide

variable (resent : (sendDm (afterHalo pairCrates) lagiEnv (nodeId 2) "lagi" none none).sent =
  some second)

include resent

theorem finds_second : ∃ found, (searchPeers pairCrates pairCrates.dmFromSlice .dm
    (reader.perform (reading first)).identity 1200 second.content.presented
    (reader.perform (reading first)).store.getAllPeers
    (reader.perform (reading first)).store).1 = some found ∧ found.payload = lagi := by
  rcases sendDm_sent resent with ⟨peerPub, facts⟩
  obtain rfl : key 2 = peerPub := Option.some.inj ((key_spelled 2).symm.trans facts.known)
  have hint := hint_after_first sent
  have evolves := evolves_perform reader (reading first)
  generalize reader.perform (reading first) = later at hint evolves ⊢
  have encryption := facts.encryption
  have fresh : Fresh 1200 second.nonce := by
    rw [encryption.nonce_eq]
    decide
  have counted : sendCounter (afterHalo pairCrates) (nodeId 2) (key 2) = 1 := by
    rcases sendDm_sent sent with ⟨peerPub, sentFacts⟩
    obtain rfl : key 2 = peerPub := Option.some.inj ((key_spelled 2).symm.trans sentFacts.known)
    rw [afterHalo, sentFacts.node_eq, sendCounter_sentDmNode]
    rfl
  have sameNode := identity_afterHalo
  have same : later.identity.myNodeId = key 2 := by rw [evolves.identity_eq]; rfl
  rw [written _ sameNode lagiEnv rfl, counted, ← same] at encryption
  have known : Known later (nodeId 1) (afterHalo pairCrates).identity.myNodeId :=
    ⟨evolves.peers_kept _ rfl, by rw [sameNode]; exact key_spelled 1⟩
  have inside : 1 ∈ window (recvHint later.identity later.store (nodeId 1)
      (afterHalo pairCrates).identity.myNodeId) := by
    rw [sameNode]
    change 1 ∈ window (recvHint later.identity later.store (nodeId 1) (key 1))
    rw [hint]
    decide
  obtain ⟨found, store, search, payload⟩ :=
    search_finds_sealed commutes opens rejectsOtherKeys encryption reads.1 known fresh inside
  exact ⟨found, congrArg Prod.fst search, payload⟩

end Pair

end Sample

/-- Node 1 sends two messages in one second. Node 2 returns both and stores the first. -/
theorem second_of_one_second_lost : ∃ first second,
    (sendDm (Sample.node Sample.pairCrates 1 [2]) Sample.env (Sample.nodeId 2) "halo" none
      none).sent = some first ∧
    (sendDm (Sample.afterHalo Sample.pairCrates) Sample.lagiEnv (Sample.nodeId 2) "lagi" none
      none).sent = some second ∧
    ¬ Always Inbox.step Inbox.Stored (Inbox.start Sample.reader)
      [Sample.reading first, Sample.reading second] := by
  obtain ⟨first, sent⟩ := @Sample.sends _ _ (Sample.node Sample.pairCrates 1 [2]) Sample.env
    "halo" (by decide) (by decide) rfl
  obtain ⟨second, resent⟩ := @Sample.sends _ _ (Sample.afterHalo Sample.pairCrates)
    Sample.lagiEnv "lagi" (by decide) (by decide) rfl
  refine ⟨first, second, sent, resent, ?_⟩
  rcases @Sample.row_made first ⟨⟨Sample.peerRow, Sample.nodeId 1⟩, Sample.key 1, 0,
    Sample.halo⟩ Sample.halo rfl rfl rfl with ⟨row, made, named, row_packet⟩
  rcases Sample.finds_second sent resent with ⟨found, search, payload⟩
  rcases Sample.row_made payload rfl rfl with ⟨later, later_made, later_named, later_packet⟩
  have table := (returns_of_search (Sample.parse_reading first) (Sample.finds_first sent) made).2
  rintro ⟨-, -, stored⟩
  refine Inbox.lost_step ?_ stored
  intro room
  apply room _ found later (Sample.parse_reading second) search later_made
  have rows : ((Inbox.start Sample.reader).step (Sample.reading first)).node.store.messages.rows =
      [row] := by
    have free : ¬ Sample.reader.store.messages.Conflicts row := by
      rintro (taken | taken) <;> cases taken
    rw [Inbox.step, Sample.reading]
    dsimp only
    rw [Inbox.start, table, Messages.insertOrIgnore, dif_neg free]
    rfl
  constructor
  · left
    rw [rows]
    simp [named, later_named]
  · rw [Messages.Holds, rows, List.map_singleton, List.mem_singleton]
    intro same
    have samePacket := congrArg Envelope.packetId same
    apply Sample.ids_apart sent resent
    rw [← row_packet, ← later_packet]
    exact samePacket.symm

end Caraka
