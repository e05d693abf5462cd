import Caraka.Activity
import Caraka.Sample

/-! Which stored messages `get_messages` still decrypts. -/

namespace Caraka

open Foundation

variable {crates : Crates}

theorem fromStrRadix16_pair {high low : UInt8} {h l : Nat} (readHigh : Hex.value high = some h)
    (readLow : Hex.value low = some l) :
    fromStrRadix16 [high, low] = some (UInt8.ofNat (16 * h + l)) := by
  have digit : high ≠ 0x2B := by
    rintro rfl
    cases readHigh
  simp [fromStrRadix16, digit, readHigh, readLow]

theorem chunks2_of_decodePairs {text bytes : Bytes} (read : Hex.decodePairs text = some bytes) :
    (chunks2 text).length = bytes.length ∧
      (chunks2 text).filterMap fromStrRadix16 = bytes := by
  induction text using Hex.decodePairs.induct generalizing bytes with
  | case1 =>
      cases read
      exact ⟨rfl, rfl⟩
  | case2 => cases read
  | case3 high low rest h l readLow readHigh ih =>
      simp only [Hex.decodePairs, readHigh, readLow, Option.map_eq_some_iff] at read
      rcases read with ⟨tail, here, rfl⟩
      rcases ih here with ⟨size, chunks⟩
      rw [chunks2, List.filterMap_cons, fromStrRadix16_pair readHigh readLow, chunks,
        List.length_cons, size, List.length_cons]
      exact ⟨rfl, rfl⟩
  | case4 high low rest bad =>
      simp only [Hex.decodePairs] at read
      cases read

theorem storedPacketId_of_decode {text : String} {packetId : Octets 8}
    (read : Hex.decode text = some packetId.bytes) : storedPacketId text = packetId := by
  rcases chunks2_of_decodePairs read with ⟨size, chunks⟩
  rw [packetId.length_eq] at size
  rw [storedPacketId, List.take_of_length_le (Nat.le_of_eq size), chunks, tryInto_bytes,
    Option.getD_some]

/-- The clock is within the window of the time in the nonce of a row. -/
def StoredMessage.InWindow (now : UInt64) (row : StoredMessage) : Prop :=
  absDiff now.toNat (leValue (row.nonce.take 4)) ≤ 300

instance (now : UInt64) (row : StoredMessage) : Decidable (row.InWindow now) :=
  inferInstanceAs (Decidable (_ ≤ _))

/-- The key `get_messages` tries on a row with a recorded counter. -/
def storedKey (identity : Identity crates) (peerPub : NodePublicKey) (row : StoredMessage) :
    AeadKey :=
  if row.senderId = identity.nodeIdHex then sendKey identity peerPub row.msgCounter.toNat
  else receiveKey crates identity peerPub row.msgCounter.toNat

def StoredMessage.Between (row : StoredMessage) (myNodeId peerNodeId : String) : Prop :=
  (row.senderId = myNodeId ∧ row.recipientId = peerNodeId) ∨
    (row.senderId = peerNodeId ∧ row.recipientId = myNodeId)

instance (row : StoredMessage) (myNodeId peerNodeId : String) :
    Decidable (row.Between myNodeId peerNodeId) :=
  inferInstanceAs (Decidable (_ ∨ _))

/-- A row that holds `text` for the chat with `peerPub`, apart from the age of its nonce. -/
structure Holds (identity : Identity crates) (row : StoredMessage) (peerPub : NodePublicKey)
    (nonce : Nonce) (inner : DmInnerPayload) : Prop where
  recorded : 0 ≤ row.msgCounter
  nonce_eq : row.nonce = nonce.bytes
  spelled : ∀ peerId, ((row.senderId = identity.nodeIdHex ∧ row.recipientId = peerId) ∨
    (row.senderId = peerId ∧ row.recipientId = identity.nodeIdHex)) →
      parseNodeId peerId = some peerPub
  opens : ∃ tag packetId plaintext, row.aeadTag = tag.bytes ∧
    Hex.decode row.packetId = some (packetId : Octets 8).bytes ∧
    crates.asconDecrypt (storedKey identity peerPub row) nonce
      (row.ciphertext ++ (tag : Octets 16).bytes) (receiveAad .dm packetId) = some plaintext ∧
    crates.dmFromSlice plaintext = some inner

theorem uint64_ofInt {counter : Int} (recorded : 0 ≤ counter) :
    UInt64.ofInt counter = UInt64.ofNat counter.toNat := by
  apply UInt64.toNat_inj.mp
  rw [UInt64.ofInt, UInt64.toNat_ofNat', UInt64.toNat_ofNat']
  omega

section Read

variable {identity : Identity crates} {now : UInt64} {row : StoredMessage}
  {peerPub : NodePublicKey} {nonce : Nonce} {inner : DmInnerPayload}

theorem inWindow_iff (now : UInt64) (same : row.nonce = nonce.bytes) :
    row.InWindow now ↔ Fresh now nonce := by
  simp only [StoredMessage.InWindow, Fresh, embeddedTs, slice, same, List.drop_zero]

theorem tryStoredCounter_eq_some {tag : Octets 16} {aad : Bytes} {read : DmInnerPayload}
    (recorded : 0 ≤ row.msgCounter) :
    tryStoredCounter crates identity now peerPub
        (deriveSessionId crates (ecdh crates identity.myPrivateKey peerPub))
        (decide (row.senderId = identity.nodeIdHex)) nonce row.ciphertext tag aad
        (UInt64.ofInt row.msgCounter) = some read ↔
      Fresh now nonce ∧ ∃ plaintext, crates.asconDecrypt (storedKey identity peerPub row) nonce
        (row.ciphertext ++ tag.bytes) aad = some plaintext ∧
        crates.dmFromSlice plaintext = some read := by
  have key : (if decide (row.senderId = identity.nodeIdHex) = true then
        deriveDmKey crates (ecdh crates identity.myPrivateKey peerPub) identity.myNodeId peerPub
          (deriveSessionId crates (ecdh crates identity.myPrivateKey peerPub))
          (UInt64.ofInt row.msgCounter)
      else deriveDmKey crates (ecdh crates identity.myPrivateKey peerPub) peerPub
          identity.myNodeId (deriveSessionId crates (ecdh crates identity.myPrivateKey peerPub))
          (UInt64.ofInt row.msgCounter)) = storedKey identity peerPub row := by
    simp only [storedKey, sendKey, receiveKey, uint64_ofInt recorded, decide_eq_true_eq]
  unfold tryStoredCounter
  dsimp only
  rw [key]
  split
  · rename_i failed
    simp only [reduceCtorEq, false_iff, not_and, not_exists]
    intro fresh plaintext opens
    rw [decrypt_eq_ok.mpr ⟨fresh, opens⟩] at failed
    cases failed
  · rename_i plaintext decrypted
    rcases decrypt_eq_ok.mp decrypted with ⟨fresh, opens⟩
    simp [fresh, opens]

theorem Holds.readRow_eq {sendCounter recvHint : Nat}
    (holds : Holds identity row peerPub nonce inner) {tag : Octets 16}
    (sameTag : row.aeadTag = tag.bytes) :
    (readRow crates identity now peerPub
        (deriveSessionId crates (ecdh crates identity.myPrivateKey peerPub)) sendCounter recvHint
        row nonce tag).map Prod.fst =
      if row.InWindow now then some inner else none := by
  rcases holds.opens with ⟨stored, packetId, plaintext, tagged, idRead, decrypted, parsed⟩
  obtain rfl : stored = tag := Octets.ext (tagged.symm.trans sameTag)
  rw [readRow_recorded nonce stored holds.recorded, storedPacketId_of_decode idRead,
    Option.map_map]
  have reads : ∀ read, tryStoredCounter crates identity now peerPub
      (deriveSessionId crates (ecdh crates identity.myPrivateKey peerPub))
      (decide (row.senderId = identity.nodeIdHex)) nonce row.ciphertext stored
      (receiveAad .dm packetId) (UInt64.ofInt row.msgCounter) = some read ↔
        Fresh now nonce ∧ read = inner := by
    intro read
    rw [tryStoredCounter_eq_some holds.recorded]
    simp [decrypted, parsed, eq_comm]
  have window := inWindow_iff now holds.nonce_eq
  by_cases fresh : Fresh now nonce
  · rw [if_pos (window.mpr fresh), (reads inner).mpr ⟨fresh, rfl⟩]
    rfl
  · rw [if_neg (mt window.mp fresh), Option.map_eq_none_iff, Option.eq_none_iff_forall_not_mem]
    intro read member
    exact fresh ((reads read).mp member).1

end Read

/-- A call of `send_dm` or `try_decrypt_packet` that stored a row, and the text sent or received
with it. What was received names its sender and this node, as honest peers write it. -/
inductive Stored (node : AppState crates) : Activity → StoredMessage → String → Prop where
  | sent {env : SendEnv} {recipientId plaintext : String} {replyToId replyToText : Option String}
      {row : StoredMessage}
      (readable : ∀ peerPub, parseNodeId recipientId = some peerPub →
        crates.ReadsDm
          (sentDmPayload node env recipientId plaintext replyToId replyToText peerPub))
      (old : row ∉ node.store.messages.rows)
      (new : row ∈ (node.perform (.sendDm env recipientId plaintext replyToId
        replyToText)).store.messages.rows) :
      Stored node (.sendDm env recipientId plaintext replyToId replyToText) row plaintext
  | received {now : UInt64} {packetId nonceHex ciphertextHex aeadTagHex : String}
      {info : MessageInfo} {row : StoredMessage}
      (returned : (tryDecryptPacket node now packetId nonceHex ciphertextHex aeadTagHex).result =
        .ok (some info))
      (honest : ∀ presented found store,
        parsePresented packetId nonceHex ciphertextHex aeadTagHex = .ok presented →
        searchPeers crates crates.dmFromSlice .dm node.identity now presented
          node.store.getAllPeers node.store = (some found, store) →
        found.payload.senderId = Hex.encode found.peerPub.bytes ∧
          found.payload.recipientId = node.identity.nodeIdHex)
      (old : row ∉ node.store.messages.rows)
      (new : row ∈ (node.perform (.tryDecrypt now packetId nonceHex ciphertextHex
        aeadTagHex)).store.messages.rows) :
      Stored node (.tryDecrypt now packetId nonceHex ciphertextHex aeadTagHex) row info.plaintext

theorem spelled_of_own {identity : Identity crates} {row : StoredMessage} {peerPub : NodePublicKey}
    (own : row.senderId = identity.nodeIdHex) (known : parseNodeId row.recipientId = some peerPub)
    (peerId : String) (between : row.Between identity.nodeIdHex peerId) :
    parseNodeId peerId = some peerPub := by
  rcases between with ⟨-, same⟩ | ⟨same, recipient⟩
  · rwa [← same]
  · have self : row.recipientId = peerId := recipient.trans (own.symm.trans same)
    rwa [← self]

theorem spelled_of_sender {identity : Identity crates} {row : StoredMessage}
    {peerPub : NodePublicKey} (sender : row.senderId = Hex.encode peerPub.bytes)
    (self : row.senderId = identity.nodeIdHex → row.recipientId = identity.nodeIdHex)
    (peerId : String) (between : row.Between identity.nodeIdHex peerId) :
    parseNodeId peerId = some peerPub := by
  rcases between with ⟨own, same⟩ | ⟨same, -⟩
  · rw [← same, self own, ← own, sender, parseNodeId_encode]
  · rw [← same, sender, parseNodeId_encode]

theorem storedKey_of_sender {identity : Identity crates} {row : StoredMessage}
    {peerPub : NodePublicKey} (sender : row.senderId = Hex.encode peerPub.bytes) :
    storedKey identity peerPub row = receiveKey crates identity peerPub row.msgCounter.toNat := by
  rw [storedKey]
  split
  · rename_i own
    rw [sender, identity.nodeIdHex_eq] at own
    have self : peerPub = identity.myNodeId := Octets.ext (Hex.encode_injective own)
    rw [self]
    rfl
  · rfl

theorem opens_dmRow (opens : crates.Opens) {node : AppState crates} {env : SendEnv}
    {recipientId plaintext : String} {replyToId replyToText : Option String}
    {peerPub : NodePublicKey} {packet : ClampPacket}
    (built : DmBuilt node env recipientId plaintext replyToId replyToText peerPub packet) :
    crates.asconDecrypt (storedKey node.identity peerPub
        (dmRow node.identity env recipientId (sendCounter node recipientId peerPub) packet))
      packet.nonce (packet.ciphertext ++ packet.aeadTag.bytes)
      (receiveAad .dm packet.header.packetId) =
        some (sentDmPayload node env recipientId plaintext replyToId replyToText
          peerPub).toVec := by
  have encryption := sealed_of_buildPacket built
  rcases encryption.encrypted with ⟨output, encrypted, split⟩
  have key : storedKey node.identity peerPub
      (dmRow node.identity env recipientId (sendCounter node recipientId peerPub) packet) =
        sendKey node.identity peerPub (sendCounter node recipientId peerPub) := if_pos rfl
  have decrypted := opens _ _ _ _ _ encrypted
  rwa [split, ← encryption.nonce_eq, ← encryption.packetId_eq, ← key] at decrypted

theorem holds_of_dmBuilt (opens : crates.Opens) {node : AppState crates} {env : SendEnv}
    {recipientId plaintext : String} {replyToId replyToText : Option String}
    {peerPub : NodePublicKey} {packet : ClampPacket}
    (known : parseNodeId recipientId = some peerPub)
    (readable : crates.ReadsDm
      (sentDmPayload node env recipientId plaintext replyToId replyToText peerPub))
    (built : DmBuilt node env recipientId plaintext replyToId replyToText peerPub packet) :
    Holds node.identity
      (dmRow node.identity env recipientId (sendCounter node recipientId peerPub) packet) peerPub
      packet.nonce
      (sentDmPayload node env recipientId plaintext replyToId replyToText peerPub) where
  recorded := Int.natCast_nonneg _
  nonce_eq := rfl
  spelled := spelled_of_own rfl known
  opens := ⟨packet.aeadTag, packet.header.packetId, _, rfl, Hex.decode_encode _,
    opens_dmRow opens built, readable⟩

theorem holds_of_search {node : AppState crates} {now : UInt64}
    {packetId nonceHex ciphertextHex aeadTagHex : String} {presented : Presented}
    {found : Found DmInnerPayload} {store : Store} {row : StoredMessage}
    (parsed : parsePresented packetId nonceHex ciphertextHex aeadTagHex = .ok presented)
    (search : searchPeers crates crates.dmFromSlice .dm node.identity now presented
      node.store.getAllPeers node.store = (some found, store))
    (saved : receivedRow now packetId presented found = some row)
    (sender : found.payload.senderId = Hex.encode found.peerPub.bytes)
    (recipient : found.payload.recipientId = node.identity.nodeIdHex) :
    Holds node.identity row found.peerPub presented.nonce found.payload := by
  rcases searchPeers_some search with ⟨-, -, -, -, ⟨plaintext, decrypted, parses⟩, -⟩
  rcases Option.map_eq_some_iff.mp saved with ⟨front, -, rfl⟩
  refine ⟨Int.natCast_nonneg _, rfl, spelled_of_sender sender fun _ => recipient, ?_⟩
  refine ⟨presented.aeadTag, presented.packetId, plaintext, rfl,
    (parsePresented_eq_ok.mp parsed).1, ?_, parses⟩
  rw [storedKey_of_sender sender]
  exact decrypted

theorem holds_of_stored (opens : crates.Opens) {node : AppState crates} {activity : Activity}
    {row : StoredMessage} {text : String} (stored : Stored node activity row text) :
    row ∈ (node.perform activity).store.messages.rows ∧ ∃ peerPub nonce inner,
      Holds node.identity row peerPub nonce inner ∧ inner.text = text := by
  cases stored with
  | @sent env recipientId plaintext replyToId replyToText _ readable old new =>
      refine ⟨new, ?_⟩
      have rows : ∀ {peerPub packet}, parseNodeId recipientId = some peerPub →
          DmBuilt node env recipientId text replyToId replyToText peerPub packet →
          row ∈ (savedStore node env recipientId peerPub packet).messages.rows →
          ∃ peerPub nonce inner, Holds node.identity row peerPub nonce inner ∧
            inner.text = text := by
        intro peerPub packet known built member
        rcases Messages.mem_insertOrIgnore member with before | same
        · rw [messages_openedStore] at before
          exact absurd before old
        · rw [same]
          exact ⟨peerPub, _, _, holds_of_dmBuilt opens known (readable peerPub known) built, rfl⟩
      have ended := sendDm_end node env recipientId text replyToId replyToText
      change row ∈ (sendDm node env recipientId text replyToId replyToText).node.store.messages.rows
        at new
      generalize sendDm node env recipientId text replyToId replyToText = outcome at ended new
      cases ended with
      | refused => exact absurd new old
      | opened =>
          refine absurd ?_ old
          change row ∈ (openedStore node recipientId _).messages.rows at new
          rwa [messages_openedStore] at new
      | saved error known built => exact rows known built new
      | counted error known built => exact rows known built new
      | sent events notBlank short known noFault built => exact rows known built new
  | @received now packetId nonceHex ciphertextHex aeadTagHex info _ returned honest old new =>
      refine ⟨new, ?_⟩
      obtain ⟨presented, found, store, saved, parsed, received, rfl⟩ :=
        tryDecryptPacket_some returned
      rcases honest _ _ _ parsed received.search with ⟨sender, recipient⟩
      change row ∈ (tryDecryptPacket node now packetId nonceHex ciphertextHex
        aeadTagHex).node.store.messages.rows at new
      rw [received.node_eq] at new
      rcases Messages.mem_insertOrIgnore new with before | same
      · rw [(frame_of_search received.search).1] at before
        exact absurd before old
      · rw [same]
        exact ⟨_, _, _, holds_of_search parsed received.search received.row_eq sender recipient,
          rfl⟩

theorem getMessages_of_known {node : AppState crates} {peerId : String} {peerPub : NodePublicKey}
    (known : parseNodeId peerId = some peerPub) (now : UInt64) (limit : Option Nat) :
    ∃ sendCounter recvHint store, (getMessages node now peerId limit).2 =
      .ok (showRows crates node.identity now peerPub
        (deriveSessionId crates (ecdh crates node.identity.myPrivateKey peerPub)) sendCounter
        recvHint (node.store.getMessagesBetween node.identity.nodeIdHex peerId
          (min (limit.getD 50) 200)) store).1 := by
  rcases Option.bind_eq_some_iff.mp known with ⟨bytes, decoded, parsed⟩
  simp only [getMessages, decoded, parsed, Store.getOrCreateSession_fst]
  exact ⟨_, _, _, rfl⟩

/-- Whether `get_messages` shows a row of its answer decrypted, with this text. -/
def ShowsDecrypted (node : AppState crates) (now : UInt64) (peerId : String) (limit : Option Nat)
    (row : StoredMessage) (text : String) : Prop :=
  ∃ shown, (getMessages node now peerId limit).2 = .ok shown ∧
    ∃ entry ∈ shown, entry.id = row.id ∧ entry.decrypted = true ∧ entry.text = text

/-- The rows `get_messages` reads for a peer. -/
def queried (node : AppState crates) (peerId : String) (limit : Option Nat) :
    List StoredMessage :=
  node.store.getMessagesBetween node.identity.nodeIdHex peerId (min (limit.getD 50) 200)

theorem Holds.shown_iff {node : AppState crates} {row : StoredMessage} {peerPub : NodePublicKey}
    {nonce : Nonce} {inner : DmInnerPayload} (holds : Holds node.identity row peerPub nonce inner)
    (now : UInt64) {peerId : String} {limit : Option Nat}
    (included : row ∈ queried node peerId limit) :
    ShowsDecrypted node now peerId limit row inner.text ↔ row.InWindow now := by
  have found := Store.mem_getMessagesBetween included
  obtain ⟨sendCounter, recvHint, store, answer⟩ :=
    getMessages_of_known (holds.spelled peerId found.2) now limit
  rcases holds.opens with ⟨tag, -, -, tagged, -⟩
  have nonceRead : tryInto 16 row.nonce = some nonce := by rw [holds.nonce_eq, tryInto_bytes]
  have tagRead : tryInto 16 row.aeadTag = some tag := by rw [tagged, tryInto_bytes]
  have read := @Holds.readRow_eq _ _ now _ _ _ _ sendCounter recvHint holds _ tagged
  constructor
  · rintro ⟨shown, same, entry, member, sameId, decrypted, -⟩
    rw [answer] at same
    cases same
    rcases mem_showRows.mp member with ⟨msg, between, msgNonce, msgTag, hasNonce, hasTag, rfl⟩
    rw [id_showRow] at sameId
    have stored := (Store.mem_getMessagesBetween between).1
    rcases List.inj_on_of_nodup_map node.store.messages.ids_nodup stored found.1 sameId with rfl
    rcases Option.some.inj (nonceRead.symm.trans hasNonce) with rfl
    rcases Option.some.inj (tagRead.symm.trans hasTag) with rfl
    rw [read] at decrypted
    by_contra late
    rw [if_neg late] at decrypted
    cases decrypted
  · intro inWindow
    rw [if_pos inWindow] at read
    refine ⟨_, answer, _, mem_showRows.mpr ⟨row, included, nonce, tag, nonceRead, tagRead, rfl⟩, ?_⟩
    rw [read]
    exact ⟨rfl, rfl, rfl⟩

namespace Sample

def haloSend : Activity := .sendDm env bob.identity.nodeIdHex "halo" none none

def haloRow : StoredMessage := dmRow alice.identity env bob.identity.nodeIdHex 0 haloPacket

theorem rows_haloSend : (alice.perform haloSend).store.messages.rows = [haloRow] := by
  rfl

theorem haloRow_stored : Stored alice haloSend haloRow "halo" := by
  refine .sent (fun peerPub known => ?_) (List.not_mem_nil) ?_
  · obtain rfl : peerPub = bob.identity.myNodeId :=
      (Option.some.inj ((parseNodeId_encode (key 2)).symm.trans known)).symm
    exact haloReadable
  · change haloRow ∈ (alice.perform haloSend).store.messages.rows
    rw [rows_haloSend]
    exact List.mem_singleton_self _

theorem haloRow_queried :
    haloRow ∈ queried (alice.perform haloSend) bob.identity.nodeIdHex none := by
  have chat : (haloRow.senderId = alice.identity.nodeIdHex ∧
      haloRow.recipientId = bob.identity.nodeIdHex) := ⟨rfl, rfl⟩
  change haloRow ∈ (((alice.perform haloSend).store.messages.rows.filter _).insertionSort _).take 50
  rw [rows_haloSend, List.filter_cons, if_pos (by simpa using .inl chat)]
  exact List.mem_singleton_self _

end Sample

/-- What `send_dm` or `try_decrypt_packet` stored is read back exactly while the clock is within
300 seconds of the time in its nonce, whatever the node has done since. -/
theorem history_readable_iff (opens : crates.Opens) {node : AppState crates} {activity : Activity}
    {row : StoredMessage} {text : String} (stored : Stored node activity row text)
    (later : List Activity) (now : UInt64) {peerId : String} {limit : Option Nat}
    (included : row ∈ queried ((node.perform activity).live later) peerId limit) :
    ShowsDecrypted ((node.perform activity).live later) now peerId limit row text ↔
      row.InWindow now := by
  rcases holds_of_stored opens stored with ⟨-, peerPub, nonce, inner, holds, rfl⟩
  have evolves := (evolves_perform node activity).trans (evolves_live _ later)
  rw [← evolves.identity_eq] at holds
  exact holds.shown_iff now included

theorem queried_broadcast (node : AppState crates) (env : SendEnv) (text peerId : String)
    (limit : Option Nat) :
    queried (node.live [.sendBroadcast env text]) peerId limit = queried node peerId limit := by
  rw [queried, AppState.live, run_cons, run_nil, AppState.perform, store_sendBroadcast,
    (keeps_sendBroadcast node env text).identity_eq, queried]

/-- The sample message is read 200 seconds after it was sent and a broadcast later. -/
theorem history_readable_iff_halo : ShowsDecrypted
    ((Sample.alice.perform Sample.haloSend).live [.sendBroadcast Sample.env "hai"]) 1200
    Sample.bob.identity.nodeIdHex none Sample.haloRow "halo" := by
  have included := Sample.haloRow_queried
  rw [← queried_broadcast _ Sample.env "hai"] at included
  have inside : Sample.haloRow.InWindow 1200 := by decide
  exact (history_readable_iff Sample.opens Sample.haloRow_stored
    [.sendBroadcast Sample.env "hai"] 1200 included).mpr inside

/-- Another 101 seconds on, node 1 no longer reads the message it sent. -/
theorem sent_message_unreadable : Stored Sample.alice Sample.haloSend Sample.haloRow "halo" ∧
    Sample.haloRow ∈ queried (Sample.alice.perform Sample.haloSend)
      Sample.bob.identity.nodeIdHex none ∧
    ¬ ShowsDecrypted (Sample.alice.perform Sample.haloSend) 1301 Sample.bob.identity.nodeIdHex
      none Sample.haloRow "halo" := by
  refine ⟨Sample.haloRow_stored, Sample.haloRow_queried, ?_⟩
  obtain ⟨-, peerPub, nonce, inner, holds, text⟩ :=
    holds_of_stored Sample.opens Sample.haloRow_stored
  rw [← (evolves_perform Sample.alice Sample.haloSend).identity_eq] at holds
  have late : ¬ Sample.haloRow.InWindow 1301 := by decide
  intro shows
  rw [← text] at shows
  exact late ((holds.shown_iff 1301 Sample.haloRow_queried).mp shows)

end Caraka
