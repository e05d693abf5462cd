import Caraka.Commands.Sent
import Caraka.Relaying
import Caraka.Sample

/-! How long the packets are that a node puts on its channels, and which of them fit a frame. -/

namespace Caraka

open Foundation

variable {crates : Crates}

def escapedLength (text : String) : Nat := (Json.escaped text).length

def decimals (value : UInt64) : Nat := value.toNat.repr.length

theorem decimals_le (value : UInt64) : decimals value ≤ 20 := by
  rw [decimals, ← Json.length_number]
  exact Json.length_number_le value

theorem escapedLength_plain {text : String} (plain : Json.PlainText text) :
    escapedLength text = text.toList.length := by
  rw [String.length_toList]
  exact Json.length_escaped_plain plain

theorem escapedLength_encode (bytes : Bytes) :
    escapedLength (Hex.encode bytes) = 2 * bytes.length :=
  Hex.length_escaped_of_decode (Hex.decode_encode bytes)

theorem escapedLength_uuidV4 (random : Octets 16) : escapedLength (uuidV4 random) = 36 := by
  have hyphen : Json.Plain '-' := by decide
  rw [escapedLength_plain]
  · simp [uuidV4, random.length_eq]
  · intro c member
    simp only [uuidV4, String.toList_ofList, List.mem_append, List.mem_cons] at member
    rcases member with (((digit | rfl | digit) | rfl | digit) | rfl | digit) | rfl | digit
    all_goals first
      | exact hyphen
      | exact Hex.plain_digits _ c digit

theorem length_jsonString (name text : String) :
    (jsonString name text).length = escapedLength name + escapedLength text + 5 := by
  simp only [jsonString, Json.length_field, Json.length_string, escapedLength]
  omega

theorem length_jsonNumber (name : String) (value : UInt64) :
    (jsonNumber name value).length = escapedLength name + decimals value + 3 := by
  simp only [jsonNumber, Json.length_field, Json.length_number, escapedLength, decimals]
  omega

def optionalLength (name : Nat) (text : Option String) : Nat :=
  (text.map fun text => name + escapedLength text + 6).getD 0

/-- The length of a message packet, from what the caller passed and the clock and counter read. -/
def dmPacketLength (plaintext : String) (replyToId replyToText : Option String)
    (timestamp msgCounter : UInt64) : Nat :=
  294 + escapedLength plaintext + decimals timestamp + decimals msgCounter +
    optionalLength 11 replyToId + optionalLength 13 replyToText

/-- The length of a file packet, from the file and the clock and counter read. -/
def filePacketLength (fileSize : Nat) (filename : String) (timestamp msgCounter : UInt64) : Nat :=
  398 + escapedLength filename + escapedLength (mimeFromFilename filename) +
    decimals (UInt64.ofNat fileSize) + 4 * ((fileSize + 2) / 3) + decimals timestamp +
    decimals msgCounter

/-- The length of the answer to a `SyncReq`, from the packet ids listed. -/
def syncPacketLength (ids : List String) : Nat :=
  81 + (ids.map fun id => escapedLength id + 2).sum + (ids.length - 1)

theorem length_encode_eq (packet : ClampPacket) :
    packet.encode.length = 62 + packet.ciphertext.length := by
  rw [ClampPacket.length_encode]
  rfl

theorem length_syncResp (node : AppState crates) (idRandom : Octets 4) :
    (syncRespPacket crates node idRandom).encode.length =
      syncPacketLength node.store.getAllMessageIds := by
  have name : (Json.escaped "fingerprints").length = 12 := by decide
  rw [length_encode_eq]
  simp only [syncRespPacket, fingerprintsJson, Json.length_object, List.map_cons, List.map_nil,
    List.sum_cons, List.sum_nil, Json.length_field, Json.length_array, name, List.length_cons,
    List.length_nil, List.map_map, Function.comp_def, Json.length_string, syncPacketLength,
    escapedLength, List.length_map]
  omega

theorem length_jsonOptional (name : String) (text : Option String) :
    ((jsonOptional name text).map List.length).sum + (jsonOptional name text).length =
      optionalLength (escapedLength name) text := by
  cases text with
  | none => rfl
  | some text =>
      simp only [jsonOptional, Option.toList_some, List.map_cons, List.map_nil, List.sum_cons,
        List.sum_nil, List.length_cons, List.length_nil, length_jsonString, optionalLength,
        Option.map_some, Option.getD_some]
      omega

theorem length_dmPayload {payload : DmInnerPayload} {senderId sessionId recipientBytes : Bytes}
    (sender : payload.senderId = Hex.encode senderId) (senderSize : senderId.length = 32)
    (recipient : Hex.decode payload.recipientId = some recipientBytes)
    (recipientSize : recipientBytes.length = 32)
    (session : payload.sessionId = Hex.encode sessionId) (sessionSize : sessionId.length = 8) :
    62 + payload.toVec.length = dmPacketLength payload.text payload.replyToId payload.replyToText
      payload.timestamp payload.msgCounter := by
  have recipientLength : escapedLength payload.recipientId = 64 := by
    rw [escapedLength, Hex.length_escaped_of_decode recipient, recipientSize]
  have replyId := length_jsonOptional "reply_to_id" payload.replyToId
  have replyText := length_jsonOptional "reply_to_text" payload.replyToText
  simp (disch := decide) only [DmInnerPayload.toVec, Json.length_object, List.map_append,
    List.sum_append, List.length_append, List.map_cons, List.map_nil, List.sum_cons, List.sum_nil,
    List.length_cons, List.length_nil, length_jsonString, length_jsonNumber, sender, session,
    recipientLength, escapedLength_encode, senderSize, sessionSize, escapedLength_plain,
    String.reduceToList, Nat.zero_add, Nat.reduceAdd, dmPacketLength] at replyId replyText ⊢
  omega

theorem mimeType_of_read {file : DiskFile} {fileBytes : Bytes} {filename mimeType : String}
    (read : readFileForTransfer file = .ok (fileBytes, filename, mimeType)) :
    mimeType = mimeFromFilename filename := by
  unfold readFileForTransfer at read
  dsimp only at read
  split at read
  · cases read
  · split_ifs at read
    split at read
    · cases read
    · cases read
      rfl

theorem length_filePayload {payload : FilePayload} {senderId sessionId recipientBytes : Bytes}
    {fileBytes : Bytes} {uuid : Octets 16} (sender : payload.senderId = Hex.encode senderId)
    (senderSize : senderId.length = 32)
    (recipient : Hex.decode payload.recipientId = some recipientBytes)
    (recipientSize : recipientBytes.length = 32)
    (session : payload.sessionId = Hex.encode sessionId) (sessionSize : sessionId.length = 8)
    (transfer : payload.transferId = uuidV4 uuid)
    (mime : payload.mimeType = mimeFromFilename payload.filename)
    (size : payload.fileSize = UInt64.ofNat fileBytes.length)
    (data : payload.fileDataB64 = Base64.encode fileBytes) :
    62 + payload.toVec.length = filePacketLength fileBytes.length payload.filename
      payload.timestamp payload.msgCounter := by
  have recipientLength : escapedLength payload.recipientId = 64 := by
    rw [escapedLength, Hex.length_escaped_of_decode recipient, recipientSize]
  have dataLength : escapedLength payload.fileDataB64 = 4 * ((fileBytes.length + 2) / 3) := by
    rw [data, escapedLength, Base64.length_escaped_encode]
  simp (disch := decide) only [FilePayload.toVec, Json.length_object, List.map_cons, List.map_nil,
    List.sum_cons, List.sum_nil, List.length_cons, List.length_nil, length_jsonString,
    length_jsonNumber, sender, session, transfer, mime, size, dataLength, recipientLength,
    escapedLength_encode, escapedLength_uuidV4, senderSize, sessionSize, escapedLength_plain,
    String.reduceToList, Nat.zero_add, Nat.reduceAdd, filePacketLength]
  omega

theorem length_broadcastPayload_le {payload : BroadcastPayload} {senderId : Bytes}
    {uuid : Octets 16} (sender : payload.senderId = Hex.encode senderId)
    (senderSize : senderId.length = 32) (name : (utf8 payload.senderName).length ≤ 50)
    (text : (utf8 payload.text).length ≤ 500) (message : payload.messageId = uuidV4 uuid) :
    payload.toVec.length ≤ 3500 := by
  have nameLength : escapedLength payload.senderName ≤ 300 := by
    have grown := Json.length_escaped_le payload.senderName
    rw [escapedLength]
    omega
  have textLength : escapedLength payload.text ≤ 3000 := by
    have grown := Json.length_escaped_le payload.text
    rw [escapedLength]
    omega
  have timeLength := decimals_le payload.timestamp
  simp (disch := decide) only [BroadcastPayload.toVec, Json.length_object, List.map_cons,
    List.map_nil, List.sum_cons, List.sum_nil, List.length_cons, List.length_nil,
    length_jsonString, length_jsonNumber, sender, message, escapedLength_encode,
    escapedLength_uuidV4, senderSize, escapedLength_plain, String.reduceToList, Nat.zero_add,
    Nat.reduceAdd]
  omega

section Sends

variable {node : AppState crates} {env : SendEnv} {recipientId : String} {packet : ClampPacket}

theorem length_dm {plaintext : String} {replyToId replyToText : Option String}
    (sent : (sendDm node env recipientId plaintext replyToId replyToText).sent = some packet) :
    ∃ peerPub, parseNodeId recipientId = some peerPub ∧
      packet.encode.length = dmPacketLength plaintext replyToId replyToText env.now
        (UInt64.ofNat (sendCounter node recipientId peerPub)) := by
  rcases sendDm_sent sent with ⟨peerPub, facts⟩
  rcases Option.bind_eq_some_iff.mp facts.known with ⟨bytes, decoded, array⟩
  have size : bytes.length = 32 := tryInto_eq_some.mp array ▸ peerPub.length_eq
  refine ⟨peerPub, facts.known, ?_⟩
  rw [length_encode_eq, facts.encryption.length_eq]
  exact length_dmPayload node.identity.nodeIdHex_eq node.identity.myNodeId.length_eq decoded size
    rfl (Octets.length_eq _)

theorem length_file {file : DiskFile}
    (sent : (sendFile node env recipientId file).sent = some packet) :
    ∃ fileBytes filename mimeType peerPub,
      readFileForTransfer file = .ok (fileBytes, filename, mimeType) ∧
      parseNodeId recipientId = some peerPub ∧
      packet.encode.length = filePacketLength fileBytes.length filename env.now
        (UInt64.ofNat (sendCounter node recipientId peerPub)) := by
  rcases sendFile_sent sent with ⟨fileBytes, filename, mimeType, peerPub, facts⟩
  rcases Option.bind_eq_some_iff.mp facts.known with ⟨bytes, decoded, array⟩
  have size : bytes.length = 32 := tryInto_eq_some.mp array ▸ peerPub.length_eq
  refine ⟨fileBytes, filename, mimeType, peerPub, facts.read, facts.known, ?_⟩
  rw [length_encode_eq, facts.encryption.length_eq]
  exact length_filePayload node.identity.nodeIdHex_eq node.identity.myNodeId.length_eq decoded size
    rfl (Octets.length_eq _) rfl (mimeType_of_read facts.read) rfl rfl

theorem length_broadcast_le {text : String}
    (sent : (sendBroadcast node env text).sent = some packet) :
    packet.encode.length ≤ maxPacketSize := by
  unfold sendBroadcast at sent
  split at sent
  · cases sent
  split at sent
  · cases sent
  rename_i short
  cases sent
  have bound : (BroadcastPayload.toVec ⟨node.identity.nodeIdHex, node.displayName.val, text,
      env.now, uuidV4 env.uuidRandom⟩).length ≤ 3500 :=
    length_broadcastPayload_le node.identity.nodeIdHex_eq node.identity.myNodeId.length_eq
      node.displayName.property (Nat.le_of_not_lt short) rfl
  rw [length_encode_eq]
  simp only [ClampPacket.buildBroadcast, maxPacketSize]
  omega

end Sends

section Queues

/-- A byte string that waits on the channel of some connection. -/
def Queued (senders : PeerSenders) (data : Bytes) : Prop :=
  ∃ peerId channel, senders.get? peerId = some channel ∧ data ∈ channel.queued

variable {senders : PeerSenders} {packet : ClampPacket} {data : Bytes}

theorem queued_mapValues {change : String → Channel → Channel} {sent : Bytes}
    (adds : ∀ peerId channel, data ∈ (change peerId channel).queued →
      data ∈ channel.queued ∨ data = sent)
    (queued : Queued (senders.mapValues change) data) : Queued senders data ∨ data = sent := by
  rcases queued with ⟨peerId, channel, held, member⟩
  rw [AssocMap.get?_mapValues] at held
  rcases Option.map_eq_some_iff.mp held with ⟨old, before, rfl⟩
  rcases adds peerId old member with present | new
  · exact .inl ⟨peerId, old, before, present⟩
  · exact .inr new

theorem queued_broadcastPacket (queued : Queued (broadcastPacket packet senders) data) :
    Queued senders data ∨ data = packet.encode :=
  queued_mapValues (fun _ _ => Channel.mem_trySend) queued

theorem queued_relayPacket {senderKey : String}
    (queued : Queued (relayPacket packet senderKey senders) data) :
    Queued senders data ∨ data = packet.encode := by
  refine queued_mapValues (fun peerId channel member => ?_) queued
  split_ifs at member
  · exact Channel.mem_trySend member
  · exact .inl member

def SendOutcome.Tidy (node : AppState crates) (outcome : SendOutcome crates) : Prop :=
  (∃ error, outcome.result = .error error ∧ outcome.sent = none ∧
      outcome.node.peerSenders = node.peerSenders) ∨
    ∃ value packet, outcome.result = .ok value ∧ outcome.sent = some packet ∧
      outcome.node.peerSenders = broadcastPacket packet node.peerSenders

theorem tidy_fail {node other : AppState crates} (same : other.peerSenders = node.peerSenders)
    (error : String) : (SendOutcome.fail other error).Tidy node :=
  .inl ⟨error, rfl, rfl, same⟩

theorem tidy_sendDm (node : AppState crates) (env : SendEnv) (recipientId plaintext : String)
    (replyToId replyToText : Option String) :
    (sendDm node env recipientId plaintext replyToId replyToText).Tidy node := by
  rw [sendDm]
  dsimp only
  repeat' split
  all_goals first
    | exact tidy_fail rfl _
    | exact .inr ⟨_, _, rfl, rfl, rfl⟩

theorem tidy_sendFile (node : AppState crates) (env : SendEnv) (recipientId : String)
    (file : DiskFile) : (sendFile node env recipientId file).Tidy node := by
  rw [sendFile]
  dsimp only
  repeat' split
  all_goals first
    | exact tidy_fail rfl _
    | exact .inr ⟨_, _, rfl, rfl, rfl⟩

theorem tidy_sendBroadcast (node : AppState crates) (env : SendEnv) (text : String) :
    (sendBroadcast node env text).Tidy node := by
  rw [sendBroadcast]
  split
  · exact tidy_fail rfl _
  split
  · exact tidy_fail rfl _
  · exact .inr ⟨_, _, rfl, rfl, rfl⟩

theorem queued_send {node : AppState crates} {outcome : SendOutcome crates} {value : String}
    (tidy : outcome.Tidy node) (returned : outcome.result = .ok value) :
    ∃ packet, outcome.sent = some packet ∧ ∀ data, Queued outcome.node.peerSenders data →
      Queued node.peerSenders data ∨ data = packet.encode := by
  rcases tidy with ⟨error, failed, -⟩ | ⟨_, packet, -, sent, senders⟩
  · rw [failed] at returned
    cases returned
  · exact ⟨packet, sent, fun data queued => queued_broadcastPacket (senders ▸ queued)⟩

theorem queued_relay {relayPkt : ClampPacket} {senderKey : String}
    (queued : Queued (relayPacket relayPkt senderKey senders) data)
    (same : relayPkt.ciphertext.length = packet.ciphertext.length) :
    Queued senders data ∨ data.length = packet.encode.length := by
  refine (queued_relayPacket queued).imp_right fun new => ?_
  rw [new, length_encode_eq, length_encode_eq, same]

theorem queued_handleBroadcast {node : AppState crates} {senderKey : String}
    (queued : Queued (handleBroadcast node packet senderKey).1.peerSenders data) :
    Queued node.peerSenders data ∨ data.length = packet.encode.length := by
  unfold handleBroadcast at queued
  split at queued
  · exact .inl queued
  · dsimp only at queued
    split at queued
    · exact .inl queued
    · split at queued
      · exact queued_relay queued rfl
      · exact .inl queued

theorem queued_handleRouted {node : AppState crates} {env : ReceiveEnv} {senderKey : String}
    (queued : Queued (handleRouted node env packet senderKey).1.peerSenders data) :
    Queued node.peerSenders data ∨ data.length = packet.encode.length := by
  unfold handleRouted at queued
  cases identity : sourceNodeId senderKey packet with
  | none =>
      rw [identity] at queued
      exact .inl queued
  | some source =>
      rw [identity] at queued
      dsimp only at queued
      rcases Router.handleIncoming_cases crates node.router env.instant packet source with
        ⟨reason, router, dropped, -⟩ | ⟨-, router, -, accepted⟩
      · rw [dropped] at queued
        exact .inl queued
      · rw [accepted] at queued
        by_cases live : packet.header.ttl > 0
        · rw [if_pos live] at queued
          exact queued_relay queued rfl
        · rw [if_neg live] at queued
          exact .inl queued

theorem queued_processIncomingPacket {node : AppState crates} {env : ReceiveEnv} {raw : Bytes}
    {senderKey : String} {kind : ConnKind}
    (queued : Queued (processIncomingPacket node env raw senderKey kind).1.peerSenders data) :
    Queued node.peerSenders data ∨ data.length = raw.length ∨
      data = (syncRespPacket crates node env.idRandom).encode := by
  unfold processIncomingPacket at queued
  cases read : ClampPacket.decode raw with
  | error e =>
      rw [read] at queued
      exact .inl queued
  | ok packet =>
      rw [read] at queued
      rcases ClampPacket.decode_eq_ok.mp read with ⟨-, rfl⟩
      dsimp only at queued
      split at queued
      · refine (queued_mapValues (fun peerId channel member => ?_) queued).imp_right .inr
        split_ifs at member
        · exact Channel.mem_trySend member
        · exact .inl member
      · exact .inl queued
      · unfold handleSyncData at queued
        split at queued <;> exact .inl queued
      · exact .inl queued
      · exact (queued_handleBroadcast queued).imp_right .inl
      all_goals exact (queued_handleRouted queued).imp_right .inl

end Queues

/-- What a node puts on its channels fits a frame: a message or a file exactly where its JSON is
short enough, the answer to a `SyncReq` exactly where the stored ids are, a broadcast and whatever
is relayed always. -/
theorem enqueued_fits_iff (node : AppState crates) :
    (∀ env recipientId plaintext replyToId replyToText value,
      (sendDm node env recipientId plaintext replyToId replyToText).result = .ok value →
      ∃ packet peerPub, parseNodeId recipientId = some peerPub ∧
        (sendDm node env recipientId plaintext replyToId replyToText).sent = some packet ∧
        (∀ data, Queued (sendDm node env recipientId plaintext replyToId
            replyToText).node.peerSenders data →
          Queued node.peerSenders data ∨ data = packet.encode) ∧
        (packet.encode.length ≤ maxPacketSize ↔
          dmPacketLength plaintext replyToId replyToText env.now
            (UInt64.ofNat (sendCounter node recipientId peerPub)) ≤ maxPacketSize)) ∧
    (∀ env recipientId file value, (sendFile node env recipientId file).result = .ok value →
      ∃ packet fileBytes filename mimeType peerPub,
        readFileForTransfer file = .ok (fileBytes, filename, mimeType) ∧
        parseNodeId recipientId = some peerPub ∧
        (sendFile node env recipientId file).sent = some packet ∧
        (∀ data, Queued (sendFile node env recipientId file).node.peerSenders data →
          Queued node.peerSenders data ∨ data = packet.encode) ∧
        (packet.encode.length ≤ maxPacketSize ↔
          filePacketLength fileBytes.length filename env.now
            (UInt64.ofNat (sendCounter node recipientId peerPub)) ≤ maxPacketSize)) ∧
    (∀ env text value, (sendBroadcast node env text).result = .ok value →
      ∃ packet, (sendBroadcast node env text).sent = some packet ∧
        (∀ data, Queued (sendBroadcast node env text).node.peerSenders data →
          Queued node.peerSenders data ∨ data = packet.encode) ∧
        packet.encode.length ≤ maxPacketSize) ∧
    (∀ idRandom, (syncRespPacket crates node idRandom).encode.length ≤ maxPacketSize ↔
      syncPacketLength node.store.getAllMessageIds ≤ maxPacketSize) ∧
    (∀ env raw senderKey kind data, raw.length ≤ maxPacketSize →
      Queued (processIncomingPacket node env raw senderKey kind).1.peerSenders data →
      Queued node.peerSenders data ∨ data.length ≤ maxPacketSize ∨
        data = (syncRespPacket crates node env.idRandom).encode) := by
  refine ⟨?_, ?_, ?_, ?_, ?_⟩
  · intro env recipientId plaintext replyToId replyToText value returned
    rcases queued_send (tidy_sendDm ..) returned with ⟨packet, sent, queued⟩
    rcases length_dm sent with ⟨peerPub, known, size⟩
    exact ⟨packet, peerPub, known, sent, queued, by rw [size]⟩
  · intro env recipientId file value returned
    rcases queued_send (tidy_sendFile ..) returned with ⟨packet, sent, queued⟩
    rcases length_file sent with ⟨fileBytes, filename, mimeType, peerPub, read, known, size⟩
    exact ⟨packet, fileBytes, filename, mimeType, peerPub, read, known, sent, queued,
      by rw [size]⟩
  · intro env text value returned
    rcases queued_send (tidy_sendBroadcast ..) returned with ⟨packet, sent, queued⟩
    exact ⟨packet, sent, queued, length_broadcast_le sent⟩
  · intro idRandom
    rw [length_syncResp]
  · intro env raw senderKey kind data short queued
    refine (queued_processIncomingPacket queued).imp_right fun new => new.imp_left ?_
    intro same
    rwa [same]

theorem enqueued_fits_iff_halo : Sample.haloPacket.encode.length ≤ maxPacketSize := by
  rcases sendDm_sent Sample.sendDm_halo with ⟨_, facts⟩
  obtain ⟨packet, peerPub, known, sent, -, fits⟩ :=
    (enqueued_fits_iff Sample.alice).1 _ _ _ _ _ _ facts.result_eq
  rw [Sample.sendDm_halo] at sent
  rcases Option.some.inj sent with rfl
  rcases Option.some.inj ((parseNodeId_encode (Sample.key 2)).symm.trans known) with rfl
  exact fits.mpr (by decide)

theorem sendFile_foto (contents : Bytes) : (sendFile Sample.alice Sample.env (Sample.nodeId 2)
    ⟨some "foto.bin", .ok 60000, .ok contents⟩).sent.isSome = true := rfl

/-- A file of 60000 bytes, far below the limit of 5 MiB, is reported as sent in a packet that no
connection transmits. -/
theorem large_file_fits_no_frame : ∃ value packet,
    (sendFile Sample.alice Sample.env (Sample.nodeId 2)
      ⟨some "foto.bin", .ok 60000, .ok (List.replicate 60000 0)⟩).result = .ok value ∧
    (sendFile Sample.alice Sample.env (Sample.nodeId 2)
      ⟨some "foto.bin", .ok 60000, .ok (List.replicate 60000 0)⟩).sent = some packet ∧
    ¬ packet.encode.length ≤ maxPacketSize := by
  have size : (List.replicate 60000 (0 : UInt8)).length = 60000 := List.length_replicate
  generalize List.replicate 60000 (0 : UInt8) = contents at size ⊢
  rcases Option.isSome_iff_exists.mp (sendFile_foto contents) with ⟨packet, sent⟩
  rcases sendFile_sent sent with ⟨fileBytes, filename, mimeType, peerPub, facts⟩
  rcases length_file sent with ⟨_, _, _, _, read, -, length⟩
  cases read
  refine ⟨_, packet, facts.result_eq, sent, ?_⟩
  rw [length, size, filePacketLength]
  simp only [maxPacketSize]
  omega

end Caraka
