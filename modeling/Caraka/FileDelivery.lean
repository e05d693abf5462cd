import Caraka.Delivery
import Caraka.SavedFiles

/-! The way of a file from the disk of the sender, over any relays, to the disk of the recipient. -/

namespace Caraka

open Foundation

variable {crates : Crates} {ι : Type} [DecidableEq ι]

theorem read_saved {disk : Disk ι} {incoming : Incoming}
    (opens : disk.Opens (destination disk incoming)) (complete : incoming.ending = .complete) :
    (saveReceivedFile disk incoming).2 = .ok (destination disk incoming) ∧
      ∀ path, (saveReceivedFile disk incoming).1.read path =
        if disk.resolve path = disk.resolve (destination disk incoming) then some incoming.data
        else disk.read path := by
  refine ⟨saveReceivedFile_eq_ok.mpr ⟨rfl, opens, complete⟩, fun path => ?_⟩
  rw [disk_saveReceivedFile, Disk.read_write_opens opens, complete]
  rfl

/-- Whatever `save_received_file` does, the command calls it with the name and the bytes read off
the disk of the sender; where the disk of the recipient takes the file, those bytes lie there under
the path reported, and all that is read at other files is as it was. -/
theorem file_delivered (commutes : crates.Commutes) (opens : crates.Opens)
    (rejects : crates.RejectsOtherKeys)
    {sender recipient arrival : AppState crates} {env : SendEnv} {file : DiskFile}
    {fileBytes : Bytes} {filename mimeType : String}
    (readOff : readFileForTransfer file = .ok (fileBytes, filename, mimeType))
    {packet : ClampPacket}
    (sent : (sendFile sender env recipient.identity.nodeIdHex file).sent = some packet)
    (readable : crates.ReadsFile (sentFilePayload sender env recipient.identity.nodeIdHex fileBytes
      filename mimeType recipient.identity.myNodeId))
    (decodes : crates.base64Decode (Base64.encode fileBytes) = .ok fileBytes)
    {relays : List Relay} {stream last raw rest : Bytes}
    (written : sendRawPacket packet.encode = .ok stream)
    (carried : carry crates relays stream = some last)
    (read : recvPacketFromReader last = some (raw, rest))
    {receiveEnv : ReceiveEnv} {senderKey : String} {kind : ConnKind}
    {delivered : DeliveredPacket}
    (event : .clampPacketReceived delivered ∈
      (processIncomingPacket arrival receiveEnv raw senderKey kind).2)
    {senderHex : String} {row : PeerRow}
    (known : recipient.store.peers.get? senderHex = some row)
    (spelled : parseNodeId senderHex = some sender.identity.myNodeId)
    {now : UInt64} (fresh : Fresh now packet.nonce)
    (inside : sendCounter sender recipient.identity.nodeIdHex recipient.identity.myNodeId ∈
      window (recvHint recipient.identity recipient.store senderHex sender.identity.myNodeId))
    {disk : Disk ι} {saveEnv : SaveEnv}
    (free : disk.Opens (destination disk ⟨saveEnv, filename, fileBytes⟩))
    (complete : saveEnv.ending = .complete) :
    ∃ payload : FilePayload,
      payload.senderId = sender.identity.nodeIdHex ∧ payload.filename = filename ∧
      payload.mimeType = mimeType ∧ payload.fileSize = UInt64.ofNat fileBytes.length ∧
      payload.timestamp = env.now ∧
      (∀ save : String → Bytes → Except String String,
        (tryDecryptFilePacket recipient now save delivered.packetId delivered.nonce
            delivered.ciphertext delivered.aeadTag).result =
          match save filename fileBytes with
          | .error e => .error (.error e)
          | .ok savedPath => .ok (some (fileInfo payload savedPath))) ∧
      (tryDecryptFilePacket recipient now
          (fun filename data => (saveReceivedFile disk ⟨saveEnv, filename, data⟩).2)
          delivered.packetId delivered.nonce delivered.ciphertext delivered.aeadTag).result =
        .ok (some (fileInfo payload (destination disk ⟨saveEnv, filename, fileBytes⟩))) ∧
      ∀ path, (saveReceivedFile disk ⟨saveEnv, filename, fileBytes⟩).1.read path =
        if disk.resolve path = disk.resolve (destination disk ⟨saveEnv, filename, fileBytes⟩) then
          some fileBytes
        else disk.read path := by
  rcases sendFile_sent sent with ⟨sentBytes, sentName, sentType, peerPub, facts⟩
  have samePeer : peerPub = recipient.identity.myNodeId := by
    have parsed := facts.known
    rw [recipient.identity.nodeIdHex_eq, parseNodeId_encode] at parsed
    exact (Option.some.inj parsed).symm
  have sameFile := facts.read
  rw [readOff] at sameFile
  cases sameFile
  subst samePeer
  have encryption := facts.encryption
  have frames : FramesContent packet.content stream := ⟨packet, encryption.genuine, rfl, written⟩
  rcases (carry_keeps frames carried).decoded read with ⟨received, decoded, -, same⟩
  rcases delivers_of_event event with ⟨found, decoded', carries, -⟩
  rw [decoded] at decoded'
  cases decoded'
  rw [same] at carries
  obtain ⟨found, store, search, payload⟩ :=
    search_finds_sealed commutes opens rejects encryption readable ⟨by rw [known]; rfl, spelled⟩
      fresh inside
  have name : found.payload.filename = filename := by rw [payload]; rfl
  have data : crates.base64Decode found.payload.fileDataB64 = .ok fileBytes := by
    rw [payload]
    exact decodes
  have answers (save : String → Bytes → Except String String) :
      (tryDecryptFilePacket recipient now save delivered.packetId delivered.nonce
          delivered.ciphertext delivered.aeadTag).result =
        match save filename fileBytes with
        | .error e => .error (.error e)
        | .ok savedPath => .ok (some (fileInfo found.payload savedPath)) := by
    rw [← name]
    exact tryDecryptFilePacket_saves carries.parse search data
  rcases @read_saved _ _ disk ⟨saveEnv, filename, fileBytes⟩ free complete with ⟨saved, after⟩
  refine ⟨found.payload, ?_, name, ?_, ?_, ?_, answers, ?_, after⟩
  · rw [payload]
    rfl
  · rw [payload]
    rfl
  · rw [payload]
    rfl
  · rw [payload]
    rfl
  · rw [answers, saved]

namespace Sample

def notes : Bytes := [104, 97, 105]

def notesPayload : FilePayload :=
  sentFilePayload (node (Sample.crates [] []) 1 [2]) env (nodeId 2) notes "catatan.txt"
    "text/plain" (key 2)

def fileCrates (payload : FilePayload) (data : Bytes) : Crates :=
  { Sample.crates [] [payload] with
    base64Decode := fun text =>
      if text = Base64.encode data then .ok data else .error "Invalid byte" }

theorem readsFile_fileCrates (payload : FilePayload) (data : Bytes) :
    (fileCrates payload data).ReadsFile payload := by
  simp [Crates.ReadsFile, fileCrates, Sample.crates]

theorem decodes_fileCrates (payload : FilePayload) (data : Bytes) :
    (fileCrates payload data).base64Decode (Base64.encode data) = .ok data := by
  simp [fileCrates]

def notesCrates : Crates := fileCrates notesPayload notes

theorem notesCommutes : notesCrates.Commutes := @commutes [] [notesPayload]

theorem notesOpens : notesCrates.Opens := @opens [] [notesPayload]

theorem notesRejects : notesCrates.RejectsOtherKeys := @rejectsOtherKeys [] [notesPayload]

def notesSender : AppState notesCrates := node notesCrates 1 [2]

def notesReader : AppState notesCrates := node notesCrates 2 [3, 1]

def notesFile : DiskFile := ⟨some "catatan.txt", .ok 3, .ok notes⟩

theorem notesRead : readFileForTransfer notesFile = .ok (notes, "catatan.txt", "text/plain") := by
  decide +kernel

theorem notesSent :
    (sendFile notesSender env notesReader.identity.nodeIdHex notesFile).sent.isSome = true := rfl

def notesPacket : ClampPacket :=
  (sendFile notesSender env notesReader.identity.nodeIdHex notesFile).sent.get notesSent

theorem sendFile_notes : (sendFile notesSender env notesReader.identity.nodeIdHex notesFile).sent =
    some notesPacket := (Option.some_get notesSent).symm

theorem notes_fresh : Fresh 1200 notesPacket.nonce := by
  rcases sendFile_sent sendFile_notes with ⟨_, _, _, peerPub, facts⟩
  rw [facts.encryption.nonce_eq]
  decide

theorem notesPayload_eq : sentFilePayload notesSender env notesReader.identity.nodeIdHex notes
    "catatan.txt" "text/plain" notesReader.identity.myNodeId = notesPayload := by
  rw [notesPayload, sentFilePayload, sentFilePayload, filePayload, filePayload]
  congr 1

theorem notesReadable : notesCrates.ReadsFile (sentFilePayload notesSender env
    notesReader.identity.nodeIdHex notes "catatan.txt" "text/plain"
    notesReader.identity.myNodeId) := by
  rw [notesPayload_eq]
  exact readsFile_fileCrates notesPayload notes

theorem notesDecodes : notesCrates.base64Decode (Base64.encode notes) = .ok notes :=
  decodes_fileCrates notesPayload notes

theorem notesReader_knows : notesReader.store.peers.get? (nodeId 1) = some peerRow := by
  rw [AssocMap.get?_eq_some, notesReader, node_peers]
  exact List.mem_cons_of_mem _ (List.mem_singleton_self _)

end Sample

/-- One relay on the way of a file from node 1 to node 2. -/
theorem file_delivered_over_relay :
    let relay : Relay := ⟨Router.new (Sample.key 3), 0, Sample.key 1⟩
    ∃ last raw rest delivered payload,
      carry Sample.notesCrates [relay] (leBytes 2 Sample.notesPacket.encode.length ++
        Sample.notesPacket.encode) = some last ∧
      recvPacketFromReader last = some (raw, rest) ∧
      .clampPacketReceived delivered ∈ (processIncomingPacket Sample.notesReader Sample.receiveEnv
        raw (Sample.nodeId 3) (.torInbound "1")).2 ∧
      (tryDecryptFilePacket Sample.notesReader 1200
        (fun filename data => (saveReceivedFile Sample.emptyDisk
          ⟨(Sample.photo 0).toSaveEnv, filename, data⟩).2)
        delivered.packetId delivered.nonce delivered.ciphertext delivered.aeadTag).result =
          .ok (some (fileInfo payload (destination Sample.emptyDisk
            ⟨(Sample.photo 0).toSaveEnv, "catatan.txt", Sample.notes⟩))) ∧
      (saveReceivedFile Sample.emptyDisk
        ⟨(Sample.photo 0).toSaveEnv, "catatan.txt", Sample.notes⟩).1.read
          (destination Sample.emptyDisk
            ⟨(Sample.photo 0).toSaveEnv, "catatan.txt", Sample.notes⟩) = some Sample.notes := by
  intro relay
  let stream := leBytes 2 Sample.notesPacket.encode.length ++ Sample.notesPacket.encode
  have written : sendRawPacket Sample.notesPacket.encode = .ok stream :=
    if_neg (by decide +kernel)
  have route : ((carry Sample.notesCrates [relay] stream).bind fun last =>
      (recvPacketFromReader last).bind fun read =>
        (processIncomingPacket Sample.notesReader Sample.receiveEnv read.1 (Sample.nodeId 3)
          (.torInbound "1")).2.findSome? Event.clampPacket?).isSome = true := by
    decide +kernel
  rcases Option.isSome_iff_exists.mp route with ⟨delivered, route⟩
  rcases Option.bind_eq_some_iff.mp route with ⟨last, carried, route⟩
  rcases Option.bind_eq_some_iff.mp route with ⟨⟨raw, rest⟩, read, route⟩
  rcases List.exists_of_findSome?_eq_some route with ⟨event, member, same⟩
  rw [Event.clampPacket?_eq_some] at same
  subst same
  have inside : sendCounter Sample.notesSender Sample.notesReader.identity.nodeIdHex
      Sample.notesReader.identity.myNodeId ∈ window (recvHint Sample.notesReader.identity
        Sample.notesReader.store (Sample.nodeId 1) Sample.notesSender.identity.myNodeId) := by
    decide
  obtain ⟨payload, -, -, -, -, -, -, returned, after⟩ :=
    @file_delivered _ String _ Sample.notesCommutes Sample.notesOpens Sample.notesRejects _ _ _ _ _
      _ _ _ Sample.notesRead _ Sample.sendFile_notes Sample.notesReadable Sample.notesDecodes _ _ _
      _ _ written carried read _ _ _ _ member _ _ Sample.notesReader_knows (Sample.key_spelled 1) _
      Sample.notes_fresh inside Sample.emptyDisk (Sample.photo 0).toSaveEnv
      (Sample.emptyDisk_opens _) rfl
  have here := after (destination Sample.emptyDisk
    ⟨(Sample.photo 0).toSaveEnv, "catatan.txt", Sample.notes⟩)
  rw [if_pos rfl] at here
  exact ⟨last, raw, rest, delivered, payload, carried, read, member, returned, here⟩

end Caraka
