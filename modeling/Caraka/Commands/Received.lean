import Caraka.Commands.Search

/-! What the receiving commands return and write, in terms of the search. -/

namespace Caraka

open Foundation

variable {crates : Crates}

theorem parsePresented_eq_ok {packetId nonceHex ciphertextHex aeadTagHex : String}
    {presented : Presented} :
    parsePresented packetId nonceHex ciphertextHex aeadTagHex = .ok presented ↔
      Hex.decode packetId = some presented.packetId.bytes ∧
      Hex.decode nonceHex = some presented.nonce.bytes ∧
      Hex.decode ciphertextHex = some presented.ciphertext ∧
      Hex.decode aeadTagHex = some presented.aeadTag.bytes := by
  constructor
  · intro parsed
    unfold parsePresented at parsed
    split at parsed
    · cases parsed
    rename_i packetIdBytes readId
    split at parsed
    · cases parsed
    rename_i packetIdArr id
    split at parsed
    · cases parsed
    rename_i nonceBytes readNonce
    split at parsed
    · cases parsed
    rename_i ciphertext readCiphertext
    split at parsed
    · cases parsed
    rename_i tagBytes readTag
    split at parsed
    · cases parsed
    rename_i nonce nonceArr
    split at parsed
    · cases parsed
    rename_i tag tagArr
    cases parsed
    rw [readId, readNonce, readCiphertext, readTag, tryInto_eq_some.mp id,
      tryInto_eq_some.mp nonceArr, tryInto_eq_some.mp tagArr]
    exact ⟨rfl, rfl, rfl, rfl⟩
  · rintro ⟨readId, readNonce, readCiphertext, readTag⟩
    simp [parsePresented, readId, readNonce, readCiphertext, readTag]

theorem parsePresented_encode (presented : Presented) :
    parsePresented (Hex.encode presented.packetId.bytes) (Hex.encode presented.nonce.bytes)
      (Hex.encode presented.ciphertext) (Hex.encode presented.aeadTag.bytes) = .ok presented := by
  simp [parsePresented_eq_ok]

section Dm

variable {node : AppState crates} {now : UInt64}
  {packetId nonceHex ciphertextHex aeadTagHex : String}

/-- What a `try_decrypt_packet` that returned a message did. -/
structure DmReceived (node : AppState crates) (now : UInt64) (packetId : String)
    (presented : Presented) (found : Found DmInnerPayload) (store : Store) (row : StoredMessage)
    (outcome : ReceiveOutcome crates MessageInfo) : Prop where
  search : searchPeers crates crates.dmFromSlice .dm node.identity now presented
    node.store.getAllPeers node.store = (some found, store)
  row_eq : receivedRow now packetId presented found = some row
  result_eq : outcome.result = .ok (some (messageInfo crates packetId found.payload))
  node_eq : outcome.node = { node with
    store := (store.saveMessage row).bumpRecvCounterHint found.peer.nodeId (found.counter + 1) }

variable (node now packetId nonceHex ciphertextHex aeadTagHex) in
/-- Every way `try_decrypt_packet` ends. -/
inductive DmTryEnd : ReceiveOutcome crates MessageInfo → Prop where
  | malformed {error : String}
      (parsed : parsePresented packetId nonceHex ciphertextHex aeadTagHex = .error error) :
      DmTryEnd ⟨node, .error (.error error), []⟩
  | missed {presented : Presented} {store : Store}
      (parsed : parsePresented packetId nonceHex ciphertextHex aeadTagHex = .ok presented)
      (search : searchPeers crates crates.dmFromSlice .dm node.identity now presented
        node.store.getAllPeers node.store = (none, store)) :
      DmTryEnd ⟨{ node with store }, .ok none, []⟩
  | panicked {presented : Presented} {found : Found DmInnerPayload} {store : Store}
      (parsed : parsePresented packetId nonceHex ciphertextHex aeadTagHex = .ok presented)
      (search : searchPeers crates crates.dmFromSlice .dm node.identity now presented
        node.store.getAllPeers node.store = (some found, store))
      (uncut : receivedRow now packetId presented found = none) :
      DmTryEnd ⟨{ node with store }, .error .panic, []⟩
  | returned {presented : Presented} {found : Found DmInnerPayload} {store : Store}
      {row : StoredMessage}
      (parsed : parsePresented packetId nonceHex ciphertextHex aeadTagHex = .ok presented)
      (search : searchPeers crates crates.dmFromSlice .dm node.identity now presented
        node.store.getAllPeers node.store = (some found, store))
      (saved : receivedRow now packetId presented found = some row) :
      DmTryEnd ⟨{ node with
          store := (store.saveMessage row).bumpRecvCounterHint found.peer.nodeId
            (found.counter + 1) },
        .ok (some (messageInfo crates packetId found.payload)), []⟩

variable (node now packetId nonceHex ciphertextHex aeadTagHex) in
theorem tryDecryptPacket_end : DmTryEnd node now packetId nonceHex ciphertextHex aeadTagHex
    (tryDecryptPacket node now packetId nonceHex ciphertextHex aeadTagHex) := by
  generalize outcome : tryDecryptPacket node now packetId nonceHex ciphertextHex aeadTagHex = result
  unfold tryDecryptPacket at outcome
  split at outcome
  · rename_i error parsed
    subst outcome
    exact .malformed parsed
  rename_i presented parsed
  generalize search : searchPeers crates crates.dmFromSlice .dm node.identity now presented
    node.store.getAllPeers node.store = searched at outcome
  rcases searched with ⟨found, store⟩
  dsimp only at outcome
  split at outcome
  · subst outcome
    exact .missed parsed search
  rename_i found
  split at outcome
  · rename_i uncut
    subst outcome
    exact .panicked parsed search uncut
  · rename_i row saved
    subst outcome
    exact .returned parsed search saved

theorem tryDecryptPacket_some {info : MessageInfo}
    (returned : (tryDecryptPacket node now packetId nonceHex ciphertextHex aeadTagHex).result =
      .ok (some info)) :
    ∃ presented found store row,
      parsePresented packetId nonceHex ciphertextHex aeadTagHex = .ok presented ∧
      DmReceived node now packetId presented found store row
        (tryDecryptPacket node now packetId nonceHex ciphertextHex aeadTagHex) ∧
      info = messageInfo crates packetId found.payload := by
  have ended := tryDecryptPacket_end node now packetId nonceHex ciphertextHex aeadTagHex
  generalize tryDecryptPacket node now packetId nonceHex ciphertextHex aeadTagHex = outcome
    at ended returned ⊢
  cases ended with
  | malformed | missed | panicked => cases returned
  | returned parsed search saved =>
      cases returned
      exact ⟨_, _, _, _, parsed, ⟨search, saved, rfl, rfl⟩, rfl⟩

theorem tryDecryptPacket_misses {presented : Presented}
    (parsed : parsePresented packetId nonceHex ciphertextHex aeadTagHex = .ok presented)
    (search : (searchPeers crates crates.dmFromSlice .dm node.identity now presented
      node.store.getAllPeers node.store).1 = none) :
    (tryDecryptPacket node now packetId nonceHex ciphertextHex aeadTagHex).result = .ok none := by
  simp [tryDecryptPacket, parsed, search]

theorem tryDecryptPacket_of_search {presented : Presented} {found : Found DmInnerPayload}
    {store : Store} {row : StoredMessage}
    (parsed : parsePresented packetId nonceHex ciphertextHex aeadTagHex = .ok presented)
    (search : searchPeers crates crates.dmFromSlice .dm node.identity now presented
      node.store.getAllPeers node.store = (some found, store))
    (saved : receivedRow now packetId presented found = some row) :
    (tryDecryptPacket node now packetId nonceHex ciphertextHex aeadTagHex).result =
      .ok (some (messageInfo crates packetId found.payload)) := by
  simp [tryDecryptPacket, parsed, search, saved]

theorem tryDecryptPacket_finds {presented : Presented} {found : Found DmInnerPayload}
    {store : Store} {sender : Bytes}
    (parsed : parsePresented packetId nonceHex ciphertextHex aeadTagHex = .ok presented)
    (search : searchPeers crates crates.dmFromSlice .dm node.identity now presented
      node.store.getAllPeers node.store = (some found, store))
    (spelled : found.payload.senderId = Hex.encode sender) :
    (tryDecryptPacket node now packetId nonceHex ciphertextHex aeadTagHex).result =
      .ok (some (messageInfo crates packetId found.payload)) := by
  obtain ⟨row, saved⟩ : ∃ row, receivedRow now packetId presented found = some row := by
    simp only [receivedRow, spelled, strPrefix_encode, Option.map_some]
    exact ⟨_, rfl⟩
  exact tryDecryptPacket_of_search parsed search saved

end Dm

section File

variable {node : AppState crates} {now : UInt64}
  {saveReceivedFile : String → Bytes → Except String String}
  {packetId nonceHex ciphertextHex aeadTagHex : String}

/-- What a `try_decrypt_file_packet` that returned a file did. -/
structure FileReceived (node : AppState crates) (now : UInt64) (presented : Presented)
    (found : Found FilePayload) (store : Store) (savedPath : String)
    (outcome : ReceiveOutcome crates FileInfo) : Prop where
  search : searchPeers crates crates.fileFromSlice .file node.identity now presented
    node.store.getAllPeers node.store = (some found, store)
  result_eq : outcome.result = .ok (some (fileInfo found.payload savedPath))
  events_eq : outcome.events = [.fileReceived (fileInfo found.payload savedPath)]
  node_eq : outcome.node = { node with
    store := store.bumpRecvCounterHint found.peer.nodeId (found.counter + 1) }

variable (node now saveReceivedFile packetId nonceHex ciphertextHex aeadTagHex) in
/-- Every way `try_decrypt_file_packet` ends. A file that opened moves the hint of its sender
even where it cannot be saved. -/
inductive FileTryEnd : ReceiveOutcome crates FileInfo → Prop where
  | malformed {error : String}
      (parsed : parsePresented packetId nonceHex ciphertextHex aeadTagHex = .error error) :
      FileTryEnd ⟨node, .error (.error error), []⟩
  | missed {presented : Presented} {store : Store}
      (parsed : parsePresented packetId nonceHex ciphertextHex aeadTagHex = .ok presented)
      (search : searchPeers crates crates.fileFromSlice .file node.identity now presented
        node.store.getAllPeers node.store = (none, store)) :
      FileTryEnd ⟨{ node with store }, .ok none, []⟩
  | unsaved {presented : Presented} {found : Found FilePayload} {store : Store} (error : String)
      (parsed : parsePresented packetId nonceHex ciphertextHex aeadTagHex = .ok presented)
      (search : searchPeers crates crates.fileFromSlice .file node.identity now presented
        node.store.getAllPeers node.store = (some found, store)) :
      FileTryEnd ⟨{ node with
          store := store.bumpRecvCounterHint found.peer.nodeId (found.counter + 1) },
        .error (.error error), []⟩
  | returned {presented : Presented} {found : Found FilePayload} {store : Store}
      {fileBytes : Bytes} {savedPath : String}
      (parsed : parsePresented packetId nonceHex ciphertextHex aeadTagHex = .ok presented)
      (search : searchPeers crates crates.fileFromSlice .file node.identity now presented
        node.store.getAllPeers node.store = (some found, store))
      (decoded : crates.base64Decode found.payload.fileDataB64 = .ok fileBytes)
      (saved : saveReceivedFile found.payload.filename fileBytes = .ok savedPath) :
      FileTryEnd ⟨{ node with
          store := store.bumpRecvCounterHint found.peer.nodeId (found.counter + 1) },
        .ok (some (fileInfo found.payload savedPath)),
        [.fileReceived (fileInfo found.payload savedPath)]⟩

variable (node now saveReceivedFile packetId nonceHex ciphertextHex aeadTagHex) in
theorem tryDecryptFilePacket_end :
    FileTryEnd node now saveReceivedFile packetId nonceHex ciphertextHex aeadTagHex
      (tryDecryptFilePacket node now saveReceivedFile packetId nonceHex ciphertextHex
        aeadTagHex) := by
  generalize outcome : tryDecryptFilePacket node now saveReceivedFile packetId nonceHex
    ciphertextHex aeadTagHex = result
  unfold tryDecryptFilePacket at outcome
  split at outcome
  · rename_i error parsed
    subst outcome
    exact .malformed parsed
  rename_i presented parsed
  generalize search : searchPeers crates crates.fileFromSlice .file node.identity now presented
    node.store.getAllPeers node.store = searched at outcome
  rcases searched with ⟨found, store⟩
  dsimp only at outcome
  split at outcome
  · subst outcome
    exact .missed parsed search
  rename_i found
  split at outcome
  · subst outcome
    exact .unsaved _ parsed search
  rename_i fileBytes decoded
  split at outcome
  · subst outcome
    exact .unsaved _ parsed search
  · rename_i savedPath saved
    subst outcome
    exact .returned parsed search decoded saved

theorem tryDecryptFilePacket_some {info : FileInfo}
    (returned : (tryDecryptFilePacket node now saveReceivedFile packetId nonceHex ciphertextHex
      aeadTagHex).result = .ok (some info)) :
    ∃ presented found store savedPath,
      parsePresented packetId nonceHex ciphertextHex aeadTagHex = .ok presented ∧
      FileReceived node now presented found store savedPath
        (tryDecryptFilePacket node now saveReceivedFile packetId nonceHex ciphertextHex
          aeadTagHex) ∧
      info = fileInfo found.payload savedPath := by
  have ended := tryDecryptFilePacket_end node now saveReceivedFile packetId nonceHex ciphertextHex
    aeadTagHex
  generalize tryDecryptFilePacket node now saveReceivedFile packetId nonceHex ciphertextHex
    aeadTagHex = outcome at ended returned ⊢
  cases ended with
  | malformed | missed | unsaved => cases returned
  | returned parsed search decoded saved =>
      cases returned
      exact ⟨_, _, _, _, parsed, ⟨search, rfl, rfl, rfl⟩, rfl⟩

theorem tryDecryptFilePacket_saves {presented : Presented} {found : Found FilePayload}
    {store : Store} {fileBytes : Bytes}
    (parsed : parsePresented packetId nonceHex ciphertextHex aeadTagHex = .ok presented)
    (search : searchPeers crates crates.fileFromSlice .file node.identity now presented
      node.store.getAllPeers node.store = (some found, store))
    (decoded : crates.base64Decode found.payload.fileDataB64 = .ok fileBytes) :
    (tryDecryptFilePacket node now saveReceivedFile packetId nonceHex ciphertextHex
        aeadTagHex).result =
      match saveReceivedFile found.payload.filename fileBytes with
      | .error e => .error (.error e)
      | .ok savedPath => .ok (some (fileInfo found.payload savedPath)) := by
  simp only [tryDecryptFilePacket, parsed, search, decoded]
  cases saveReceivedFile found.payload.filename fileBytes <;> rfl

theorem tryDecryptFilePacket_finds {presented : Presented} {found : Found FilePayload}
    {store : Store} {fileBytes : Bytes} {savedPath : String}
    (parsed : parsePresented packetId nonceHex ciphertextHex aeadTagHex = .ok presented)
    (search : searchPeers crates crates.fileFromSlice .file node.identity now presented
      node.store.getAllPeers node.store = (some found, store))
    (decoded : crates.base64Decode found.payload.fileDataB64 = .ok fileBytes)
    (saved : saveReceivedFile found.payload.filename fileBytes = .ok savedPath) :
    (tryDecryptFilePacket node now saveReceivedFile packetId nonceHex ciphertextHex
      aeadTagHex).result = .ok (some (fileInfo found.payload savedPath)) := by
  rw [tryDecryptFilePacket_saves parsed search decoded, saved]

end File

end Caraka
