import Caraka.Commands.Sent
import Caraka.Commands.Search
import Caraka.Connections
import Caraka.Sealing
import Mathlib.Data.Nat.Digits.Defs

/-! A concrete stand-in for the third-party code on which the assumptions made of it hold. -/

namespace Caraka.Sample

open Foundation

def digest (bytes : Bytes) : Nat :=
  bytes.foldl (fun acc byte => (acc * 257 + byte.toNat + 1) % (2 ^ 127 - 1)) 0

def digits (bytes : Bytes) : List Nat := bytes.reverse.map fun byte => byte.toNat + 1

theorem digits_lt {bytes : Bytes} {digit : Nat} (member : digit ∈ digits bytes) : digit < 257 := by
  rcases List.mem_map.mp member with ⟨byte, -, rfl⟩
  have bound := byte.toNat_lt
  omega

theorem length_digits (bytes : Bytes) : (digits bytes).length = bytes.length := by
  rw [digits, List.length_map, List.length_reverse]

theorem digits_append (front bytes : Bytes) :
    digits (front ++ bytes) = digits bytes ++ digits front := by
  rw [digits, List.reverse_append, List.map_append]
  rfl

theorem digits_injective : Function.Injective digits := by
  intro first second same
  apply List.reverse_injective
  refine List.map_injective_iff.mpr (fun left right equal => ?_) same
  apply UInt8.toNat_inj.mp
  omega

theorem digest_eq (bytes : Bytes) :
    digest bytes = Nat.ofDigits 257 (digits bytes) % (2 ^ 127 - 1) := by
  induction bytes using List.reverseRecOn with
  | nil => rfl
  | append_singleton bytes last ih =>
      calc
        digest (bytes ++ [last]) = (digest bytes * 257 + last.toNat + 1) % (2 ^ 127 - 1) := by
          rw [digest, List.foldl_append]
          rfl
        _ = (last.toNat + 1 + 257 * Nat.ofDigits 257 (digits bytes)) % (2 ^ 127 - 1) := by
          rw [ih]
          omega
        _ = Nat.ofDigits 257 (digits (bytes ++ [last])) % (2 ^ 127 - 1) := by
          rw [digits_append]
          rfl

theorem digest_append (front : Bytes) {bytes : Bytes} (size : bytes.length = 8) :
    digest (front ++ bytes) =
      (Nat.ofDigits 257 (digits bytes) + 257 ^ 8 * Nat.ofDigits 257 (digits front)) %
        (2 ^ 127 - 1) := by
  rw [digest_eq, digits_append, Nat.ofDigits_append, length_digits, size]

theorem ofDigits_lt {bytes : Bytes} (size : bytes.length = 8) :
    Nat.ofDigits 257 (digits bytes) < 2 ^ 127 - 1 := by
  have bound := @Nat.ofDigits_lt_base_pow_length 257 (digits bytes) (by decide) fun _ => digits_lt
  rw [length_digits, size] at bound
  exact Nat.lt_trans bound (by decide)

theorem digest_separates (front : Bytes) {first second : Bytes} (size : first.length = 8)
    (size' : second.length = 8) (same : digest (front ++ first) = digest (front ++ second)) :
    first = second := by
  rw [digest_append front size, digest_append front size'] at same
  have values := Nat.ModEq.eq_of_lt_of_lt (Nat.ModEq.add_right_cancel' _ same) (ofDigits_lt size)
    (ofDigits_lt size')
  apply digits_injective
  refine Nat.ofDigits_inj_of_len_eq (by decide) ?_ (fun _ => digits_lt) (fun _ => digits_lt) values
  rw [length_digits, length_digits, size, size']

def octets (width value : Nat) : Octets width := ⟨leBytes width value, by simp⟩

def tag (key nonce : Octets 16) (aad message : Bytes) : Octets 16 :=
  Octets.xor key (octets 16 (digest (nonce.bytes ++ aad ++ message)))

/-- Key agreement is exclusive or, encryption appends a keyed tag, and only listed payloads
parse. -/
def crates (dms : List DmInnerPayload) (files : List FilePayload) : Crates where
  publicFrom := id
  diffieHellman := Octets.xor
  hkdfSha256 := fun salt ikm info width => octets width (digest (salt.getD [] ++ ikm ++ info))
  sha256 := fun data => octets 32 (digest data)
  asconEncrypt := fun key nonce message aad =>
    some ⟨message ++ (tag key nonce aad message).bytes, by simp⟩
  asconDecrypt := fun key nonce output aad =>
    let message := output.take (output.length - 16)
    if output.drop (output.length - 16) = (tag key nonce aad message).bytes then some message
    else none
  dmFromSlice := fun bytes => dms.find? fun payload => payload.toVec = bytes
  fileFromSlice := fun bytes => files.find? fun payload => payload.toVec = bytes
  broadcastFromSlice := fun _ => none
  valueFromSlice := fun _ => none
  messageFromSlice := fun _ => none
  base64Decode := fun _ => .ok []

variable {dms : List DmInnerPayload} {files : List FilePayload}

theorem commutes : (crates dms files).Commutes := fun mine theirs => Octets.xor_comm mine theirs

theorem decrypt_output (key other nonce : Octets 16) (message aad : Bytes) :
    (crates dms files).asconDecrypt other nonce (message ++ (tag key nonce aad message).bytes) aad =
      if key = other then some message else none := by
  have size : (message ++ (tag key nonce aad message).bytes).length - 16 = message.length := by
    simp
  simp only [crates, size, List.drop_left, List.take_left]
  congr 1
  simp only [eq_iff_iff]
  constructor
  · intro same
    exact Octets.xor_left_cancel (Octets.ext same)
  · rintro rfl
    rfl

theorem opens : (crates dms files).Opens := by
  intro key nonce message aad output encrypted
  rcases (Option.some.inj encrypted).symm with rfl
  exact (decrypt_output key key nonce message aad).trans (if_pos rfl)

theorem rejectsOtherKeys : (crates dms files).RejectsOtherKeys := by
  intro key nonce message aad output encrypted other different
  rcases (Option.some.inj encrypted).symm with rfl
  exact (decrypt_output key other nonce message aad).trans (if_neg different.symm)

theorem dmFromSlice_listed (payload : DmInnerPayload) :
    (crates (payload :: dms) files).dmFromSlice payload.toVec = some payload := by
  simp [crates]

theorem mem_of_dmFromSlice {bytes : Bytes} {payload : DmInnerPayload}
    (parsed : (crates dms files).dmFromSlice bytes = some payload) : payload ∈ dms :=
  List.mem_of_find?_eq_some parsed

def ledger (base : Crates) (sealed : List SealedPayload) : Crates :=
  { base with
    asconDecrypt := fun key nonce output aad =>
      (sealed.find? fun record => record.key base = key ∧ record.nonce = nonce ∧
        record.aad = aad ∧ record.plaintext ++ (tag key nonce aad record.plaintext).bytes =
          output).map SealedPayload.plaintext }

theorem unforgeable (base : Crates) (sealed : List SealedPayload) :
    (ledger base sealed).Unforgeable { record | record ∈ sealed } := by
  intro key nonce output aad plaintext decrypted
  rcases Option.map_eq_some_iff.mp decrypted with ⟨record, found, same⟩
  have matched := List.find?_some found
  simp only [decide_eq_true_eq] at matched
  exact ⟨record, List.mem_of_find?_eq_some found, matched.1, matched.2.1, matched.2.2.1, same⟩

/-- The key pairs of the sample nodes: a private key is its own public key. -/
def key (number : Nat) : Octets 32 := octets 32 number

def nodeId (number : Nat) : String := Hex.encode (key number).bytes

theorem key_spelled (number : Nat) : parseNodeId (nodeId number) = some (key number) :=
  parseNodeId_encode (key number)

def peerRow : PeerRow := ⟨"Peer", 0, "192.168.1.2", 7771, "", 2⟩

/-- A fresh node that knows some peers. -/
def node (crates : Crates) (own : Nat) (peers : List Nat) : AppState crates where
  identity := Identity.ofPrivate crates (key own)
  store := { Store.empty with
    peers := peers.foldl (fun rows peer => rows.insert (nodeId peer) peerRow) AssocMap.empty }
  router := Router.new (key own)
  displayName := ⟨"User", by decide⟩
  peerSenders := AssocMap.empty

/-- A send at second 1000 on which no statement fails. -/
def env : SendEnv where
  now := 1000
  nonceNow := 1000
  idRandom := octets 4 7
  nonceRandom := octets 12 9
  uuidRandom := octets 16 5
  faults := SendFaults.none

def receiveEnv : ReceiveEnv := ⟨0, 1000, octets 4 0⟩

def halo : DmInnerPayload :=
  sentDmPayload (node (crates [] []) 1 [2]) env (nodeId 2) "halo" none none (key 2)

def haloCrates : Crates := crates [halo] []

def alice : AppState haloCrates := node haloCrates 1 [2]

def bob : AppState haloCrates := node haloCrates 2 [3, 1]

theorem haloSent :
    (sendDm alice env bob.identity.nodeIdHex "halo" none none).sent.isSome = true := rfl

def haloPacket : ClampPacket :=
  (sendDm alice env bob.identity.nodeIdHex "halo" none none).sent.get haloSent

theorem sendDm_halo :
    (sendDm alice env bob.identity.nodeIdHex "halo" none none).sent = some haloPacket :=
  (Option.some_get haloSent).symm

theorem halo_packetId : haloPacket.header.packetId = sentPacketId alice env := by
  rcases sendDm_sent sendDm_halo with ⟨peerPub, facts⟩
  exact facts.encryption.packetId_eq

theorem halo_nonce : haloPacket.nonce = sentNonce env := by
  rcases sendDm_sent sendDm_halo with ⟨peerPub, facts⟩
  exact facts.encryption.nonce_eq

theorem halo_fresh : Fresh 1200 haloPacket.nonce := by
  rw [halo_nonce]
  decide

theorem haloReadable : haloCrates.ReadsDm (sentDmPayload alice env bob.identity.nodeIdHex "halo"
    none none bob.identity.myNodeId) :=
  dmFromSlice_listed halo

theorem node_peers (crates : Crates) : (node crates 2 [3, 1]).store.peers.entries =
    [(nodeId 3, peerRow), (nodeId 1, peerRow)] := by
  have bob_peers : bob.store.peers.entries = [(nodeId 3, peerRow), (nodeId 1, peerRow)] := by
    decide
  exact bob_peers

theorem keys_of_rows (peers : List Nat) :
    (peers.map fun peer => (nodeId peer, peerRow)).filterMap (fun entry => parseNodeId entry.1) =
      peers.map key := by
  induction peers with
  | nil => rfl
  | cons peer peers ih => simp only [List.map_cons, List.filterMap_cons, key_spelled, ih]

theorem node_keys (crates : Crates) : (node crates 2 [3, 1]).store.peers.entries.filterMap
    (fun entry => parseNodeId entry.1) = [key 3, key 1] := by
  rw [node_peers]
  exact keys_of_rows [3, 1]

theorem bob_knows_alice : bob.store.peers.get? (nodeId 1) = some peerRow := by
  rw [AssocMap.get?_eq_some, bob, node_peers]
  exact List.mem_cons_of_mem _ (List.mem_singleton_self _)

theorem alice_spelled : parseNodeId (nodeId 1) = some alice.identity.myNodeId :=
  parseNodeId_encode (key 1)

theorem bob_spelled : parseNodeId bob.identity.nodeIdHex = some bob.identity.myNodeId :=
  parseNodeId_encode (key 2)

def haloRecord : SealedPayload where
  sharedSecret := ecdh haloCrates (key 1) (key 2)
  senderId := key 1
  receiverId := key 2
  sessionId := deriveSessionId haloCrates (ecdh haloCrates (key 1) (key 2))
  msgCounter := 0
  nonce := haloPacket.nonce
  packetType := .dm
  packetId := haloPacket.header.packetId
  plaintext := halo.toVec

def idealCrates : Crates := ledger haloCrates [haloRecord]

def idealBob : AppState idealCrates := node idealCrates 2 [3, 1]

def hello : Bytes := (ClampPacket.buildHello (key 1) "User" (octets 4 0)).encode

def helloCrates : Crates :=
  { haloCrates with
    valueFromSlice := fun bytes =>
      if bytes = (ClampPacket.buildHello (key 1) "User" (octets 4 0)).ciphertext then
        some (.object [("displayName", .string "User"), ("nodeId", .string (nodeId 1))])
      else none }

theorem hello_named (kind : ConnKind) : peerNodeId helloCrates kind hello = nodeId 1 := by
  have plain : (ClampPacket.buildHello (key 1) "User" (octets 4 0)).ciphertext.all
      (fun byte => byte < 0x80 ∧ byte ≠ 10) = true := by
    decide
  have ascii : ∀ byte ∈ (ClampPacket.buildHello (key 1) "User" (octets 4 0)).ciphertext,
      byte < 0x80 ∧ byte ≠ 10 :=
    fun byte member => of_decide_eq_true (List.all_eq_true.mp plain byte member)
  have text := Utf8.utf8_lossy fun byte member => (ascii byte member).1
  rw [peerNodeId, hello, ClampPacket.decode_encode _ ⟨rfl, rfl⟩]
  dsimp only
  generalize same : (ClampPacket.buildHello (key 1) "User" (octets 4 0)).ciphertext = bytes
    at ascii text ⊢
  have filled : bytes ≠ [] := by
    rw [← same]
    exact List.cons_ne_nil _ _
  have line : firstLine (Utf8.lossy bytes) = some (Utf8.lossy bytes) := by
    apply firstLine_of_plain
    · rwa [text]
    · rw [text]
      exact fun member => (ascii 10 member).2 rfl
  have isHello : (ClampPacket.buildHello (key 1) "User" (octets 4 0)).header.packetType =
    .hello := rfl
  rw [if_pos isHello, line, Option.bind_some, text]
  simp [helloCrates, same, Json.Value.member, Json.Value.asStr]

def lan (port : UInt16) : ConnKind := .lan ⟨"192.168.1.7", false, port⟩

end Caraka.Sample
