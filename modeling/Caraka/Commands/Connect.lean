import Caraka.Commands.Receive
import Caraka.Commands.Send

/-! The dialling commands of `commands.rs`: `connect_via_tor` and `reconnect_known_peers`. -/

namespace Caraka

open Foundation

/-- The state of the Tor transport, its context left out. -/
inductive TorState where
  | bootstrapping
  | ready
  | failed (reason : String)
  deriving DecidableEq

/-- `text.trim()`. -/
def trim (text : String) : String :=
  String.ofList (((text.toList.dropWhile isWhitespace).reverse.dropWhile isWhitespace).reverse)

def endsWith (text suffix : String) : Bool := suffix.toList.isSuffixOf text.toList

variable {crates : Crates}

structure ConnectOutcome (crates : Crates) where
  node : AppState crates
  result : Except Failure String
  /-- The onion address handed to `connect_to_tor_peer`, with the node id known for it. -/
  dialed : Option (String × Option String)

/-- The row that `connect_via_tor` writes; none where it panics on the name of a new peer. -/
def torPeerRecord (existing : Option PeerRow) (now : UInt64) (nodeId onion : String) :
    Option PeerRecord :=
  let displayName :=
    match existing with
    | some row => some row.displayName
    | none => (strPrefix nodeId 8).map fun front => "Node " ++ front
  displayName.map fun displayName => {
    nodeId
    displayName
    lastSeen := now.toInt64.toInt
    ipAddress := ""
    tcpPort := torVirtualPort
    onionAddress := onion
    trustScore := (existing.map PeerRow.trustScore).getD 1 }

/-- `connect_via_tor`, given `str::to_lowercase`. -/
def connectViaTor (toLowercase : String → String) (node : AppState crates) (tor : TorState)
    (now : UInt64) (onionAddress : String) (nodeId : Option String) : ConnectOutcome crates :=
  let onion := toLowercase (trim onionAddress)
  if endsWith onion ".onion" = false then
    ⟨node, .error (.error "Alamat onion tidak valid (harus berakhiran .onion)"), none⟩
  else
    match tor with
    | .bootstrapping =>
      ⟨node, .error (.error "Tor masih bootstrapping — tunggu status chip jadi ready"), none⟩
    | .failed reason => ⟨node, .error (.error ("Tor tidak tersedia: " ++ reason)), none⟩
    | .ready =>
      let ended : String := "Mencoba dial " ++ onion ++ " via Tor…"
      match nodeId with
      | none => ⟨node, .ok ended, some (onion, none)⟩
      | some id =>
        match torPeerRecord (node.store.peers.get? id) now id onion with
        | none => ⟨node, .error .panic, none⟩
        | some peer =>
          ⟨{ node with store := node.store.upsertPeer peer }, .ok ended, some (onion, some id)⟩

section Tor

variable {toLowercase : String → String} {node : AppState crates} {tor : TorState} {now : UInt64}
  {onionAddress : String}

theorem connectViaTor_refused (nodeId : Option String)
    (refused : ¬ (endsWith (toLowercase (trim onionAddress)) ".onion" = true ∧ tor = .ready)) :
    (connectViaTor toLowercase node tor now onionAddress nodeId).node = node := by
  rw [connectViaTor.eq_def]
  dsimp only
  by_cases suffix : endsWith (toLowercase (trim onionAddress)) ".onion" = false
  · rw [if_pos suffix]
  · rw [if_neg suffix]
    cases tor with
    | bootstrapping => rfl
    | failed reason => rfl
    | ready => exact absurd ⟨eq_true_of_ne_false suffix, rfl⟩ refused

theorem connectViaTor_ready {id : String} {peer : PeerRecord}
    (suffix : endsWith (toLowercase (trim onionAddress)) ".onion" = true)
    (made : torPeerRecord (node.store.peers.get? id) now id (toLowercase (trim onionAddress)) =
      some peer) :
    (connectViaTor toLowercase node .ready now onionAddress (some id)).node =
      { node with store := node.store.upsertPeer peer } := by
  have valid : ¬ endsWith (toLowercase (trim onionAddress)) ".onion" = false := by
    rw [suffix]
    exact Bool.noConfusion
  rw [connectViaTor.eq_def]
  dsimp only
  rw [if_neg valid, made]

theorem torPeerRecord_encode (existing : Option PeerRow) (now : UInt64) (bytes : Bytes)
    (onion : String) :
    ∃ displayName trustScore, torPeerRecord existing now (Hex.encode bytes) onion =
      some ⟨⟨displayName, now.toInt64.toInt, "", torVirtualPort, onion, trustScore⟩,
        Hex.encode bytes⟩ := by
  cases existing with
  | none =>
      rw [torPeerRecord, strPrefix_encode]
      exact ⟨_, _, rfl⟩
  | some row => exact ⟨_, _, rfl⟩

end Tor

/-- The arguments of one `connect_to_peer`. -/
structure Dial where
  ip : String
  port : UInt16
  nodeId : String
  deriving DecidableEq

/-- `reconnect_known_peers`: the peers dialled, whose number it returns. -/
def reconnectKnownPeers (node : AppState crates) : List Dial :=
  (node.store.getAllPeers.filter fun peer => peer.ipAddress ≠ "").map fun peer =>
    ⟨peer.ipAddress, peer.tcpPort, peer.nodeId⟩

end Caraka
