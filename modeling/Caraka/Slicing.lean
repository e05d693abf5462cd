import Caraka.Connections
import Caraka.Discovery
import Caraka.Commands.Receive
import Caraka.Sample

/-! Where the handlers cut strings that come from peers, and when a cut aborts their task. -/

namespace Caraka

open Foundation

/-- The levels that the filter of `tracing` lets through; the arguments of an event on any other
level are not evaluated. -/
structure LogFilter where
  info : Bool
  debug : Bool

/-- `&text[..count]`, which panics also where the text is too short. -/
def strSlice (text : String) (count : Nat) : Option String :=
  if (utf8 text).length < count then none else strPrefix text count

def logs (enabled : Bool) (slice : Option String) : Option Unit :=
  if enabled then slice.map fun _ => () else some ()

/-- The cut at a byte offset falls between two characters, or the text ends before it. -/
def CutsBetween (text : String) (count : Nat) : Prop :=
  ∃ front back, text.toList = front ++ back ∧
    (front.flatMap String.utf8EncodeChar).length = min count (utf8 text).length

section Cuts

theorem cut_cons {c : Char} {rest : List Char} {count : Nat} (later : count ≠ 0) :
    (∃ front back, c :: rest = front ++ back ∧ (front.flatMap String.utf8EncodeChar).length =
        min count ((c :: rest).flatMap String.utf8EncodeChar).length) ↔
      c.utf8Size ≤ count ∧ ∃ front back, rest = front ++ back ∧
        (front.flatMap String.utf8EncodeChar).length =
          min (count - c.utf8Size) (rest.flatMap String.utf8EncodeChar).length := by
  have positive : 0 < c.utf8Size := c.utf8Size_pos
  have size (tail : List Char) : ((c :: tail).flatMap String.utf8EncodeChar).length =
      c.utf8Size + (tail.flatMap String.utf8EncodeChar).length := by
    rw [List.flatMap_cons, List.length_append, String.length_utf8EncodeChar]
  rw [size]
  constructor
  · rintro ⟨front, back, whole, cut⟩
    cases front with
    | nil =>
        rw [List.flatMap_nil, List.length_nil] at cut
        omega
    | cons first front =>
        rw [List.cons_append, List.cons.injEq] at whole
        rcases whole with ⟨rfl, rfl⟩
        rw [size] at cut
        refine ⟨?_, front, back, rfl, ?_⟩
        · omega
        · omega
  · rintro ⟨fits, front, back, rfl, cut⟩
    refine ⟨c :: front, back, rfl, ?_⟩
    rw [size, cut]
    omega

theorem isSome_prefixChars (chars : List Char) (count : Nat) :
    (prefixChars chars count).isSome ↔ ∃ front back, chars = front ++ back ∧
      (front.flatMap String.utf8EncodeChar).length =
        min count (chars.flatMap String.utf8EncodeChar).length := by
  induction chars generalizing count with
  | nil => exact iff_of_true rfl ⟨[], [], rfl, by simp⟩
  | cons c rest ih =>
      by_cases zero : count = 0
      · subst zero
        rw [prefixChars, if_pos rfl]
        exact iff_of_true rfl ⟨[], c :: rest, rfl, by simp⟩
      rw [cut_cons zero]
      by_cases fits : c.utf8Size ≤ count
      · rw [prefixChars, if_neg zero, if_pos fits, Option.isSome_map, ih]
        exact (and_iff_right fits).symm
      · rw [prefixChars, if_neg zero, if_neg fits]
        apply iff_of_false Bool.false_ne_true
        exact fun cut => fits cut.1

theorem isSome_strPrefix {text : String} {count : Nat} :
    (strPrefix text count).isSome ↔ CutsBetween text count := by
  rw [strPrefix, Option.isSome_map, isSome_prefixChars]
  rfl

theorem isSome_strSlice {text : String} {count : Nat} (long : count ≤ (utf8 text).length) :
    (strSlice text count).isSome ↔ CutsBetween text count := by
  rw [strSlice, if_neg (Nat.not_lt.mpr long), isSome_strPrefix]

theorem isSome_logs {enabled : Bool} {slice : Option String} :
    (logs enabled slice).isSome ↔ (enabled = true → slice.isSome) := by
  cases enabled <;> simp [logs]

theorem isSome_logs_bind {α : Type} {enabled : Bool} {slice : Option String} {rest : Option α} :
    ((logs enabled slice).bind fun _ => rest).isSome ↔
      (enabled = true → slice.isSome) ∧ rest.isSome := by
  rw [← isSome_logs]
  cases logs enabled slice with
  | none => simp
  | some line => simp

end Cuts

/-- The node id in the first line of a Hello, as `handle_connection` reads it. -/
def helloNodeId (crates : Crates) (packet : ClampPacket) : Option String :=
  (firstLine (Utf8.lossy packet.ciphertext)).bind fun line =>
    (crates.valueFromSlice (utf8 line)).bind fun value => (value.member "nodeId").asStr

/-- The node id in a Hello, as `process_incoming_packet` reads it. -/
def greetedNodeId (crates : Crates) (packet : ClampPacket) : String :=
  (((crates.valueFromSlice packet.ciphertext).getD .other).member "nodeId").asStr.getD ""

section Handlers

variable {crates : Crates} (filter : LogFilter)

/-- `save_peer_from_beacon` with its log line; none where that panics, also below. -/
def savePeerFromBeaconLogged (node : AppState crates) (now : UInt64) (beacon : PeerBeacon)
    (srcAddr : SocketAddr) : Option (AppState crates) :=
  (logs filter.debug (strSlice beacon.nodeId 8)).map fun _ =>
    savePeerFromBeacon node now beacon srcAddr

/-- One datagram in the loop of `start_listener`. -/
def receiveDatagramLogged (fromBytes : Bytes → Option PeerBeacon) (node : AppState crates)
    (now : UInt64) (data : Bytes) (srcAddr : SocketAddr) :
    Option (AppState crates × List DiscoveryEvent) :=
  match fromBytes data with
  | none => some (node, [])
  | some beacon =>
    if beacon.isValid = false then some (node, [])
    else if node.identity.nodeIdHex = beacon.nodeId then some (node, [])
    else
      (logs filter.info (strSlice beacon.nodeId 8)).bind fun _ =>
        (savePeerFromBeaconLogged filter node now beacon srcAddr).map fun node =>
          (node, [.peerDiscovered beacon.nodeId beacon.displayName srcAddr.ip beacon.tcpPort,
            .connectToPeer srcAddr.ip beacon.tcpPort beacon.nodeId])

/-- The identification of a connection in `handle_connection`. -/
def peerNodeIdLogged (crates : Crates) (kind : ConnKind) (raw : Bytes) : Option String :=
  match ClampPacket.decode raw with
  | .ok packet =>
    if packet.header.packetType = .hello then
      match helloNodeId crates packet with
      | some nid => (logs filter.info (strPrefix nid 8)).map fun _ => nid
      | none => some kind.preHelloKey
    else some kind.preHelloKey
  | .error _ => some kind.preHelloKey

def handleSyncDataLogged (node : AppState crates) (packet : ClampPacket) :
    Option (AppState crates) :=
  match crates.messageFromSlice packet.ciphertext with
  | none => some node
  | some message =>
    (logs filter.debug (strPrefix message.packetId 8)).map fun _ =>
      { node with store := node.store.saveMessage message }

def processIncomingPacketLogged (node : AppState crates) (env : ReceiveEnv) (raw : Bytes)
    (senderKey : String) (kind : ConnKind) : Option (AppState crates × List Event) :=
  match ClampPacket.decode raw with
  | .error _ => some (node, [])
  | .ok packet =>
    match packet.header.packetType with
    | .syncReq => some (handleSyncReq node env senderKey, [])
    | .syncResp => some (node, handleSyncResp node packet)
    | .syncData => (handleSyncDataLogged filter node packet).map fun node => (node, [])
    | .hello =>
      (logs filter.debug (strPrefix (greetedNodeId crates packet) 8)).map fun _ =>
        handleHello node env packet kind
    | .broadcast => some (handleBroadcast node packet senderKey)
    | .dm | .channel | .file => some (handleRouted node env packet senderKey)

end Handlers

/-- What a peer's strings arrive in. -/
inductive Arrival where
  | datagram (now : UInt64) (data : Bytes) (srcAddr : SocketAddr)
  | firstFrame (kind : ConnKind) (raw : Bytes)
  | frame (env : ReceiveEnv) (raw : Bytes) (senderKey : String) (kind : ConnKind)
  | decrypt (now : UInt64) (packetId nonceHex ciphertextHex aeadTagHex : String)

namespace Arrival

variable {crates : Crates} (filter : LogFilter) (fromBytes : Bytes → Option PeerBeacon)
  (node : AppState crates)

/-- The handler does not panic. -/
def Completes : Arrival → Prop
  | datagram now data srcAddr =>
    (receiveDatagramLogged filter fromBytes node now data srcAddr).isSome
  | firstFrame kind raw => (peerNodeIdLogged filter crates kind raw).isSome
  | frame env raw senderKey kind =>
    (processIncomingPacketLogged filter node env raw senderKey kind).isSome
  | decrypt now packetId nonceHex ciphertextHex aeadTagHex =>
    (tryDecryptPacket node now packetId nonceHex ciphertextHex aeadTagHex).result ≠ .error .panic

/-- The strings of the peer that the handler cuts: the node id of a foreign valid beacon, that of a
Hello, the packet id of synced data, the sender id of a payload that opens. -/
def cut : Arrival → List String
  | datagram _ data _ =>
    match fromBytes data with
    | none => []
    | some beacon =>
      if beacon.isValid = true ∧ node.identity.nodeIdHex ≠ beacon.nodeId ∧
          (filter.info = true ∨ filter.debug = true) then [beacon.nodeId]
      else []
  | firstFrame _ raw =>
    match ClampPacket.decode raw with
    | .ok packet =>
      if packet.header.packetType = .hello ∧ filter.info = true then
        (helloNodeId crates packet).toList
      else []
    | .error _ => []
  | frame _ raw _ _ =>
    match ClampPacket.decode raw with
    | .error _ => []
    | .ok packet =>
      if filter.debug = true then
        match packet.header.packetType with
        | .hello => [greetedNodeId crates packet]
        | .syncData =>
          ((crates.messageFromSlice packet.ciphertext).map StoredMessage.packetId).toList
        | .syncReq | .syncResp | .broadcast | .dm | .channel | .file => []
      else []
  | decrypt now packetId nonceHex ciphertextHex aeadTagHex =>
    match parsePresented packetId nonceHex ciphertextHex aeadTagHex with
    | .error _ => []
    | .ok presented =>
      ((searchPeers crates crates.dmFromSlice .dm node.identity now presented
        node.store.getAllPeers node.store).1.map fun found => found.payload.senderId).toList

end Arrival

section Refinement

variable {crates : Crates} {filter : LogFilter} {node : AppState crates}

theorem receiveDatagramLogged_some {fromBytes : Bytes → Option PeerBeacon} {now : UInt64}
    {data : Bytes} {srcAddr : SocketAddr} {outcome : AppState crates × List DiscoveryEvent}
    (done : receiveDatagramLogged filter fromBytes node now data srcAddr = some outcome) :
    outcome = receiveDatagram fromBytes node now data srcAddr := by
  rw [receiveDatagramLogged] at done
  rw [receiveDatagram]
  cases read : fromBytes data with
  | none =>
      rw [read] at done
      exact (Option.some.inj done).symm
  | some beacon =>
      rw [read] at done
      dsimp only at done ⊢
      split at done
      · rename_i invalid
        rw [if_pos invalid]
        exact (Option.some.inj done).symm
      · rename_i valid
        rw [if_neg valid]
        split at done
        · rename_i own
          rw [if_pos own]
          exact (Option.some.inj done).symm
        · rename_i foreign
          rw [if_neg foreign]
          rcases Option.bind_eq_some_iff.mp done with ⟨line, -, rest⟩
          rcases Option.map_eq_some_iff.mp rest with ⟨later, saved, rfl⟩
          rcases Option.map_eq_some_iff.mp saved with ⟨line, -, rfl⟩
          rfl

theorem peerNodeIdLogged_some {kind : ConnKind} {raw : Bytes} {nodeId : String}
    (done : peerNodeIdLogged filter crates kind raw = some nodeId) :
    nodeId = peerNodeId crates kind raw := by
  rw [peerNodeIdLogged] at done
  rw [peerNodeId]
  cases read : ClampPacket.decode raw with
  | error e =>
      rw [read] at done
      exact (Option.some.inj done).symm
  | ok packet =>
      rw [read] at done
      dsimp only at done ⊢
      split at done
      · rename_i hello
        rw [if_pos hello]
        change nodeId = (helloNodeId crates packet).getD kind.preHelloKey
        cases named : helloNodeId crates packet with
        | none =>
            rw [named] at done
            exact (Option.some.inj done).symm
        | some nid =>
            rw [named] at done
            rcases Option.map_eq_some_iff.mp done with ⟨line, -, rfl⟩
            rfl
      · rename_i other
        rw [if_neg other]
        exact (Option.some.inj done).symm

theorem processIncomingPacketLogged_some {env : ReceiveEnv} {raw : Bytes} {senderKey : String}
    {kind : ConnKind} {outcome : AppState crates × List Event}
    (done : processIncomingPacketLogged filter node env raw senderKey kind = some outcome) :
    outcome = processIncomingPacket node env raw senderKey kind := by
  rw [processIncomingPacketLogged] at done
  rw [processIncomingPacket]
  cases read : ClampPacket.decode raw with
  | error e =>
      rw [read] at done
      exact (Option.some.inj done).symm
  | ok packet =>
      rw [read] at done
      dsimp only at done ⊢
      cases type : packet.header.packetType with
      | syncData =>
          rw [type] at done
          rcases Option.map_eq_some_iff.mp done with ⟨later, saved, rfl⟩
          rw [handleSyncDataLogged] at saved
          dsimp only
          rw [handleSyncData]
          cases parsed : crates.messageFromSlice packet.ciphertext with
          | none =>
              rw [parsed] at saved
              cases saved
              rfl
          | some message =>
              rw [parsed] at saved
              rcases Option.map_eq_some_iff.mp saved with ⟨line, -, rfl⟩
              rfl
      | hello =>
          rw [type] at done
          rcases Option.map_eq_some_iff.mp done with ⟨line, -, rfl⟩
          rfl
      | syncReq | syncResp | broadcast | dm | channel | file =>
          rw [type] at done
          exact (Option.some.inj done).symm

end Refinement

section Completion

variable {crates : Crates} {filter : LogFilter} {node : AppState crates}

theorem completes_datagram {fromBytes : Bytes → Option PeerBeacon} {now : UInt64} {data : Bytes}
    {srcAddr : SocketAddr} :
    (Arrival.datagram now data srcAddr).Completes filter fromBytes node ↔
      ∀ text ∈ (Arrival.datagram now data srcAddr).cut filter fromBytes node,
        CutsBetween text 8 := by
  rw [Arrival.Completes, Arrival.cut, receiveDatagramLogged]
  cases fromBytes data with
  | none => exact iff_of_true rfl fun _ none => absurd none List.not_mem_nil
  | some beacon =>
      dsimp only
      by_cases invalid : beacon.isValid = false
      · rw [if_pos invalid, if_neg fun held => Bool.eq_false_iff.mp invalid held.1]
        exact iff_of_true rfl fun _ none => absurd none List.not_mem_nil
      have valid : beacon.isValid = true := eq_true_of_ne_false invalid
      have size : (utf8 beacon.nodeId).length = 64 := (of_decide_eq_true valid).2.1
      have long : 8 ≤ (utf8 beacon.nodeId).length := by omega
      rw [if_neg invalid]
      by_cases own : node.identity.nodeIdHex = beacon.nodeId
      · rw [if_pos own, if_neg fun held => held.2.1 own]
        exact iff_of_true rfl fun _ none => absurd none List.not_mem_nil
      rw [if_neg own, isSome_logs_bind, Option.isSome_map, savePeerFromBeaconLogged,
        Option.isSome_map, isSome_logs, isSome_strSlice long]
      by_cases logged : filter.info = true ∨ filter.debug = true
      · rw [if_pos ⟨valid, own, logged⟩]
        simp only [List.mem_singleton, forall_eq]
        constructor
        · rintro ⟨first, second⟩
          exact logged.elim first second
        · intro cut
          exact ⟨fun _ => cut, fun _ => cut⟩
      · rw [if_neg fun held => logged held.2.2]
        rw [not_or] at logged
        exact iff_of_true ⟨fun on => absurd on logged.1, fun on => absurd on logged.2⟩
          fun _ none => absurd none List.not_mem_nil

theorem completes_firstFrame {fromBytes : Bytes → Option PeerBeacon} {kind : ConnKind}
    {raw : Bytes} :
    (Arrival.firstFrame kind raw).Completes filter fromBytes node ↔
      ∀ text ∈ (Arrival.firstFrame kind raw).cut filter fromBytes node, CutsBetween text 8 := by
  rw [Arrival.Completes, Arrival.cut, peerNodeIdLogged]
  cases ClampPacket.decode raw with
  | error e => exact iff_of_true rfl fun _ none => absurd none List.not_mem_nil
  | ok packet =>
      dsimp only
      by_cases hello : packet.header.packetType = .hello
      · rw [if_pos hello]
        cases named : helloNodeId crates packet with
        | none =>
            apply iff_of_true rfl
            intro text member
            split at member <;> cases member
        | some nid =>
            dsimp only
            rw [Option.isSome_map, isSome_logs, isSome_strPrefix]
            by_cases logged : filter.info = true
            · rw [if_pos ⟨hello, logged⟩]
              simp [logged]
            · rw [if_neg fun held => logged held.2]
              exact iff_of_true (fun on => absurd on logged)
                fun _ none => absurd none List.not_mem_nil
      · rw [if_neg hello, if_neg fun held => hello held.1]
        exact iff_of_true rfl fun _ none => absurd none List.not_mem_nil

theorem completes_frame {fromBytes : Bytes → Option PeerBeacon} {env : ReceiveEnv} {raw : Bytes}
    {senderKey : String} {kind : ConnKind} :
    (Arrival.frame env raw senderKey kind).Completes filter fromBytes node ↔
      ∀ text ∈ (Arrival.frame env raw senderKey kind).cut filter fromBytes node,
        CutsBetween text 8 := by
  rw [Arrival.Completes, Arrival.cut, processIncomingPacketLogged]
  cases ClampPacket.decode raw with
  | error e => exact iff_of_true rfl fun _ none => absurd none List.not_mem_nil
  | ok packet =>
      dsimp only
      by_cases logged : filter.debug = true
      · rw [if_pos logged]
        cases packet.header.packetType with
        | hello =>
            dsimp only
            rw [Option.isSome_map, isSome_logs, isSome_strPrefix]
            simp [logged]
        | syncData =>
            dsimp only
            rw [Option.isSome_map, handleSyncDataLogged]
            cases crates.messageFromSlice packet.ciphertext with
            | none => exact iff_of_true rfl fun _ none => absurd none List.not_mem_nil
            | some message =>
                dsimp only
                rw [Option.isSome_map, isSome_logs, isSome_strPrefix]
                simp [logged]
        | syncReq | syncResp | broadcast | dm | channel | file =>
            exact iff_of_true rfl fun _ none => absurd none List.not_mem_nil
      · rw [if_neg logged]
        refine iff_of_true ?_ fun _ none => absurd none List.not_mem_nil
        cases packet.header.packetType with
        | hello =>
            dsimp only
            rw [Option.isSome_map, isSome_logs]
            exact fun on => absurd on logged
        | syncData =>
            dsimp only
            rw [Option.isSome_map, handleSyncDataLogged]
            cases crates.messageFromSlice packet.ciphertext with
            | none => rfl
            | some message =>
                dsimp only
                rw [Option.isSome_map, isSome_logs]
                exact fun on => absurd on logged
        | syncReq | syncResp | broadcast | dm | channel | file => rfl

theorem completes_decrypt {fromBytes : Bytes → Option PeerBeacon} {now : UInt64}
    {packetId nonceHex ciphertextHex aeadTagHex : String} :
    (Arrival.decrypt now packetId nonceHex ciphertextHex aeadTagHex).Completes filter fromBytes
        node ↔
      ∀ text ∈ (Arrival.decrypt now packetId nonceHex ciphertextHex aeadTagHex).cut filter fromBytes
        node, CutsBetween text 8 := by
  rw [Arrival.Completes, Arrival.cut, tryDecryptPacket]
  cases parsePresented packetId nonceHex ciphertextHex aeadTagHex with
  | error e =>
      refine iff_of_true ?_ fun _ none => absurd none List.not_mem_nil
      intro same
      cases same
  | ok presented =>
      dsimp only
      generalize searchPeers crates crates.dmFromSlice .dm node.identity now presented
        node.store.getAllPeers node.store = search
      rcases search with ⟨_ | found, store⟩
      · refine iff_of_true ?_ fun _ none => absurd none List.not_mem_nil
        intro same
        cases same
      · simp only [Option.map_some, Option.mem_toList, Option.some.injEq, forall_eq']
        rw [← isSome_strPrefix, receivedRow]
        cases strPrefix found.payload.senderId 8 with
        | none => exact iff_of_false (fun kept => kept rfl) Bool.false_ne_true
        | some front =>
            refine iff_of_true ?_ rfl
            intro same
            cases same

end Completion

/-- Whatever arrives, on whatever levels are logged: no handler panics exactly when the cut of each
string that it slices falls between two characters. -/
theorem slices_complete_iff {crates : Crates} (filter : LogFilter)
    (fromBytes : Bytes → Option PeerBeacon) (node : AppState crates) (arrival : Arrival) :
    arrival.Completes filter fromBytes node ↔
      ∀ text ∈ arrival.cut filter fromBytes node, CutsBetween text 8 := by
  cases arrival with
  | datagram => exact completes_datagram
  | firstFrame => exact completes_firstFrame
  | frame => exact completes_frame
  | decrypt => exact completes_decrypt

namespace Sample

def crookedId : String := "aaaaaaaé" ++ String.ofList (List.replicate 55 'a')

def crookedText : String :=
  "\x7b\"protocol\":\"CARAKA-v1\",\"node_id\":\"" ++ crookedId ++
    "\",\"display_name\":\"User\",\"tcp_port\":7771,\"version\":1\x7d"

def crookedFromBytes (data : Bytes) : Option PeerBeacon :=
  if data = utf8 crookedText then some ⟨"CARAKA-v1", crookedId, "User", 7771, 1⟩ else none

end Sample

/-- Under the default filter such a beacon ends the discovery listener. -/
theorem crooked_beacon_aborts :
    ¬ (Arrival.datagram 1000 (utf8 Sample.crookedText) ⟨"192.168.1.7", false, 7770⟩).Completes
      ⟨true, false⟩ Sample.crookedFromBytes (Sample.node Sample.haloCrates 2 []) := by
  rw [Arrival.Completes]
  decide +kernel

end Caraka
