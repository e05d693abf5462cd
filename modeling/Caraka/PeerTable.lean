import Caraka.PeerAddresses
import Caraka.Slicing

/-! The keys of the `peers` table and the trust stored under them, over everything that writes to
the table. -/

namespace Caraka

open Foundation

variable {crates : Crates}

/-- What writes to the table: a datagram on the discovery port, a Hello, a `connect_via_tor`. -/
inductive Meeting where
  | datagram (now : UInt64) (data : Bytes) (srcAddr : SocketAddr)
  | hello (env : ReceiveEnv) (packet : ClampPacket) (kind : ConnKind)
  | connectViaTor (tor : TorState) (now : UInt64) (onionAddress : String) (nodeId : Option String)

section Meetings

variable (filter : LogFilter) (fromBytes : Bytes → Option PeerBeacon)
  (toLowercase : String → String) (node : AppState crates)

/-- A line logged before the row is written may panic, and then no row is. -/
def AppState.meet : Meeting → AppState crates
  | .datagram now data srcAddr =>
    match fromBytes data with
    | none => node
    | some beacon =>
      if (logs filter.info (strSlice beacon.nodeId 8)).isSome then
        (receiveDatagram fromBytes node now data srcAddr).1
      else node
  | .hello env packet kind =>
    if (logs filter.debug (strPrefix (greetedNodeId crates packet) 8)).isSome then
      (handleHello node env packet kind).1
    else node
  | .connectViaTor tor now onionAddress nodeId =>
    (Caraka.connectViaTor toLowercase node tor now onionAddress nodeId).node

namespace Meeting

def names : Meeting → Option String
  | datagram _ data _ =>
    (fromBytes data).bind fun beacon =>
      if beacon.isValid = true ∧ node.identity.nodeIdHex ≠ beacon.nodeId ∧
          (logs filter.info (strSlice beacon.nodeId 8)).isSome then some beacon.nodeId
      else none
  | hello _ packet _ =>
    if (logs filter.debug (strPrefix (greetedNodeId crates packet) 8)).isSome then
      some (greetedNodeId crates packet)
    else none
  | connectViaTor tor now onionAddress nodeId =>
    nodeId.bind fun id =>
      if endsWith (toLowercase (trim onionAddress)) ".onion" = true ∧ tor = .ready ∧
          (torPeerRecord (node.store.peers.get? id) now id
            (toLowercase (trim onionAddress))).isSome then some id
      else none

def trust (existing : Option PeerRow) : Meeting → ℚ
  | datagram .. => 1
  | hello .. => 2
  | connectViaTor .. => (existing.map PeerRow.trustScore).getD 1

def Effect (meeting : Meeting) : Prop :=
  (meeting.names filter fromBytes toLowercase node = none ∧
      (node.meet filter fromBytes toLowercase meeting).store.peers = node.store.peers) ∨
    ∃ id row, meeting.names filter fromBytes toLowercase node = some id ∧
      (node.meet filter fromBytes toLowercase meeting).store.peers =
        node.store.peers.insert id row ∧
      row.trustScore = meeting.trust (node.store.peers.get? id)

end Meeting

end Meetings

theorem peers_upsertPeer (store : Store) (peer : PeerRecord) :
    ∃ row, (store.upsertPeer peer).peers = store.peers.insert peer.nodeId row ∧
      row.trustScore = peer.trustScore := by
  rw [Store.upsertPeer]
  refine ⟨_, rfl, ?_⟩
  cases store.peers.get? peer.nodeId with
  | none => rfl
  | some old => rfl

section Steps

variable {filter : LogFilter} {fromBytes : Bytes → Option PeerBeacon}
  {toLowercase : String → String} {node : AppState crates}

theorem meet_hello {env : ReceiveEnv} {raw : Bytes} {senderKey : String} {kind : ConnKind}
    {packet : ClampPacket} (read : ClampPacket.decode raw = .ok packet)
    (type : packet.header.packetType = .hello) :
    ((processIncomingPacketLogged filter node env raw senderKey kind).map Prod.fst).getD node =
      node.meet filter fromBytes toLowercase (.hello env packet kind) := by
  simp only [processIncomingPacketLogged, read, type, AppState.meet]
  cases logs filter.debug (strPrefix (greetedNodeId crates packet) 8) with
  | none => rfl
  | some line => rfl

theorem meet_datagram {now : UInt64} {data : Bytes} {srcAddr : SocketAddr}
    {outcome : AppState crates × List DiscoveryEvent}
    (done : receiveDatagramLogged filter fromBytes node now data srcAddr = some outcome) :
    outcome.1 = node.meet filter fromBytes toLowercase (.datagram now data srcAddr) := by
  have same := receiveDatagramLogged_some done
  rw [same, AppState.meet]
  rw [receiveDatagramLogged] at done
  rw [receiveDatagram] at same ⊢
  cases read : fromBytes data with
  | none => rfl
  | some beacon =>
      rw [read] at done
      dsimp only at done ⊢
      split at done
      · rename_i invalid
        simp only [invalid, if_true, ite_self]
      · split at done
        · rename_i own
          simp only [own, if_true, ite_self]
        · rcases Option.bind_eq_some_iff.mp done with ⟨line, logged, -⟩
          rw [if_pos (Option.isSome_of_eq_some logged)]

theorem effect_datagram (now : UInt64) (data : Bytes) (srcAddr : SocketAddr) :
    (Meeting.datagram now data srcAddr).Effect filter fromBytes toLowercase node := by
  rw [Meeting.Effect, Meeting.names, AppState.meet, receiveDatagram]
  cases read : fromBytes data with
  | none => exact .inl ⟨rfl, rfl⟩
  | some beacon =>
      rw [Option.bind_some]
      dsimp only
      by_cases invalid : beacon.isValid = false
      · rw [if_neg fun held => Bool.eq_false_iff.mp invalid held.1, if_pos invalid, ite_self]
        exact .inl ⟨rfl, rfl⟩
      by_cases own : node.identity.nodeIdHex = beacon.nodeId
      · rw [if_neg fun held => held.2.1 own, if_neg invalid, if_pos own, ite_self]
        exact .inl ⟨rfl, rfl⟩
      rw [if_neg invalid, if_neg own]
      by_cases logged : (logs filter.info (strSlice beacon.nodeId 8)).isSome
      · rw [if_pos ⟨eq_true_of_ne_false invalid, own, logged⟩, if_pos logged]
        rw [savePeerFromBeacon.eq_def]
        rcases peers_upsertPeer node.store _ with ⟨row, written, trusted⟩
        exact .inr ⟨beacon.nodeId, row, rfl, written, trusted⟩
      · rw [if_neg fun held => logged held.2.2, if_neg logged]
        exact .inl ⟨rfl, rfl⟩

theorem effect_hello (env : ReceiveEnv) (packet : ClampPacket) (kind : ConnKind) :
    (Meeting.hello env packet kind).Effect filter fromBytes toLowercase node := by
  rw [Meeting.Effect, Meeting.names, AppState.meet]
  by_cases logged : (logs filter.debug (strPrefix (greetedNodeId crates packet) 8)).isSome
  · rw [if_pos logged, if_pos logged, handleHello, savePeerFromHello.eq_def]
    rcases peers_upsertPeer node.store _ with ⟨row, written, trusted⟩
    exact .inr ⟨greetedNodeId crates packet, row, rfl, written, trusted⟩
  · rw [if_neg logged, if_neg logged]
    exact .inl ⟨rfl, rfl⟩

theorem torPeerRecord_some {existing : Option PeerRow} {now : UInt64} {nodeId onion : String}
    {peer : PeerRecord} (made : torPeerRecord existing now nodeId onion = some peer) :
    peer.nodeId = nodeId ∧ peer.trustScore = (existing.map PeerRow.trustScore).getD 1 := by
  rcases Option.map_eq_some_iff.mp made with ⟨displayName, -, rfl⟩
  exact ⟨rfl, rfl⟩

theorem connectViaTor_unwritten {tor : TorState} {now : UInt64} {onionAddress : String}
    {nodeId : Option String}
    (unmade : ∀ id, nodeId = some id →
      torPeerRecord (node.store.peers.get? id) now id (toLowercase (trim onionAddress)) = none) :
    (connectViaTor toLowercase node tor now onionAddress nodeId).node = node := by
  rw [connectViaTor.eq_def]
  dsimp only
  split
  · rfl
  · cases tor with
    | bootstrapping => rfl
    | failed reason => rfl
    | ready =>
        cases nodeId with
        | none => rfl
        | some id =>
            dsimp only
            rw [unmade id rfl]

theorem effect_connectViaTor (tor : TorState) (now : UInt64) (onionAddress : String)
    (nodeId : Option String) :
    (Meeting.connectViaTor tor now onionAddress nodeId).Effect filter fromBytes toLowercase
      node := by
  rw [Meeting.Effect, Meeting.names, AppState.meet]
  by_cases checked : endsWith (toLowercase (trim onionAddress)) ".onion" = true ∧ tor = .ready
  · rcases checked with ⟨suffix, rfl⟩
    cases nodeId with
    | none =>
        rw [connectViaTor_unwritten fun id none => by cases none]
        exact .inl ⟨rfl, rfl⟩
    | some id =>
        rw [Option.bind_some]
        cases made : torPeerRecord (node.store.peers.get? id) now id
            (toLowercase (trim onionAddress)) with
        | none =>
            rw [if_neg fun held => Bool.false_ne_true held.2.2, connectViaTor_unwritten]
            · exact .inl ⟨rfl, rfl⟩
            · intro other same
              cases same
              exact made
        | some peer =>
            rcases torPeerRecord_some made with ⟨rfl, trusted⟩
            rw [if_pos ⟨suffix, rfl, rfl⟩, connectViaTor_ready suffix made]
            rcases peers_upsertPeer node.store peer with ⟨row, written, score⟩
            exact .inr ⟨peer.nodeId, row, rfl, written, score.trans trusted⟩
  · rw [connectViaTor_refused _ checked]
    refine .inl ⟨?_, rfl⟩
    cases nodeId with
    | none => rfl
    | some id => exact if_neg fun held => checked ⟨held.1, held.2.1⟩

theorem effect (meeting : Meeting) : meeting.Effect filter fromBytes toLowercase node := by
  cases meeting with
  | datagram now data srcAddr => exact effect_datagram now data srcAddr
  | hello env packet kind => exact effect_hello env packet kind
  | connectViaTor tor now onionAddress nodeId => exact effect_connectViaTor ..

theorem identity_meet (meeting : Meeting) :
    (node.meet filter fromBytes toLowercase meeting).identity = node.identity := by
  cases meeting with
  | datagram now data srcAddr =>
      rw [AppState.meet, receiveDatagram]
      cases fromBytes data with
      | none => rfl
      | some beacon =>
          dsimp only
          split_ifs <;> rfl
  | hello env packet kind =>
      rw [AppState.meet]
      split <;> rfl
  | connectViaTor tor now onionAddress nodeId =>
      rw [AppState.meet, connectViaTor.eq_def]
      dsimp only
      split_ifs
      · rfl
      · cases tor with
        | bootstrapping => rfl
        | failed reason => rfl
        | ready =>
            cases nodeId with
            | none => rfl
            | some id =>
                dsimp only
                split <;> rfl

end Steps

def SpelledAsKey (id : String) : Prop := id.toList.length = 64 ∧ Hex.IsLower id

instance (id : String) : Decidable (SpelledAsKey id) := inferInstanceAs (Decidable (_ ∧ _))

theorem spelledAsKey_iff {id : String} :
    SpelledAsKey id ↔ ∃ key : NodePublicKey, id = Hex.encode key.bytes := by
  rw [SpelledAsKey, ← @Hex.encode_surjective id 32]
  constructor
  · intro spelled
    rcases spelled with ⟨bytes, length_eq, rfl⟩
    exact ⟨⟨bytes, length_eq⟩, rfl⟩
  · intro named
    rcases named with ⟨key, rfl⟩
    exact ⟨key.bytes, key.length_eq, rfl⟩

/-- The keys of the table identify peers: each is the canonical text of a key, no two are texts of
one key, and each can be read back. -/
structure Store.Identifies (store : Store) : Prop where
  canonical : ∀ id, (store.peers.get? id).isSome →
    ∃ key : NodePublicKey, id = Hex.encode key.bytes
  distinct : ∀ first second, (store.peers.get? first).isSome → (store.peers.get? second).isSome →
    parseNodeId first = parseNodeId second → first = second
  usable : ∀ id, (store.peers.get? id).isSome → (parseNodeId id).isSome

theorem Store.identifies_iff {store : Store} :
    store.Identifies ↔ ∀ id, (store.peers.get? id).isSome → SpelledAsKey id := by
  constructor
  · intro identifies id known
    exact spelledAsKey_iff.mpr (identifies.canonical id known)
  · intro spelled
    have canonical := fun id known => spelledAsKey_iff.mp (spelled id known)
    refine ⟨canonical, ?_, ?_⟩
    · intro first second firstKnown secondKnown same
      rcases canonical first firstKnown with ⟨key, rfl⟩
      rcases canonical second secondKnown with ⟨other, rfl⟩
      rw [parseNodeId_encode, parseNodeId_encode] at same
      rw [Option.some.inj same]
    · intro id known
      rcases canonical id known with ⟨key, rfl⟩
      rw [parseNodeId_encode]
      rfl

section Runs

variable (filter : LogFilter) (fromBytes : Bytes → Option PeerBeacon)
  (toLowercase : String → String)

/-- The node id that the meeting writes under, if any, is spelled as a key. -/
def Meeting.NamesKey (node : AppState crates) (meeting : Meeting) : Prop :=
  ∀ id, meeting.names filter fromBytes toLowercase node = some id → SpelledAsKey id

theorem identifies_meet_iff {node : AppState crates} (meeting : Meeting)
    (identifies : node.store.Identifies) :
    (node.meet filter fromBytes toLowercase meeting).store.Identifies ↔
      meeting.NamesKey filter fromBytes toLowercase node := by
  rw [Store.identifies_iff] at identifies ⊢
  rw [Meeting.NamesKey]
  rcases @effect _ filter fromBytes toLowercase node meeting with
    ⟨unnamed, same⟩ | ⟨id, row, named, inserted, -⟩
  · rw [unnamed, same]
    exact iff_of_true identifies fun id none => by cases none
  · rw [named, inserted]
    constructor
    · intro spelled other same
      cases same
      apply spelled
      rw [AssocMap.get?_insert_self]
      rfl
    · intro spelled other known
      rw [AssocMap.get?_insert] at known
      split at known
      · rename_i same
        rw [same]
        exact spelled id rfl
      · exact identifies other known

/-- Whatever a node meets, its table identifies peers throughout exactly when it does at first and
every node id under which a row is written is spelled as a key. -/
theorem table_identifies_iff (node : AppState crates) (meetings : List Meeting) :
    Always (AppState.meet filter fromBytes toLowercase) (fun node => node.store.Identifies) node
        meetings ↔
      node.store.Identifies ∧ Along (AppState.meet filter fromBytes toLowercase)
        (fun node meeting => meeting.NamesKey filter fromBytes toLowercase node) node meetings := by
  have kept (start : node.store.Identifies) := @always_iff_along_of_mem _ _
    (AppState.meet filter fromBytes toLowercase) (fun node => node.store.Identifies) (fun _ => True)
    (fun node meeting => meeting.NamesKey filter fromBytes toLowercase node) (fun _ => True)
    (fun _ _ _ _ => trivial)
    (fun _ meeting _ _ good => identifies_meet_iff filter fromBytes toLowercase meeting good)
    node meetings (fun _ _ => trivial) trivial start
  constructor
  · intro always
    have start : node.store.Identifies := (always_iff node meetings).mp always [] meetings rfl
    exact ⟨start, (kept start).mp always⟩
  · intro held
    rcases held with ⟨start, along⟩
    exact (kept start).mpr along

end Runs

namespace Sample

def namelessHello : ClampPacket :=
  { ClampPacket.buildHello (key 1) "User" (octets 4 0) with ciphertext := utf8 "\x7b\x7d" }

def infoOnly : LogFilter := ⟨true, false⟩

end Sample

/-- A Hello without a node id stores a row under the empty string, which is no key. -/
theorem nameless_hello_stored :
    (Sample.node Sample.haloCrates 2 []).store.Identifies ∧
      ¬ Always (AppState.meet Sample.infoOnly Sample.beaconFromBytes id)
        (fun node => node.store.Identifies) (Sample.node Sample.haloCrates 2 [])
        [.hello Sample.receiveEnv Sample.namelessHello (.torInbound "1")] := by
  have start : (Sample.node Sample.haloCrates 2 []).store.Identifies := by
    rw [Store.identifies_iff]
    intro id known
    cases known
  refine ⟨start, fun always => ?_⟩
  have kept := (identifies_meet_iff _ _ _ _ start).mp always.2
  have spelled := kept "" rfl
  exact absurd spelled (by decide)

def Meeting.isHandshake : Meeting → Bool
  | datagram .. | connectViaTor .. => false
  | hello .. => true

variable (crates) in
structure Acquaintance where
  node : AppState crates
  confirmed : Bool

namespace Acquaintance

/-- No Hello of the node id processed yet. -/
def start (node : AppState crates) : Acquaintance crates := ⟨node, false⟩

section Runs

variable (filter : LogFilter) (fromBytes : Bytes → Option PeerBeacon)
  (toLowercase : String → String) (id : String)

def step (acquaintance : Acquaintance crates) (meeting : Meeting) : Acquaintance crates where
  node := acquaintance.node.meet filter fromBytes toLowercase meeting
  confirmed := acquaintance.confirmed || (meeting.isHandshake &&
    meeting.names filter fromBytes toLowercase acquaintance.node = some id)

/-- The row of a confirmed peer has the trust of a handshake. -/
def Trusted (acquaintance : Acquaintance crates) : Prop :=
  acquaintance.confirmed = true →
    ∃ row, acquaintance.node.store.peers.get? id = some row ∧ 2 ≤ row.trustScore

/-- The meeting is no beacon of a peer that a handshake has confirmed. -/
def NoLateBeacon (acquaintance : Acquaintance crates) : Meeting → Prop
  | .datagram now data srcAddr =>
    (Meeting.datagram now data srcAddr).names filter fromBytes toLowercase acquaintance.node =
      some id → acquaintance.confirmed = false
  | .hello .. | .connectViaTor .. => True

variable {filter fromBytes toLowercase id}

theorem trusted_of_written {acquaintance : Acquaintance crates} {meeting : Meeting}
    (trusted : acquaintance.Trusted id) (spared : acquaintance.NoLateBeacon filter fromBytes
      toLowercase id meeting)
    (named : meeting.names filter fromBytes toLowercase acquaintance.node = some id)
    (confirmed : (acquaintance.step filter fromBytes toLowercase id meeting).confirmed = true) :
    2 ≤ meeting.trust (acquaintance.node.store.peers.get? id) := by
  cases meeting with
  | datagram now data srcAddr =>
      rw [step, spared named] at confirmed
      cases confirmed
  | hello env packet kind => exact le_refl 2
  | connectViaTor tor now onionAddress nodeId =>
      have earlier : acquaintance.confirmed = true := by
        rw [step] at confirmed
        simpa [Meeting.isHandshake] using confirmed
      rcases trusted earlier with ⟨row, stored, trust⟩
      rw [Meeting.trust, stored]
      exact trust

theorem trusted_step {acquaintance : Acquaintance crates} {meeting : Meeting}
    (trusted : acquaintance.Trusted id)
    (spared : acquaintance.NoLateBeacon filter fromBytes toLowercase id meeting) :
    (acquaintance.step filter fromBytes toLowercase id meeting).Trusted id := by
  intro confirmed
  have earlier (other : meeting.names filter fromBytes toLowercase acquaintance.node ≠ some id) :
      acquaintance.confirmed = true := by
    rw [step] at confirmed
    simpa [other] using confirmed
  rcases @effect _ filter fromBytes toLowercase acquaintance.node meeting with
    ⟨unnamed, same⟩ | ⟨written, row, named, inserted, trust⟩
  · rw [step, same]
    apply trusted (earlier _)
    rw [unnamed]
    exact Option.some_ne_none id ∘ Eq.symm
  · rw [step, inserted]
    by_cases here : written = id
    · subst here
      refine ⟨row, AssocMap.get?_insert_self .., ?_⟩
      rw [trust]
      exact trusted_of_written trusted spared named confirmed
    · rw [AssocMap.get?_insert_ne _ _ (Ne.symm here)]
      apply trusted (earlier _)
      rw [named]
      exact fun same => here (Option.some.inj same)

theorem distrusted_of_late_beacon {acquaintance : Acquaintance crates} {meeting : Meeting}
    (late : ¬ acquaintance.NoLateBeacon filter fromBytes toLowercase id meeting) :
    ¬ (acquaintance.step filter fromBytes toLowercase id meeting).Trusted id := by
  cases meeting with
  | hello => exact absurd trivial late
  | connectViaTor => exact absurd trivial late
  | datagram now data srcAddr =>
      rw [NoLateBeacon, Classical.not_imp, Bool.not_eq_false] at late
      rcases late with ⟨named, confirmed⟩
      intro trusted
      have still : (acquaintance.step filter fromBytes toLowercase id
          (.datagram now data srcAddr)).confirmed = true := by
        rw [step, confirmed]
        rfl
      rcases trusted still with ⟨row, stored, high⟩
      rcases @effect _ filter fromBytes toLowercase acquaintance.node
          (.datagram now data srcAddr) with ⟨unnamed, -⟩ | ⟨written, low, named', inserted, trust⟩
      · rw [unnamed] at named
        cases named
      · rw [named] at named'
        cases named'
        rw [step, inserted, AssocMap.get?_insert_self] at stored
        cases stored
        rw [trust] at high
        change (2 : ℚ) ≤ 1 at high
        exact absurd high (by decide)

end Runs

end Acquaintance

/-- In every state of a run a peer whose Hello was processed keeps the trust of a handshake,
exactly when no beacon of it arrives after the Hello. -/
theorem handshake_trust_survives_iff (filter : LogFilter) (fromBytes : Bytes → Option PeerBeacon)
    (toLowercase : String → String) (id : String) (node : AppState crates)
    (meetings : List Meeting) :
    Always (Acquaintance.step filter fromBytes toLowercase id) (Acquaintance.Trusted id)
        (Acquaintance.start node) meetings ↔
      Along (Acquaintance.step filter fromBytes toLowercase id)
        (Acquaintance.NoLateBeacon filter fromBytes toLowercase id) (Acquaintance.start node)
        meetings := by
  have kept_iff (acquaintance : Acquaintance crates) (meeting : Meeting)
      (trusted : acquaintance.Trusted id) :
      (acquaintance.step filter fromBytes toLowercase id meeting).Trusted id ↔
        acquaintance.NoLateBeacon filter fromBytes toLowercase id meeting := by
    constructor
    · intro later
      by_contra late
      exact Acquaintance.distrusted_of_late_beacon late later
    · exact Acquaintance.trusted_step trusted
  have unconfirmed : (Acquaintance.start node).Trusted id := by
    intro confirmed
    cases confirmed
  exact @always_iff_along_of_mem _ _ _ _ (fun _ => True) _ (fun _ => True)
    (fun _ _ _ _ => trivial)
    (fun acquaintance meeting _ _ trusted => kept_iff acquaintance meeting trusted)
    (Acquaintance.start node) meetings (fun _ _ => trivial) trivial unconfirmed

namespace Sample

def greeting : ClampPacket := ClampPacket.buildHello (key 1) "User" (octets 4 0)

def lateBeacon : Meeting := .datagram 1005 (utf8 beaconText) (lanAddr 7770)

theorem greeting_nodeId : greetedNodeId helloCrates greeting = nodeId 1 := by
  have parsed : helloCrates.valueFromSlice greeting.ciphertext =
      some (.object [("displayName", .string "User"), ("nodeId", .string (nodeId 1))]) := by
    simp only [helloCrates, greeting, if_true]
  rw [greetedNodeId, parsed]
  rfl

theorem sliced (enabled : Bool) (number : Nat) :
    (logs enabled (strPrefix (nodeId number) 8)).isSome := by
  rw [nodeId, strPrefix_encode]
  cases enabled <;> rfl

theorem greeting_named (node : AppState helloCrates) (kind : ConnKind) :
    (Meeting.hello receiveEnv greeting kind).names infoOnly beaconFromBytes id node =
      some (nodeId 1) := by
  rw [Meeting.names, greeting_nodeId]
  exact if_pos (sliced false 1)

theorem lateBeacon_named {node : AppState helloCrates}
    (other : node.identity.nodeIdHex ≠ nodeId 1) :
    lateBeacon.names infoOnly beaconFromBytes id node = some (nodeId 1) := by
  have read : beaconFromBytes (utf8 beaconText) = some (PeerBeacon.new (key 1) "User" 7771) :=
    if_pos rfl
  have sized : ¬ (utf8 (nodeId 1)).length < 8 := by
    rw [nodeId, Hex.length_decode (Hex.decode_encode _), (key 1).length_eq]
    decide
  rw [lateBeacon, Meeting.names, read, Option.bind_some]
  apply if_pos
  refine ⟨PeerBeacon.isValid_new .., other, ?_⟩
  change (logs true (strSlice (nodeId 1) 8)).isSome
  rw [strSlice, if_neg sized]
  exact sliced true 1

end Sample

/-- The next beacon of a peer undoes what its Hello confirmed. -/
theorem beacon_undoes_handshake :
    ¬ Always (Acquaintance.step Sample.infoOnly Sample.beaconFromBytes id (Sample.nodeId 1))
      (Acquaintance.Trusted (Sample.nodeId 1))
      (Acquaintance.start (Sample.node Sample.helloCrates 2 []))
      [.hello Sample.receiveEnv Sample.greeting (Sample.lan 7771), Sample.lateBeacon] := by
  intro always
  have confirmed : ((Acquaintance.start (Sample.node Sample.helloCrates 2 [])).step Sample.infoOnly
      Sample.beaconFromBytes id (Sample.nodeId 1)
      (.hello Sample.receiveEnv Sample.greeting (Sample.lan 7771))).confirmed = true := by
    rw [Acquaintance.step, Sample.greeting_named, decide_eq_true rfl]
    rfl
  refine Acquaintance.distrusted_of_late_beacon ?_ always.2.2
  intro spared
  rw [spared (Sample.lateBeacon_named ?_)] at confirmed
  · cases confirmed
  · rw [Acquaintance.step, identity_meet]
    exact Sample.node_two_other

end Caraka
