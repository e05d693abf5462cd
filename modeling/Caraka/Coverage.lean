import Caraka.Broadcasting

/-! A broadcast that nothing disturbs reaches every node there is a way to, and is shown there
once. -/

namespace Caraka

open Foundation

variable {crates : Crates} {ι : Type}

def Steady : MeshInput ι → Prop
  | .act _ (.command ..) | .write .. | .deliver .. => True
  | .act _ (.connect _) | .act _ (.disconnect _) | .lose _ => False

/-- Every channel is open and takes one more packet. -/
def Roomy (net : MeshState crates ι) : Prop :=
  ∀ node peerId channel, (net.nodes node).peerSenders.get? peerId = some channel → channel.Takes

/-- A node answers over the connection a frame came in on. -/
def Paired (links : Links ι) : Prop :=
  ∀ node peerId other senderKey kind back, links node peerId = some (other, senderKey, kind) →
    links other senderKey = some back → back.1 = node

def OnWay (links : Links ι) (net : MeshState crates ι) (other : ι) (raw : Bytes) : Prop :=
  (∃ frame, (other, frame) ∈ net.wire ∧ frame.raw = raw) ∨
    ∃ node peerId channel senderKey kind,
      (net.nodes node).peerSenders.get? peerId = some channel ∧ raw ∈ channel.queued ∧
        links node peerId = some (other, senderKey, kind)

/-- A copy of a broadcast is on its way to a node, with some hops left after it. -/
def Flying (links : Links ι) (packetId : Octets 8) (net : MeshState crates ι) (other : ι)
    (left : Nat) : Prop :=
  ∃ raw packet, OnWay links net other raw ∧ CopyOf packetId raw packet ∧
    packet.header.ttl.toNat = left

/-- The links over the connections of a network. -/
def LinkedIn (links : Links ι) (net : MeshState crates ι) (node other : ι) : Prop :=
  ∃ peerId senderKey kind, ((net.nodes node).peerSenders.get? peerId).isSome ∧
    links node peerId = some (other, senderKey, kind)

theorem Offers.kept {allowed : Bytes → Prop} {before after : PeerSenders}
    (offers : Offers allowed before after) {peerId : String} {old : Channel}
    (held : before.get? peerId = some old) :
    ∃ channel, after.get? peerId = some channel ∧ old.queued ⊆ channel.queued := by
  cases offers with
  | nothing => exact ⟨old, held, List.Subset.refl _⟩
  | @data change data fine each =>
      refine ⟨change peerId old, ?_, ?_⟩
      · rw [AssocMap.get?_mapValues, held]
        rfl
      · rcases each peerId old with same | sent
        · rw [same]
          exact List.Subset.refl _
        · rw [sent, Channel.queued_trySend]
          split
          · exact List.subset_append_left ..
          · exact List.Subset.refl _

section Node

variable (node : AppState crates) {env : ReceiveEnv} {raw : Bytes} {senderKey : String}

theorem copy_of_receivedId {packetId : Octets 8}
    (registers : node.receivedId env raw senderKey = some packetId) :
    ∃ packet, CopyOf packetId raw packet := by
  cases read : ClampPacket.decode raw with
  | error e =>
      simp only [AppState.receivedId, read] at registers
      cases registers
  | ok packet =>
      have routed : Routed packet → node.acceptedId env packet senderKey = some packetId →
          packet.header.packetId = packetId := by
        intro _ accepts
        rw [AppState.acceptedId] at accepts
        split at accepts
        · cases accepts
        · split at accepts <;> cases accepts <;> rfl
      simp only [AppState.receivedId, read] at registers
      cases type : packet.header.packetType with
      | broadcast =>
          simp only [type] at registers
          split at registers
          · cases registers
          · cases registers
            exact ⟨packet, read, .inr type, rfl⟩
      | dm =>
          simp only [type] at registers
          exact ⟨packet, read, .inl (.inl type), routed (.inl type) registers⟩
      | channel =>
          simp only [type] at registers
          exact ⟨packet, read, .inl (.inr (.inl type)), routed (.inr (.inl type)) registers⟩
      | file =>
          simp only [type] at registers
          exact ⟨packet, read, .inl (.inr (.inr type)), routed (.inr (.inr type)) registers⟩
      | hello | syncReq | syncResp | syncData =>
          simp only [type] at registers
          cases registers

theorem receivedId_broadcast {packetId : Octets 8} {packet : ClampPacket}
    (copy : CopyOf packetId raw packet) (broadcast : packet.header.packetType = .broadcast) :
    node.receivedId env raw senderKey =
      if packetId ∈ node.router.packetCache.recent then none else some packetId := by
  rcases copy with ⟨read, floods, rfl⟩
  simp only [AppState.receivedId, read, broadcast, Router.isDuplicate, Lru.contains_eq_true]

theorem queued_of_relayed {packetId : Octets 8} {packet : ClampPacket} {payload : BroadcastPayload}
    {kind : ConnKind} (copy : CopyOf packetId raw packet)
    (broadcast : packet.header.packetType = .broadcast)
    (unseen : packetId ∉ node.router.packetCache.recent)
    (reads : crates.broadcastFromSlice packet.ciphertext = some payload)
    (live : packet.header.ttl > 0) {peerId : String} {channel : Channel}
    (held : node.peerSenders.get? peerId = some channel) (takes : channel.Takes)
    (other : peerId ≠ senderKey) :
    ∃ later, (processIncomingPacket node env raw senderKey kind).1.peerSenders.get? peerId =
        some later ∧ packet.passedOn.encode ∈ later.queued := by
  rcases copy with ⟨read, floods, rfl⟩
  have ended := handleBroadcast_end node env senderKey broadcast
  rw [process_of_broadcast read broadcast]
  generalize handleBroadcast node packet senderKey = outcome at ended ⊢
  generalize node.relayed env packet senderKey = next at ended
  cases ended with
  | duplicate seen => exact absurd seen unseen
  | unreadable unseen unread =>
      rw [unread] at reads
      cases reads
  | last unseen payload spent => exact absurd live spent
  | relayed unseen payload live next_eq =>
      refine ⟨channel.trySend packet.passedOn.encode, ?_, ?_⟩
      · rw [relayPacket, AssocMap.get?_mapValues, held, Option.map_some, if_pos other, next_eq]
        rfl
      · rw [Channel.queued_trySend, if_pos takes]
        exact List.mem_append_right _ List.mem_cons_self

end Node

variable [DecidableEq ι] {links : Links ι} {net : MeshState crates ι} {input : MeshInput ι}

theorem channel_step (steady : Steady input) {node : ι} {peerId : String} {channel : Channel}
    (held : (net.nodes node).peerSenders.get? peerId = some channel) :
    ∃ later, (((mesh crates links).step net input).nodes node).peerSenders.get? peerId =
        some later ∧ (channel.queued ⊆ later.queued ∨
          input = .write node peerId ∧ ∃ sent, channel.writeNext = some (later, sent)) := by
  rw [Protocol.nodes_step]
  cases seen : Protocol.localInput node net input with
  | none => exact ⟨channel, held, .inl (List.Subset.refl _)⟩
  | some observed =>
      cases observed with
      | act action =>
          have act := Protocol.input_of_act seen
          subst act
          cases action with
          | connect other => cases steady
          | disconnect other => cases steady
          | command activity asked =>
              rcases (offers_copy_command (net.nodes node) asked).kept held with
                ⟨later, found, more⟩
              exact ⟨later, found, .inl more⟩
      | receive env frame =>
          rcases (offers_copy_receive (net.nodes node) env frame.raw frame.senderKey
            frame.kind).kept held with ⟨later, found, more⟩
          exact ⟨later, found, .inl more⟩
      | write port =>
          have writing := Protocol.input_of_write seen
          simp only [Option.toList_some, List.foldl_cons, List.foldl_nil, Protocol.localStep, mesh]
          cases writes : writePort links node (net.nodes node).peerSenders port with
          | none => exact ⟨channel, held, .inl (List.Subset.refl _)⟩
          | some outcome =>
              rcases writePort_cases writes with ⟨first, next, sent, here, taken, left, -⟩
              simp only [Option.map_some, Option.getD_some, left]
              by_cases same : peerId = port
              · subst same
                rw [held, Option.some.injEq] at here
                subst here
                refine ⟨next, ?_, .inr ⟨writing, sent, taken⟩⟩
                rw [AssocMap.get?_modify_self, held, Option.map_some]
              · refine ⟨channel, ?_, .inl (List.Subset.refl _)⟩
                rw [AssocMap.get?_modify_ne _ _ same, held]

theorem onWay_step (steady : Steady input) (roomy : Roomy ((mesh crates links).step net input))
    {other : ι} {raw : Bytes} (onWay : OnWay links net other raw) :
    OnWay links ((mesh crates links).step net input) other raw ∨
      ∃ env frame, Protocol.localInput other net input = some (.receive env frame) ∧
        frame.raw = raw := by
  rcases onWay with ⟨frame, flies, rfl⟩ | ⟨node, peerId, channel, senderKey, kind, held, queued,
    leads⟩
  · cases input with
    | act node action => exact .inl (.inl ⟨frame, flies, rfl⟩)
    | lose index => cases steady
    | write node peerId =>
        left
        left
        refine ⟨frame, ?_, rfl⟩
        rw [Protocol.step]
        split
        · exact flies
        · exact List.mem_append_left _ flies
    | deliver index env =>
        rcases List.mem_iff_getElem?.mp flies with ⟨position, found⟩
        by_cases here : position = index
        · right
          refine ⟨env, frame, ?_, rfl⟩
          simp only [Protocol.localInput, ← here, found, if_true]
        · left
          left
          refine ⟨frame, ?_, rfl⟩
          rw [Protocol.step]
          split
          · exact flies
          · exact List.mem_eraseIdx_iff_getElem?.mpr ⟨position, here, found⟩
  · left
    rcases @channel_step crates ι _ links net input steady node peerId channel held with
      ⟨later, found, more | ⟨rfl, sent, taken⟩⟩
    · exact .inr ⟨node, peerId, later, senderKey, kind, found, more queued, leads⟩
    · rcases writeNext_cases taken with ⟨rfl, -⟩ | ⟨data, split, rfl⟩
      · cases (roomy node peerId _ found).1
      · rw [split] at queued
        rcases List.mem_cons.mp queued with rfl | rest
        · left
          refine ⟨⟨raw, senderKey, kind⟩, ?_, rfl⟩
          have writes : writePort links node (net.nodes node).peerSenders peerId = some
              ((net.nodes node).peerSenders.modify peerId fun _ => later,
                some (other, ⟨raw, senderKey, kind⟩)) := by
            simp only [writePort, held, Option.bind_some, taken, Option.map_some, leads]
          simp only [Protocol.step, mesh, writes, Option.map_some]
          exact List.mem_append_right _ List.mem_cons_self
        · exact .inr ⟨node, peerId, later, senderKey, kind, found, rest, leads⟩

def Lands (packetId : Octets 8) (net : MeshState crates ι) (input : MeshInput ι) (node : ι)
    (frame : Frame) (packet : ClampPacket) : Prop :=
  (∃ env, Protocol.localInput node net input = some (.receive env frame)) ∧
    CopyOf packetId frame.raw packet ∧ packetId ∉ (cacheAt node net).recent

theorem Lands.unique {packetId : Octets 8} {node other : ι} {frame frame' : Frame}
    {packet packet' : ClampPacket} (lands : Lands packetId net input node frame packet)
    (others : Lands packetId net input other frame' packet') :
    other = node ∧ frame' = frame ∧ packet' = packet := by
  rcases lands with ⟨⟨env, seen⟩, copy, -⟩
  rcases others with ⟨⟨env', seen'⟩, copy', -⟩
  rcases Protocol.input_of_receive seen with ⟨index, rfl, found⟩
  rcases Protocol.input_of_receive seen' with ⟨index', same, found'⟩
  cases same
  rw [found] at found'
  cases found'
  have reads := copy.read
  rw [copy'.read] at reads
  exact ⟨rfl, rfl, Except.ok.inj reads⟩

theorem lands_of_showsAt {packetId : Octets 8} {node : ι}
    {shown : BroadcastPayload × UInt8}
    (shows : showsAt packetId node net input = some shown) :
    ∃ frame packet, Lands packetId net input node frame packet := by
  rcases Option.bind_eq_some_iff.mp shows with ⟨seen, observed, tells⟩
  dsimp only at tells
  rcases copy_of_shows (net.nodes node) tells with ⟨env, frame, packet, rfl, copy, broadcast⟩
  refine ⟨frame, packet, ⟨env, observed⟩, copy, fun held => ?_⟩
  rw [shows_broadcast (net.nodes node) copy broadcast] at tells
  cases tells.symm.trans (if_pos held)

section Steps

variable {sent : ClampPacket} {origin : ι} (carries : Carries links sent origin net)
  (alone : Alone sent.header.packetId net input)

include carries alone

theorem registersAt_iff (node : ι) :
    registersAt node net input = some sent.header.packetId ↔
      ∃ frame packet, Lands sent.header.packetId net input node frame packet := by
  constructor
  · intro registers
    rcases Option.bind_eq_some_iff.mp registers with ⟨seen, observed, put⟩
    cases seen with
    | write peerId => cases put
    | act action =>
        cases action with
        | connect peerId => cases put
        | disconnect peerId => cases put
        | command activity asked =>
            exfalso
            apply alone node
            rw [originatesAt, Protocol.observe, observed]
            exact put
    | receive env frame =>
        rcases copy_of_receivedId (net.nodes node) put with ⟨packet, copy⟩
        rcases carries.wired node frame packet (mem_wire_of_localInput observed) copy with
          ⟨hops, after, -⟩
        have received : (net.nodes node).receivedId env frame.raw frame.senderKey = _ := put
        rw [receivedId_broadcast (net.nodes node) copy after.type_eq] at received
        refine ⟨frame, packet, ⟨env, observed⟩, copy, fun held => ?_⟩
        cases received.symm.trans (if_pos held)
  · rintro ⟨frame, packet, ⟨env, observed⟩, copy, unseen⟩
    rcases carries.wired node frame packet (mem_wire_of_localInput observed) copy with
      ⟨hops, after, -⟩
    rw [registersAt, Protocol.observe, observed]
    have received := @receivedId_broadcast crates (net.nodes node) env frame.raw frame.senderKey
      _ packet copy after.type_eq
    exact received.trans (if_neg unseen)

theorem flying_older {other : ι} {left : Nat}
    (flies : Flying links sent.header.packetId ((mesh crates links).step net input) other left) :
    Flying links sent.header.packetId net other left ∨ ∃ node frame packet,
      Lands sent.header.packetId net input node frame packet ∧
        left + 1 = packet.header.ttl.toNat := by
  rcases flies with ⟨raw, packet, onWay, copy, rfl⟩
  rcases onWay with ⟨frame, member, rfl⟩ | ⟨node, peerId, channel, senderKey, kind, found, member,
    leads⟩
  · left
    refine ⟨frame.raw, packet, ?_, copy, rfl⟩
    rcases wire_step member with before | ⟨node, peerId, channel, held, queued, leads⟩
    · exact .inl ⟨frame, before, rfl⟩
    · exact .inr ⟨node, peerId, channel, _, _, held, queued, leads⟩
  · rw [Protocol.nodes_step] at found
    cases seen : Protocol.localInput node net input with
    | none =>
        rw [seen] at found
        exact .inl ⟨raw, packet, .inr ⟨node, peerId, channel, senderKey, kind, found, member,
          leads⟩, copy, rfl⟩
    | some observed =>
        rw [seen] at found
        rcases queued_localStep found member copy with
          ⟨old, held, before⟩ | originates | ⟨unseen, env, frame, before, rfl, read, passed⟩
        · exact .inl ⟨raw, packet, .inr ⟨node, peerId, old, senderKey, kind, held, before, leads⟩,
            copy, rfl⟩
        · exfalso
          apply alone node
          rw [originatesAt, Protocol.observe, seen]
          exact originates
        · rcases carries.wired node frame before (mem_wire_of_localInput seen) read with
            ⟨hops, after, -⟩
          rcases passed after.type_eq with ⟨rfl, live⟩
          refine .inr ⟨node, frame, before, ⟨⟨env, seen⟩, read, unseen⟩, ?_⟩
          have positive : 0 < before.header.ttl.toNat := live
          have ttl : before.passedOn.header.ttl.toNat = before.header.ttl.toNat - 1 :=
            UInt8.toNat_sub_of_le _ _ positive
          omega

end Steps

theorem flying_kept {packetId : Octets 8} (steady : Steady input)
    (roomy : Roomy ((mesh crates links).step net input)) {other : ι} {left : Nat}
    (unseen : packetId ∉ (cacheAt other net).recent)
    (flies : Flying links packetId net other left) :
    Flying links packetId ((mesh crates links).step net input) other left ∨
      ∃ frame packet, Lands packetId net input other frame packet := by
  rcases flies with ⟨raw, packet, onWay, copy, rfl⟩
  rcases onWay_step steady roomy onWay with later | ⟨env, frame, seen, rfl⟩
  · exact .inl ⟨raw, packet, later, copy, rfl⟩
  · exact .inr ⟨frame, packet, ⟨env, seen⟩, copy, unseen⟩

theorem mem_cacheAt_step {node : ι} {rest : List (MeshInput ι)}
    (few : (everCached (mesh crates links).step (cacheAt node) (registersAt node) net
      (input :: rest)).toFinset.card ≤ cacheSize) (packetId : Octets 8) :
    packetId ∈ (cacheAt node ((mesh crates links).step net input)).recent ↔
      packetId ∈ (cacheAt node net).recent ∨ registersAt node net input = some packetId := by
  constructor
  · intro member
    rw [cacheAt_step] at member
    rcases List.mem_append.mp (Lru.subset_putAll _ _ member) with old | new
    · exact .inl old
    · exact .inr (Option.mem_toList.mp new)
  · intro held
    apply kept_of_few _ few held
    intro net input
    exact cacheAt_step links node net input

section Covering

variable [Fintype ι]

def holders (packetId : Octets 8) (net : MeshState crates ι) : Finset ι :=
  Finset.univ.filter fun node => packetId ∈ (cacheAt node net).recent

omit [DecidableEq ι] in
theorem mem_holders {packetId : Octets 8} {node : ι} :
    node ∈ holders packetId net ↔ packetId ∈ (cacheAt node net).recent := by
  rw [holders, Finset.mem_filter, and_iff_right (Finset.mem_univ node)]

structure Covers (links : Links ι) (sent : ClampPacket) (origin : ι)
    (first net : MeshState crates ι) : Prop where
  carries : Carries links sent origin net
  senders : ∀ node peerId channel raw packet,
    (net.nodes node).peerSenders.get? peerId = some channel → raw ∈ channel.queued →
    CopyOf sent.header.packetId raw packet → node ∈ holders sent.header.packetId net
  addressed : ∀ node frame packet, (node, frame) ∈ net.wire →
    CopyOf sent.header.packetId frame.raw packet →
    ∃ other peerId, other ∈ holders sent.header.packetId net ∧
      links other peerId = some (node, frame.senderKey, frame.kind)
  ports : ∀ node peerId, ((first.nodes node).peerSenders.get? peerId).isSome →
    ((net.nodes node).peerSenders.get? peerId).isSome
  front : Wavefront (LinkedIn links first) sent.header.ttl.toNat
    (holders sent.header.packetId net) (Flying links sent.header.packetId net)

/-- A run that leaves the connections and the frames as they are, in which nothing else is sent
under the packet id and no queue and no replay cache is full. -/
structure Undisturbed (links : Links ι) (packetId : Octets 8) (net : MeshState crates ι)
    (inputs : List (MeshInput ι)) : Prop where
  steady : ∀ input ∈ inputs, Steady input
  alone : Along (mesh crates links).step (Alone packetId) net inputs
  roomy : Always (mesh crates links).step Roomy net inputs
  few : ∀ node, (everCached (mesh crates links).step (cacheAt node) (registersAt node) net
    inputs).toFinset.card ≤ cacheSize

omit [Fintype ι] in
theorem Undisturbed.rest {packetId : Octets 8} {rest : List (MeshInput ι)}
    (undisturbed : Undisturbed links packetId net (input :: rest)) :
    Undisturbed links packetId ((mesh crates links).step net input) rest where
  steady later member := undisturbed.steady later (List.mem_cons_of_mem input member)
  alone := undisturbed.alone.2
  roomy := undisturbed.roomy.2
  few node := few_of_cons (cacheAt_step links node) (undisturbed.few node)

omit [Fintype ι] in
theorem Undisturbed.roomy_next {packetId : Octets 8} {rest : List (MeshInput ι)}
    (undisturbed : Undisturbed links packetId net (input :: rest)) :
    Roomy ((mesh crates links).step net input) :=
  (always_iff _ rest).mp undisturbed.roomy.2 [] rest rfl

namespace Covers

variable {sent : ClampPacket} {origin : ι} {first : MeshState crates ι}
  {rest : List (MeshInput ι)} (covers : Covers links sent origin first net)
  (undisturbed : Undisturbed links sent.header.packetId net (input :: rest))

include covers undisturbed

theorem mem_holders_step (node : ι) :
    node ∈ holders sent.header.packetId ((mesh crates links).step net input) ↔
      node ∈ holders sent.header.packetId net ∨
        ∃ frame packet, Lands sent.header.packetId net input node frame packet := by
  rw [mem_holders, mem_holders, mem_cacheAt_step (undisturbed.few node),
    registersAt_iff covers.carries undisturbed.alone.1 node]

theorem senders_step {node : ι} {peerId : String} {channel : Channel} {raw : Bytes}
    {packet : ClampPacket}
    (found : (((mesh crates links).step net input).nodes node).peerSenders.get? peerId =
      some channel) (member : raw ∈ channel.queued)
    (copy : CopyOf sent.header.packetId raw packet) :
    node ∈ holders sent.header.packetId ((mesh crates links).step net input) := by
  rw [covers.mem_holders_step undisturbed]
  rw [Protocol.nodes_step] at found
  cases seen : Protocol.localInput node net input with
  | none =>
      rw [seen] at found
      exact .inl (covers.senders node peerId channel raw packet found member copy)
  | some observed =>
      rw [seen] at found
      rcases queued_localStep found member copy with
        ⟨old, held, before⟩ | originates | ⟨unseen, env, frame, before, rfl, read, -⟩
      · exact .inl (covers.senders node peerId old raw packet held before copy)
      · exfalso
        apply undisturbed.alone.1 node
        rw [originatesAt, Protocol.observe, seen]
        exact originates
      · exact .inr ⟨frame, before, ⟨env, seen⟩, read, unseen⟩

theorem addressed_step {node : ι} {frame : Frame} {packet : ClampPacket}
    (member : (node, frame) ∈ ((mesh crates links).step net input).wire)
    (copy : CopyOf sent.header.packetId frame.raw packet) :
    ∃ other peerId, other ∈ holders sent.header.packetId ((mesh crates links).step net input) ∧
      links other peerId = some (node, frame.senderKey, frame.kind) := by
  rcases wire_step member with before | ⟨other, peerId, channel, held, queued, leads⟩
  · rcases covers.addressed node frame packet before copy with ⟨other, peerId, holds, leads⟩
    exact ⟨other, peerId, (covers.mem_holders_step undisturbed other).mpr (.inl holds), leads⟩
  · have holds := covers.senders other peerId channel frame.raw packet held queued copy
    exact ⟨other, peerId, (covers.mem_holders_step undisturbed other).mpr (.inl holds), leads⟩

theorem ports_step (node : ι) (peerId : String)
    (opened : ((first.nodes node).peerSenders.get? peerId).isSome) :
    ((((mesh crates links).step net input).nodes node).peerSenders.get? peerId).isSome := by
  rcases Option.isSome_iff_exists.mp (covers.ports node peerId opened) with ⟨channel, held⟩
  have steady := undisturbed.steady input List.mem_cons_self
  rcases @channel_step crates ι _ links net input steady node peerId channel held with
    ⟨later, found, -⟩
  rw [found]
  rfl

theorem spread (paired : Paired links) {payload : BroadcastPayload}
    (reads : crates.broadcastFromSlice sent.ciphertext = some payload) {node : ι} {frame : Frame}
    {packet : ClampPacket} (lands : Lands sent.header.packetId net input node frame packet)
    (live : packet.header.ttl > 0) {next : ι} (linked : LinkedIn links first node next)
    (absent : next ∉ insert node (holders sent.header.packetId net)) :
    ∃ left, Flying links sent.header.packetId ((mesh crates links).step net input) next left := by
  rcases lands with ⟨⟨env, seen⟩, copy, unseen⟩
  rcases linked with ⟨peerId, senderKey, kind, opened, leads⟩
  have flew := mem_wire_of_localInput seen
  rcases covers.carries.wired node frame packet flew copy with ⟨hops, after, -⟩
  rcases covers.addressed node frame packet flew copy with ⟨other, back, holds, came⟩
  have elsewhere : peerId ≠ frame.senderKey := by
    rintro rfl
    have answers : next = other := paired other back node frame.senderKey frame.kind _ came leads
    exact absent (Finset.mem_insert_of_mem (answers ▸ holds))
  rcases Option.isSome_iff_exists.mp (covers.ports node peerId opened) with ⟨channel, held⟩
  have takes : channel.Takes :=
    (always_iff _ (input :: rest)).mp undisturbed.roomy [] _ rfl node peerId channel held
  have payload_eq : crates.broadcastFromSlice packet.ciphertext = some payload := by
    rw [after.ciphertext_eq, reads]
  rcases @queued_of_relayed crates (net.nodes node) env frame.raw frame.senderKey _ packet payload
    frame.kind copy after.type_eq unseen payload_eq live peerId channel held takes elsewhere with
    ⟨later, found, queued⟩
  have genuine : packet.passedOn.Genuine := (ClampPacket.decode_eq_ok.mp copy.read).1
  refine ⟨_, packet.passedOn.encode, packet.passedOn, ?_, ⟨ClampPacket.decode_encode _ genuine,
    .inr after.type_eq, copy.id_eq⟩, rfl⟩
  refine .inr ⟨node, peerId, later, senderKey, kind, ?_, queued, leads⟩
  rw [Protocol.nodes_step, seen]
  exact found

theorem step (paired : Paired links) (fits : Fintype.card ι ≤ sent.header.ttl.toNat + 2)
    {payload : BroadcastPayload}
    (reads : crates.broadcastFromSlice sent.ciphertext = some payload) :
    Covers links sent origin first ((mesh crates links).step net input) := by
  have steady := undisturbed.steady input List.mem_cons_self
  have members := covers.mem_holders_step undisturbed
  refine ⟨covers.carries.step input undisturbed.alone.1, ?_, ?_, covers.ports_step undisturbed, ?_⟩
  · intro node peerId channel raw packet found member copy
    exact covers.senders_step undisturbed found member copy
  · intro node frame packet member copy
    exact covers.addressed_step undisturbed member copy
  by_cases landing : ∃ node frame packet, Lands sent.header.packetId net input node frame packet
  · rcases landing with ⟨node, frame, packet, lands⟩
    have grown : holders sent.header.packetId ((mesh crates links).step net input) =
        insert node (holders sent.header.packetId net) := by
      ext other
      rw [members, Finset.mem_insert, or_comm]
      constructor
      · rintro (⟨frame', packet', others⟩ | held)
        · exact .inl (lands.unique others).1
        · exact .inr held
      · rintro (rfl | held)
        · exact .inl ⟨frame, packet, lands⟩
        · exact .inr held
    rw [grown]
    have arriving : Flying links sent.header.packetId net node packet.header.ttl.toNat := by
      rcases lands with ⟨⟨env, seen⟩, copy, -⟩
      exact ⟨frame.raw, packet, .inl ⟨frame, mem_wire_of_localInput seen, rfl⟩, copy, rfl⟩
    have absent : node ∉ holders sent.header.packetId net := fun held =>
      lands.2.2 (mem_holders.mp held)
    apply covers.front.passed fits absent arriving
    · intro other left flies
      rcases flying_older covers.carries undisturbed.alone.1 flies with
        before | ⟨other', frame', packet', others, less⟩
      · exact .inl before
      · rw [(lands.unique others).2.2] at less
        exact .inr less
    · intro other left outside flies
      have unseen : sent.header.packetId ∉ (cacheAt other net).recent := fun held =>
        outside (Finset.mem_insert_of_mem (mem_holders.mpr held))
      rcases flying_kept steady undisturbed.roomy_next unseen flies with
        later | ⟨frame', packet', others⟩
      · exact later
      · exfalso
        apply outside
        rw [(lands.unique others).1]
        exact Finset.mem_insert_self ..
    · intro left next linked outside
      exact covers.spread undisturbed paired reads lands left linked outside
  · have same : holders sent.header.packetId ((mesh crates links).step net input) =
        holders sent.header.packetId net := by
      ext other
      rw [members]
      constructor
      · rintro (held | ⟨frame, packet, lands⟩)
        · exact held
        · exact absurd ⟨other, frame, packet, lands⟩ landing
      · exact .inl
    rw [same]
    apply covers.front.moved
    · intro other left flies
      rcases flying_older covers.carries undisturbed.alone.1 flies with
        before | ⟨node, frame, packet, lands, -⟩
      · exact before
      · exact absurd ⟨node, frame, packet, lands⟩ landing
    · intro other left outside flies
      have unseen : sent.header.packetId ∉ (cacheAt other net).recent := fun held =>
        outside (mem_holders.mpr held)
      rcases flying_kept steady undisturbed.roomy_next unseen flies with
        later | ⟨frame, packet, lands⟩
      · exact later
      · exact absurd ⟨other, frame, packet, lands⟩ landing

omit undisturbed in
theorem showsAt_of_lands {payload : BroadcastPayload}
    (reads : crates.broadcastFromSlice sent.ciphertext = some payload) {node : ι} {frame : Frame}
    {packet : ClampPacket} (lands : Lands sent.header.packetId net input node frame packet) :
    ∃ hops : UInt8, hops.toNat ≤ sent.header.ttl.toNat ∧
      showsAt sent.header.packetId node net input = some (payload, hops) := by
  rcases lands with ⟨⟨env, seen⟩, copy, unseen⟩
  rcases covers.carries.wired node frame packet (mem_wire_of_localInput seen) copy with
    ⟨hops, after, -⟩
  refine ⟨packet.hopAuth.hopCounter, ?_, ?_⟩
  · rw [after.counted, ← after.spent]
    exact Nat.le_add_left ..
  · have shown : (net.nodes node).shows sent.header.packetId (.receive env frame) = _ :=
      shows_broadcast (net.nodes node) copy after.type_eq
    rw [after.ciphertext_eq, reads] at shown
    rw [showsAt, Protocol.observe, seen, Option.bind_some]
    exact shown.trans (if_neg unseen)

end Covers

theorem Covers.run {sent : ClampPacket} {origin : ι} {first : MeshState crates ι}
    (paired : Paired links) (fits : Fintype.card ι ≤ sent.header.ttl.toNat + 2)
    {payload : BroadcastPayload}
    (reads : crates.broadcastFromSlice sent.ciphertext = some payload)
    (inputs : List (MeshInput ι)) (covers : Covers links sent origin first net)
    (undisturbed : Undisturbed links sent.header.packetId net inputs) :
    Covers links sent origin first (Foundation.run (mesh crates links).step net inputs) ∧
      ∀ node, (node ∈ holders sent.header.packetId net →
          node ∈ holders sent.header.packetId
              (Foundation.run (mesh crates links).step net inputs) ∧
            emitted (mesh crates links).step (showsAt sent.header.packetId node) net inputs =
              []) ∧
        (node ∉ holders sent.header.packetId net →
          node ∈ holders sent.header.packetId
            (Foundation.run (mesh crates links).step net inputs) →
          ∃ hops : UInt8, hops.toNat ≤ sent.header.ttl.toNat ∧
            emitted (mesh crates links).step (showsAt sent.header.packetId node) net inputs =
              [(payload, hops)]) := by
  induction inputs generalizing net with
  | nil =>
      exact ⟨covers, fun node => ⟨fun held => ⟨held, rfl⟩, fun absent held => absurd held absent⟩⟩
  | cons input rest ih =>
      rcases ih (covers.step undisturbed paired fits reads) undisturbed.rest with ⟨last, shown⟩
      refine ⟨last, fun node => ?_⟩
      have members := covers.mem_holders_step undisturbed node
      have silent : (¬ ∃ frame packet, Lands sent.header.packetId net input node frame packet) →
          showsAt sent.header.packetId node net input = none := by
        intro nothing
        cases shows : showsAt sent.header.packetId node net input with
        | none => rfl
        | some value => exact absurd (lands_of_showsAt shows) nothing
      refine ⟨fun held => ?_, fun absent later => ?_⟩
      · have nothing : ¬ ∃ frame packet,
            Lands sent.header.packetId net input node frame packet := by
          rintro ⟨frame, packet, lands⟩
          exact lands.2.2 (mem_holders.mp held)
        rcases (shown node).1 (members.mpr (.inl held)) with ⟨stays, quiet⟩
        refine ⟨stays, ?_⟩
        rw [emitted, silent nothing, quiet]
        rfl
      · by_cases landing : ∃ frame packet,
            Lands sent.header.packetId net input node frame packet
        · rcases landing with ⟨frame, packet, lands⟩
          rcases covers.showsAt_of_lands reads lands with ⟨hops, few, shows⟩
          refine ⟨hops, few, ?_⟩
          rw [emitted, shows, ((shown node).1 (members.mpr (.inr ⟨frame, packet, lands⟩))).2]
          rfl
        · have still : node ∉ holders sent.header.packetId
              ((mesh crates links).step net input) := by
            rw [members]
            rintro (held | lands)
            · exact absent held
            · exact landing lands
          rcases (shown node).2 still later with ⟨hops, few, once⟩
          refine ⟨hops, few, ?_⟩
          rw [emitted, silent landing, once]
          rfl

/-- A packet id no node has seen and nothing carries. -/
structure Novel (packetId : Octets 8) (net : MeshState crates ι) : Prop where
  unsent : Unsent packetId net
  unseen : ∀ node, packetId ∉ (cacheAt node net).recent

theorem holders_sending {origin : ι} {env : SendEnv} {text : String} {sent : ClampPacket}
    (sends : (sendBroadcast (net.nodes origin) env text).sent = some sent)
    (novel : Novel sent.header.packetId net) :
    holders sent.header.packetId ((mesh crates links).step net (sending origin env text)) =
      {origin} := by
  ext node
  rw [mem_holders, Finset.mem_singleton, nodes_sending sends]
  by_cases here : node = origin
  · subst here
    rw [iff_true_right rfl]
    simp only [cacheAt, Function.update_self]
    exact Lru.mem_put _ _ (by decide)
  · rw [iff_false_right here]
    simp only [cacheAt, Function.update_of_ne here]
    exact novel.unseen node

theorem covers_sending {origin : ι} {env : SendEnv} {text : String} {sent : ClampPacket}
    (sends : (sendBroadcast (net.nodes origin) env text).sent = some sent)
    (novel : Novel sent.header.packetId net) (roomy : Roomy net) :
    Covers links sent origin net ((mesh crates links).step net (sending origin env text)) := by
  have nodes := @nodes_sending crates ι links _ net origin env text sent sends
  have wire : ∀ {node frame packet},
      (node, frame) ∈ ((mesh crates links).step net (sending origin env text)).wire →
      ¬ CopyOf sent.header.packetId frame.raw packet :=
    fun {_ _ _} member => unsent_wire_sending sends novel.unsent member
  have only := @holders_sending crates ι _ links net _ origin env text sent sends novel
  have dispatched : ∀ {peerId : String} {channel : Channel},
      (net.nodes origin).peerSenders.get? peerId = some channel →
      (((mesh crates links).step net (sending origin env text)).nodes origin).peerSenders.get?
        peerId = some (channel.trySend sent.encode) := by
    intro peerId channel held
    rw [nodes]
    simp only [Function.update_self]
    rw [AppState.dispatch, broadcastPacket, AssocMap.get?_mapValues, held, Option.map_some]
  refine ⟨carries_sending sends novel.unsent, ?_, ?_, ?_, ?_⟩
  · intro node peerId channel raw packet found member copy
    rw [only, Finset.mem_singleton]
    exact (queued_sending sends novel.unsent found member copy).1
  · intro node frame packet member copy
    exact absurd copy (wire member)
  · intro node peerId opened
    rcases Option.isSome_iff_exists.mp opened with ⟨channel, held⟩
    by_cases here : node = origin
    · subst here
      rw [dispatched held]
      rfl
    · rw [nodes]
      simp only [Function.update_of_ne here]
      exact opened
  · rw [only]
    apply Wavefront.start
    · rintro node left ⟨raw, packet, onWay, copy, rfl⟩
      rcases onWay with ⟨frame, member, rfl⟩ | ⟨from_, peerId, channel, -, -, found, member, -⟩
      · exact absurd copy (wire member)
      · rw [(queued_sending sends novel.unsent found member copy).2]
    · rintro next ⟨peerId, senderKey, kind, opened, leads⟩ -
      rcases Option.isSome_iff_exists.mp opened with ⟨channel, held⟩
      rcases sendBroadcast_sent (net.nodes origin) sends with ⟨payload, built, -, -⟩
      have genuine : sent.Genuine := by
        rw [built]
        exact ⟨rfl, rfl⟩
      have floods : Floods sent := by
        rw [built]
        exact .inr rfl
      refine ⟨_, sent.encode, sent, .inr ⟨origin, peerId, _, senderKey, kind, dispatched held, ?_,
        leads⟩, ⟨ClampPacket.decode_encode sent genuine, floods, rfl⟩, rfl⟩
      rw [Channel.queued_trySend, if_pos (roomy origin peerId channel held)]
      exact List.mem_append_right _ List.mem_cons_self

/-- In a network of seven nodes at the most, over connections that stay and whose channels and
replay caches have room, a broadcast under a new packet id comes to every node there is a way to:
once no copy flies any more, each has seen its id, and each but its origin has shown its payload
exactly once, with five hops at the most. -/
theorem broadcast_covers (links : Links ι) (paired : Paired links)
    (fits : Fintype.card ι ≤ 7) (net : MeshState crates ι) (origin : ι) (env : SendEnv)
    (text : String) {sent : ClampPacket} {payload : BroadcastPayload}
    (sends : (sendBroadcast (net.nodes origin) env text).sent = some sent)
    (reads : crates.broadcastFromSlice sent.ciphertext = some payload)
    (novel : Novel sent.header.packetId net) (roomy : Roomy net) (inputs : List (MeshInput ι))
    (undisturbed : Undisturbed links sent.header.packetId
      ((mesh crates links).step net (sending origin env text)) inputs)
    (quiet : ∀ node left, ¬ Flying links sent.header.packetId (run (mesh crates links).step
      ((mesh crates links).step net (sending origin env text)) inputs) node left)
    (node : ι) (reached : Relation.ReflTransGen (LinkedIn links net) origin node) :
    sent.header.packetId ∈ (cacheAt node (run (mesh crates links).step
        ((mesh crates links).step net (sending origin env text)) inputs)).recent ∧
      (node ≠ origin → ∃ hops : UInt8, hops.toNat ≤ 5 ∧
        emitted (mesh crates links).step (showsAt sent.header.packetId node)
          ((mesh crates links).step net (sending origin env text)) inputs = [(payload, hops)]) := by
  have ttl : sent.header.ttl.toNat = 5 := by
    rcases sendBroadcast_sent (net.nodes origin) sends with ⟨payload, rfl, -, -⟩
    rfl
  have start : Covers links sent origin net
      ((mesh crates links).step net (sending origin env text)) :=
    covers_sending sends novel roomy
  have only := @holders_sending crates ι _ links net _ origin env text sent sends novel
  rcases start.run paired (by rw [ttl]; exact fits) reads inputs undisturbed with ⟨covers, shown⟩
  have began : origin ∈ holders sent.header.packetId
      ((mesh crates links).step net (sending origin env text)) := by
    rw [only]
    exact Finset.mem_singleton_self origin
  have held := covers.front.settled quiet ((shown origin).1 began).1 reached
  refine ⟨mem_holders.mp held, fun other => ?_⟩
  rw [← ttl]
  apply (shown node).2 _ held
  rw [only, Finset.mem_singleton]
  exact other

end Covering

namespace Sample

theorem lineLinks_some {place other : Fin 3} {peerId senderKey : String} {kind : ConnKind}
    (leads : lineLinks place peerId = some (other, senderKey, kind)) :
    peerId = nodeId (other.val + 1) ∧ senderKey = nodeId (place.val + 1) := by
  rcases Option.map_eq_some_iff.mp leads with ⟨found, search, same⟩
  cases same
  have matched := List.find?_some search
  simp only [Bool.and_eq_true, decide_eq_true_eq] at matched
  exact ⟨matched.1.symm, rfl⟩

theorem place_named : ∀ place other : Fin 3,
    nodeId (place.val + 1) = nodeId (other.val + 1) → place = other := by decide +kernel

theorem line_paired : Paired lineLinks := by
  intro place peerId other senderKey kind back leads returns
  rcases back with ⟨place', senderKey', kind'⟩
  have there := lineLinks_some leads
  have again := lineLinks_some returns
  exact place_named place' place (again.1.symm.trans there.2)

theorem line_room : ∀ steps : Fin 5, ∀ place : Fin 3,
    ((run (mesh hailCrates lineLinks).step lineSent (lineRun.take steps)).nodes
      place).peerSenders.entries.all (fun entry => entry.2.Takes) = true := by
  decide +kernel

theorem line_roomy : Always (mesh hailCrates lineLinks).step Roomy lineSent lineRun := by
  rw [always_iff]
  intro front back split place peerId channel found
  have short : front.length < 5 := by
    have sizes := congrArg List.length split
    rw [List.length_append] at sizes
    change 4 = _ at sizes
    omega
  have taken : front = lineRun.take front.length := by
    rw [split, List.take_left]
  have room := line_room ⟨front.length, short⟩ place
  rw [← taken] at room
  exact of_decide_eq_true (List.all_eq_true.mp room _ (AssocMap.get?_eq_some.mp found))

theorem line_few (place : Fin 3) : (everCached (mesh hailCrates lineLinks).step (cacheAt place)
    (registersAt place) lineSent lineRun).toFinset.card ≤ cacheSize := by
  apply (List.toFinset_card_le _).trans
  rw [everCached, List.length_append]
  have short := @length_emitted_le _ _ (mesh hailCrates lineLinks).step _ (registersAt place)
    lineSent lineRun
  have four : lineRun.length = 4 := rfl
  have first : (cacheAt place lineSent).recent.length ≤ 1 := by
    revert place
    decide +kernel
  change _ ≤ 512
  omega

theorem line_undisturbed :
    Undisturbed lineLinks hailPacket.header.packetId lineSent lineRun where
  steady := by
    intro input member
    simp only [lineRun, List.mem_cons, List.not_mem_nil, or_false] at member
    rcases member with rfl | rfl | rfl | rfl <;> trivial
  alone := line_alone
  roomy := line_roomy
  few := line_few

theorem line_novel : Novel hailPacket.header.packetId line where
  unsent := hail_unsent
  unseen place seen := by
    have empty : (cacheAt place line).recent = [] := rfl
    rw [empty] at seen
    cases seen

theorem broadcastFromSlice_hail (bytes : Bytes) : hailCrates.broadcastFromSlice bytes =
    if bytes = hailPacket.ciphertext then some hailPayload else none := rfl

theorem hail_reads : hailCrates.broadcastFromSlice hailPacket.ciphertext = some hailPayload :=
  (broadcastFromSlice_hail _).trans (if_pos rfl)

theorem line_wire : (run (mesh hailCrates lineLinks).step lineSent lineRun).wire.isEmpty = true := by
  decide +kernel

theorem line_empty : ∀ place : Fin 3,
    ((run (mesh hailCrates lineLinks).step lineSent lineRun).nodes
      place).peerSenders.entries.all (fun entry => entry.2.queued.isEmpty) = true := by
  decide +kernel

theorem quiet_of_empty {net : MeshState hailCrates (Fin 3)} (wire : net.wire.isEmpty = true)
    (queues : ∀ place, (net.nodes place).peerSenders.entries.all
      (fun entry => entry.2.queued.isEmpty) = true) (packetId : Octets 8) (place : Fin 3)
    (left : Nat) : ¬ Flying lineLinks packetId net place left := by
  rintro ⟨raw, packet, onWay, -, -⟩
  rcases onWay with ⟨frame, member, -⟩ | ⟨other, peerId, channel, -, -, found, queued, -⟩
  · rw [List.isEmpty_iff.mp wire] at member
    cases member
  · have held := AssocMap.get?_eq_some.mp found
    have empty := List.all_eq_true.mp (queues other) (peerId, channel) held
    rw [List.isEmpty_iff.mp empty] at queued
    cases queued

theorem line_linked : Relation.ReflTransGen (LinkedIn lineLinks line) 0 2 := by
  have first : LinkedIn lineLinks line 0 1 :=
    ⟨nodeId 2, nodeId 1, .torInbound "1", by decide +kernel, rfl⟩
  have second : LinkedIn lineLinks line 1 2 :=
    ⟨nodeId 3, nodeId 2, .torInbound "1", by decide +kernel, rfl⟩
  exact (Relation.ReflTransGen.single first).tail second

theorem line_start : Roomy line := by
  intro place peerId channel found
  rw [line_queued place found]
  decide

/-- The broadcast of node 1 has come to node 3 when nothing flies any more. -/
theorem broadcast_covers_line : hailPacket.header.packetId ∈ (cacheAt 2
      (run (mesh hailCrates lineLinks).step ((mesh hailCrates lineLinks).step line
        (sending 0 env "halo semua")) lineRun)).recent ∧
    ((2 : Fin 3) ≠ 0 → ∃ hops : UInt8, hops.toNat ≤ 5 ∧
      emitted (mesh hailCrates lineLinks).step (showsAt hailPacket.header.packetId 2)
        ((mesh hailCrates lineLinks).step line (sending 0 env "halo semua")) lineRun =
          [(hailPayload, hops)]) :=
  broadcast_covers lineLinks line_paired (by simp) line 0 env "halo semua" hail_sent
    hail_reads line_novel line_start lineRun line_undisturbed
    (quiet_of_empty line_wire line_empty hailPacket.header.packetId) 2 line_linked

end Sample

end Caraka
