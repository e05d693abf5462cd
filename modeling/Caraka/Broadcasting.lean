import Caraka.Flooding
import Caraka.Spreading
import Caraka.Foundation.Wavefront

/-! The copies of a broadcast on their way through the network: which nodes they have come over and
what they carry. -/

namespace Caraka

open Foundation

variable {crates : Crates}

structure CopyOf (packetId : Octets 8) (raw : Bytes) (packet : ClampPacket) : Prop where
  read : ClampPacket.decode raw = .ok packet
  floods : Floods packet
  id_eq : packet.header.packetId = packetId

theorem CopyOf.eq_of_encode {packetId : Octets 8} {sent packet : ClampPacket}
    (genuine : sent.Genuine) (copy : CopyOf packetId sent.encode packet) : packet = sent := by
  have read := copy.read
  rw [ClampPacket.decode_encode sent genuine] at read
  exact (Except.ok.inj read).symm

def ClampPacket.passedOn (packet : ClampPacket) : ClampPacket :=
  { packet with
    header.ttl := packet.header.ttl - 1
    hopAuth.hopCounter := packet.hopAuth.hopCounter + 1 }

section Node

variable (node : AppState crates)

theorem offers_copy_command {activity : Activity} (asked : activity.IsCommand) :
    Offers (fun data => ∀ packetId packet, CopyOf packetId data packet →
        node.registered activity = some packetId)
      node.peerSenders (node.perform activity).peerSenders := by
  have sends : ∀ {sent : ClampPacket} (peerSenders : PeerSenders), sent.Genuine →
      node.registered activity = some sent.header.packetId →
      Offers (fun data => ∀ packetId packet, CopyOf packetId data packet →
        node.registered activity = some packetId) peerSenders
        (broadcastPacket sent peerSenders) := by
    intro sent peerSenders genuine registered
    apply Offers.data sent.encode
    · intro packetId packet copy
      rw [registered, ← copy.id_eq, copy.eq_of_encode genuine]
    · intro peerId channel
      exact .inr rfl
  cases activity with
  | receive => cases asked
  | sendDm env recipientId plaintext replyToId replyToText =>
      have ended := sendDm_end node env recipientId plaintext replyToId replyToText
      simp only [AppState.perform, AppState.registered] at sends ⊢
      generalize sendDm node env recipientId plaintext replyToId replyToText = outcome
        at ended sends ⊢
      cases ended with
      | refused | opened | saved | counted => exact .nothing
      | sent events notBlank short known noFault built =>
          exact sends node.peerSenders (sealed_of_buildPacket built).genuine rfl
  | sendFile env recipientId file =>
      have ended := sendFile_end node env recipientId file
      simp only [AppState.perform, AppState.registered] at sends ⊢
      generalize sendFile node env recipientId file = outcome at ended sends ⊢
      cases ended with
      | refused | opened | counted => exact .nothing
      | sent events read known built =>
          exact sends node.peerSenders (sealed_of_buildPacket built).genuine rfl
  | sendBroadcast env text =>
      simp only [AppState.perform, AppState.registered, sendBroadcast] at sends ⊢
      split
      · exact .nothing
      · rename_i notBlank
        rw [if_neg notBlank] at sends
        split
        · exact .nothing
        · rename_i short
          rw [if_neg short] at sends
          exact sends node.peerSenders ⟨rfl, rfl⟩ rfl
  | tryDecrypt now packetId nonceHex ciphertextHex aeadTagHex =>
      have ended := tryDecryptPacket_end node now packetId nonceHex ciphertextHex aeadTagHex
      simp only [AppState.perform]
      generalize tryDecryptPacket node now packetId nonceHex ciphertextHex aeadTagHex = outcome
        at ended ⊢
      cases ended <;> exact .nothing
  | tryDecryptFile now saveReceivedFile packetId nonceHex ciphertextHex aeadTagHex =>
      have ended := tryDecryptFilePacket_end node now saveReceivedFile packetId nonceHex
        ciphertextHex aeadTagHex
      simp only [AppState.perform]
      generalize tryDecryptFilePacket node now saveReceivedFile packetId nonceHex ciphertextHex
        aeadTagHex = outcome at ended ⊢
      cases ended <;> exact .nothing
  | getMessages now peerId limit =>
      simp only [AppState.perform, getMessages]
      split
      · exact .nothing
      · split <;> exact .nothing

theorem offers_copy_receive (env : ReceiveEnv) (raw : Bytes) (senderKey : String) (kind : ConnKind) :
    Offers (fun data => ∀ packetId packet, CopyOf packetId data packet →
        packetId ∉ node.router.packetCache.recent ∧ ∃ before, CopyOf packetId raw before ∧
          (before.header.packetType = .broadcast →
            packet = before.passedOn ∧ before.header.ttl > 0))
      node.peerSenders (processIncomingPacket node env raw senderKey kind).1.peerSenders := by
  cases read : ClampPacket.decode raw with
  | error e =>
      rw [processIncomingPacket, read]
      exact .nothing
  | ok packet =>
      have genuine := (ClampPacket.decode_eq_ok.mp read).1
      by_cases routed : Routed packet
      · have ended := handleRouted_end node env senderKey routed
        rw [process_of_routed read routed]
        generalize handleRouted node env packet senderKey = outcome at ended
        generalize node.relayed env packet senderKey = next at ended
        cases ended with
        | relayed named passes live =>
            apply offers_relayPacket
            intro packetId copied copy
            have genuine' : (node.router.relayed crates packet).Genuine := genuine
            have named : packet.header.packetId = packetId := by
              rw [← copy.id_eq, copy.eq_of_encode genuine']
              rfl
            refine ⟨named ▸ passes.unseen, packet, ⟨read, .inl routed, named⟩,
              fun broadcast => ?_⟩
            rcases routed with type | type | type <;> rw [type] at broadcast <;> cases broadcast
        | last named passes spent => exact .nothing
        | unnamed unnamed => exact .nothing
        | dropped named fails => exact .nothing
      by_cases broadcast : packet.header.packetType = .broadcast
      · have ended := handleBroadcast_end node env senderKey broadcast
        rw [process_of_broadcast read broadcast]
        generalize handleBroadcast node packet senderKey = outcome at ended
        generalize node.relayed env packet senderKey = next at ended
        cases ended with
        | duplicate seen => exact .nothing
        | unreadable unseen unread => exact .nothing
        | relayed unseen payload live next_eq =>
            apply offers_relayPacket
            intro packetId copied copy
            subst next_eq
            have genuine' : packet.passedOn.Genuine := genuine
            have same : copied = packet.passedOn := copy.eq_of_encode genuine'
            have named : packet.header.packetId = packetId := by
              rw [← copy.id_eq, same]
              rfl
            exact ⟨named ▸ unseen, packet, ⟨read, .inr broadcast, named⟩, fun _ => ⟨same, live⟩⟩
        | last unseen payload spent => exact .nothing
      rw [processIncomingPacket, read]
      dsimp only
      cases type : packet.header.packetType with
      | dm => exact absurd (.inl type) routed
      | channel => exact absurd (.inr (.inl type)) routed
      | file => exact absurd (.inr (.inr type)) routed
      | broadcast => exact absurd type broadcast
      | hello => exact .nothing
      | syncResp => exact .nothing
      | syncData =>
          simp only [handleSyncData]
          split <;> exact .nothing
      | syncReq =>
          simp only [handleSyncReq, AssocMap.modify]
          apply Offers.data (syncRespPacket crates node env.idRandom).encode
          · intro packetId copied copy
            exfalso
            have floods := copy.floods
            rw [copy.eq_of_encode ⟨rfl, rfl⟩] at floods
            rcases floods with (type | type | type) | type <;> cases type
          · intro peerId channel
            by_cases same : peerId = senderKey
            · exact .inr (if_pos same)
            · exact .inl (if_neg same)

theorem sendBroadcast_sent {env : SendEnv} {text : String} {packet : ClampPacket}
    (sent : (sendBroadcast node env text).sent = some packet) :
    ∃ payload, packet =
        ClampPacket.buildBroadcast node.identity.myNodeId payload env.idRandom ∧
      (sendBroadcast node env text).node = node.dispatch packet ∧
      (sendBroadcast node env text).events = [.broadcastSent payload] := by
  rw [sendBroadcast] at sent ⊢
  split at sent
  · cases sent
  rename_i notBlank
  split at sent
  · cases sent
  rename_i short
  cases sent
  rw [if_neg notBlank, if_neg short]
  exact ⟨_, rfl, rfl, rfl⟩

def Event.broadcast? : Event → Option (BroadcastPayload × UInt8)
  | broadcastReceived payload hopCount => some (payload, hopCount)
  | clampPacketReceived _ | peerHandshaked .. | syncMissingDetected _ | messageSent ..
  | fileSent .. | fileReceived _ | broadcastSent _ => none

def AppState.shows (node : AppState crates) (packetId : Octets 8) :
    Seen → Option (BroadcastPayload × UInt8)
  | .receive env frame =>
    match ClampPacket.decode frame.raw with
    | .error _ => none
    | .ok packet =>
      if packet.header.packetId = packetId then
        (processIncomingPacket node env frame.raw frame.senderKey frame.kind).2.findSome?
          Event.broadcast?
      else none
  | .act _ | .write _ => none

theorem broadcast_of_shown {env : ReceiveEnv} {frame : Frame} {packet : ClampPacket}
    {shown : BroadcastPayload × UInt8} (read : ClampPacket.decode frame.raw = .ok packet)
    (shows : (processIncomingPacket node env frame.raw frame.senderKey frame.kind).2.findSome?
      Event.broadcast? = some shown) : packet.header.packetType = .broadcast := by
  by_contra other
  by_cases routed : Routed packet
  · have ended := handleRouted_end node env frame.senderKey routed
    rw [process_of_routed read routed] at shows
    generalize handleRouted node env packet frame.senderKey = outcome at ended shows
    generalize node.relayed env packet frame.senderKey = next at ended
    cases ended <;> cases shows
  rw [processIncomingPacket, read] at shows
  dsimp only at shows
  cases type : packet.header.packetType with
  | dm => exact routed (.inl type)
  | channel => exact routed (.inr (.inl type))
  | file => exact routed (.inr (.inr type))
  | broadcast => exact other type
  | hello | syncReq | syncData =>
      rw [type] at shows
      cases shows
  | syncResp =>
      rw [type] at shows
      simp only [handleSyncResp] at shows
      split at shows
      · cases shows
      · split at shows <;> cases shows

theorem copy_of_shows {packetId : Octets 8} {seen : Seen} {shown : BroadcastPayload × UInt8}
    (shows : node.shows packetId seen = some shown) : ∃ env frame packet,
      seen = .receive env frame ∧ CopyOf packetId frame.raw packet ∧
        packet.header.packetType = .broadcast := by
  cases seen with
  | act action => cases shows
  | write peerId => cases shows
  | receive env frame =>
      cases read : ClampPacket.decode frame.raw with
      | error e =>
          simp only [AppState.shows, read] at shows
          cases shows
      | ok packet =>
          simp only [AppState.shows, read] at shows
          split at shows
          · rename_i named
            refine ⟨env, frame, packet, rfl, ⟨read, ?_, named⟩, ?_⟩
            · exact .inr (broadcast_of_shown node read shows)
            · exact broadcast_of_shown node read shows
          · cases shows

theorem shows_broadcast {packetId : Octets 8} {env : ReceiveEnv} {frame : Frame}
    {packet : ClampPacket} (copy : CopyOf packetId frame.raw packet)
    (broadcast : packet.header.packetType = .broadcast) :
    node.shows packetId (.receive env frame) =
      if packetId ∈ node.router.packetCache.recent then none
      else (crates.broadcastFromSlice packet.ciphertext).map fun payload =>
        (payload, packet.hopAuth.hopCounter) := by
  rcases copy with ⟨read, floods, rfl⟩
  have ended := handleBroadcast_end node env frame.senderKey broadcast
  simp only [AppState.shows, read, if_true]
  rw [process_of_broadcast read broadcast]
  generalize handleBroadcast node packet frame.senderKey = outcome at ended ⊢
  generalize node.relayed env packet frame.senderKey = next at ended
  cases ended with
  | duplicate seen =>
      rw [if_pos seen]
      rfl
  | unreadable unseen unread =>
      rw [if_neg unseen, unread]
      rfl
  | relayed unseen payload live next_eq =>
      rw [if_neg unseen, payload]
      rfl
  | last unseen payload spent =>
      rw [if_neg unseen, payload]
      rfl

end Node

section Mesh

variable {ι : Type} {links : Links ι}

theorem writeNext_cases {channel next : Channel} {sent : Option Bytes}
    (written : channel.writeNext = some (next, sent)) :
    (next = Channel.close ∧ sent = none) ∨
      ∃ data, channel.queued = data :: next.queued ∧ sent = some data := by
  rw [Channel.writeNext] at written
  cases queued : channel.queued with
  | nil =>
      rw [queued] at written
      cases written
  | cons data rest =>
      rw [queued] at written
      dsimp only at written
      have popped : channel.pop.queued = rest := congrArg List.tail queued
      cases framed : sendRawPacket data with
      | error e =>
          rw [framed] at written
          cases written
          exact .inl ⟨rfl, rfl⟩
      | ok frame =>
          rw [framed] at written
          cases written
          exact .inr ⟨data, by rw [popped], rfl⟩

theorem writePort_cases {node : ι} {peerSenders : PeerSenders} {peerId : String}
    {outcome : PeerSenders × Option (ι × Frame)}
    (writes : writePort links node peerSenders peerId = some outcome) :
    ∃ channel next sent, peerSenders.get? peerId = some channel ∧
      channel.writeNext = some (next, sent) ∧
      outcome.1 = peerSenders.modify peerId (fun _ => next) ∧
      outcome.2 = sent.bind fun raw => (links node peerId).map fun link =>
        (link.1, ⟨raw, link.2.1, link.2.2⟩) := by
  rcases Option.bind_eq_some_iff.mp writes with ⟨channel, held, written⟩
  rcases Option.map_eq_some_iff.mp written with ⟨⟨next, sent⟩, taken, rfl⟩
  exact ⟨channel, next, sent, held, taken, rfl, rfl⟩

theorem queued_localStep {node : ι} {state : AppState crates} {seen : Seen} {peerId : String}
    {channel : Channel} {raw : Bytes} {packetId : Octets 8} {packet : ClampPacket}
    (found : ((mesh crates links).localStep node state seen).peerSenders.get? peerId =
      some channel)
    (member : raw ∈ channel.queued) (copy : CopyOf packetId raw packet) :
    (∃ old, state.peerSenders.get? peerId = some old ∧ raw ∈ old.queued) ∨
      state.originates seen = some packetId ∨
      packetId ∉ state.router.packetCache.recent ∧
        ∃ env frame before, seen = .receive env frame ∧ CopyOf packetId frame.raw before ∧
          (before.header.packetType = .broadcast →
            packet = before.passedOn ∧ before.header.ttl > 0) := by
  cases seen with
  | act action =>
      cases action with
      | command activity asked =>
          rcases (offers_copy_command state asked).queued found with ⟨old, held, each⟩
          rcases each raw member with before | allowed
          · exact .inl ⟨old, held, before⟩
          · exact .inr (.inl (allowed packetId packet copy))
      | connect other =>
          have inserted : (state.peerSenders.insert other Channel.new).get? peerId = some channel :=
            found
          rw [AssocMap.get?_insert] at inserted
          split at inserted
          · cases inserted
            cases member
          · exact .inl ⟨channel, inserted, member⟩
      | disconnect other =>
          have erased : (state.peerSenders.erase other).get? peerId = some channel := found
          rw [AssocMap.get?_erase] at erased
          split at erased
          · cases erased
          · exact .inl ⟨channel, erased, member⟩
  | write other =>
      left
      cases writes : writePort links node state.peerSenders other with
      | none =>
          have same : (mesh crates links).localStep node state (.write other) = state := by
            simp only [Protocol.localStep, mesh, writes]
            rfl
          rw [same] at found
          exact ⟨channel, found, member⟩
      | some outcome =>
          have same : ((mesh crates links).localStep node state (.write other)).peerSenders =
              outcome.1 := by
            simp only [Protocol.localStep, mesh, writes]
            rfl
          rw [same] at found
          rcases writePort_cases writes with ⟨first, next, sent, held, taken, left, -⟩
          rw [left, AssocMap.get?_modify] at found
          split at found
          · rename_i here
            subst here
            rw [held, Option.map_some, Option.some.injEq] at found
            subst found
            refine ⟨first, held, ?_⟩
            rcases writeNext_cases taken with ⟨rfl, -⟩ | ⟨data, queued, -⟩
            · cases member
            · rw [queued]
              exact List.mem_cons_of_mem data member
          · exact ⟨channel, found, member⟩
  | receive env frame =>
      rcases (offers_copy_receive state env frame.raw frame.senderKey frame.kind).queued found with
        ⟨old, held, each⟩
      rcases each raw member with before | allowed
      · exact .inl ⟨old, held, before⟩
      · rcases allowed packetId packet copy with ⟨unseen, before, read, passed⟩
        exact .inr (.inr ⟨unseen, env, frame, before, rfl, read, passed⟩)

/-- The channels lead from one node to another. -/
def Linked (links : Links ι) (node other : ι) : Prop :=
  ∃ peerId senderKey kind, links node peerId = some (other, senderKey, kind)

structure AfterHops (sent : ClampPacket) (hops : Nat) (packet : ClampPacket) : Prop where
  type_eq : packet.header.packetType = .broadcast
  ciphertext_eq : packet.ciphertext = sent.ciphertext
  counted : packet.hopAuth.hopCounter.toNat = hops
  spent : packet.header.ttl.toNat + hops = sent.header.ttl.toNat

theorem AfterHops.next {sent packet : ClampPacket} {hops : Nat}
    (after : AfterHops sent hops packet) (live : packet.header.ttl > 0) :
    AfterHops sent (hops + 1) packet.passedOn := by
  have positive : 0 < packet.header.ttl.toNat := live
  have ttl : packet.passedOn.header.ttl.toNat = packet.header.ttl.toNat - 1 :=
    UInt8.toNat_sub_of_le _ _ positive
  have small : sent.header.ttl.toNat < 256 := sent.header.ttl.toNat_lt
  have spent := after.spent
  have counted := after.counted
  refine ⟨after.type_eq, after.ciphertext_eq, ?_, by omega⟩
  have sum : packet.passedOn.hopAuth.hopCounter.toNat =
      (packet.hopAuth.hopCounter.toNat + 1) % 256 := UInt8.toNat_add ..
  rw [sum, counted]
  exact Nat.mod_eq_of_lt (by omega)

structure Carries (links : Links ι) (sent : ClampPacket) (origin : ι)
    (net : MeshState crates ι) : Prop where
  queued : ∀ node peerId channel raw packet,
    (net.nodes node).peerSenders.get? peerId = some channel → raw ∈ channel.queued →
    CopyOf sent.header.packetId raw packet →
    ∃ hops, AfterHops sent hops packet ∧ Walk (Linked links) origin node hops
  wired : ∀ node frame packet, (node, frame) ∈ net.wire →
    CopyOf sent.header.packetId frame.raw packet →
    ∃ hops, AfterHops sent hops packet ∧ Walk (Linked links) origin node (hops + 1)

variable [DecidableEq ι]

theorem mem_wire_of_localInput {node : ι} {net : MeshState crates ι} {input : MeshInput ι}
    {env : ReceiveEnv} {frame : Frame}
    (seen : Protocol.localInput node net input = some (.receive env frame)) :
    (node, frame) ∈ net.wire := by
  rcases Protocol.input_of_receive seen with ⟨index, -, found⟩
  exact List.mem_of_getElem? found

theorem wire_step {net : MeshState crates ι} {input : MeshInput ι} {other : ι} {frame : Frame}
    (member : (other, frame) ∈ ((mesh crates links).step net input).wire) :
    (other, frame) ∈ net.wire ∨ ∃ node peerId channel,
      (net.nodes node).peerSenders.get? peerId = some channel ∧ frame.raw ∈ channel.queued ∧
        links node peerId = some (other, frame.senderKey, frame.kind) := by
  cases input with
  | act node action => exact .inl member
  | deliver index env =>
      rw [Protocol.step] at member
      cases found : net.wire[index]? with
      | none =>
          rw [found] at member
          exact .inl member
      | some arriving =>
          rw [found] at member
          exact .inl (List.mem_of_mem_eraseIdx member)
  | lose index => exact .inl (List.mem_of_mem_eraseIdx member)
  | write node peerId =>
      rw [Protocol.step] at member
      cases writes : writePort links node (net.nodes node).peerSenders peerId with
      | none =>
          simp only [mesh, writes, Option.map_none] at member
          exact .inl member
      | some outcome =>
          rcases writePort_cases writes with ⟨channel, next, sent, held, taken, -, out⟩
          simp only [mesh, writes, Option.map_some, List.mem_append, Option.mem_toList] at member
          rcases member with before | written
          · exact .inl before
          rw [out] at written
          rcases Option.bind_eq_some_iff.mp written with ⟨raw, present, led⟩
          rcases Option.map_eq_some_iff.mp led with ⟨link, leads, same⟩
          cases same
          refine .inr ⟨node, peerId, channel, held, ?_, leads⟩
          rcases writeNext_cases taken with ⟨-, lost⟩ | ⟨data, queued, first⟩
          · rw [lost] at present
            cases present
          · rw [first] at present
            cases present
            rw [queued]
            exact List.mem_cons_self

theorem Carries.step {sent : ClampPacket} {origin : ι} {net : MeshState crates ι}
    (carries : Carries links sent origin net) (input : MeshInput ι)
    (alone : ∀ node, originatesAt node net input ≠ some sent.header.packetId) :
    Carries links sent origin ((mesh crates links).step net input) where
  queued := by
    intro node peerId channel raw packet found member copy
    rw [Protocol.nodes_step] at found
    cases seen : Protocol.localInput node net input with
    | none =>
        rw [seen] at found
        exact carries.queued node peerId channel raw packet found member copy
    | some observed =>
        rw [seen] at found
        rcases queued_localStep found member copy with
          ⟨old, held, before⟩ | originates | ⟨-, env, frame, before, rfl, read, passed⟩
        · exact carries.queued node peerId old raw packet held before copy
        · exfalso
          apply alone node
          rw [originatesAt, Protocol.observe, seen]
          exact originates
        · have present := mem_wire_of_localInput seen
          rcases carries.wired node frame before present read with ⟨hops, after, walk⟩
          rcases passed after.type_eq with ⟨rfl, live⟩
          exact ⟨hops + 1, after.next live, walk⟩
  wired := by
    intro node frame packet member copy
    rcases wire_step member with before | ⟨other, peerId, channel, held, queued, leads⟩
    · exact carries.wired node frame packet before copy
    · rcases carries.queued other peerId channel frame.raw packet held queued copy with
        ⟨hops, after, walk⟩
      exact ⟨hops, after, walk.next ⟨peerId, frame.senderKey, frame.kind, leads⟩⟩

/-- No copy of a packet is queued or in flight. -/
structure Unsent (packetId : Octets 8) (net : MeshState crates ι) : Prop where
  queued : ∀ node peerId channel raw packet,
    (net.nodes node).peerSenders.get? peerId = some channel → raw ∈ channel.queued →
    ¬ CopyOf packetId raw packet
  wired : ∀ node frame packet, (node, frame) ∈ net.wire → ¬ CopyOf packetId frame.raw packet

/-- The input by which a node sends a broadcast. -/
def sending (origin : ι) (env : SendEnv) (text : String) : MeshInput ι :=
  .act origin (.command (.sendBroadcast env text) trivial)

theorem nodes_sending {net : MeshState crates ι} {origin : ι} {env : SendEnv} {text : String}
    {sent : ClampPacket}
    (sends : (sendBroadcast (net.nodes origin) env text).sent = some sent) :
    (mesh crates links).step net (sending origin env text) =
      { net with nodes := Function.update net.nodes origin ((net.nodes origin).dispatch sent) } := by
  rcases sendBroadcast_sent (net.nodes origin) sends with ⟨payload, -, dispatched, -⟩
  rw [← dispatched]
  rfl

theorem afterHops_sent {myNodeId : Octets 32} {payload : BroadcastPayload} {random : Octets 4} :
    AfterHops (ClampPacket.buildBroadcast myNodeId payload random) 0
      (ClampPacket.buildBroadcast myNodeId payload random) :=
  ⟨rfl, rfl, rfl, rfl⟩

theorem queued_sending {net : MeshState crates ι} {origin : ι} {env : SendEnv} {text : String}
    {sent : ClampPacket}
    (sends : (sendBroadcast (net.nodes origin) env text).sent = some sent)
    (unsent : Unsent sent.header.packetId net) {node : ι} {peerId : String} {channel : Channel}
    {raw : Bytes} {packet : ClampPacket}
    (found : (((mesh crates links).step net (sending origin env text)).nodes node).peerSenders.get?
      peerId = some channel) (member : raw ∈ channel.queued)
    (copy : CopyOf sent.header.packetId raw packet) : node = origin ∧ packet = sent := by
  rw [nodes_sending sends] at found
  rcases sendBroadcast_sent (net.nodes origin) sends with ⟨payload, built, -, -⟩
  by_cases here : node = origin
  · subst here
    simp only [Function.update_self] at found
    rw [AppState.dispatch, broadcastPacket, AssocMap.get?_mapValues] at found
    rcases Option.map_eq_some_iff.mp found with ⟨old, held, rfl⟩
    rcases Channel.mem_trySend member with before | rfl
    · exact absurd copy (unsent.queued node peerId old raw packet held before)
    · subst built
      exact ⟨rfl, copy.eq_of_encode ⟨rfl, rfl⟩⟩
  · simp only [Function.update_of_ne here] at found
    exact absurd copy (unsent.queued node peerId channel raw packet found member)

theorem unsent_wire_sending {net : MeshState crates ι} {origin : ι} {env : SendEnv}
    {text : String} {sent : ClampPacket}
    (sends : (sendBroadcast (net.nodes origin) env text).sent = some sent)
    (unsent : Unsent sent.header.packetId net) {node : ι} {frame : Frame} {packet : ClampPacket}
    (member : (node, frame) ∈ ((mesh crates links).step net (sending origin env text)).wire) :
    ¬ CopyOf sent.header.packetId frame.raw packet := by
  rw [nodes_sending sends] at member
  exact unsent.wired node frame packet member

theorem carries_sending {net : MeshState crates ι} {origin : ι} {env : SendEnv} {text : String}
    {sent : ClampPacket}
    (sends : (sendBroadcast (net.nodes origin) env text).sent = some sent)
    (unsent : Unsent sent.header.packetId net) :
    Carries links sent origin ((mesh crates links).step net (sending origin env text)) where
  queued := by
    intro node peerId channel raw packet found member copy
    rcases queued_sending sends unsent found member copy with ⟨rfl, rfl⟩
    rcases sendBroadcast_sent (net.nodes node) sends with ⟨payload, rfl, -, -⟩
    exact ⟨0, afterHops_sent, .here⟩
  wired := by
    intro node frame packet member copy
    exact absurd copy (unsent_wire_sending sends unsent member)

/-- No node sends a packet of the id of its own accord. -/
def Alone (packetId : Octets 8) (net : MeshState crates ι) (input : MeshInput ι) : Prop :=
  ∀ node, originatesAt node net input ≠ some packetId

/-- What a node shows, at one input of the network, for the packets of an id. -/
def showsAt (packetId : Octets 8) (node : ι) :
    MeshState crates ι → MeshInput ι → Option (BroadcastPayload × UInt8) :=
  Protocol.observe (fun state => state.shows packetId) node

theorem Carries.shown {sent : ClampPacket} {origin node : ι} {net : MeshState crates ι}
    (carries : Carries links sent origin net) {input : MeshInput ι}
    {shown : BroadcastPayload × UInt8}
    (shows : showsAt sent.header.packetId node net input = some shown) :
    crates.broadcastFromSlice sent.ciphertext = some shown.1 ∧
      shown.2.toNat ≤ sent.header.ttl.toNat ∧
      Walk (Linked links) origin node (shown.2.toNat + 1) := by
  rcases Option.bind_eq_some_iff.mp shows with ⟨seen, observed, tells⟩
  rcases copy_of_shows (net.nodes node) tells with ⟨env, frame, packet, rfl, copy, broadcast⟩
  dsimp only at tells
  rw [shows_broadcast (net.nodes node) copy broadcast] at tells
  split at tells
  · cases tells
  rcases Option.map_eq_some_iff.mp tells with ⟨payload, reads, rfl⟩
  rcases carries.wired node frame packet (mem_wire_of_localInput observed) copy with
    ⟨hops, after, walk⟩
  have spent := after.spent
  have counted := after.counted
  refine ⟨by rw [← after.ciphertext_eq, reads], ?_, ?_⟩
  · dsimp only
    omega
  · dsimp only
    rw [counted]
    exact walk

/-- Whatever a node shows of a broadcast, in every run of the network, is what its reader makes of
the bytes that were sent; the hops shown, five at the most, are counted right: there is a way of
one link more from the origin to the node. -/
theorem broadcast_shown_as_sent (links : Links ι) (net : MeshState crates ι) (origin : ι)
    (env : SendEnv) (text : String) {sent : ClampPacket}
    (sends : (sendBroadcast (net.nodes origin) env text).sent = some sent)
    (unsent : Unsent sent.header.packetId net) (inputs : List (MeshInput ι))
    (alone : Along (mesh crates links).step (Alone sent.header.packetId)
      ((mesh crates links).step net (sending origin env text)) inputs)
    (node : ι) (shown : BroadcastPayload × UInt8)
    (member : shown ∈ emitted (mesh crates links).step (showsAt sent.header.packetId node)
      ((mesh crates links).step net (sending origin env text)) inputs) :
    ∃ payload, (sendBroadcast (net.nodes origin) env text).events = [.broadcastSent payload] ∧
      crates.broadcastFromSlice payload.toVec = some shown.1 ∧ shown.2.toNat ≤ 5 ∧
      Walk (Linked links) origin node (shown.2.toNat + 1) := by
  rcases sendBroadcast_sent (net.nodes origin) sends with ⟨payload, built, -, told⟩
  have carries := @carries_sending crates ι links _ net origin env text sent sends unsent
  have right : crates.broadcastFromSlice sent.ciphertext = some shown.1 ∧
      shown.2.toNat ≤ sent.header.ttl.toNat ∧
      Walk (Linked links) origin node (shown.2.toNat + 1) := by
    generalize (mesh crates links).step net (sending origin env text) = state at *
    induction inputs generalizing state with
    | nil => cases member
    | cons input rest ih =>
        rcases List.mem_append.mp member with now | later
        · exact carries.shown (Option.mem_toList.mp now)
        · exact ih _ alone.2 later (carries.step input alone.1)
  subst built
  exact ⟨payload, told, right.1, right.2.1, right.2.2⟩

end Mesh

namespace Sample

def hailPayload : BroadcastPayload := ⟨nodeId 1, "User", "halo semua", 1000, uuidV4 env.uuidRandom⟩

def hailPacket : ClampPacket := ClampPacket.buildBroadcast (key 1) hailPayload env.idRandom

def hailCrates : Crates :=
  { haloCrates with
    broadcastFromSlice := fun bytes =>
      if bytes = hailPacket.ciphertext then some hailPayload else none }

/-- Nodes 1, 2 and 3, each connected to the next. -/
def line : MeshState hailCrates (Fin 3) where
  nodes place :=
    { node hailCrates (place.val + 1) [] with
      peerSenders :=
        if place.val = 1 then
          (AssocMap.empty.insert (nodeId 1) Channel.new).insert (nodeId 3) Channel.new
        else AssocMap.empty.insert (nodeId 2) Channel.new }
  wire := []

def lineLinks : Links (Fin 3) := fun place peerId =>
  ((List.finRange 3).find? fun other => decide (nodeId (other.val + 1) = peerId) &&
    (decide (other.val + 1 = place.val) || decide (place.val + 1 = other.val))).map fun other =>
      (other, nodeId (place.val + 1), .torInbound "1")

def lineRun : List (MeshInput (Fin 3)) := [
  .write 0 (nodeId 2),
  .deliver 0 receiveEnv,
  .write 1 (nodeId 3),
  .deliver 0 receiveEnv]

theorem hail_sent : (sendBroadcast (line.nodes 0) env "halo semua").sent = some hailPacket := rfl

def lineSent : MeshState hailCrates (Fin 3) :=
  (mesh hailCrates lineLinks).step line (sending 0 env "halo semua")

theorem line_channels (place : Fin 3) : (line.nodes place).peerSenders.entries.all
    (fun entry => entry.2 = Channel.new) = true := by
  revert place
  decide +kernel

theorem line_queued (place : Fin 3) {peerId : String} {channel : Channel}
    (found : (line.nodes place).peerSenders.get? peerId = some channel) : channel = Channel.new :=
  of_decide_eq_true (List.all_eq_true.mp (line_channels place) _ (AssocMap.get?_eq_some.mp found))

theorem hail_unsent : Unsent hailPacket.header.packetId line where
  queued place peerId channel raw packet found member := by
    rw [line_queued place found] at member
    cases member
  wired place frame packet member := by cases member

theorem line_alone : Along (mesh hailCrates lineLinks).step (Alone hailPacket.header.packetId)
    lineSent lineRun := by
  have passive : ∀ (net : MeshState hailCrates (Fin 3)) input,
      (∀ node seen, Protocol.localInput node net input = some seen →
        (net.nodes node).originates seen = none) → Alone hailPacket.header.packetId net input := by
    intro net input silent node originates
    rcases Option.bind_eq_some_iff.mp originates with ⟨seen, observed, sends⟩
    rw [silent node seen observed] at sends
    cases sends
  have writes : ∀ (net : MeshState hailCrates (Fin 3)) place peerId,
      Alone hailPacket.header.packetId net (.write place peerId) := by
    intro net place peerId
    apply passive
    intro node seen observed
    rw [← (Protocol.input_of_ite observed).2]
    rfl
  have delivers : ∀ (net : MeshState hailCrates (Fin 3)) index env,
      Alone hailPacket.header.packetId net (.deliver index env) := by
    intro net index env
    apply passive
    intro node seen observed
    cases seen with
    | act action => cases Protocol.input_of_act observed
    | write peerId => rfl
    | receive env frame => rfl
  exact ⟨writes _ _ _, delivers _ _ _, writes _ _ _, delivers _ _ _, trivial⟩

theorem line_shown : emitted (mesh hailCrates lineLinks).step
    (showsAt hailPacket.header.packetId 2) lineSent lineRun = [(hailPayload, 1)] := by decide +kernel

/-- Node 3 shows the broadcast of node 1, two links away. -/
theorem broadcast_shown_as_sent_line : ∃ payload,
    (sendBroadcast (line.nodes 0) env "halo semua").events = [.broadcastSent payload] ∧
      hailCrates.broadcastFromSlice payload.toVec = some hailPayload ∧
      (1 : UInt8).toNat ≤ 5 ∧ Walk (Linked lineLinks) 0 2 2 :=
  broadcast_shown_as_sent lineLinks line 0 env "halo semua" hail_sent hail_unsent lineRun line_alone
    2 (hailPayload, 1) (line_shown ▸ List.mem_cons_self)

end Sample

end Caraka
