import Caraka.Mesh
import Caraka.Spreading

/-! Flooding dies out: no run in which frames are only written, processed and lost goes on for
ever, whatever the nodes remember. -/

namespace Caraka

open Foundation

variable {crates : Crates}

/-- A node as its connections see it: while the vault is locked there is no state but the
channels. -/
inductive Host (crates : Crates) where
  | locked (peerSenders : PeerSenders)
  | unlocked (node : AppState crates)

/-- `process_incoming_packet` while `with_state` finds no state: no router, no store. -/
def processIncomingLocked (crates : Crates) (peerSenders : PeerSenders) (raw : Bytes)
    (senderKey : String) (kind : ConnKind) : PeerSenders × List Event :=
  match ClampPacket.decode raw with
  | .error _ => (peerSenders, [])
  | .ok packet =>
    match packet.header.packetType with
    | .hello =>
      let payload := (crates.valueFromSlice packet.ciphertext).getD .other
      let nodeId := (payload.member "nodeId").asStr.getD ""
      let displayName := (payload.member "displayName").asStr.getD "Unknown"
      (peerSenders, [.peerHandshaked nodeId displayName kind.displayHost kind.port])
    | .broadcast =>
      match crates.broadcastFromSlice packet.ciphertext with
      | none => (peerSenders, [])
      | some payload =>
        let received := .broadcastReceived payload packet.hopAuth.hopCounter
        if packet.header.ttl > 0 then
          let relayPkt := { packet with
            header.ttl := packet.header.ttl - 1
            hopAuth.hopCounter := packet.hopAuth.hopCounter + 1 }
          (relayPacket relayPkt senderKey peerSenders, [received])
        else (peerSenders, [received])
    | .dm | .channel | .file | .syncReq | .syncResp | .syncData => (peerSenders, [])

namespace Host

def peerSenders : Host crates → PeerSenders
  | locked peerSenders => peerSenders
  | unlocked node => node.peerSenders

def withSenders (host : Host crates) (peerSenders : PeerSenders) : Host crates :=
  match host with
  | locked _ => locked peerSenders
  | unlocked node => unlocked { node with peerSenders }

def act : Host crates → NodeAction → Host crates
  | unlocked node, action => unlocked (node.act action)
  | locked peerSenders, .command .. => locked peerSenders
  | locked peerSenders, .connect peerId => locked (peerSenders.insert peerId Channel.new)
  | locked peerSenders, .disconnect peerId => locked (peerSenders.erase peerId)

def receive (host : Host crates) (env : ReceiveEnv) (frame : Frame) : Host crates :=
  match host with
  | unlocked node =>
    unlocked (processIncomingPacket node env frame.raw frame.senderKey frame.kind).1
  | locked peerSenders =>
    locked (processIncomingLocked crates peerSenders frame.raw frame.senderKey frame.kind).1

end Host

/-- The network of nodes, locked or not. -/
def hosts {ι : Type} (crates : Crates) (links : Links ι) :
    Protocol ι (Host crates) NodeAction String Frame ReceiveEnv where
  act := Host.act
  write node host peerId := (writePort links node host.peerSenders peerId).map fun written =>
    (host.withSenders written.1, written.2)
  receive := Host.receive

def queueLoad (queued : List Bytes) : Multiset Nat :=
  Multiset.ofList (queued.map fun raw => 2 * hops raw + 1)

def backlog (peerSenders : PeerSenders) : Multiset Nat :=
  (peerSenders.entries.map fun entry => queueLoad entry.2.queued).sum

def frameLoad (frame : Frame) : Nat := 2 * hops frame.raw

theorem queueLoad_append (front back : List Bytes) :
    queueLoad (front ++ back) = queueLoad front + queueLoad back := by
  rw [queueLoad, List.map_append, ← Multiset.coe_add]
  rfl

theorem backlog_writePort {ι : Type} {links : Links ι} {node : ι} {peerSenders : PeerSenders}
    {peerId : String} {outcome : PeerSenders × Option (ι × Frame)}
    (written : writePort links node peerSenders peerId = some outcome) :
    Multiset.IsDershowitzMannaLT
      (backlog outcome.1 + Multiset.ofList (outcome.2.toList.map fun entry => frameLoad entry.2))
      (backlog peerSenders) := by
  rcases Option.bind_eq_some_iff.mp written with ⟨channel, found, written⟩
  rcases Option.map_eq_some_iff.mp written with ⟨⟨next, sent⟩, taken, rfl⟩
  rcases AssocMap.entries_modify found fun _ => next with ⟨front, back, before, after⟩
  rw [backlog, backlog, before, after]
  simp only [List.map_append, List.map_cons, List.sum_append, List.sum_cons]
  rw [Channel.writeNext] at taken
  cases queued : channel.queued with
  | nil =>
      rw [queued] at taken
      cases taken
  | cons data rest =>
      rw [queued] at taken
      have load : queueLoad (data :: rest) = {2 * hops data + 1} + queueLoad rest := rfl
      rw [load]
      generalize (front.map fun entry => queueLoad entry.2.queued).sum = others
      generalize (back.map fun entry => queueLoad entry.2.queued).sum = others'
      dsimp only at taken
      cases framed : sendRawPacket data with
      | error e =>
          rw [framed] at taken
          cases taken
          refine ⟨others + others', 0, {2 * hops data + 1} + queueLoad rest, ?_, ?_, ?_, ?_⟩
          · simp
          · simp [Channel.close, queueLoad]
          · ac_rfl
          · intro weight member
            cases Multiset.notMem_zero _ member
      | ok frame =>
          rw [framed] at taken
          cases taken
          have popped : channel.pop.queued = rest := congrArg List.tail queued
          rw [popped]
          cases led : links node peerId with
          | none =>
              refine ⟨others + queueLoad rest + others', 0, {2 * hops data + 1},
                Multiset.singleton_ne_zero _, ?_, ?_, ?_⟩
              · simp only [Option.bind_some, Option.map_none, Option.toList_none, List.map_nil,
                  Multiset.coe_nil]
                ac_rfl
              · ac_rfl
              · intro weight member
                cases Multiset.notMem_zero _ member
          | some link =>
              refine ⟨others + queueLoad rest + others', {2 * hops data}, {2 * hops data + 1},
                Multiset.singleton_ne_zero _, ?_, ?_, ?_⟩
              · simp only [Option.bind_some, Option.map_some, Option.toList_some, List.map_cons,
                  List.map_nil, Multiset.coe_singleton, frameLoad]
                ac_rfl
              · ac_rfl
              · intro weight member
                rw [Multiset.mem_singleton] at member
                exact ⟨_, Multiset.mem_singleton_self _, member ▸ Nat.lt_succ_self _⟩

theorem backlog_mapValues {change : String → Channel → Channel} {data : Bytes}
    (offers : ∀ peerId channel,
      change peerId channel = channel ∨ change peerId channel = channel.trySend data)
    (peerSenders : PeerSenders) : ∃ copies, backlog (peerSenders.mapValues change) =
      backlog peerSenders + Multiset.replicate copies (2 * hops data + 1) := by
  have each : ∀ peerId channel, ∃ copies, queueLoad (change peerId channel).queued =
      queueLoad channel.queued + Multiset.replicate copies (2 * hops data + 1) := by
    intro peerId channel
    rcases offers peerId channel with same | offered
    · exact ⟨0, by rw [same, Multiset.replicate_zero, add_zero]⟩
    · rw [offered, Channel.queued_trySend]
      split
      · exact ⟨1, queueLoad_append ..⟩
      · exact ⟨0, (add_zero _).symm⟩
  have entries : ∀ entries : List (String × Channel), ∃ copies,
      ((entries.map fun entry => (entry.1, change entry.1 entry.2)).map fun entry =>
          queueLoad entry.2.queued).sum =
        (entries.map fun entry => queueLoad entry.2.queued).sum +
          Multiset.replicate copies (2 * hops data + 1) := by
    intro entries
    induction entries with
    | nil => exact ⟨0, rfl⟩
    | cons entry entries ih =>
        rcases ih with ⟨copies, later⟩
        rcases each entry.1 entry.2 with ⟨more, now⟩
        refine ⟨more + copies, ?_⟩
        simp only [List.map_cons, List.sum_cons, Multiset.replicate_add] at later ⊢
        rw [later, now]
        ac_rfl
  exact entries peerSenders.entries

theorem Offers.lower {raw : Bytes} {before after : PeerSenders}
    (offers : Offers (fun data => hops data < hops raw) before after) :
    Multiset.IsDershowitzMannaLT (backlog after) (backlog before + {2 * hops raw}) := by
  cases offers with
  | nothing =>
      refine ⟨_, 0, {2 * hops raw}, Multiset.singleton_ne_zero _, (add_zero _).symm, rfl, ?_⟩
      intro weight member
      cases Multiset.notMem_zero _ member
  | data data fewer each =>
      rcases backlog_mapValues each before with ⟨copies, grown⟩
      refine ⟨_, _, {2 * hops raw}, Multiset.singleton_ne_zero _, grown, rfl, ?_⟩
      intro weight member
      rw [Multiset.eq_of_mem_replicate member]
      exact ⟨_, Multiset.mem_singleton_self _, by omega⟩

theorem offers_locked (peerSenders : PeerSenders) (raw : Bytes) (senderKey : String)
    (kind : ConnKind) :
    Offers (fun data => hops data < hops raw) peerSenders
      (processIncomingLocked crates peerSenders raw senderKey kind).1 := by
  rw [processIncomingLocked]
  cases read : ClampPacket.decode raw with
  | error e => exact .nothing
  | ok packet =>
      rcases ClampPacket.decode_eq_ok.mp read with ⟨genuine, rfl⟩
      dsimp only
      cases type : packet.header.packetType with
      | dm | channel | file | hello | syncReq | syncResp | syncData => exact .nothing
      | broadcast =>
          dsimp only
          cases crates.broadcastFromSlice packet.ciphertext with
          | none => exact .nothing
          | some payload =>
              dsimp only
              split
              · rename_i live
                exact offers_relayPacket (hops_passed genuine (.inr type) live (by rw [← type])).1
              · exact .nothing

/-- The frames in flight and in queues die out, in every network and from every state: no run of
writes, arrivals and losses is infinite. -/
theorem flooding_dies_out {ι : Type} [DecidableEq ι] [Fintype ι] (crates : Crates)
    (links : Links ι) :
    WellFounded fun later net : Network ι (Host crates) Frame =>
      (hosts crates links).Moves net later := by
  apply @Network.moves_wellFounded ι _ _ _ _ (fun host => backlog host.peerSenders) frameLoad
  · intro node host peerId outcome written
    rcases Option.map_eq_some_iff.mp written with ⟨taken, wrote, rfl⟩
    have senders : (host.withSenders taken.1).peerSenders = taken.1 := by
      cases host <;> rfl
    rw [senders]
    exact backlog_writePort wrote
  · intro host env frame
    cases host with
    | locked peerSenders => exact (offers_locked ..).lower
    | unlocked node => exact ((offers_receive ..).mono fun _ fine => fine.1).lower

end Caraka
