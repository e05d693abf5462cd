import Caraka.Connections
import Caraka.Sample

/-! Whose sender `peer_senders` holds while connections of one node id come and go. -/

namespace Caraka.Net

open Foundation

variable {crates : Crates} {net : Net}

/-- Wherever some connection of a node is being read, the table holds the sender of one that
is. -/
def Serves (net : Net) : Prop :=
  ∀ nodeId, (∃ id, net.Reading nodeId id) →
    ∃ id, net.peerSenders.get? nodeId = some id ∧ net.Reading nodeId id

/-- The step takes no entry away from a node that still has a connection being read. -/
def KeepsEntry (net : Net) : Input → Prop
  | .disconnect id => ∀ nodeId, net.Reading nodeId id → (net.connections id).writer ≠ .waiting →
      net.peerSenders.get? nodeId = some id → ∀ other, net.Reading nodeId other → other = id
  | .cleanup id => ∀ nodeId, (net.connections id).stage = .leaving nodeId →
      ∀ other, ¬ net.Reading nodeId other
  | _ => True

def Idle (net next : Net) : Prop :=
  next.peerSenders = net.peerSenders ∧
    ∀ nodeId id, next.Reading nodeId id ↔ net.Reading nodeId id

theorem idle_refl (net : Net) : Idle net net := ⟨rfl, fun _ _ => Iff.rfl⟩

theorem idle_update {id : Nat} {change : Connection → Connection}
    (same : ∀ nodeId, (change (net.connections id)).stage = .reading nodeId ↔
      (net.connections id).stage = .reading nodeId) : Idle net (net.update id change) := by
  refine ⟨rfl, fun nodeId other => ?_⟩
  simp only [Reading, connections_update]
  split_ifs with own
  · rw [own]
    exact same nodeId
  · rfl

theorem serves_of_idle {next : Net} (idle : Idle net next) : next.Serves ↔ net.Serves := by
  simp only [Serves, idle.1, idle.2]

theorem idle_move {id : Nat} {stage : Stage}
    (before : ∀ nodeId, (net.connections id).stage ≠ .reading nodeId)
    (after : ∀ nodeId, stage ≠ .reading nodeId) : Idle net (net.move id stage) :=
  idle_update fun nodeId => iff_of_false (after nodeId) (before nodeId)

theorem idle_sendWhere (serves : String → Bool) (data : Bytes) :
    Idle net (net.sendWhere serves data) := by
  rcases sendWhere_frame net serves data with ⟨table, keeps⟩
  refine ⟨table, fun nodeId id => ⟨fun reads => ?_, ?_⟩⟩
  · by_contra other
    exact keeps (fun connection => connection.stage ≠ .reading nodeId) (fun _ kept => kept) id other
      reads
  · exact keeps (fun connection => connection.stage = .reading nodeId) (fun _ kept => kept) id

theorem idle_write (id : Nat) : Idle net (net.write id) := by
  apply idle_update
  intro nodeId
  rw [(Connection.write_frame (net.connections id) _).1]

theorem idle_spawnWriter (id : Nat) : Idle net (net.spawnWriter id) := by
  rw [spawnWriter]
  split
  · exact idle_update fun _ => Iff.rfl
  · exact idle_refl net

theorem idle_accept (id : Nat) (kind : ConnKind) : Idle net (net.accept id kind) := by
  rw [accept]
  split
  · rename_i unused
    exact idle_update fun nodeId => by simp [unused]
  · exact idle_refl net

theorem idle_dial (id : Nat) (kind : ConnKind) (nodeIdHint : Option String) :
    Idle net (net.dial id kind nodeIdHint) := by
  rw [dial]
  split
  · rename_i unused
    split_ifs
    · exact idle_refl net
    · exact idle_update fun nodeId => by simp [unused]
  · exact idle_refl net

theorem idle_connected (id : Nat) (success : Bool) : Idle net (net.connected id success) := by
  rw [connected]
  split
  · rename_i dialing
    have after : ∀ nodeId, (if success then Stage.handshake else .closed) ≠ .reading nodeId := by
      intro nodeId
      cases success <;> simp
    exact idle_move (by simp [dialing]) after
  · exact idle_refl net

theorem idle_receiveHello (id : Nat) (first : Option Bytes) :
    Idle net (net.receiveHello crates id first) := by
  simp only [receiveHello]
  split
  · rename_i handshake
    cases first with
    | none => exact idle_move (by simp [handshake]) (by simp)
    | some raw => exact idle_move (by simp [handshake]) (by simp)
  · exact idle_refl net

theorem idle_step {input : Input} (notInsert : ∀ id, input ≠ .insert id)
    (notDisconnect : ∀ id, input ≠ .disconnect id) (notCleanup : ∀ id, input ≠ .cleanup id) :
    Idle net (step crates net input) := by
  cases input with
  | insert id => exact absurd rfl (notInsert id)
  | disconnect id => exact absurd rfl (notDisconnect id)
  | cleanup id => exact absurd rfl (notCleanup id)
  | broadcast data => exact idle_sendWhere _ data
  | relay data senderKey => exact idle_sendWhere _ data
  | answer data senderKey => exact idle_sendWhere _ data
  | write id => exact idle_write id
  | spawnWriter id => exact idle_spawnWriter id
  | accept id kind => exact idle_accept id kind
  | dial id kind nodeIdHint => exact idle_dial id kind nodeIdHint
  | connected id success => exact idle_connected id success
  | receiveHello id first => exact idle_receiveHello id first

@[simp] theorem stage_move (net : Net) (id other : Nat) (stage : Stage) :
    ((net.move id stage).connections other).stage =
      if other = id then stage else (net.connections other).stage := by
  simp only [move, connections_update]
  split <;> rfl

theorem reading_move {nodeId : String} {id other : Nat} {stage : Stage}
    (after : stage ≠ .reading nodeId) :
    (net.move id stage).Reading nodeId other ↔ other ≠ id ∧ net.Reading nodeId other := by
  simp only [Reading, stage_move]
  split_ifs with own
  · simp [own, after]
  · simp [own]

theorem serves_insert (id : Nat) (serves : net.Serves) : (net.insert id).Serves := by
  rw [insert]
  split
  · rename_i own identified
    rintro nodeId ⟨reader, reads⟩
    by_cases same : nodeId = own
    · subst same
      exact ⟨id, AssocMap.get?_insert_self .., by simp [Reading]⟩
    · have other : Stage.reading own ≠ .reading nodeId := fun h => same (Stage.reading.inj h).symm
      have before := ((reading_move other).mp reads).2
      rcases serves nodeId ⟨reader, before⟩ with ⟨holder, held, holds⟩
      have distinct : holder ≠ id := by
        rintro rfl
        simp [Reading, identified] at holds
      exact ⟨holder, (AssocMap.get?_insert_ne _ _ same).trans held,
        (reading_move other).mpr ⟨distinct, holds⟩⟩
  · exact serves

theorem serves_disconnect_iff (id : Nat) (serves : net.Serves) :
    (net.disconnect id).Serves ↔ net.KeepsEntry (.disconnect id) := by
  rw [disconnect]
  split
  · rename_i own reading waiting
    exact iff_of_true serves fun _ _ started => absurd waiting started
  · rename_i own reading started
    have moved : ∀ {nodeId other}, (net.move id (.leaving own)).Reading nodeId other ↔
        other ≠ id ∧ net.Reading nodeId other := reading_move (by simp)
    constructor
    · intro after nodeId reads _ held other otherReads
      by_contra distinct
      rcases after nodeId ⟨other, moved.mpr ⟨distinct, otherReads⟩⟩ with ⟨holder, kept, holds⟩
      have same : holder = id := Option.some.inj (kept.symm.trans held)
      exact (moved.mp holds).1 same
    · rintro keeps nodeId ⟨reader, reads⟩
      rcases moved.mp reads with ⟨distinct, before⟩
      rcases serves nodeId ⟨reader, before⟩ with ⟨holder, held, holds⟩
      refine ⟨holder, held, moved.mpr ⟨?_, holds⟩⟩
      rintro rfl
      exact distinct (keeps nodeId holds started held reader before)
  · rename_i notReading _
    exact iff_of_true serves fun nodeId reads => absurd reads (notReading nodeId)

theorem serves_cleanup_iff (id : Nat) (serves : net.Serves) :
    (net.cleanup id).Serves ↔ net.KeepsEntry (.cleanup id) := by
  rw [cleanup]
  split
  · rename_i own leaving
    have ended : ∀ {nodeId other}, (net.move id .closed).Reading nodeId other ↔
        net.Reading nodeId other := by
      intro nodeId other
      rw [reading_move (by simp), and_iff_right_iff_imp]
      rintro reads rfl
      simp [Reading, leaving] at reads
    constructor
    · intro after nodeId left other reads
      obtain rfl : own = nodeId := Stage.leaving.inj (leaving.symm.trans left)
      rcases after own ⟨other, ended.mpr reads⟩ with ⟨holder, kept, -⟩
      simp [AssocMap.get?_erase] at kept
    · rintro keeps nodeId ⟨reader, reads⟩
      have before := ended.mp reads
      rcases serves nodeId ⟨reader, before⟩ with ⟨holder, held, holds⟩
      have other : nodeId ≠ own := by
        rintro rfl
        exact keeps nodeId leaving reader before
      exact ⟨holder, by rw [AssocMap.get?_erase, if_neg other, held], ended.mpr holds⟩
  · rename_i notLeaving
    exact iff_of_true serves fun nodeId leaving => absurd leaving (notLeaving nodeId)

theorem serves_step_iff (input : Input) (serves : net.Serves) :
    (step crates net input).Serves ↔ net.KeepsEntry input := by
  cases input with
  | insert id => exact iff_of_true (serves_insert id serves) trivial
  | disconnect id => exact serves_disconnect_iff id serves
  | cleanup id => exact serves_cleanup_iff id serves
  | _ =>
      have idle := @idle_step crates net
      exact iff_of_true ((serves_of_idle (idle (by simp) (by simp) (by simp))).mpr serves) trivial

/-- Over any interleaving of accepts, dials, Hellos, insertions and ends of connections, the table
serves every node in every state exactly where no step takes the entry of a node away while
another of its connections is being read. -/
theorem always_serves_iff (crates : Crates) (inputs : List Input) :
    Always (step crates) Serves start inputs ↔ Along (step crates) KeepsEntry start inputs := by
  refine always_iff_along (fun (_ : Net) _ (_ : True) => trivial) ?_ ?_ start inputs trivial ?_
  · intro net input _ serves keeps
    exact (serves_step_iff input serves).mpr keeps
  · intro net input _ serves loses kept
    exact loses ((serves_step_iff input serves).mp kept)
  · rintro nodeId ⟨id, reads⟩
    cases reads

def crossedDials : List Input := [.accept 0 (Sample.lan 50001), .dial 1 (Sample.lan 7771) none,
  .connected 1 true, .receiveHello 0 (some Sample.hello), .receiveHello 1 (some Sample.hello),
  .insert 0, .insert 1, .spawnWriter 0, .spawnWriter 1, .disconnect 0, .cleanup 0]

theorem crossed_dials_last :
    (run (step Sample.helloCrates) start crossedDials).Reading (Sample.nodeId 1) 1 ∧
      (run (step Sample.helloCrates) start crossedDials).peerSenders.get? (Sample.nodeId 1) =
        none := by
  simp [crossedDials, Reading, run, step, start, accept, dial, connected, receiveHello, insert,
    spawnWriter, disconnect, cleanup, move, Sample.hello_named, Connection.unused,
    AssocMap.get?_empty, AssocMap.get?_erase]

theorem crossed_dials_unserved : ¬ Always (step Sample.helloCrates) Serves start crossedDials := by
  intro always
  have last := (always_iff start crossedDials).mp always crossedDials [] (List.append_nil _).symm
  rcases crossed_dials_last with ⟨reads, absent⟩
  rcases last (Sample.nodeId 1) ⟨1, reads⟩ with ⟨id, held, -⟩
  rw [absent] at held
  cases held

end Caraka.Net
