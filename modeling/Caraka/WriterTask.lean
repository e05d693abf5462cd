import Caraka.Connections
import Caraka.Sample

/-! What the writer task of a connection makes of the byte strings queued for it. -/

namespace Caraka

open Foundation

theorem sendRawPacket_eq_ok {data frame : Bytes} :
    sendRawPacket data = .ok frame ↔
      data.length ≤ maxPacketSize ∧ frame = leBytes 2 data.length ++ data := by
  rw [sendRawPacket]
  split
  · simp only [reduceCtorEq, false_iff, not_and]
    omega
  · simp only [Except.ok.injEq]
    constructor
    · rintro rfl
      exact ⟨by omega, rfl⟩
    · rintro ⟨-, rfl⟩
      rfl

/-- The framings, in queue order, of the byte strings that fit a frame. -/
def framings (queue : List Bytes) : Bytes :=
  (queue.filter fun data => data.length ≤ maxPacketSize).flatMap fun data =>
    leBytes 2 data.length ++ data

namespace Connection

variable {connection : Connection}

inductive Drained (connection : Connection) : Prop where
  | working (taken : List Bytes) (split : connection.accepted = taken ++ connection.channel.queued)
      (fits : ∀ data ∈ taken, data.length ≤ maxPacketSize)
      (written : connection.written = framings taken) (alive : connection.writer ≠ .refused)
  | stopped (data : Bytes) (took : data ∈ connection.accepted)
      (large : ¬ data.length ≤ maxPacketSize) (dead : connection.writer = .refused)
      (deaf : connection.channel.receiving = false)

theorem Drained.trySend (drained : connection.Drained) (data : Bytes) :
    (connection.trySend data).Drained := by
  cases drained with
  | working taken split fits written alive =>
      refine .working taken ?_ fits written alive
      simp only [Connection.trySend, Channel.queued_trySend, split]
      split_ifs
      · rw [List.append_assoc]
      · rfl
  | stopped large took tooLarge dead deaf =>
      have full : ¬ connection.channel.Takes := by simp [Channel.Takes, deaf]
      refine .stopped large ?_ tooLarge dead ?_
      · simpa only [Connection.trySend, if_neg full] using took
      · exact (Channel.receiving_trySend ..).trans deaf

theorem Drained.write (drained : connection.Drained) (stored : Bool) :
    (connection.write stored).Drained := by
  have same : connection.writer ≠ .running → (connection.write stored).Drained := by
    intro idle
    rw [Connection.write]
    split
    · contradiction
    all_goals exact drained
  cases drained with
  | stopped large took tooLarge dead deaf => exact same (by simp [dead])
  | working taken split fits written alive =>
      by_cases running : connection.writer = .running
      · rw [Connection.write]
        rw [running]
        dsimp only
        split
        · rename_i empty
          split_ifs
          · exact .working taken split fits written alive
          · exact .working taken (by rw [split, empty]; rfl) fits written (by simp)
        · rename_i data rest queued
          split
          · rename_i refused
            have large : ¬ data.length ≤ maxPacketSize := by
              intro fits
              rw [sendRawPacket_eq_ok.mpr ⟨fits, rfl⟩] at refused
              cases refused
            exact .stopped data (by simp [split, queued]) large rfl rfl
          · rename_i frame sent
            rcases sendRawPacket_eq_ok.mp sent with ⟨small, rfl⟩
            refine .working (taken ++ [data]) ?_ ?_ ?_ (by simp)
            · simp [split, queued, Channel.pop]
            · intro other member
              rcases List.mem_append.mp member with old | new
              · exact fits other old
              · rwa [List.mem_singleton.mp new]
            · simp [framings, written, small]
      · exact same running

theorem accepted_write (connection : Connection) (stored : Bool) :
    (connection.write stored).accepted = connection.accepted := by
  rw [write]
  split
  · split
    · split <;> rfl
    · split <;> rfl
  all_goals rfl

theorem Drained.move (drained : connection.Drained) (kind : ConnKind) (stage : Stage)
    {writer : Writer} (spawned : writer = connection.writer ∨
      connection.writer = .waiting ∧ writer = .running) :
    { connection with kind, stage, writer }.Drained := by
  cases drained with
  | working taken split fits written alive =>
      refine .working taken split fits written ?_
      rcases spawned with same | ⟨-, running⟩
      · rw [same]
        exact alive
      · simp [running]
  | stopped large took tooLarge dead deaf =>
      refine .stopped large took tooLarge ?_ deaf
      rcases spawned with same | ⟨waiting, -⟩
      · rw [same]
        exact dead
      · rw [dead] at waiting
        cases waiting

theorem drained_unused : unused.Drained := .working [] rfl (by simp) rfl (by simp [unused])

end Connection

namespace Net

variable {crates : Crates} {net : Net}

theorem drained_step (drained : ∀ id, (net.connections id).Drained) (input : Input) (id : Nat) :
    ((step crates net input).connections id).Drained :=
  step_keeps Connection.Drained (fun _ data drained => drained.trySend data)
    (fun _ stored drained => drained.write stored)
    (fun _ kind stage _ spawned drained => drained.move kind stage spawned) net input id
    (drained id)

theorem drained_run (inputs : List Input) (id : Nat) :
    ((run (step crates) start inputs).connections id).Drained := by
  have keeps : ∀ (net : Net) input, (∀ id, (net.connections id).Drained) →
      ∀ id, ((step crates net input).connections id).Drained :=
    fun _ input drained => drained_step drained input
  exact run_induction keeps start inputs (fun _ => Connection.drained_unused) id

def Late : Stage → Prop
  | .reading _ | .leaving _ | .closed => True
  | .unused | .dialing | .handshake | .identified _ => False

/-- Writer tasks run only for inserted connections, and end of themselves only after the last
sender is gone. -/
structure Orderly (net : Net) : Prop where
  spawned : ∀ id, (net.connections id).writer ≠ .waiting → Late (net.connections id).stage
  orphaned : ∀ id, (net.connections id).writer = .finished → ¬ net.Stored id

theorem Orderly.update (orderly : net.Orderly) {id : Nat} {change : Connection → Connection}
    (spawned : (change (net.connections id)).writer ≠ .waiting →
      Late (change (net.connections id)).stage)
    (orphaned : (change (net.connections id)).writer = .finished → ¬ net.Stored id) :
    (net.update id change).Orderly where
  spawned := by
    intro other
    rw [connections_update]
    split_ifs
    · exact spawned
    · exact orderly.spawned other
  orphaned := by
    intro other
    rw [connections_update]
    split_ifs with own
    · rw [own]
      exact orphaned
    · exact orderly.orphaned other

theorem Orderly.table (orderly : net.Orderly) {table : AssocMap String Nat}
    (stored : ∀ id ∈ table.entries.map Prod.snd, net.Stored id ∨
      (net.connections id).writer ≠ .finished) :
    Orderly { net with peerSenders := table } where
  spawned := orderly.spawned
  orphaned := by
    intro id finished present
    rcases stored id present with old | unfinished
    · exact orderly.orphaned id finished old
    · exact unfinished finished

theorem Orderly.waiting (orderly : net.Orderly) (id : Nat)
    (early : ¬ Late (net.connections id).stage) : (net.connections id).writer = .waiting := by
  by_contra spawned
  exact early (orderly.spawned id spawned)

theorem Orderly.move (orderly : net.Orderly) {id : Nat} (stage : Stage)
    (late : Late (net.connections id).stage → Late stage) : (net.move id stage).Orderly :=
  orderly.update (fun spawned => late (orderly.spawned id spawned)) (orderly.orphaned id)

theorem orderly_sendWhere (orderly : net.Orderly) (serves : String → Bool) (data : Bytes) :
    (net.sendWhere serves data).Orderly := by
  rcases sendWhere_frame net serves data with ⟨table, keeps⟩
  have same : ∀ id, ((net.sendWhere serves data).connections id).stage =
      (net.connections id).stage ∧ ((net.sendWhere serves data).connections id).writer =
        (net.connections id).writer := fun id =>
    keeps (fun connection => connection.stage = (net.connections id).stage ∧
      connection.writer = (net.connections id).writer) (fun _ kept => kept) id ⟨rfl, rfl⟩
  constructor
  · intro id
    rw [(same id).1, (same id).2]
    exact orderly.spawned id
  · intro id
    rw [Stored, table, (same id).2]
    exact orderly.orphaned id

theorem orderly_step (orderly : net.Orderly) (input : Input) : (step crates net input).Orderly := by
  cases input with
  | accept id kind =>
      change (net.accept id kind).Orderly
      rw [accept]
      split
      · rename_i unused
        have waiting := orderly.waiting id (by simp [unused, Late])
        exact orderly.update (fun spawned => absurd waiting spawned) (by simp [waiting])
      · exact orderly
  | dial id kind nodeIdHint =>
      change (net.dial id kind nodeIdHint).Orderly
      rw [dial]
      split
      · rename_i unused
        have waiting := orderly.waiting id (by simp [unused, Late])
        split_ifs
        · exact orderly
        · exact orderly.update (fun spawned => absurd waiting spawned) (by simp [waiting])
      · exact orderly
  | connected id success =>
      change (net.connected id success).Orderly
      rw [connected]
      split
      · rename_i dialing
        exact orderly.move _ (by simp [dialing, Late])
      · exact orderly
  | receiveHello id first =>
      change (net.receiveHello crates id first).Orderly
      simp only [receiveHello]
      split
      · rename_i handshake
        split <;> exact orderly.move _ (by simp [handshake, Late])
      · exact orderly
  | insert id =>
      change (net.insert id).Orderly
      rw [insert]
      split
      · rename_i nodeId identified
        have waiting := orderly.waiting id (by simp [identified, Late])
        refine (orderly.move (.reading nodeId) fun _ => trivial).table ?_
        intro other present
        rcases AssocMap.mem_values.mp present with ⟨key, held⟩
        rw [AssocMap.get?_insert] at held
        split_ifs at held
        · right
          rcases Option.some.inj held with rfl
          simp [move, waiting]
        · exact .inl (AssocMap.mem_values.mpr ⟨key, held⟩)
      · exact orderly
  | spawnWriter id =>
      change (net.spawnWriter id).Orderly
      rw [spawnWriter]
      split
      · rename_i nodeId reading waiting
        exact orderly.update (fun _ => by simp [reading, Late]) (by simp)
      · exact orderly
  | disconnect id =>
      change (net.disconnect id).Orderly
      rw [disconnect]
      split
      · exact orderly
      · exact orderly.move (.leaving _) fun _ => trivial
      · exact orderly
  | cleanup id =>
      change (net.cleanup id).Orderly
      rw [cleanup]
      split
      · rename_i nodeId leaving
        refine (orderly.move .closed fun _ => trivial).table ?_
        intro other present
        rcases AssocMap.mem_values.mp present with ⟨key, held⟩
        rw [AssocMap.get?_erase] at held
        split_ifs at held
        exact .inl (AssocMap.mem_values.mpr ⟨key, held⟩)
      · exact orderly
  | write id =>
      change (net.write id).Orderly
      obtain ⟨stage, spawned, finished⟩ :=
        Connection.write_frame (net.connections id) (decide (net.Stored id))
      apply orderly.update
      · intro after
        rw [stage]
        exact orderly.spawned id (spawned after)
      · intro after
        rcases finished after with before | unstored
        · exact orderly.orphaned id before
        · exact of_decide_eq_false unstored
  | broadcast data => exact orderly_sendWhere orderly (fun _ => true) data
  | relay data senderKey => exact orderly_sendWhere orderly (fun peerId => peerId ≠ senderKey) data
  | answer data senderKey => exact orderly_sendWhere orderly (fun peerId => peerId = senderKey) data

theorem orderly_run (inputs : List Input) : (run (step crates) start inputs).Orderly := by
  have keeps : ∀ (net : Net) input, net.Orderly → (step crates net input).Orderly :=
    fun _ input orderly => orderly_step orderly input
  exact run_induction keeps start inputs ⟨fun _ spawned => absurd rfl spawned, nofun⟩

/-- The connection is read and its sender stored, and nothing writes what is queued for it. -/
def Silent (net : Net) (id : Nat) : Prop :=
  (∃ nodeId, net.Reading nodeId id ∧ net.peerSenders.get? nodeId = some id) ∧
    ((net.connections id).writer = .refused ∨ (net.connections id).writer = .finished)

theorem accepted_run (inputs later : List Input) {id : Nat} {data : Bytes}
    (member : data ∈ ((run (step crates) start inputs).connections id).accepted) :
    data ∈ ((run (step crates) start (inputs ++ later)).connections id).accepted := by
  have keeps : ∀ (net : Net) input, data ∈ (net.connections id).accepted →
      data ∈ ((step crates net input).connections id).accepted := by
    intro net input
    refine step_keeps (fun connection => data ∈ connection.accepted) ?_ ?_ ?_ net input id
    · intro connection sent before
      simp only [Connection.trySend]
      split_ifs
      · exact List.mem_append_left _ before
      · exact before
    · intro connection stored before
      rwa [Connection.accepted_write]
    · exact fun _ _ _ _ _ before => before
  rw [run_append]
  exact run_induction keeps _ later member

end Net

namespace Net

def opened : List Input := [.accept 0 (Sample.lan 50001), .receiveHello 0 (some Sample.hello),
  .insert 0, .spawnWriter 0]

theorem opened_run : run (step Sample.helloCrates) start opened =
    ⟨Function.update (fun _ => Connection.unused) 0
      ⟨Sample.lan 50001, .reading (Sample.nodeId 1), Channel.new, [], [], .running⟩,
      AssocMap.empty.insert (Sample.nodeId 1) 0⟩ := by
  simp [opened, run, step, start, accept, receiveHello, insert, spawnWriter, move, update,
    Sample.hello_named, Connection.unused]

end Net

/-- Once the queue of a connection is consumed, the writer task has written all that fits a frame
and was alive all along, exactly where everything queued fits a frame. -/
theorem writer_task_iff (crates : Crates) (inputs : List Net.Input) (id : Nat)
    (consumed : ((run (Net.step crates) Net.start inputs).connections id).channel.queued = []) :
    (((run (Net.step crates) Net.start inputs).connections id).written =
        framings ((run (Net.step crates) Net.start inputs).connections id).accepted ∧
      Always (Net.step crates) (fun net => (net.connections id).writer ≠ .refused) Net.start
        inputs ∧
      Always (Net.step crates) (fun net => ¬ net.Silent id) Net.start inputs) ↔
    ∀ data ∈ ((run (Net.step crates) Net.start inputs).connections id).accepted,
      data.length ≤ maxPacketSize := by
  constructor
  · rintro ⟨-, alive, -⟩ data took
    cases Net.drained_run inputs id with
    | stopped large took tooLarge dead deaf =>
        exact absurd dead ((always_iff _ inputs).mp alive inputs [] (List.append_nil _).symm)
    | working taken split fits written running =>
        rw [split, consumed, List.append_nil] at took
        exact fits data took
  · intro fits
    have alive : ∀ front back, inputs = front ++ back →
        ((run (Net.step crates) Net.start front).connections id).writer ≠ .refused := by
      rintro front back rfl dead
      cases Net.drained_run front id with
      | working taken split fits written running => exact running dead
      | stopped large took tooLarge dead deaf =>
          exact tooLarge (fits large (Net.accepted_run front back took))
    refine ⟨?_, (always_iff _ inputs).mpr alive, (always_iff _ inputs).mpr ?_⟩
    · cases Net.drained_run inputs id with
      | stopped large took tooLarge dead deaf => exact absurd (fits large took) tooLarge
      | working taken split fits written running =>
          rw [written, split, consumed, List.append_nil]
    · rintro front back split ⟨⟨nodeId, -, held⟩, refused | finished⟩
      · exact alive front back split refused
      · exact (Net.orderly_run front).orphaned id finished (AssocMap.mem_values.mpr ⟨nodeId, held⟩)

theorem Net.two_packets_last :
    ((run (Net.step Sample.helloCrates) Net.start (Net.opened ++ [.broadcast [1],
        .relay [2, 3] "", .write 0, .write 0])).connections 0).channel.queued = [] ∧
      ((run (Net.step Sample.helloCrates) Net.start (Net.opened ++ [.broadcast [1],
        .relay [2, 3] "", .write 0, .write 0])).connections 0).accepted = [[1], [2, 3]] := by
  rw [run_append, Net.opened_run]
  decide

theorem writer_task_iff_two_packets :
    ((run (Net.step Sample.helloCrates) Net.start (Net.opened ++ [.broadcast [1],
        .relay [2, 3] "", .write 0, .write 0])).connections 0).written =
      framings ((run (Net.step Sample.helloCrates) Net.start (Net.opened ++ [.broadcast [1],
        .relay [2, 3] "", .write 0, .write 0])).connections 0).accepted := by
  rcases Net.two_packets_last with ⟨consumed, accepted⟩
  apply ((writer_task_iff Sample.helloCrates _ 0 consumed).mpr _).1
  rw [accepted]
  decide

theorem Connection.write_oversize {connection : Connection} {data : Bytes} (stored : Bool)
    (large : ¬ data.length ≤ maxPacketSize) (channel : connection.channel = Channel.new)
    (running : connection.writer = .running) :
    ((connection.trySend data).trySend [1]).write stored =
      { connection with
        channel := Channel.close
        accepted := connection.accepted ++ [data] ++ [[1]]
        writer := .refused } := by
  have refused : sendRawPacket data = .error ("Packet terlalu besar: " ++ toString data.length ++
      " bytes") := if_pos (Nat.lt_of_not_le large)
  simp [Connection.write, Connection.trySend, Channel.queued_trySend, Channel.receiving_trySend,
    Channel.Takes, channel, Channel.new, running, refused, channelCapacity]

theorem framings_oversize {data : Bytes} (large : ¬ data.length ≤ maxPacketSize) :
    framings ([] ++ [data] ++ [[1]]) = leBytes 2 1 ++ [1] := by
  have small : (1 : Nat) ≤ maxPacketSize := by decide
  simp [framings, large, small]

theorem Net.silent_after_oversize (crates : Crates) {net : Net} {nodeId : String} {id : Nat}
    {data : Bytes} (large : ¬ data.length ≤ maxPacketSize)
    (entries : net.peerSenders.entries = [(nodeId, id)]) (reads : net.Reading nodeId id)
    (channel : (net.connections id).channel = Channel.new)
    (running : (net.connections id).writer = .running) :
    let last := run (Net.step crates) net [.broadcast data, .broadcast [1], .write id]
    (last.connections id).channel.queued = [] ∧
      (last.connections id).accepted = (net.connections id).accepted ++ [data] ++ [[1]] ∧
      (last.connections id).written = (net.connections id).written ∧ last.Silent id := by
  obtain ⟨stored, connection⟩ : ∃ stored,
      (run (Net.step crates) net [.broadcast data, .broadcast [1], .write id]).connections id =
        (((net.connections id).trySend data).trySend [1]).write stored := by
    simp [Net.step, Net.sendWhere, Net.write, entries]
  have table : (run (Net.step crates) net
      [.broadcast data, .broadcast [1], .write id]).peerSenders = net.peerSenders := by
    simp [Net.step, Net.sendWhere, Net.write, entries]
  rw [Connection.write_oversize stored large channel running] at connection
  dsimp only
  refine ⟨by rw [connection]; rfl, by rw [connection], by rw [connection],
    ⟨nodeId, ?_, ?_⟩, .inl (by rw [connection])⟩
  · rw [Net.Reading, connection]
    exact reads
  · rw [table, AssocMap.get?_eq_some, entries]
    exact List.mem_singleton_self _

/-- One queued string of 65536 bytes: what is queued behind it is lost, and the connection stays in
the table. -/
theorem oversize_packet_silences : ∃ net,
    net = run (Net.step Sample.helloCrates) Net.start (Net.opened ++
      [.broadcast (List.replicate 65536 0), .broadcast [1], .write 0]) ∧
    (net.connections 0).channel.queued = [] ∧
    (net.connections 0).written ≠ framings (net.connections 0).accepted ∧ net.Silent 0 := by
  have large : ¬ (List.replicate 65536 (0 : UInt8)).length ≤ maxPacketSize := by
    rw [List.length_replicate]
    decide
  have entries : (run (Net.step Sample.helloCrates) Net.start Net.opened).peerSenders.entries =
      [(Sample.nodeId 1, 0)] := by
    rw [Net.opened_run]
    rfl
  have before : (run (Net.step Sample.helloCrates) Net.start Net.opened).connections 0 =
      ⟨Sample.lan 50001, .reading (Sample.nodeId 1), Channel.new, [], [], .running⟩ := by
    rw [Net.opened_run]
    dsimp only
    rw [Function.update_self]
  have reads : (run (Net.step Sample.helloCrates) Net.start Net.opened).Reading
      (Sample.nodeId 1) 0 := by
    rw [Net.Reading, before]
  have channel := congrArg Connection.channel before
  have running := congrArg Connection.writer before
  have accepted := congrArg Connection.accepted before
  have written := congrArg Connection.written before
  obtain ⟨queue, took, wrote, silent⟩ :=
    Net.silent_after_oversize Sample.helloCrates large entries reads channel running
  refine ⟨_, (run_append _ _ _).symm, queue, ?_, silent⟩
  rw [took, wrote, accepted, written]
  generalize List.replicate 65536 0 = data at large
  rw [framings_oversize large]
  decide

end Caraka
