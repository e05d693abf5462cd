import Caraka.Transport
import Caraka.Foundation.Transition
import Caraka.Foundation.Utf8Lossy
import Mathlib.Data.List.TakeWhile

/-! `handle_connection` and the dials that lead to it: many connections at once, their entries in
`peer_senders` and their writer tasks, on streams that raise no error of their own. -/

namespace Caraka

open Foundation

inductive Stage where
  | unused
  | dialing
  | handshake
  /-- The first packet is read, the sender not yet inserted. -/
  | identified (nodeId : String)
  /-- The sender is inserted, the reader loop not yet left. -/
  | reading (nodeId : String)
  /-- The reader loop is left, the cleanup not yet done. -/
  | leaving (nodeId : String)
  | closed
  deriving DecidableEq

inductive Writer where
  | waiting
  | running
  /-- Ended on an error of `send_raw_packet`. -/
  | refused
  /-- Ended because every sender of its channel was dropped. -/
  | finished
  deriving DecidableEq

structure Connection where
  kind : ConnKind
  stage : Stage
  channel : Channel
  /-- Every byte string the channel took, in order. -/
  accepted : List Bytes
  /-- What the writer task has written. -/
  written : Bytes
  writer : Writer

/-- The connections by number, and whose sender `peer_senders` holds for a node id. -/
structure Net where
  connections : Nat → Connection
  peerSenders : AssocMap String Nat

namespace Connection

def unused : Connection := ⟨.torInbound "", .unused, Channel.new, [], [], .waiting⟩

def trySend (connection : Connection) (data : Bytes) : Connection :=
  { connection with
    channel := connection.channel.trySend data
    accepted :=
      if connection.channel.Takes then connection.accepted ++ [data] else connection.accepted }

/-- One round of the writer task; `stored` says whether a sender of its channel is left. -/
def write (connection : Connection) (stored : Bool) : Connection :=
  match connection.writer with
  | .running =>
    match connection.channel.queued with
    | [] =>
      if stored then connection
      else { connection with writer := .finished, channel := Channel.close }
    | data :: _ =>
      match sendRawPacket data with
      | .error _ => { connection with writer := .refused, channel := Channel.close }
      | .ok frame =>
        { connection with
          channel := connection.channel.pop
          written := connection.written ++ frame }
  | .waiting | .refused | .finished => connection

theorem write_frame (connection : Connection) (stored : Bool) :
    (connection.write stored).stage = connection.stage ∧
      ((connection.write stored).writer ≠ .waiting → connection.writer ≠ .waiting) ∧
      ((connection.write stored).writer = .finished →
        connection.writer = .finished ∨ stored = false) := by
  cases running : connection.writer with
  | running =>
      simp only [write, running]
      split
      · cases stored
        · simp
        · simp [running]
      · split
        · simp
        · simp
  | waiting => simp [write, running]
  | refused => simp [write, running]
  | finished => simp [write, running]

end Connection

def firstLine (text : String) : Option String :=
  let line := text.toList.takeWhile (· ≠ '\n')
  if text.toList = [] then none
  else if line.length < text.toList.length ∧ line.getLast? = some '\r' then
    some (String.ofList line.dropLast)
  else some (String.ofList line)

theorem firstLine_of_plain {text : String} (nonempty : utf8 text ≠ []) (plain : 10 ∉ utf8 text) :
    firstLine text = some text := by
  have filled : text.toList ≠ [] := by
    intro empty
    rw [utf8, empty] at nonempty
    exact nonempty rfl
  have whole : text.toList.takeWhile (· ≠ '\n') = text.toList := by
    rw [List.takeWhile_eq_self_iff]
    intro c member
    apply decide_eq_true
    rintro rfl
    exact plain (List.mem_flatMap.mpr ⟨_, member, by decide⟩)
  have uncut : ¬ text.toList.length < text.toList.length := Nat.lt_irrefl _
  simp only [firstLine, whole, if_neg filled, uncut, false_and, if_false, String.ofList_toList]

def peerNodeId (crates : Crates) (kind : ConnKind) (raw : Bytes) : String :=
  match ClampPacket.decode raw with
  | .ok packet =>
    if packet.header.packetType = .hello then
      let named := (firstLine (Utf8.lossy packet.ciphertext)).bind fun line =>
        (crates.valueFromSlice (utf8 line)).bind fun value => (value.member "nodeId").asStr
      named.getD kind.preHelloKey
    else kind.preHelloKey
  | .error _ => kind.preHelloKey

def dialKey : ConnKind → String
  | .lan addr => addr.ip ++ ":" ++ toString addr.port
  | .torOutbound onion => "tor:" ++ onion
  | .torInbound connId => "tor-in:" ++ connId

namespace Net

/-- A connection that went into the table as `nodeId` and has not left its reader loop. -/
def Reading (net : Net) (nodeId : String) (id : Nat) : Prop :=
  (net.connections id).stage = .reading nodeId

def start : Net := ⟨fun _ => Connection.unused, AssocMap.empty⟩

def update (net : Net) (id : Nat) (change : Connection → Connection) : Net :=
  { net with connections := Function.update net.connections id (change (net.connections id)) }

@[simp] theorem connections_update (net : Net) (id other : Nat)
    (change : Connection → Connection) :
    (net.update id change).connections other =
      if other = id then change (net.connections id) else net.connections other :=
  Function.update_apply ..

@[simp] theorem peerSenders_update (net : Net) (id : Nat) (change : Connection → Connection) :
    (net.update id change).peerSenders = net.peerSenders := rfl

def move (net : Net) (id : Nat) (stage : Stage) : Net :=
  net.update id fun connection => { connection with stage }

def accept (net : Net) (id : Nat) (kind : ConnKind) : Net :=
  match (net.connections id).stage with
  | .unused => net.update id fun connection => { connection with kind, stage := .handshake }
  | _ => net

/-- The check for duplicates of `connect_to_peer` and `connect_to_tor_peer`. -/
def dial (net : Net) (id : Nat) (kind : ConnKind) (nodeIdHint : Option String) : Net :=
  match (net.connections id).stage with
  | .unused =>
    if nodeIdHint.any (fun nodeId => (net.peerSenders.get? nodeId).isSome) ∨
        (net.peerSenders.get? (dialKey kind)).isSome then net
    else net.update id fun connection => { connection with kind, stage := .dialing }
  | _ => net

def connected (net : Net) (id : Nat) (success : Bool) : Net :=
  match (net.connections id).stage with
  | .dialing => net.move id (if success then .handshake else .closed)
  | _ => net

def receiveHello (crates : Crates) (net : Net) (id : Nat) (first : Option Bytes) : Net :=
  match (net.connections id).stage with
  | .handshake =>
    match first with
    | none => net.move id .closed
    | some raw => net.move id (.identified (peerNodeId crates (net.connections id).kind raw))
  | _ => net

def insert (net : Net) (id : Nat) : Net :=
  match (net.connections id).stage with
  | .identified nodeId =>
    { net.move id (.reading nodeId) with peerSenders := net.peerSenders.insert nodeId id }
  | _ => net

def spawnWriter (net : Net) (id : Nat) : Net :=
  match (net.connections id).stage, (net.connections id).writer with
  | .reading _, .waiting => net.update id fun connection => { connection with writer := .running }
  | _, _ => net

def disconnect (net : Net) (id : Nat) : Net :=
  match (net.connections id).stage, (net.connections id).writer with
  | .reading _, .waiting => net
  | .reading nodeId, _ => net.move id (.leaving nodeId)
  | _, _ => net

def cleanup (net : Net) (id : Nat) : Net :=
  match (net.connections id).stage with
  | .leaving nodeId =>
    { net.move id .closed with peerSenders := net.peerSenders.erase nodeId }
  | _ => net

/-- `try_send` to every stored sender whose key is to be served. -/
def sendWhere (net : Net) (serves : String → Bool) (data : Bytes) : Net :=
  net.peerSenders.entries.foldl (fun net entry =>
    if serves entry.1 then net.update entry.2 fun connection => connection.trySend data
    else net) net

/-- Whether some sender of the connection's channel is left. -/
def Stored (net : Net) (id : Nat) : Prop := id ∈ net.peerSenders.entries.map Prod.snd

instance (net : Net) (id : Nat) : Decidable (net.Stored id) :=
  inferInstanceAs (Decidable (_ ∈ _))

def write (net : Net) (id : Nat) : Net :=
  net.update id fun connection => connection.write (decide (net.Stored id))

/-- One step of any of the tasks. -/
inductive Input where
  | accept (id : Nat) (kind : ConnKind)
  | dial (id : Nat) (kind : ConnKind) (nodeIdHint : Option String)
  | connected (id : Nat) (success : Bool)
  | receiveHello (id : Nat) (first : Option Bytes)
  | insert (id : Nat)
  | spawnWriter (id : Nat)
  | disconnect (id : Nat)
  | cleanup (id : Nat)
  | write (id : Nat)
  /-- `broadcast_packet`. -/
  | broadcast (data : Bytes)
  /-- `relay_packet`. -/
  | relay (data : Bytes) (senderKey : String)
  /-- The answer of `handle_sync_req`. -/
  | answer (data : Bytes) (senderKey : String)

def step (crates : Crates) (net : Net) : Input → Net
  | .accept id kind => net.accept id kind
  | .dial id kind nodeIdHint => net.dial id kind nodeIdHint
  | .connected id success => net.connected id success
  | .receiveHello id first => net.receiveHello crates id first
  | .insert id => net.insert id
  | .spawnWriter id => net.spawnWriter id
  | .disconnect id => net.disconnect id
  | .cleanup id => net.cleanup id
  | .write id => net.write id
  | .broadcast data => net.sendWhere (fun _ => true) data
  | .relay data senderKey => net.sendWhere (fun peerId => peerId ≠ senderKey) data
  | .answer data senderKey => net.sendWhere (fun peerId => peerId = senderKey) data

theorem sendWhere_frame (net : Net) (serves : String → Bool) (data : Bytes) :
    (net.sendWhere serves data).peerSenders = net.peerSenders ∧
    ∀ (good : Connection → Prop), (∀ connection, good connection → good (connection.trySend data)) →
      ∀ id, good (net.connections id) → good ((net.sendWhere serves data).connections id) := by
  rw [sendWhere]
  generalize net.peerSenders.entries = entries
  induction entries generalizing net with
  | nil => exact ⟨rfl, fun _ _ _ start => start⟩
  | cons entry entries ih =>
      rw [List.foldl_cons]
      split
      · rcases ih (net.update entry.2 fun connection => connection.trySend data) with ⟨table, keeps⟩
        refine ⟨table, fun good kept id start => keeps good kept id ?_⟩
        rw [connections_update]
        split_ifs with own
        · exact kept _ (own ▸ start)
        · exact start
      · exact ih net

theorem step_keeps {crates : Crates} (good : Connection → Prop)
    (sends : ∀ connection data, good connection → good (connection.trySend data))
    (writes : ∀ connection stored, good connection → good (connection.write stored))
    (moves : ∀ connection kind stage writer, writer = connection.writer ∨
      connection.writer = .waiting ∧ writer = .running → good connection →
        good { connection with kind, stage, writer })
    (net : Net) (input : Input) (id : Nat) (start : good (net.connections id)) :
    good ((step crates net input).connections id) := by
  have updates : ∀ (other : Nat) (change : Connection → Connection),
      (∀ connection, good connection → good (change connection)) →
      good ((net.update other change).connections id) := by
    intro other change keeps
    rw [connections_update]
    split_ifs with own
    · exact keeps _ (own ▸ start)
    · exact start
  have moved : ∀ other stage, good ((net.move other stage).connections id) :=
    fun other stage => updates other _ fun connection =>
      moves connection connection.kind stage connection.writer (.inl rfl)
  have placed : ∀ other kind stage, good ((net.update other fun connection =>
      { connection with kind, stage }).connections id) :=
    fun other kind stage => updates other _ fun connection =>
      moves connection kind stage connection.writer (.inl rfl)
  cases input with
  | accept other kind =>
      change good ((net.accept other kind).connections id)
      rw [accept]
      split
      · exact placed other kind _
      · exact start
  | dial other kind nodeIdHint =>
      change good ((net.dial other kind nodeIdHint).connections id)
      rw [dial]
      split
      · split_ifs
        · exact start
        · exact placed other kind _
      · exact start
  | connected other success =>
      change good ((net.connected other success).connections id)
      rw [connected]
      split
      · exact moved other _
      · exact start
  | receiveHello other first =>
      change good ((net.receiveHello crates other first).connections id)
      simp only [receiveHello]
      split
      · split <;> exact moved other _
      · exact start
  | insert other =>
      change good ((net.insert other).connections id)
      rw [insert]
      split
      · exact moved other _
      · exact start
  | spawnWriter other =>
      change good ((net.spawnWriter other).connections id)
      rw [spawnWriter]
      split
      · rename_i waiting
        rw [connections_update]
        split_ifs with own
        · exact moves _ _ _ _ (.inr ⟨waiting, rfl⟩) (own ▸ start)
        · exact start
      · exact start
  | disconnect other =>
      change good ((net.disconnect other).connections id)
      rw [disconnect]
      split
      · exact start
      · exact moved other _
      · exact start
  | cleanup other =>
      change good ((net.cleanup other).connections id)
      rw [cleanup]
      split
      · exact moved other _
      · exact start
  | write other => exact updates other _ fun connection => writes connection _
  | broadcast data =>
      exact (sendWhere_frame ..).2 good (fun connection => sends connection data) id start
  | relay data senderKey =>
      exact (sendWhere_frame ..).2 good (fun connection => sends connection data) id start
  | answer data senderKey =>
      exact (sendWhere_frame ..).2 good (fun connection => sends connection data) id start

end Net

end Caraka
