import Caraka.Commands.Sent
import Caraka.Foundation.Transition

/-! Calls of `send_dm` and `send_file` that run at once: each acquires the database lock to read
the session, again to save its message, and again to advance the counter. -/

namespace Caraka

open Foundation

variable {crates : Crates}

/-- A call of `send_dm` or `send_file`, with its arguments and surroundings. -/
inductive SendCall where
  | dm (env : SendEnv) (plaintext : String) (replyToId replyToText : Option String)
  | file (env : SendEnv) (file : DiskFile)

namespace SendCall

def env : SendCall → SendEnv
  | dm env .. => env
  | file env _ => env

/-- The checks a call makes before it first locks the database. -/
def recipient (recipientId : String) : SendCall → Option NodePublicKey
  | dm _ plaintext _ _ =>
    if isBlank plaintext then none
    else if (utf8 plaintext).length > 4096 then none
    else parseNodeId recipientId
  | file _ disk =>
    match readFileForTransfer disk with
    | .error _ => none
    | .ok _ => parseNodeId recipientId

def payloadJson (identity : Identity crates) (recipientId : String) (sessionId : Octets 8)
    (msgCounter : Nat) : SendCall → Bytes
  | dm env plaintext replyToId replyToText =>
    (dmPayload identity env recipientId plaintext replyToId replyToText sessionId msgCounter).toVec
  | file env disk =>
    match readFileForTransfer disk with
    | .error _ => []
    | .ok (fileBytes, filename, mimeType) =>
      (filePayload identity env recipientId fileBytes filename mimeType sessionId msgCounter).toVec

def packetType : SendCall → PacketType
  | dm .. => .dm
  | file .. => .file

def build (call : SendCall) (node : AppState crates) (recipientId : String)
    (peerId : NodePublicKey) (sessionId : Octets 8) (msgCounter : Nat) :
    Except CryptoError ClampPacket :=
  let sharedSecret := ecdh crates node.identity.myPrivateKey peerId
  let aeadKey := deriveDmKey crates sharedSecret node.identity.myNodeId peerId sessionId
    (UInt64.ofNat msgCounter)
  buildPacket crates node.router call.packetType
    (ClampPacket.generatePacketId node.identity.myNodeId call.env.idRandom) aeadKey
    (generateNonce call.env.nonceNow call.env.nonceRandom)
    (call.payloadJson node.identity recipientId sessionId msgCounter)

/-- The call run alone, from its beginning to its end. -/
def alone (call : SendCall) (node : AppState crates) (recipientId : String) :
    SendOutcome crates :=
  match call with
  | dm env plaintext replyToId replyToText =>
    sendDm node env recipientId plaintext replyToId replyToText
  | file env disk => sendFile node env recipientId disk

end SendCall

inductive Progress where
  | entered
  | encrypted (msgCounter : Nat) (packet : ClampPacket)
  | saved (packet : ClampPacket)
  | counted (packet : ClampPacket)
  | ended

def Progress.Pending : Progress → Prop
  | encrypted .. | saved _ => True
  | _ => False

structure Encryption where
  call : Nat
  senderId : NodePublicKey
  receiverId : NodePublicKey
  sessionId : Octets 8
  msgCounter : Nat

/-- What the key of a message is derived from, the shared secret apart. -/
def Encryption.key (encryption : Encryption) :
    NodePublicKey × NodePublicKey × Octets 8 × Nat :=
  (encryption.senderId, encryption.receiverId, encryption.sessionId, encryption.msgCounter)

variable (crates) in
/-- The node, its calls in flight, and a record of what they encrypted and who advanced the
counter. -/
structure Sends where
  node : AppState crates
  progress : Nat → Progress
  encryptions : List Encryption
  increments : List Nat

namespace Sends

def start (node : AppState crates) : Sends crates := ⟨node, fun _ => .entered, [], []⟩

def goto (state : Sends crates) (id : Nat) (progress : Progress) : Sends crates :=
  { state with progress := Function.update state.progress id progress }

/-- Under one lock: `UPDATE`, then `SELECT`. -/
def increment (state : Sends crates) (recipientId : String) (id : Nat) (faults : SendFaults)
    (packet : ClampPacket) : Sends crates :=
  match faults.update with
  | some _ => state.goto id .ended
  | none =>
    let state := { state with
      node.store := state.node.store.incrementMsgCounter recipientId
      increments := state.increments ++ [id] }
    match faults.select with
    | some _ => state.goto id .ended
    | none => state.goto id (.counted packet)

variable (recipientId : String) (calls : Nat → SendCall)

/-- The next step of a call, up to the end of its next lock. -/
def advance (state : Sends crates) (id : Nat) : Sends crates :=
  match state.progress id with
  | .entered =>
    match (calls id).recipient recipientId with
    | none => state.goto id .ended
    | some peerId =>
      match (calls id).env.faults.session with
      | some _ => state.goto id .ended
      | none =>
        let opened := state.node.store.getOrCreateSession crates recipientId
          (ecdh crates state.node.identity.myPrivateKey peerId)
        let state := { state with node.store := opened.2 }
        match (calls id).build state.node recipientId peerId opened.1.1 opened.1.2 with
        | .error _ => state.goto id .ended
        | .ok packet =>
          let encryption : Encryption :=
            ⟨id, state.node.identity.myNodeId, peerId, opened.1.1, opened.1.2⟩
          { state with encryptions := state.encryptions ++ [encryption] }.goto id
            (.encrypted opened.1.2 packet)
  | .encrypted msgCounter packet =>
    match calls id with
    | .dm env .. =>
      match env.faults.save with
      | some _ => state.goto id .ended
      | none =>
        { state with
          node.store := state.node.store.saveMessage
            (dmRow state.node.identity env recipientId msgCounter packet) }.goto id (.saved packet)
    | .file env _ => state.increment recipientId id env.faults packet
  | .saved packet => state.increment recipientId id (calls id).env.faults packet
  | .counted packet => { state with node := state.node.dispatch packet }.goto id .ended
  | .ended => state

def Encrypts (state : Sends crates) (id : Nat) : Prop :=
  ∃ encryption, (advance recipientId calls state id).encryptions =
    state.encryptions ++ [encryption]

/-- Where the step of a call encrypts, every call that encrypted before it has advanced the
counter. -/
def TakesTurn (state : Sends crates) (id : Nat) : Prop :=
  Encrypts recipientId calls state id →
    ∀ encryption ∈ state.encryptions, encryption.call ∈ state.increments

variable {recipientId calls}

@[simp] theorem progress_goto (state : Sends crates) (id : Nat) (progress : Progress) :
    (state.goto id progress).progress id = progress := Function.update_self ..

theorem run_ended (state : Sends crates) (id count : Nat) :
    run (advance recipientId calls) (state.goto id .ended) (List.replicate count id) =
      state.goto id .ended := by
  induction count with
  | zero => rfl
  | succ count ih =>
      rw [List.replicate_succ, run_cons, advance, progress_goto]
      exact ih

theorem run_increment (state : Sends crates) (id : Nat) (faults : SendFaults)
    (packet : ClampPacket) (count : Nat) :
    (run (advance recipientId calls) (state.increment recipientId id faults packet)
        (List.replicate (count + 1) id)).node =
      match faults.update with
      | some _ => state.node
      | none =>
        let node := { state.node with
          store := state.node.store.incrementMsgCounter recipientId }
        match faults.select with
        | some _ => node
        | none => node.dispatch packet := by
  rw [increment]
  cases faults.update with
  | some e =>
      simp only [run_ended]
      rfl
  | none =>
      cases faults.select with
      | some e =>
          simp only [run_ended]
          rfl
      | none =>
          rw [List.replicate_succ, run_cons, advance, progress_goto]
          simp only [run_ended]
          rfl

theorem advance_alone (state : Sends crates) {id : Nat} (entered : state.progress id = .entered) :
    (run (advance recipientId calls) state (List.replicate 4 id)).node =
      ((calls id).alone state.node recipientId).node := by
  rw [List.replicate_succ, run_cons, advance, entered]
  cases call : calls id with
  | dm env plaintext replyToId replyToText =>
      simp only [SendCall.recipient, SendCall.alone, sendDm, SendCall.env, parseNodeId]
      by_cases blank : isBlank plaintext = true
      · simp only [blank, if_true, run_ended]
        rfl
      by_cases long : (utf8 plaintext).length > 4096
      · simp only [blank, long, if_true, if_false, Bool.false_eq_true, run_ended]
        rfl
      rw [if_neg blank, if_neg long, if_neg blank, if_neg long]
      cases decoded : Hex.decode recipientId with
      | none =>
          simp only [Option.bind_none, run_ended]
          rfl
      | some bytes =>
        cases array : tryInto 32 bytes with
        | none =>
            simp only [Option.bind_some, array, run_ended]
            rfl
        | some peerId =>
          simp only [Option.bind_some, array]
          cases env.faults.session with
          | some e =>
              simp only [run_ended]
              rfl
          | none =>
            simp only [SendCall.build, SendCall.packetType, SendCall.payloadJson, SendCall.env]
            generalize Store.getOrCreateSession crates _ _ _ = opened
            cases buildPacket crates state.node.router .dm _ _ _ _ with
            | error e =>
                simp only [run_ended]
                rfl
            | ok packet =>
                simp only
                rw [List.replicate_succ, run_cons, advance, progress_goto]
                simp only [call]
                cases env.faults.save with
                | some e =>
                    simp only [run_ended]
                    rfl
                | none =>
                    simp only
                    rw [List.replicate_succ, run_cons, advance, progress_goto]
                    simp only [call, SendCall.env]
                    rw [run_increment]
                    cases env.faults.update with
                    | some e => rfl
                    | none => cases env.faults.select <;> rfl
  | file env disk =>
      simp only [SendCall.recipient, SendCall.alone, sendFile, SendCall.env, parseNodeId]
      cases found : readFileForTransfer disk with
      | error e =>
          simp only [run_ended]
          rfl
      | ok contents =>
        rcases contents with ⟨fileBytes, filename, mimeType⟩
        simp only
        cases decoded : Hex.decode recipientId with
        | none =>
            simp only [Option.bind_none, run_ended]
            rfl
        | some bytes =>
          cases array : tryInto 32 bytes with
          | none =>
              simp only [Option.bind_some, array, run_ended]
              rfl
          | some peerId =>
            simp only [Option.bind_some, array]
            cases env.faults.session with
            | some e =>
                simp only [run_ended]
                rfl
            | none =>
              simp only [SendCall.build, SendCall.packetType, SendCall.payloadJson, SendCall.env,
                found]
              generalize Store.getOrCreateSession crates _ _ _ = opened
              cases buildPacket crates state.node.router .file _ _ _ _ with
              | error e =>
                  simp only [run_ended]
                  rfl
              | ok packet =>
                  simp only
                  rw [List.replicate_succ, run_cons, advance, progress_goto]
                  simp only [call]
                  rw [run_increment]
                  cases env.faults.update with
                  | some e => rfl
                  | none => cases env.faults.select <;> rfl

variable {state : Sends crates} {id : Nat}

variable (recipientId calls state id) in
theorem advance_frame : (advance recipientId calls state id).node.identity = state.node.identity ∧
    (advance recipientId calls state id).progress id ≠ .entered ∧
    ∀ other, other ≠ id →
      (advance recipientId calls state id).progress other = state.progress other := by
  have goto_frame : ∀ (middle : Sends crates) (progress : Progress), progress ≠ .entered →
      middle.node.identity = state.node.identity → middle.progress = state.progress →
      (middle.goto id progress).node.identity = state.node.identity ∧
        (middle.goto id progress).progress id ≠ .entered ∧
        ∀ other, other ≠ id → (middle.goto id progress).progress other = state.progress other := by
    intro middle progress left identity same
    refine ⟨identity, by rwa [progress_goto], ?_⟩
    intro other distinct
    rw [goto, same]
    exact Function.update_of_ne distinct ..
  have increment_frame : ∀ faults packet,
      (state.increment recipientId id faults packet).node.identity = state.node.identity ∧
        (state.increment recipientId id faults packet).progress id ≠ .entered ∧
        ∀ other, other ≠ id →
          (state.increment recipientId id faults packet).progress other = state.progress other := by
    intro faults packet
    rw [increment]
    split
    · exact goto_frame _ _ (by simp) rfl rfl
    · dsimp only
      split <;> exact goto_frame _ _ (by simp) rfl rfl
  rw [advance]
  split
  · split
    · exact goto_frame _ _ (by simp) rfl rfl
    · split
      · exact goto_frame _ _ (by simp) rfl rfl
      · dsimp only
        split <;> exact goto_frame _ _ (by simp) rfl rfl
  · split
    · split <;> exact goto_frame _ _ (by simp) rfl rfl
    · exact increment_frame ..
  · exact increment_frame ..
  · exact goto_frame _ _ (by simp) rfl rfl
  · rename_i ended
    exact ⟨rfl, by simp [ended], fun _ _ => rfl⟩

inductive RowEffect (recipientId : String) (calls : Nat → SendCall) (state next : Sends crates)
    (id : Nat) : Prop where
  | settles (messages : next.node.store.messages = state.node.store.messages)
      (progress : next.progress id = .ended)
  | encrypts (entered : state.progress id = .entered) {msgCounter : Nat} {packet : ClampPacket}
      (packetId : packet.header.packetId = ClampPacket.generatePacketId
        state.node.identity.myNodeId (calls id).env.idRandom)
      (messages : next.node.store.messages = state.node.store.messages)
      (progress : next.progress id = .encrypted msgCounter packet)
  | saves {env : SendEnv} {plaintext : String} {replyToId replyToText : Option String}
      {msgCounter : Nat} {packet : ClampPacket}
      (call : calls id = .dm env plaintext replyToId replyToText)
      (encrypted : state.progress id = .encrypted msgCounter packet)
      (noFault : env.faults.save = none)
      (messages : next.node.store.messages = state.node.store.messages.insertOrIgnore
        (dmRow state.node.identity env recipientId msgCounter packet))
      (progress : next.progress id = .saved packet)
  | counts {packet : ClampPacket}
      (before : state.progress id = .saved packet ∨
        ∃ msgCounter env file, state.progress id = .encrypted msgCounter packet ∧
          calls id = .file env file)
      (messages : next.node.store.messages = state.node.store.messages)
      (progress : next.progress id = .counted packet)

theorem increment_rowEffect (faults : SendFaults) {packet : ClampPacket}
    (before : state.progress id = .saved packet ∨
      ∃ msgCounter env file, state.progress id = .encrypted msgCounter packet ∧
        calls id = .file env file) :
    RowEffect recipientId calls state (state.increment recipientId id faults packet) id := by
  rw [increment]
  split
  · exact .settles rfl (progress_goto ..)
  · dsimp only
    split
    · exact .settles rfl (progress_goto ..)
    · exact .counts before rfl (progress_goto ..)

variable (recipientId calls state id) in
theorem advance_rowEffect :
    RowEffect recipientId calls state (advance recipientId calls state id) id := by
  rw [advance]
  split
  · rename_i entered
    split
    · exact .settles rfl (progress_goto ..)
    split
    · exact .settles rfl (progress_goto ..)
    dsimp only
    split
    · exact .settles (Store.messages_getOrCreateSession ..) (progress_goto ..)
    · rename_i packet built
      exact .encrypts entered (sealed_of_buildPacket built).packetId_eq
        (Store.messages_getOrCreateSession ..) (progress_goto ..)
  · rename_i msgCounter packet encrypted
    split
    · rename_i env plaintext replyToId replyToText call
      split
      · exact .settles rfl (progress_goto ..)
      · rename_i noFault
        exact .saves call encrypted noFault rfl (progress_goto ..)
    · rename_i env file call
      exact increment_rowEffect _ (.inr ⟨msgCounter, env, file, encrypted, call⟩)
  · rename_i packet saved
    exact increment_rowEffect _ (.inl saved)
  · exact .settles rfl (progress_goto ..)
  · rename_i ended
    exact .settles rfl ended

end Sends

end Caraka
