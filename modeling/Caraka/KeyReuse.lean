import Caraka.Commands.Interleaving
import Caraka.Foundation.Counter
import Caraka.Sample

/-! Which keys the calls of `send_dm` and `send_file` that run at once encrypt under. -/

namespace Caraka

open Foundation

variable {crates : Crates} {recipientId : String} {calls : Nat → SendCall}

namespace Sends

section Invariant

variable (recipientId)

/-- The session of the recipient, as the next call that opens it finds it. -/
def session (state : Sends crates) : Session :=
  sessionOf state.node.identity state.node.store recipientId
    ((parseNodeId recipientId).getD (Octets.zero 32))

def Opened (state : Sends crates) : Prop :=
  state.node.store.sessions.get? recipientId = some (state.session recipientId)

def keyAt (identity : Identity crates) (msgCounter : Nat) :
    NodePublicKey × NodePublicKey × Octets 8 × Nat :=
  let peerId := (parseNodeId recipientId).getD (Octets.zero 32)
  (identity.myNodeId, peerId, deriveSessionId crates (ecdh crates identity.myPrivateKey peerId),
    msgCounter)

def nextEncryption (state : Sends crates) (id : Nat) : Encryption where
  call := id
  senderId := state.node.identity.myNodeId
  receiverId := (parseNodeId recipientId).getD (Octets.zero 32)
  sessionId := deriveSessionId crates (ecdh crates state.node.identity.myPrivateKey
    ((parseNodeId recipientId).getD (Octets.zero 32)))
  msgCounter := (state.session recipientId).msgCounter

inductive Effect (state next : Sends crates) (id : Nat) : Prop where
  | quiet (pending : (next.progress id).Pending → (state.progress id).Pending)
      (session : next.session recipientId = state.session recipientId)
      (opened : state.Opened recipientId → next.Opened recipientId)
      (encryptions : next.encryptions = state.encryptions)
      (increments : next.increments = state.increments)
  | encrypts (entered : state.progress id = .entered)
      (session : next.session recipientId = state.session recipientId)
      (opened : next.Opened recipientId)
      (encryptions : next.encryptions =
        state.encryptions ++ [state.nextEncryption recipientId id])
      (increments : next.increments = state.increments)
  | counts (pending : (state.progress id).Pending) (settled : ¬ (next.progress id).Pending)
      (store : next.node.store = state.node.store.incrementMsgCounter recipientId)
      (encryptions : next.encryptions = state.encryptions)
      (increments : next.increments = state.increments ++ [id])

end Invariant

variable {state : Sends crates} {id : Nat}

theorem recipient_eq_some {call : SendCall} {peerId : NodePublicKey}
    (checked : call.recipient recipientId = some peerId) :
    parseNodeId recipientId = some peerId := by
  unfold SendCall.recipient at checked
  split at checked
  · split_ifs at checked
    exact checked
  · split at checked
    · cases checked
    · exact checked

theorem increment_effect {faults : SendFaults} {packet : ClampPacket}
    (pending : (state.progress id).Pending) :
    Effect recipientId state (state.increment recipientId id faults packet) id := by
  have settled : ∀ (middle : Sends crates) progress, ¬ progress.Pending →
      ¬ ((middle.goto id progress).progress id).Pending := by
    intro middle progress not
    rwa [progress_goto]
  rw [increment]
  split
  · exact .quiet (fun still => absurd still (settled _ _ (by simp [Progress.Pending]))) rfl
      (fun opened => opened) rfl rfl
  · dsimp only
    split <;> exact .counts pending (settled _ _ (by simp [Progress.Pending])) rfl rfl rfl

variable (recipientId calls state id) in
theorem advance_effect : Effect recipientId state (advance recipientId calls state id) id := by
  have ends : Effect recipientId state (state.goto id .ended) id :=
    .quiet (by simp [Progress.Pending]) rfl (fun opened => opened) rfl rfl
  rw [advance]
  split
  · rename_i entered
    split
    · exact ends
    rename_i peerId checked
    have known := recipient_eq_some checked
    split
    · exact ends
    have session : sessionOf state.node.identity (state.node.store.getOrCreateSession crates
        recipientId (ecdh crates state.node.identity.myPrivateKey peerId)).2 recipientId
          ((parseNodeId recipientId).getD (Octets.zero 32)) = state.session recipientId := by
      rw [Sends.session, known]
      exact sessionOf_getOrCreateSession _ known known
    have opened : (state.node.store.getOrCreateSession crates recipientId
        (ecdh crates state.node.identity.myPrivateKey peerId)).2.sessions.get? recipientId =
          some (state.session recipientId) := by
      rw [Store.get?_getOrCreateSession, if_pos rfl, Sends.session, known]
      rfl
    dsimp only
    split
    · exact .quiet (by simp [Progress.Pending]) session
        (fun _ => opened.trans (congrArg some session.symm)) rfl rfl
    · refine .encrypts entered session (opened.trans (congrArg some session.symm)) ?_ rfl
      simp only [goto, nextEncryption, Store.getOrCreateSession_fst, Sends.session, known]
      rfl
  · rename_i encrypted
    have pending : (state.progress id).Pending := by
      rw [encrypted]
      trivial
    split
    · split
      · exact ends
      · exact .quiet (fun _ => pending) rfl (fun opened => opened) rfl rfl
    · exact increment_effect pending
  · rename_i saved
    apply increment_effect
    rw [saved]
    trivial
  · exact .quiet (by simp [Progress.Pending]) rfl (fun opened => opened) rfl rfl
  · rename_i ended
    exact .quiet (by simp [ended, Progress.Pending]) rfl (fun opened => opened) rfl rfl

section Invariant

variable (recipientId)

/-- The message counter of the recipient, the calls that read it and those that advanced it. -/
def counter (state : Sends crates) : Counter Nat where
  next := (state.session recipientId).msgCounter
  reads := state.encryptions.map fun encryption => (encryption.call, encryption.msgCounter)
  advanced := state.increments

structure Consistent (state : Sends crates) : Prop where
  sound : (state.counter recipientId).Sound
  entered : ∀ id, state.progress id = .entered → id ∉ (state.counter recipientId).readers
  pending : ∀ id, (state.progress id).Pending →
    id ∈ (state.counter recipientId).readers ∧ id ∉ state.increments
  opened : state.encryptions ≠ [] → state.Opened recipientId
  keys : ∀ encryption ∈ state.encryptions,
    encryption.key = keyAt recipientId state.node.identity encryption.msgCounter

end Invariant

variable (recipientId) in
theorem consistent_start (node : AppState crates) : (start node).Consistent recipientId where
  sound := Counter.sound_start _
  entered := by simp [Counter.readers, counter, start]
  pending := by simp [start, Progress.Pending]
  opened := by simp [start]
  keys := by simp [start]

theorem counter_read {next : Sends crates} {id : Nat}
    (session : next.session recipientId = state.session recipientId)
    (encryptions : next.encryptions = state.encryptions ++ [state.nextEncryption recipientId id])
    (increments : next.increments = state.increments) :
    next.counter recipientId = (state.counter recipientId).read id := by
  simp [counter, Counter.read, session, encryptions, increments, nextEncryption]

theorem session_increment {next : Sends crates} (opened : state.Opened recipientId)
    (identity : next.node.identity = state.node.identity)
    (store : next.node.store = state.node.store.incrementMsgCounter recipientId) :
    next.session recipientId = { state.session recipientId with
      msgCounter := (state.session recipientId).msgCounter + 1 } := by
  rw [Sends.session, identity, store]
  exact Store.openedSession_increment crates opened

theorem counter_advance {next : Sends crates} {id : Nat} (opened : state.Opened recipientId)
    (identity : next.node.identity = state.node.identity)
    (store : next.node.store = state.node.store.incrementMsgCounter recipientId)
    (encryptions : next.encryptions = state.encryptions)
    (increments : next.increments = state.increments ++ [id]) :
    next.counter recipientId = (state.counter recipientId).advance id := by
  simp [counter, Counter.advance, session_increment opened identity store, encryptions, increments]

theorem readers_counter : (state.counter recipientId).readers =
    state.encryptions.map Encryption.call := by
  simp [Counter.readers, counter, Function.comp_def]

theorem consistent_advance (consistent : state.Consistent recipientId) :
    (advance recipientId calls state id).Consistent recipientId := by
  rcases advance_frame recipientId calls state id with ⟨identity, left, others⟩
  have effect := advance_effect recipientId calls state id
  generalize advance recipientId calls state id = next at identity left others effect
  have entered_other : ∀ other, next.progress other = .entered →
      other ≠ id ∧ state.progress other = .entered := by
    intro other entered
    have distinct : other ≠ id := by
      rintro rfl
      exact left entered
    exact ⟨distinct, (others other distinct) ▸ entered⟩
  cases effect with
  | quiet pending session opened encryptions increments =>
      have same : next.counter recipientId = state.counter recipientId := by
        simp only [counter, session, encryptions, increments]
      exact {
        sound := by rw [same]; exact consistent.sound
        entered := by
          intro other entered
          rw [same]
          exact consistent.entered other (entered_other other entered).2
        pending := by
          intro other waits
          rw [same, increments]
          by_cases own : other = id
          · subst own
            exact consistent.pending other (pending waits)
          · exact consistent.pending other ((others other own) ▸ waits)
        opened := by
          rw [encryptions]
          exact fun some => opened (consistent.opened some)
        keys := by
          rw [encryptions, identity]
          exact consistent.keys }
  | encrypts entered session opened encryptions increments =>
      have same := counter_read session encryptions increments
      have first := consistent.entered id entered
      exact {
        sound := by
          rw [same]
          exact consistent.sound.read first
        entered := by
          intro other waits
          rcases entered_other other waits with ⟨distinct, before⟩
          rw [same, Counter.readers_read, List.mem_append, List.mem_singleton, not_or]
          exact ⟨consistent.entered other before, distinct⟩
        pending := by
          intro other waits
          rw [same, increments, Counter.readers_read, List.mem_append, List.mem_singleton]
          by_cases own : other = id
          · subst own
            exact ⟨.inr rfl, fun ahead => first (consistent.sound.advanced_subset ahead)⟩
          · rcases consistent.pending other ((others other own) ▸ waits) with ⟨member, waiting⟩
            exact ⟨.inl member, waiting⟩
        opened := fun _ => opened
        keys := by
          intro encryption member
          rw [encryptions, List.mem_append, List.mem_singleton] at member
          rw [identity]
          rcases member with old | rfl
          · exact consistent.keys encryption old
          · rfl }
  | counts pending settled store encryptions increments =>
      rcases consistent.pending id pending with ⟨member, waiting⟩
      have before : state.Opened recipientId := by
        apply consistent.opened
        rintro empty
        simp [readers_counter, empty] at member
      have same := counter_advance before identity store encryptions increments
      exact {
        sound := by
          rw [same]
          exact consistent.sound.advance member waiting
        entered := by
          intro other waits
          rw [same, Counter.readers_advance]
          exact consistent.entered other (entered_other other waits).2
        pending := by
          intro other waits
          have own : other ≠ id := by
            rintro rfl
            exact settled waits
          rcases consistent.pending other ((others other own) ▸ waits) with ⟨present, ahead⟩
          rw [same, increments, Counter.readers_advance, List.mem_append, List.mem_singleton,
            not_or]
          exact ⟨present, ahead, own⟩
        opened := by
          intro _
          rw [Opened, session_increment before identity store, store, Store.incrementMsgCounter,
            AssocMap.get?_modify_self, before]
          rfl
        keys := by
          rw [encryptions, identity]
          exact consistent.keys }

theorem nodup_keys (consistent : state.Consistent recipientId) :
    (state.encryptions.map Encryption.key).Nodup ↔ (state.counter recipientId).values.Nodup := by
  have injective : Function.Injective (keyAt recipientId state.node.identity) := by
    intro left right same
    exact (Prod.mk.inj (Prod.mk.inj (Prod.mk.inj same).2).2).2
  have keys : state.encryptions.map Encryption.key =
      (state.counter recipientId).values.map (keyAt recipientId state.node.identity) := by
    simp only [Counter.values, counter, List.map_map]
    exact List.map_congr_left consistent.keys
  rw [keys, List.nodup_map_iff injective]

theorem nodup_of_advance
    (distinct : ((advance recipientId calls state id).counter recipientId).values.Nodup) :
    (state.counter recipientId).values.Nodup := by
  simp only [Counter.values, counter] at distinct ⊢
  cases advance_effect recipientId calls state id with
  | quiet _ _ _ encryptions => rwa [encryptions] at distinct
  | counts _ _ _ encryptions => rwa [encryptions] at distinct
  | encrypts _ _ _ encryptions =>
      rw [encryptions, List.map_append, List.map_append] at distinct
      exact distinct.of_append_left

theorem nodup_advance_iff (consistent : state.Consistent recipientId)
    (distinct : (state.counter recipientId).values.Nodup) :
    ((advance recipientId calls state id).counter recipientId).values.Nodup ↔
      TakesTurn recipientId calls state id := by
  have effect := advance_effect recipientId calls state id
  rw [TakesTurn, Encrypts]
  generalize advance recipientId calls state id = next at effect
  have idle : next.encryptions = state.encryptions →
      ((next.counter recipientId).values.Nodup ↔
        ((∃ encryption, next.encryptions = state.encryptions ++ [encryption]) →
          ∀ encryption ∈ state.encryptions, encryption.call ∈ state.increments)) := by
    intro same
    have kept : (next.counter recipientId).values.Nodup := by
      simpa only [Counter.values, counter, same] using distinct
    simp [kept, same]
  cases effect with
  | quiet pending session opened encryptions increments => exact idle encryptions
  | counts pending settled store encryptions increments => exact idle encryptions
  | encrypts entered session opened encryptions increments =>
      rw [counter_read session encryptions increments, consistent.sound.nodup_read_iff distinct]
      simp only [Counter.Settled, readers_counter, List.forall_mem_map]
      exact ⟨fun settled _ => settled, fun turn => turn ⟨_, encryptions⟩⟩

end Sends

/-- Whatever calls of `send_dm` and `send_file` to one recipient run at once, in whatever order
they come to their locks, no two messages are encrypted under one key exactly where each call
reads the counter only after every call that read it before has advanced it. -/
theorem keys_distinct_iff (recipientId : String) (calls : Nat → SendCall) (node : AppState crates)
    (schedule : List Nat) :
    ((run (Sends.advance recipientId calls) (Sends.start node) schedule).encryptions.map
        Encryption.key).Nodup ↔
      Along (Sends.advance recipientId calls) (Sends.TakesTurn recipientId calls)
        (Sends.start node) schedule := by
  have framed : ∀ (state : Sends crates) id, state.Consistent recipientId →
      (Sends.advance recipientId calls state id).Consistent recipientId :=
    fun _ _ => Sends.consistent_advance
  have start := Sends.consistent_start recipientId node
  let distinct (state : Sends crates) : Prop := (state.counter recipientId).values.Nodup
  have lost : ∀ state id, distinct (Sends.advance recipientId calls state id) → distinct state :=
    fun state id => Sends.nodup_of_advance
  calc _ ↔ distinct (run (Sends.advance recipientId calls) (Sends.start node) schedule) :=
        Sends.nodup_keys (run_induction framed _ schedule start)
    _ ↔ Always (Sends.advance recipientId calls) distinct (Sends.start node) schedule :=
        (always_iff_run lost _ _).symm
    _ ↔ _ := always_iff_along framed
        (fun _ _ frame good turn => (Sends.nodup_advance_iff frame good).mpr turn)
        (fun _ _ frame good wrong kept => wrong ((Sends.nodup_advance_iff frame good).mp kept))
        _ _ start (by simp [Counter.values, Sends.counter, Sends.start])

/-- Two messages to one recipient, both keyed before either is counted. -/
theorem overlapping_sends_share_key :
    ¬ ((run (Sends.advance (Sample.nodeId 2) fun _ => .dm Sample.env "halo" none none)
        (Sends.start Sample.alice) [0, 1, 0, 0, 0, 1, 1, 1]).encryptions.map
      Encryption.key).Nodup := by
  decide +kernel

end Caraka
