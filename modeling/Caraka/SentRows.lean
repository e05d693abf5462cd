import Caraka.Retention
import Caraka.Commands.Interleaving
import Caraka.Sample

/-! Whether the messages that `send_dm` reports as sent are in the store: calls to any recipients,
run at once. -/

namespace Caraka

open Foundation

variable {crates : Crates}

def SendCall.IsDm : SendCall → Prop
  | .dm .. => True
  | .file .. => False

def Progress.packet? : Progress → Option ClampPacket
  | .encrypted _ packet | .saved packet | .counted packet => some packet
  | .entered | .ended => none

/-- The packet whose row a `send_dm` has asked the table for. -/
def Progress.asked? : Progress → Option ClampPacket
  | .saved packet | .counted packet => some packet
  | .entered | .encrypted .. | .ended => none

theorem Progress.packet_of_asked {progress : Progress} {packet : ClampPacket}
    (asked : progress.asked? = some packet) : progress.packet? = some packet := by
  cases progress with
  | saved | counted => exact asked
  | entered | encrypted | ended => cases asked

/-- The id of the packet a call builds. -/
def packetIdOf (identity : Identity crates) (calls : Nat → SendCall) (id : Nat) : Octets 8 :=
  ClampPacket.generatePacketId identity.myNodeId (calls id).env.idRandom

variable (crates) in
structure Outbox where
  sends : Sends crates
  refused : List Nat
  returned : List Envelope

namespace Outbox

def start (node : AppState crates) : Outbox crates := ⟨.start node, [], []⟩

variable (recipients : Nat → String) (calls : Nat → SendCall)

/-- The row a `send_dm` inserts in its next step, under the id `now * 1000 + msg_counter`. -/
def saving (outbox : Outbox crates) (id : Nat) : Option StoredMessage :=
  match outbox.sends.progress id, calls id with
  | .encrypted msgCounter packet, .dm env .. =>
    match env.faults.save with
    | some _ => none
    | none => some (dmRow outbox.sends.node.identity env (recipients id) msgCounter packet)
  | _, _ => none

/-- The packet a `send_dm` reports as sent in its next step. -/
def returns (outbox : Outbox crates) (id : Nat) : Option Envelope :=
  match outbox.sends.progress id, calls id with
  | .counted packet, .dm .. => some packet.envelope
  | _, _ => none

def step (outbox : Outbox crates) (id : Nat) : Outbox crates where
  sends := outbox.sends.advance (recipients id) calls id
  refused := outbox.refused ++
    match saving recipients calls outbox id with
    | some row => if outbox.sends.node.store.messages.Refuses row then [id] else []
    | none => []
  returned := outbox.returned ++ (returns calls outbox id).toList

/-- Every message reported as sent has a row with its packet id, nonce, ciphertext and tag. -/
def Stored (outbox : Outbox crates) : Prop :=
  ∀ envelope ∈ outbox.returned, outbox.sends.node.store.messages.Holds envelope

/-- A call that reports a message as sent was not refused its row when it saved it. -/
def FoundRoom (outbox : Outbox crates) (id : Nat) : Prop :=
  (returns calls outbox id).isSome → id ∉ outbox.refused

structure CoherentAt (identity : Identity crates) (active : Nat → Prop) (outbox : Outbox crates)
    (id : Nat) : Prop where
  active : outbox.sends.progress id ≠ .entered → active id
  packetId : ∀ packet, (outbox.sends.progress id).packet? = some packet →
    packet.header.packetId = packetIdOf identity calls id
  asked : id ∈ outbox.refused → outbox.sends.progress id ≠ .entered ∧
    ∀ msgCounter packet, outbox.sends.progress id ≠ .encrypted msgCounter packet
  refused_iff : ∀ packet, (calls id).IsDm →
    (outbox.sends.progress id).asked? = some packet →
      (id ∈ outbox.refused ↔ ¬ outbox.sends.node.store.messages.Holds packet.envelope)

structure Coherent (identity : Identity crates) (active : Nat → Prop) (outbox : Outbox crates) :
    Prop where
  identity_eq : outbox.sends.node.identity = identity
  each : ∀ id, CoherentAt calls identity active outbox id

variable {recipients calls} {identity : Identity crates} {active : Nat → Prop}
  {outbox : Outbox crates}

theorem coherent_start (node : AppState crates) :
    Coherent calls node.identity active (start node) where
  identity_eq := rfl
  each id := by
    constructor
    · intro left
      exact absurd rfl left
    · intro packet built
      cases built
    · intro member
      cases member
    · intro packet _ asked
      cases asked

theorem saving_eq_none {id : Nat}
    (other : ∀ msgCounter packet, outbox.sends.progress id ≠ .encrypted msgCounter packet) :
    saving recipients calls outbox id = none := by
  rw [saving]
  split
  · rename_i encrypted _
    exact absurd encrypted (other _ _)
  · rfl

theorem saving_of_encrypted {id : Nat} {env : SendEnv} {plaintext : String}
    {replyToId replyToText : Option String} {msgCounter : Nat} {packet : ClampPacket}
    (call : calls id = .dm env plaintext replyToId replyToText)
    (encrypted : outbox.sends.progress id = .encrypted msgCounter packet)
    (noFault : env.faults.save = none) :
    saving recipients calls outbox id =
      some (dmRow outbox.sends.node.identity env (recipients id) msgCounter packet) := by
  simp only [saving, encrypted, call, noFault]

theorem mem_refused_step {id other : Nat} :
    other ∈ (step recipients calls outbox id).refused ↔ other ∈ outbox.refused ∨
      other = id ∧ ∃ row, saving recipients calls outbox id = some row ∧
        outbox.sends.node.store.messages.Refuses row := by
  rw [step, List.mem_append]
  cases saving recipients calls outbox id with
  | none => simp
  | some row =>
      by_cases refuses : outbox.sends.node.store.messages.Refuses row
      · simp [refuses]
      · simp [refuses]

theorem messages_step (id : Nat) :
    (step recipients calls outbox id).sends.node.store.messages =
      match saving recipients calls outbox id with
      | some row => outbox.sends.node.store.messages.insertOrIgnore row
      | none => outbox.sends.node.store.messages := by
  have effect := Sends.advance_rowEffect (recipients id) calls outbox.sends id
  cases reached : outbox.sends.progress id with
  | encrypted msgCounter packet =>
      cases call : calls id with
      | dm env plaintext replyToId replyToText =>
          cases noFault : env.faults.save with
          | none =>
              rw [saving_of_encrypted call reached noFault]
              simp only [step, Sends.advance, reached, call, noFault]
              rfl
          | some error =>
              simp only [step, Sends.advance, saving, reached, call, noFault]
              rfl
      | file env file =>
          simp only [saving, reached, call]
          cases effect with
          | saves dm => cases call.symm.trans dm
          | settles messages | encrypts _ _ messages | counts _ messages => exact messages
  | entered | saved | counted | ended =>
      simp only [saving, reached]
      cases effect with
      | saves _ encrypted => cases reached.symm.trans encrypted
      | settles messages | encrypts _ _ messages | counts _ messages => exact messages

theorem grows_step (id : Nat) : outbox.sends.node.store.messages.Grows
    (step recipients calls outbox id).sends.node.store.messages := by
  rw [messages_step]
  split
  · exact Messages.grows_insertOrIgnore _ _
  · exact .refl _

theorem envelope_saving {id : Nat} {row : StoredMessage}
    (saves : saving recipients calls outbox id = some row) :
    ∃ packet, (outbox.sends.progress id).packet? = some packet ∧
      row.envelope = packet.envelope := by
  unfold saving at saves
  split at saves
  · rename_i msgCounter packet _ _ _ _ encrypted _
    split at saves
    · cases saves
    · cases saves
      exact ⟨packet, by rw [encrypted]; rfl, rfl⟩
  · cases saves

theorem coherentAt_self (coherent : Coherent calls identity active outbox) {id : Nat}
    (started : active id) :
    CoherentAt calls identity active (step recipients calls outbox id) id := by
  have before := coherent.each id
  have effect : Sends.RowEffect (recipients id) calls outbox.sends
      (step recipients calls outbox id).sends id :=
    Sends.advance_rowEffect (recipients id) calls outbox.sends id
  have unsaved : (∀ msgCounter packet, outbox.sends.progress id ≠ .encrypted msgCounter packet) →
      (id ∈ (step recipients calls outbox id).refused ↔ id ∈ outbox.refused) := by
    intro other
    rw [mem_refused_step, saving_eq_none other]
    simp
  cases effect with
  | settles messages progress =>
      exact ⟨fun _ => started, by simp [progress, Progress.packet?], by simp [progress],
        by simp [progress, Progress.asked?]⟩
  | @encrypts entered msgCounter packet packetId messages progress =>
      have fresh : id ∉ (step recipients calls outbox id).refused := by
        rw [unsaved (by simp [entered])]
        exact fun member => (before.asked member).1 entered
      refine ⟨fun _ => started, ?_, fun member => absurd member fresh,
        by simp [progress, Progress.asked?]⟩
      rw [progress]
      rintro _ ⟨⟩
      rw [packetId, coherent.identity_eq]
      rfl
  | @saves env plaintext replyToId replyToText msgCounter packet call encrypted noFault messages
      progress =>
      have fresh : id ∉ outbox.refused := fun member => (before.asked member).2 _ _ encrypted
      have saves := @saving_of_encrypted _ recipients _ outbox _ _ _ _ _ _ _ call encrypted noFault
      refine ⟨fun _ => started, ?_, fun _ => by simp [progress], ?_⟩
      · rw [progress]
        rintro _ ⟨⟩
        exact before.packetId packet (by rw [encrypted]; rfl)
      · rw [progress]
        rintro _ - ⟨⟩
        rw [mem_refused_step, messages_step, saves]
        simp only [fresh, false_or, true_and, Option.some.injEq, exists_eq_left']
        rw [← not_iff_not, not_not]
        exact Messages.holds_inserted.symm
  | @counts packet came messages progress =>
      refine ⟨fun _ => started, ?_, fun _ => by simp [progress], ?_⟩
      · rw [progress]
        rintro _ ⟨⟩
        apply before.packetId
        rcases came with saved | ⟨msgCounter, env, file, encrypted, -⟩
        · rw [saved]
          rfl
        · rw [encrypted]
          rfl
      · rw [progress]
        rintro _ dm ⟨⟩
        rcases came with saved | ⟨msgCounter, env, file, -, call⟩
        · rw [unsaved (by simp [saved]), messages]
          exact before.refused_iff packet dm (by rw [saved]; rfl)
        · rw [call] at dm
          cases dm

section Coherence

variable (coherent : Coherent calls identity active outbox)
  (distinct : ∀ id other, active id → active other →
    packetIdOf identity calls id = packetIdOf identity calls other → id = other)

include coherent distinct

theorem holds_step_other {id other : Nat} (apart : other ≠ id) (started : active id)
    {packet : ClampPacket} (built : (outbox.sends.progress other).packet? = some packet) :
    (step recipients calls outbox id).sends.node.store.messages.Holds packet.envelope ↔
      outbox.sends.node.store.messages.Holds packet.envelope := by
  rw [messages_step]
  split
  · rename_i row saves
    rcases envelope_saving saves with ⟨saved, own, same⟩
    rw [Messages.holds_insertOrIgnore, same]
    refine ⟨fun held => held.elim (fun held => held) fun joined => ?_, .inl⟩
    exfalso
    have sameId := Octets.ext (Hex.encode_injective (congrArg Envelope.packetId joined.2))
    rw [(coherent.each id).packetId saved own, (coherent.each other).packetId packet built]
      at sameId
    have left : outbox.sends.progress other ≠ .entered := by
      intro entered
      rw [entered] at built
      cases built
    exact apart (distinct id other started ((coherent.each other).active left) sameId).symm
  · rfl

theorem coherentAt_other {id other : Nat} (apart : other ≠ id) (started : active id) :
    CoherentAt calls identity active (step recipients calls outbox id) other := by
  have same : (step recipients calls outbox id).sends.progress other =
      outbox.sends.progress other :=
    (Sends.advance_frame (recipients id) calls outbox.sends id).2.2 other apart
  have refused : other ∈ (step recipients calls outbox id).refused ↔ other ∈ outbox.refused := by
    rw [mem_refused_step]
    simp [apart]
  have before := coherent.each other
  constructor
  · rw [same]
    exact before.active
  · rw [same]
    exact before.packetId
  · rw [same, refused]
    exact before.asked
  · rw [same, refused]
    intro packet dm asked
    rw [holds_step_other coherent distinct apart started (Progress.packet_of_asked asked)]
    exact before.refused_iff packet dm asked

theorem coherent_step {id : Nat} (started : active id) :
    Coherent calls identity active (step recipients calls outbox id) where
  identity_eq := (Sends.advance_frame (recipients id) calls outbox.sends id).1.trans
    coherent.identity_eq
  each other := by
    by_cases same : other = id
    · rw [same]
      exact coherentAt_self coherent started
    · exact coherentAt_other coherent distinct same started

end Coherence

theorem asked_of_returns {id : Nat} {envelope : Envelope}
    (returned : returns calls outbox id = some envelope) :
    (calls id).IsDm ∧ ∃ packet, (outbox.sends.progress id).asked? = some packet ∧
      envelope = packet.envelope := by
  unfold returns at returned
  split at returned
  · rename_i packet _ _ _ _ counted call
    cases returned
    rw [counted, call]
    exact ⟨trivial, packet, rfl, rfl⟩
  · cases returned

theorem stored_step (coherent : Coherent calls identity active outbox) {id : Nat}
    (stored : outbox.Stored) (room : FoundRoom calls outbox id) :
    (step recipients calls outbox id).Stored := by
  intro envelope member
  apply grows_step
  rcases List.mem_append.mp member with earlier | now
  · exact stored envelope earlier
  · rw [Option.mem_toList] at now
    rcases asked_of_returns now with ⟨dm, packet, asked, rfl⟩
    have free := room (by rw [now]; rfl)
    rwa [(coherent.each id).refused_iff packet dm asked, not_not] at free

theorem lost_step (coherent : Coherent calls identity active outbox) {id : Nat}
    (refused : ¬ FoundRoom calls outbox id) : ¬ (step recipients calls outbox id).Stored := by
  intro stored
  apply refused
  intro reported member
  rcases Option.isSome_iff_exists.mp reported with ⟨envelope, returned⟩
  rcases asked_of_returns returned with ⟨dm, packet, asked, rfl⟩
  rw [(coherent.each id).refused_iff packet dm asked] at member
  apply member
  have held := stored packet.envelope
    (List.mem_append_right _ (Option.mem_toList.mpr returned))
  have unsaved : saving recipients calls outbox id = none := by
    apply saving_eq_none
    intro msgCounter other encrypted
    rw [encrypted] at asked
    cases asked
  rwa [messages_step, unsaved] at held

theorem stored_iff (node : AppState crates) (recipients : Nat → String)
    {schedule : List Nat} (each : ∀ id ∈ schedule, active id)
    (distinct : ∀ id other, active id → active other →
      packetIdOf node.identity calls id = packetIdOf node.identity calls other → id = other) :
    Always (step recipients calls) Stored (start node) schedule ↔
      Along (step recipients calls) (FoundRoom calls) (start node) schedule := by
  have empty : (start node).Stored := by
    intro envelope member
    cases member
  exact always_iff_along_of_mem
    (fun _ _ started coherent => coherent_step coherent distinct started)
    (fun _ _ _ coherent stored =>
      ⟨fun kept => by_contra fun refused => lost_step coherent refused kept,
        stored_step coherent stored⟩)
    _ _ each (coherent_start node) empty

variable (recipients calls) in
/-- No call that goes on to report its message as sent finds, when it saves its row, the id of the
row (the clock and the counter) or its packet id taken by another message. -/
def RoomAtEachSave (node : AppState crates) (schedule : List Nat) : Prop :=
  ∀ before id between rest, schedule = before ++ id :: (between ++ id :: rest) →
    (returns calls (run (step recipients calls) (start node) (before ++ id :: between)) id).isSome →
      ∀ row, saving recipients calls (run (step recipients calls) (start node) before) id =
          some row →
        ¬ (run (step recipients calls) (start node) before).sends.node.store.messages.Refuses row

theorem mem_refused_run {schedule : List Nat} {id : Nat} (member : id ∈ outbox.refused) :
    id ∈ (run (step recipients calls) outbox schedule).refused := by
  induction schedule generalizing outbox with
  | nil => exact member
  | cons next schedule ih => exact ih (mem_refused_step.mpr (.inl member))

theorem exists_of_mem_refused {node : AppState crates} {schedule : List Nat} {id : Nat}
    (member : id ∈ (run (step recipients calls) (start node) schedule).refused) :
    ∃ before between row, schedule = before ++ id :: between ∧
      saving recipients calls (run (step recipients calls) (start node) before) id = some row ∧
      (run (step recipients calls) (start node) before).sends.node.store.messages.Refuses
        row := by
  induction schedule using List.reverseRecOn with
  | nil => cases member
  | append_singleton schedule last ih =>
      rw [run_concat] at member
      rcases mem_refused_step.mp member with earlier | ⟨rfl, row, saves, refuses⟩
      · rcases ih earlier with ⟨before, between, row, split, saves, refuses⟩
        refine ⟨before, between ++ [last], row, ?_, saves, refuses⟩
        rw [split, List.append_assoc, List.cons_append]
      · exact ⟨schedule, [], row, rfl, saves, refuses⟩

theorem foundRoom_iff (node : AppState crates) (schedule : List Nat) :
    Along (step recipients calls) (FoundRoom calls) (start node) schedule ↔
      RoomAtEachSave recipients calls node schedule := by
  rw [along_iff]
  constructor
  · intro each before id between rest split reported row saves refuses
    have room := each (before ++ id :: between) id rest (by rw [split, List.append_assoc]; rfl)
    apply room reported
    rw [run_append, run_cons]
    exact mem_refused_run (mem_refused_step.mpr (.inr ⟨rfl, row, saves, refuses⟩))
  · intro room front id rest split reported member
    rcases exists_of_mem_refused member with ⟨before, between, row, split', saves, refuses⟩
    subst split'
    apply room before id between rest _ reported row saves refuses
    rw [split, List.append_assoc]
    rfl

theorem room_of_unrefused {node : AppState crates} {schedule : List Nat}
    (unrefused : (run (step recipients calls) (start node) schedule).refused = []) :
    RoomAtEachSave recipients calls node schedule := by
  rintro before id between rest rfl - row saves refuses
  have member : id ∈ (run (step recipients calls) (start node)
      (before ++ id :: (between ++ id :: rest))).refused := by
    rw [run_append, run_cons]
    exact mem_refused_run (mem_refused_step.mpr (.inr ⟨rfl, row, saves, refuses⟩))
  rw [unrefused] at member
  cases member

end Outbox

namespace Sample

def pairRecipients (id : Nat) : String := nodeId (id + 2)

def pairCalls (id : Nat) : SendCall :=
  .dm { env with idRandom := octets 4 id, nonceRandom := octets 12 id } "halo" none none

def pairAuthor : AppState haloCrates := node haloCrates 1 [2, 3]

theorem pairIds {id other : Nat} (inside : id < 2) (inside' : other < 2)
    (same : packetIdOf pairAuthor.identity pairCalls id =
      packetIdOf pairAuthor.identity pairCalls other) : id = other := by
  have apart : packetIdOf pairAuthor.identity pairCalls 0 ≠
      packetIdOf pairAuthor.identity pairCalls 1 := by
    decide
  have first : id = 0 ∨ id = 1 := by omega
  have second : other = 0 ∨ other = 1 := by omega
  rcases first with rfl | rfl
  · rcases second with rfl | rfl
    · rfl
    · exact absurd same apart
  · rcases second with rfl | rfl
    · exact absurd same.symm apart
    · rfl

end Sample

namespace Sample

/-- The same two messages, the second written a second later. -/
def spacedCalls (id : Nat) : SendCall :=
  .dm
    { env with
      now := 1000 + UInt64.ofNat id
      idRandom := octets 4 id
      nonceRandom := octets 12 id }
    "halo" none none

theorem spacedIds {id other : Nat} (inside : id < 2) (inside' : other < 2)
    (same : packetIdOf pairAuthor.identity spacedCalls id =
      packetIdOf pairAuthor.identity spacedCalls other) : id = other :=
  pairIds inside inside' same

end Sample

/-- Whatever the recipients, the clocks and the interleaving of the calls: in every state of a run
each message that `send_dm` reported as sent is in the table, exactly when no call that reports one
found the id or the packet id of its row taken when it saved it. -/
theorem sent_rows_kept_iff (node : AppState crates) (recipients : Nat → String)
    (calls : Nat → SendCall) (schedule : List Nat)
    (fresh : ∀ id ∈ schedule, ∀ other ∈ schedule, packetIdOf node.identity calls id =
      packetIdOf node.identity calls other → id = other) :
    Always (Outbox.step recipients calls) Outbox.Stored (Outbox.start node) schedule ↔
      Outbox.RoomAtEachSave recipients calls node schedule := by
  rw [← Outbox.foundRoom_iff]
  exact Outbox.stored_iff node recipients (fun _ member => member)
    fun id other here there => fresh id here other there

/-- Messages to nodes 2 and 3, the calls in turn and a second apart. -/
theorem sent_rows_kept_iff_halo : Always (Outbox.step Sample.pairRecipients Sample.spacedCalls)
    Outbox.Stored (Outbox.start Sample.pairAuthor) [0, 1, 0, 1, 0, 1, 0, 1] := by
  have inside : ∀ id ∈ [0, 1, 0, 1, 0, 1, 0, 1], id < 2 := by decide
  have unrefused : (run (Outbox.step Sample.pairRecipients Sample.spacedCalls)
      (Outbox.start Sample.pairAuthor) [0, 1, 0, 1, 0, 1, 0, 1]).refused = [] := by
    decide +kernel
  rw [sent_rows_kept_iff Sample.pairAuthor Sample.pairRecipients Sample.spacedCalls _
    fun id here other there => Sample.spacedIds (inside id here) (inside other there)]
  exact Outbox.room_of_unrefused unrefused

/-- Node 1 writes to nodes 2 and 3 in one second. Both calls report success, and only the first
message is stored. -/
theorem message_of_same_second_lost :
    ¬ Always (Outbox.step Sample.pairRecipients Sample.pairCalls) Outbox.Stored
      (Outbox.start Sample.pairAuthor) [0, 0, 0, 0, 1, 1, 1, 1] := by
  have reported : (Outbox.returns Sample.pairCalls (run (Outbox.step Sample.pairRecipients
      Sample.pairCalls) (Outbox.start Sample.pairAuthor) [0, 0, 0, 0, 1, 1, 1]) 1).isSome = true ∧
      (run (Outbox.step Sample.pairRecipients Sample.pairCalls)
        (Outbox.start Sample.pairAuthor) [0, 0, 0, 0, 1, 1, 1]).refused = [1] := by
    decide +kernel
  have inside : ∀ id ∈ [0, 0, 0, 0, 1, 1, 1, 1], id < 2 := by decide
  rw [@Outbox.stored_iff _ _ (· < 2) _ _ _ inside fun _ _ => Sample.pairIds]
  intro along
  have last := ((along_append _ [0, 0, 0, 0, 1, 1, 1] [1]).mp along).2.1
  have free := last reported.1
  rw [reported.2] at free
  exact free List.mem_cons_self

end Caraka
