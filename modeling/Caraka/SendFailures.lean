import Caraka.Commands.Sent
import Caraka.Sample

/-! What a `send_dm` that returns an error leaves behind, at each point where it may fail. -/

namespace Caraka

open Foundation

variable {crates : Crates}

namespace Store

/-- The counter of a peer, zero where there is no row. -/
def msgCounter (store : Store) (peerId : String) : Nat :=
  ((store.sessions.get? peerId).map Session.msgCounter).getD 0

theorem getOrCreateSession_of_current {store : Store} {peerId : String} {sharedSecret : Octets 32}
    {session : Session} (present : store.sessions.get? peerId = some session)
    (current : (tryInto 8 session.sessionId).getD (Octets.zero 8) =
      deriveSessionId crates sharedSecret) :
    store.getOrCreateSession crates peerId sharedSecret =
      ((deriveSessionId crates sharedSecret, session.msgCounter), store) := by
  rw [getOrCreateSession, present]
  exact if_pos current

theorem getOrCreateSession_again (store : Store) (peerId : String) (sharedSecret : Octets 32) :
    (store.getOrCreateSession crates peerId sharedSecret).2.getOrCreateSession crates peerId
        sharedSecret = store.getOrCreateSession crates peerId sharedSecret := by
  have present := get?_getOrCreateSession crates store peerId peerId sharedSecret
  rw [if_pos rfl] at present
  rw [getOrCreateSession_of_current present (openedSession_current crates ..)]
  exact Prod.ext (getOrCreateSession_fst crates store peerId sharedSecret).symm rfl

end Store

theorem SendFaults.eq_none {faults : SendFaults} (session : faults.session = Option.none)
    (save : faults.save = Option.none) (update : faults.update = Option.none)
    (select : faults.select = Option.none) : faults = SendFaults.none := by
  cases faults
  cases session
  cases save
  cases update
  cases select
  rfl

section Failures

variable (node : AppState crates) (env : SendEnv) (recipientId plaintext : String)
  (replyToId replyToText : Option String)

/-- A failed send that a retry cannot tell from none: a session row of zeros may be new. -/
structure FailedAtomically (outcome : SendOutcome crates) : Prop where
  messages_eq : outcome.node.store.messages = node.store.messages
  counter_eq : ∀ peerId, outcome.node.store.msgCounter peerId = node.store.msgCounter peerId
  router_eq : outcome.node.router = node.router
  unsent : outcome.sent = none ∧ outcome.node.peerSenders = node.peerSenders
  retry : ∀ env plaintext replyToId replyToText,
    let again := sendDm outcome.node env recipientId plaintext replyToId replyToText
    let first := sendDm node env recipientId plaintext replyToId replyToText
    again.result = first.result ∧ again.sent = first.sent ∧ again.events = first.events ∧
      (again.node = first.node ∨ (again.node = outcome.node ∧ first.node = node))

/-- The send gets past the lookup of the session. -/
structure OpensSession (peerPub : NodePublicKey) : Prop where
  notBlank : isBlank plaintext = false
  short : (utf8 plaintext).length ≤ 4096
  known : parseNodeId recipientId = some peerPub
  session : env.faults.session = none

def SavesMessage (peerPub : NodePublicKey) : Prop :=
  (∃ packet, DmBuilt node env recipientId plaintext replyToId replyToText peerPub packet) ∧
    env.faults.save = none

def ResetsCounter (peerPub : NodePublicKey) : Prop :=
  ∃ session, node.store.sessions.get? recipientId = some session ∧
    (tryInto 8 session.sessionId).getD (Octets.zero 8) ≠
      deriveSessionId crates (ecdh crates node.identity.myPrivateKey peerPub) ∧
    session.msgCounter ≠ 0

def RowTaken (peerPub : NodePublicKey) : Prop :=
  toString (env.now * 1000 + UInt64.ofNat (sendCounter node recipientId peerPub)) ∈
      node.store.messages.rows.map StoredMessage.id ∨
    Hex.encode (sentPacketId node env).bytes ∈
      node.store.messages.rows.map StoredMessage.packetId

/-- A send that opened the session and gets past the `UPDATE` of the counter does not fail at the
`SELECT`; one that fails before has set no counter back, and where it fails at the `UPDATE` it has
saved no row. -/
def FailsCleanly (peerPub : NodePublicKey) : Prop :=
  (SavesMessage node env recipientId plaintext replyToId replyToText peerPub →
      env.faults.update = none → env.faults.select = none) ∧
    (¬ (SavesMessage node env recipientId plaintext replyToId replyToText peerPub ∧
        env.faults.update = none) → ¬ ResetsCounter node recipientId peerPub) ∧
    (SavesMessage node env recipientId plaintext replyToId replyToText peerPub →
      env.faults.update ≠ none → RowTaken node env recipientId peerPub)

end Failures

section Stages

variable {node : AppState crates} {env : SendEnv} {recipientId plaintext : String}
  {replyToId replyToText : Option String} {peerPub : NodePublicKey}

theorem sendDm_refused
    (refused : ∀ peerPub, ¬ OpensSession env recipientId plaintext peerPub) :
    ∃ error, ∀ node : AppState crates,
      sendDm node env recipientId plaintext replyToId replyToText = .fail node error := by
  by_cases blank : isBlank plaintext = true
  · exact ⟨_, fun node => by rw [sendDm, if_pos blank]⟩
  by_cases long : (utf8 plaintext).length > 4096
  · exact ⟨_, fun node => by rw [sendDm, if_neg blank, if_pos long]⟩
  cases decoded : Hex.decode recipientId with
  | none => exact ⟨_, fun node => by rw [sendDm, if_neg blank, if_neg long, decoded]⟩
  | some bytes =>
      cases parsed : tryInto 32 bytes with
      | none =>
          refine ⟨"Recipient ID harus 32 byte (64 hex chars)", fun node => ?_⟩
          rw [sendDm, if_neg blank, if_neg long, decoded]
          dsimp only
          rw [parsed]
      | some peerPub =>
          have known : parseNodeId recipientId = some peerPub := by
            rw [parseNodeId, decoded]
            exact parsed
          cases session : env.faults.session with
          | some error =>
              refine ⟨error, fun node => ?_⟩
              rw [sendDm, if_neg blank, if_neg long, decoded]
              dsimp only
              rw [parsed]
              dsimp only
              rw [session]
          | none =>
              exact absurd ⟨eq_false_of_ne_true blank, Nat.le_of_not_lt long, known, session⟩
                (refused peerPub)

theorem sendDm_opened (opens : OpensSession env recipientId plaintext peerPub) :
    sendDm node env recipientId plaintext replyToId replyToText =
      match buildPacket crates node.router .dm (sentPacketId node env)
          (sendKey node.identity peerPub (sendCounter node recipientId peerPub)) (sentNonce env)
          (sentDmPayload node env recipientId plaintext replyToId replyToText peerPub).toVec with
      | .error e => .fail { node with store := openedStore node recipientId peerPub } e.toString
      | .ok packet =>
        match env.faults.save, env.faults.update, env.faults.select with
        | some e, _, _ => .fail { node with store := openedStore node recipientId peerPub } e
        | none, some e, _ =>
          .fail { node with store := savedStore node env recipientId peerPub packet } e
        | none, none, some e =>
          .fail { node with store :=
            (savedStore node env recipientId peerPub packet).incrementMsgCounter recipientId } e
        | none, none, none =>
          { node := sentDmNode node env recipientId peerPub packet
            result := .ok (Hex.encode (sentPacketId node env).bytes)
            sent := some packet
            events := [.messageSent (dmRow node.identity env recipientId
              (sendCounter node recipientId peerPub) packet).id recipientId plaintext env.now
              replyToId replyToText] } := by
  rcases Option.bind_eq_some_iff.mp opens.known with ⟨bytes, decoded, parsed⟩
  have blank : ¬ isBlank plaintext = true := by
    rw [opens.notBlank]
    exact Bool.false_ne_true
  rw [sendDm, if_neg blank, if_neg (Nat.not_lt.mpr opens.short), decoded]
  dsimp only
  rw [parsed]
  dsimp only
  rw [opens.session]
  simp only [Store.getOrCreateSession_fst]
  split
  · rename_i e failed
    change buildPacket crates node.router .dm (sentPacketId node env)
      (sendKey node.identity peerPub (sendCounter node recipientId peerPub)) (sentNonce env)
      (sentDmPayload node env recipientId plaintext replyToId replyToText peerPub).toVec = _
      at failed
    rw [failed]
    rfl
  · rename_i packet built
    change buildPacket crates node.router .dm (sentPacketId node env)
      (sendKey node.identity peerPub (sendCounter node recipientId peerPub)) (sentNonce env)
      (sentDmPayload node env recipientId plaintext replyToId replyToText peerPub).toVec = _
      at built
    rw [built]
    cases env.faults.save with
    | some e => rfl
    | none =>
        cases env.faults.update with
        | some e => rfl
        | none =>
            cases env.faults.select with
            | some e => rfl
            | none => rfl

theorem sendDm_unsaved (opens : OpensSession env recipientId plaintext peerPub)
    (unsaved : ¬ SavesMessage node env recipientId plaintext replyToId replyToText peerPub) :
    ∃ error, sendDm node env recipientId plaintext replyToId replyToText =
      .fail { node with store := openedStore node recipientId peerPub } error := by
  rw [sendDm_opened opens]
  split
  · exact ⟨_, rfl⟩
  · rename_i packet built
    cases save : env.faults.save with
    | some error => exact ⟨error, rfl⟩
    | none => exact absurd ⟨⟨packet, built⟩, save⟩ unsaved

theorem sendDm_uncounted {packet : ClampPacket} {error : String}
    (opens : OpensSession env recipientId plaintext peerPub)
    (built : DmBuilt node env recipientId plaintext replyToId replyToText peerPub packet)
    (save : env.faults.save = none) (update : env.faults.update = some error) :
    sendDm node env recipientId plaintext replyToId replyToText =
      .fail { node with store := savedStore node env recipientId peerPub packet } error := by
  rw [DmBuilt] at built
  rw [sendDm_opened opens, built, save, update]

theorem sendDm_counted {packet : ClampPacket} {error : String}
    (opens : OpensSession env recipientId plaintext peerPub)
    (built : DmBuilt node env recipientId plaintext replyToId replyToText peerPub packet)
    (save : env.faults.save = none) (update : env.faults.update = none)
    (select : env.faults.select = some error) :
    sendDm node env recipientId plaintext replyToId replyToText =
      .fail { node with store :=
        (savedStore node env recipientId peerPub packet).incrementMsgCounter recipientId }
        error := by
  rw [DmBuilt] at built
  rw [sendDm_opened opens, built, save, update, select]

theorem sendDm_reopened (known : parseNodeId recipientId = some peerPub) :
    let again := sendDm { node with store := openedStore node recipientId peerPub } env recipientId
      plaintext replyToId replyToText
    let first := sendDm node env recipientId plaintext replyToId replyToText
    again.result = first.result ∧ again.sent = first.sent ∧ again.events = first.events ∧
      (again.node = first.node ∨
        (again.node = { node with store := openedStore node recipientId peerPub } ∧
          first.node = node)) := by
  by_cases opens : OpensSession env recipientId plaintext peerPub
  · have reopened : openedStore { node with store := openedStore node recipientId peerPub }
        recipientId peerPub = openedStore node recipientId peerPub :=
      congrArg Prod.snd (Store.getOrCreateSession_again ..)
    have counted : sendCounter { node with store := openedStore node recipientId peerPub }
        recipientId peerPub = sendCounter node recipientId peerPub :=
      congrArg Session.msgCounter (Store.openedSession_getOrCreateSession ..)
    have same : sendDm { node with store := openedStore node recipientId peerPub } env recipientId
        plaintext replyToId replyToText =
          sendDm node env recipientId plaintext replyToId replyToText := by
      rw [sendDm_opened opens, sendDm_opened opens]
      simp only [sentDmNode, savedStore, sentDmPayload, sentPacketId, reopened, counted]
    dsimp only
    rw [same]
    exact ⟨rfl, rfl, rfl, .inl rfl⟩
  · have refused (other : NodePublicKey) : ¬ OpensSession env recipientId plaintext other := by
      intro held
      have named := held.known
      rw [known] at named
      cases named
      exact opens held
    rcases sendDm_refused refused with ⟨error, fails⟩
    dsimp only
    rw [fails, fails]
    exact ⟨rfl, rfl, rfl, .inr ⟨rfl, rfl⟩⟩

theorem forall_error_fail {node : AppState crates} {error : String} {property : Prop} :
    (∀ raised, (SendOutcome.fail node error).result = .error raised → property) ↔ property :=
  ⟨fun each => each error rfl, fun holds _ _ => holds⟩

theorem failedAtomically_refused (error : String) :
    FailedAtomically node recipientId (.fail node error) :=
  ⟨rfl, fun _ => rfl, rfl, ⟨rfl, rfl⟩, fun _ _ _ _ => ⟨rfl, rfl, rfl, .inl rfl⟩⟩

theorem msgCounter_openedStore (kept : ¬ ResetsCounter node recipientId peerPub)
    (peerId : String) :
    (openedStore node recipientId peerPub).msgCounter peerId = node.store.msgCounter peerId := by
  rw [Store.msgCounter, Store.msgCounter, openedStore, Store.get?_getOrCreateSession]
  split
  · rename_i same
    subst same
    rw [Store.openedSession]
    cases present : node.store.sessions.get? peerId with
    | none => rfl
    | some session =>
        dsimp only
        split
        · rfl
        · rename_i stale
          by_contra changed
          exact kept ⟨session, present, stale, fun zero => changed zero.symm⟩
  · rfl

theorem failedAtomically_opened (known : parseNodeId recipientId = some peerPub)
    (kept : ¬ ResetsCounter node recipientId peerPub) (error : String) :
    FailedAtomically node recipientId
      (.fail { node with store := openedStore node recipientId peerPub } error) :=
  ⟨messages_openedStore .., msgCounter_openedStore kept, rfl, ⟨rfl, rfl⟩,
    fun _ _ _ _ => sendDm_reopened known⟩

theorem get?_openedStore : (openedStore node recipientId peerPub).sessions.get? recipientId =
    some (sessionOf node.identity node.store recipientId peerPub) := by
  rw [openedStore, Store.get?_getOrCreateSession, if_pos rfl]
  rfl

theorem kept_of_failedAtomically {outcome : SendOutcome crates}
    (row : outcome.node.store.sessions.get? recipientId =
      some (sessionOf node.identity node.store recipientId peerPub))
    (atomic : FailedAtomically node recipientId outcome) :
    ¬ ResetsCounter node recipientId peerPub := by
  intro resets
  rcases resets with ⟨session, present, stale, positive⟩
  have same := atomic.counter_eq recipientId
  rw [Store.msgCounter, Store.msgCounter, row, present, sessionOf, Store.openedSession,
    present] at same
  dsimp only at same
  rw [if_neg stale] at same
  exact positive same.symm

theorem conflicts_dmRow_iff {packet : ClampPacket}
    (built : DmBuilt node env recipientId plaintext replyToId replyToText peerPub packet) :
    node.store.messages.Conflicts (dmRow node.identity env recipientId
      (sendCounter node recipientId peerPub) packet) ↔ RowTaken node env recipientId peerPub := by
  rw [Messages.Conflicts, RowTaken, dmRow, (sealed_of_buildPacket built).packetId_eq]

theorem messages_savedStore_iff {packet : ClampPacket}
    (built : DmBuilt node env recipientId plaintext replyToId replyToText peerPub packet) :
    (savedStore node env recipientId peerPub packet).messages = node.store.messages ↔
      RowTaken node env recipientId peerPub := by
  rw [← conflicts_dmRow_iff built, savedStore, Store.saveMessage, messages_openedStore,
    Messages.insertOrIgnore]
  split
  · rename_i taken
    exact iff_of_true rfl taken
  · rename_i free
    apply iff_of_false ?_ free
    intro same
    have longer := congrArg (fun table : Messages => table.rows.length) same
    simp at longer

theorem savedStore_of_taken {packet : ClampPacket}
    (built : DmBuilt node env recipientId plaintext replyToId replyToText peerPub packet)
    (taken : RowTaken node env recipientId peerPub) :
    savedStore node env recipientId peerPub packet = openedStore node recipientId peerPub := by
  have same : (savedStore node env recipientId peerPub packet).messages =
      (openedStore node recipientId peerPub).messages := by
    rw [(messages_savedStore_iff built).mpr taken, messages_openedStore]
  calc
    savedStore node env recipientId peerPub packet =
        { openedStore node recipientId peerPub with
          messages := (savedStore node env recipientId peerPub packet).messages } := rfl
    _ = openedStore node recipientId peerPub := by rw [same]

theorem atomic_opened_iff (known : parseNodeId recipientId = some peerPub) (error : String) :
    FailedAtomically node recipientId
        (.fail { node with store := openedStore node recipientId peerPub } error) ↔
      ¬ ResetsCounter node recipientId peerPub := by
  constructor
  · exact kept_of_failedAtomically get?_openedStore
  · intro kept
    exact failedAtomically_opened known kept error

theorem atomic_uncounted_iff (known : parseNodeId recipientId = some peerPub)
    {packet : ClampPacket}
    (built : DmBuilt node env recipientId plaintext replyToId replyToText peerPub packet)
    (error : String) :
    FailedAtomically node recipientId
        (.fail { node with store := savedStore node env recipientId peerPub packet } error) ↔
      ¬ ResetsCounter node recipientId peerPub ∧ RowTaken node env recipientId peerPub := by
  constructor
  · intro failed
    exact ⟨kept_of_failedAtomically get?_openedStore failed,
      (messages_savedStore_iff built).mp failed.messages_eq⟩
  · intro clean
    rw [savedStore_of_taken built clean.2]
    exact failedAtomically_opened known clean.1 error

theorem not_failedAtomically_counted {packet : ClampPacket} (error : String)
    (opens : OpensSession env recipientId plaintext peerPub)
    (built : DmBuilt node env recipientId plaintext replyToId replyToText peerPub packet) :
    ¬ FailedAtomically node recipientId (.fail { node with
      store := (savedStore node env recipientId peerPub packet).incrementMsgCounter
        recipientId } error) := by
  intro atomic
  have sent : (sendDm node { env with faults := SendFaults.none } recipientId plaintext replyToId
      replyToText).sent = some packet :=
    sendDm_of_built opens.notBlank opens.short opens.known rfl built
  rcases atomic.retry { env with faults := SendFaults.none } plaintext replyToId replyToText with
    ⟨-, same, -, nodes⟩
  rcases sendDm_sent sent with ⟨first, firstFacts⟩
  rcases sendDm_sent (same.trans sent) with ⟨again, againFacts⟩
  have firstKey := firstFacts.known
  have againKey := againFacts.known
  rw [opens.known] at firstKey againKey
  cases firstKey
  cases againKey
  rw [firstFacts.node_eq, againFacts.node_eq] at nodes
  have counted : sendCounter { node with store :=
      (savedStore node env recipientId peerPub packet).incrementMsgCounter recipientId }
      recipientId peerPub = sendCounter node recipientId peerPub + 1 :=
    @sendCounter_sentDmNode _ node env recipientId peerPub packet
  rcases nodes with equal | ⟨-, equal⟩
  · have counters := congrArg (fun node => sendCounter node recipientId peerPub) equal
    rw [sendCounter_sentDmNode, sendCounter_sentDmNode] at counters
    have impossible : sendCounter node recipientId peerPub + 1 =
        sendCounter node recipientId peerPub + 1 + 1 :=
      counters.symm.trans (congrArg (· + 1) counted)
    omega
  · have counters := congrArg (fun node => sendCounter node recipientId peerPub) equal
    rw [sendCounter_sentDmNode] at counters
    omega

end Stages

/-- `send_dm` fails atomically exactly where it fails cleanly. -/
theorem failed_send_atomic_iff (node : AppState crates) (env : SendEnv)
    (recipientId plaintext : String) (replyToId replyToText : Option String) :
    (∀ error, (sendDm node env recipientId plaintext replyToId replyToText).result = .error error →
        FailedAtomically node recipientId
          (sendDm node env recipientId plaintext replyToId replyToText)) ↔
      ∀ peerPub, OpensSession env recipientId plaintext peerPub →
        FailsCleanly node env recipientId plaintext replyToId replyToText peerPub := by
  by_cases refused : ∀ peerPub, ¬ OpensSession env recipientId plaintext peerPub
  · rcases sendDm_refused refused with ⟨error, fails⟩
    rw [fails, forall_error_fail]
    exact iff_of_true (failedAtomically_refused error)
      fun peerPub opens => absurd opens (refused peerPub)
  rw [not_forall_not] at refused
  rcases refused with ⟨peerPub, opens⟩
  have only : (∀ peerPub, OpensSession env recipientId plaintext peerPub →
      FailsCleanly node env recipientId plaintext replyToId replyToText peerPub) ↔
        FailsCleanly node env recipientId plaintext replyToId replyToText peerPub := by
    constructor
    · intro each
      exact each peerPub opens
    · intro clean other held
      have named := held.known
      rw [opens.known] at named
      cases named
      exact clean
  rw [only, FailsCleanly]
  by_cases saves : SavesMessage node env recipientId plaintext replyToId replyToText peerPub
  · rcases saves.1 with ⟨packet, built⟩
    cases update : env.faults.update with
    | some fault =>
        have late : ¬ some fault = none := Option.some_ne_none fault
        rw [sendDm_uncounted opens built saves.2 update, forall_error_fail,
          atomic_uncounted_iff opens.known built]
        constructor
        · intro clean
          exact ⟨fun _ none => absurd none late, fun _ => clean.1, fun _ _ => clean.2⟩
        · intro clean
          exact ⟨clean.2.1 fun held => late held.2, clean.2.2 saves late⟩
    | none =>
        cases select : env.faults.select with
        | some fault =>
            rw [sendDm_counted opens built saves.2 update select, forall_error_fail]
            apply iff_of_false (not_failedAtomically_counted fault opens built)
            · intro clean
              exact Option.some_ne_none fault (clean.1 saves rfl)
        | none =>
            apply iff_of_true
            · intro error failed
              have noFault := SendFaults.eq_none opens.session saves.2 update select
              have sent := sendDm_of_built opens.notBlank opens.short opens.known noFault built
              rcases sendDm_sent sent with ⟨_, facts⟩
              rw [facts.result_eq] at failed
              cases failed
            · exact ⟨fun _ _ => rfl, fun held => absurd ⟨saves, rfl⟩ held,
                fun _ held => absurd rfl held⟩
  · rcases sendDm_unsaved opens saves with ⟨error, fails⟩
    rw [fails, forall_error_fail, atomic_opened_iff opens.known]
    constructor
    · intro kept
      exact ⟨fun held => absurd held saves, fun _ => kept, fun held => absurd held saves⟩
    · intro clean
      exact clean.2.1 fun held => saves held.1

namespace Sample

/-- The sample send, with a disk that fails at the `UPDATE` of the counter. -/
def brokenEnv : SendEnv :=
  { env with faults := { SendFaults.none with update := some "database or disk is full" } }

theorem halo_opensSession : OpensSession brokenEnv bob.identity.nodeIdHex "halo"
    bob.identity.myNodeId where
  notBlank := by decide
  short := by decide
  known := bob_spelled
  session := rfl

theorem broken_built : DmBuilt alice brokenEnv bob.identity.nodeIdHex "halo" none none
    bob.identity.myNodeId haloPacket := by
  rcases sendDm_sent sendDm_halo with ⟨peerPub, facts⟩
  have named := facts.known
  rw [bob_spelled] at named
  cases named
  exact facts.built

end Sample

/-- The send reports an error although its row is saved; a retry would save a second one. -/
theorem failed_send_saved_row :
    (sendDm Sample.alice Sample.brokenEnv Sample.bob.identity.nodeIdHex "halo" none none).result =
        .error "database or disk is full" ∧
      ¬ FailedAtomically Sample.alice Sample.bob.identity.nodeIdHex
        (sendDm Sample.alice Sample.brokenEnv Sample.bob.identity.nodeIdHex "halo" none none) := by
  rw [sendDm_uncounted Sample.halo_opensSession Sample.broken_built rfl rfl]
  refine ⟨rfl, fun atomic => ?_⟩
  have taken := (messages_savedStore_iff Sample.broken_built).mp atomic.messages_eq
  exact taken.elim List.not_mem_nil List.not_mem_nil

end Caraka
