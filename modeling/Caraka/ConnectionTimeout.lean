import Caraka.PeerStatus
import Caraka.Foundation.Transition

/-! Whether each peer that `initiateConnection` is waiting for has a timeout of its own. -/

namespace Caraka

open Foundation

namespace PeersState

variable {rejects : String → Bool} {state : PeersState}

/-- `initiateConnection` gets past its guards. -/
def Initiates (state : PeersState) (peerId : String) : Prop :=
  ∃ status ∈ state.status peerId, status ≠ .connecting ∧ status ≠ .connected

instance (state : PeersState) (peerId : String) : Decidable (state.Initiates peerId) :=
  inferInstanceAs (Decidable (∃ status ∈ state.status peerId, _))

def HasWayOut (rejects : String → Bool) (state : PeersState) (peerId : String) : Prop :=
  ∃ handle, state.timers.pending.get? handle = some ⟨peerId, 7000⟩ ∧
    (state.step rejects (.timeout handle)).status peerId = some .failed

/-- The one timeout that can be pending is the active one. It is one of 7 seconds, for a peer whose
entry in the list can be looked up. -/
structure OneTimeout (rejects : String → Bool) (state : PeersState) : Prop where
  sole : state.timers.Sole state.activeConnTimeout
  delays : ∀ handle timer, state.timers.pending.get? handle = some timer → timer.delay = 7000
  lookups : ∀ handle timer, state.timers.pending.get? handle = some timer →
    rejects (peerItemSelector timer.peerId) = false

theorem status_setStatus (state : PeersState) (peerId other : String) (status : PeerStatus) :
    (state.setStatus peerId status).status other =
      if other = peerId then (state.status other).map fun _ => status else state.status other := by
  rw [PeersState.status, setStatus, AssocMap.get?_modify]
  split
  · rw [PeersState.status, Option.map_map, Option.map_map]
    rfl
  · rfl

theorem status_setStatus_ne {peerId other : String} (distinct : other ≠ peerId)
    (status : PeerStatus) :
    (state.setStatus peerId status).status other = state.status other := by
  rw [status_setStatus, if_neg distinct]

theorem status_setStatus_self {peerId : String} {status : PeerStatus} {found : PeerStatus}
    (known : state.status peerId = some found) :
    (state.setStatus peerId status).status peerId = some status := by
  rw [status_setStatus, if_pos rfl, known]
  rfl

theorem status_setStatus_settled {peerId : String} {status : PeerStatus}
    (settled : status ≠ .connecting) :
    (state.setStatus peerId status).status peerId ≠ some .connecting := by
  rw [status_setStatus, if_pos rfl]
  intro same
  rcases Option.map_eq_some_iff.mp same with ⟨-, -, same⟩
  exact settled same

theorem left_setPeerStatus (state : PeersState) (peerId : String) (status : PeerStatus) :
    left (setPeerStatus rejects state peerId status) = state.setStatus peerId status := by
  rw [setPeerStatus]
  cases absent : state.peers.get? peerId with
  | none =>
      have same : state.peers.modify peerId (fun peer => { peer with status }) = state.peers :=
        AssocMap.modify_eq_self fun peer found => by cases absent.symm.trans found
      rw [setStatus, same]
      rfl
  | some peer =>
      dsimp only
      split <;> rfl

theorem initiateConnection_through {peerId : String} (initiates : state.Initiates peerId)
    (found : rejects (peerItemSelector peerId) = false) :
    ∃ calls, state.step rejects (.initiateConnection peerId) =
      { state.setStatus peerId .connecting with
        activeConnTimeout := some (state.timers.clearSlot state.activeConnTimeout).next
        timers := (state.timers.clearSlot state.activeConnTimeout).set ⟨peerId, 7000⟩
        calls } := by
  rcases initiates with ⟨status, known, notConnecting, notConnected⟩
  rcases Option.map_eq_some_iff.mp known with ⟨peer, present, rfl⟩
  refine ⟨state.calls ++ [⟨peerId, peer.ip, peer.port⟩], ?_⟩
  simp only [step, handle, initiateConnection, setPeerStatus, present, found,
    if_neg (not_or.mpr ⟨notConnecting, notConnected⟩)]
  rfl

theorem initiateConnection_thrown {peerId : String} (initiates : state.Initiates peerId)
    (thrown : rejects (peerItemSelector peerId) = true) :
    state.step rejects (.initiateConnection peerId) = state.setStatus peerId .connecting := by
  rcases initiates with ⟨status, known, notConnecting, notConnected⟩
  rcases Option.map_eq_some_iff.mp known with ⟨peer, present, rfl⟩
  simp only [step, handle, initiateConnection, setPeerStatus, present, thrown, if_true,
    if_neg (not_or.mpr ⟨notConnecting, notConnected⟩)]
  rfl

theorem not_initiates {peerId : String} (connecting : state.status peerId = some .connecting) :
    ¬ state.Initiates peerId := by
  intro initiates
  rcases initiates with ⟨status, known, notConnecting, -⟩
  exact notConnecting (Option.some.inj (known.symm.trans connecting))

theorem initiateConnection_refused {peerId : String} (refused : ¬ state.Initiates peerId) :
    state.step rejects (.initiateConnection peerId) = state := by
  rw [step, handle, initiateConnection]
  cases found : state.peers.get? peerId with
  | none => rfl
  | some peer =>
      have busy : peer.status = .connecting ∨ peer.status = .connected := by
        by_contra through
        rw [not_or] at through
        apply refused
        refine ⟨peer.status, ?_, through.1, through.2⟩
        rw [PeersState.status, found]
        rfl
      dsimp only
      rw [if_pos busy]
      rfl

/-- The event clears the active timeout, whichever peer that is for, and reports how the attempt
for `settled`, if any, has ended. -/
inductive Clears (rejects : String → Bool) (state : PeersState) :
    PeerEvent → (settled : Option String) → Prop
  | opened (peerId : String) (initiates : state.Initiates peerId)
      (found : rejects (peerItemSelector peerId) = false) :
      Clears rejects state (.initiateConnection peerId) none
  | connected (nodeId ip : String) (port : UInt16) :
      Clears rejects state (.peerConnected nodeId ip port) (state.eventPeer nodeId (some ip))
  | failed (ip : String) :
      Clears rejects state (.peerConnectFailed ip) (state.eventPeer "" (some ip))

theorem hasWayOut_of_pending {peerId : String} {handle : Nat}
    (pending : state.timers.pending.get? handle = some ⟨peerId, 7000⟩)
    (connecting : state.status peerId = some .connecting) : state.HasWayOut rejects peerId := by
  refine ⟨handle, pending, ?_⟩
  have still : PeersState.status { state with timers := state.timers.clear handle } peerId =
      some .connecting := connecting
  rw [step, PeersState.handle, timeout, pending]
  dsimp only
  rw [if_pos still, left_setPeerStatus]
  exact status_setStatus_self still

theorem hasWayOut_initiateConnection {peerId : String} (one : state.OneTimeout rejects)
    (initiates : state.Initiates peerId) (found : rejects (peerItemSelector peerId) = false) :
    (state.step rejects (.initiateConnection peerId)).HasWayOut rejects peerId := by
  rcases initiateConnection_through initiates found with ⟨calls, through⟩
  rcases initiates with ⟨status, known, -⟩
  rw [through]
  apply hasWayOut_of_pending
  · exact (Timers.restart_eq_some one.sole).mpr ⟨rfl, rfl⟩
  · exact status_setStatus_self known

theorem status_peerConnected_ne {nodeId ip peerId : String} {port : UInt16}
    (other : state.eventPeer nodeId (some ip) ≠ some peerId) :
    (left (peerConnected rejects state nodeId ip port)).status peerId = state.status peerId := by
  rw [peerConnected]
  cases target : state.eventPeer nodeId (some ip) with
  | none => rfl
  | some settled =>
      have distinct : peerId ≠ settled := by
        rintro rfl
        exact other target
      dsimp only
      rw [left_setPeerStatus, status_setStatus_ne distinct]
      split
      · rfl
      · rw [PeersState.status, clearActive, AssocMap.get?_insert_ne _ _ distinct]
        rfl

theorem status_peerConnectFailed_ne {ip peerId : String}
    (other : state.eventPeer "" (some ip) ≠ some peerId) :
    (left (peerConnectFailed rejects state ip)).status peerId = state.status peerId := by
  rw [peerConnectFailed]
  cases target : state.eventPeer "" (some ip) with
  | none => rfl
  | some settled =>
      have distinct : peerId ≠ settled := by
        rintro rfl
        exact other target
      dsimp only
      rw [left_setPeerStatus, status_setStatus_ne distinct]
      rfl

theorem connecting_of_clears {event : PeerEvent} {settled : Option String} {peerId : String}
    (clears : state.Clears rejects event settled)
    (connecting : state.status peerId = some .connecting) (other : settled ≠ some peerId) :
    (state.step rejects event).status peerId = some .connecting := by
  cases clears with
  | opened target initiates found =>
      have distinct : peerId ≠ target := by
        rintro rfl
        exact not_initiates connecting initiates
      rcases initiateConnection_through initiates found with ⟨calls, through⟩
      rw [through]
      exact (status_setStatus_ne distinct _).trans connecting
  | connected nodeId ip port => exact (status_peerConnected_ne other).trans connecting
  | failed ip => exact (status_peerConnectFailed_ne other).trans connecting

theorem not_connecting_of_settled {event : PeerEvent} {settled : Option String} {peerId : String}
    (clears : state.Clears rejects event settled) (own : settled = some peerId) :
    (state.step rejects event).status peerId ≠ some .connecting := by
  cases clears with
  | opened target initiates found => cases own
  | connected nodeId ip port =>
      rw [step, handle, peerConnected, own]
      dsimp only
      rw [left_setPeerStatus]
      exact status_setStatus_settled (by decide)
  | failed ip =>
      rw [step, handle, peerConnectFailed, own]
      dsimp only
      rw [left_setPeerStatus]
      exact status_setStatus_settled (by decide)

theorem timers_peerConnected (nodeId ip : String) (port : UInt16) :
    (left (peerConnected rejects state nodeId ip port)).timers =
        state.timers.clearSlot state.activeConnTimeout ∧
      (left (peerConnected rejects state nodeId ip port)).activeConnTimeout = none := by
  rw [peerConnected]
  cases state.eventPeer nodeId (some ip) with
  | none => exact ⟨rfl, rfl⟩
  | some settled =>
      dsimp only
      rw [left_setPeerStatus]
      split <;> exact ⟨rfl, rfl⟩

theorem timers_peerConnectFailed (ip : String) :
    (left (peerConnectFailed rejects state ip)).timers =
        state.timers.clearSlot state.activeConnTimeout ∧
      (left (peerConnectFailed rejects state ip)).activeConnTimeout = none := by
  rw [peerConnectFailed]
  cases state.eventPeer "" (some ip) with
  | none => exact ⟨rfl, rfl⟩
  | some settled =>
      dsimp only
      rw [left_setPeerStatus]
      exact ⟨rfl, rfl⟩

theorem pending_of_clears {event : PeerEvent} {settled : Option String}
    (one : state.OneTimeout rejects) (clears : state.Clears rejects event settled) {handle : Nat}
    {timer : ConnTimeout}
    (pending : (state.step rejects event).timers.pending.get? handle = some timer) :
    (event = .initiateConnection timer.peerId ∧ state.Initiates timer.peerId ∧
        rejects (peerItemSelector timer.peerId) = false) ∧
      timer.delay = 7000 ∧ (state.step rejects event).activeConnTimeout = some handle := by
  have nothing := Timers.clearSlot_of_sole one.sole handle
  cases clears with
  | opened target initiates found =>
      rcases initiateConnection_through initiates found with ⟨calls, through⟩
      rw [through] at pending ⊢
      rcases (Timers.restart_eq_some one.sole).mp pending with ⟨rfl, rfl⟩
      exact ⟨⟨rfl, initiates, found⟩, rfl, rfl⟩
  | connected nodeId ip port =>
      rw [step, PeersState.handle, (timers_peerConnected nodeId ip port).1, nothing] at pending
      cases pending
  | failed ip =>
      rw [step, PeersState.handle, (timers_peerConnectFailed ip).1, nothing] at pending
      cases pending

theorem timers_setPeerStatus (state : PeersState) (peerId : String) (status : PeerStatus) :
    (left (setPeerStatus rejects state peerId status)).timers = state.timers ∧
      (left (setPeerStatus rejects state peerId status)).activeConnTimeout =
        state.activeConnTimeout := by
  rw [left_setPeerStatus]
  exact ⟨rfl, rfl⟩

theorem timers_foldlM (ip : String) (entries : List (String × PeerInfo)) (state : PeersState) :
    (left (entries.foldlM
        (fun state entry =>
          if entry.2.ip = ip then setPeerStatus rejects state entry.1 .connecting else .ok state)
        state)).timers = state.timers ∧
      (left (entries.foldlM
        (fun state entry =>
          if entry.2.ip = ip then setPeerStatus rejects state entry.1 .connecting else .ok state)
        state)).activeConnTimeout = state.activeConnTimeout := by
  induction entries generalizing state with
  | nil => exact ⟨rfl, rfl⟩
  | cons entry entries ih =>
      rw [List.foldlM_cons]
      split
      · have first := @timers_setPeerStatus rejects state entry.1 .connecting
        cases outcome : setPeerStatus rejects state entry.1 .connecting with
        | error thrown =>
            rw [outcome] at first
            exact first
        | ok next =>
            rw [outcome] at first
            exact ⟨(ih next).1.trans first.1, (ih next).2.trans first.2⟩
      · exact ih state

theorem timers_of_not_clears {event : PeerEvent}
    (spared : ∀ settled, ¬ state.Clears rejects event settled)
    (running : ∀ handle, event ≠ .timeout handle) :
    (state.step rejects event).timers = state.timers ∧
      (state.step rejects event).activeConnTimeout = state.activeConnTimeout := by
  cases event with
  | initiateConnection target =>
      by_cases initiates : state.Initiates target
      · cases lookup : rejects (peerItemSelector target) with
        | false => exact absurd (.opened target initiates lookup) (spared _)
        | true =>
            rw [initiateConnection_thrown initiates lookup]
            exact ⟨rfl, rfl⟩
      · rw [initiateConnection_refused initiates]
        exact ⟨rfl, rfl⟩
  | timeout handle => exact absurd rfl (running handle)
  | answered call rejected =>
      rw [step, handle, answered]
      split
      · cases rejected with
        | false => exact ⟨rfl, rfl⟩
        | true => exact timers_setPeerStatus _ call.peerId .failed
      · exact ⟨rfl, rfl⟩
  | peersLoaded rows => exact ⟨rfl, rfl⟩
  | peerDiscovered nodeId ip port => exact ⟨rfl, rfl⟩
  | peerConnecting ip nodeId =>
      rw [step, handle, peerConnecting]
      split
      · exact timers_setPeerStatus state nodeId .connecting
      · exact timers_foldlM ip state.peers.entries state
  | peerHandshaked nodeId ip port => exact ⟨rfl, rfl⟩
  | peerConnected nodeId ip port => exact absurd (.connected nodeId ip port) (spared _)
  | peerConnectFailed ip => exact absurd (.failed ip) (spared _)
  | peerDisconnected nodeId ip =>
      rw [step, handle, peerDisconnected]
      split
      · exact ⟨rfl, rfl⟩
      · exact timers_setPeerStatus state _ .disconnected

theorem timers_timeout (handle : Nat) :
    ((state.step rejects (.timeout handle)).timers = state.timers ∨
        (state.step rejects (.timeout handle)).timers = state.timers.clear handle) ∧
      (state.step rejects (.timeout handle)).activeConnTimeout = state.activeConnTimeout := by
  rw [step, PeersState.handle, timeout]
  cases state.timers.pending.get? handle with
  | none => exact ⟨Or.inl rfl, rfl⟩
  | some timer =>
      dsimp only
      split
      · rw [left_setPeerStatus]
        exact ⟨Or.inr rfl, rfl⟩
      · exact ⟨Or.inr rfl, rfl⟩

theorem oneTimeout_start : start.OneTimeout rejects where
  sole := Timers.sole_empty
  delays := by
    intro handle timer found
    cases found
  lookups := by
    intro handle timer found
    cases found

theorem oneTimeout_step (one : state.OneTimeout rejects) (event : PeerEvent) :
    (state.step rejects event).OneTimeout rejects := by
  by_cases clears : ∃ settled, state.Clears rejects event settled
  · rcases clears with ⟨settled, clears⟩
    constructor
    · intro handle timer pending
      exact (pending_of_clears one clears pending).2.2
    · intro handle timer pending
      exact (pending_of_clears one clears pending).2.1
    · intro handle timer pending
      exact (pending_of_clears one clears pending).1.2.2
  -- The timers are those before, or all but one of them.
  suffices kept : (state.step rejects event).activeConnTimeout = state.activeConnTimeout ∧
      ∀ handle timer, (state.step rejects event).timers.pending.get? handle = some timer →
        state.timers.pending.get? handle = some timer by
    constructor
    · intro handle timer pending
      rw [kept.1]
      exact one.sole handle timer (kept.2 handle timer pending)
    · intro handle timer pending
      exact one.delays handle timer (kept.2 handle timer pending)
    · intro handle timer pending
      exact one.lookups handle timer (kept.2 handle timer pending)
  by_cases expiry : ∃ handle, event = .timeout handle
  · rcases expiry with ⟨handle, rfl⟩
    rcases @timers_timeout rejects state handle with ⟨same | cleared, active⟩
    · exact ⟨active, fun other timer pending => same ▸ pending⟩
    · refine ⟨active, fun other timer pending => ?_⟩
      rw [cleared, Timers.clear, AssocMap.get?_erase] at pending
      split at pending
      · cases pending
      · exact pending
  · rcases timers_of_not_clears (not_exists.mp clears) (not_exists.mp expiry) with ⟨same, active⟩
    exact ⟨active, fun other timer pending => same ▸ pending⟩

def Stranded (state : PeersState) (peerId : String) : Prop :=
  state.status peerId = some .connecting ∧
    ∀ handle timer, state.timers.pending.get? handle = some timer → timer.peerId ≠ peerId

theorem stranded_initiateConnection {peerId : String} (one : state.OneTimeout rejects)
    (stranded : state.Stranded peerId) (opened : String) :
    (state.step rejects (.initiateConnection opened)).Stranded peerId := by
  by_cases initiates : state.Initiates opened
  · have distinct : opened ≠ peerId := by
      rintro rfl
      exact not_initiates stranded.1 initiates
    cases lookup : rejects (peerItemSelector opened) with
    | false =>
        rcases initiateConnection_through initiates lookup with ⟨calls, through⟩
        rw [through]
        constructor
        · exact (status_setStatus_ne distinct.symm _).trans stranded.1
        · intro handle timer pending
          rcases (Timers.restart_eq_some one.sole).mp pending with ⟨-, rfl⟩
          exact distinct
    | true =>
        rw [initiateConnection_thrown initiates lookup]
        exact ⟨(status_setStatus_ne distinct.symm _).trans stranded.1, stranded.2⟩
  · rw [initiateConnection_refused initiates]
    exact stranded

theorem stranded_timeout {peerId : String} (stranded : state.Stranded peerId) (handle : Nat) :
    (state.step rejects (.timeout handle)).Stranded peerId := by
  constructor
  · rw [step, PeersState.handle, timeout]
    cases found : state.timers.pending.get? handle with
    | none => exact stranded.1
    | some timer =>
        dsimp only
        split
        · rw [left_setPeerStatus]
          exact (status_setStatus_ne (stranded.2 handle timer found).symm _).trans stranded.1
        · exact stranded.1
  · intro other timer pending
    rcases (@timers_timeout rejects state handle).1 with same | cleared
    · rw [same] at pending
      exact stranded.2 other timer pending
    · rw [cleared, Timers.clear, AssocMap.get?_erase] at pending
      split at pending
      · cases pending
      · exact stranded.2 other timer pending

/-- Neither the user nor any timer gets a stranded peer out of connecting. -/
theorem stranded_run {peerId : String} {events : List PeerEvent}
    (withoutAnswer : ∀ event ∈ events, (∃ opened, event = .initiateConnection opened) ∨
      ∃ handle, event = .timeout handle)
    (one : state.OneTimeout rejects) (stranded : state.Stranded peerId) :
    (run (step rejects) state events).Stranded peerId := by
  induction events generalizing state with
  | nil => exact stranded
  | cons event events ih =>
      rw [run_cons]
      apply ih (fun later member => withoutAnswer later (List.mem_cons_of_mem _ member))
      · exact oneTimeout_step one event
      · rcases withoutAnswer event List.mem_cons_self with ⟨opened, rfl⟩ | ⟨handle, rfl⟩
        · exact stranded_initiateConnection one stranded opened
        · exact stranded_timeout stranded handle

end PeersState

/-- The window together with the peers that `initiateConnection` moved to connecting and that are
connecting since. -/
structure PeersWatch where
  state : PeersState
  waiting : List String

namespace PeersWatch

def start : PeersWatch := ⟨.start, []⟩

/-- The peer that an event makes `initiateConnection` move to connecting. -/
def opened (watch : PeersWatch) : PeerEvent → List String
  | .initiateConnection peerId => if watch.state.Initiates peerId then [peerId] else []
  | _ => []

def step (rejects : String → Bool) (watch : PeersWatch) (event : PeerEvent) : PeersWatch where
  state := watch.state.step rejects event
  waiting := (watch.opened event ++ watch.waiting).filter fun peerId =>
    (watch.state.step rejects event).status peerId = some .connecting

/-- Every peer in waiting has a way out of its own. -/
def EachHasWayOut (rejects : String → Bool) (watch : PeersWatch) : Prop :=
  ∀ peerId ∈ watch.waiting, watch.state.HasWayOut rejects peerId

/-- An event that clears the timeout finds no peer in waiting but the one it reports on, and a
connection is opened only to a peer whose entry in the list can be looked up. -/
structure Spares (rejects : String → Bool) (watch : PeersWatch) (event : PeerEvent) : Prop where
  settled : ∀ settled, watch.state.Clears rejects event settled →
    ∀ peerId ∈ watch.waiting, settled = some peerId
  lookup : ∀ peerId, event = .initiateConnection peerId → watch.state.Initiates peerId →
    rejects (peerItemSelector peerId) = false

structure Coherent (rejects : String → Bool) (watch : PeersWatch) : Prop where
  one : watch.state.OneTimeout rejects
  connecting : ∀ peerId ∈ watch.waiting, watch.state.status peerId = some .connecting

variable {rejects : String → Bool} {watch : PeersWatch}

theorem mem_step {event : PeerEvent} {peerId : String} :
    peerId ∈ (watch.step rejects event).waiting ↔
      (peerId ∈ watch.opened event ∨ peerId ∈ watch.waiting) ∧
        (watch.state.step rejects event).status peerId = some .connecting := by
  rw [step, List.mem_filter, List.mem_append, decide_eq_true_eq]

theorem mem_opened {event : PeerEvent} {peerId : String} (member : peerId ∈ watch.opened event) :
    event = .initiateConnection peerId ∧ watch.state.Initiates peerId := by
  cases event with
  | initiateConnection target =>
      rw [opened] at member
      split at member
      · rename_i initiates
        rcases List.mem_singleton.mp member with rfl
        exact ⟨rfl, initiates⟩
      · cases member
  | timeout _ | answered _ _ | peersLoaded _ | peerDiscovered _ _ _ | peerConnecting _ _
  | peerHandshaked _ _ _ | peerConnected _ _ _ | peerConnectFailed _ | peerDisconnected _ _ =>
      cases member

theorem coherent_start : start.Coherent rejects where
  one := PeersState.oneTimeout_start
  connecting := by
    intro peerId member
    cases member

theorem coherent_step (coherent : watch.Coherent rejects) (event : PeerEvent) :
    (watch.step rejects event).Coherent rejects where
  one := PeersState.oneTimeout_step coherent.one event
  connecting := by
    intro peerId member
    exact (mem_step.mp member).2

theorem hasWayOut_step {event : PeerEvent} {peerId : String} (coherent : watch.Coherent rejects)
    (spared : ∀ settled, ¬ watch.state.Clears rejects event settled)
    (wayOut : watch.state.HasWayOut rejects peerId)
    (still : (watch.state.step rejects event).status peerId = some .connecting) :
    (watch.state.step rejects event).HasWayOut rejects peerId := by
  rcases wayOut with ⟨handle, pending, moves⟩
  by_cases expiry : ∃ other, event = .timeout other
  · rcases expiry with ⟨other, rfl⟩
    have distinct : other ≠ handle := by
      rintro rfl
      have impossible := moves.symm.trans still
      cases impossible
    have idle : watch.state.timers.pending.get? other = none := by
      cases found : watch.state.timers.pending.get? other with
      | none => rfl
      | some timer =>
          have active := coherent.one.sole other timer found
          have active' := coherent.one.sole handle _ pending
          exact absurd (Option.some.inj (active.symm.trans active')) distinct
    have unchanged : watch.state.step rejects (.timeout other) = watch.state := by
      rw [PeersState.step, PeersState.handle, PeersState.timeout, idle]
      rfl
    rw [unchanged]
    exact ⟨handle, pending, moves⟩
  · have timers := (PeersState.timers_of_not_clears spared (not_exists.mp expiry)).1
    apply @PeersState.hasWayOut_of_pending _ _ peerId handle _ still
    rw [timers]
    exact pending

theorem eachHasWayOut_step {event : PeerEvent} (coherent : watch.Coherent rejects)
    (good : watch.EachHasWayOut rejects) (spares : watch.Spares rejects event) :
    (watch.step rejects event).EachHasWayOut rejects := by
  intro peerId member
  rcases mem_step.mp member with ⟨origin, still⟩
  rcases origin with opened | waited
  · rcases mem_opened opened with ⟨rfl, initiates⟩
    have found := spares.lookup peerId rfl initiates
    exact PeersState.hasWayOut_initiateConnection coherent.one initiates found
  · by_cases clears : ∃ settled, watch.state.Clears rejects event settled
    · rcases clears with ⟨settled, clears⟩
      have own := spares.settled settled clears peerId waited
      exact absurd still (PeersState.not_connecting_of_settled clears own)
    · exact hasWayOut_step coherent (not_exists.mp clears) (good peerId waited) still

theorem settled_of_eachHasWayOut {event : PeerEvent} (coherent : watch.Coherent rejects)
    (good : (watch.step rejects event).EachHasWayOut rejects) {settled : Option String}
    (clears : watch.state.Clears rejects event settled) {peerId : String}
    (waited : peerId ∈ watch.waiting) : settled = some peerId := by
  by_contra other
  have connecting := coherent.connecting peerId waited
  have still := PeersState.connecting_of_clears clears connecting other
  rcases good peerId (mem_step.mpr ⟨Or.inr waited, still⟩) with ⟨handle, pending, -⟩
  have initiates := (PeersState.pending_of_clears coherent.one clears pending).1.2.1
  exact PeersState.not_initiates connecting initiates

theorem lookup_of_eachHasWayOut {peerId : String} (coherent : watch.Coherent rejects)
    (good : (watch.step rejects (.initiateConnection peerId)).EachHasWayOut rejects)
    (initiates : watch.state.Initiates peerId) : rejects (peerItemSelector peerId) = false := by
  cases lookup : rejects (peerItemSelector peerId) with
  | false => rfl
  | true =>
      have thrown := PeersState.initiateConnection_thrown initiates lookup
      have opened : peerId ∈ watch.opened (.initiateConnection peerId) := by
        rw [PeersWatch.opened, if_pos initiates]
        exact List.mem_singleton_self _
      rcases initiates with ⟨status, known, -⟩
      have connecting : (watch.state.step rejects (.initiateConnection peerId)).status peerId =
          some .connecting := by
        rw [thrown]
        exact PeersState.status_setStatus_self known
      rcases good peerId (mem_step.mpr ⟨Or.inl opened, connecting⟩) with ⟨handle, pending, -⟩
      rw [step, thrown] at pending
      exact lookup.symm.trans (coherent.one.lookups handle _ pending)

theorem not_eachHasWayOut_step {event : PeerEvent} (coherent : watch.Coherent rejects)
    (taken : ¬ watch.Spares rejects event) : ¬ (watch.step rejects event).EachHasWayOut rejects := by
  intro good
  apply taken
  constructor
  · intro settled clears peerId waited
    exact settled_of_eachHasWayOut coherent good clears waited
  · rintro peerId rfl initiates
    exact lookup_of_eachHasWayOut coherent good initiates

theorem eachHasWayOut_iff (rejects : String → Bool) (events : List PeerEvent) :
    Always (step rejects) (EachHasWayOut rejects) start events ↔
      Along (step rejects) (Spares rejects) start events := by
  have none : start.EachHasWayOut rejects := by
    intro peerId member
    cases member
  exact @always_iff_along _ _ _ (EachHasWayOut rejects) (Coherent rejects) (Spares rejects)
    (fun _ event coherent => coherent_step coherent event)
    (fun _ _ coherent good spares => eachHasWayOut_step coherent good spares)
    (fun _ _ coherent _ taken => not_eachHasWayOut_step coherent taken)
    start events coherent_start none

end PeersWatch

/-- In every state of a run each peer that `initiateConnection` moved to connecting and that is
still connecting has a timeout pending that will move it to failed, exactly when every event of the
run that clears the one timeout finds no such peer but the one it reports on, and no connection is
opened to a peer whose id makes `querySelector` throw. -/
theorem connecting_has_way_out_iff (rejects : String → Bool) (events : List PeerEvent) :
    Always (PeersWatch.step rejects) (PeersWatch.EachHasWayOut rejects) PeersWatch.start events ↔
      Along (PeersWatch.step rejects) (PeersWatch.Spares rejects) PeersWatch.start events :=
  PeersWatch.eachHasWayOut_iff rejects events

/-- Two peers are discovered, and a chat with each is opened within the seven seconds. The first
stays connecting without a timeout, and `initiateConnection` refuses to try it again. So does a
peer whose id has a quotation mark in it, alone. -/
theorem second_attempt_strands_first :
    ∃ rejects : String → Bool,
      rejects = (fun selector => decide (selector = ".peer-item[data-peer-id=\"a\"b\"]")) ∧
      (∃ events, events = [.peerDiscovered "ana" "10.0.0.2" 7771,
          .peerDiscovered "budi" "10.0.0.3" 7771, .initiateConnection "ana",
          .initiateConnection "budi"] ∧
        ¬ Always (PeersWatch.step rejects) (PeersWatch.EachHasWayOut rejects) PeersWatch.start
          events ∧
        "ana" ∈ (run (PeersWatch.step rejects) PeersWatch.start events).waiting ∧
        (run (PeersWatch.step rejects) PeersWatch.start events).state.timers.pending.entries =
          [(2, ⟨"budi", 7000⟩)] ∧
        ¬ (run (PeersWatch.step rejects) PeersWatch.start events).state.Initiates "ana") ∧
      ¬ Always (PeersWatch.step rejects) (PeersWatch.EachHasWayOut rejects) PeersWatch.start
        [.peerDiscovered "a\"b" "10.0.0.2" 7771, .initiateConnection "a\"b"] := by
  refine ⟨_, rfl, ⟨_, rfl, ?_, by decide, by decide, by decide⟩, ?_⟩
  · rw [PeersWatch.eachHasWayOut_iff]
    intro along
    have settled :=
      along.2.2.2.1.settled none (.opened "budi" (by decide) (by decide)) "ana" (by decide)
    cases settled
  · rw [PeersWatch.eachHasWayOut_iff]
    intro along
    have lookup := along.2.1.lookup "a\"b" rfl (by decide)
    revert lookup
    decide

end Caraka
