import Caraka.Foundation.Timers

/-! `main.js`: the connection status of each peer in the window, and the timeout of a connection
that is being made.

A handler answers the state it leaves behind: `.ok` where it returns and `.error` where an
exception leaves it. `rejects` tells for which selectors `document.querySelector` throws. -/

namespace Caraka

open Foundation

inductive PeerStatus where
  | discovered
  | connecting
  | connected
  | failed
  | disconnected
  deriving DecidableEq

/-- An entry of `state.peers`. -/
structure PeerInfo where
  ip : String
  port : UInt16
  status : PeerStatus
  deriving DecidableEq

/-- A peer as `get_peers` answers it. -/
structure LoadedPeer where
  nodeId : String
  ip : String
  port : UInt16

/-- A timer set by `initiateConnection`, with its delay in milliseconds. -/
structure ConnTimeout where
  peerId : String
  delay : Nat
  deriving DecidableEq

/-- A call of `add_peer_manual` that has not been answered. -/
structure AddPeerCall where
  peerId : String
  ip : String
  port : UInt16
  deriving DecidableEq

inductive PeerEvent where
  | initiateConnection (peerId : String)
  /-- The timer of a handle expires. -/
  | timeout (handle : Nat)
  | answered (call : AddPeerCall) (rejected : Bool)
  /-- The answer to `get_peers`. -/
  | peersLoaded (rows : List LoadedPeer)
  | peerDiscovered (nodeId ip : String) (port : UInt16)
  | peerConnecting (ip nodeId : String)
  | peerHandshaked (nodeId ip : String) (port : UInt16)
  | peerConnected (nodeId ip : String) (port : UInt16)
  | peerConnectFailed (ip : String)
  | peerDisconnected (nodeId : String) (ip : Option String)

/-- `state.peers` and `state.activeConnTimeout`, with the timers and the calls under way. -/
structure PeersState where
  peers : AssocMap String PeerInfo
  activeConnTimeout : Option Nat
  timers : Timers ConnTimeout
  calls : List AddPeerCall

def peerItemSelector (peerId : String) : String :=
  ".peer-item[data-peer-id=\"" ++ peerId ++ "\"]"

namespace PeersState

def start : PeersState := ⟨.empty, none, .empty, []⟩

def status (state : PeersState) (peerId : String) : Option PeerStatus :=
  (state.peers.get? peerId).map PeerInfo.status

def setStatus (state : PeersState) (peerId : String) (status : PeerStatus) : PeersState :=
  { state with peers := state.peers.modify peerId fun peer => { peer with status } }

def setPeerStatus (rejects : String → Bool) (state : PeersState) (peerId : String)
    (status : PeerStatus) : Except PeersState PeersState :=
  match state.peers.get? peerId with
  | none => .ok state
  | some _ =>
    if rejects (peerItemSelector peerId) then .error (state.setStatus peerId status)
    else .ok (state.setStatus peerId status)

/-- The state a handler leaves behind. -/
def left : Except PeersState PeersState → PeersState
  | .ok state => state
  | .error state => state

def findPeerByIp (state : PeersState) (ip : Option String) : Option String :=
  state.peers.entries.foldl
    (fun found entry => if some entry.2.ip = ip then some entry.1 else found) none

/-- `d.nodeId || findPeerByIp(d.ip)`, where it is truthy. -/
def eventPeer (state : PeersState) (nodeId : String) (ip : Option String) : Option String :=
  if nodeId ≠ "" then some nodeId else (state.findPeerByIp ip).filter (· ≠ "")

def clearActive (state : PeersState) : PeersState :=
  { state with
    timers := state.timers.clearSlot state.activeConnTimeout
    activeConnTimeout := none }

section Handlers

variable (rejects : String → Bool)

def initiateConnection (state : PeersState) (peerId : String) : Except PeersState PeersState :=
  match state.peers.get? peerId with
  | none => .ok state
  | some peer =>
    if peer.status = .connecting ∨ peer.status = .connected then .ok state
    else do
      let state ← setPeerStatus rejects state peerId .connecting
      let timers := state.timers.clearSlot state.activeConnTimeout
      return { state with
        activeConnTimeout := some timers.next
        timers := timers.set ⟨peerId, 7000⟩
        calls := state.calls ++ [⟨peerId, peer.ip, peer.port⟩] }

def timeout (state : PeersState) (handle : Nat) : Except PeersState PeersState :=
  match state.timers.pending.get? handle with
  | none => .ok state
  | some timer =>
    let state := { state with timers := state.timers.clear handle }
    if state.status timer.peerId = some .connecting then
      setPeerStatus rejects state timer.peerId .failed
    else .ok state

/-- The rest of `initiateConnection`, once `add_peer_manual` has been answered. -/
def answered (state : PeersState) (call : AddPeerCall) (rejected : Bool) :
    Except PeersState PeersState :=
  if call ∈ state.calls then
    let state := { state with calls := state.calls.erase call }
    if rejected then setPeerStatus rejects state call.peerId .failed else .ok state
  else .ok state

def peersLoaded (state : PeersState) (rows : List LoadedPeer) : PeersState :=
  { state with
    peers := rows.foldl
      (fun peers row =>
        if row.nodeId = "" then peers
        else peers.insert row.nodeId
          ⟨row.ip, if row.port = 0 then 7771 else row.port, .disconnected⟩)
      state.peers }

def peerDiscovered (state : PeersState) (nodeId ip : String) (port : UInt16) : PeersState :=
  { state with
    peers :=
      match state.peers.get? nodeId with
      | none => state.peers.insert nodeId ⟨ip, port, .discovered⟩
      | some peer => state.peers.insert nodeId { peer with ip, port } }

def peerConnecting (state : PeersState) (ip nodeId : String) : Except PeersState PeersState :=
  if nodeId ≠ "" ∧ (state.peers.get? nodeId).isSome then
    setPeerStatus rejects state nodeId .connecting
  else
    -- An exception of the callback ends `forEach`.
    state.peers.entries.foldlM
      (fun state entry =>
        if entry.2.ip = ip then setPeerStatus rejects state entry.1 .connecting else .ok state)
      state

def peerHandshaked (state : PeersState) (nodeId ip : String) (port : UInt16) : PeersState :=
  { state with
    peers :=
      match state.peers.get? nodeId with
      | none => state.peers.insert nodeId ⟨ip, if port = 0 then 7771 else port, .connected⟩
      | some peer => state.peers.insert nodeId { peer with status := .connected } }

def peerConnected (state : PeersState) (nodeId ip : String) (port : UInt16) :
    Except PeersState PeersState :=
  match state.eventPeer nodeId (some ip) with
  | none => .ok state.clearActive
  | some peerId =>
    let state :=
      if (state.peers.get? peerId).isSome then state
      else
        { state with
          peers := state.peers.insert peerId
            ⟨if ip = "" then "tor" else ip, if port = 0 then 9999 else port, .connected⟩ }
    setPeerStatus rejects state.clearActive peerId .connected

def peerConnectFailed (state : PeersState) (ip : String) : Except PeersState PeersState :=
  match state.eventPeer "" (some ip) with
  | none => .ok state.clearActive
  | some peerId => setPeerStatus rejects state.clearActive peerId .failed

def peerDisconnected (state : PeersState) (nodeId : String) (ip : Option String) :
    Except PeersState PeersState :=
  match state.eventPeer nodeId ip with
  | none => .ok state
  | some peerId => setPeerStatus rejects state peerId .disconnected

def handle (state : PeersState) : PeerEvent → Except PeersState PeersState
  | .initiateConnection peerId => initiateConnection rejects state peerId
  | .timeout handle => timeout rejects state handle
  | .answered call rejected => answered rejects state call rejected
  | .peersLoaded rows => .ok (state.peersLoaded rows)
  | .peerDiscovered nodeId ip port => .ok (state.peerDiscovered nodeId ip port)
  | .peerConnecting ip nodeId => peerConnecting rejects state ip nodeId
  | .peerHandshaked nodeId ip port => .ok (state.peerHandshaked nodeId ip port)
  | .peerConnected nodeId ip port => peerConnected rejects state nodeId ip port
  | .peerConnectFailed ip => peerConnectFailed rejects state ip
  | .peerDisconnected nodeId ip => peerDisconnected rejects state nodeId ip

def step (state : PeersState) (event : PeerEvent) : PeersState := left (handle rejects state event)

end Handlers

end PeersState

end Caraka
