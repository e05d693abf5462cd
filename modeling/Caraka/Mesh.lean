import Caraka.Registration
import Caraka.Foundation.Deduplication
import Caraka.Foundation.Network

/-! A network of nodes: the channels of each node, and the links that carry what is written. -/

namespace Caraka

open Foundation

variable {crates : Crates}

/-- A packet on its way, and the connection it comes in on. -/
structure Frame where
  raw : Bytes
  senderKey : String
  kind : ConnKind

/-- Where the channels of each node lead: to a node, over a connection that is known there under
a key of its own. -/
abbrev Links (ι : Type) := ι → String → Option (ι × String × ConnKind)

def writePort {ι : Type} (links : Links ι) (node : ι) (peerSenders : PeerSenders)
    (peerId : String) : Option (PeerSenders × Option (ι × Frame)) :=
  (peerSenders.get? peerId).bind fun channel => channel.writeNext.map fun written =>
    (peerSenders.modify peerId fun _ => written.1,
      written.2.bind fun raw => (links node peerId).map fun link =>
        (link.1, ⟨raw, link.2.1, link.2.2⟩))

inductive NodeAction where
  | command (activity : Activity) (asked : activity.IsCommand)
  | connect (peerId : String)
  | disconnect (peerId : String)

def AppState.act (node : AppState crates) : NodeAction → AppState crates
  | .command activity _ => node.perform activity
  | .connect peerId => { node with peerSenders := node.peerSenders.insert peerId Channel.new }
  | .disconnect peerId => { node with peerSenders := node.peerSenders.erase peerId }

/-- The network of unlocked nodes. -/
def mesh {ι : Type} (crates : Crates) (links : Links ι) :
    Protocol ι (AppState crates) NodeAction String Frame ReceiveEnv where
  act := AppState.act
  write node state peerId := (writePort links node state.peerSenders peerId).map fun written =>
    ({ state with peerSenders := written.1 }, written.2)
  receive state env frame :=
    (processIncomingPacket state env frame.raw frame.senderKey frame.kind).1

abbrev Seen := LocalInput NodeAction String Frame ReceiveEnv

namespace AppState

variable (node : AppState crates)

def registers : Seen → Option (Octets 8)
  | .act (.command activity _) => node.registered activity
  | .receive env frame => node.receivedId env frame.raw frame.senderKey
  | .act (.connect _) | .act (.disconnect _) | .write _ => none

def originates : Seen → Option (Octets 8)
  | .act (.command activity _) => node.registered activity
  | .act (.connect _) | .act (.disconnect _) | .write _ | .receive .. => none

def emits : Seen → Option (Octets 8)
  | .receive env frame =>
    (node.delivers (.receive env frame.raw frame.senderKey frame.kind)).map Content.packetId
  | .act _ | .write _ => none

/-- The packet id of a packet the node hands to `relay_packet`. -/
def forwards : Seen → Option (Octets 8)
  | .receive env frame =>
    (node.relays (.receive env frame.raw frame.senderKey frame.kind)).map fun packet =>
      packet.header.packetId
  | .act _ | .write _ => none

end AppState

section Nodes

variable {ι : Type} (links : Links ι) (node : ι) (state : AppState crates)

theorem packetCache_localStep (seen : Seen) :
    ((mesh crates links).localStep node state seen).router.packetCache =
      state.router.packetCache.putAll (state.registers seen).toList := by
  cases seen with
  | act action =>
      cases action with
      | command activity asked => exact packetCache_perform state activity
      | connect peerId => rfl
      | disconnect peerId => rfl
  | write peerId =>
      simp only [Protocol.localStep, mesh]
      cases writePort links node state.peerSenders peerId with
      | none => rfl
      | some written => rfl
  | receive env frame => exact packetCache_receive state env frame.raw frame.senderKey frame.kind

theorem registers_of_emits (seen : Seen) (packetId : Octets 8)
    (shown : state.emits seen = some packetId ∨ state.forwards seen = some packetId) :
    state.registers seen = some packetId ∧ packetId ∉ state.router.packetCache.recent := by
  cases seen with
  | act action => rcases shown with shown | shown <;> cases shown
  | write peerId => rcases shown with shown | shown <;> cases shown
  | receive env frame =>
      cases read : ClampPacket.decode frame.raw with
      | error e =>
          exfalso
          rcases shown with shown | shown
          · simp [AppState.emits, AppState.delivers, read] at shown
          · simp [AppState.forwards, AppState.relays, read] at shown
      | ok packet =>
          have outcome : Refuses state env frame.raw frame.senderKey frame.kind packet ∨
              Registers state env frame.raw frame.senderKey frame.kind packet :=
            receive_registers read frame.kind
          rcases outcome with refused | registered
          · exfalso
            rcases shown with shown | shown
            · rw [AppState.emits, refused.delivered] at shown
              cases shown
            · rw [AppState.forwards, refused.relayed] at shown
              cases shown
          · have same : packet.header.packetId = packetId := by
              rcases shown with shown | shown
              · rw [AppState.emits, registered.delivered] at shown
                split_ifs at shown
                · cases shown
                · exact Option.some.inj shown
              · rcases Option.map_eq_some_iff.mp shown with ⟨next, relays, id_eq⟩
                rw [← id_eq]
                exact (congrArg Content.packetId (registered.relayed next relays)).symm
            rw [← same]
            exact ⟨registered.registered, registered.unseen⟩

end Nodes

end Caraka
