import Caraka.Store
import Caraka.Routing

/-! `state.rs`: the state of an unlocked node, its channels to peers and the events it emits. -/

namespace Caraka

open Foundation

def channelCapacity : Nat := 64

/-- The queue between `mpsc::Sender` and the writer task of a connection. -/
structure Channel where
  queued : List Bytes
  /-- Whether the writer task still holds the receiving end. -/
  receiving : Bool
  length_le : queued.length ≤ channelCapacity
  deriving DecidableEq

namespace Channel

def new : Channel := ⟨[], true, Nat.zero_le _⟩

/-- Whether `try_send` succeeds. -/
def Takes (channel : Channel) : Prop :=
  channel.receiving = true ∧ channel.queued.length < channelCapacity

instance (channel : Channel) : Decidable channel.Takes := inferInstanceAs (Decidable (_ ∧ _))

/-- `try_send`, which leaves the channel as it is where it fails. -/
def trySend (channel : Channel) (data : Bytes) : Channel :=
  if room : channel.Takes then
    ⟨channel.queued ++ [data], channel.receiving, by
      simp only [List.length_append, List.length_singleton]
      exact room.2⟩
  else channel

/-- `recv` on a queue that is not empty. -/
def pop (channel : Channel) : Channel where
  queued := channel.queued.tail
  receiving := channel.receiving
  length_le := by
    rw [List.length_tail]
    exact Nat.le_trans (Nat.sub_le ..) channel.length_le

def close : Channel := ⟨[], false, Nat.zero_le _⟩

theorem queued_trySend (channel : Channel) (data : Bytes) :
    (channel.trySend data).queued =
      if channel.Takes then channel.queued ++ [data] else channel.queued := by
  by_cases room : channel.Takes
  · rw [if_pos room, trySend, dif_pos room]
  · rw [if_neg room, trySend, dif_neg room]

theorem receiving_trySend (channel : Channel) (data : Bytes) :
    (channel.trySend data).receiving = channel.receiving := by
  rw [trySend]
  split <;> rfl

theorem mem_trySend {channel : Channel} {data queued : Bytes}
    (member : queued ∈ (channel.trySend data).queued) :
    queued ∈ channel.queued ∨ queued = data := by
  unfold trySend at member
  split at member
  · simpa using member
  · exact .inl member

end Channel

abbrev PeerSenders := AssocMap String Channel

/-- A display name as `set_display_name` accepts it. -/
abbrev DisplayName := { name : String // (utf8 name).length ≤ 50 }

variable (crates : Crates)

/-- `AppState` of an open vault, with what its locks protect. -/
structure AppState where
  identity : Identity crates
  store : Store
  router : Router
  displayName : DisplayName
  peerSenders : PeerSenders

/-- The payload of `clamp_packet_received`. -/
structure DeliveredPacket where
  packetId : String
  packetType : UInt8
  nonce : String
  ciphertext : String
  aeadTag : String
  hopCounter : UInt8
  deriving DecidableEq

/-- The payload of `file_received`, which is also what `try_decrypt_file_packet` returns. -/
structure FileInfo where
  transferId : String
  senderId : String
  filename : String
  mimeType : String
  fileSize : UInt64
  savedPath : String
  isImage : Bool
  timestamp : UInt64
  deriving DecidableEq

inductive Event where
  | clampPacketReceived (packet : DeliveredPacket)
  | broadcastReceived (payload : BroadcastPayload) (hopCount : UInt8)
  | peerHandshaked (nodeId displayName ip : String) (port : UInt16)
  | syncMissingDetected (missingIds : List String)
  | messageSent (id recipientId text : String) (timestamp : UInt64)
      (replyToId replyToText : Option String)
  | fileSent (transferId recipientId filename mimeType : String) (fileSize timestamp : UInt64)
  | fileReceived (info : FileInfo)
  | broadcastSent (payload : BroadcastPayload)
  deriving DecidableEq

/-- The packet of a `clamp_packet_received`. -/
def Event.clampPacket? : Event → Option DeliveredPacket
  | clampPacketReceived packet => some packet
  | _ => none

theorem Event.clampPacket?_eq_some {event : Event} {packet : DeliveredPacket} :
    event.clampPacket? = some packet ↔ event = .clampPacketReceived packet := by
  cases event <;> simp [clampPacket?]

end Caraka
