import Caraka.Registration
import Caraka.Sample

/-! What still happens to the packets of a peer that is distrusted or over its rate. -/

namespace Caraka

open Foundation

variable {crates : Crates}

/-- Processing without an event, a write to the database or a frame: only trust scores and token
buckets may be different. -/
def Inert (node : AppState crates) (outcome : AppState crates × List Event) : Prop :=
  ∃ trustScores rateLimiters,
    outcome = ({ node with router := { node.router with trustScores, rateLimiters } }, [])

/-- Packets that change nothing else whoever sends them, but for those that go through the router,
which looks at the sender first. -/
def Harmless (node : AppState crates) (packet : ClampPacket) (senderKey : String) : Prop :=
  match packet.header.packetType with
  | .dm | .channel | .file => True
  | .hello => False
  | .broadcast => packet.header.packetId ∈ node.router.packetCache.recent
  | .syncReq => ∀ channel, node.peerSenders.get? senderKey = some channel → ¬ channel.Takes
  | .syncResp => ∀ payload, crates.valueFromSlice packet.ciphertext = some payload →
      ∀ id ∈ ((payload.member "fingerprints").asArray.getD []).filterMap Json.Value.asStr,
        id ∈ node.store.getAllMessageIds
  | .syncData => ∀ message, crates.messageFromSlice packet.ciphertext = some message →
      node.store.messages.Conflicts message

section Branches

variable (node : AppState crates)

end Branches

namespace Sample

def waryRouter : Router := (Router.new (key 2)).updateTrust (key 1) (-2)

def wary (crates : Crates) : AppState crates :=
  { node crates 2 [] with
    router := waryRouter
    peerSenders := AssocMap.empty.insert (nodeId 3) Channel.new }

def spamPayload : BroadcastPayload := ⟨nodeId 1, "User", "spam", 1000, "1"⟩

def spam : ClampPacket := ClampPacket.buildBroadcast (key 1) spamPayload (octets 4 1)

def spamCrates : Crates :=
  { haloCrates with
    broadcastFromSlice := fun bytes => if bytes = spam.ciphertext then some spamPayload else none }

end Sample

end Caraka
