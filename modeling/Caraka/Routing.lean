import Caraka.Keys
import Caraka.Foundation.AssocMap
import Caraka.Foundation.Duration
import Caraka.Foundation.Lru
import Mathlib.Tactic.NormNum

/-! `routing.rs`: replay cache, trust scores, rate limits and hop MACs. Instants and trust
scores are exact rationals where the code has `Instant` and `f32`; the tokens an elapsed time is
worth are computed in single precision, as in the code. -/

namespace Caraka

open Foundation

def cacheSize : Nat := 512

def trustInitial : ℚ := 2

def trustThreshold : ℚ := 1 / 2

def trustValidDelta : ℚ := 1 / 100

def trustInvalidMacDelta : ℚ := -1 / 2

def trustRateLimitDelta : ℚ := -1

def trustMin : ℚ := 0

def trustMax : ℚ := 5

def rateBurst : Nat := 200

def ratePerSec : Nat := 100

structure TokenBucket where
  tokens : Nat
  lastRefill : ℚ
  tokens_le : tokens ≤ rateBurst

/-- `(elapsed.as_secs_f32() * RATE_PER_SEC as f32) as u32`. -/
def tokensFor (elapsed : ℚ) : Nat :=
  (floorU32 (binary32.round (asSecsF32 elapsed * ratePerSec))).toNat

namespace TokenBucket

def new (now : ℚ) : TokenBucket := ⟨rateBurst, now, Nat.le_refl _⟩

/-- `now.duration_since(self.last_refill)`, zero for an earlier clock reading. -/
def elapsed (bucket : TokenBucket) (now : ℚ) : ℚ := max (now - bucket.lastRefill) 0

def refill (bucket : TokenBucket) (newTokens : Nat) (now : ℚ) : TokenBucket :=
  if newTokens > 0 then
    ⟨min (bucket.tokens + newTokens) rateBurst, now, Nat.min_le_right ..⟩
  else bucket

def take (bucket : TokenBucket) : Bool × TokenBucket :=
  if bucket.tokens > 0 then
    (true, ⟨bucket.tokens - 1, bucket.lastRefill, Nat.le_trans (Nat.sub_le ..) bucket.tokens_le⟩)
  else (false, bucket)

/-- `consume`, for any reckoning of the tokens an elapsed time is worth. -/
def consumeBy (credit : ℚ → Nat) (bucket : TokenBucket) (now : ℚ) : Bool × TokenBucket :=
  (bucket.refill (credit (bucket.elapsed now)) now).take

def consume (bucket : TokenBucket) (now : ℚ) : Bool × TokenBucket := bucket.consumeBy tokensFor now

theorem consumeBy_new (credit : ℚ → Nat) (now : ℚ) : ((new now).consumeBy credit now).1 = true := by
  have full : ((new now).refill (credit ((new now).elapsed now)) now).tokens > 0 := by
    rw [refill]
    split
    · simp [new, rateBurst]
    · simp [new, rateBurst]
  rw [consumeBy, take, if_pos full]

end TokenBucket

inductive DropReason where
  | invalidMagic
  | duplicatePacket
  | invalidHopMac
  | ttlExpired
  | timestampInvalid
  | peerUntrusted
  | rateLimitExceeded
  deriving DecidableEq

inductive RoutingDecision where
  | deliverToApp
  | relay
  | deliverAndRelay
  | drop (reason : DropReason)
  deriving DecidableEq

structure Router where
  packetCache : Lru cacheSize (Octets 8)
  trustScores : AssocMap NodePublicKey ℚ
  rateLimiters : AssocMap NodePublicKey TokenBucket
  channelMacKey : MacKey
  myNodeId : NodePublicKey

namespace Router

def new (myNodeId : NodePublicKey) : Router where
  packetCache := Lru.empty
  trustScores := AssocMap.empty
  rateLimiters := AssocMap.empty
  channelMacKey := Octets.zero 16
  myNodeId

def setChannelKey (router : Router) (key : MacKey) : Router := { router with channelMacKey := key }

def getTrust (router : Router) (peer : NodePublicKey) : ℚ :=
  (router.trustScores.get? peer).getD trustInitial

def updateTrust (router : Router) (peer : NodePublicKey) (delta : ℚ) : Router :=
  { router with
    trustScores := router.trustScores.insert peer
      (min (max (router.getTrust peer + delta) trustMin) trustMax) }

def registerPeer (router : Router) (peer : NodePublicKey) : Router :=
  { router with trustScores := router.trustScores.insert peer (router.getTrust peer) }

/-- `packet_id || hop_counter || node_id[0..4]`. -/
def buildMacInput (packetId : Octets 8) (hopCounter : UInt8) (nodeId : Octets 32) : Bytes :=
  packetId.bytes ++ hopCounter :: nodeId.bytes.take 4

variable (crates : Crates)

def verifyHopMac (router : Router) (packet : ClampPacket) (source : NodePublicKey) : Bool :=
  verifyMac crates router.channelMacKey
    (buildMacInput packet.header.packetId packet.hopAuth.hopCounter source) packet.hopAuth.macTag

def computeRelayMac (router : Router) (packet : ClampPacket) : Octets 16 :=
  computeMac crates router.channelMacKey
    (buildMacInput packet.header.packetId packet.hopAuth.hopCounter router.myNodeId)

def computeOriginMac (router : Router) (packet : ClampPacket) : Octets 16 :=
  computeMac crates router.channelMacKey
    (buildMacInput packet.header.packetId 0 router.myNodeId)

/-- `charge`, for any reckoning of the tokens an elapsed time is worth. -/
def chargeBy (credit : ℚ → Nat) (router : Router) (now : ℚ) (source : NodePublicKey) :
    Bool × Router :=
  let bucket := (router.rateLimiters.get? source).getD (TokenBucket.new now)
  ((bucket.consumeBy credit now).1,
    { router with
      rateLimiters := router.rateLimiters.insert source (bucket.consumeBy credit now).2 })

/-- Step 0 of `handle_incoming`: charge the source's token bucket. -/
def charge (router : Router) (now : ℚ) (source : NodePublicKey) : Bool × Router :=
  router.chargeBy tokensFor now source

def relayed (router : Router) (packet : ClampPacket) : ClampPacket :=
  let packet := { packet with
    header.ttl := packet.header.ttl - 1
    hopAuth.hopCounter := packet.hopAuth.hopCounter + 1 }
  { packet with hopAuth.macTag := router.computeRelayMac crates packet }

/-- Steps 4 and 5 of `handle_incoming`: remember the packet id and reward the source. -/
def accept (router : Router) (packetId : Octets 8) (source : NodePublicKey) : Router :=
  ({ router with packetCache := router.packetCache.put packetId }).updateTrust source
    trustValidDelta

/-- `handle_incoming` from the answer of step 0 on. -/
def afterCharge (charged : Bool × Router) (packet : ClampPacket) (source : NodePublicKey) :
    RoutingDecision × ClampPacket × Router :=
  let (allowed, router) := charged
  if !allowed then
    (.drop .rateLimitExceeded, packet, router.updateTrust source trustRateLimitDelta)
  else if router.getTrust source < trustThreshold then
    (.drop .peerUntrusted, packet, router)
  else if router.packetCache.contains packet.header.packetId then
    (.drop .duplicatePacket, packet, router)
  else if packet.header.packetType ≠ .hello ∧ !router.verifyHopMac crates packet source then
    (.drop .invalidHopMac, packet, router.updateTrust source trustInvalidMacDelta)
  else
    let router := router.accept packet.header.packetId source
    if packet.header.ttl > 0 then
      (.deliverAndRelay, router.relayed crates packet, router)
    else (.deliverToApp, packet, router)

def handleIncoming (router : Router) (now : ℚ) (packet : ClampPacket) (source : NodePublicKey) :
    RoutingDecision × ClampPacket × Router :=
  afterCharge crates (router.charge now source) packet source

def registerOutgoing (router : Router) (packet : ClampPacket) : Router :=
  { router with packetCache := router.packetCache.put packet.header.packetId }

def isDuplicate (router : Router) (packetId : Octets 8) : Bool :=
  router.packetCache.contains packetId

def registerBroadcast (router : Router) (packetId : Octets 8) : Router :=
  { router with packetCache := router.packetCache.put packetId }

theorem charge_frame (router : Router) (now : ℚ) (source : NodePublicKey) :
    (router.charge now source).2.packetCache = router.packetCache ∧
      (router.charge now source).2.channelMacKey = router.channelMacKey ∧
      (router.charge now source).2.myNodeId = router.myNodeId ∧
      (router.charge now source).2.trustScores = router.trustScores :=
  ⟨rfl, rfl, rfl, rfl⟩

theorem accept_frame (router : Router) (packetId : Octets 8) (source : NodePublicKey) :
    (router.accept packetId source).packetCache = router.packetCache.put packetId ∧
      (router.accept packetId source).channelMacKey = router.channelMacKey ∧
      (router.accept packetId source).myNodeId = router.myNodeId ∧
      (router.accept packetId source).rateLimiters = router.rateLimiters :=
  ⟨rfl, rfl, rfl, rfl⟩

theorem charge_of_new {router : Router} {source : NodePublicKey} (now : ℚ)
    (unseen : router.rateLimiters.get? source = none) : (router.charge now source).1 = true := by
  rw [charge, chargeBy, unseen]
  exact TokenBucket.consumeBy_new tokensFor now

theorem trusts_of_new {router : Router} {source : NodePublicKey}
    (unseen : router.trustScores.get? source = none) : trustThreshold ≤ router.getTrust source := by
  rw [getTrust, unseen, Option.getD_none, trustThreshold, trustInitial]
  norm_num

theorem packetCache_frame (router : Router) (cache : Lru cacheSize (Octets 8)) (now : ℚ)
    (source : NodePublicKey) (packet : ClampPacket) :
    ({ router with packetCache := cache }.charge now source).1 = (router.charge now source).1 ∧
      { router with packetCache := cache }.getTrust source = router.getTrust source ∧
      { router with packetCache := cache }.verifyHopMac crates packet source =
        router.verifyHopMac crates packet source :=
  ⟨rfl, rfl, rfl⟩

theorem handleIncoming_eq (router : Router) (now : ℚ) (packet : ClampPacket)
    (source : NodePublicKey) :
    router.handleIncoming crates now packet source =
      if (router.charge now source).1 = false then
        (.drop .rateLimitExceeded, packet,
          (router.charge now source).2.updateTrust source trustRateLimitDelta)
      else if router.getTrust source < trustThreshold then
        (.drop .peerUntrusted, packet, (router.charge now source).2)
      else if packet.header.packetId ∈ router.packetCache.recent then
        (.drop .duplicatePacket, packet, (router.charge now source).2)
      else if packet.header.packetType ≠ .hello ∧
          router.verifyHopMac crates packet source = false then
        (.drop .invalidHopMac, packet,
          (router.charge now source).2.updateTrust source trustInvalidMacDelta)
      else if packet.header.ttl > 0 then
        (.deliverAndRelay, router.relayed crates packet,
          (router.charge now source).2.accept packet.header.packetId source)
      else
        (.deliverToApp, packet,
          (router.charge now source).2.accept packet.header.packetId source) := by
  have sameTrust : (router.charge now source).2.getTrust source = router.getTrust source := rfl
  have sameMac : (router.charge now source).2.verifyHopMac crates packet source =
      router.verifyHopMac crates packet source := rfl
  have sameCache : (router.charge now source).2.packetCache = router.packetCache := rfl
  rw [handleIncoming, afterCharge]
  dsimp only
  simp only [Bool.not_eq_true', sameTrust, sameMac, sameCache, Lru.contains_eq_true]
  rfl

theorem handleIncoming_valid (router : Router) (now : ℚ) (packet : ClampPacket)
    (source : NodePublicKey) (valid : router.verifyHopMac crates packet source = true) :
    (∃ reason router', router.handleIncoming crates now packet source =
        (.drop reason, packet, router') ∧
      (reason = .rateLimitExceeded ∨ reason = .peerUntrusted ∨ reason = .duplicatePacket)) ∨
    ∃ router', router.handleIncoming crates now packet source =
      if packet.header.ttl > 0 then (.deliverAndRelay, router.relayed crates packet, router')
      else (.deliverToApp, packet, router') := by
  have genuine : ¬ (packet.header.packetType ≠ .hello ∧
      router.verifyHopMac crates packet source = false) := by simp [valid]
  rw [handleIncoming_eq, if_neg genuine]
  by_cases limited : (router.charge now source).1 = false
  · rw [if_pos limited]
    exact .inl ⟨_, _, rfl, .inl rfl⟩
  by_cases distrusted : router.getTrust source < trustThreshold
  · rw [if_neg limited, if_pos distrusted]
    exact .inl ⟨_, _, rfl, .inr (.inl rfl)⟩
  by_cases known : packet.header.packetId ∈ router.packetCache.recent
  · rw [if_neg limited, if_neg distrusted, if_pos known]
    exact .inl ⟨_, _, rfl, .inr (.inr rfl)⟩
  · rw [if_neg limited, if_neg distrusted, if_neg known]
    exact .inr ⟨_, rfl⟩

theorem handleIncoming_cases (router : Router) (now : ℚ) (packet : ClampPacket)
    (source : NodePublicKey) :
    (∃ reason router', router.handleIncoming crates now packet source =
        (.drop reason, packet, router') ∧ router'.packetCache = router.packetCache) ∨
      (packet.header.packetId ∉ router.packetCache.recent ∧
        ∃ router', router'.packetCache = router.packetCache.put packet.header.packetId ∧
          router.handleIncoming crates now packet source =
            if packet.header.ttl > 0 then (.deliverAndRelay, router.relayed crates packet, router')
            else (.deliverToApp, packet, router')) := by
  rw [handleIncoming_eq]
  by_cases limited : (router.charge now source).1 = false
  · rw [if_pos limited]
    exact .inl ⟨_, _, rfl, rfl⟩
  by_cases distrusted : router.getTrust source < trustThreshold
  · rw [if_neg limited, if_pos distrusted]
    exact .inl ⟨_, _, rfl, rfl⟩
  by_cases known : packet.header.packetId ∈ router.packetCache.recent
  · rw [if_neg limited, if_neg distrusted, if_pos known]
    exact .inl ⟨_, _, rfl, rfl⟩
  by_cases forged : packet.header.packetType ≠ .hello ∧
      router.verifyHopMac crates packet source = false
  · rw [if_neg limited, if_neg distrusted, if_neg known, if_pos forged]
    exact .inl ⟨_, _, rfl, rfl⟩
  · rw [if_neg limited, if_neg distrusted, if_neg known, if_neg forged]
    exact .inr ⟨known, _, rfl, rfl⟩

theorem handleIncoming_accepts (router : Router) (now : ℚ) (packet : ClampPacket)
    (source : NodePublicKey) (allowed : (router.charge now source).1 = true)
    (trusted : trustThreshold ≤ router.getTrust source)
    (unseen : packet.header.packetId ∉ router.packetCache.recent)
    (genuine : router.verifyHopMac crates packet source = true) (live : packet.header.ttl > 0) :
    router.handleIncoming crates now packet source =
      (.deliverAndRelay, router.relayed crates packet,
        (router.charge now source).2.accept packet.header.packetId source) := by
  have permitted : ¬ (router.charge now source).1 = false := by simp [allowed]
  have valid : ¬ (packet.header.packetType ≠ .hello ∧
      router.verifyHopMac crates packet source = false) := by simp [genuine]
  rw [handleIncoming_eq, if_neg permitted, if_neg (not_lt.mpr trusted), if_neg unseen,
    if_neg valid, if_pos live]

end Router

end Caraka
