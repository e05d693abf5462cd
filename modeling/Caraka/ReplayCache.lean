import Caraka.Trust
import Caraka.Foundation.Deduplication

/-! The replay cache over the calls of a router: what changes it, and how far back it reaches. -/

namespace Caraka

open Foundation

namespace Router

def scoreAfterDrop (reason : DropReason) (score : ℚ) : ℚ :=
  match reason with
  | .rateLimitExceeded => min (max (score + trustRateLimitDelta) trustMin) trustMax
  | .invalidHopMac => min (max (score + trustInvalidMacDelta) trustMin) trustMax
  | .invalidMagic | .duplicatePacket | .ttlExpired | .timestampInvalid | .peerUntrusted => score

/-- What a dropped packet leaves behind. -/
structure Dropped (router : Router) (packet : ClampPacket) (source : NodePublicKey)
    (reason : DropReason) (packetAfter : ClampPacket) (after : Router) : Prop where
  packet_eq : packetAfter = packet
  cache_eq : after.packetCache = router.packetCache
  others : ∀ peer, peer ≠ source → SamePeer peer router after
  score_eq : after.getTrust source = scoreAfterDrop reason (router.getTrust source)
  named : reason = .rateLimitExceeded ∨ reason = .peerUntrusted ∨ reason = .duplicatePacket ∨
    reason = .invalidHopMac

/-- The packet id that a call puts into the cache. -/
def puts (crates : Crates) (router : Router) : RouterCall → Option (Octets 8)
  | .handleIncoming now packet source =>
    match (router.handleIncoming crates now packet source).1 with
    | .drop _ => none
    | .deliverToApp | .relay | .deliverAndRelay => some packet.header.packetId
  | .registerOutgoing packet => some packet.header.packetId
  | .registerBroadcast packetId => some packetId
  | .registerPeer _ => none

section Calls

variable {crates : Crates} (router : Router) (now : ℚ) (packet : ClampPacket)
  (source : NodePublicKey)

theorem handleIncoming_drops {reason : DropReason}
    (drops : (router.handleIncoming crates now packet source).1 = .drop reason) :
    router.Dropped packet source reason (router.handleIncoming crates now packet source).2.1
      (router.handleIncoming crates now packet source).2.2 := by
  rw [handleIncoming_eq] at drops ⊢
  have charged : ∀ peer, peer ≠ source → SamePeer peer router (router.charge now source).2 :=
    fun peer distinct => samePeer_charge now distinct
  have punished : ∀ delta peer, peer ≠ source →
      SamePeer peer router ((router.charge now source).2.updateTrust source delta) :=
    fun delta peer distinct => (charged peer distinct).trans (samePeer_updateTrust distinct delta)
  by_cases limited : (router.charge now source).1 = false
  · rw [if_pos limited] at drops ⊢
    cases drops
    exact ⟨rfl, rfl, punished _, getTrust_updateTrust _ source _, .inl rfl⟩
  by_cases distrusted : router.getTrust source < trustThreshold
  · rw [if_neg limited, if_pos distrusted] at drops ⊢
    cases drops
    exact ⟨rfl, rfl, charged, rfl, .inr (.inl rfl)⟩
  by_cases known : packet.header.packetId ∈ router.packetCache.recent
  · rw [if_neg limited, if_neg distrusted, if_pos known] at drops ⊢
    cases drops
    exact ⟨rfl, rfl, charged, rfl, .inr (.inr (.inl rfl))⟩
  by_cases forged : packet.header.packetType ≠ .hello ∧
      router.verifyHopMac crates packet source = false
  · rw [if_neg limited, if_neg distrusted, if_neg known, if_pos forged] at drops ⊢
    cases drops
    exact ⟨rfl, rfl, punished _, getTrust_updateTrust _ source _, .inr (.inr (.inr rfl))⟩
  · rw [if_neg limited, if_neg distrusted, if_neg known, if_neg forged] at drops
    split at drops
    · cases drops
    · cases drops

theorem handleIncoming_keeps
    (keeps : ∀ reason, (router.handleIncoming crates now packet source).1 ≠ .drop reason) :
    packet.header.packetId ∉ router.packetCache.recent ∧
      (router.handleIncoming crates now packet source).2.2.packetCache =
        router.packetCache.put packet.header.packetId := by
  rcases handleIncoming_cases crates router now packet source with
    ⟨reason, after, drops, -⟩ | ⟨unseen, after, cached, passes⟩
  · exact absurd (congrArg Prod.fst drops) (keeps reason)
  · refine ⟨unseen, ?_⟩
    rw [passes]
    split
    · exact cached
    · exact cached

theorem packetCache_serve (call : RouterCall) :
    (router.serve crates call).packetCache =
      router.packetCache.putAll (router.puts crates call).toList := by
  cases call with
  | handleIncoming now packet source =>
      rw [serve, puts]
      cases decided : (router.handleIncoming crates now packet source).1 with
      | drop reason => exact (handleIncoming_drops router now packet source decided).cache_eq
      | deliverToApp | relay | deliverAndRelay =>
          apply (handleIncoming_keeps router now packet source ?_).2
          intro reason drops
          rw [decided] at drops
          cases drops
  | registerOutgoing packet => rfl
  | registerBroadcast packetId => rfl
  | registerPeer peer => rfl

/-- After any calls the cache is the old one with what they put. -/
theorem packetCache_run (calls : List RouterCall) :
    (run (serve crates) router calls).packetCache =
      router.packetCache.putAll (emitted (serve crates) (puts crates) router calls) :=
  view_run (fun router call => packetCache_serve router call) router calls

theorem not_duplicate_of_not_put {calls : List RouterCall}
    (unseen : packet.header.packetId ∉ router.packetCache.recent)
    (unput : packet.header.packetId ∉ emitted (serve crates) (puts crates) router calls) :
    ((run (serve crates) router calls).handleIncoming crates now packet source).1 ≠
      .drop .duplicatePacket := by
  have absent : packet.header.packetId ∉ (run (serve crates) router calls).packetCache.recent := by
    rw [packetCache_run]
    intro member
    rcases List.mem_append.mp (Lru.subset_putAll _ _ member) with old | new
    · exact unseen old
    · exact unput new
  rw [handleIncoming_eq, if_neg absent]
  split_ifs
  all_goals
    intro same
    cases same

theorem handleIncoming_duplicate :
    (router.handleIncoming crates now packet source).1 = .drop .duplicatePacket ↔
      (router.charge now source).1 = true ∧ trustThreshold ≤ router.getTrust source ∧
        packet.header.packetId ∈ router.packetCache.recent := by
  rw [handleIncoming_eq]
  by_cases limited : (router.charge now source).1 = false
  · simp [limited]
  by_cases distrusted : router.getTrust source < trustThreshold
  · simp [limited, distrusted]
  by_cases known : packet.header.packetId ∈ router.packetCache.recent
  · rw [if_neg limited, if_neg distrusted, if_pos known]
    exact iff_of_true rfl ⟨eq_true_of_ne_false limited, not_lt.mp distrusted, known⟩
  · rw [if_neg limited, if_neg distrusted, if_neg known]
    split_ifs <;> simp [known]

end Calls

end Router

/-- The calls of the router, the look-ups among them. -/
inductive CacheCall where
  | routed (call : RouterCall)
  | isDuplicate (packetId : Octets 8)

namespace Router

variable (crates : Crates)

def look (router : Router) : CacheCall → Router
  | .routed call => router.serve crates call
  | .isDuplicate _ => router

def putBy (router : Router) : CacheCall → Option (Octets 8)
  | .routed call => router.puts crates call
  | .isDuplicate _ => none

/-- The packet ids put by a list of calls, in order. -/
def putIds (router : Router) (calls : List CacheCall) : List (Octets 8) :=
  emitted (look crates) (putBy crates) router calls

variable {crates} (router : Router)

theorem packetCache_look (call : CacheCall) :
    (router.look crates call).packetCache =
      router.packetCache.putAll (router.putBy crates call).toList := by
  cases call with
  | routed call => exact packetCache_serve router call
  | isDuplicate packetId => rfl

theorem packetCache_looks (calls : List CacheCall) :
    (run (look crates) router calls).packetCache =
      router.packetCache.putAll (router.putIds crates calls) :=
  view_run (fun router call => packetCache_look router call) router calls

end Router

/-- Whatever the router, the packet and its source: a drop leaves the packet, the cache and all
other peers as they are and takes the penalty of its reason from the source, so that it makes no
later packet a duplicate; a packet that passes becomes the most recent of the cache. -/
theorem dropped_packet_frame (crates : Crates) (router : Router) (now : ℚ) (packet : ClampPacket)
    (source : NodePublicKey) :
    (∀ reason, (router.handleIncoming crates now packet source).1 = .drop reason →
      router.Dropped packet source reason (router.handleIncoming crates now packet source).2.1
          (router.handleIncoming crates now packet source).2.2 ∧
        ∀ calls later copy peer, copy.header.packetId ∉ router.packetCache.recent →
          copy.header.packetId ∉ emitted (Router.serve crates) (Router.puts crates)
            (router.handleIncoming crates now packet source).2.2 calls →
          ((run (Router.serve crates) (router.handleIncoming crates now packet source).2.2
            calls).handleIncoming crates later copy peer).1 ≠ .drop .duplicatePacket) ∧
      ((∀ reason, (router.handleIncoming crates now packet source).1 ≠ .drop reason) →
        packet.header.packetId ∉ router.packetCache.recent ∧
          (router.handleIncoming crates now packet source).2.2.packetCache.recent =
            (packet.header.packetId :: router.packetCache.recent).take cacheSize) := by
  refine ⟨?_, ?_⟩
  · intro reason drops
    have dropped := Router.handleIncoming_drops router now packet source drops
    refine ⟨dropped, ?_⟩
    intro calls later copy peer unseen unput
    apply Router.not_duplicate_of_not_put _ _ _ _ _ unput
    rwa [dropped.cache_eq]
  · intro keeps
    rcases Router.handleIncoming_keeps router now packet source keeps with ⟨unseen, cached⟩
    refine ⟨unseen, ?_⟩
    rw [cached]
    exact Lru.recent_put_of_notMem unseen

/-- Whatever the calls of a new router: the duplicates are the last 512 distinct ids put, so that
an id is one until 512 others have been put since it last was; look-ups and drops do not count,
and an id put again moves to the front and evicts none. -/
theorem replay_reach_exact (crates : Crates) (myNodeId : NodePublicKey) (key : MacKey)
    (calls : List CacheCall) :
    let start := (Router.new myNodeId).setChannelKey key
    let router := run (Router.look crates) start calls
    let ids := start.putIds crates calls
    (∀ packetId, router.isDuplicate packetId = true ↔
        packetId ∈ ids.dedup.reverse.take 512) ∧
      (∀ now packet source,
        (router.handleIncoming crates now packet source).1 = .drop .duplicatePacket ↔
          (router.charge now source).1 = true ∧ trustThreshold ≤ router.getTrust source ∧
            packet.header.packetId ∈ ids.dedup.reverse.take 512) ∧
      (∀ front packetId back, ids = front ++ packetId :: back → packetId ∉ back →
        (router.isDuplicate packetId = true ↔ back.toFinset.card < 512)) ∧
      (∀ call, router.putBy crates call = none →
        (router.look crates call).packetCache = router.packetCache) ∧
      ∀ call packetId, router.putBy crates call = some packetId →
        router.isDuplicate packetId = true →
          (router.look crates call).packetCache.recent =
            packetId :: router.packetCache.recent.erase packetId := by
  intro start router ids
  have cached : router.packetCache = Lru.empty.putAll ids := Router.packetCache_looks start calls
  have recent : router.packetCache.recent = ids.dedup.reverse.take 512 := by
    rw [cached]
    exact Lru.recent_putAll_empty ids
  refine ⟨?_, ?_, ?_, ?_, ?_⟩
  · intro packetId
    rw [Router.isDuplicate, Lru.contains_eq_true, recent]
  · intro now packet source
    rw [Router.handleIncoming_duplicate, recent]
  · intro front packetId back split absent
    rw [Router.isDuplicate, Lru.contains_eq_true, cached, split, Lru.putAll_append,
      Lru.putAll_cons]
    exact Lru.mem_putAll_put _ packetId back absent
  · intro call quiet
    rw [Router.packetCache_look, quiet]
    rfl
  · intro call packetId puts held
    rw [Router.packetCache_look, puts]
    exact Lru.recent_put_of_mem (Lru.contains_eq_true.mp held)

end Caraka
