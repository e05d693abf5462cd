import Caraka.ReplayCache
import Caraka.TokenBuckets

/-! Whether a peer that keeps to the documented rate is ever refused by its token bucket, in exact
arithmetic and in that of the code. -/

namespace Caraka

open Foundation

def Conforms (arrivals : List ℚ) : Prop :=
  ∀ first last, first ≤ last →
    ((arrivals.filter fun time => first ≤ time ∧ time ≤ last).length : ℚ) ≤
      rateBurst + ratePerSec * (last - first)

section Credit

variable (credit : ℚ → Nat)

/-- The `new_tokens` of each arrival, which the clock alone decides. -/
def wholeTokens (lastRefill : ℚ) : List ℚ → List Nat
  | [] => []
  | now :: rest =>
    let newTokens := credit (max (now - lastRefill) 0)
    newTokens :: wholeTokens (if newTokens > 0 then now else lastRefill) rest

/-- No stretch of consecutive arrivals is longer than the burst and the whole tokens credited after
its first arrival. -/
def WholeTokensSuffice (arrivals : List ℚ) : Prop :=
  ∀ window, window <:+: wholeTokens credit (arrivals.headD 0) arrivals →
    window.length ≤ rateBurst + window.tail.sum

namespace TokenBucket

def Granted (entry : Option TokenBucket) (now : ℚ) : Prop :=
  ((entry.getD (TokenBucket.new now)).consumeBy credit now).1 = true

variable {credit}

theorem consumeBy_spec (bucket : TokenBucket) (now : ℚ) :
    ((bucket.consumeBy credit now).1 = true ↔
        0 < min (bucket.tokens + credit (bucket.elapsed now)) rateBurst) ∧
      (bucket.consumeBy credit now).2.tokens =
        min (bucket.tokens + credit (bucket.elapsed now)) rateBurst - 1 ∧
      (bucket.consumeBy credit now).2.lastRefill =
        if credit (bucket.elapsed now) > 0 then now else bucket.lastRefill := by
  rw [consumeBy]
  generalize credit (bucket.elapsed now) = earned
  have refilled : (bucket.refill earned now).tokens = min (bucket.tokens + earned) rateBurst := by
    rw [refill]
    split_ifs with some
    · rfl
    · rw [Nat.eq_zero_of_not_pos some, Nat.add_zero, Nat.min_eq_left bucket.tokens_le]
  have clock : (bucket.refill earned now).lastRefill =
      if earned > 0 then now else bucket.lastRefill := by
    rw [refill]
    split_ifs <;> rfl
  rw [← refilled, ← clock, take]
  by_cases available : (bucket.refill earned now).tokens > 0
  · rw [if_pos available]
    exact ⟨iff_of_true rfl available, rfl, rfl⟩
  · rw [if_neg available]
    refine ⟨iff_of_false Bool.false_ne_true available, ?_, rfl⟩
    dsimp only
    omega

theorem granted_iff_servesAll (bucket : TokenBucket) (arrivals : List ℚ) :
    Along (arrive credit) (Granted credit) (some bucket) arrivals ↔
      ServesAll rateBurst bucket.tokens (wholeTokens credit bucket.lastRefill arrivals) := by
  induction arrivals generalizing bucket with
  | nil => exact Iff.rfl
  | cons now rest ih =>
      rcases @consumeBy_spec credit bucket now with ⟨granted, tokens, clock⟩
      have next := ih (bucket.consumeBy credit now).2
      rw [tokens, clock] at next
      exact and_congr granted next

theorem granted_iff (credit : ℚ → Nat) (arrivals : List ℚ) :
    Along (arrive credit) (Granted credit) none arrivals ↔ WholeTokensSuffice credit arrivals := by
  cases arrivals with
  | nil =>
      refine iff_of_true trivial fun window inside => ?_
      rw [List.infix_nil.mp inside]
      exact Nat.zero_le _
  | cons first rest =>
      have made : Along (arrive credit) (Granted credit) none (first :: rest) ↔
          Along (arrive credit) (Granted credit) (some (TokenBucket.new first)) (first :: rest) :=
        Iff.rfl
      rw [made, granted_iff_servesAll]
      exact servesAll_full_iff rateBurst _

end TokenBucket

end Credit

/-- When a packet of the peer arrives. -/
def RouterCall.arrival (peer : NodePublicKey) : RouterCall → Option ℚ
  | handleIncoming now _ source => if source = peer then some now else none
  | registerOutgoing _ | registerBroadcast _ | registerPeer _ => none

namespace Router

/-- `handle_incoming`, for any reckoning of the tokens an elapsed time is worth. -/
def handleIncomingBy (crates : Crates) (credit : ℚ → Nat) (router : Router) (now : ℚ)
    (packet : ClampPacket) (source : NodePublicKey) : RoutingDecision × ClampPacket × Router :=
  afterCharge crates (router.chargeBy credit now source) packet source

def serveBy (crates : Crates) (credit : ℚ → Nat) (router : Router) : RouterCall → Router
  | .handleIncoming now packet source =>
    (router.handleIncomingBy crates credit now packet source).2.2
  | .registerOutgoing packet => router.registerOutgoing packet
  | .registerBroadcast packetId => router.registerBroadcast packetId
  | .registerPeer peer => router.registerPeer peer

theorem serveBy_tokensFor (crates : Crates) : serveBy crates tokensFor = serve crates := by
  funext router call
  cases call <;> rfl

/-- A packet of the peer is not dropped for its rate, and no more than the penalty of an invalid
MAC comes off the score. -/
def Spares (crates : Crates) (credit : ℚ → Nat) (peer : NodePublicKey) (router : Router) :
    RouterCall → Prop
  | .handleIncoming now packet source => source = peer →
    (router.handleIncomingBy crates credit now packet source).1 ≠ .drop .rateLimitExceeded ∧
      router.getTrust peer + trustInvalidMacDelta ≤
        (router.handleIncomingBy crates credit now packet source).2.2.getTrust peer
  | .registerOutgoing _ | .registerBroadcast _ | .registerPeer _ => True

theorem afterCharge_cases (crates : Crates) (charged : Bool × Router) (packet : ClampPacket)
    (source : NodePublicKey) {outcome : RoutingDecision × ClampPacket × Router}
    (handled : afterCharge crates charged packet source = outcome) :
    (charged.1 = false ∧ outcome.1 = .drop .rateLimitExceeded ∧
        outcome.2.2 = charged.2.updateTrust source trustRateLimitDelta) ∨
      (charged.1 = true ∧ outcome.1 ≠ .drop .rateLimitExceeded ∧
        (outcome.2.2 = charged.2 ∨
          outcome.2.2 = charged.2.updateTrust source trustInvalidMacDelta ∨
          outcome.2.2 = charged.2.accept packet.header.packetId source)) := by
  subst handled
  rcases charged with ⟨allowed, router⟩
  rw [afterCharge]
  dsimp only
  cases allowed with
  | false => exact .inl ⟨rfl, rfl, rfl⟩
  | true =>
      refine .inr ⟨rfl, ?_⟩
      rw [Bool.not_true, if_neg Bool.false_ne_true]
      by_cases distrusted : router.getTrust source < trustThreshold
      · simp [distrusted]
      by_cases known : router.packetCache.contains packet.header.packetId = true
      · simp [distrusted, known]
      by_cases forged : packet.header.packetType ≠ .hello ∧
          (!router.verifyHopMac crates packet source) = true
      · rw [if_neg distrusted, if_neg known, if_pos forged]
        exact ⟨by simp, .inr (.inl rfl)⟩
      · rw [if_neg distrusted, if_neg known, if_neg forged]
        split
        · exact ⟨by simp, .inr (.inr rfl)⟩
        · exact ⟨by simp, .inr (.inr rfl)⟩

variable {crates : Crates} {credit : ℚ → Nat} {router : Router} {peer : NodePublicKey}

theorem rateLimiters_handleIncomingBy (router : Router) (now : ℚ) (packet : ClampPacket)
    (source : NodePublicKey) :
    (router.handleIncomingBy crates credit now packet source).2.2.rateLimiters =
      (router.chargeBy credit now source).2.rateLimiters := by
  rcases afterCharge_cases crates (router.chargeBy credit now source) packet source rfl with
    ⟨-, -, after⟩ | ⟨-, -, after | after | after⟩
  all_goals exact (congrArg Router.rateLimiters after).trans rfl

theorem limited_iff (router : Router) (now : ℚ) (packet : ClampPacket) (source : NodePublicKey) :
    (router.handleIncomingBy crates credit now packet source).1 = .drop .rateLimitExceeded ↔
      (router.chargeBy credit now source).1 = false := by
  rcases afterCharge_cases crates (router.chargeBy credit now source) packet source rfl with
    ⟨refused, limited, -⟩ | ⟨allowed, passed, -⟩
  · exact iff_of_true limited refused
  · exact iff_of_false passed (by simp [allowed])

theorem inRange_serveBy (inRange : router.InRange) (call : RouterCall) :
    (router.serveBy crates credit call).InRange := by
  cases call with
  | handleIncoming now packet source =>
      have charged : (router.chargeBy credit now source).2.InRange := inRange
      rw [serveBy, handleIncomingBy]
      rcases afterCharge_cases crates (router.chargeBy credit now source) packet source rfl with
        ⟨-, -, after⟩ | ⟨-, -, after | after | after⟩
      · rw [after]
        exact inRange_updateTrust charged source _
      · rw [after]
        exact charged
      · rw [after]
        exact inRange_updateTrust charged source _
      · rw [after, accept]
        exact inRange_updateTrust charged source trustValidDelta
  | registerOutgoing packet => exact inRange
  | registerBroadcast packetId => exact inRange
  | registerPeer peer => exact inRange_registerPeer inRange peer

theorem getTrust_spared (inRange : router.InRange) {now : ℚ} {packet : ClampPacket}
    (allowed : (router.handleIncomingBy crates credit now packet peer).1 ≠
      .drop .rateLimitExceeded) :
    router.getTrust peer + trustInvalidMacDelta ≤
      (router.handleIncomingBy crates credit now packet peer).2.2.getTrust peer := by
  have bounds := getTrust_range inRange peer
  have penalty : trustInvalidMacDelta = -1 / 2 := rfl
  have highest : trustMax = 5 := rfl
  have lowered : router.getTrust peer + trustInvalidMacDelta ≤ router.getTrust peer := by
    rw [penalty]
    linarith only
  have clamped : ∀ delta, trustInvalidMacDelta ≤ delta → router.getTrust peer +
      trustInvalidMacDelta ≤ min (max (router.getTrust peer + delta) trustMin) trustMax := by
    intro delta higher
    apply le_min
    · apply le_max_of_le_left
      linarith only [higher]
    · linarith only [bounds.2, lowered]
  have untouched : (router.chargeBy credit now peer).2.getTrust peer = router.getTrust peer := rfl
  rw [handleIncomingBy] at allowed ⊢
  rcases afterCharge_cases crates (router.chargeBy credit now peer) packet peer rfl with
    ⟨-, limited, -⟩ | ⟨-, -, after | after | after⟩
  · exact absurd limited allowed
  · rw [after, untouched]
    exact lowered
  · rw [after, getTrust_updateTrust, untouched]
    exact clamped trustInvalidMacDelta (le_refl _)
  · rw [after, accept, getTrust_updateTrust]
    apply clamped
    rw [penalty, trustValidDelta]
    norm_num

theorem spares_iff_granted (inRange : router.InRange) (calls : List RouterCall) :
    Along (serveBy crates credit) (Spares crates credit peer) router calls ↔
      Along (TokenBucket.arrive credit) (TokenBucket.Granted credit)
        (router.rateLimiters.get? peer) (calls.filterMap (RouterCall.arrival peer)) := by
  induction calls generalizing router with
  | nil => exact Iff.rfl
  | cons call rest ih =>
      have next := ih (@inRange_serveBy crates credit router inRange call)
      by_cases about : ∃ now packet, call = .handleIncoming now packet peer
      · rcases about with ⟨now, packet, rfl⟩
        have arrives : (RouterCall.handleIncoming now packet peer).arrival peer = some now :=
          if_pos rfl
        have entry : (router.serveBy crates credit
            (.handleIncoming now packet peer)).rateLimiters.get? peer =
              TokenBucket.arrive credit (router.rateLimiters.get? peer) now := by
          rw [serveBy, rateLimiters_handleIncomingBy]
          exact AssocMap.get?_insert_self ..
        rw [List.filterMap_cons_some arrives]
        rw [entry] at next
        refine and_congr ?_ next
        have rate := @limited_iff crates credit router now packet peer
        constructor
        · intro spared
          exact eq_true_of_ne_false (mt rate.mpr (spared rfl).1)
        · intro granted _
          have allowed : (router.handleIncomingBy crates credit now packet peer).1 ≠
              .drop .rateLimitExceeded := by
            intro limited
            have refused := rate.mp limited
            rw [chargeBy] at refused
            exact Bool.noConfusion (granted.symm.trans refused)
          exact ⟨allowed, getTrust_spared inRange allowed⟩
      · have quiet : call.arrival peer = none := by
          cases call with
          | handleIncoming now packet source =>
              apply if_neg
              intro same
              subst same
              exact about ⟨now, packet, rfl⟩
          | registerOutgoing | registerBroadcast | registerPeer => rfl
        have spared : Spares crates credit peer router call := by
          cases call with
          | handleIncoming now packet source =>
              intro same
              subst same
              exact absurd ⟨now, packet, rfl⟩ about
          | registerOutgoing | registerBroadcast | registerPeer => trivial
        have entry : (router.serveBy crates credit call).rateLimiters.get? peer =
            router.rateLimiters.get? peer := by
          cases call with
          | handleIncoming now packet source =>
              have distinct : peer ≠ source := by
                intro same
                subst same
                exact about ⟨now, packet, rfl⟩
              rw [serveBy, rateLimiters_handleIncomingBy]
              exact AssocMap.get?_insert_ne _ _ distinct
          | registerOutgoing | registerBroadcast | registerPeer => rfl
        rw [List.filterMap_cons_none quiet]
        rw [entry] at next
        exact (and_iff_right spared).trans next

end Router

namespace Sample

def hastyArrivals : List ℚ := List.replicate 200 0 ++ [19 / 1000, 28 / 1000]

theorem hasty_conforms : Conforms hastyArrivals := by
  intro first last ordered
  have refilled : 0 ≤ (ratePerSec : ℚ) * (last - first) :=
    mul_nonneg (Nat.cast_nonneg _) (sub_nonneg.mpr ordered)
  have burst : (rateBurst : ℚ) = 200 := rfl
  have rate : (ratePerSec : ℚ) = 100 := rfl
  rw [hastyArrivals, List.filter_append, List.length_append, burst]
  rw [rate] at refilled ⊢
  have late : ∀ time : ℚ, ([time].filter fun time => first ≤ time ∧ time ≤ last).length =
      if first ≤ time ∧ time ≤ last then 1 else 0 := by
    intro time
    by_cases inside : first ≤ time ∧ time ≤ last
    · simp [inside]
    · simp [inside]
  have two : ([19 / 1000, 28 / 1000].filter fun time : ℚ => first ≤ time ∧ time ≤ last).length =
      (if first ≤ 19 / 1000 ∧ 19 / 1000 ≤ last then 1 else 0) +
        if first ≤ 28 / 1000 ∧ 28 / 1000 ≤ last then 1 else 0 := by
    rw [← late, ← late, ← List.length_append, ← List.filter_append]
    rfl
  rw [two]
  by_cases covered : first ≤ 0 ∧ (0 : ℚ) ≤ last
  · rw [List.filter_eq_self.mpr]
    · rw [List.length_replicate]
      split_ifs with early late late
      · push_cast
        linarith only [covered.1, late.2]
      · push_cast
        linarith only [covered.1, early.2]
      · push_cast
        linarith only [covered.1, late.2]
      · push_cast
        linarith only [refilled]
    · intro time member
      rw [List.eq_of_mem_replicate member]
      exact decide_eq_true covered
  · rw [List.filter_eq_nil_iff.mpr]
    · rw [List.length_nil]
      split_ifs
      all_goals
        push_cast
        linarith only [refilled]
    · intro time member
      rw [List.eq_of_mem_replicate member]
      simpa using covered

theorem wholeTokens_burst {credit : ℚ → Nat} (nothing : credit 0 = 0) (count : Nat)
    (later : List ℚ) :
    wholeTokens credit 0 (List.replicate count 0 ++ later) =
      List.replicate count 0 ++ wholeTokens credit 0 later := by
  induction count with
  | zero => rfl
  | succ count ih =>
      have none : credit (max ((0 : ℚ) - 0) 0) = 0 := by
        rw [sub_self, max_self, nothing]
      rw [List.replicate_succ, List.cons_append, wholeTokens, none, if_neg (Nat.lt_irrefl 0), ih]
      rfl

theorem hasty_refused {credit : ℚ → Nat} (nothing : credit 0 = 0)
    (later : wholeTokens credit 0 [19 / 1000, 28 / 1000] = [1, 0]) :
    ¬ WholeTokensSuffice credit hastyArrivals := by
  intro suffice
  have tokens : wholeTokens credit (hastyArrivals.headD 0) hastyArrivals =
      List.replicate 200 0 ++ [1, 0] := by
    rw [hastyArrivals, ← later, ← wholeTokens_burst nothing]
    rfl
  have bound := suffice (List.replicate 200 0 ++ [1, 0]) (tokens ▸ List.infix_rfl)
  have length : (List.replicate 200 0 ++ [1, 0]).length = 202 := by
    rw [List.length_append, List.length_replicate]
    rfl
  have credited : (List.replicate 200 0 ++ [1, 0]).tail.sum = 1 := by
    rw [List.replicate_succ, List.cons_append, List.tail_cons, List.sum_append,
      List.sum_replicate]
    rfl
  rw [length, credited] at bound
  exact absurd bound (by decide)

end Sample

/-- Whatever the calls of a new router and however an elapsed time is reckoned in tokens: every
arrival of a peer is granted, and none of its packets is refused for the rate, exactly when the
whole tokens credited at its arrivals suffice. -/
theorem conforming_spared_iff (credit : ℚ → Nat) (crates : Crates) (myNodeId : NodePublicKey)
    (key : MacKey) (calls : List RouterCall) (peer : NodePublicKey) :
    (Along (TokenBucket.arrive credit) (TokenBucket.Granted credit) none
          (calls.filterMap (RouterCall.arrival peer)) ↔
        WholeTokensSuffice credit (calls.filterMap (RouterCall.arrival peer))) ∧
      (Along (Router.serveBy crates credit) (Router.Spares crates credit peer)
          ((Router.new myNodeId).setChannelKey key) calls ↔
        WholeTokensSuffice credit (calls.filterMap (RouterCall.arrival peer))) := by
  have granted := TokenBucket.granted_iff credit (calls.filterMap (RouterCall.arrival peer))
  have inRange : ((Router.new myNodeId).setChannelKey key).InRange :=
    @Router.inRange_after crates myNodeId key []
  exact ⟨granted, (Router.spares_iff_granted inRange calls).trans granted⟩

/-- A peer that conforms to the limit is refused, in exact arithmetic and in single precision. -/
theorem conforming_arrival_refused :
    Sample.hastyArrivals.Pairwise (· ≤ ·) ∧ Conforms Sample.hastyArrivals ∧
      ¬ Along (TokenBucket.arrive exactTokensFor) (TokenBucket.Granted exactTokensFor) none
        Sample.hastyArrivals ∧
      ¬ Along (TokenBucket.arrive tokensFor) (TokenBucket.Granted tokensFor) none
        Sample.hastyArrivals := by
  refine ⟨?_, Sample.hasty_conforms, ?_, ?_⟩
  · rw [Sample.hastyArrivals, List.pairwise_append]
    refine ⟨?_, by norm_num, ?_⟩
    · exact List.pairwise_replicate.mpr (.inr (le_refl _))
    · intro early burst time late
      rw [List.eq_of_mem_replicate burst]
      simp only [List.mem_cons, List.not_mem_nil, or_false] at late
      rcases late with rfl | rfl
      · norm_num
      · norm_num
  · rw [TokenBucket.granted_iff]
    exact Sample.hasty_refused (by decide +kernel) (by decide +kernel)
  · rw [TokenBucket.granted_iff]
    exact Sample.hasty_refused tokensFor_zero (by decide +kernel)

end Caraka
