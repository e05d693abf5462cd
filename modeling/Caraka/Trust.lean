import Caraka.Routing
import Caraka.Foundation.Transition
import Caraka.Sample

/-! Trust scores and token buckets over the calls of a router. -/

namespace Caraka

open Foundation

/-- The calls that drive the router while packets come and go. -/
inductive RouterCall where
  | handleIncoming (now : ℚ) (packet : ClampPacket) (source : NodePublicKey)
  | registerOutgoing (packet : ClampPacket)
  | registerBroadcast (packetId : Octets 8)
  | registerPeer (peer : NodePublicKey)

/-- The peer that a call is about. -/
def RouterCall.source : RouterCall → Option NodePublicKey
  | handleIncoming _ _ source => some source
  | registerPeer peer => some peer
  | registerOutgoing _ | registerBroadcast _ => none

namespace Router

def serve (crates : Crates) (router : Router) : RouterCall → Router
  | .handleIncoming now packet source => (router.handleIncoming crates now packet source).2.2
  | .registerOutgoing packet => router.registerOutgoing packet
  | .registerBroadcast packetId => router.registerBroadcast packetId
  | .registerPeer peer => router.registerPeer peer

/-- Every score is one that `clamp` returns. -/
def InRange (router : Router) : Prop :=
  ∀ peer score, router.trustScores.get? peer = some score → trustMin ≤ score ∧ score ≤ trustMax

/-- Neither the score nor the token bucket of a peer is different. -/
structure SamePeer (peer : NodePublicKey) (before after : Router) : Prop where
  score_eq : after.trustScores.get? peer = before.trustScores.get? peer
  bucket_eq : after.rateLimiters.get? peer = before.rateLimiters.get? peer

section Scores

variable {router : Router} {peer : NodePublicKey}

theorem getTrust_range (inRange : router.InRange) (peer : NodePublicKey) :
    trustMin ≤ router.getTrust peer ∧ router.getTrust peer ≤ trustMax := by
  rw [getTrust]
  cases found : router.trustScores.get? peer with
  | none =>
      rw [Option.getD_none, trustMin, trustInitial, trustMax]
      norm_num
  | some score => exact inRange peer score found

theorem clamp_range (score : ℚ) :
    trustMin ≤ min (max score trustMin) trustMax ∧
      min (max score trustMin) trustMax ≤ trustMax := by
  refine ⟨le_min (le_max_right _ _) ?_, min_le_right _ _⟩
  rw [trustMin, trustMax]
  norm_num

theorem inRange_updateTrust (inRange : router.InRange) (peer : NodePublicKey) (delta : ℚ) :
    (router.updateTrust peer delta).InRange := by
  intro other score found
  rw [updateTrust, AssocMap.get?_insert] at found
  split at found
  · rw [← Option.some.inj found]
    exact clamp_range _
  · exact inRange other score found

theorem inRange_registerPeer (inRange : router.InRange) (peer : NodePublicKey) :
    (router.registerPeer peer).InRange := by
  intro other score found
  rw [registerPeer, AssocMap.get?_insert] at found
  split at found
  · rw [← Option.some.inj found]
    exact getTrust_range inRange peer
  · exact inRange other score found

theorem getTrust_updateTrust (router : Router) (peer : NodePublicKey) (delta : ℚ) :
    (router.updateTrust peer delta).getTrust peer =
      min (max (router.getTrust peer + delta) trustMin) trustMax := by
  rw [getTrust, updateTrust, AssocMap.get?_insert_self, Option.getD_some]

theorem getTrust_penalty (inRange : router.InRange) (peer : NodePublicKey) {delta : ℚ}
    (penalty : delta ≤ 0) :
    (router.updateTrust peer delta).getTrust peer ≤ router.getTrust peer := by
  rw [getTrust_updateTrust]
  calc
    min (max (router.getTrust peer + delta) trustMin) trustMax
        ≤ max (router.getTrust peer + delta) trustMin := min_le_left _ _
    _ ≤ router.getTrust peer :=
      max_le (add_le_of_nonpos_right penalty) (getTrust_range inRange peer).1

theorem samePeer_updateTrust {other : NodePublicKey} (distinct : peer ≠ other) (delta : ℚ) :
    SamePeer peer router (router.updateTrust other delta) :=
  ⟨AssocMap.get?_insert_ne _ _ distinct, rfl⟩

theorem samePeer_charge {source : NodePublicKey} (now : ℚ) (distinct : peer ≠ source) :
    SamePeer peer router (router.charge now source).2 :=
  ⟨rfl, AssocMap.get?_insert_ne _ _ distinct⟩

theorem samePeer_accept {source : NodePublicKey} (packetId : Octets 8) (distinct : peer ≠ source) :
    SamePeer peer router (router.accept packetId source) :=
  ⟨AssocMap.get?_insert_ne _ _ distinct, rfl⟩

theorem SamePeer.trans {before middle after : Router} (first : SamePeer peer before middle)
    (second : SamePeer peer middle after) : SamePeer peer before after :=
  ⟨second.score_eq.trans first.score_eq, second.bucket_eq.trans first.bucket_eq⟩

theorem SamePeer.getTrust_eq {before after : Router} (same : SamePeer peer before after) :
    after.getTrust peer = before.getTrust peer := by
  rw [getTrust, getTrust, same.score_eq]

end Scores

variable (crates : Crates)

theorem handleIncoming_trust (router : Router) (now : ℚ) (packet : ClampPacket)
    (source : NodePublicKey) :
    ((∃ reason, (router.handleIncoming crates now packet source).1 = .drop reason) ∧
        ((router.handleIncoming crates now packet source).2.2 = (router.charge now source).2 ∨
          ∃ delta, delta ≤ 0 ∧ (router.handleIncoming crates now packet source).2.2 =
            (router.charge now source).2.updateTrust source delta)) ∨
      (trustThreshold ≤ router.getTrust source ∧
        (router.handleIncoming crates now packet source).2.2 =
          (router.charge now source).2.accept packet.header.packetId source) := by
  rw [handleIncoming_eq]
  by_cases limited : (router.charge now source).1 = false
  · rw [if_pos limited]
    refine .inl ⟨⟨_, rfl⟩, .inr ⟨_, ?_, rfl⟩⟩
    rw [trustRateLimitDelta]
    norm_num
  by_cases distrusted : router.getTrust source < trustThreshold
  · rw [if_neg limited, if_pos distrusted]
    exact .inl ⟨⟨_, rfl⟩, .inl rfl⟩
  by_cases known : packet.header.packetId ∈ router.packetCache.recent
  · rw [if_neg limited, if_neg distrusted, if_pos known]
    exact .inl ⟨⟨_, rfl⟩, .inl rfl⟩
  by_cases forged : packet.header.packetType ≠ .hello ∧
      router.verifyHopMac crates packet source = false
  · rw [if_neg limited, if_neg distrusted, if_neg known, if_pos forged]
    refine .inl ⟨⟨_, rfl⟩, .inr ⟨_, ?_, rfl⟩⟩
    rw [trustInvalidMacDelta]
    norm_num
  · rw [if_neg limited, if_neg distrusted, if_neg known, if_neg forged]
    refine .inr ⟨not_lt.mp distrusted, ?_⟩
    split <;> rfl

variable {crates} {router : Router} {peer : NodePublicKey}

theorem inRange_serve (inRange : router.InRange) (call : RouterCall) :
    (router.serve crates call).InRange := by
  cases call with
  | handleIncoming now packet source =>
      have charged : (router.charge now source).2.InRange := inRange
      rw [serve]
      rcases handleIncoming_trust crates router now packet source with
        ⟨-, same | ⟨delta, -, same⟩⟩ | ⟨-, same⟩
      · rw [same]
        exact charged
      · rw [same]
        exact inRange_updateTrust charged source delta
      · rw [same, accept]
        exact inRange_updateTrust charged source trustValidDelta
  | registerOutgoing packet => exact inRange
  | registerBroadcast packetId => exact inRange
  | registerPeer peer => exact inRange_registerPeer inRange peer

theorem samePeer_serve {call : RouterCall} (other : call.source ≠ some peer) :
    SamePeer peer router (router.serve crates call) := by
  cases call with
  | handleIncoming now packet source =>
      have distinct : peer ≠ source := by
        rintro rfl
        exact other rfl
      have charged := @samePeer_charge router _ _ now distinct
      rw [serve]
      rcases handleIncoming_trust crates router now packet source with
        ⟨-, same | ⟨delta, -, same⟩⟩ | ⟨-, same⟩
      · rw [same]
        exact charged
      · rw [same]
        exact charged.trans (samePeer_updateTrust distinct delta)
      · rw [same]
        exact charged.trans (samePeer_accept _ distinct)
  | registerOutgoing packet => exact ⟨rfl, rfl⟩
  | registerBroadcast packetId => exact ⟨rfl, rfl⟩
  | registerPeer newPeer =>
      have distinct : peer ≠ newPeer := by
        rintro rfl
        exact other rfl
      exact ⟨AssocMap.get?_insert_ne _ _ distinct, rfl⟩

theorem dropped_of_distrusted (distrusted : router.getTrust peer < trustThreshold) (now : ℚ)
    (packet : ClampPacket) :
    ∃ reason, (router.handleIncoming crates now packet peer).1 = .drop reason := by
  rcases handleIncoming_trust crates router now packet peer with ⟨dropped, -⟩ | ⟨trusted, -⟩
  · exact dropped
  · exact absurd distrusted (not_lt.mpr trusted)

theorem getTrust_serve_le (inRange : router.InRange)
    (distrusted : router.getTrust peer < trustThreshold) (call : RouterCall) :
    (router.serve crates call).getTrust peer ≤ router.getTrust peer := by
  by_cases about : call.source = some peer
  · cases call with
    | handleIncoming now packet source =>
        cases about
        rw [serve]
        rcases handleIncoming_trust crates router now packet peer with
          ⟨-, same | ⟨delta, penalty, same⟩⟩ | ⟨trusted, -⟩
        · rw [same]
          exact le_refl _
        · rw [same]
          exact @getTrust_penalty (router.charge now peer).2 inRange peer delta penalty
        · exact absurd distrusted (not_lt.mpr trusted)
    | registerOutgoing packet => cases about
    | registerBroadcast packetId => cases about
    | registerPeer newPeer =>
        cases about
        rw [serve, registerPeer, getTrust, AssocMap.get?_insert_self, Option.getD_some]
  · exact le_of_eq (samePeer_serve about).getTrust_eq

theorem inRange_run (inRange : router.InRange) (calls : List RouterCall) :
    (run (serve crates) router calls).InRange :=
  @run_induction _ _ _ InRange (fun _ call inRange => inRange_serve inRange call) router calls
    inRange

theorem samePeer_run {calls : List RouterCall}
    (others : ∀ call ∈ calls, call.source ≠ some peer) :
    SamePeer peer router (run (serve crates) router calls) := by
  induction calls generalizing router with
  | nil => exact ⟨rfl, rfl⟩
  | cons call rest ih =>
      rw [List.forall_mem_cons] at others
      exact (samePeer_serve others.1).trans (ih others.2)

/-- Distrust is for good, whatever the peer and the others send. -/
theorem distrust_run (inRange : router.InRange) (distrusted : router.getTrust peer < trustThreshold)
    (calls : List RouterCall) :
    (run (serve crates) router calls).getTrust peer ≤ router.getTrust peer := by
  induction calls generalizing router with
  | nil => exact le_refl _
  | cons call rest ih =>
      have step := @getTrust_serve_le crates _ _ inRange distrusted call
      exact (ih (inRange_serve inRange call) (lt_of_le_of_lt step distrusted)).trans step

variable (crates) in
/-- The router of a node with a channel key, after a list of calls. -/
def after (myNodeId : NodePublicKey) (key : MacKey) (calls : List RouterCall) : Router :=
  run (serve crates) ((new myNodeId).setChannelKey key) calls

theorem inRange_after (myNodeId : NodePublicKey) (key : MacKey) (calls : List RouterCall) :
    (after crates myNodeId key calls).InRange := by
  apply inRange_run
  intro peer score none
  cases none

end Router

namespace Sample

def forged (number : Nat) : RouterCall := .handleIncoming 0 {
  header := ⟨magic, protocolVersion, .dm, ttlMax, octets 8 number⟩
  hopAuth := ⟨0, Octets.zero 16⟩
  nonce := Octets.zero 16
  ciphertext := []
  aeadTag := Octets.zero 16 } (key 1)

theorem distrusted_after_forged : (Router.after haloCrates (key 2) (Octets.zero 16)
    [forged 1, forged 2, forged 3, forged 4]).getTrust (key 1) < trustThreshold := by
  decide +kernel

end Sample

/-- Whatever the calls, every score stays within its bounds, later calls about others leave a peer
alone, and a peer once distrusted is dropped ever after while its score does not rise. -/
theorem trust_bookkeeping (crates : Crates) (myNodeId : NodePublicKey) (key : MacKey)
    (front back : List RouterCall) (peer : NodePublicKey) :
    (Router.after crates myNodeId key front).InRange ∧
      (trustMin ≤ (Router.after crates myNodeId key front).getTrust peer ∧
        (Router.after crates myNodeId key front).getTrust peer ≤ trustMax) ∧
      ((∀ call ∈ back, call.source ≠ some peer) →
        Router.SamePeer peer (Router.after crates myNodeId key front)
          (Router.after crates myNodeId key (front ++ back))) ∧
      ((Router.after crates myNodeId key front).getTrust peer < trustThreshold →
        (Router.after crates myNodeId key (front ++ back)).getTrust peer ≤
            (Router.after crates myNodeId key front).getTrust peer ∧
          ∀ now packet, ∃ reason, ((Router.after crates myNodeId key (front ++ back)).handleIncoming
            crates now packet peer).1 = .drop reason) := by
  have inRange := @Router.inRange_after crates myNodeId key front
  have split : Router.after crates myNodeId key (front ++ back) =
      run (Router.serve crates) (Router.after crates myNodeId key front) back :=
    run_append _ front back
  rw [split]
  refine ⟨inRange, Router.getTrust_range inRange peer, Router.samePeer_run, ?_⟩
  intro distrusted
  have lower := @Router.distrust_run crates _ _ inRange distrusted back
  exact ⟨lower, Router.dropped_of_distrusted (lt_of_le_of_lt lower distrusted)⟩

/-- Node 1 stays distrusted though it is registered again. -/
theorem trust_bookkeeping_forged : (Router.after Sample.haloCrates (Sample.key 2) (Octets.zero 16)
      ([Sample.forged 1, Sample.forged 2, Sample.forged 3, Sample.forged 4] ++
        [.registerPeer (Sample.key 1)])).getTrust (Sample.key 1) ≤
    (Router.after Sample.haloCrates (Sample.key 2) (Octets.zero 16)
      [Sample.forged 1, Sample.forged 2, Sample.forged 3, Sample.forged 4]).getTrust
        (Sample.key 1) :=
  ((trust_bookkeeping Sample.haloCrates (Sample.key 2) (Octets.zero 16) _ _ (Sample.key 1)).2.2.2
    Sample.distrusted_after_forged).1

end Caraka
