import Caraka.BucketLevels
import Caraka.Registration
import Caraka.Sample
import Caraka.Foundation.Metering

/-! How many packets of a connection pass the rate limit. -/

namespace Caraka

open Foundation

variable {crates : Crates}

def Router.bucket (router : Router) (source : NodePublicKey) (now : ℚ) : TokenBucket :=
  (router.rateLimiters.get? source).getD (TokenBucket.new now)

def Activity.charges : Activity → Option (NodePublicKey × ℚ)
  | .receive env raw senderKey _ =>
    match ClampPacket.decode raw with
    | .error _ => none
    | .ok packet =>
      match packet.header.packetType with
      | .dm | .channel | .file => (sourceNodeId senderKey packet).map fun source =>
        (source, env.instant)
      | .hello | .broadcast | .syncReq | .syncResp | .syncData => none
  | .sendDm .. | .sendFile .. | .sendBroadcast .. | .tryDecrypt .. | .tryDecryptFile ..
  | .getMessages .. => none

/-- What `handle_incoming` decides on a frame that reaches it. -/
def AppState.decides (node : AppState crates) (env : ReceiveEnv) (raw : Bytes)
    (senderKey : String) : Option RoutingDecision :=
  match ClampPacket.decode raw with
  | .error _ => none
  | .ok packet =>
    match packet.header.packetType with
    | .dm | .channel | .file => (sourceNodeId senderKey packet).map fun source =>
      (node.router.handleIncoming crates env.instant packet source).1
    | .hello | .broadcast | .syncReq | .syncResp | .syncData => none

/-- The monotonic clock when a frame is processed. -/
def Activity.instant : Activity → Option ℚ
  | .receive env _ _ _ => some env.instant
  | .sendDm .. | .sendFile .. | .sendBroadcast .. | .tryDecrypt .. | .tryDecryptFile ..
  | .getMessages .. => none

def AppState.passesRate (senderKey : String) (node : AppState crates) : Activity → Option ℚ
  | .receive env raw key _ =>
    if key = senderKey then
      match node.decides env raw key with
      | none => none
      | some decision => if decision = .drop .rateLimitExceeded then none else some env.instant
    else none
  | .sendDm .. | .sendFile .. | .sendBroadcast .. | .tryDecrypt .. | .tryDecryptFile ..
  | .getMessages .. => none

/-- In every run and every interval no more packets of a connection pass than the bucket holds
and the interval refills, times a factor. -/
def RateBounded (factor : ℚ) (node : AppState crates) (senderKey : String) : Prop :=
  ∀ (activities : List Activity) (first last : ℚ),
    (activities.filterMap Activity.instant).Pairwise (· ≤ ·) → first ≤ last →
      (Meter.admitted AppState.perform (AppState.passesRate senderKey) first last node
        activities : ℚ) ≤ factor * (rateBurst + ratePerSec * (last - first))

section Charges

variable (node : AppState crates)

theorem charges_receive {raw : Bytes} {packet : ClampPacket}
    (read : ClampPacket.decode raw = .ok packet) (routed : Routed packet) (env : ReceiveEnv)
    (senderKey : String) (kind : ConnKind) :
    (Activity.receive env raw senderKey kind).charges =
      (sourceNodeId senderKey packet).map fun source => (source, env.instant) := by
  rcases routed with type | type | type
  all_goals simp only [Activity.charges, read, type]

theorem decides_routed {raw : Bytes} {packet : ClampPacket}
    (read : ClampPacket.decode raw = .ok packet) (routed : Routed packet) (env : ReceiveEnv)
    (senderKey : String) :
    node.decides env raw senderKey = (sourceNodeId senderKey packet).map fun source =>
      (node.router.handleIncoming crates env.instant packet source).1 := by
  rcases routed with type | type | type
  all_goals simp only [AppState.decides, read, type]

theorem decides_rate (crates : Crates) (router : Router) (now : ℚ) (packet : ClampPacket)
    (source : NodePublicKey) :
    (router.handleIncoming crates now packet source).1 = .drop .rateLimitExceeded ↔
      (router.charge now source).1 = false := by
  rw [Router.handleIncoming_eq]
  split_ifs with limited <;> simp [limited]

theorem rateLimiters_handleIncoming (router : Router) (now : ℚ) (packet : ClampPacket)
    (source : NodePublicKey) :
    (router.handleIncoming crates now packet source).2.2.rateLimiters =
      (router.charge now source).2.rateLimiters := by
  rw [Router.handleIncoming_eq]
  split_ifs <;> rfl

theorem rateLimiters_handleRouted (env : ReceiveEnv) (packet : ClampPacket) (senderKey : String) :
    (handleRouted node env packet senderKey).1.router.rateLimiters =
      ((sourceNodeId senderKey packet).map fun source =>
        (node.router.charge env.instant source).2.rateLimiters).getD node.router.rateLimiters := by
  rw [handleRouted]
  cases sourceNodeId senderKey packet with
  | none => rfl
  | some source =>
      rw [Option.map_some, Option.getD_some, ← rateLimiters_handleIncoming node.router env.instant
        packet source]
      dsimp only
      split <;> rename_i decided <;> rw [decided]

theorem rateLimiters_perform (activity : Activity) :
    (node.perform activity).router.rateLimiters =
      (activity.charges.map fun charge =>
        (node.router.charge charge.2 charge.1).2.rateLimiters).getD node.router.rateLimiters := by
  by_cases command : activity.IsCommand
  · rw [router_command node command]
    cases activity with
    | receive => cases command
    | sendDm | sendFile | sendBroadcast | tryDecrypt | tryDecryptFile | getMessages => rfl
  · cases activity with
    | receive env raw senderKey kind =>
        rw [AppState.perform, processIncomingPacket, Activity.charges]
        cases ClampPacket.decode raw with
        | error e => rfl
        | ok packet =>
            dsimp only
            cases packet.header.packetType with
            | dm | channel | file =>
                simp only [Option.map_map]
                exact rateLimiters_handleRouted node env packet senderKey
            | hello | syncReq | syncResp => rfl
            | syncData =>
                simp only [handleSyncData]
                split <;> rfl
            | broadcast =>
                simp only [handleBroadcast]
                split
                · rfl
                · split
                  · rfl
                  · split <;> rfl
    | sendDm | sendFile | sendBroadcast | tryDecrypt | tryDecryptFile | getMessages =>
        exact absurd trivial command

theorem instant_of_charges {activity : Activity} {charge : NodePublicKey × ℚ}
    (charges : activity.charges = some charge) : activity.instant = some charge.2 := by
  cases activity with
  | sendDm | sendFile | sendBroadcast | tryDecrypt | tryDecryptFile | getMessages => cases charges
  | receive env raw key kind =>
      rw [Activity.charges] at charges
      cases read : ClampPacket.decode raw with
      | error e => simp [read] at charges
      | ok packet =>
          rw [read] at charges
          dsimp only at charges
          split at charges
          all_goals first
            | cases charges
            | rcases Option.map_eq_some_iff.mp charges with ⟨source, -, rfl⟩
              rfl

theorem charges_of_passes {senderKey : String} {activity : Activity} {now : ℚ}
    (passes : node.passesRate senderKey activity = some now) :
    activity.instant = some now ∧ ∃ packet source, sourceNodeId senderKey packet = some source ∧
      activity.charges = some (source, now) ∧ (node.router.charge now source).1 = true := by
  cases activity with
  | sendDm | sendFile | sendBroadcast | tryDecrypt | tryDecryptFile | getMessages => cases passes
  | receive env raw key kind =>
      rw [AppState.passesRate] at passes
      split_ifs at passes with same
      subst same
      cases decided : node.decides env raw key with
      | none =>
          rw [decided] at passes
          cases passes
      | some decision =>
          rw [decided] at passes
          dsimp only at passes
          split_ifs at passes with limited
          cases passes
          refine ⟨rfl, ?_⟩
          cases read : ClampPacket.decode raw with
          | error e => simp [AppState.decides, read] at decided
          | ok packet =>
              by_cases routed : Routed packet
              · rw [decides_routed node read routed] at decided
                rcases Option.map_eq_some_iff.mp decided with ⟨source, named, decides⟩
                refine ⟨packet, source, named, ?_, ?_⟩
                · rw [charges_receive read routed, named, Option.map_some]
                · have allowed := mt (decides_rate crates node.router env.instant packet source).mpr
                  rw [decides] at allowed
                  simpa using allowed limited
              · exfalso
                simp only [Routed, not_or] at routed
                simp only [AppState.decides, read] at decided
                cases type : packet.header.packetType with
                | dm => exact routed.1 type
                | channel => exact routed.2.1 type
                | file => exact routed.2.2 type
                | hello | broadcast | syncReq | syncResp | syncData => simp [type] at decided

end Charges

def Router.level (router : Router) (source : NodePublicKey) (now : ℚ) : ℚ :=
  (router.bucket source now).level (slack * rateBurst) (slack * ratePerSec) now

def Router.Drawn (router : Router) : Prop :=
  ∀ source bucket, router.rateLimiters.get? source = some bucket → bucket.tokens < rateBurst

theorem Router.Drawn.kept {router : Router} (drawn : router.Drawn) (source : NodePublicKey)
    (now : ℚ) : (router.bucket source now).Kept now :=
  TokenBucket.kept_getD (drawn source) now

theorem Router.level_refills (router : Router) (source : NodePublicKey) {now later : ℚ}
    (ordered : now ≤ later) :
    router.level source later ≤
      router.level source now + slack * ratePerSec * (later - now) :=
  TokenBucket.level_getD_refills credits_tokensFor (router.rateLimiters.get? source) ordered

section Steps

variable (node : AppState crates) (activity : Activity)

theorem drawn_perform (drawn : node.router.Drawn) : (node.perform activity).router.Drawn := by
  intro source bucket found
  rw [rateLimiters_perform] at found
  cases charged : activity.charges with
  | none =>
      rw [charged] at found
      exact drawn source bucket found
  | some charge =>
      rw [charged] at found
      simp only [Option.map_some, Option.getD_some, Router.charge, Router.chargeBy,
        AssocMap.get?_insert] at found
      split_ifs at found with same
      · rw [← Option.some.inj found]
        exact (TokenBucket.consumeBy_level _ credits_tokensFor (drawn.kept charge.1 charge.2)).2
      · exact drawn source bucket found

theorem level_pays {senderKey : String} {source : NodePublicKey}
    (fixed : ∀ packet other, sourceNodeId senderKey packet = some other → other = source) {now : ℚ}
    (drawn : node.router.Drawn) (current : ∀ time, activity.instant = some time → time = now) :
    (node.perform activity).router.level source now +
        (node.passesRate senderKey activity).toList.length ≤ node.router.level source now := by
  have passed : ∀ time, node.passesRate senderKey activity = some time →
      activity.charges = some (source, now) ∧ (node.router.charge now source).1 = true := by
    intro time passes
    rcases charges_of_passes node passes with ⟨instant, packet, other, named, charges, allowed⟩
    rw [current time instant, fixed packet other named] at charges allowed
    exact ⟨charges, allowed⟩
  have same_level : ∀ router : Router, router.rateLimiters.get? source =
      node.router.rateLimiters.get? source →
        router.level source now = node.router.level source now := by
    intro router same
    rw [Router.level, Router.level, Router.bucket, Router.bucket, same]
  by_cases charged : activity.charges = some (source, now)
  · have limiters := rateLimiters_perform node activity
    rw [charged, Option.map_some, Option.getD_some] at limiters
    have paid := (TokenBucket.consumeBy_level _ credits_tokensFor (drawn.kept source now)).1
    have after : (node.perform activity).router.level source now =
        ((node.router.bucket source now).consumeBy tokensFor now).2.level (slack * rateBurst)
          (slack * ratePerSec) now := by
      rw [Router.level, Router.bucket, limiters]
      simp only [Router.charge, Router.chargeBy, AssocMap.get?_insert_self, Option.getD_some,
        Router.bucket]
    have counted : ((node.passesRate senderKey activity).toList.length : ℚ) ≤
        if ((node.router.bucket source now).consumeBy tokensFor now).1 then 1 else 0 := by
      cases passes : node.passesRate senderKey activity with
      | none =>
          rw [Option.toList_none, List.length_nil, Nat.cast_zero]
          split <;> norm_num
      | some time =>
          have allowed : ((node.router.bucket source now).consumeBy tokensFor now).1 = true :=
            (passed time passes).2
          rw [if_pos allowed]
          simp
    rw [after]
    exact (add_le_add_right counted _).trans paid
  · have none : node.passesRate senderKey activity = none := by
      cases passes : node.passesRate senderKey activity with
      | none => rfl
      | some time => exact absurd (passed time passes).1 charged
    rw [none, Option.toList_none, List.length_nil, Nat.cast_zero, add_zero]
    apply le_of_eq
    apply same_level
    rw [rateLimiters_perform]
    cases charges : activity.charges with
    | none => rfl
    | some charge =>
        have other : source ≠ charge.1 := by
          rintro rfl
          apply charged
          rw [charges, ← current charge.2 (instant_of_charges charges)]
        simp only [Option.map_some, Option.getD_some, Router.charge, Router.chargeBy]
        exact AssocMap.get?_insert_ne _ _ other

end Steps

def connectionMeter {senderKey : String} {source : NodePublicKey}
    (fixed : ∀ packet other, sourceNodeId senderKey packet = some other → other = source) :
    Meter (@AppState.perform crates) Activity.instant (AppState.passesRate senderKey)
      (fun node => node.router.Drawn) (slack * rateBurst) (slack * ratePerSec) where
  level node := node.router.level source
  rate_nonneg := credits_tokensFor.rate_nonneg
  keeps := drawn_perform
  timed node _ _ passes := (charges_of_passes node passes).1
  nonneg node now _ := (node.router.bucket source now).level_nonneg credits_tokensFor now
  level_le node now _ := (node.router.bucket source now).level_le now
  refills node _ _ ordered := node.router.level_refills source ordered
  pays node activity _ drawn current := level_pays node activity fixed drawn current

theorem drawn_of_fresh {router : Router} (fresh : router.rateLimiters = AssocMap.empty) :
    router.Drawn := by
  intro source bucket found
  rw [fresh] at found
  cases found

theorem sourceNodeId_of_hex {senderKey : String} {bytes : Bytes}
    (hex : Hex.decode senderKey = some bytes) (packet : ClampPacket) :
    sourceNodeId senderKey packet = tryInto 32 bytes := by
  rw [sourceNodeId, hex]

theorem sourceNodeId_of_not_hex {senderKey : String} (plain : Hex.decode senderKey = none)
    (packet : ClampPacket) :
    sourceNodeId senderKey packet = some (packet.header.packetId.append (Octets.zero 24)) := by
  rw [sourceNodeId, plain]

theorem bounded_of_hex {node : AppState crates} {senderKey : String}
    (fresh : node.router.rateLimiters = AssocMap.empty) {bytes : Bytes}
    (hex : Hex.decode senderKey = some bytes) : RateBounded slack node senderKey := by
  have fixed : ∀ packet other, sourceNodeId senderKey packet = some other →
      other = (tryInto 32 bytes).getD (Octets.zero 32) := by
    intro packet other named
    rw [sourceNodeId_of_hex hex] at named
    rw [named, Option.getD_some]
  intro activities first last sorted ordered
  rw [mul_add, ← mul_assoc]
  exact (connectionMeter fixed).admitted_le node (drawn_of_fresh fresh) sorted ordered

theorem bounded_of_wrong_length {node : AppState crates} {senderKey : String} {bytes : Bytes}
    (hex : Hex.decode senderKey = some bytes) (wrong : bytes.length ≠ 32) :
    RateBounded 1 node senderKey := by
  have unnamed : ∀ packet, sourceNodeId senderKey packet = none := by
    intro packet
    rw [sourceNodeId_of_hex hex, tryInto, dif_neg wrong]
  have nothing : ∀ (node : AppState crates) activity,
      node.passesRate senderKey activity = none := by
    intro node activity
    cases passes : node.passesRate senderKey activity with
    | none => rfl
    | some now =>
        rcases charges_of_passes node passes with ⟨-, packet, source, named, -⟩
        rw [unnamed packet] at named
        cases named
  intro activities first last sorted ordered
  have silent : emitted AppState.perform (AppState.passesRate senderKey) node activities = [] := by
    clear sorted
    induction activities generalizing node with
    | nil => rfl
    | cons activity activities ih => rw [emitted, nothing, ih]; rfl
  have refilled : 0 ≤ (ratePerSec : ℚ) * (last - first) :=
    mul_nonneg (Nat.cast_nonneg _) (sub_nonneg.mpr ordered)
  rw [Meter.admitted, silent, one_mul]
  exact add_nonneg (Nat.cast_nonneg _) refilled

def proxy (packet : ClampPacket) : NodePublicKey :=
  packet.header.packetId.append (Octets.zero 24)

theorem proxy_injective {first second : ClampPacket} (same : proxy first = proxy second) :
    first.header.packetId = second.header.packetId := by
  apply Octets.bytes_injective
  have bytes := congrArg Octets.bytes same
  exact (List.append_inj bytes (by simp)).1

theorem emitted_proxies {node : AppState crates} {senderKey : String} {packets : List ClampPacket}
    (plain : Hex.decode senderKey = none) (env : ReceiveEnv) (kind : ConnKind)
    (built : ∀ packet ∈ packets, packet.Genuine ∧ Routed packet)
    (distinct : (packets.map fun packet => packet.header.packetId).Nodup)
    (unknown : ∀ packet ∈ packets, node.router.rateLimiters.get? (proxy packet) = none) :
    emitted AppState.perform (AppState.passesRate senderKey) node
        (packets.map fun packet => .receive env packet.encode senderKey kind) =
      packets.map fun _ => env.instant := by
  induction packets generalizing node with
  | nil => rfl
  | cons packet packets ih =>
      simp only [List.forall_mem_cons] at built unknown
      simp only [List.map_cons, List.nodup_cons] at distinct
      have read := ClampPacket.decode_encode packet built.1.1
      have named : sourceNodeId senderKey packet = some (proxy packet) :=
        sourceNodeId_of_not_hex plain packet
      have allowed := Router.charge_of_new env.instant unknown.1
      have passes : node.passesRate senderKey (.receive env packet.encode senderKey kind) =
          some env.instant := by
        have undropped := mt (decides_rate crates node.router env.instant packet
          (proxy packet)).mp (by simp [allowed])
        simp only [AppState.passesRate, decides_routed node read built.1.2, named,
          Option.map_some, if_true, if_neg undropped]
      have unknown' : ∀ other ∈ packets, (node.perform
          (.receive env packet.encode senderKey kind)).router.rateLimiters.get? (proxy other) =
            none := by
        intro other member
        have apart : proxy other ≠ proxy packet := by
          intro same
          apply distinct.1
          rw [← proxy_injective same]
          exact List.mem_map_of_mem member
        rw [rateLimiters_perform, charges_receive read built.1.2, named]
        simp only [Option.map_some, Option.getD_some, Router.charge, Router.chargeBy]
        rw [AssocMap.get?_insert_ne _ _ apart]
        exact unknown.2 other member
      rw [List.map_cons, emitted, passes, ih built.2 distinct.2 unknown']
      rfl

def blankPacket (number : Nat) : ClampPacket where
  header := {
    magic := Caraka.magic
    version := protocolVersion
    packetType := .dm
    ttl := 0
    packetId := ⟨leBytes 8 number, by simp⟩ }
  hopAuth := { hopCounter := 0, macTag := Octets.zero 16 }
  nonce := Octets.zero 16
  ciphertext := []
  aeadTag := Octets.zero 16

def blankPackets : List ClampPacket := (List.range (rateBurst + 1)).map blankPacket

theorem blankPackets_distinct :
    (blankPackets.map fun packet => packet.header.packetId).Nodup := by
  rw [blankPackets, List.map_map]
  apply List.Nodup.map_on ?_ List.nodup_range
  intro first small second small' same
  rw [List.mem_range, rateBurst] at small small'
  exact leBytes_injective (by omega) (by omega) (congrArg Octets.bytes same)

theorem blankPackets_built : ∀ packet ∈ blankPackets, packet.Genuine ∧ Routed packet := by
  intro packet member
  rcases List.mem_map.mp member with ⟨number, -, rfl⟩
  exact ⟨⟨rfl, rfl⟩, .inl rfl⟩

def blankFlood (env : ReceiveEnv) (senderKey : String) (kind : ConnKind) : List Activity :=
  blankPackets.map fun packet => .receive env packet.encode senderKey kind

theorem blankFlood_passes {node : AppState crates} {senderKey : String}
    (fresh : node.router.rateLimiters = AssocMap.empty) (plain : Hex.decode senderKey = none)
    (env : ReceiveEnv) (kind : ConnKind) :
    Meter.admitted AppState.perform (AppState.passesRate senderKey) env.instant env.instant node
      (blankFlood env senderKey kind) = rateBurst + 1 := by
  have unknown : ∀ packet ∈ blankPackets,
      node.router.rateLimiters.get? (proxy packet) = none := by
    intro packet member
    rw [fresh]
    rfl
  rw [Meter.admitted, blankFlood, emitted_proxies plain env kind blankPackets_built
    blankPackets_distinct unknown, List.filter_eq_self.mpr, List.length_map, blankPackets,
    List.length_map, List.length_range]
  intro time member
  rcases List.mem_map.mp member with ⟨packet, -, rfl⟩
  simp

theorem unbounded_of_not_hex {node : AppState crates} {senderKey : String}
    (fresh : node.router.rateLimiters = AssocMap.empty) (plain : Hex.decode senderKey = none)
    (env : ReceiveEnv) (kind : ConnKind) {factor : ℚ} (little : factor < 201 / 200) :
    ¬ RateBounded factor node senderKey := by
  intro bounded
  have sorted : ((blankFlood env senderKey kind).filterMap Activity.instant).Pairwise
      (· ≤ ·) := by
    apply List.pairwise_of_forall_mem_list
    intro first member second member'
    rcases List.mem_filterMap.mp member with ⟨activity, inside, timed⟩
    rcases List.mem_filterMap.mp member' with ⟨other, inside', timed'⟩
    rcases List.mem_map.mp inside with ⟨packet, -, rfl⟩
    rcases List.mem_map.mp inside' with ⟨packet', -, rfl⟩
    cases timed
    cases timed'
    exact le_refl _
  have limit := bounded (blankFlood env senderKey kind) env.instant env.instant sorted (le_refl _)
  have burst : (rateBurst : ℚ) = 200 := rfl
  rw [blankFlood_passes fresh plain env kind, sub_self, mul_zero, add_zero, Nat.cast_add, burst,
    Nat.cast_one] at limit
  linarith

def Router.Stores (router : Router) (source : NodePublicKey) (now : ℚ) (tokens : Nat) : Prop :=
  ∃ bucket, router.rateLimiters.get? source = some bucket ∧ bucket.tokens = tokens ∧
    bucket.lastRefill = now

structure Router.Finds (router : Router) (source : NodePublicKey) (now : ℚ) (tokens : Nat) :
    Prop where
  tokens : ((router.bucket source now).refill
    (tokensFor ((router.bucket source now).elapsed now)) now).tokens = tokens
  lastRefill : ((router.bucket source now).refill
    (tokensFor ((router.bucket source now).elapsed now)) now).lastRefill = now

theorem Router.finds_of_stores {router : Router} {source : NodePublicKey} {now : ℚ} {tokens : Nat}
    (stores : router.Stores source now tokens) : router.Finds source now tokens := by
  rcases stores with ⟨bucket, found, rfl, reset⟩
  have held : router.bucket source now = bucket := by rw [Router.bucket, found, Option.getD_some]
  have same : bucket.refill (tokensFor (bucket.elapsed now)) now = bucket := by
    rw [TokenBucket.elapsed_self reset, tokensFor_zero]
    rfl
  constructor
  · rw [held, same]
  · rw [held, same, reset]

theorem Router.finds_of_fresh {router : Router} (fresh : router.rateLimiters = AssocMap.empty)
    (source : NodePublicKey) (now : ℚ) : router.Finds source now rateBurst := by
  have held : router.bucket source now = TokenBucket.new now := by
    rw [Router.bucket, fresh]
    rfl
  have none : (TokenBucket.new now).elapsed now = 0 := TokenBucket.elapsed_self rfl
  have same : (TokenBucket.new now).refill (tokensFor ((TokenBucket.new now).elapsed now)) now =
      TokenBucket.new now := by
    rw [none, tokensFor_zero]
    rfl
  constructor
  · rw [held, same]
    rfl
  · rw [held, same]
    rfl

theorem Router.finds_of_refill {router : Router} {source : NodePublicKey} {now later : ℚ}
    {tokens : Nat} (stores : router.Stores source now 0) (ordered : now ≤ later)
    (positive : 0 < tokens) (earned : tokensFor (later - now) = tokens)
    (few : tokens ≤ rateBurst) :
    router.Finds source later tokens := by
  rcases stores with ⟨bucket, found, empty, reset⟩
  have held : router.bucket source later = bucket := by rw [Router.bucket, found, Option.getD_some]
  have elapsed : bucket.elapsed later = later - now := by
    rw [TokenBucket.elapsed, reset, max_eq_left (sub_nonneg.mpr ordered)]
  constructor
  · rw [held, elapsed, earned, TokenBucket.refill, if_pos positive]
    change min (bucket.tokens + tokens) rateBurst = tokens
    rw [empty, Nat.zero_add, Nat.min_eq_left few]
  · rw [held, elapsed, earned, TokenBucket.refill, if_pos positive]

theorem passes_of_finds {node : AppState crates} {senderKey : String} {source : NodePublicKey}
    (named : ∀ packet, sourceNodeId senderKey packet = some source) {packet : ClampPacket}
    (built : packet.Genuine ∧ Routed packet) (env : ReceiveEnv) (kind : ConnKind) {tokens : Nat}
    (finds : node.router.Finds source env.instant (tokens + 1)) :
    node.passesRate senderKey (.receive env packet.encode senderKey kind) = some env.instant ∧
      (node.perform (.receive env packet.encode senderKey kind)).router.Stores source env.instant
        tokens := by
  have read := ClampPacket.decode_encode packet built.1
  have available : ((node.router.bucket source env.instant).refill
      (tokensFor ((node.router.bucket source env.instant).elapsed env.instant))
        env.instant).tokens > 0 := by
    rw [finds.tokens]
    exact Nat.succ_pos _
  have allowed : (node.router.charge env.instant source).1 = true := by
    change ((node.router.bucket source env.instant).consumeBy tokensFor env.instant).1 = true
    rw [TokenBucket.consumeBy, TokenBucket.take, if_pos available]
  constructor
  · have undropped := mt (decides_rate crates node.router env.instant packet source).mp
      (by simp [allowed])
    simp only [AppState.passesRate, decides_routed node read built.2, named packet,
      Option.map_some, if_true, if_neg undropped]
  · refine ⟨((node.router.bucket source env.instant).consumeBy tokensFor env.instant).2, ?_, ?_⟩
    · rw [rateLimiters_perform, charges_receive read built.2, named packet]
      exact AssocMap.get?_insert_self ..
    · rw [TokenBucket.consumeBy, TokenBucket.take, if_pos available]
      exact ⟨by simp [finds.tokens], finds.lastRefill⟩

theorem emitted_burst {node : AppState crates} {senderKey : String} {source : NodePublicKey}
    (named : ∀ packet, sourceNodeId senderKey packet = some source) {packet : ClampPacket}
    (built : packet.Genuine ∧ Routed packet) (env : ReceiveEnv) (kind : ConnKind)
    {count tokens : Nat}
    (finds : node.router.Finds source env.instant (tokens + (count + 1))) :
    emitted AppState.perform (AppState.passesRate senderKey) node
        (List.replicate (count + 1) (.receive env packet.encode senderKey kind)) =
          List.replicate (count + 1) env.instant ∧
      (run AppState.perform node
        (List.replicate (count + 1) (.receive env packet.encode senderKey kind))).router.Stores
          source env.instant tokens := by
  induction count generalizing node with
  | zero =>
      rcases passes_of_finds named built env kind finds with ⟨passes, stores⟩
      constructor
      · rw [List.replicate_one, emitted, passes]
        rfl
      · exact stores
  | succ count ih =>
      rcases passes_of_finds named built env kind finds with ⟨passes, stores⟩
      rcases ih (Router.finds_of_stores stores) with ⟨later, left⟩
      constructor
      · rw [List.replicate_succ, emitted, passes, later]
        rfl
      · exact left

def shortTenth : ℚ := 99999999 / 10 ^ 9

theorem tokensFor_shortTenth : tokensFor (shortTenth - 0) = 10 := by
  decide +kernel

def hastyBursts (senderKey : String) : List Activity :=
  List.replicate 200
      (.receive ⟨0, 0, Octets.zero 4⟩ (blankPacket 0).encode senderKey (.torInbound "")) ++
    List.replicate 10
      (.receive ⟨shortTenth, 0, Octets.zero 4⟩ (blankPacket 0).encode senderKey (.torInbound ""))

theorem hastyBursts_passes {node : AppState crates} {senderKey : String}
    {source : NodePublicKey} (named : ∀ packet, sourceNodeId senderKey packet = some source)
    (fresh : node.router.rateLimiters = AssocMap.empty) :
    Meter.admitted AppState.perform (AppState.passesRate senderKey) 0 shortTenth node
      (hastyBursts senderKey) = 210 := by
  have built : (blankPacket 0).Genuine ∧ Routed (blankPacket 0) := ⟨⟨rfl, rfl⟩, .inl rfl⟩
  have full := Router.finds_of_fresh fresh source 0
  rcases @emitted_burst crates node senderKey source named _ built ⟨0, 0, Octets.zero 4⟩
    (.torInbound "") 199 0 full with ⟨burst, empty⟩
  have refilled := Router.finds_of_refill empty (show (0 : ℚ) ≤ shortTenth by decide +kernel)
    (by decide) tokensFor_shortTenth (by decide)
  rcases @emitted_burst crates _ senderKey source named _ built ⟨shortTenth, 0, Octets.zero 4⟩
    (.torInbound "") 9 0 refilled with ⟨late, -⟩
  rw [Meter.admitted, hastyBursts, emitted_append, burst, late, List.filter_eq_self.mpr]
  · rfl
  · intro time member
    rcases List.mem_append.mp member with early | late
    · rw [List.eq_of_mem_replicate early]
      decide +kernel
    · rw [List.eq_of_mem_replicate late]
      decide +kernel

theorem unbounded_of_node_id {node : AppState crates} {senderKey : String}
    {source : NodePublicKey} (named : ∀ packet, sourceNodeId senderKey packet = some source)
    (fresh : node.router.rateLimiters = AssocMap.empty) : ¬ RateBounded 1 node senderKey := by
  intro bounded
  have ordered : (0 : ℚ) ≤ shortTenth := by decide +kernel
  have sorted : ((hastyBursts senderKey).filterMap Activity.instant).Pairwise (· ≤ ·) := by
    have times : ∀ count env, (List.replicate count (Activity.receive env (blankPacket 0).encode
        senderKey (.torInbound ""))).filterMap Activity.instant =
          List.replicate count env.instant :=
      fun count env => List.filterMap_replicate_of_some rfl
    rw [hastyBursts, List.filterMap_append, times, times, List.pairwise_append]
    refine ⟨List.pairwise_replicate.mpr (.inr (le_refl _)),
      List.pairwise_replicate.mpr (.inr (le_refl _)), ?_⟩
    intro early burst time late
    rw [List.eq_of_mem_replicate burst, List.eq_of_mem_replicate late]
    exact ordered
  have limit := bounded (hastyBursts senderKey) 0 shortTenth sorted ordered
  rw [hastyBursts_passes named fresh] at limit
  norm_num [rateBurst, ratePerSec, shortTenth] at limit

/-- From a router without buckets: the rate limit holds only of connections whose packets never
reach the router, the key being hexadecimal and no node id; where single precision is allowed for
it holds exactly where the key is hexadecimal; and exactly there the packets of the connection come
from one source whatever is in them. -/
theorem rate_bounded_iff {node : AppState crates}
    (fresh : node.router.rateLimiters = AssocMap.empty) (senderKey : String) :
    (RateBounded 1 node senderKey ↔
        ∃ bytes, Hex.decode senderKey = some bytes ∧ bytes.length ≠ 32) ∧
      (RateBounded slack node senderKey ↔ (Hex.decode senderKey).isSome) ∧
      ((∀ packet other, sourceNodeId senderKey packet = sourceNodeId senderKey other) ↔
        (Hex.decode senderKey).isSome) := by
  cases decoded : Hex.decode senderKey with
  | some bytes =>
      refine ⟨?_, iff_of_true (bounded_of_hex fresh decoded) rfl, iff_of_true ?_ rfl⟩
      · constructor
        · intro bounded
          refine ⟨bytes, rfl, fun width => ?_⟩
          have named : ∀ packet, sourceNodeId senderKey packet = some ⟨bytes, width⟩ := by
            intro packet
            rw [sourceNodeId_of_hex decoded, tryInto, dif_pos width]
          exact unbounded_of_node_id named fresh bounded
        · rintro ⟨found, same, wrong⟩
          rw [Option.some.inj same] at decoded
          exact bounded_of_wrong_length decoded wrong
      · intro packet other
        rw [sourceNodeId_of_hex decoded, sourceNodeId_of_hex decoded]
  | none =>
      have unbounded : ∀ factor, factor < 201 / 200 → ¬ RateBounded factor node senderKey :=
        fun factor => unbounded_of_not_hex fresh decoded ⟨0, 0, Octets.zero 4⟩ (.torInbound "")
      refine ⟨iff_of_false (unbounded 1 (by norm_num)) (by simp),
        iff_of_false (unbounded slack (by norm_num [slack])) (by simp), iff_of_false ?_ (by simp)⟩
      intro same
      have ids := same (blankPacket 0) (blankPacket 1)
      rw [sourceNodeId_of_not_hex decoded, sourceNodeId_of_not_hex decoded,
        Option.some.injEq] at ids
      exact absurd (proxy_injective ids) (by decide)

namespace Sample

/-- Once node 1 has shaken hands the rate limit holds of it up to single precision, and no
further. -/
theorem rate_bounded_iff_halo :
    RateBounded slack bob (nodeId 1) ∧ ¬ RateBounded 1 bob (nodeId 1) := by
  have hex : Hex.decode (nodeId 1) = some (key 1).bytes := by
    rw [nodeId, Hex.decode_encode]
  constructor
  · apply (rate_bounded_iff rfl (nodeId 1)).2.1.mpr
    rw [hex]
    rfl
  · intro bounded
    rcases (rate_bounded_iff rfl (nodeId 1)).1.mp bounded with ⟨bytes, decoded, wrong⟩
    apply wrong
    rw [← Option.some.inj (hex.symm.trans decoded)]
    exact (key 1).length_eq

/-- A connection that has not shaken hands: 201 packets pass at one instant. -/
theorem address_unbounded :
    Hex.decode (lan 7771).preHelloKey = none ∧ bob.router.rateLimiters = AssocMap.empty ∧
      Meter.admitted AppState.perform (AppState.passesRate (lan 7771).preHelloKey) 0 0 bob
        (blankFlood receiveEnv (lan 7771).preHelloKey (lan 7771)) = 201 ∧
      ¬ RateBounded 1 bob (lan 7771).preHelloKey := by
  have plain : Hex.decode (lan 7771).preHelloKey = none := by decide
  exact ⟨plain, rfl, blankFlood_passes rfl plain receiveEnv (lan 7771),
    unbounded_of_not_hex rfl plain receiveEnv (lan 7771) (by norm_num)⟩

end Sample

end Caraka
