import Caraka.BucketLevels
import Caraka.Foundation.Metering

/-! The token bucket with its counter as a machine word and its elapsed time an exact rational, over
every history of its calls. -/

namespace Caraka

open Foundation

def saturatingAdd (left right : UInt32) : UInt32 :=
  UInt32.ofNat (min (left.toNat + right.toNat) (UInt32.size - 1))

/-- `left - right`, or `none` where it underflows. -/
def checkedSub (left right : UInt32) : Option UInt32 :=
  if right ≤ left then some (left - right) else none

theorem checkedSub_one {value : UInt32} (positive : 0 < value.toNat) :
    ∃ rest, checkedSub value 1 = some rest ∧ rest.toNat = value.toNat - 1 := by
  have below : (1 : UInt32) ≤ value := UInt32.le_iff_toNat_le.mpr positive
  refine ⟨value - 1, if_pos below, ?_⟩
  rw [UInt32.toNat_sub_of_le _ _ below]
  rfl

/-- `TokenBucket` as the code stores it. -/
structure StoredBucket where
  tokens : UInt32
  lastRefill : ℚ

namespace StoredBucket

def new (now : ℚ) : StoredBucket := ⟨UInt32.ofNat rateBurst, now⟩

def newTokens (bucket : StoredBucket) (now : ℚ) : UInt32 :=
  floorU32 (max (now - bucket.lastRefill) 0 * ratePerSec)

def refill (bucket : StoredBucket) (now : ℚ) : StoredBucket :=
  if bucket.newTokens now > 0 then
    ⟨min (saturatingAdd bucket.tokens (bucket.newTokens now)) (UInt32.ofNat rateBurst), now⟩
  else bucket

/-- `consume`, or `none` where `self.tokens -= 1` underflows. -/
def consume (bucket : StoredBucket) (now : ℚ) : Option (Bool × StoredBucket) :=
  let bucket := bucket.refill now
  if bucket.tokens > 0 then
    (checkedSub bucket.tokens 1).map fun rest => (true, { bucket with tokens := rest })
  else some (false, bucket)

structure Stores (stored : StoredBucket) (bucket : TokenBucket) : Prop where
  tokens : stored.tokens.toNat = bucket.tokens
  lastRefill : stored.lastRefill = bucket.lastRefill

variable {stored : StoredBucket} {bucket : TokenBucket}

theorem stores_new (now : ℚ) : (new now).Stores (TokenBucket.new now) := ⟨rfl, rfl⟩

theorem toNat_newTokens (same : stored.Stores bucket) (now : ℚ) :
    (stored.newTokens now).toNat =
      min (exactTokensFor (bucket.elapsed now)) (UInt32.size - 1) := by
  rw [newTokens, floorU32, toNat_saturated, same.lastRefill, exactTokensFor, TokenBucket.elapsed]

theorem stores_refill (same : stored.Stores bucket) (now : ℚ) :
    (stored.refill now).Stores
      (bucket.refill (exactTokensFor (bucket.elapsed now)) now) := by
  have gained := toNat_newTokens same now
  generalize exactTokensFor (bucket.elapsed now) = earned at gained ⊢
  have either : stored.newTokens now > 0 ↔ earned > 0 := by
    rw [gt_iff_lt, UInt32.lt_iff_toNat_lt, gained]
    simp [UInt32.size]
  rw [refill, TokenBucket.refill]
  by_cases some : earned > 0
  · rw [if_pos some, if_pos (either.mpr some)]
    refine ⟨?_, rfl⟩
    have summed : (saturatingAdd stored.tokens (stored.newTokens now)).toNat =
        min (bucket.tokens + min earned (UInt32.size - 1)) (UInt32.size - 1) := by
      rw [saturatingAdd, toNat_saturated, same.tokens, gained]
    have capped : rateBurst ≤ UInt32.size - 1 := by decide
    have burst : (UInt32.ofNat rateBurst).toNat = rateBurst := rfl
    rw [UInt32.toNat_min, summed, burst, Nat.min_assoc, Nat.min_eq_right capped]
    -- A cap below the word is met by the saturated sum and by the exact one alike.
    show min (bucket.tokens + min earned (UInt32.size - 1)) rateBurst =
      min (bucket.tokens + earned) rateBurst
    omega
  · rw [if_neg some, if_neg (mt either.mp some)]
    exact same

theorem consume_stores (same : stored.Stores bucket) (now : ℚ) :
    ∃ left, stored.consume now = some ((bucket.consumeBy exactTokensFor now).1, left) ∧
      left.Stores (bucket.consumeBy exactTokensFor now).2 := by
  have filled := stores_refill same now
  rw [consume, TokenBucket.consumeBy, TokenBucket.take]
  generalize bucket.refill (exactTokensFor (bucket.elapsed now)) now = refilled at filled ⊢
  have either : (stored.refill now).tokens > 0 ↔ refilled.tokens > 0 := by
    rw [gt_iff_lt, UInt32.lt_iff_toNat_lt, filled.tokens]
    rfl
  by_cases available : refilled.tokens > 0
  · rcases checkedSub_one (filled.tokens ▸ available) with ⟨rest, taken, one⟩
    refine ⟨{ stored.refill now with tokens := rest }, ?_, ?_, ?_⟩
    · simp only [if_pos available, if_pos (either.mpr available), taken, Option.map_some]
    · simp only [if_pos available]
      rw [one, filled.tokens]
    · simp only [if_pos available]
      exact filled.lastRefill
  · refine ⟨stored.refill now, ?_, ?_⟩
    · simp only [if_neg available, if_neg (mt either.mp available)]
    · simp only [if_neg available]
      exact filled

end StoredBucket

/-- A call of `consume` with its result and the bucket it leaves. -/
structure ConsumeCall where
  time : ℚ
  granted : Bool
  left : StoredBucket

/-- The calls on the bucket of one source, made at its first arrival; `none` where the counter
underflows. -/
def bucketHistory (entry : Option StoredBucket) : List ℚ → Option (List ConsumeCall)
  | [] => some []
  | now :: rest =>
    ((entry.getD (StoredBucket.new now)).consume now).bind fun next =>
      (bucketHistory (some next.2) rest).map fun calls => ⟨now, next.1, next.2⟩ :: calls

/-- How many calls from one instant to another return true. -/
def grantedWithin (first last : ℚ) (calls : List ConsumeCall) : Nat :=
  (calls.filter fun call => call.granted ∧ first ≤ call.time ∧ call.time ≤ last).length

namespace TokenBucket

section Arrivals

variable (credit : ℚ → Nat)

/-- What an arrival leaves in the entry of its source. -/
def arrive (entry : Option TokenBucket) (now : ℚ) : Option TokenBucket :=
  some ((entry.getD (TokenBucket.new now)).consumeBy credit now).2

def grants (entry : Option TokenBucket) (now : ℚ) : Option ℚ :=
  if ((entry.getD (TokenBucket.new now)).consumeBy credit now).1 then some now else none

def DrawnFrom (entry : Option TokenBucket) : Prop := ∀ bucket ∈ entry, bucket.tokens < rateBurst

def entryLevel (cap rate : ℚ) (entry : Option TokenBucket) (now : ℚ) : ℚ :=
  (entry.getD (TokenBucket.new now)).level cap rate now

variable {credit} {cap rate : ℚ}

theorem drawnFrom_arrive (credits : Credits credit cap rate) {entry : Option TokenBucket} (now : ℚ)
    (drawn : DrawnFrom entry) : DrawnFrom (arrive credit entry now) := by
  intro bucket kept
  rw [← Option.some.inj kept]
  exact (consumeBy_level _ credits (kept_getD drawn now)).2

theorem time_of_grants {entry : Option TokenBucket} {now time : ℚ}
    (granted : grants credit entry now = some time) : some now = some time := by
  rw [grants] at granted
  split_ifs at granted
  exact granted

theorem entryLevel_pays (credits : Credits credit cap rate) {entry : Option TokenBucket}
    {input now : ℚ} (drawn : DrawnFrom entry)
    (current : ∀ time, some input = some time → time = now) :
    entryLevel cap rate (arrive credit entry input) now +
        (grants credit entry input).toList.length ≤
      entryLevel cap rate entry now := by
  rw [current input rfl]
  have paid := (consumeBy_level _ credits (kept_getD drawn now)).1
  have counted : ((grants credit entry now).toList.length : ℚ) =
      if ((entry.getD (TokenBucket.new now)).consumeBy credit now).1 then 1 else 0 := by
    rw [grants]
    split <;> simp
  rw [counted]
  exact paid

def entryMeter (credits : Credits credit cap rate) :
    Meter (arrive credit) some (grants credit) DrawnFrom cap rate where
  level := entryLevel cap rate
  rate_nonneg := credits.rate_nonneg
  keeps _ now drawn := drawnFrom_arrive credits now drawn
  timed _ _ _ granted := time_of_grants granted
  nonneg entry now _ := (entry.getD (TokenBucket.new now)).level_nonneg credits now
  level_le entry now _ := (entry.getD (TokenBucket.new now)).level_le now
  refills entry _ _ ordered := level_getD_refills credits entry ordered
  pays _ _ _ drawn current := entryLevel_pays credits drawn current

end Arrivals

end TokenBucket

theorem bucketHistory_stores {entry : Option StoredBucket} {bucket : Option TokenBucket}
    (same : Option.Rel StoredBucket.Stores entry bucket) (arrivals : List ℚ) :
    ∃ calls, bucketHistory entry arrivals = some calls ∧ calls.map ConsumeCall.time = arrivals ∧
      (∀ call ∈ calls, call.left.tokens.toNat ≤ rateBurst) ∧
      ∀ first last, grantedWithin first last calls =
        Meter.admitted (TokenBucket.arrive exactTokensFor) (TokenBucket.grants exactTokensFor) first last
          bucket arrivals := by
  induction arrivals generalizing entry bucket with
  | nil => exact ⟨[], rfl, rfl, List.forall_mem_nil _, fun _ _ => rfl⟩
  | cons now rest ih =>
      have held : (entry.getD (StoredBucket.new now)).Stores
          (bucket.getD (TokenBucket.new now)) := by
        cases same with
        | some stores => exact stores
        | none => exact StoredBucket.stores_new now
      rcases StoredBucket.consume_stores held now with ⟨left, consumed, stores⟩
      rcases ih (.some stores) with ⟨calls, run, times, bounded, counted⟩
      refine ⟨⟨now, ((bucket.getD (TokenBucket.new now)).consumeBy exactTokensFor now).1, left⟩ ::
        calls, ?_, ?_, ?_, ?_⟩
      · rw [bucketHistory, consumed, Option.bind_some, run, Option.map_some]
      · rw [List.map_cons, times]
      · intro call member
        rcases List.mem_cons.mp member with rfl | later
        · rw [stores.tokens]
          exact TokenBucket.tokens_le _
        · exact bounded call later
      · intro first last
        rw [Meter.admitted_cons, TokenBucket.arrive, ← counted first last, grantedWithin,
          grantedWithin, TokenBucket.grants]
        cases ((bucket.getD (TokenBucket.new now)).consumeBy exactTokensFor now).1 with
        | false => simp
        | true =>
            by_cases inside : first ≤ now ∧ now ≤ last
            · simp [inside, Nat.add_comm]
            · simp [inside]

/-- Over any arrivals in order the counter neither underflows nor exceeds its burst, and no window
grants more than the burst and what the window refills. -/
theorem token_bucket_bounded (arrivals : List ℚ) (ordered : arrivals.Pairwise (· ≤ ·)) :
    ∃ calls, bucketHistory none arrivals = some calls ∧
      calls.map ConsumeCall.time = arrivals ∧
      (∀ call ∈ calls, call.left.tokens.toNat ≤ 200) ∧
      ∀ first last, first ≤ last →
        (grantedWithin first last calls : ℚ) ≤ 200 + 100 * (last - first) := by
  rcases bucketHistory_stores .none arrivals with ⟨calls, run, times, bounded, counted⟩
  refine ⟨calls, run, times, bounded, ?_⟩
  intro first last window
  rw [counted first last]
  apply (TokenBucket.entryMeter credits_exactTokensFor).admitted_le
  · intro bucket kept
    cases kept
  · rwa [List.filterMap_some]
  · exact window

/-- A third packet arrives before a whole token is earned. -/
theorem token_bucket_bounded_three :
    ([0, 0, 1 / 200] : List ℚ).Pairwise (· ≤ ·) ∧
      ∃ calls, bucketHistory none [0, 0, 1 / 200] = some calls ∧
        calls.map ConsumeCall.time = [0, 0, 1 / 200] ∧
        (∀ call ∈ calls, call.left.tokens.toNat ≤ 200) ∧
        ∀ first last, first ≤ last →
          (grantedWithin first last calls : ℚ) ≤ 200 + 100 * (last - first) := by
  have ordered : ([0, 0, 1 / 200] : List ℚ).Pairwise (· ≤ ·) := by
    norm_num
  exact ⟨ordered, token_bucket_bounded _ ordered⟩

end Caraka
