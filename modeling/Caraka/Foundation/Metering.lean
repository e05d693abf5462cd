import Caraka.Foundation.Transition
import Mathlib.Algebra.Order.Field.Basic
import Mathlib.Tactic.Linarith
import Mathlib.Tactic.Ring

/-! Rate limits as amortised bounds: what is admitted is paid for from a level that time refills. -/

namespace Foundation

variable {σ ι K : Type} [Field K] [LinearOrder K] [IsStrictOrderedRing K]

/-- A level that time raises by at most `rate` and never above `cap`, and from which every
admitted input takes one. -/
structure Meter (step : σ → ι → σ) (clock : ι → Option K) (grants : σ → ι → Option K)
    (good : σ → Prop) (cap rate : K) where
  level : σ → K → K
  rate_nonneg : 0 ≤ rate
  keeps : ∀ state input, good state → good (step state input)
  timed : ∀ state input now, grants state input = some now → clock input = some now
  nonneg : ∀ state now, good state → 0 ≤ level state now
  level_le : ∀ state now, good state → level state now ≤ cap
  refills : ∀ state now later, now ≤ later →
    level state later ≤ level state now + rate * (later - now)
  pays : ∀ state input now, good state → (∀ time, clock input = some time → time = now) →
    level (step state input) now + (grants state input).toList.length ≤ level state now

namespace Meter

variable {step : σ → ι → σ} {clock : ι → Option K} {grants : σ → ι → Option K} {good : σ → Prop}
  {cap rate : K} (meter : Meter step clock grants good cap rate)

def admitted (step : σ → ι → σ) (grants : σ → ι → Option K) (first last : K) (state : σ)
    (inputs : List ι) : Nat :=
  ((emitted step grants state inputs).filter fun time => first ≤ time ∧ time ≤ last).length

omit [Field K] [IsStrictOrderedRing K] in
theorem admitted_cons (first last : K) (state : σ) (input : ι) (rest : List ι) :
    admitted step grants first last state (input :: rest) =
      ((grants state input).toList.filter fun time => first ≤ time ∧ time ≤ last).length +
        admitted step grants first last (step state input) rest := by
  rw [admitted, emitted, List.filter_append, List.length_append, admitted]

include meter

omit [IsStrictOrderedRing K] in
theorem admitted_of_late {last : K} {inputs : List ι} (first : K) (state : σ)
    (late : ∀ time ∈ inputs.filterMap clock, last < time) :
    admitted step grants first last state inputs = 0 := by
  induction inputs generalizing state with
  | nil => rfl
  | cons input rest ih =>
      have later : ∀ time ∈ rest.filterMap clock, last < time := by
        intro time member
        rcases List.mem_filterMap.mp member with ⟨other, inside, same⟩
        exact late time (List.mem_filterMap.mpr ⟨other, List.mem_cons_of_mem _ inside, same⟩)
      rw [admitted_cons, ih _ later, Nat.add_zero]
      cases admits : grants state input with
      | none => rfl
      | some time =>
          have timed := meter.timed state input time admits
          have outside := late time (List.mem_filterMap.mpr ⟨input, List.mem_cons_self, timed⟩)
          simp [not_le.mpr outside]

omit [IsStrictOrderedRing K] in
theorem admitted_of_untimed {input : ι} (untimed : clock input = none) (state : σ) :
    grants state input = none := by
  cases admits : grants state input with
  | none => rfl
  | some time =>
      rw [meter.timed state input time admits] at untimed
      cases untimed

theorem admitted_le_level {last : K} {inputs : List ι} (first : K) (state : σ) (now : K)
    (start : good state) (sorted : (inputs.filterMap clock).Pairwise (· ≤ ·))
    (after : ∀ time ∈ inputs.filterMap clock, now ≤ time) (before : now ≤ last) :
    (admitted step grants first last state inputs : K) ≤
      meter.level state now + rate * (last - now) := by
  have spare : ∀ instant, instant ≤ last → 0 ≤ rate * (last - instant) := fun instant earlier =>
    mul_nonneg meter.rate_nonneg (sub_nonneg.mpr earlier)
  induction inputs generalizing state now with
  | nil =>
      have none : admitted step grants first last state [] = 0 := rfl
      rw [none, Nat.cast_zero]
      exact add_nonneg (meter.nonneg state now start) (spare now before)
  | cons input rest ih =>
      have next := meter.keeps state input start
      cases timed : clock input with
      | none =>
          rw [List.filterMap_cons_none timed] at sorted after
          have paid := meter.pays state input now start fun time same => by
            rw [timed] at same
            cases same
          rw [meter.admitted_of_untimed timed] at paid
          have rest_le := ih (step state input) now next sorted after before
          rw [admitted_cons, meter.admitted_of_untimed timed]
          simp only [Option.toList_none, List.filter_nil, List.length_nil, Nat.zero_add,
            Nat.cast_zero, add_zero] at paid ⊢
          calc (admitted step grants first last (step state input) rest : K)
              ≤ meter.level (step state input) now + rate * (last - now) := rest_le
            _ ≤ meter.level state now + rate * (last - now) := by gcongr
      | some time =>
          rw [List.filterMap_cons_some timed] at sorted after
          rw [List.pairwise_cons] at sorted
          have reached : now ≤ time := after time List.mem_cons_self
          by_cases inside : time ≤ last
          · have paid := meter.pays state input time start fun other same => by
              rw [timed, Option.some.injEq] at same
              exact same.symm
            have raised := meter.refills state now time reached
            have rest_le := ih (step state input) time next sorted.2 sorted.1 inside
            have counted : (((grants state input).toList.filter fun time =>
                first ≤ time ∧ time ≤ last).length : K) ≤ (grants state input).toList.length :=
              Nat.cast_le.mpr (List.length_filter_le _ _)
            rw [admitted_cons, Nat.cast_add]
            calc _ ≤ ((grants state input).toList.length : K) +
                  (meter.level (step state input) time + rate * (last - time)) :=
                  add_le_add counted rest_le
              _ ≤ meter.level state time + rate * (last - time) := by linarith only [paid]
              _ ≤ meter.level state now + rate * (time - now) + rate * (last - time) := by gcongr
              _ = meter.level state now + rate * (last - now) := by ring
          · have late : ∀ other ∈ (input :: rest).filterMap clock, last < other := by
              rw [List.filterMap_cons_some timed]
              intro other member
              rcases List.mem_cons.mp member with rfl | later
              · exact not_le.mp inside
              · exact lt_of_lt_of_le (not_le.mp inside) (sorted.1 other later)
            rw [meter.admitted_of_late first state late, Nat.cast_zero]
            exact add_nonneg (meter.nonneg state now start) (spare now before)

theorem admitted_le {first last : K} {inputs : List ι} (state : σ) (start : good state)
    (sorted : (inputs.filterMap clock).Pairwise (· ≤ ·)) (ordered : first ≤ last) :
    (admitted step grants first last state inputs : K) ≤ cap + rate * (last - first) := by
  induction inputs generalizing state with
  | nil =>
      have none : admitted step grants first last state [] = 0 := rfl
      rw [none, Nat.cast_zero]
      apply add_nonneg
      · exact (meter.nonneg state first start).trans (meter.level_le state first start)
      · exact mul_nonneg meter.rate_nonneg (sub_nonneg.mpr ordered)
  | cons input rest ih =>
      have next := meter.keeps state input start
      cases timed : clock input with
      | none =>
          rw [List.filterMap_cons_none timed] at sorted
          rw [admitted_cons, meter.admitted_of_untimed timed]
          simpa using ih (step state input) next sorted
      | some time =>
          have sorted' := sorted
          rw [List.filterMap_cons_some timed, List.pairwise_cons] at sorted'
          by_cases early : time < first
          · have outside : ((grants state input).toList.filter fun time =>
                first ≤ time ∧ time ≤ last).length = 0 := by
              cases admits : grants state input with
              | none => rfl
              | some other =>
                  have same := meter.timed state input other admits
                  rw [timed, Option.some.injEq] at same
                  simp [← same, not_le.mpr early]
            rw [admitted_cons, outside, Nat.zero_add]
            exact ih (step state input) next sorted'.2
          · have after : ∀ other ∈ (input :: rest).filterMap clock, first ≤ other := by
              rw [List.filterMap_cons_some timed]
              intro other member
              rcases List.mem_cons.mp member with rfl | later
              · exact not_lt.mp early
              · exact (not_lt.mp early).trans (sorted'.1 other later)
            calc _ ≤ meter.level state first + rate * (last - first) :=
                  meter.admitted_le_level first state first start sorted after ordered
              _ ≤ cap + rate * (last - first) := by
                  gcongr
                  exact meter.level_le state first start

end Meter

/-- A bucket that is credited before each request, never above its capacity, has a token for
every one of them. -/
def ServesAll (capacity : Nat) : Nat → List Nat → Prop
  | _, [] => True
  | tokens, credit :: rest =>
    0 < min (tokens + credit) capacity ∧
      ServesAll capacity (min (tokens + credit) capacity - 1) rest

/-- It has one exactly when no stretch of requests exceeds the capacity and what is credited after
its first one, nor any first requests the tokens there are and what they are credited. -/
theorem servesAll_iff (capacity tokens : Nat) (credits : List Nat) :
    ServesAll capacity tokens credits ↔
      (∀ front, front <+: credits → front.length ≤ tokens + front.sum) ∧
        ∀ window, window <:+: credits → window.length ≤ capacity + window.tail.sum := by
  induction credits generalizing tokens with
  | nil => simp [ServesAll]
  | cons credit rest ih =>
      -- Both bounds on a stretch that starts here are one bound on what follows in it.
      have starts : (0 < min (tokens + credit) capacity ∧ ∀ front, front <+: rest →
            front.length ≤ min (tokens + credit) capacity - 1 + front.sum) ↔
          (∀ front, front <+: rest → front.length + 1 ≤ tokens + (credit + front.sum)) ∧
            ∀ front, front <+: rest → front.length + 1 ≤ capacity + front.sum := by
        constructor
        · rintro ⟨positive, each⟩
          refine ⟨fun front starts => ?_, fun front starts => ?_⟩
          · have bound := each front starts
            omega
          · have bound := each front starts
            omega
        · rintro ⟨earned, capped⟩
          have first := earned [] List.nil_prefix
          have first' := capped [] List.nil_prefix
          rw [List.length_nil, List.sum_nil] at first first'
          refine ⟨by omega, fun front starts => ?_⟩
          have bound := earned front starts
          have bound' := capped front starts
          omega
      rw [ServesAll, ih, ← and_assoc, starts]
      constructor
      · rintro ⟨⟨earned, capped⟩, windows⟩
        refine ⟨fun front starts => ?_, fun window inside => ?_⟩
        · rcases List.prefix_cons_iff.mp starts with rfl | ⟨later, rfl, ahead⟩
          · exact Nat.zero_le _
          · rw [List.length_cons, List.sum_cons]
            exact earned later ahead
        · rcases List.infix_cons_iff.mp inside with starts | inside
          · rcases List.prefix_cons_iff.mp starts with rfl | ⟨later, rfl, ahead⟩
            · exact Nat.zero_le _
            · exact capped later ahead
          · exact windows window inside
      · rintro ⟨fronts, windows⟩
        refine ⟨⟨fun front starts => ?_, fun front starts => ?_⟩, fun window inside => ?_⟩
        · have bound := fronts (credit :: front) (List.cons_prefix_cons.mpr ⟨rfl, starts⟩)
          rwa [List.length_cons, List.sum_cons] at bound
        · exact windows (credit :: front)
            (List.infix_cons_iff.mpr (.inl (List.cons_prefix_cons.mpr ⟨rfl, starts⟩)))
        · exact windows window (List.infix_cons_iff.mpr (.inr inside))

theorem servesAll_full_iff (capacity : Nat) (credits : List Nat) :
    ServesAll capacity capacity credits ↔
      ∀ window, window <:+: credits → window.length ≤ capacity + window.tail.sum := by
  rw [servesAll_iff]
  refine ⟨And.right, fun windows => ⟨fun front starts => ?_, windows⟩⟩
  have bound := windows front starts.isInfix
  have tail : front.tail.sum ≤ front.sum := by
    cases front with
    | nil => exact Nat.le_refl _
    | cons credit rest => exact Nat.le_add_left _ _
  omega

end Foundation
