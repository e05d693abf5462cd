import Caraka.Foundation.Lru
import Caraka.Foundation.Transition

/-! Accepting each key at most once with the help of a cache that is never full. -/

namespace Foundation

variable {κ : Type} [DecidableEq κ]

theorem toFinset_touches (order keys : List κ) :
    (keys.foldl touch order).toFinset = (order ++ keys).toFinset := by
  induction keys generalizing order with
  | nil => rw [List.append_nil, List.foldl_nil]
  | cons key keys ih =>
      rw [List.foldl_cons, ih]
      ext other
      simp only [touch, List.mem_toFinset, List.mem_append, List.mem_cons]
      by_cases same : other = key
      · simp [same]
      · simp [same, List.mem_erase_of_ne same]

theorem nodup_touches {order : List κ} (nodup : order.Nodup) (keys : List κ) :
    (keys.foldl touch order).Nodup := by
  induction keys generalizing order with
  | nil => exact nodup
  | cons key keys ih => exact ih (nodup_touch nodup key)

namespace Lru

variable {capacity : Nat}

theorem mem_putAll_of_few {cache : Lru capacity κ} {keys : List κ}
    (few : (cache.recent ++ keys).toFinset.card ≤ capacity) {key : κ}
    (member : key ∈ cache.recent ++ keys) : key ∈ (cache.putAll keys).recent := by
  have distinct := nodup_touches cache.nodup keys
  have whole : (keys.foldl touch cache.recent).length ≤ capacity := by
    rw [← List.toFinset_card_of_nodup distinct, toFinset_touches]
    exact few
  rw [recent_putAll, List.take_of_length_le whole, ← List.mem_toFinset, toFinset_touches,
    List.mem_toFinset]
  exact member

theorem subset_putAll (cache : Lru capacity κ) (keys : List κ) :
    (cache.putAll keys).recent ⊆ cache.recent ++ keys := by
  intro key member
  rw [recent_putAll] at member
  rw [← List.mem_toFinset, ← toFinset_touches, List.mem_toFinset]
  exact List.mem_of_mem_take member

end Lru

section Runs

variable {σ ι : Type} {capacity : Nat} {step : σ → ι → σ} {cache : σ → Lru capacity κ}
  {register accept : σ → ι → Option κ}

/-- Every key ever in the cache, the first and the later ones. -/
def everCached (step : σ → ι → σ) (cache : σ → Lru capacity κ) (register : σ → ι → Option κ)
    (state : σ) (inputs : List ι) : List κ :=
  (cache state).recent ++ emitted step register state inputs

theorem few_of_cons
    (puts : ∀ state input,
      cache (step state input) = (cache state).putAll (register state input).toList)
    {state : σ} {input : ι} {rest : List ι}
    (few : (everCached step cache register state (input :: rest)).toFinset.card ≤ capacity) :
    (everCached step cache register (step state input) rest).toFinset.card ≤ capacity := by
  apply le_trans (Finset.card_le_card _) few
  intro key member
  simp only [everCached, emitted, List.mem_toFinset, List.mem_append] at member ⊢
  rcases member with cached | later
  · rw [puts] at cached
    rcases List.mem_append.mp (Lru.subset_putAll _ _ cached) with old | new
    · exact .inl old
    · exact .inr (.inl new)
  · exact .inr (.inr later)

theorem kept_of_few
    (puts : ∀ state input,
      cache (step state input) = (cache state).putAll (register state input).toList)
    {state : σ} {input : ι} {rest : List ι}
    (few : (everCached step cache register state (input :: rest)).toFinset.card ≤ capacity)
    {key : κ} (held : key ∈ (cache state).recent ∨ register state input = some key) :
    key ∈ (cache (step state input)).recent := by
  rw [puts]
  apply Lru.mem_putAll_of_few
  · apply le_trans (Finset.card_le_card _) few
    intro other member
    simp only [everCached, emitted, List.mem_toFinset, List.mem_append] at member ⊢
    rcases member with old | new
    · exact .inl old
    · exact .inr (.inl new)
  · rw [List.mem_append, Option.mem_toList]
    exact held

variable
    (puts : ∀ state input,
      cache (step state input) = (cache state).putAll (register state input).toList)
    (fresh : ∀ state input key, accept state input = some key →
      register state input = some key ∧ key ∉ (cache state).recent)

include puts fresh

theorem not_accepted_of_cached {state : σ} {inputs : List ι}
    (few : (everCached step cache register state inputs).toFinset.card ≤ capacity) {key : κ}
    (held : key ∈ (cache state).recent) : key ∉ emitted step accept state inputs := by
  induction inputs generalizing state with
  | nil => exact List.not_mem_nil
  | cons input rest ih =>
      intro member
      rcases List.mem_append.mp member with now | later
      · rw [Option.mem_toList] at now
        exact (fresh state input key now).2 held
      · exact ih (few_of_cons puts few) (kept_of_few puts few (.inl held)) later

theorem accepted_nodup {state : σ} {inputs : List ι}
    (few : (everCached step cache register state inputs).toFinset.card ≤ capacity) :
    (emitted step accept state inputs).Nodup := by
  induction inputs generalizing state with
  | nil => exact List.nodup_nil
  | cons input rest ih =>
      have later := ih (few_of_cons puts few)
      rw [emitted]
      cases accepts : accept state input with
      | none => exact later
      | some key =>
          have registered := (fresh state input key accepts).1
          have held := kept_of_few puts few (.inr registered)
          have absent := not_accepted_of_cached puts fresh (few_of_cons puts few) held
          exact List.nodup_cons.mpr ⟨absent, later⟩

theorem not_accepted_after {state : σ} {front back : List ι} {input : ι} {key : κ}
    (few : (everCached step cache register state (front ++ input :: back)).toFinset.card ≤ capacity)
    (registers : register (run step state front) input = some key) :
    key ∉ emitted step accept (run step state (front ++ [input])) back := by
  induction front generalizing state with
  | nil =>
      have held := kept_of_few puts few (.inr registers)
      exact not_accepted_of_cached puts fresh (few_of_cons puts few) held
  | cons first front ih => exact ih (few_of_cons puts few) registers

end Runs

end Foundation
