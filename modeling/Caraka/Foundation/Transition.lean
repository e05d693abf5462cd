import Mathlib.Data.List.Basic

/-! Deterministic transition systems: runs, invariants and guards met along a run. -/

namespace Foundation

variable {σ ι : Type}

/-- The state after a list of inputs. -/
def run (step : σ → ι → σ) (start : σ) (inputs : List ι) : σ := inputs.foldl step start

/-- Every state of the run, the first and the last included, satisfies `good`. -/
def Always (step : σ → ι → σ) (good : σ → Prop) : σ → List ι → Prop
  | state, [] => good state
  | state, input :: rest => good state ∧ Always step good (step state input) rest

/-- Every input meets `guard` in the state it arrives in. -/
def Along (step : σ → ι → σ) (guard : σ → ι → Prop) : σ → List ι → Prop
  | _, [] => True
  | state, input :: rest => guard state input ∧ Along step guard (step state input) rest

/-- What is emitted along a run, in order. -/
def emitted {ω : Type} (step : σ → ι → σ) (emit : σ → ι → Option ω) : σ → List ι → List ω
  | _, [] => []
  | state, input :: rest => (emit state input).toList ++ emitted step emit (step state input) rest

variable {step : σ → ι → σ}

@[simp] theorem run_nil (state : σ) : run step state [] = state := rfl

@[simp] theorem run_cons (state : σ) (input : ι) (rest : List ι) :
    run step state (input :: rest) = run step (step state input) rest := rfl

theorem run_append (state : σ) (front back : List ι) :
    run step state (front ++ back) = run step (run step state front) back := List.foldl_append ..

theorem run_concat (state : σ) (front : List ι) (last : ι) :
    run step state (front ++ [last]) = step (run step state front) last := by
  rw [run_append, run_cons, run_nil]

theorem run_keeps {good : σ → Prop} {guard : σ → ι → Prop}
    (keeps : ∀ state input, good state → guard state input → good (step state input))
    (state : σ) (inputs : List ι) (start : good state) (along : Along step guard state inputs) :
    good (run step state inputs) := by
  induction inputs generalizing state with
  | nil => exact start
  | cons input rest ih => exact ih _ (keeps state input start along.1) along.2

theorem run_induction {good : σ → Prop}
    (keeps : ∀ state input, good state → good (step state input))
    (state : σ) (inputs : List ι) (start : good state) : good (run step state inputs) := by
  induction inputs generalizing state with
  | nil => exact start
  | cons input rest ih => exact ih _ (keeps state input start)

theorem emitted_append {ω : Type} {emit : σ → ι → Option ω} (state : σ) (front back : List ι) :
    emitted step emit state (front ++ back) =
      emitted step emit state front ++ emitted step emit (run step state front) back := by
  induction front generalizing state with
  | nil => rfl
  | cons input rest ih => simp [emitted, ih]

theorem exists_of_mem_emitted {ω : Type} {emit : σ → ι → Option ω} {state : σ} {inputs : List ι}
    {output : ω} (member : output ∈ emitted step emit state inputs) :
    ∃ front input back, inputs = front ++ input :: back ∧
      emit (run step state front) input = some output := by
  induction inputs generalizing state with
  | nil => cases member
  | cons first rest ih =>
      rcases List.mem_append.mp member with now | later
      · exact ⟨[], first, rest, rfl, Option.mem_toList.mp now⟩
      · rcases ih later with ⟨front, input, back, rfl, emits⟩
        exact ⟨first :: front, input, back, rfl, emits⟩

theorem length_emitted_le {ω : Type} (emit : σ → ι → Option ω) (state : σ) (inputs : List ι) :
    (emitted step emit state inputs).length ≤ inputs.length := by
  induction inputs generalizing state with
  | nil => exact Nat.le_refl _
  | cons input rest ih =>
      have later := ih (step state input)
      have now : (emit state input).toList.length ≤ 1 := by
        cases emit state input with
        | none => exact Nat.zero_le _
        | some value => exact Nat.le_refl _
      rw [emitted, List.length_append, List.length_cons]
      omega

/-- A view that each step changes only by what the step emits is, after a run, what everything
emitted makes of it. -/
theorem view_run {α ω : Type} {view : σ → α} {emit : σ → ι → Option ω} {update : α → ω → α}
    (each : ∀ state input,
      view (step state input) = (emit state input).toList.foldl update (view state))
    (state : σ) (inputs : List ι) :
    view (run step state inputs) = (emitted step emit state inputs).foldl update (view state) := by
  induction inputs generalizing state with
  | nil => rfl
  | cons input rest ih => rw [run_cons, ih, each, emitted, List.foldl_append]

theorem view_run_along {α ω : Type} {view : σ → α} {emit : σ → ι → Option ω} {update : α → ω → α}
    {good : σ → Prop} {guard : σ → ι → Prop}
    (keeps : ∀ state input, good state → guard state input → good (step state input))
    (each : ∀ state input, good state → guard state input →
      view (step state input) = (emit state input).toList.foldl update (view state))
    (state : σ) (inputs : List ι) (start : good state) (along : Along step guard state inputs) :
    view (run step state inputs) = (emitted step emit state inputs).foldl update (view state) := by
  induction inputs generalizing state with
  | nil => rfl
  | cons input rest ih =>
      rw [run_cons, ih _ (keeps state input start along.1) along.2,
        each state input start along.1, emitted, List.foldl_append]

theorem along_append {guard : σ → ι → Prop} (state : σ) (front back : List ι) :
    Along step guard state (front ++ back) ↔
      Along step guard state front ∧ Along step guard (run step state front) back := by
  induction front generalizing state with
  | nil => simp [Along]
  | cons input rest ih => simp [Along, ih, and_assoc]

theorem along_iff {guard : σ → ι → Prop} (state : σ) (inputs : List ι) :
    Along step guard state inputs ↔
      ∀ front input back, inputs = front ++ input :: back →
        guard (run step state front) input := by
  constructor
  · rintro along front input back rfl
    exact ((along_append state front (input :: back)).mp along).2.1
  · intro each
    induction inputs generalizing state with
    | nil => trivial
    | cons input rest ih =>
        refine ⟨each [] input rest rfl, ih _ fun front later back split => ?_⟩
        exact each (input :: front) later back (congrArg (input :: ·) split)

theorem always_iff {good : σ → Prop} (state : σ) (inputs : List ι) :
    Always step good state inputs ↔
      ∀ front back, inputs = front ++ back → good (run step state front) := by
  induction inputs generalizing state with
  | nil =>
      constructor
      · rintro start front back split
        rcases List.append_eq_nil_iff.mp split.symm with ⟨rfl, rfl⟩
        exact start
      · intro each
        exact each [] [] rfl
  | cons input rest ih =>
      rw [Always, ih]
      constructor
      · rintro ⟨start, later⟩ front back split
        cases front with
        | nil => exact start
        | cons first front =>
            simp only [List.cons_append, List.cons.injEq] at split
            rcases split with ⟨rfl, rest_split⟩
            exact later front back rest_split
      · intro each
        refine ⟨each [] _ rfl, fun front back split => each (input :: front) back ?_⟩
        rw [split, List.cons_append]

/-- Where just the guarded steps keep a property, it holds in every state of a run exactly when
the run meets the guard throughout. -/
theorem always_iff_along_of_mem {good frame : σ → Prop} {guard : σ → ι → Prop} {allowed : ι → Prop}
    (framed : ∀ state input, allowed input → frame state → frame (step state input))
    (kept_iff : ∀ state input, allowed input → frame state → good state →
      (good (step state input) ↔ guard state input))
    (state : σ) (inputs : List ι) (each : ∀ input ∈ inputs, allowed input) (inside : frame state)
    (start : good state) :
    Always step good state inputs ↔ Along step guard state inputs := by
  induction inputs generalizing state with
  | nil => simp [Always, Along, start]
  | cons input rest ih =>
      have permitted := each input List.mem_cons_self
      have here := kept_iff state input permitted inside start
      by_cases met : guard state input
      · simp only [Always, Along, start, met, true_and]
        exact ih _ (fun later member => each later (List.mem_cons_of_mem _ member))
          (framed state input permitted inside) (here.mpr met)
      · simp only [Always, Along, met, false_and, iff_false, not_and]
        intro _ always
        apply met
        apply here.mp
        exact (always_iff _ rest).mp always [] rest rfl

theorem always_iff_along {good frame : σ → Prop} {guard : σ → ι → Prop}
    (framed : ∀ state input, frame state → frame (step state input))
    (keeps : ∀ state input, frame state → good state → guard state input →
      good (step state input))
    (breaks : ∀ state input, frame state → good state → ¬ guard state input →
      ¬ good (step state input))
    (state : σ) (inputs : List ι) (inside : frame state) (start : good state) :
    Always step good state inputs ↔ Along step guard state inputs :=
  always_iff_along_of_mem (fun state input (_ : True) => framed state input)
    (fun state input _ inside start =>
      ⟨fun kept => by_contra fun refused => breaks state input inside start refused kept,
        keeps state input inside start⟩)
    state inputs (fun _ _ => trivial) inside start

/-- A property that no step restores holds in every state of a run once it holds in the last. -/
theorem always_iff_run {good : σ → Prop}
    (lost : ∀ state input, good (step state input) → good state)
    (state : σ) (inputs : List ι) :
    Always step good state inputs ↔ good (run step state inputs) := by
  induction inputs generalizing state with
  | nil => rfl
  | cons input rest ih =>
      rw [Always, ih, run_cons, and_iff_right_iff_imp, ← ih]
      intro later
      apply lost state input
      exact (always_iff _ rest).mp later [] rest rfl

end Foundation
