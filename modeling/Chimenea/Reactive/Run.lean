import Mathlib.Data.List.Infix
import Mathlib.Tactic.Common

/-!
Finite runs of a deterministic reactive system: a state, an input for every
step, and the properties of the boundaries between two steps. Nothing here
depends on what the states and the inputs are.
-/

namespace Reactive

variable {σ ι : Type*} (step : σ → ι → σ)

def run (s : σ) (inputs : List ι) : σ := inputs.foldl step s

@[simp] theorem run_nil (s : σ) : run step s [] = s := rfl

@[simp] theorem run_cons (s : σ) (i : ι) (rest : List ι) :
    run step s (i :: rest) = run step (step s i) rest := rfl

theorem run_append (s : σ) (front back : List ι) :
    run step s (front ++ back) = run step (run step s front) back :=
  List.foldl_append ..

theorem run_concat (s : σ) (front : List ι) (i : ι) :
    run step s (front ++ [i]) = step (run step s front) i := by
  rw [run_append, run_cons, run_nil]

inductive Reachable (init : σ → Prop) : σ → Prop where
  | init {s : σ} (start : init s) : Reachable init s
  | step {s : σ} (i : ι) (before : Reachable init s) : Reachable init (step s i)

variable {step}

theorem Reachable.run {init : σ → Prop} {s : σ} (reached : Reachable step init s)
    (inputs : List ι) : Reachable step init (run step s inputs) := by
  induction inputs generalizing s with
  | nil => exact reached
  | cons i rest ih => exact ih (.step i reached)

/-- What holds initially and is kept by every step holds of each reachable state. -/
theorem Reachable.invariant {init : σ → Prop} (Inv : σ → Prop) (start : ∀ s, init s → Inv s)
    (keep : ∀ s i, Inv s → Inv (step s i)) {s : σ} (reached : Reachable step init s) : Inv s := by
  induction reached with
  | init h => exact start _ h
  | step i _ ih => exact keep _ i ih

theorem run_invariant (Inv : σ → Prop) (keep : ∀ s i, Inv s → Inv (step s i)) {s : σ}
    (start : Inv s) (inputs : List ι) : Inv (run step s inputs) := by
  induction inputs generalizing s with
  | nil => exact start
  | cons i rest ih => exact ih (keep s i start)

theorem run_indexed (Inv : Nat → σ → Prop) (input : Nat → ι) (n : Nat)
    (keep : ∀ k s, k < n → Inv k s → Inv (k + 1) (step s (input k))) {s : σ} (start : Inv 0 s) :
    Inv n (run step s ((List.range n).map input)) := by
  induction n with
  | zero => exact start
  | succ n ih =>
    rw [List.range_succ, List.map_append, List.map_singleton, run_concat]
    exact keep n _ n.lt_succ_self (ih fun k t below => keep k t (by omega))

theorem run_invariant_of_inputs (Inv : σ → Prop) (Allowed : ι → Prop)
    (keep : ∀ s i, Allowed i → Inv s → Inv (step s i)) {s : σ} (start : Inv s)
    (inputs : List ι) (allowed : ∀ i ∈ inputs, Allowed i) : Inv (run step s inputs) := by
  induction inputs generalizing s with
  | nil => exact start
  | cons i rest ih =>
    exact ih (keep s i (allowed i (by simp)) start) (fun j member => allowed j (by simp [member]))

variable (step)

/-- `P` holds at every boundary of the run, the first one included. -/
def Always (P : σ → Prop) (s : σ) (inputs : List ι) : Prop :=
  ∀ front, front <+: inputs → P (run step s front)

/-- Every step of the run meets the guard `G`, which reads the state before the
step and the input of the step. -/
def Steps (G : σ → ι → Prop) : σ → List ι → Prop
  | _, [] => True
  | s, i :: rest => G s i ∧ Steps G (step s i) rest

def count (mark : σ → ι → Bool) : σ → List ι → Nat
  | _, [] => 0
  | s, i :: rest => (if mark s i then 1 else 0) + count mark (step s i) rest

variable {step}

theorem always_nil (P : σ → Prop) (s : σ) : Always step P s [] ↔ P s := by
  simp [Always]

theorem always_cons (P : σ → Prop) (s : σ) (i : ι) (rest : List ι) :
    Always step P s (i :: rest) ↔ P s ∧ Always step P (step s i) rest := by
  constructor
  · intro always
    refine ⟨always [] (List.nil_prefix), ?_⟩
    intro front isPrefix
    exact always (i :: front) (List.prefix_cons_inj i |>.mpr isPrefix)
  · intro both front isPrefix
    obtain ⟨first, later⟩ := both
    cases front with
    | nil => exact first
    | cons j front =>
      obtain ⟨rfl, tail⟩ := List.cons_prefix_cons.mp isPrefix
      exact later front tail

/-- Guarded invariance: an invariant that every step meeting `G` keeps holds
along each run whose steps all meet `G`. -/
theorem always_of_steps (Inv : σ → Prop) (G : σ → ι → Prop)
    (keep : ∀ s i, Inv s → G s i → Inv (step s i)) {s : σ} (start : Inv s) (inputs : List ι)
    (guarded : Steps step G s inputs) : Always step Inv s inputs := by
  induction inputs generalizing s with
  | nil => exact (always_nil Inv s).mpr start
  | cons i rest ih =>
    exact (always_cons Inv s i rest).mpr ⟨start, ih (keep s i start guarded.1) guarded.2⟩

theorem run_of_steps (Inv : σ → Prop) (G : σ → ι → Prop)
    (keep : ∀ s i, Inv s → G s i → Inv (step s i)) {s : σ} (start : Inv s) (inputs : List ι)
    (guarded : Steps step G s inputs) : Inv (run step s inputs) :=
  always_of_steps Inv G keep start inputs guarded inputs List.prefix_rfl

/-- Where the guard decides whether a step keeps `P`, the runs on which `P`
always holds are exactly the runs whose steps all meet the guard. `J` is an
invariant that needs no guard. -/
theorem always_iff_steps (J P : σ → Prop) (G : σ → ι → Prop)
    (keep : ∀ s i, J s → J (step s i))
    (exact_step : ∀ s i, J s → P s → (P (step s i) ↔ G s i))
    {s : σ} (base : J s) (start : P s) (inputs : List ι) :
    Always step P s inputs ↔ Steps step G s inputs := by
  induction inputs generalizing s with
  | nil => simpa [always_nil, Steps] using start
  | cons i rest ih =>
    rw [always_cons, Steps]
    constructor
    · intro always
      obtain ⟨_, later⟩ := always
      have next : P (step s i) := later [] List.nil_prefix
      exact ⟨(exact_step s i base start).mp next, (ih (keep s i base) next).mp later⟩
    · intro guarded
      obtain ⟨guard, later⟩ := guarded
      have next : P (step s i) := (exact_step s i base start).mpr guard
      exact ⟨start, (ih (keep s i base) next).mpr later⟩

theorem always_of_invariant (Inv : σ → Prop) (keep : ∀ s i, Inv s → Inv (step s i)) {s : σ}
    (start : Inv s) (inputs : List ι) : Always step Inv s inputs :=
  fun front _ => run_invariant Inv keep start front

theorem steps_of_invariant (Inv : σ → Prop) (G : σ → ι → Prop)
    (keep : ∀ s i, Inv s → Inv (step s i)) (holds : ∀ s i, Inv s → G s i) {s : σ}
    (start : Inv s) (inputs : List ι) : Steps step G s inputs := by
  induction inputs generalizing s with
  | nil => trivial
  | cons i rest ih => exact ⟨holds s i start, ih (keep s i start)⟩

/-- What every step that meets the guard does in the states of an invariant, it does
all along a guarded run. -/
theorem steps_of_steps (Inv : σ → Prop) (G H : σ → ι → Prop)
    (keep : ∀ s i, Inv s → G s i → Inv (step s i))
    (holds : ∀ s i, Inv s → G s i → H s i) {s : σ} (start : Inv s) (inputs : List ι)
    (guarded : Steps step G s inputs) : Steps step H s inputs := by
  induction inputs generalizing s with
  | nil => trivial
  | cons i rest ih =>
    exact ⟨holds s i start guarded.1, ih (keep s i start guarded.1) guarded.2⟩

theorem Steps.imp {G H : σ → ι → Prop} (weaken : ∀ s i, G s i → H s i) {s : σ} {inputs : List ι}
    (guarded : Steps step G s inputs) : Steps step H s inputs := by
  induction inputs generalizing s with
  | nil => trivial
  | cons i rest ih => exact ⟨weaken s i guarded.1, ih guarded.2⟩

theorem steps_and (G H : σ → ι → Prop) (s : σ) (inputs : List ι) :
    Steps step (fun t i => G t i ∧ H t i) s inputs ↔
      Steps step G s inputs ∧ Steps step H s inputs := by
  induction inputs generalizing s with
  | nil => simp [Steps]
  | cons i rest ih =>
    simp only [Steps, ih (step s i)]
    exact and_and_and_comm

theorem steps_input_iff (G : ι → Prop) (s : σ) (inputs : List ι) :
    Steps step (fun _ i => G i) s inputs ↔ ∀ i ∈ inputs, G i := by
  induction inputs generalizing s with
  | nil => simp [Steps]
  | cons i rest ih => simp [Steps, ih (step s i)]

/-- Guards that agree in every state of an invariant, which the steps that meet the
first of them keep, agree along its runs. -/
theorem steps_iff (Inv : σ → Prop) (G H : σ → ι → Prop)
    (keep : ∀ s i, Inv s → G s i → Inv (step s i))
    (agree : ∀ s i, Inv s → (G s i ↔ H s i)) {s : σ} (start : Inv s) (inputs : List ι) :
    Steps step G s inputs ↔ Steps step H s inputs := by
  induction inputs generalizing s with
  | nil => simp [Steps]
  | cons i rest ih =>
    rw [Steps, Steps, ← agree s i start]
    apply and_congr_right
    intro met
    exact ih (keep s i start met)

/-- For a property that no step restores, the guarded steps decide it at the end
of the run already. -/
theorem run_iff_steps (J P : σ → Prop) (G : σ → ι → Prop) (keep : ∀ s i, J s → J (step s i))
    (exact_step : ∀ s i, J s → (P (step s i) ↔ P s ∧ G s i)) {s : σ} (base : J s)
    (inputs : List ι) : P (run step s inputs) ↔ P s ∧ Steps step G s inputs := by
  induction inputs generalizing s with
  | nil => simp [Steps]
  | cons i rest ih =>
    rw [run_cons, ih (keep s i base), exact_step s i base, Steps, and_assoc]

theorem count_append (mark : σ → ι → Bool) (s : σ) (front back : List ι) :
    count step mark s (front ++ back) =
      count step mark s front + count step mark (run step s front) back := by
  induction front generalizing s with
  | nil => simp [count]
  | cons i rest ih =>
    simp only [List.cons_append, count, run_cons]
    rw [ih (step s i), Nat.add_assoc]

theorem count_concat (mark : σ → ι → Bool) (s : σ) (front : List ι) (i : ι) :
    count step mark s (front ++ [i]) =
      count step mark s front + if mark (run step s front) i then 1 else 0 := by
  rw [count_append]
  simp [count]

theorem count_of_steps (mark : σ → ι → Bool) {s : σ} {inputs : List ι}
    (marked : Steps step (fun t i => mark t i = true) s inputs) :
    count step mark s inputs = inputs.length := by
  induction inputs generalizing s with
  | nil => rfl
  | cons i rest ih =>
    rw [count, if_pos marked.1, ih marked.2, List.length_cons, Nat.add_comm]

theorem steps_append (G : σ → ι → Prop) (s : σ) (front back : List ι) :
    Steps step G s (front ++ back) ↔
      Steps step G s front ∧ Steps step G (run step s front) back := by
  induction front generalizing s with
  | nil => simp [Steps]
  | cons i rest ih => simp only [List.cons_append, Steps, run_cons, ih (step s i), and_assoc]

theorem steps_indexed (Inv : Nat → σ → Prop) (input : Nat → ι) (G : σ → ι → Prop) (n : Nat)
    (keep : ∀ k s, k < n → Inv k s → Inv (k + 1) (step s (input k)))
    (holds : ∀ k s, k < n → Inv k s → G s (input k)) {s : σ} (start : Inv 0 s) :
    Steps step G s ((List.range n).map input) := by
  induction n with
  | zero => trivial
  | succ n ih =>
    have before : ∀ k t, k < n → Inv k t → Inv (k + 1) (step t (input k)) :=
      fun k t below => keep k t (by omega)
    rw [List.range_succ, List.map_append, List.map_singleton, steps_append]
    refine ⟨ih before fun k t below => holds k t (by omega), ?_, trivial⟩
    exact holds n _ n.lt_succ_self (run_indexed Inv input n before start)

end Reactive
