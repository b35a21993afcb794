import Chimenea.Reactive.Run

/-!
Countdowns. A natural quantity that every marked step lowers by one, and that no
other step changes, runs out at the marked step whose number is the quantity the
run started with.
-/

namespace Reactive

variable {σ ι : Type*} {step : σ → ι → σ}

variable (step) in
theorem count_le_length (mark : σ → ι → Bool) (s : σ) (inputs : List ι) :
    count step mark s inputs ≤ inputs.length := by
  induction inputs generalizing s with
  | nil => exact le_rfl
  | cons i rest ih =>
    have later := ih (step s i)
    simp only [count, List.length_cons]
    split_ifs <;> omega

theorem count_eq_zero (mark : σ → ι → Bool) (s : σ) (inputs : List ι)
    (never : ∀ t, ∀ i ∈ inputs, mark t i = false) : count step mark s inputs = 0 := by
  induction inputs generalizing s with
  | nil => rfl
  | cons i rest ih =>
    have first : mark s i = false := never s i (by simp)
    simp only [count, first, ih (step s i) fun t j member => never t j (by simp [member])]
    rfl

variable (step) in
theorem count_split (whole part other : σ → ι → Bool)
    (parts : ∀ s i, (if whole s i then 1 else 0) =
      (if part s i then 1 else 0) + if other s i then 1 else 0) (s : σ) (inputs : List ι) :
    count step whole s inputs = count step part s inputs + count step other s inputs := by
  induction inputs generalizing s with
  | nil => rfl
  | cons i rest ih =>
    have head := parts s i
    have tail := ih (step s i)
    simp only [count]
    omega

/-- The quantity runs out in the last step of a run and in no earlier one exactly
when that step is marked and the marked steps number what the run started with. -/
theorem runs_out_last_iff (left : σ → Nat) (mark : σ → ι → Bool) (Allowed : ι → Prop)
    (down : ∀ s i, Allowed i → left (step s i) = left s - if mark s i then 1 else 0)
    (Out : σ → ι → Prop) (out : ∀ s i, Allowed i → (Out s i ↔ mark s i = true ∧ left s = 1))
    (s : σ) (front : List ι) (last : ι) (allowed : ∀ i ∈ front, Allowed i)
    (allowedLast : Allowed last) :
    (Steps step (fun t i => ¬ Out t i) s front ∧ Out (run step s front) last) ↔
      mark (run step s front) last = true ∧ left s = count step mark s front + 1 := by
  induction front generalizing s with
  | nil => simp [Steps, count, out s last allowedLast]
  | cons i rest ih =>
    have first := allowed i (by simp)
    have later := ih (step s i) fun j member => allowed j (by simp [member])
    rw [Steps, run_cons, and_assoc, later, out s i first, down s i first, count]
    constructor
    · intro later
      obtain ⟨notYet, marked, rest⟩ := later
      refine ⟨marked, ?_⟩
      split_ifs at rest ⊢ <;> omega
    · intro later
      obtain ⟨marked, total⟩ := later
      refine ⟨?_, marked, by omega⟩
      intro out
      obtain ⟨here, one⟩ := out
      rw [if_pos here] at total
      omega

end Reactive
