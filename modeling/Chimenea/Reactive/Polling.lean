import Mathlib.Data.List.Chain
import Chimenea.Reactive.Monitor

/-!
Polled timers. A timer that is polled from time to time fires at the first poll a period
or more after it last fired. How far apart its firings are depends on the polls through
the gaps between them only.
-/

namespace Reactive

/-- The polls at which a timer fires that fired at `last` before them. -/
def firings (period : Nat) : Nat → List Nat → List Nat
  | _, [] => []
  | last, t :: rest =>
    if last + period ≤ t then t :: firings period t rest else firings period last rest

section Marked

variable {σ ι : Type*} (step : σ → ι → σ) (mark : σ → ι → Bool) (instant : ι → Nat)

/-- The inputs of the marked steps of a run. -/
def marked : σ → List ι → List ι
  | _, [] => []
  | s, i :: rest => if mark s i = true then i :: marked (step s i) rest else marked (step s i) rest

/-- A monitor that holds the instant of the last marked step. -/
def lastMark (last : Nat) (s : σ) (i : ι) : Nat := if mark s i = true then instant i else last

variable {step mark instant}

/-- A run that marks a step exactly when the period is over marks the firings of the timer. -/
theorem marked_eq_firings {period : Nat} {s : σ} {last : Nat} {inputs : List ι}
    (punctual : Steps (watch step (lastMark mark instant))
      (fun pair i => mark pair.1 i = true ↔ pair.2 + period ≤ instant i) (s, last) inputs) :
    (marked step mark s inputs).map instant = firings period last (inputs.map instant) := by
  induction inputs generalizing s last with
  | nil => rfl
  | cons i rest ih =>
    obtain ⟨first, later⟩ := punctual
    have rest := ih later
    simp only [lastMark] at rest
    by_cases marks : mark s i = true
    · rw [if_pos marks] at rest
      rw [marked, if_pos marks, List.map_cons, List.map_cons, firings, if_pos (first.mp marks), rest]
    · rw [if_neg marks] at rest
      rw [marked, if_neg marks, List.map_cons, firings, if_neg (mt first.mpr marks), rest]

end Marked

/-- No poll comes more than `d` after the one before it. -/
def Spaced (d : Nat) (polls : List Nat) : Prop := polls.IsChain fun a b => a ≤ b ∧ b ≤ a + d

section Firings

variable {period d : Nat}

theorem firings_from (positive : 0 < period) (last seen : Nat)
    (recent : last ≤ seen ∧ seen < last + period) (polls : List Nat)
    (spaced : Spaced d (seen :: polls)) :
    (last :: firings period last polls).IsChain
      fun a b => a + period ≤ b ∧ b < a + (period + d) := by
  induction polls generalizing last seen with
  | nil => exact .singleton last
  | cons t rest ih =>
    obtain ⟨gap, later⟩ := List.isChain_cons_cons.mp spaced
    unfold firings
    split_ifs with fires
    · have next := ih t t ⟨le_rfl, by omega⟩ later
      exact List.isChain_cons_cons.mpr ⟨⟨fires, by omega⟩, next⟩
    · exact ih last t ⟨by omega, by omega⟩ later

/-- Wherever the timer started, its firings are a period apart or more, and less than
a period and a gap. -/
theorem firings_apart (positive : 0 < period) (last : Nat) (polls : List Nat)
    (spaced : Spaced d polls) : (firings period last polls).IsChain
      fun a b => a + period ≤ b ∧ b < a + (period + d) := by
  induction polls with
  | nil => exact .nil
  | cons t rest ih =>
    unfold firings
    split_ifs with fires
    · exact firings_from positive t t ⟨le_rfl, by omega⟩ rest spaced
    · exact ih spaced.of_cons

end Firings

/-- Steps that lie in a range add up over any number of them. -/
theorem chain_total {low high : Nat} {times : List Nat}
    (apart : times.IsChain fun a b => a + low ≤ b ∧ b < a + high) (j k : Nat)
    (within : j + k + 1 < times.length) :
    times[j] + low * (k + 1) ≤ times[j + k + 1] ∧
      times[j + k + 1] < times[j] + high * (k + 1) := by
  induction k with
  | zero => simpa using apart.getElem j within
  | succ k ih =>
    obtain ⟨least, most⟩ := ih (by omega)
    have one : times[j + k + 1] + low ≤ times[j + (k + 1) + 1] ∧
        times[j + (k + 1) + 1] < times[j + k + 1] + high :=
      apart.getElem (j + k + 1) within
    rw [Nat.mul_succ low, Nat.mul_succ high]
    exact ⟨by omega, by omega⟩

end Reactive
