import Chimenea.Reactive.Run

/-!
A system and a monitor beside it. The monitor reads every step of the system; the
system never reads the monitor, so what its steps meet they meet unwatched.
-/

namespace Reactive

variable {σ ι μ : Type*}

def watch (step : σ → ι → σ) (observe : μ → σ → ι → μ) : σ × μ → ι → σ × μ :=
  fun pair i => (step pair.1 i, observe pair.2 pair.1 i)

variable {step : σ → ι → σ} (observe : μ → σ → ι → μ)

theorem steps_watch (G : σ → ι → Prop) (s : σ) (m : μ) (inputs : List ι) :
    Steps (watch step observe) (fun pair i => G pair.1 i) (s, m) inputs ↔
      Steps step G s inputs := by
  induction inputs generalizing s m with
  | nil => exact Iff.rfl
  | cons i rest ih => exact and_congr Iff.rfl (ih (step s i) (observe m s i))

theorem run_watch (s : σ) (m : μ) (inputs : List ι) :
    (run (watch step observe) (s, m) inputs).1 = run step s inputs := by
  induction inputs generalizing s m with
  | nil => rfl
  | cons i rest ih => exact ih (step s i) (observe m s i)

end Reactive
