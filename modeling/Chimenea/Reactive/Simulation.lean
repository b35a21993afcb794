import Chimenea.Reactive.Run

/-!
Two runs of one system under the same inputs. A view that every step respects keeps
two runs together, and states that agree in it cannot be told apart by what is seen
of the view.
-/

namespace Reactive

variable {σ ι ν ω : Type*} (step : σ → ι → σ)

/-- The view after a step depends on the state before it through the view only. -/
def Respects (view : σ → ν) : Prop :=
  ∀ s t i, view s = view t → view (step s i) = view (step t i)

/-- What is seen of the two states stays the same under every continuation. -/
def Indistinguishable (see : σ → ω) (s t : σ) : Prop :=
  ∀ inputs : List ι, see (run step s inputs) = see (run step t inputs)

variable {step}

theorem Respects.run {view : σ → ν} (respects : Respects step view) {s t : σ}
    (same : view s = view t) (inputs : List ι) :
    view (run step s inputs) = view (run step t inputs) := by
  induction inputs generalizing s t with
  | nil => exact same
  | cons i rest ih => exact ih (respects s t i same)

theorem Respects.indistinguishable {view : σ → ν} (respects : Respects step view)
    (see : σ → ω) (seen : ∀ s t, view s = view t → see s = see t) {s t : σ}
    (same : view s = view t) : Indistinguishable step see s t := by
  intro inputs
  exact seen _ _ (respects.run same inputs)

end Reactive
