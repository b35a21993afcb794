import Mathlib.Data.List.Basic
import Mathlib.Tactic.Common

/-!
Runs of a system whose steps may not return, and put something out where they do.
-/

namespace Reactive

variable {σ ι ο : Type*}

/-- The state after the steps and what each of them put out, if all have returned. -/
def trace (step : σ → ι → Option (σ × ο)) (s : σ) : List ι → Option (σ × List ο)
  | [] => some (s, [])
  | i :: rest =>
    (step s i).bind fun (t, o) => (trace step t rest).map fun (u, later) => (u, o :: later)

variable {step : σ → ι → Option (σ × ο)} {s u : σ} {i : ι} {rest : List ι} {outputs : List ο}

theorem trace_cons (run : trace step s (i :: rest) = some (u, outputs)) :
    ∃ t o later, step s i = some (t, o) ∧ trace step t rest = some (u, later) ∧
      outputs = o :: later := by
  obtain ⟨⟨t, o⟩, first, run⟩ := Option.bind_eq_some_iff.1 run
  obtain ⟨⟨last, later⟩, second, same⟩ := Option.map_eq_some_iff.1 run
  obtain ⟨rfl, rfl⟩ := Prod.mk.inj same
  exact ⟨t, o, later, first, second, rfl⟩

/-- What holds of no steps, and of one step more whenever it holds of some, holds of the
inputs of a run, its outputs and the state it ends in. -/
theorem trace_invariant (Inv : List ι → List ο → σ → Prop) (Allowed : ι → Prop)
    (keep : ∀ inputs outputs s i t o, Allowed i → Inv inputs outputs s → step s i = some (t, o) →
      Inv (inputs ++ [i]) (outputs ++ [o]) t)
    (start : Inv [] [] s) {inputs : List ι} (allowed : ∀ i ∈ inputs, Allowed i)
    (run : trace step s inputs = some (u, outputs)) : Inv inputs outputs u := by
  suffices later : ∀ front told, Inv front told s → Inv (front ++ inputs) (told ++ outputs) u from
    later [] [] start
  clear start
  induction inputs generalizing s outputs with
  | nil =>
    intro front told before
    obtain ⟨rfl, rfl⟩ := Prod.mk.inj (Option.some.inj run)
    rw [List.append_nil, List.append_nil]
    exact before
  | cons i rest ih =>
    intro front told before
    obtain ⟨t, o, later, first, second, rfl⟩ := trace_cons run
    have next := keep front told s i t o (allowed i (List.mem_cons_self ..)) before first
    have after := ih (fun j member => allowed j (List.mem_cons_of_mem _ member)) second _ _ next
    rw [List.append_assoc, List.append_assoc] at after
    exact after

end Reactive
