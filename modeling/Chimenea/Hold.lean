import Chimenea.Press
import Mathlib.Data.Nat.Find
import Mathlib.Order.Monotone.Defs

/-!
The hold loop. It polls the start button until a poll finds it released and looks at
nothing else meanwhile, so how long the execution stays in it, and how old the flame
reading is that the execution then supervises with, is up to the button.
-/

namespace Chimenea.Hold
open Arduino Sketch Phases Ordenes Press

/-- The start button from the moment `tiempo` is taken: its level at each poll of the
hold loop, and the real millisecond of the poll, which goes on for ever. -/
structure Traza where
  inicio : Nat
  nivel : Nat → Bool
  instante : Nat → Nat
  empieza : inicio ≤ instante 0
  avanza : Monotone instante
  sinFin : ∀ t, ∃ k, t < instante k

namespace Traza

variable (traza : Traza)

def tiempo : BitVec 32 := BitVec.ofNat 32 traza.inicio

def millis (k : Nat) : BitVec 32 := BitVec.ofNat 32 (traza.instante k)

/-- What the execution has read when poll `k` ends its hold loop. -/
def entrada (e : Entrada) (k : Nat) : Entrada :=
  { e with tiempo := traza.tiempo, pulsos := (List.range k).map traza.millis }

end Traza

/-- `while(digitalRead(botonEncendido) == HIGH)` from poll `k` on, with the number of the
poll that ends it; `none` when `fuel` polls do not. -/
def esperar (traza : Traza) : Nat → Nat → State → Option (Nat × State)
  | 0, _, _ => none
  | fuel + 1, k, s =>
    if traza.nivel k = HIGH then
      esperar traza fuel (k + 1) (sostener traza.tiempo.toInt s (traza.millis k))
    else some (k, s)

/-- `loop()` with the button of the trace. Of the input, what comes before the hold loop
is read before it and the rest after it. -/
def ejecucion (fuel : Nat) (s : State) (e : Entrada) (traza : Traza) : Option (Nat × State) := do
  let s := alPulsar s e
  let s := if e.botonEncendido = HIGH then pulsarEncendido s else s
  let (k, s) ← esperar traza fuel 0 s
  let s := if e.botonApagado = HIGH then apagar s else s
  let s := encendidoControlRemoto s e
  some (k, tick (encendidoChimenea (lecturaEstadoChimenea s)) e)

section Loop

variable {traza : Traza}

theorem esperar_released (n k fuel : Nat) (s : State) (enough : n < fuel)
    (held : ∀ j < n, traza.nivel (k + j) = HIGH) (released : traza.nivel (k + n) = LOW) :
    esperar traza fuel k s = some (k + n,
      ((List.range' k n).map traza.millis).foldl (sostener traza.tiempo.toInt) s) := by
  induction n generalizing k fuel s with
  | zero =>
    obtain ⟨fuel, rfl⟩ := Nat.exists_eq_succ_of_ne_zero enough.ne'
    rw [Nat.add_zero] at released
    rw [esperar, if_neg (by simp [released])]
    rfl
  | succ n ih =>
    obtain ⟨fuel, rfl⟩ := Nat.exists_eq_succ_of_ne_zero (Nat.ne_zero_of_lt enough)
    have first : traza.nivel k = HIGH := held 0 n.succ_pos
    have shift (j : Nat) : k + 1 + j = k + (j + 1) := by omega
    have rest := ih (k + 1) fuel (sostener traza.tiempo.toInt s (traza.millis k)) (by omega)
      (fun j early => by rw [shift]; exact held (j + 1) (by omega)) (by rw [shift]; exact released)
    rw [esperar, if_pos first, rest, shift]
    rfl

theorem esperar_ends {fuel k n : Nat} {s t : State} (ended : esperar traza fuel k s = some (n, t)) :
    traza.nivel n = LOW := by
  induction fuel generalizing k s with
  | zero => simp [esperar] at ended
  | succ fuel ih =>
    rw [esperar] at ended
    split_ifs at ended with pressed
    · exact ih ended
    · rw [Option.some.injEq, Prod.mk.injEq] at ended
      rw [← ended.1]
      exact eq_false_of_ne_true pressed

/-- Once the button is released the execution is one of `loop()`, messages, inputs,
supervision and tick included. -/
theorem ejecucion_released (s : State) (e : Entrada) {k fuel : Nat} (enough : k < fuel)
    (held : ∀ j < k, traza.nivel j = HIGH) (released : traza.nivel k = LOW) :
    ejecucion fuel s e traza = some (k, loop s (traza.entrada e k)) := by
  have ended := esperar_released k 0 fuel
    (if e.botonEncendido = HIGH then pulsarEncendido (alPulsar s e) else alPulsar s e) enough
    (by simpa using held) (by simpa using released)
  rw [Nat.zero_add, ← List.range_eq_range'] at ended
  simp only [ejecucion, ended]
  rfl

end Loop

/-- The execution leaves the hold loop within `plazo` milliseconds and goes on as one of
`loop()`, with a flame reading no older than that. -/
def AtiendeEn (plazo : Nat) (s : State) (e : Entrada) (traza : Traza) : Prop :=
  ∃ fuel k, ejecucion fuel s e traza = some (k, loop s (traza.entrada e k)) ∧
    traza.instante k ≤ traza.inicio + plazo

/-- What ends the hold loop is a poll that finds the button released. -/
theorem AtiendeEn.released {plazo : Nat} {s : State} {e : Entrada} {traza : Traza}
    (attended : AtiendeEn plazo s e traza) :
    ∃ k, traza.nivel k = LOW ∧ traza.instante k ≤ traza.inicio + plazo := by
  obtain ⟨fuel, k, ran, soon⟩ := attended
  simp only [ejecucion, Option.bind_eq_bind, Option.bind_eq_some_iff, Prod.exists] at ran
  obtain ⟨n, t, ended, rest⟩ := ran
  simp only [Option.some.injEq, Prod.mk.injEq] at rest
  exact ⟨k, rest.1 ▸ esperar_ends ended, soon⟩

/-- The hold loop ends in time exactly when the button is found released in time. -/
theorem hold_bounded_iff (plazo : Nat) (s : State) (e : Entrada) (traza : Traza) :
    AtiendeEn plazo s e traza ↔
      ∃ k, traza.nivel k = LOW ∧ traza.instante k ≤ traza.inicio + plazo := by
  constructor
  · exact AtiendeEn.released
  · intro found
    obtain ⟨k, released, soon⟩ := found
    have some : ∃ n, traza.nivel n = LOW := ⟨k, released⟩
    have early : Nat.find some ≤ k := Nat.find_min' some released
    refine ⟨Nat.find some + 1, Nat.find some, ?_, (traza.avanza early).trans soon⟩
    apply ejecucion_released s e (Nat.lt_succ_self _)
    · intro j before
      exact eq_true_of_ne_false (Nat.find_min some before)
    · exact Nat.find_spec some

/-- The button is held for ever. -/
def pulsada : Traza where
  inicio := 0
  nivel := fun _ => HIGH
  instante := fun k => k
  empieza := le_rfl
  avanza := fun _ _ later => later
  sinFin := fun t => ⟨t + 1, Nat.lt_succ_self t⟩

theorem held_button_suspends_loop :
    ¬ ∃ plazo, ∀ (s : State) (e : Entrada) (traza : Traza), Alcanzable s →
      AtiendeEn plazo s e traza := by
  intro bounded
  obtain ⟨plazo, attends⟩ := bounded
  have attended := attends (setup (fun _ => 1) none) { reposo 0 0 with botonEncendido := HIGH }
    pulsada (.init ⟨_, _, rfl⟩)
  obtain ⟨k, released, _⟩ := attended.released
  simp [pulsada] at released

end Chimenea.Hold
