import Chimenea.Spark
import Chimenea.Timer

/-!
An off input against the start inputs of the same execution. The sketch obeys the
panel before the remote, so the remote's low button has the last word over the
panel's off button, and over nothing else.
-/

namespace Chimenea.OffFirst
open Arduino Sketch Phases Ordenes Boundary Off Spark Timer

/-- Off, with closed valves, a dark spark and no timer. -/
def DelTodoApagada (s : State) : Prop := Apagada s ∧ s.minutos = 0

section Last

variable {s : State} {e : Entrada}

/-- The off request comes after every start request: it is the remote's, or the remote's
low button is not pressed. -/
theorem off_request_last (asked : e.botonApagado = HIGH ∨ e.contAp = HIGH)
    (last : e.contBaj = LOW ∨ e.contAp = HIGH) :
    ∃ before orden after, ordenes e = before ++ orden :: after ∧ esApagado orden = true ∧
      ∀ later ∈ after, later = .contAlt := by
  cases remote : e.contAp with
  | true =>
    refine ⟨e.eventos.flatMap ordenesEvento ++ [.leer e] ++
      (cuando (e.botonEncendido = HIGH) .botonEncendido ++
        e.pulsos.map (.sostener e.tiempo.toInt) ++
        cuando (e.botonApagado = HIGH) .botonApagado ++ cuando (e.contBaj = HIGH) .contBaj ++
        cuando (e.contAlt = HIGH) .contAlt), .contAp, [], ?_, rfl, by simp⟩
    simp [ordenes, ordenesBotones, cuando, remote]
  | false =>
    have low : e.contBaj = LOW := by simpa [remote] using last
    have panel : e.botonApagado = HIGH := by simpa [remote] using asked
    refine ⟨e.eventos.flatMap ordenesEvento ++ [.leer e] ++
      (cuando (e.botonEncendido = HIGH) .botonEncendido ++ e.pulsos.map (.sostener e.tiempo.toInt)),
      .botonApagado, cuando (e.contAlt = HIGH) .contAlt, ?_, rfl, by simp [cuando]⟩
    simp [ordenes, ordenesBotones, cuando, remote, low, panel]

theorem delTodoApagada_of_last {before after : List Orden} {orden : Orden}
    (obeyed : ordenes e = before ++ orden :: after) (off : esApagado orden = true)
    (last : ∀ later ∈ after, later = .contAlt) : DelTodoApagada (loop s e) := by
  have quiet : ∀ later ∈ after, esEncendido later = false := by
    intro later member
    rw [last later member]
    rfl
  have minutes : (mandos s e).minutos = 0 := by
    rw [mandos_eq, obeyed, obedecer, Reactive.run_append, Reactive.run_cons]
    apply Reactive.run_invariant_of_inputs (fun t : State => t.minutos = 0) (· = .contAlt)
    · intro t later only zero
      rw [only]
      exact zero
    · rw [ejecutar_minutos]
      cases orden <;> simp [esApagado] at off <;> rfl
    · exact last
  refine ⟨(loop_reposo s e (mandos_reposo obeyed off quiet)).1, ?_⟩
  simp [loop_minutos, minutes]

/-- The remote's low button after the panel's off button: the burner burns, and no tick
of this execution stops it. -/
theorem contBaj_restarts (few : 0 ≤ s.intentos ∧ s.intentos < 100)
    (panel : e.botonApagado = HIGH) (low : e.contBaj = HIGH) (remote : e.contAp = LOW) :
    (loop s e).encendida = true := by
  have order : (mandos s e).encendida = true ∧ (mandos s e).blink = true ∧
      (mandos s e).minutos = 0 := by
    simp only [mandos, encendidoManual, encendidoControlRemoto, panel, low, remote]
    cases e.contAlt <;> exact ⟨rfl, rfl, rfl⟩
  obtain ⟨on, blinking, minutes⟩ := order
  have free := bloquea_spark s e (mandos_intentos few).2 on blinking
  have lasts : vence (mandos s e) = false := by simp [vence, minutes]
  simp [loop_encendida, apaga, on, free, lasts]

end Last

/-- An off input wins exactly where no start input is obeyed after it. -/
theorem off_wins_iff (s : State) (reached : Alcanzable s) (e : Entrada)
    (asked : e.botonApagado = HIGH ∨ e.contAp = HIGH) :
    DelTodoApagada (loop s e) ↔ e.contBaj = LOW ∨ e.contAp = HIGH := by
  constructor
  · intro off
    by_contra restarted
    obtain ⟨low, remote⟩ := not_or.mp restarted
    have panel : e.botonApagado = HIGH := by
      rcases asked with panel | stop
      · exact panel
      · exact absurd stop remote
    have on := contBaj_restarts (alcanzable_coherente reached).intentos panel
      (eq_true_of_ne_false low) (eq_false_of_ne_true remote)
    rw [off.1.encendida] at on
    exact absurd on (by decide)
  · intro last
    obtain ⟨before, orden, after, obeyed, off, later⟩ := off_request_last asked last
    exact delTodoApagada_of_last obeyed off later

theorem off_wins_over_start :
    DelTodoApagada (loop (setup (fun _ => 1) none) { reposo 4095 0 with
      botonEncendido := HIGH, pulsos := [2000], botonApagado := HIGH, contAlt := HIGH }) :=
  (off_wins_iff _ (.init ⟨_, _, rfl⟩) _ (.inl rfl)).mpr (.inl rfl)

/-- Both buttons of an execution: the panel's off and the remote's low. -/
theorem remote_overrides_panel_off :
    ¬ ∀ (s : State) (e : Entrada), Alcanzable s → e.botonApagado = HIGH ∨ e.contAp = HIGH →
      DelTodoApagada (loop s e) := by
  intro wins
  have off := wins (setup (fun _ => 1) none)
    { reposo 0 0 with botonApagado := HIGH, contBaj := HIGH } (.init ⟨_, _, rfl⟩) (.inl rfl)
  have on := off.1.encendida
  revert on
  decide

end Chimenea.OffFirst
