import Chimenea.Boundary

/-!
Switching off. The set of states an off order leads to is closed under every
order that does not switch the burner on, under supervision and under the tick.
-/

namespace Chimenea.Off
open Arduino Sketch Phases Ordenes

def esApagado : Orden → Bool
  | .off | .botonApagado | .contAp => true
  | _ => false

/-- The orders that switch the burner on, a timer among them. -/
def esEncendido : Orden → Bool
  | .on | .alto | .botonEncendido | .contBaj => true
  | .temporizador minutos => 0 < minutos
  | _ => false

/-- No timer is pending, or one that expires at the next counted tick. -/
def SinTemporizador (s : State) : Prop :=
  s.minutos ≤ 0 ∨ (s.minutos = 1 ∧ s.contadorMinuto = 1)

/-- Off, with the spark low and no timer that could switch the burner on again. -/
structure EnReposo (s : State) : Prop where
  encendida : s.encendida = false
  chispa : s.chispa = false
  temporizador : SinTemporizador s

structure Apagada (s : State) : Prop where
  encendida : s.encendida = false
  gasBajo : s.gasBajo = false
  gasAlto : s.gasAlto = false
  chispa : s.chispa = false

theorem ejecutar_apagado (s : State) (orden : Orden) (off : esApagado orden = true) :
    EnReposo (ejecutar s orden) := by
  cases orden <;> simp [esApagado] at off <;> constructor <;>
    simp [SinTemporizador, ejecutar, estadoOff, apagar, digitalWrite]

theorem ejecutar_reposo (s : State) (orden : Orden) (quiet : esEncendido orden = false)
    (rest : EnReposo s) : EnReposo (ejecutar s orden) := by
  obtain ⟨off, spark, timer⟩ := rest
  unfold SinTemporizador at timer
  cases orden <;> simp [esEncendido] at quiet <;> constructor <;>
    simp_all [SinTemporizador, ejecutar, estadoOff, leerSensor, apagar, remotoAlto, sostener_eq,
      digitalWrite]

theorem obedecer_reposo {s : State} (rest : EnReposo s) (lista : List Orden)
    (quiet : ∀ orden ∈ lista, esEncendido orden = false) : EnReposo (obedecer s lista) :=
  Reactive.run_invariant_of_inputs EnReposo (fun orden => esEncendido orden = false)
    ejecutar_reposo rest lista quiet

section Iteration

variable {s : State} {e : Entrada}

theorem cuenta_off (off : (mandos s e).encendida = false) : cuenta s e = esTick s e := by
  have idle : retorna (supervisar s e) = false := by simp [retorna, off]
  simp [cuenta, idle]

theorem apaga_off (off : (mandos s e).encendida = false) :
    apaga s e = (esTick s e && vence (mandos s e)) := by
  have free : bloquea (supervisar s e) = false := by simp [bloquea, cuentaIntentos, off]
  simp [apaga, cuenta_off off, free]

/-- A timer left over at rest expires before it can switch the burner on. -/
theorem loop_reposo_off (rest : EnReposo (mandos s e)) : (loop s e).encendida = false := by
  obtain ⟨off, _, timer⟩ := rest
  rw [loop_encendida, cuenta_off off, apaga_off off, off]
  by_cases armed : 0 < (mandos s e).minutos
  · have expires : vence (mandos s e) = true := by
      rcases timer with idle | last
      · omega
      · simpa [vence] using last
    rw [expires]
    cases esTick s e <;> simp
  · simp [armed]

theorem loop_reposo_timer (rest : EnReposo (mandos s e)) : SinTemporizador (loop s e) := by
  obtain ⟨off, _, timer⟩ := rest
  unfold SinTemporizador
  rw [loop_minutos, loop_contadorMinuto, cuenta_off off]
  rcases timer with idle | ⟨one, last⟩
  · have stopped : ¬ 0 < (mandos s e).minutos := by omega
    simp [stopped, idle]
  · cases esTick s e <;> simp [one, last]

end Iteration

theorem loop_reposo (s : State) (e : Entrada) (rest : EnReposo (mandos s e)) :
    Apagada (loop s e) ∧ EnReposo (loop s e) := by
  have off := loop_reposo_off rest
  have spark : (loop s e).chispa = false := by
    have dark : nivel .chispa (mandos s e).salidas = false := rest.chispa
    simp [loop_chispa, rest.encendida, dark]
  exact ⟨⟨off, by simp [loop_gasBajo, rest.encendida], by simp [loop_gasAlto, rest.encendida],
    spark⟩, off, spark, loop_reposo_timer rest⟩

theorem loop_quiet {s : State} {e : Entrada} (rest : EnReposo s)
    (quiet : ∀ orden ∈ ordenes e, esEncendido orden = false) :
    Apagada (loop s e) ∧ EnReposo (loop s e) := by
  apply loop_reposo
  rw [mandos_eq]
  exact obedecer_reposo rest _ quiet

theorem run_reposo {s : State} (off : Apagada s) (rest : EnReposo s) (entradas : List Entrada)
    (quiet : ∀ e ∈ entradas, ∀ orden ∈ ordenes e, esEncendido orden = false) :
    Apagada (Reactive.run loop s entradas) :=
  (Reactive.run_invariant_of_inputs (fun t => Apagada t ∧ EnReposo t)
    (fun e => ∀ orden ∈ ordenes e, esEncendido orden = false)
    (fun _ _ still before => loop_quiet before.2 still) ⟨off, rest⟩ entradas quiet).1

/-- The orders of an execution end at rest when an off request is among them and no
switch-on comes after it. -/
theorem mandos_reposo {s : State} {e : Entrada} {before after : List Orden} {orden : Orden}
    (obeyed : ordenes e = before ++ orden :: after) (off : esApagado orden = true)
    (last : ∀ later ∈ after, esEncendido later = false) : EnReposo (mandos s e) := by
  rw [mandos_eq, obeyed, obedecer, Reactive.run_append, Reactive.run_cons]
  exact obedecer_reposo (ejecutar_apagado _ orden off) after last

/-- Off is absorbing: after an off request with no later switch-on in the same
execution, everything is off at the end of that execution and of each later one
of a run without switch-ons. -/
theorem off_is_absorbing (s : State) (e : Entrada) (entradas : List Entrada)
    (before after : List Orden) (orden : Orden) (obeyed : ordenes e = before ++ orden :: after)
    (off : esApagado orden = true) (last : ∀ later ∈ after, esEncendido later = false)
    (quiet : ∀ next ∈ entradas, ∀ later ∈ ordenes next, esEncendido later = false) :
    Apagada (Reactive.run loop (loop s e) entradas) := by
  have ends := loop_reposo s e (mandos_reposo obeyed off last)
  exact run_reposo ends.1 ends.2 entradas quiet

theorem off_is_absorbing_message :
    Apagada (Reactive.run loop
      (loop (setup (fun _ => 1) none) { reposo 0 0 with
        eventos := [mensaje { estado := some "off", setTemporizador := some "5" }], contAlt := HIGH })
      [{ reposo 4095 1000 with
        eventos := [mensaje { setTemporizador := some "-5" }], contAlt := HIGH }]) := by
  refine off_is_absorbing _ _ _ [.anotar 0 0 5, .temporizador 5]
    [.leer { reposo 0 0 with
        eventos := [mensaje { estado := some "off", setTemporizador := some "5" }], contAlt := HIGH },
      .contAlt] .off rfl rfl ?_ ?_
  · decide
  · simp only [List.mem_singleton, forall_eq]
    decide

end Chimenea.Off
