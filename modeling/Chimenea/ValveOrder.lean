import Chimenea.Boundary

/-!
The order of the valve writes. The low valve should open before the high one and
close after it, between any two writes of a run. The property is read off the
output log, so it covers every moment inside an execution as well.
-/

namespace Chimenea.ValveOrder
open Arduino Sketch Phases Ordenes Boundary

/-- The high valve is open over an open low valve only. -/
def AltoSobreBajo (salidas : List Salida) : Prop :=
  nivel .gasAlto salidas = true → nivel .gasBajo salidas = true

def EnOrden (s : State) : Prop := Reactive.Throughout AltoSobreBajo s.salidas

section Writes

variable (salidas : List Salida)

@[simp] theorem ordered_chispa (level : Bool) :
    Reactive.Throughout AltoSobreBajo (.digitalWrite .chispa level :: salidas) ↔
      Reactive.Throughout AltoSobreBajo salidas := by
  rw [Reactive.throughout_cons]
  simp only [AltoSobreBajo, nivel_digitalWrite, reduceCtorEq, if_false]
  exact ⟨And.right, fun all => ⟨all.now, all⟩⟩

@[simp] theorem ordered_broadcastTXT (doc : DocTx) :
    Reactive.Throughout AltoSobreBajo (.broadcastTXT doc :: salidas) ↔
      Reactive.Throughout AltoSobreBajo salidas := by
  rw [Reactive.throughout_cons]
  simp only [AltoSobreBajo, nivel_broadcastTXT]
  exact ⟨And.right, fun all => ⟨all.now, all⟩⟩

@[simp] theorem ordered_gasAlto_low :
    Reactive.Throughout AltoSobreBajo (.digitalWrite .gasAlto LOW :: salidas) ↔
      Reactive.Throughout AltoSobreBajo salidas := by
  simp [Reactive.throughout_cons, AltoSobreBajo]

@[simp] theorem ordered_gasBajo_high :
    Reactive.Throughout AltoSobreBajo (.digitalWrite .gasBajo HIGH :: salidas) ↔
      Reactive.Throughout AltoSobreBajo salidas := by
  simp [Reactive.throughout_cons, AltoSobreBajo]

@[simp] theorem ordered_gasBajo_low :
    Reactive.Throughout AltoSobreBajo (.digitalWrite .gasBajo LOW :: salidas) ↔
      Reactive.Throughout AltoSobreBajo salidas ∧ nivel .gasAlto salidas = false := by
  simp [Reactive.throughout_cons, AltoSobreBajo, and_comm]

@[simp] theorem ordered_gasAlto_high :
    Reactive.Throughout AltoSobreBajo (.digitalWrite .gasAlto HIGH :: salidas) ↔
      Reactive.Throughout AltoSobreBajo salidas ∧ nivel .gasBajo salidas = true := by
  simp [Reactive.throughout_cons, AltoSobreBajo, and_comm]

end Writes

/-- The panel button and the remote close the low valve first: they are in order
over a closed high valve only. -/
def OrdenSegura (s : State) : Orden → Prop
  | .botonApagado | .contAp => s.gasAlto = false
  | _ => True

theorem enOrden_ejecutar (s : State) (orden : Orden) :
    EnOrden (ejecutar s orden) ↔ EnOrden s ∧ OrdenSegura s orden := by
  cases orden <;>
    simp [EnOrden, OrdenSegura, ejecutar, estadoOn, estadoAlto, estadoOff, leerSensor,
      pulsarEncendido, sostener_eq, apagar, remotoBajo, remotoAlto, digitalWrite]

theorem enOrden_mandos (s : State) (e : Entrada) :
    EnOrden (mandos s e) ↔ EnOrden s ∧ Reactive.Steps ejecutar OrdenSegura s (ordenes e) := by
  rw [mandos_eq]
  exact Reactive.run_iff_steps (fun _ => True) EnOrden OrdenSegura (fun _ _ _ => trivial)
    (fun t orden _ => enOrden_ejecutar t orden) trivial (ordenes e)

/-- Supervision opens the high valve of a burner that is off, and then closes the
low valve under it, exactly when a flame reading meets a stale wish for high. -/
theorem enOrden_encendidoChimenea (s : State) (agree : s.gasBajo = true → s.encendida = true) :
    EnOrden (encendidoChimenea s) ↔ EnOrden s ∧
      (s.encendidaAlto = true → s.sensorVal1 < s.lectura → s.encendida = true) := by
  simp only [EnOrden, encendidoChimenea, limpiar_eq, valvulaAlta_eq, vigilarLlama_eq]
  cases on : s.encendida with
  | true =>
    cases s.encendidaAlto <;> by_cases above : s.sensorVal1 < s.lectura <;> simp [above]
  | false =>
    have low : nivel .gasBajo s.salidas = false :=
      Bool.eq_false_iff.mpr fun opened => by simp [agree opened] at on
    cases s.encendidaAlto with
    | false => simp
    | true =>
      by_cases above : s.sensorVal1 < s.lectura
      · simp [above, low]
      · have high (all : Reactive.Throughout AltoSobreBajo s.salidas) :
            nivel .gasAlto s.salidas = false :=
          Bool.eq_false_iff.mpr fun opened => by simp [all.now opened] at low
        simpa [above] using high

theorem enOrden_supervisar (s : State) (e : Entrada)
    (agree : s.gasBajo = true → s.encendida = true) :
    EnOrden (supervisar s e) ↔ EnOrden (mandos s e) ∧ ((mandos s e).encendidaAlto = true →
      (mandos s e).sensorVal1 < (mandos s e).lectura → (mandos s e).encendida = true) := by
  rw [supervisar, lecturaEstadoChimenea_eq, enOrden_encendidoChimenea]
  · rfl
  · exact mandos_gasBajo agree

theorem enOrden_contar (s : State) (e : Entrada) : EnOrden (contar s e) ↔
    EnOrden s ∧ (vence s = true ∨ bloquea s = true → s.gasAlto = false) := by
  simp only [EnOrden, contar_eq, transmitir]
  cases vence s <;> cases bloquea s <;> simp

theorem enOrden_tick (s : State) (e : Entrada) : EnOrden (loop s e) ↔
    EnOrden (supervisar s e) ∧ (apaga s e = true → (supervisar s e).gasAlto = false) := by
  rcases loop_cases s e with ⟨due, run⟩ | ⟨due, early, run⟩ | ⟨ran, run⟩
  · simp [run, apaga, cuenta, due]
  · simp [run, apaga, cuenta, early, EnOrden, transmitir]
  · rw [run, enOrden_contar]
    simp [apaga, ran]

/-- What an execution must not meet for its writes to be in order: a panel or
remote off over an open high valve, a wish for high that outlived the burner while
a flame is read, and an expiry or lockout over an open high valve. -/
def EscriturasEnOrden (s : State) (e : Entrada) : Prop :=
  Reactive.Steps ejecutar OrdenSegura s (ordenes e) ∧
    ((mandos s e).encendidaAlto = true → (mandos s e).sensorVal1 < (mandos s e).lectura →
      (mandos s e).encendida = true) ∧
    (apaga s e = true → (supervisar s e).gasAlto = false)

theorem enOrden_loop (s : State) (e : Entrada) (before : Coherente s) :
    EnOrden (loop s e) ↔ EnOrden s ∧ EscriturasEnOrden s e := by
  rw [enOrden_tick, enOrden_supervisar s e before.bajo, enOrden_mandos]
  simp only [EscriturasEnOrden, and_assoc]

theorem enOrden_setup (flash : Fin EEPROM_SIZE → BitVec 8) (wifi : Option (BitVec 32)) :
    EnOrden (setup flash wifi) := by
  cases wifi <;>
    simp [EnOrden, setup, globals, digitalWrite, Reactive.throughout_nil, AltoSobreBajo, nivel,
      Reactive.level]

/-- The valves are in order after every write of a run exactly when each of its
executions writes in order. -/
theorem valves_in_order_iff (flash : Fin EEPROM_SIZE → BitVec 8) (wifi : Option (BitVec 32))
    (entradas : List Entrada) : EnOrden (Reactive.run loop (setup flash wifi) entradas) ↔
      Reactive.Steps loop EscriturasEnOrden (setup flash wifi) entradas := by
  rw [Reactive.run_iff_steps Coherente EnOrden EscriturasEnOrden
    (fun s e before => loop_coherente s e before.intentos) enOrden_loop
    (setup_coherente flash wifi)]
  simp only [enOrden_setup, true_and]

theorem off_button_closes_low_first :
    ¬ ∀ (flash : Fin EEPROM_SIZE → BitVec 8) (wifi : Option (BitVec 32))
      (entradas : List Entrada), EnOrden (Reactive.run loop (setup flash wifi) entradas) := by
  intro always
  let high : Entrada := { reposo 4095 0 with eventos := [mensaje { estado := some "alto" }] }
  let off : Entrada := { reposo 4095 0 with botonApagado := HIGH }
  have ordered := always (fun _ => 1) none [high, off]
  rw [Reactive.run_cons, Reactive.run_cons, Reactive.run_nil,
    enOrden_loop _ _ (loop_coherente _ _ (setup_coherente _ _).intentos)] at ordered
  -- the button is the second order, after the sensor reading
  have closed : (obedecer (loop (setup (fun _ => 1) none) high) [.leer off]).gasAlto = false :=
    ordered.2.1.2.1
  revert closed
  decide

end Chimenea.ValveOrder
