import Chimenea.Boundary

/-!
The status message. Its status string is computed after the commands of the execution
and before supervision moves the valve, so it is true exactly where supervision finds
the valve as the burner wants it.
-/

namespace Chimenea.Broadcast
open Arduino Sketch Phases Ordenes Boundary

/-- A status message says "Encendida" if and only if the low valve is open as it is sent. -/
def Veraz : List Salida → Prop
  | .broadcastTXT doc :: log => doc.estadoChimenea = "Encendida" ↔ nivel .gasBajo log = HIGH
  | _ => True

def DiceVerdad (s : State) : Prop := Reactive.Throughout Veraz s.salidas

section Log

variable (log : List Salida)

@[simp] theorem veraz_digitalWrite (pin : Pin) (level : Bool) :
    Reactive.Throughout Veraz (.digitalWrite pin level :: log) ↔ Reactive.Throughout Veraz log := by
  rw [Reactive.throughout_cons]
  simp only [Veraz, true_and]

@[simp] theorem veraz_broadcastTXT (doc : DocTx) :
    Reactive.Throughout Veraz (.broadcastTXT doc :: log) ↔
      (doc.estadoChimenea = "Encendida" ↔ nivel .gasBajo log = HIGH) ∧
        Reactive.Throughout Veraz log := by
  rw [Reactive.throughout_cons]
  rfl

end Log

theorem diceVerdad_ejecutar (s : State) (orden : Orden) :
    DiceVerdad (ejecutar s orden) ↔ DiceVerdad s := by
  cases orden <;>
    simp [DiceVerdad, ejecutar, estadoOn, estadoAlto, estadoOff, leerSensor, pulsarEncendido,
      sostener_eq, apagar, remotoBajo, remotoAlto, digitalWrite]

theorem diceVerdad_mandos (s : State) (e : Entrada) : DiceVerdad (mandos s e) ↔ DiceVerdad s := by
  apply mandos_invariant (fun t => DiceVerdad t ↔ DiceVerdad s) _ Iff.rfl
  intro t orden same
  rw [diceVerdad_ejecutar, same]

theorem diceVerdad_supervisar (s : State) (e : Entrada) :
    DiceVerdad (supervisar s e) ↔ DiceVerdad s := by
  rw [← diceVerdad_mandos s e]
  simp only [DiceVerdad, supervisar, lecturaEstadoChimenea_eq, encendidoChimenea, limpiar_eq,
    valvulaAlta_eq, vigilarLlama_eq]
  split_ifs <;> simp

theorem supervisar_estadoChimenea (s : State) (e : Entrada) : (supervisar s e).estadoChimenea =
    if (mandos s e).gasBajo = HIGH then "Encendida" else "Apagada" := by
  rw [supervisar, encendidoChimenea_eq, lecturaEstadoChimenea_eq]

theorem diceVerdad_contar (s : State) (e : Entrada) :
    DiceVerdad (contar s e) ↔ DiceVerdad (transmitir s e) := by
  simp only [DiceVerdad, contar_eq]
  split_ifs <;> simp

/-- The message of an execution tells the truth when the commands leave the valve where
supervision wants it. -/
theorem diceVerdad_loop (s : State) (e : Entrada) : DiceVerdad (loop s e) ↔ DiceVerdad s ∧
    (esTick s e = true → ((mandos s e).gasBajo = true ↔ (mandos s e).encendida = true)) := by
  have status : (supervisar s e).estadoChimenea = "Encendida" ↔ (mandos s e).gasBajo = true := by
    rw [supervisar_estadoChimenea]
    split_ifs with opened <;> simp [opened]
  have sent : DiceVerdad (transmitir (supervisar s e) e) ↔
      ((mandos s e).gasBajo = true ↔ (mandos s e).encendida = true) ∧ DiceVerdad s := by
    rw [← status, ← diceVerdad_supervisar s e]
    simp [DiceVerdad, transmitir]
  rcases loop_cases s e with ⟨due, run⟩ | ⟨due, early, run⟩ | ⟨ran, run⟩
  · simp [run, due, diceVerdad_supervisar]
  · have same : DiceVerdad (loop s e) ↔ DiceVerdad (transmitir (supervisar s e) e) := by
      rw [run]
      rfl
    rw [same, sent, and_comm, due]
    simp
  · have due : esTick s e = true := (cuenta_iff.mp ran).1
    rw [run, diceVerdad_contar, sent, and_comm, due]
    simp

/-- Whether the burner is on after the order, and whether the low valve is open. -/
def encendidaTras (encendida : Bool) : Orden → Bool
  | .on | .alto | .botonEncendido | .contBaj => true
  | .off | .botonApagado | .contAp => false
  | _ => encendida

def gasBajoTras (gasBajo : Bool) : Orden → Bool
  | .on => true
  | .off | .botonApagado | .contAp => false
  | _ => gasBajo

section Orders

attribute [local simp] ejecutar estadoOn estadoAlto estadoOff leerSensor pulsarEncendido apagar
  remotoBajo remotoAlto digitalWrite sostener_eq

theorem ejecutar_encendida (s : State) (orden : Orden) :
    (ejecutar s orden).encendida = encendidaTras s.encendida orden := by
  cases orden <;> simp [encendidaTras]

theorem ejecutar_gasBajo_eq (s : State) (orden : Orden) :
    (ejecutar s orden).gasBajo = gasBajoTras s.gasBajo orden := by
  cases orden <;> simp [gasBajoTras]

end Orders

theorem mandos_encendida (s : State) (e : Entrada) :
    (mandos s e).encendida = (ordenes e).foldl encendidaTras s.encendida := by
  rw [mandos_eq]
  exact (List.foldl_hom State.encendida fun t orden => (ejecutar_encendida t orden).symm).symm

theorem mandos_gasBajo_eq (s : State) (e : Entrada) :
    (mandos s e).gasBajo = (ordenes e).foldl gasBajoTras s.gasBajo := by
  rw [mandos_eq]
  exact (List.foldl_hom State.gasBajo fun t orden => (ejecutar_gasBajo_eq t orden).symm).symm

/-- If a message is due, commands that leave the burner on leave the low valve open. Of
the start commands only the ON message opens it. -/
def ValvulaAlDia (s : State) (e : Entrada) : Prop :=
  esTick s e = true → (ordenes e).foldl encendidaTras s.encendida = true →
    (ordenes e).foldl gasBajoTras s.gasBajo = true

theorem diceVerdad_step (s : State) (e : Entrada) (before : Coherente s) :
    DiceVerdad (loop s e) ↔ DiceVerdad s ∧ ValvulaAlDia s e := by
  have agree := mandos_gasBajo (e := e) before.bajo
  rw [diceVerdad_loop, ValvulaAlDia, ← mandos_encendida, ← mandos_gasBajo_eq]
  apply and_congr_right
  intro _
  apply imp_congr_right
  intro _
  exact ⟨fun same => same.mpr, fun opened => ⟨agree, opened⟩⟩

theorem diceVerdad_setup (flash : Fin EEPROM_SIZE → BitVec 8) (wifi : Option (BitVec 32)) :
    DiceVerdad (setup flash wifi) := by
  cases wifi <;>
    simp [DiceVerdad, setup, globals, digitalWrite, Reactive.throughout_nil, Veraz]

/-- All status messages of a run are true exactly when none is due in an execution that
switches a closed burner on otherwise than by an ON message, or finds it so. -/
theorem broadcast_truth_iff (flash : Fin EEPROM_SIZE → BitVec 8) (wifi : Option (BitVec 32))
    (entradas : List Entrada) : DiceVerdad (Reactive.run loop (setup flash wifi) entradas) ↔
      Reactive.Steps loop ValvulaAlDia (setup flash wifi) entradas := by
  rw [Reactive.run_iff_steps Coherente DiceVerdad ValvulaAlDia
    (fun s e before => loop_coherente s e before.intentos) diceVerdad_step
    (setup_coherente flash wifi)]
  simp only [diceVerdad_setup, true_and]

/-- The remote's low button in an execution that sends the message. -/
theorem remote_start_sends_stale_status :
    ¬ ∀ (flash : Fin EEPROM_SIZE → BitVec 8) (wifi : Option (BitVec 32))
      (entradas : List Entrada), DiceVerdad (Reactive.run loop (setup flash wifi) entradas) := by
  intro always
  have true := always (fun _ => 1) none [{ segundo 0 0 with contBaj := HIGH }]
  rw [Reactive.run_cons, Reactive.run_nil, diceVerdad_step _ _ (setup_coherente _ _)] at true
  have stale := true.2
  revert stale
  unfold ValvulaAlDia
  decide

end Chimenea.Broadcast
