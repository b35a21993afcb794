import Chimenea.Boundary

/-!
Flame supervision. A burning state is watched when its ignition cycle runs, and
the ignition cycle is meant to run with the high valve closed. Both fail in one
situation each, and this module says exactly in which.
-/

namespace Chimenea.Supervision
open Arduino Sketch Phases Ordenes Boundary

/-- No flame was proven over a switched-on burner, and yet either an ignition
cycle runs or the gas was closed. -/
def Vigilada (s : State) (e : Entrada) : Prop :=
  (mandos s e).encendida = true → (loop s e).lectura ≤ (loop s e).sensorVal1 →
    (loop s e).iniciarCicloEncendido = true ∨ (loop s e).gasBajo = false

/-- A reading equal to the threshold finds the ignition cycle already running,
or this execution is the one in which the timer expires. -/
def EmpateVigilado (s : State) (e : Entrada) : Prop :=
  (mandos s e).encendida = true → (mandos s e).lectura = (mandos s e).sensorVal1 →
    (mandos s e).iniciarCicloEncendido = true ∨
      (cuenta s e = true ∧ vence (mandos s e) = true)

theorem vigilada_iff (s : State) (e : Entrada) (before : Coherente s) :
    Vigilada s e ↔ EmpateVigilado s e := by
  have few := mandos_intentos (e := e) before.intentos
  unfold Vigilada EmpateVigilado
  apply imp_congr_right
  intro on
  simp only [loop_lectura, loop_sensorVal1, State.gasBajo, loop_gasBajo, supervisar_gasBajo, on,
    loop_iniciarCicloEncendido, supervisar_iniciarCicloEncendido, Bool.true_and]
  rcases lt_trichotomy (mandos s e).lectura (mandos s e).sensorVal1 with below | tie | above
  · simp only [below, below.le, below.ne, decide_true, Bool.true_or, Bool.true_and]
    cases apaga s e <;> simp
  · simp only [tie, le_refl, lt_irrefl, decide_true, decide_false, Bool.false_or, Bool.and_true,
      forall_const]
    cases igniting : (mandos s e).iniciarCicloEncendido with
    | true => cases apaga s e <;> simp
    | false =>
      have free : bloquea (supervisar s e) = false := by
        apply Bool.eq_false_iff.mpr
        intro fires
        have attempt := (bloquea_attempt (by simp [on, few.2]) fires).2
        simp [tie, igniting] at attempt
      simp [apaga, free]
  · simp [above.not_ge, above.ne']

/-- Gas without a proven flame is supervised throughout a run exactly when no
execution of the run meets an unwatched tie of reading and threshold. -/
theorem supervised_iff_ties_watched (flash : Fin EEPROM_SIZE → BitVec 8)
    (wifi : Option (BitVec 32)) (entradas : List Entrada) :
    Reactive.Steps loop Vigilada (setup flash wifi) entradas ↔
      Reactive.Steps loop EmpateVigilado (setup flash wifi) entradas :=
  Reactive.steps_iff Coherente Vigilada EmpateVigilado
    (fun s e before _ => loop_coherente s e before.intentos) vigilada_iff
    (setup_coherente flash wifi) entradas

/-- Threshold byte 0, an ON message, and a reading of 0: open gas, no flame
proven, no ignition cycle. -/
theorem tie_leaves_gas_unsupervised :
    ¬ ∀ (flash : Fin EEPROM_SIZE → BitVec 8) (wifi : Option (BitVec 32))
      (entradas : List Entrada), Reactive.Steps loop Vigilada (setup flash wifi) entradas := by
  intro always
  have first := (always (fun _ => 0) none
    [{ reposo 0 0 with eventos := [mensaje { estado := some "on" }] }]).1
  revert first
  unfold Vigilada
  decide

def EnciendeEnBajo (s : State) : Prop := s.iniciarCicloEncendido = true → s.gasAlto = false

/-- An execution that reads no flame while the high valve is open and wanted open
ends with the timer expiry or the lockout. -/
def LlamaAltaConservada (s : State) (e : Entrada) : Prop :=
  (mandos s e).encendida = true → (mandos s e).encendidaAlto = true →
    (mandos s e).gasAlto = true → (mandos s e).lectura < (mandos s e).sensorVal1 →
      apaga s e = true

theorem enciendeEnBajo_step (s : State) (e : Entrada) (_ : Coherente s)
    (before : EnciendeEnBajo s) : EnciendeEnBajo (loop s e) ↔ LlamaAltaConservada s e := by
  -- orders neither start an ignition cycle nor open the high valve
  have latched : (mandos s e).iniciarCicloEncendido = true →
      nivel .gasAlto (mandos s e).salidas = false := by
    intro igniting
    have closed := before (mandos_iniciarCicloEncendido igniting)
    exact Bool.eq_false_iff.mpr fun high => by simp [mandos_gasAlto high] at closed
  unfold EnciendeEnBajo LlamaAltaConservada
  simp only [State.gasAlto, loop_gasAlto, loop_iniciarCicloEncendido, supervisar_gasAlto,
    supervisar_iniciarCicloEncendido]
  rcases lt_trichotomy (mandos s e).lectura (mandos s e).sensorVal1 with below | tie | above
  · simp only [below, below.not_gt]
    cases (mandos s e).encendida <;> cases (mandos s e).encendidaAlto <;>
      cases nivel .gasAlto (mandos s e).salidas <;> cases apaga s e <;> simp
  · cases igniting : (mandos s e).iniciarCicloEncendido with
    | true => simp [tie, latched igniting]
    | false => simp [tie]
  · simp [above.not_gt, above.ne']

/-- Along a run the high valve is closed whenever the burner ignites, exactly when
no execution of the run loses the flame under an open high valve. -/
theorem ignites_low_iff_high_flame_kept (flash : Fin EEPROM_SIZE → BitVec 8)
    (wifi : Option (BitVec 32)) (entradas : List Entrada) :
    Reactive.Always loop EnciendeEnBajo (setup flash wifi) entradas ↔
      Reactive.Steps loop LlamaAltaConservada (setup flash wifi) entradas := by
  apply Reactive.always_iff_steps Coherente EnciendeEnBajo LlamaAltaConservada
    (fun s e before => loop_coherente s e before.intentos) enciendeEnBajo_step
    (setup_coherente flash wifi)
  cases wifi <;> simp [EnciendeEnBajo, setup, globals, digitalWrite]

/-- Burning in high over a threshold of 13, then a reading of 0. -/
theorem lost_flame_leaves_high_open :
    ¬ ∀ (flash : Fin EEPROM_SIZE → BitVec 8) (wifi : Option (BitVec 32))
      (entradas : List Entrada), Reactive.Always loop EnciendeEnBajo (setup flash wifi) entradas := by
  intro always
  have last := always (fun _ => 1) none
    [{ reposo 4095 0 with eventos := [mensaje { estado := some "alto" }] }, reposo 0 0] _
    List.prefix_rfl
  revert last
  unfold EnciendeEnBajo
  decide

end Chimenea.Supervision
