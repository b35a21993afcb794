import Chimenea.Ordenes

/-!
What every boundary between two executions of `loop()` has in common: the flags
and the valve levels agree, and the count of ignition attempts stays below the
lockout limit.
-/

namespace Chimenea.Boundary
open Arduino Sketch Phases Ordenes

structure Coherente (s : State) : Prop where
  alto : s.gasAlto = true → s.gasBajo = true ∧ s.encendida = true ∧ s.encendidaAlto = true
  bajo : s.gasBajo = true → s.encendida = true
  pendiente : s.encendida = true → s.gasBajo = false → 0 < s.minutos
  ciclo : s.iniciarCicloEncendido = true → s.encendida = true
  intentos : 0 ≤ s.intentos ∧ s.intentos < 100

/-- The agreement supervision leaves to the tick. -/
structure Supervisado (s : State) : Prop where
  bajo : s.gasBajo = s.encendida
  alto : s.gasAlto = true → s.encendida = true ∧ s.encendidaAlto = true
  ciclo : s.iniciarCicloEncendido = true → s.encendida = true
  intentos : 0 ≤ s.intentos ∧ s.intentos < 100

theorem supervisar_supervisado (s : State) (e : Entrada)
    (few : 0 ≤ s.intentos ∧ s.intentos < 100) : Supervisado (supervisar s e) where
  bajo := by simp
  alto := by simp +contextual
  ciclo := by simp +contextual
  intentos := by
    have kept := mandos_intentos (e := e) few
    rw [supervisar_intentos]
    split_ifs <;> omega

theorem cuentaIntentos_bound (s : State) (few : 0 ≤ s.intentos ∧ s.intentos < 100) :
    0 ≤ cuentaIntentos s ∧ cuentaIntentos s ≤ 100 := by
  unfold cuentaIntentos
  split_ifs <;> omega

theorem contar_coherente (s : State) (e : Entrada) (before : Supervisado s) :
    Coherente (contar s e) where
  alto := by
    intro high
    simp only [State.gasAlto, contar_gasAlto, Bool.and_eq_true, Bool.not_eq_true'] at high
    obtain ⟨on, alto⟩ := before.alto high.1.1
    have low : nivel .gasBajo s.salidas = true := before.bajo.trans on
    simp [low, on, alto, high.1.2, high.2]
  bajo := by
    intro low
    simp only [State.gasBajo, contar_gasBajo, Bool.and_eq_true, Bool.not_eq_true'] at low
    have on : s.encendida = true := before.bajo.symm.trans low.1.1
    simp [on, low.1.2, low.2]
  pendiente := by
    intro on closed
    have agree : nivel .gasBajo s.salidas = s.encendida := before.bajo
    simp only [contar_encendida, Bool.and_eq_true, Bool.not_eq_true'] at on
    simp only [State.gasBajo, contar_gasBajo, agree, on.2, Bool.not_false, Bool.and_true] at closed
    split_ifs at on with armed
    · -- the timer has just switched the burner on again
      have more : ¬(s.minutos = 1 ∧ s.contadorMinuto = 1#32) :=
        fun last => by simp [vence, last] at on
      rw [contar_minutos]
      split_ifs with borrow
      · have : s.minutos ≠ 1 := fun one => more ⟨one, borrow.2⟩
        omega
      · exact armed
    · have lasts : vence s = false := by simp [vence]; omega
      simp [lasts, on.1] at closed
  ciclo := by
    intro igniting
    simp only [contar_iniciarCicloEncendido, Bool.and_eq_true, Bool.not_eq_true'] at igniting
    simp [before.ciclo igniting.1.1, igniting.1.2, igniting.2]
  intentos := by
    have bound := cuentaIntentos_bound s before.intentos
    rw [contar_intentos]
    split_ifs with fires
    · omega
    · have few : ¬(100 ≤ cuentaIntentos s) := by simpa [bloquea] using fires
      omega

theorem Supervisado.coherente {s : State} (before : Supervisado s) : Coherente s where
  alto := fun high =>
    have on := before.alto high
    ⟨before.bajo.trans on.1, on⟩
  bajo := fun low => before.bajo.symm.trans low
  pendiente := fun on closed => by simp only [before.bajo, on, Bool.true_eq_false] at closed
  ciclo := before.ciclo
  intentos := before.intentos

theorem tick_coherente (s : State) (e : Entrada) (before : Supervisado s) :
    Coherente (tick s e) := by
  rcases tick_cases s e with ⟨_, same⟩ | ⟨_, _, early⟩ | ⟨_, _, counted⟩
  · rw [same]
    exact before.coherente
  · rw [early]
    have left : Supervisado { transmitir s e with blink := false } :=
      ⟨before.bajo, before.alto, before.ciclo, before.intentos⟩
    exact left.coherente
  · rw [counted]
    exact contar_coherente s e before

theorem loop_coherente (s : State) (e : Entrada) (few : 0 ≤ s.intentos ∧ s.intentos < 100) :
    Coherente (loop s e) :=
  tick_coherente _ e (supervisar_supervisado s e few)

theorem setup_coherente (flash : Fin EEPROM_SIZE → BitVec 8) (wifi : Option (BitVec 32)) :
    Coherente (setup flash wifi) := by
  cases wifi <;> constructor <;> simp [setup, globals, digitalWrite]

theorem alcanzable_coherente {s : State} (reached : Alcanzable s) : Coherente s := by
  apply reached.invariant Coherente
  · intro t start
    obtain ⟨flash, wifi, rfl⟩ := start
    exact setup_coherente flash wifi
  · intro t e before
    exact loop_coherente t e before.intentos

theorem loop_opens_high (s : State) (e : Entrada) (closed : s.gasAlto = false)
    (opened : (loop s e).gasAlto = true) : (loop s e).sensorVal1 < (loop s e).lectura := by
  simp only [State.gasAlto, loop_gasAlto, Bool.and_eq_true] at opened
  have before := opened.1
  have latched : (mandos s e).gasAlto = false :=
    Bool.eq_false_iff.mpr fun high => by simp [mandos_gasAlto high] at closed
  simp only [State.gasAlto] at latched
  simp only [supervisar_gasAlto, latched, Bool.or_false, Bool.and_eq_true,
    decide_eq_true_eq] at before
  simpa using before.2

/-- Along every run from `setup()` the flags and the valves agree at each
boundary, and the high valve opens only across an execution that read a flame. -/
theorem flags_and_valves_agree (flash : Fin EEPROM_SIZE → BitVec 8) (wifi : Option (BitVec 32))
    (entradas : List Entrada) :
    Reactive.Always loop Coherente (setup flash wifi) entradas ∧
      Reactive.Steps loop (fun s e => s.gasAlto = false → (loop s e).gasAlto = true →
        (loop s e).sensorVal1 < (loop s e).lectura) (setup flash wifi) entradas :=
  ⟨Reactive.always_of_invariant Coherente (fun s e before => loop_coherente s e before.intentos)
      (setup_coherente flash wifi) entradas,
    Reactive.steps_of_invariant (fun _ => True) _ (fun _ _ _ => trivial)
      (fun s e _ => loop_opens_high s e) trivial entradas⟩

end Chimenea.Boundary
