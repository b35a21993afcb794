import Chimenea.Reactive.Monitor
import Chimenea.Boundary

/-!
Ignition attempts. Without a flame every tick with open gas takes one from what is
left of the hundred spark pairs. The start commands write `blink` from outside the
tick: given in the second half of a pair, they hand the tick back.
-/

namespace Chimenea.Attempts
open Arduino Sketch Phases Ordenes Boundary

/-- Consecutive one-second ticks whose execution ended with the low valve open. -/
def racha (n : Nat) (s : State) (e : Entrada) : Nat :=
  if esTick s e = true then if (loop s e).gasBajo = true then n + 1 else 0 else n

/-- Ticks from here to the lockout, as long as no flame is read. -/
def presupuesto (s : State) : Int := 2 * (100 - s.intentos) - if s.blink = true then 0 else 1

/-- The order neither switches a burner on nor takes it back to the spark phase. -/
def NoProlonga (s : State) : Orden → Prop
  | .on | .botonEncendido | .contBaj => s.encendida = true ∧ s.blink = true
  | .alto => s.encendida = true
  | _ => True

def SinProrroga (n : Nat) (s : State) (e : Entrada) : Prop :=
  0 < n → Reactive.Steps ejecutar NoProlonga s (ordenes e)

def SinLlama (s : State) (e : Entrada) : Prop := (loop s e).lectura < (loop s e).sensorVal1

/-- What is left of the attempts bounds what a streak can still grow to. -/
structure EnPlazo (s : State) (n : Nat) : Prop where
  intentos : 0 ≤ s.intentos ∧ s.intentos < 100
  racha : n ≤ 200
  plazo : s.encendida = true → n + presupuesto s ≤ 200

theorem enPlazo_zero {s : State} (few : 0 ≤ s.intentos ∧ s.intentos < 100) : EnPlazo s 0 := by
  refine ⟨few, by omega, fun _ => ?_⟩
  unfold presupuesto
  split_ifs <;> omega

theorem ejecutar_enPlazo {n : Nat} (s : State) (orden : Orden) (before : EnPlazo s n)
    (stays : NoProlonga s orden) : EnPlazo (ejecutar s orden) n := by
  have few : 0 ≤ (ejecutar s orden).intentos ∧ (ejecutar s orden).intentos < 100 := by
    have bound := before.intentos
    rcases @ejecutar_intentos s orden with same | cleared <;> omega
  refine ⟨few, before.racha, ?_⟩
  cases orden with
  | on | botonEncendido | contBaj =>
    -- the spark phase they start is the one the burner is in
    have left := before.plazo stays.1
    intro _
    simpa [presupuesto, ejecutar, estadoOn, pulsarEncendido, remotoBajo, digitalWrite, stays.2]
      using left
  | alto => exact fun _ => before.plazo stays
  | off | botonApagado | contAp =>
    intro on
    simp [ejecutar, estadoOff, apagar, digitalWrite] at on
  | sostener tiempo millis => simpa [presupuesto, ejecutar, sostener_eq] using before.plazo
  | _ => exact before.plazo

theorem mandos_enPlazo {n : Nat} (s : State) (e : Entrada) (before : EnPlazo s n)
    (guarded : SinProrroga n s e) : EnPlazo (mandos s e) n := by
  rcases Nat.eq_zero_or_pos n with rfl | begun
  · exact enPlazo_zero (mandos_intentos before.intentos)
  · rw [mandos_eq]
    exact Reactive.run_of_steps (fun t => EnPlazo t n) NoProlonga ejecutar_enPlazo before
      (ordenes e) (guarded begun)

theorem sinLlama_iff (s : State) (e : Entrada) :
    SinLlama s e ↔ (mandos s e).lectura < (mandos s e).sensorVal1 := by
  simp [SinLlama]

section Step

variable (s : State) (e : Entrada) (unlit : SinLlama s e)

include unlit

theorem presupuesto_pausa (pause : esTick s e = false) : (loop s e).encendida = true →
    (mandos s e).encendida = true ∧ presupuesto (loop s e) = presupuesto (mandos s e) := by
  have below := (sinLlama_iff s e).mp unlit
  rw [loop_pause pause, supervisar_encendida]
  intro on
  exact ⟨on, by simp [presupuesto, on, below.le]⟩

/-- A tick that leaves the low valve open takes one from what is left. -/
theorem presupuesto_tick (due : esTick s e = true) (low : (loop s e).gasBajo = true) :
    (mandos s e).encendida = true ∧ presupuesto (loop s e) + 1 = presupuesto (mandos s e) := by
  have below := (sinLlama_iff s e).mp unlit
  simp only [State.gasBajo, loop_gasBajo, supervisar_gasBajo, Bool.and_eq_true,
    Bool.not_eq_true'] at low
  obtain ⟨on, stays⟩ := low
  refine ⟨on, ?_⟩
  rcases loop_cases s e with ⟨pause, _⟩ | ⟨_, early, run⟩ | ⟨ran, run⟩
  · exact absurd due (Bool.eq_false_iff.mp pause)
  · -- the spark phase ends, the count of attempts stays
    have blinking : (mandos s e).blink = true := by
      simp only [retorna, supervisar_blink, Bool.and_eq_true] at early
      exact early.1.1.2
    simp [run, presupuesto, transmitir, on, blinking]
  · -- the spark phase begins, with the next attempt
    have late : retorna (supervisar s e) = false := (cuenta_iff.mp ran).2
    have blinking : (mandos s e).blink = false := by
      simpa [retorna, on, below, below.le] using late
    have free : bloquea (supervisar s e) = false := by
      simp only [apaga, ran, Bool.true_and, Bool.or_eq_false_iff] at stays
      exact stays.2
    simp [run, presupuesto, cuentaIntentos, free, on, below, blinking]
    omega

end Step

theorem presupuesto_pos {s : State} (few : 0 ≤ s.intentos ∧ s.intentos < 100) :
    1 ≤ presupuesto s := by
  unfold presupuesto
  split_ifs <;> omega

theorem racha_step {n : Nat} (s : State) (e : Entrada) (before : EnPlazo s n)
    (unlit : SinLlama s e) (guarded : SinProrroga n s e) : EnPlazo (loop s e) (racha n s e) := by
  have few := (loop_coherente s e before.intentos).intentos
  have ordered := mandos_enPlazo s e before guarded
  unfold racha
  cases due : esTick s e with
  | false =>
    refine ⟨few, before.racha, fun on => ?_⟩
    obtain ⟨was, same⟩ := presupuesto_pausa s e unlit due on
    have plazo := ordered.plazo was
    simpa [same] using plazo
  | true =>
    cases low : (loop s e).gasBajo with
    | false => exact enPlazo_zero few
    | true =>
      obtain ⟨on, used⟩ := presupuesto_tick s e unlit due low
      have plazo := ordered.plazo on
      have left := presupuesto_pos few
      simp only [if_true]
      exact ⟨few, by omega, fun _ => by push_cast; omega⟩

/-- Without a flame no streak passes 200 ticks in a run whose start commands, once
a streak has begun, neither restart the burner nor its spark phase. -/
theorem unlit_gas_bounded (flash : Fin EEPROM_SIZE → BitVec 8) (wifi : Option (BitVec 32))
    (entradas : List Entrada)
    (unlit : Reactive.Steps loop SinLlama (setup flash wifi) entradas)
    (guarded : Reactive.Steps (Reactive.watch loop racha)
      (fun pair e => SinProrroga pair.2 pair.1 e) (setup flash wifi, 0) entradas) :
    Reactive.Always (Reactive.watch loop racha) (fun pair => pair.2 ≤ 200)
      (setup flash wifi, 0) entradas := by
  have both := (Reactive.steps_and _ _ _ _).mpr
    ⟨(Reactive.steps_watch racha SinLlama (setup flash wifi) 0 entradas).mpr unlit, guarded⟩
  have start := enPlazo_zero (setup_coherente flash wifi).intentos
  have bounded := Reactive.always_of_steps (fun pair : State × Nat => EnPlazo pair.1 pair.2) _
    (fun pair e before met => racha_step pair.1 e before met.1 met.2) start entradas both
  exact fun front isPrefix => (bounded front isPrefix).racha

theorem unlit_gas_bounded_repeated :
    Reactive.Always (Reactive.watch loop racha) (fun pair => pair.2 ≤ 200)
      (setup (fun _ => 1) none, 0)
      [{ segundo 0 0 with eventos := [mensaje { estado := some "on" }] }, segundo 0 1,
        { segundo 0 1 with eventos := [mensaje { estado := some "on" }] }] := by
  apply unlit_gas_bounded
  · unfold SinLlama
    exact ⟨by decide, by decide, by decide, trivial⟩
  · refine ⟨fun begun => absurd begun (by decide), fun _ => ⟨trivial, trivial⟩, ?_, trivial⟩
    intro _
    exact ⟨trivial, by unfold NoProlonga; decide, trivial, trivial⟩

def insistir (k : Nat) : Entrada := { segundo 0 k with contBaj := HIGH }

structure Insistida (k : Nat) (pair : State × Nat) : Prop where
  reloj : pair.1.previousMillis = BitVec.ofNat 32 (1000 * k)
  minutos : pair.1.minutos = 0
  umbral : pair.1.eeprom.read direccion0 = 1
  racha : pair.2 = k

theorem insistida_step (k : Nat) (s : State) (n : Nat) (before : Insistida k (s, n)) :
    Insistida (k + 1) (Reactive.watch loop racha (s, n) (insistir k)) ∧
      SinLlama s (insistir k) := by
  obtain ⟨clock, timer, threshold, streak⟩ := before
  have due : esTick s (insistir k) = true := esTick_segundo s _ k clock rfl
  have orders : mandos s (insistir k) = remotoBajo (leerSensor s (insistir k)) :=
    mandos_eq s (insistir k)
  have on : (mandos s (insistir k)).encendida = true := by rw [orders]; rfl
  have blinking : (mandos s (insistir k)).blink = true := by rw [orders]; rfl
  have idle : (mandos s (insistir k)).minutos = 0 := by rw [orders]; exact timer
  have below : (mandos s (insistir k)).lectura < (mandos s (insistir k)).sensorVal1 := by
    rw [orders]
    show (0 : Int) < s.eeprom.read direccion0 * 13
    rw [show s.eeprom.read direccion0 = 1 from threshold]
    decide
  have early : cuenta s (insistir k) = false := cuenta_sparking on blinking below
  have low : (loop s (insistir k)).gasBajo = true := by simp [loop_gasBajo, apaga, early, on]
  refine ⟨⟨?_, ?_, ?_, ?_⟩, (sinLlama_iff _ _).mpr below⟩
  · simp only [Reactive.watch, loop_previousMillis, due, if_true]
    rfl
  · simp [Reactive.watch, loop_minutos, idle]
  · simp only [Reactive.watch, loop_eeprom, orders]
    exact threshold
  · simp only [Reactive.watch, racha, due, low, if_true]
    exact congrArg (· + 1) streak

/-- The remote's start button held for 201 ticks, threshold 13 and reading 0: every
tick finds the spark phase, no attempt is ever counted. -/
theorem held_start_keeps_gas_open :
    ¬ ∀ (flash : Fin EEPROM_SIZE → BitVec 8) (wifi : Option (BitVec 32))
      (entradas : List Entrada),
      Reactive.Steps loop (fun s e => (loop s e).minutos ≤ 0) (setup flash wifi) entradas →
      Reactive.Steps loop SinLlama (setup flash wifi) entradas →
      Reactive.Always (Reactive.watch loop racha) (fun pair => pair.2 ≤ 200)
        (setup flash wifi, 0) entradas := by
  intro bounded
  have start : Insistida 0 (setup (fun _ => 1) none, 0) := ⟨rfl, rfl, by decide, rfl⟩
  have keep (k : Nat) (pair : State × Nat) (_ : k < 201) (before : Insistida k pair) :
      Insistida (k + 1) (Reactive.watch loop racha pair (insistir k)) :=
    (insistida_step k pair.1 pair.2 before).1
  have timer := Reactive.steps_indexed Insistida insistir
    (fun pair e => (loop pair.1 e).minutos ≤ 0) 201 keep
    (fun k pair below before => (keep k pair below before).minutos.le) start
  have unlit := Reactive.steps_indexed Insistida insistir (fun pair e => SinLlama pair.1 e)
    201 keep (fun k pair _ before => (insistida_step k pair.1 pair.2 before).2) start
  have streak := (Reactive.run_indexed Insistida insistir 201 keep start).racha
  have few := bounded (fun _ => 1) none _ ((Reactive.steps_watch racha _ _ 0 _).mp timer)
    ((Reactive.steps_watch racha _ _ 0 _).mp unlit) _ List.prefix_rfl
  simp only [streak] at few
  exact absurd few (by decide)

end Chimenea.Attempts
