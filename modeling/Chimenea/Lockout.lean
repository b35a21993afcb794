import Chimenea.Off

/-!
After the lockout. The lockout branch switches everything off but the timer, and a
timer with time left switches the burner on again at its next tick.
-/

namespace Chimenea.Lockout
open Arduino Sketch Phases Ordenes Boundary Off

def bloqueoEn (s : State) (e : Entrada) : Bool := cuenta s e && bloquea (supervisar s e)

theorem bloqueoEn_iff {s : State} {e : Entrada} :
    bloqueoEn s e = true ↔ cuenta s e = true ∧ bloquea (supervisar s e) = true := by
  rw [bloqueoEn, Bool.and_eq_true]

def RecienBloqueado (s : State) : Prop :=
  ∃ before e, Alcanzable before ∧ bloqueoEn before e = true ∧ s = loop before e

/-- Both valves stay closed for as long as nobody orders anything. -/
def BloqueoPermanente (s : State) : Prop :=
  ∀ entradas : List Entrada, (∀ e ∈ entradas, Quieta e) →
    (Reactive.run loop s entradas).gasBajo = false ∧
      (Reactive.run loop s entradas).gasAlto = false

/-- The lockout fires between two spark phases, so it leaves the spark low too. -/
theorem recienBloqueado_apagada {s : State} (locked : RecienBloqueado s) : Apagada s := by
  obtain ⟨before, e, reached, fired, rfl⟩ := locked
  obtain ⟨ran, fires⟩ := bloqueoEn_iff.mp fired
  have few := (supervisar_supervisado before e (alcanzable_coherente reached).intentos).intentos
  obtain ⟨paused, igniting⟩ := bloquea_attempt few.2 fires
  have ends := loop_apaga (s := before) (e := e) (by simp [apaga, ran, fires])
  constructor
  · exact ends.1
  · exact ends.2.1
  · exact ends.2.2
  · simp only [supervisar_iniciarCicloEncendido, Bool.and_eq_true, Bool.or_eq_true,
      decide_eq_true_eq] at igniting
    have unlit : (mandos before e).lectura ≤ (mandos before e).sensorVal1 :=
      igniting.2.elim le_of_lt fun tie => tie.2.le
    simp only [supervisar_blink, igniting.1, unlit, decide_true, Bool.true_and,
      Bool.and_true] at paused
    simp [loop_chispa, igniting.1, paused]

section Quiet

variable {s : State} {e : Entrada}

theorem quieta_orders (quiet : Quieta e) : ∀ orden ∈ ordenes e, esEncendido orden = false := by
  rw [quiet.ordenes]
  simp [esEncendido]

theorem loop_rearms (off : s.encendida = false) (timer : ¬ SinTemporizador s) (quiet : Quieta e)
    (due : esTick s e = true) : (loop s e).encendida = true := by
  have burner : (mandos s e).encendida = false := (quieta_encendida quiet).trans off
  have minutes : (mandos s e).minutos = s.minutos := quieta_minutos quiet
  have seconds : (mandos s e).contadorMinuto = s.contadorMinuto := quieta_contadorMinuto quiet
  have armed : 0 < s.minutos := by
    by_contra idle
    exact timer (.inl (not_lt.mp idle))
  have lasts : vence (mandos s e) = false := by
    apply Bool.eq_false_iff.mpr
    intro expires
    exact timer (.inr (by simpa [vence, minutes, seconds] using expires))
  simp [loop_encendida, cuenta_off burner, apaga_off burner, due, minutes, armed, lasts]

end Quiet

theorem rearms_opens {s : State} (off : s.encendida = false) (timer : ¬ SinTemporizador s) :
    (Reactive.run loop s [reposo 0 (s.previousMillis + 1000), reposo 0 (s.previousMillis + 1000)]
      ).gasBajo = true := by
  have quiet := reposo_quieta 0 (s.previousMillis + 1000)
  have due : esTick s (reposo 0 (s.previousMillis + 1000)) = true := esTick_later rfl
  generalize reposo 0 (s.previousMillis + 1000) = e at quiet due
  have on : (mandos (loop s e) e).encendida = true :=
    (quieta_encendida quiet).trans (loop_rearms off timer quiet due)
  have pause : esTick (loop s e) e = false :=
    esTick_same (by rw [loop_previousMillis, if_pos due])
  rw [Reactive.run_cons, Reactive.run_cons, Reactive.run_nil, loop_pause pause]
  simp [on]

/-- A lockout is permanent exactly when it leaves no timer with time to run. -/
theorem lockout_permanent_iff (s : State) (locked : RecienBloqueado s) :
    BloqueoPermanente s ↔ SinTemporizador s := by
  have off := recienBloqueado_apagada locked
  constructor
  · intro permanent
    by_contra timer
    have opened := rearms_opens off.encendida timer
    rw [(permanent _ (by simp [reposo_quieta])).1] at opened
    exact absurd opened (by decide)
  · intro timer entradas quiet
    have ends := run_reposo off ⟨off.encendida, off.chispa, timer⟩ entradas
      fun e member => quieta_orders (quiet e member)
    exact ⟨ends.gasBajo, ends.gasAlto⟩

/-- `k` seconds into an ignition that reads 0 under a threshold of 13, with a timer
that started from `m` minutes. -/
structure Fallido (m : Int) (k : Nat) (s : State) : Prop where
  reloj : s.previousMillis = BitVec.ofNat 32 (1000 * k)
  encendida : s.encendida = true
  umbral : s.eeprom.read direccion0 = 1
  blink : s.blink = decide (k % 2 = 0)
  intentos : s.intentos = (k / 2 : Nat)
  minutos : m - k ≤ s.minutos ∧ s.minutos ≤ m

theorem fallido_mandos {m : Int} {k : Nat} {s : State} (before : Fallido m k s) :
    Fallido m k (mandos s (segundo 0 k)) ∧
      (mandos s (segundo 0 k)).lectura < (mandos s (segundo 0 k)).sensorVal1 := by
  obtain ⟨clock, on, threshold, blinking, tries, minutes⟩ := before
  rw [segundo_mandos]
  refine ⟨⟨clock, on, threshold, blinking, tries, minutes⟩, ?_⟩
  show (0 : Int) < s.eeprom.read direccion0 * 13
  rw [threshold]
  decide

/-- Even seconds end a spark phase, odd ones count an attempt. -/
theorem fallido_step {m : Int} (far : m ≤ 0 ∨ 1000 ≤ m) (k : Nat) (s : State) (early : k < 199)
    (before : Fallido m k s) : Fallido m (k + 1) (loop s (segundo 0 k)) := by
  have due : esTick s (segundo 0 k) = true := esTick_segundo s _ k before.reloj rfl
  obtain ⟨⟨_, on, threshold, blinking, tries, minutes⟩, below⟩ := fallido_mandos before
  have clock : (segundo 0 k).now = BitVec.ofNat 32 (1000 * (k + 1)) := rfl
  generalize segundo 0 k = e at *
  have lasts : vence (mandos s e) = false := by
    have more : (mandos s e).minutos ≠ 1 := by omega
    simp [vence, more]
  have minutos : m - (k + 1 : Nat) ≤ (loop s e).minutos ∧ (loop s e).minutos ≤ m := by
    rw [loop_minutos]
    split_ifs <;> omega
  rcases Nat.mod_two_eq_zero_or_one k with even | odd
  · have lit : (mandos s e).blink = true := by simp [blinking, even]
    have returns : retorna (supervisar s e) = true := by simp [retorna, on, lit, below, below.le]
    refine ⟨by rw [loop_previousMillis, if_pos due, clock], ?_, by rw [loop_eeprom, threshold],
      ?_, ?_, minutos⟩
    · simp [loop_returned due returns, transmitir, on]
    · have next : (k + 1) % 2 ≠ 0 := by omega
      simp [loop_returned due returns, next]
    · have half : (k + 1) / 2 = k / 2 := by omega
      simp [loop_returned due returns, transmitir, on, tries, half]
  · have dark : (mandos s e).blink = false := by simp [blinking, odd]
    have counted : cuenta s e = true := (cuenta_paused dark).trans due
    have few : bloquea (supervisar s e) = false := by
      simp [bloquea, cuentaIntentos, on, dark, below, tries]
      omega
    refine ⟨by rw [loop_previousMillis, if_pos due, clock], ?_, by rw [loop_eeprom, threshold],
      ?_, ?_, minutos⟩
    · simp [loop_encendida, apaga, on, lasts, few]
    · have next : (k + 1) % 2 = 0 := by omega
      simp [loop_counted counted, on, below, few, next]
    · have half : (k + 1) / 2 = k / 2 + 1 := by omega
      simp [loop_counted counted, cuentaIntentos, on, below, dark, few, tries, half]

theorem fallido_bloquea {m : Int} {s : State} (before : Fallido m 199 s) :
    bloqueoEn s (segundo 0 199) = true := by
  have due : esTick s (segundo 0 199) = true := esTick_segundo s _ 199 before.reloj rfl
  obtain ⟨⟨_, on, _, blinking, tries, _⟩, below⟩ := fallido_mandos before
  have dark : (mandos s (segundo 0 199)).blink = false := blinking
  have counted : cuenta s (segundo 0 199) = true := (cuenta_paused dark).trans due
  have fires : bloquea (supervisar s (segundo 0 199)) = true := by
    simp [bloquea, cuentaIntentos, on, dark, below, tries]
  exact bloqueoEn_iff.mpr ⟨counted, fires⟩

/-- An ignition that fails: a message at time 0 and 199 seconds without a flame. -/
def encendidoFallido (temporizador : Option String) : State :=
  Reactive.run loop
    (loop (setup (fun _ => 1) none) { reposo 0 0 with
      eventos := [mensaje { estado := some "on", setTemporizador := temporizador }] })
    ((List.range 199).map (segundo 0))

theorem encendidoFallido_fallido {m : Int} (far : m ≤ 0 ∨ 1000 ≤ m)
    (temporizador : Option String)
    (start : Fallido m 0 (loop (setup (fun _ => 1) none) { reposo 0 0 with
      eventos := [mensaje { estado := some "on", setTemporizador := temporizador }] })) :
    Fallido m 199 (encendidoFallido temporizador) :=
  Reactive.run_indexed (Fallido m) (segundo 0) 199
    (fun k s early => fallido_step far k s early) start

theorem encendidoFallido_recienBloqueado {m : Int} (far : m ≤ 0 ∨ 1000 ≤ m)
    (temporizador : Option String)
    (start : Fallido m 0 (loop (setup (fun _ => 1) none) { reposo 0 0 with
      eventos := [mensaje { estado := some "on", setTemporizador := temporizador }] })) :
    RecienBloqueado (loop (encendidoFallido temporizador) (segundo 0 199)) ∧
      m - 200 ≤ (loop (encendidoFallido temporizador) (segundo 0 199)).minutos ∧
      (loop (encendidoFallido temporizador) (segundo 0 199)).minutos ≤ m := by
  have before := encendidoFallido_fallido far temporizador start
  have reached : Alcanzable (encendidoFallido temporizador) :=
    (Reactive.Reachable.step _ (.init ⟨_, _, rfl⟩)).run _
  generalize encendidoFallido temporizador = s at before reached
  refine ⟨⟨s, _, reached, fallido_bloquea before, rfl⟩, ?_⟩
  have minutes := (fallido_mandos before).1.minutos
  rw [loop_minutos]
  split_ifs <;> omega

theorem untimed_start : Fallido 0 0 (loop (setup (fun _ => 1) none) { reposo 0 0 with
    eventos := [mensaje { estado := some "on" }] }) := by
  constructor <;> decide

theorem lockout_permanent_untimed :
    BloqueoPermanente (loop (encendidoFallido none) (segundo 0 199)) := by
  obtain ⟨locked, _, idle⟩ := encendidoFallido_recienBloqueado (.inl le_rfl) none untimed_start
  exact (lockout_permanent_iff _ locked).mpr (.inl idle)

/-- A failed ignition with a timer of 1000 minutes opens the gas again two executions
after its lockout. -/
theorem timer_undoes_lockout : ¬ ∀ s, RecienBloqueado s → BloqueoPermanente s := by
  intro permanent
  have start : Fallido 1000 0 (loop (setup (fun _ => 1) none) { reposo 0 0 with
      eventos := [mensaje { estado := some "on", setTemporizador := some "1000" }] }) := by
    constructor <;> decide
  obtain ⟨locked, more, _⟩ := encendidoFallido_recienBloqueado (.inr le_rfl) _ start
  have opened := rearms_opens (recienBloqueado_apagada locked).encendida (by
    unfold SinTemporizador
    omega)
  rw [(permanent _ locked _ (by simp [reposo_quieta])).1] at opened
  exact absurd opened (by decide)

end Chimenea.Lockout
