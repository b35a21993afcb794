import Chimenea.Lockout

/-!
The spark of a burner that is off. Every way of switching off leaves the spark low
but the timer expiry, which neither writes the spark nor waits for it. After every
way of switching off it stays low but after the lockout, which leaves a timer that
ignites again.
-/

namespace Chimenea.Spark
open Arduino Sketch Phases Ordenes Boundary Off Lockout

/-- The burner goes off in this execution: by an off request with no switch-on after
it, by the timer expiry or by the lockout. -/
def SeApaga (s : State) (e : Entrada) : Prop :=
  apaga s e = true ∨ ∃ before orden after, ordenes e = before ++ orden :: after ∧
    esApagado orden = true ∧ ∀ later ∈ after, esEncendido later = false

def QuedaSinChispa (s : State) : Prop :=
  ∀ entradas : List Entrada, (∀ e ∈ entradas, ∀ orden ∈ ordenes e, esEncendido orden = false) →
    (Reactive.run loop s entradas).chispa = false

/-- No spark over a burner that is off, and none after the burner went off. -/
def ChispaSegura (s : State) (e : Entrada) : Prop :=
  ((loop s e).chispa = true → (loop s e).encendida = true) ∧
    (SeApaga s e → QuedaSinChispa (loop s e))

/-- If the timer expires in this execution, its supervision did not start with
the spark phase of a switched-on burner. -/
def VenceSinChispa (s : State) (e : Entrada) : Prop :=
  cuenta s e = true → vence (mandos s e) = true →
    ¬((mandos s e).encendida = true ∧ (mandos s e).blink = true)

/-- If this execution locks out, its timer has two counted ticks left at most, the
one of the lockout included. -/
def BloqueaSinTemporizador (s : State) (e : Entrada) : Prop :=
  bloqueoEn s e = true → (mandos s e).minutos ≤ 0 ∨ ((mandos s e).minutos = 1 ∧
    ((mandos s e).contadorMinuto = 1 ∨ (mandos s e).contadorMinuto = 2))

/-- In the spark phase the tick of an igniting burner returns early, so a tick
that counts does not lock out. -/
theorem bloquea_spark (s : State) (e : Entrada) (few : (mandos s e).intentos < 100)
    (on : (mandos s e).encendida = true) (blinking : (mandos s e).blink = true) :
    bloquea (supervisar s e) = false := by
  apply Bool.eq_false_iff.mpr
  intro fires
  obtain ⟨paused, igniting⟩ := bloquea_attempt (by simp [on, few]) fires
  rcases lt_trichotomy (mandos s e).lectura (mandos s e).sensorVal1 with below | tie | above
  · simp [on, blinking, below.le] at paused
  · simp [on, blinking, tie] at paused
  · simp [above.not_gt, above.ne'] at igniting

theorem chispa_iff (s : State) (e : Entrada) (base : Coherente s)
    (before : s.chispa = true → s.encendida = true) :
    ((loop s e).chispa = true → (loop s e).encendida = true) ↔ VenceSinChispa s e := by
  have few := mandos_intentos (e := e) base.intentos
  have kept := mandos_chispa (e := e) before
  unfold VenceSinChispa
  simp only [State.chispa, loop_chispa, supervisar_chispa, loop_encendida] at kept ⊢
  cases on : (mandos s e).encendida with
  | false =>
    have dark : nivel .chispa (mandos s e).salidas = false :=
      Bool.eq_false_iff.mpr fun spark => by simp [kept spark] at on
    simp [dark]
  | true =>
    cases blinking : (mandos s e).blink with
    | false => simp
    | true =>
      have free := bloquea_spark s e few.2 on blinking
      cases ran : cuenta s e <;> simp [apaga, free, ran]

theorem sinTemporizador_iff (s : State) (e : Entrada) (fired : bloqueoEn s e = true) :
    SinTemporizador (loop s e) ↔ BloqueaSinTemporizador s e := by
  have counted : cuenta s e = true := (bloqueoEn_iff.mp fired).1
  unfold SinTemporizador BloqueaSinTemporizador
  rw [loop_minutos, loop_contadorMinuto]
  by_cases armed : 0 < (mandos s e).minutos
  · by_cases borrow : (mandos s e).contadorMinuto = 1#32
    · simp [fired, counted, armed, borrow]
      omega
    · have next : (mandos s e).contadorMinuto - 1#32 = 1#32 ↔
          (mandos s e).contadorMinuto = 2#32 := by
        constructor <;> intro h <;> bv_omega
      simp [fired, counted, armed, borrow, next]
  · have idle : (mandos s e).minutos ≤ 0 := by omega
    simp [armed, idle]

section Reencendido

/-- A threshold of 13 and a negative timer, neither of which is a switch-on. -/
def sinOrden (now : BitVec 32) : Entrada := { reposo 0 now with
  eventos := [mensaje { sensorSet := some "1", setTemporizador := some "-1" }] }

theorem sinOrden_orders (now : BitVec 32) :
    ∀ orden ∈ ordenes (sinOrden now), esEncendido orden = false := by
  have orders : ordenes (sinOrden now) =
      [.anotar 1 0 (-1), .temporizador (-1), .sensorSet 1, .leer (sinOrden now)] := rfl
  rw [orders]
  simp [esEncendido]

theorem rearma {s : State} {e : Entrada} (off : s.encendida = false)
    (timer : ¬ SinTemporizador s) (quiet : Quieta e) (due : esTick s e = true) :
    (loop s e).encendida = true ∧ (loop s e).blink = false ∧ (loop s e).intentos = 0 := by
  refine ⟨loop_rearms off timer quiet due, ?_⟩
  have burner : (mandos s e).encendida = false := (quieta_encendida quiet).trans off
  have counted : cuenta s e = true := (cuenta_off burner).trans due
  simp [loop_counted counted, bloquea, cuentaIntentos, burner]

theorem empieza_chispa {s : State} (now : BitVec 32) (on : s.encendida = true)
    (dark : s.blink = false) (first : s.intentos = 0) (due : esTick s (sinOrden now) = true) :
    (loop s (sinOrden now)).encendida = true ∧ (loop s (sinOrden now)).blink = true := by
  have orders : mandos s (sinOrden now) = obedecer s
      [.anotar 1 0 (-1), .temporizador (-1), .sensorSet 1, .leer (sinOrden now)] := mandos_eq s _
  have burner : (mandos s (sinOrden now)).encendida = true := by rw [orders]; exact on
  have paused : (mandos s (sinOrden now)).blink = false := by rw [orders]; exact dark
  have tries : (mandos s (sinOrden now)).intentos = 0 := by rw [orders]; exact first
  have timer : (mandos s (sinOrden now)).minutos = -1 := by rw [orders]; rfl
  have below : (mandos s (sinOrden now)).lectura < (mandos s (sinOrden now)).sensorVal1 := by
    rw [orders]
    show (0 : Int) < (s.eeprom.write direccion0 1).commit.read direccion0 * 13
    simp [Eeprom.read, Eeprom.commit, Eeprom.write]
  have counted : cuenta s (sinOrden now) = true := (cuenta_paused paused).trans due
  have free : bloquea (supervisar s (sinOrden now)) = false := by
    simp [bloquea, cuentaIntentos, burner, paused, below, tries]
  simp [loop_counted counted, burner, timer, below, free]

/-- A timer that outlives the lockout lights the spark without any switch-on. -/
theorem rearms_sparks {s : State} (off : s.encendida = false) (timer : ¬ SinTemporizador s) :
    ¬ QuedaSinChispa s := by
  intro stays
  have quiet := reposo_quieta 0 (s.previousMillis + 1000)
  have due : esTick s (reposo 0 (s.previousMillis + 1000)) = true := esTick_later (reposo_now ..)
  generalize reposo 0 (s.previousMillis + 1000) = first at quiet due
  obtain ⟨on, paused, tries⟩ := rearma off timer quiet due
  have later : esTick (loop s first) (sinOrden ((loop s first).previousMillis + 1000)) = true :=
    esTick_later rfl
  have silent := sinOrden_orders ((loop s first).previousMillis + 1000)
  obtain ⟨burning, sparking⟩ := empieza_chispa _ on paused tries later
  generalize sinOrden ((loop s first).previousMillis + 1000) = second at silent burning sparking
  have still := reposo_quieta 0 (loop (loop s first) second).previousMillis
  have pause : esTick (loop (loop s first) second)
      (reposo 0 (loop (loop s first) second).previousMillis) = false := esTick_same (reposo_now ..)
  generalize reposo 0 (loop (loop s first) second).previousMillis = third at still pause
  have dark := stays [first, second, third] (by
    simp only [List.forall_mem_cons, List.not_mem_nil, false_implies, implies_true, and_true]
    exact ⟨quieta_orders quiet, silent, quieta_orders still⟩)
  rw [Reactive.run_cons, Reactive.run_cons, Reactive.run_cons, Reactive.run_nil,
    loop_pause pause] at dark
  simp [still.mandos, leerSensor, burning, sparking] at dark

end Reencendido

theorem seApaga_reposo {s : State} {e : Entrada} (goesOff : SeApaga s e)
    (spark : (loop s e).chispa = true → (loop s e).encendida = true)
    (timer : BloqueaSinTemporizador s e) : Apagada (loop s e) ∧ EnReposo (loop s e) := by
  rcases goesOff with ends | ⟨before, orden, after, obeyed, off, last⟩
  · obtain ⟨off, low, high⟩ := loop_apaga ends
    have dark : (loop s e).chispa = false :=
      Bool.eq_false_iff.mpr fun lit => by simp [spark lit] at off
    refine ⟨⟨off, low, high, dark⟩, off, dark, ?_⟩
    rw [apaga, Bool.and_eq_true, Bool.or_eq_true] at ends
    obtain ⟨ran, expires | locks⟩ := ends
    · have last : (mandos s e).minutos = 1 ∧ (mandos s e).contadorMinuto = 1#32 := by
        simpa [vence] using expires
      left
      simp [loop_minutos, ran, last]
    · exact (sinTemporizador_iff s e (bloqueoEn_iff.mpr ⟨ran, locks⟩)).mpr timer
  · exact loop_reposo s e (mandos_reposo obeyed off last)

theorem chispaSegura_iff (s : State) (e : Entrada) (base : Coherente s)
    (before : s.chispa = true → s.encendida = true) :
    ChispaSegura s e ↔ VenceSinChispa s e ∧ BloqueaSinTemporizador s e := by
  have spark := chispa_iff s e base before
  constructor
  · intro safe
    refine ⟨spark.mp safe.1, fun fired => ?_⟩
    have ends : apaga s e = true := by simp [apaga, bloqueoEn_iff.mp fired]
    by_contra pending
    have timer : ¬ SinTemporizador (loop s e) := fun spent =>
      pending ((sinTemporizador_iff s e fired).mp spent fired)
    exact rearms_sparks (loop_apaga ends).1 timer (safe.2 (.inl ends))
  · intro meets
    have safe := spark.mpr meets.1
    refine ⟨safe, fun goesOff entradas quiet => ?_⟩
    have ends := seApaga_reposo goesOff safe meets.2
    exact (run_reposo ends.1 ends.2 entradas quiet).chispa

/-- Along a run the spark is never on over a burner that is off, and stays low once
the burner went off, exactly when no timer expires in an execution whose supervision
starts in the spark phase and no lockout leaves a timer with time to run. -/
theorem no_spark_when_off_iff (flash : Fin EEPROM_SIZE → BitVec 8) (wifi : Option (BitVec 32))
    (entradas : List Entrada) :
    Reactive.Steps loop ChispaSegura (setup flash wifi) entradas ↔
      Reactive.Steps loop (fun s e => VenceSinChispa s e ∧ BloqueaSinTemporizador s e)
        (setup flash wifi) entradas := by
  apply Reactive.steps_iff
    (fun s : State => Coherente s ∧ (s.chispa = true → s.encendida = true))
  · intro s e before safe
    exact ⟨loop_coherente s e before.1.intentos, safe.1⟩
  · intro s e before
    exact chispaSegura_iff s e before.1 before.2
  · refine ⟨setup_coherente flash wifi, ?_⟩
    cases wifi <;> simp [setup, globals, digitalWrite]

/-- A timer in its last minute over a threshold of 13, `k` seconds into it. -/
structure UltimoMinuto (k : Nat) (s : State) : Prop where
  reloj : s.previousMillis = BitVec.ofNat 32 (1000 * k)
  minutos : s.minutos = 1
  contador : s.contadorMinuto = BitVec.ofNat 32 (60 - k)
  umbral : s.eeprom.read direccion0 = 1

theorem ultimoMinuto_step (k : Nat) (s : State) (early : k < 59) (before : UltimoMinuto k s) :
    UltimoMinuto (k + 1) (loop s (segundo 4095 k)) := by
  obtain ⟨clock, minute, seconds, threshold⟩ := before
  have orders := segundo_mandos s 4095 k
  have due : esTick s (segundo 4095 k) = true :=
    esTick_segundo s _ k clock rfl
  have ran : cuenta s (segundo 4095 k) = true :=
    (cuenta_lit s _ (mandos_lit s _ rfl)).trans due
  have more : s.contadorMinuto ≠ 1#32 := by
    rw [seconds]
    bv_omega
  have next : s.contadorMinuto - 1#32 = BitVec.ofNat 32 (60 - (k + 1)) := by
    rw [seconds]
    bv_omega
  constructor
  · rw [loop_previousMillis, if_pos due]
    rfl
  · simp [loop_minutos, orders, leerSensor, minute, more]
  · simp [loop_contadorMinuto, ran, orders, leerSensor, minute, more, next]
  · simp [orders, leerSensor, threshold]

/-- The timer of one minute runs out over a proven flame, and an ON message comes
in the very second of its expiry: the spark stays on over the closed burner. -/
theorem expiry_leaves_spark_on :
    ¬ ∀ (flash : Fin EEPROM_SIZE → BitVec 8) (wifi : Option (BitVec 32))
      (entradas : List Entrada), Reactive.Steps loop ChispaSegura (setup flash wifi) entradas := by
  intro always
  let armed : Entrada := { reposo 4095 0 with
    eventos := [mensaje { setTemporizador := some "1" }] }
  let last : Entrada := { segundo 4095 59 with eventos := [mensaje { estado := some "on" }] }
  have start : UltimoMinuto 0 (loop (setup (fun _ => 1) none) armed) := by
    constructor <;> decide
  have before := Reactive.run_indexed UltimoMinuto (segundo 4095) 59 ultimoMinuto_step start
  have safe := always (fun _ => 1) none (armed :: (List.range 59).map (segundo 4095) ++ [last])
  rw [Reactive.steps_append, Reactive.run_cons] at safe
  generalize Reactive.run loop (loop (setup (fun _ => 1) none) armed)
    ((List.range 59).map (segundo 4095)) = s at before safe
  have orders : mandos s last = obedecer s [.anotar 0 0 0, .on, .leer last] := mandos_eq s last
  have due : esTick s last = true :=
    esTick_segundo s _ 59 before.reloj rfl
  have expires : vence (mandos s last) = true := by
    rw [orders]
    simp [ejecutar, leerSensor, estadoOn, digitalWrite, vence, before.minutos, before.contador]
  have lit : (mandos s last).encendida = true ∧ (mandos s last).blink = true := by
    rw [orders]
    exact ⟨rfl, rfl⟩
  have ran : cuenta s last = true := (cuenta_lit s last (mandos_lit s last rfl)).trans due
  have safeLast := safe.2.1.1
  simp [loop_chispa, loop_encendida, lit, apaga, ran, expires] at safeLast

end Chimenea.Spark
