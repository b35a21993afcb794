import Chimenea.Attempts
import Chimenea.Lockout

/-!
An ignition that finds no flame. Left alone, it takes a known number of ticks to the
lockout; but the attempts of an ignition that did light are never forgotten while the
burner stays on, and the next one starts from them.
-/

namespace Chimenea.Ignition
open Arduino Sketch Phases Ordenes Boundary Off Lockout Attempts

/-- The burner is on, below the lockout limit, and no timer is pending. -/
structure Encendiendo (s : State) : Prop where
  encendida : s.encendida = true
  minutos : s.minutos ≤ 0
  intentos : 0 ≤ s.intentos ∧ s.intentos < 100

section Step

variable {s : State} {e : Entrada}

/-- Left alone without a flame, an ignition counts the ticks of its pauses. -/
theorem encendiendo_cuenta (igniting : Encendiendo s) (quiet : Quieta e) (unlit : SinLlama s e) :
    cuenta s e = (esTick s e && !s.blink) := by
  have burner : (mandos s e).encendida = true :=
    (quieta_encendida quiet).trans igniting.encendida
  have spark : (mandos s e).blink = s.blink := quieta_blink quiet
  cases blinking : s.blink with
  | true =>
    rw [cuenta_sparking burner (spark.trans blinking) ((sinLlama_iff s e).mp unlit), Bool.not_true,
      Bool.and_false]
  | false => rw [cuenta_paused (spark.trans blinking), Bool.not_false, Bool.and_true]

/-- It stops at the tick its budget ends with. -/
theorem encendiendo_apaga (igniting : Encendiendo s) (quiet : Quieta e) (unlit : SinLlama s e) :
    apaga s e = (esTick s e && decide (presupuesto s = 1)) := by
  have below := (sinLlama_iff s e).mp unlit
  have counted := encendiendo_cuenta igniting quiet unlit
  obtain ⟨on, idle, few⟩ := igniting
  have burner : (mandos s e).encendida = true := (quieta_encendida quiet).trans on
  have tries : (mandos s e).intentos = s.intentos := quieta_intentos quiet
  have spark : (mandos s e).blink = s.blink := quieta_blink quiet
  have lasts : vence (mandos s e) = false := by
    have stopped : (mandos s e).minutos ≤ 0 := (quieta_minutos quiet).trans_le idle
    simp only [vence, decide_eq_false_iff_not]
    omega
  rw [apaga, counted, lasts, Bool.false_or]
  cases blinking : s.blink with
  | true =>
    have more : presupuesto s ≠ 1 := by
      simp only [presupuesto, blinking, if_true]
      omega
    simp [more]
  | false =>
    have fires : bloquea (supervisar s e) = decide (presupuesto s = 1) := by
      simp [bloquea, cuentaIntentos, presupuesto, burner, spark, blinking, below, tries]
      omega
    rw [fires, Bool.not_false, Bool.and_true]

theorem encendiendo_blink (igniting : Encendiendo s) (quiet : Quieta e) (unlit : SinLlama s e)
    (goesOn : apaga s e = false) : (loop s e).blink = (s.blink ^^ esTick s e) := by
  have below := (sinLlama_iff s e).mp unlit
  have counted := encendiendo_cuenta igniting quiet unlit
  have burner : (mandos s e).encendida = true :=
    (quieta_encendida quiet).trans igniting.encendida
  have spark : (mandos s e).blink = s.blink := quieta_blink quiet
  rw [loop_blink, counted]
  cases blinking : s.blink with
  | true => simp [burner, spark, blinking, below.le]
  | false =>
    cases due : esTick s e with
    | false => simp [burner, spark, blinking]
    | true =>
      have free : bloquea (supervisar s e) = false := by
        simp only [apaga, counted, due, blinking, Bool.not_false, Bool.true_and,
          Bool.or_eq_false_iff] at goesOn
        exact goesOn.2
      simp [burner, spark, blinking, below, free]

/-- Before that tick it burns gas, shows the spark its phase began with, and changes
phase at the ticks. -/
theorem encendiendo_loop (igniting : Encendiendo s) (quiet : Quieta e) (unlit : SinLlama s e)
    (goesOn : apaga s e = false) : Encendiendo (loop s e) ∧
      presupuesto (loop s e) = presupuesto s - (if esTick s e then 1 else 0) ∧
      (loop s e).gasBajo = true ∧ (loop s e).chispa = s.blink ∧
      (loop s e).blink = (s.blink ^^ esTick s e) := by
  have phase := encendiendo_blink igniting quiet unlit goesOn
  obtain ⟨on, idle, few⟩ := igniting
  have burner : (mandos s e).encendida = true := (quieta_encendida quiet).trans on
  have spark : (mandos s e).blink = s.blink := quieta_blink quiet
  have budget : presupuesto (mandos s e) = presupuesto s := by
    rw [presupuesto, quieta_intentos quiet, spark, presupuesto]
  have stays : (loop s e).encendida = true := by simp [loop_encendida, burner, goesOn]
  have low : (loop s e).gasBajo = true := by simp [loop_gasBajo, burner, goesOn]
  have minutes : (loop s e).minutos ≤ 0 := by
    rw [loop_minutos, quieta_minutos quiet]
    split_ifs <;> omega
  refine ⟨⟨stays, minutes, (loop_coherente s e few).intentos⟩, ?_, low, ?_, phase⟩
  · cases due : esTick s e with
    | false =>
      have same := (presupuesto_pausa s e unlit due stays).2
      simp [same, budget]
    | true =>
      have used := (presupuesto_tick s e unlit due low).2
      simp only [if_true]
      omega
  · simp [loop_chispa, burner, spark]

/-- The lockout tick begins with the spark low: its phase is a pause. -/
theorem encendiendo_last (igniting : Encendiendo s) (quiet : Quieta e) (unlit : SinLlama s e)
    (ends : apaga s e = true) : Apagada (loop s e) ∧ EnReposo (loop s e) := by
  have last := (encendiendo_apaga igniting quiet unlit).symm.trans ends
  rw [Bool.and_eq_true, decide_eq_true_iff] at last
  obtain ⟨on, idle, few⟩ := igniting
  have burner : (mandos s e).encendida = true := (quieta_encendida quiet).trans on
  have spark : (mandos s e).blink = s.blink := quieta_blink quiet
  have paused : s.blink = false := by
    apply Bool.eq_false_iff.mpr
    intro blinking
    have two := last.2
    simp only [presupuesto, blinking, if_true] at two
    omega
  obtain ⟨off, low, high⟩ := loop_apaga ends
  have dark : (loop s e).chispa = false := by simp [loop_chispa, burner, spark, paused]
  refine ⟨⟨off, low, high, dark⟩, off, dark, .inl ?_⟩
  rw [loop_minutos, quieta_minutos quiet]
  split_ifs <;> omega

end Step

/-- Where an ignition of `total` ticks stands after `n` of them. -/
def Avance (total : Int) (n : Nat) (s : State) : Prop :=
  (n < total ∧ Encendiendo s ∧ presupuesto s = total - n) ∨
    (total ≤ n ∧ Apagada s ∧ EnReposo s)

theorem avance_step {total : Int} {n : Nat} (s : State) (e : Entrada) (quiet : Quieta e)
    (unlit : SinLlama s e) (before : Avance total n s) :
    Avance total (n + if esTick s e then 1 else 0) (loop s e) := by
  rcases before with ⟨early, igniting, left⟩ | ⟨late, off, rest⟩
  · have ends := encendiendo_apaga igniting quiet unlit
    cases out : apaga s e with
    | false =>
      obtain ⟨next, used, _⟩ := encendiendo_loop igniting quiet unlit out
      have more := presupuesto_pos next.intentos
      left
      split_ifs at used ⊢ <;> exact ⟨by omega, next, by omega⟩
    | true =>
      have stopped := encendiendo_last igniting quiet unlit out
      rw [out, eq_comm, Bool.and_eq_true, decide_eq_true_iff] at ends
      right
      rw [if_pos ends.1]
      exact ⟨by omega, stopped⟩
  · have still := loop_quiet rest (quieta_orders quiet)
    exact .inr ⟨by split_ifs <;> omega, still⟩

theorem avance_run {total : Int} {n : Nat} {s : State} (before : Avance total n s)
    (entradas : List Entrada) (quiet : ∀ e ∈ entradas, Quieta e)
    (unlit : Reactive.Steps loop SinLlama s entradas) :
    Avance total (n + Reactive.count loop esTick s entradas) (Reactive.run loop s entradas) := by
  induction entradas generalizing s n with
  | nil => exact before
  | cons e rest ih =>
    have first := avance_step s e (quiet e (by simp)) unlit.1 before
    rw [Reactive.count, ← Nat.add_assoc]
    exact ih first (fun f member => quiet f (by simp [member])) unlit.2

/-- What an execution does when `k` of the `total` ticks of an ignition are over at its
end: before the last of them the gas is open, the spark shows the phase, and a tick
changes the phase; from the last of them on everything is off. -/
def Compas (total : Int) (k : Nat) (s : State) (e : Entrada) : Prop :=
  if k < total then
    (loop s e).gasBajo = true ∧ (loop s e).chispa = s.blink ∧
      (loop s e).blink = (s.blink ^^ esTick s e)
  else Apagada (loop s e)

theorem compas_of_avance {total : Int} {n : Nat} {s : State} {e : Entrada} (quiet : Quieta e)
    (unlit : SinLlama s e) (before : Avance total n s) :
    Compas total (n + if esTick s e then 1 else 0) s e := by
  have after := avance_step s e quiet unlit before
  by_cases early : ((n + if esTick s e then 1 else 0 : Nat) : Int) < total
  · rw [Compas, if_pos early]
    rcases before with ⟨_, igniting, left⟩ | ⟨late, _⟩
    · have goesOn : apaga s e = false := by
        apply Bool.eq_false_iff.mpr
        intro out
        rw [encendiendo_apaga igniting quiet unlit, Bool.and_eq_true, decide_eq_true_iff] at out
        rw [if_pos out.1] at early
        omega
      exact (encendiendo_loop igniting quiet unlit goesOn).2.2
    · omega
  · rw [Compas, if_neg early]
    rcases after with ⟨more, _⟩ | ⟨_, off, _⟩
    · exact absurd more early
    · exact off

/-- An ignition that is left alone and finds no flame locks out at the tick its budget
ends with, and keeps its spark rhythm up to that tick. -/
theorem lockout_at_exact_tick (s : State) (reached : Alcanzable s) (on : s.encendida = true)
    (idle : s.minutos ≤ 0) (entradas : List Entrada) (e : Entrada)
    (quiet : ∀ f ∈ entradas ++ [e], Quieta f)
    (unlit : Reactive.Steps loop SinLlama s (entradas ++ [e])) :
    Compas (presupuesto s) (Reactive.count loop esTick s (entradas ++ [e]))
      (Reactive.run loop s entradas) e := by
  have few := (alcanzable_coherente reached).intentos
  have more := presupuesto_pos few
  have start : Avance (presupuesto s) 0 s := .inl ⟨by omega, ⟨on, idle, few⟩, by omega⟩
  rw [Reactive.steps_append] at unlit
  have before := avance_run start entradas (fun f member => quiet f (by simp [member])) unlit.1
  rw [Nat.zero_add] at before
  rw [Reactive.count_concat]
  exact compas_of_avance (quiet e (by simp)) unlit.2.1 before

/-- An ignition that fails, up to the tick it locks out at. -/
theorem lockout_at_exact_tick_fallido :
    Compas 200 200 (encendidoFallido none) (segundo 0 199) := by
  have start := untimed_start
  have reached : Alcanzable (loop (setup (fun _ => 1) none)
      { reposo 0 0 with eventos := [mensaje { estado := some "on" }] }) :=
    .step _ (.init ⟨_, _, rfl⟩)
  have last := encendidoFallido_fallido (.inl le_rfl) none start
  rw [encendidoFallido] at last ⊢
  generalize loop (setup (fun _ => 1) none) _ = s at start reached last
  have budget : presupuesto s = 200 := by
    simp [presupuesto, start.intentos, start.blink]
  have second (k : Nat) (t : State) (failing : Fallido 0 k t) :
      SinLlama t (segundo 0 k) ∧ esTick t (segundo 0 k) = true :=
    ⟨(sinLlama_iff _ _).mpr (fallido_mandos failing).2, esTick_segundo t _ k failing.reloj rfl⟩
  have all : Reactive.Steps loop (fun t e => SinLlama t e ∧ esTick t e = true) s
      ((List.range 199).map (segundo 0) ++ [segundo 0 199]) := by
    rw [Reactive.steps_append]
    exact ⟨Reactive.steps_indexed (Fallido 0) (segundo 0) _ 199
      (fun k t early => fallido_step (.inl le_rfl) k t early)
      (fun k t _ => second k t) start, second 199 _ last, trivial⟩
  have quiet : ∀ f ∈ (List.range 199).map (segundo 0) ++ [segundo 0 199], Quieta f := by
    intro f member
    rcases List.mem_append.1 member with early | here
    · obtain ⟨k, _, rfl⟩ := List.mem_map.1 early
      exact segundo_quieta 0 k
    · rw [List.mem_singleton.1 here]
      exact segundo_quieta 0 199
  have ticks := Reactive.count_of_steps esTick (all.imp fun _ _ => And.right)
  rw [List.length_append, List.length_map, List.length_range, List.length_singleton] at ticks
  have ends := lockout_at_exact_tick s reached start.encendida start.minutos.2
    ((List.range 199).map (segundo 0)) (segundo 0 199) quiet (all.imp fun _ _ => And.left)
  rw [ticks, budget] at ends
  exact ends

/-- The burner is on and reads a flame. -/
def detectaLlama (s : State) (e : Entrada) : Bool :=
  (mandos s e).encendida && decide ((mandos s e).sensorVal1 < (mandos s e).lectura)

/-- This execution counts an ignition attempt. -/
def intenta (s : State) (e : Entrada) : Bool :=
  cuenta s e && !(supervisar s e).blink && (supervisar s e).iniciarCicloEncendido

/-- Attempts since the last execution that detected a flame. -/
def desde (n : Nat) (s : State) (e : Entrada) : Nat :=
  if detectaLlama s e = true then 0 else if intenta s e = true then n + 1 else n

/-- A lockout in this execution has a hundred attempts since the last flame. -/
def BloqueoMerecido (n : Nat) (s : State) (e : Entrada) : Prop :=
  bloqueoEn s e = true → 100 ≤ desde n s e

/-- An execution that detects a flame finds no attempt counted. -/
def LlamaSinIntentos (s : State) (e : Entrada) : Prop :=
  detectaLlama s e = true → (mandos s e).intentos = 0

/-- The count the lockout reads is covered by the attempts since the last flame. -/
structure Cubierto (n : Nat) (s : State) : Prop where
  intentos : 0 ≤ s.intentos ∧ s.intentos < 100
  cubre : s.intentos ≤ n

theorem cuentaIntentos_desde {n : Nat} (s : State) (e : Entrada) (before : Cubierto n s)
    (clean : LlamaSinIntentos s e) :
    (supervisar s e).intentos ≤ desde n s e ∧
      (cuenta s e = true → cuentaIntentos (supervisar s e) ≤ desde n s e) := by
  have covered : (supervisar s e).intentos ≤ n := by
    have count := before.cubre
    rw [supervisar_intentos]
    rcases mandos_intentos_cases s e with same | cleared <;> split_ifs <;> omega
  cases flame : detectaLlama s e with
  | true =>
    have tries := clean flame
    simp only [detectaLlama, Bool.and_eq_true, decide_eq_true_eq] at flame
    have none : cuentaIntentos (supervisar s e) = 0 := by
      simp [cuentaIntentos, flame.1, tries, flame.2.not_gt, flame.2.ne']
    rw [none, supervisar_intentos, if_pos flame.1, tries]
    exact ⟨Int.natCast_nonneg _, fun _ => Int.natCast_nonneg _⟩
  | false =>
    cases attempt : intenta s e with
    | true =>
      have counts : cuentaIntentos (supervisar s e) ≤ (supervisar s e).intentos + 1 := by
        unfold cuentaIntentos
        split_ifs <;> omega
      simp only [desde, flame, attempt, Bool.false_eq_true, if_false, if_true]
      exact ⟨by omega, fun _ => by omega⟩
    | false =>
      simp only [desde, flame, attempt, Bool.false_eq_true, if_false]
      refine ⟨covered, ?_⟩
      intro ran
      have still : ¬((supervisar s e).blink = false ∧
          (supervisar s e).iniciarCicloEncendido = true) := by
        intro both
        rw [intenta, ran, both.1, both.2] at attempt
        exact absurd attempt (by decide)
      rw [cuentaIntentos, if_neg still]
      exact covered

theorem cubierto_step {n : Nat} (s : State) (e : Entrada) (before : Cubierto n s)
    (clean : LlamaSinIntentos s e) : Cubierto (desde n s e) (loop s e) := by
  obtain ⟨covered, counts⟩ := cuentaIntentos_desde s e before clean
  refine ⟨(loop_coherente s e before.intentos).intentos, ?_⟩
  rw [loop_intentos]
  split_ifs with ran fires
  · exact Int.natCast_nonneg _
  · exact counts ran
  · exact covered

theorem bloqueoMerecido_of_clean {n : Nat} (s : State) (e : Entrada) (before : Cubierto n s)
    (clean : LlamaSinIntentos s e) : BloqueoMerecido n s e := by
  intro fired
  obtain ⟨ran, fires⟩ := bloqueoEn_iff.mp fired
  have counts := (cuentaIntentos_desde s e before clean).2 ran
  simp only [bloquea, decide_eq_true_eq] at fires
  omega

/-- Every lockout of a run has a hundred attempts since the last flame behind it, if no
flame of the run is detected with attempts already counted. -/
theorem lockouts_deserved (flash : Fin EEPROM_SIZE → BitVec 8) (wifi : Option (BitVec 32))
    (entradas : List Entrada)
    (clean : Reactive.Steps loop LlamaSinIntentos (setup flash wifi) entradas) :
    Reactive.Steps (Reactive.watch loop desde)
      (fun pair e => BloqueoMerecido pair.2 pair.1 e) (setup flash wifi, 0) entradas := by
  have start : Cubierto 0 (setup flash wifi) := by
    refine ⟨(setup_coherente flash wifi).intentos, ?_⟩
    cases wifi <;> exact le_rfl
  exact Reactive.steps_of_steps (fun pair : State × Nat => Cubierto pair.2 pair.1)
    (fun pair e => LlamaSinIntentos pair.1 e) _
    (fun pair e before met => cubierto_step pair.1 e before met)
    (fun pair e before met => bloqueoMerecido_of_clean pair.1 e before met) start entradas
    ((Reactive.steps_watch desde _ _ 0 _).mpr clean)

/-- A burner that lights at once and loses its flame: the lockout comes after a hundred
attempts. -/
def prendidoPerdido : List Entrada :=
  { segundo 4095 0 with eventos := [mensaje { estado := some "on" }] } ::
    (List.range 198).map (fun k => segundo 0 (k + 1))

theorem lockouts_deserved_perdido :
    bloqueoEn (Reactive.run loop (setup (fun _ => 1) none) prendidoPerdido) (segundo 0 199) = true ∧
      Reactive.Steps (Reactive.watch loop desde) (fun pair e => BloqueoMerecido pair.2 pair.1 e)
        (setup (fun _ => 1) none, 0) (prendidoPerdido ++ [segundo 0 199]) := by
  have start : Fallido 0 1 (loop (setup (fun _ => 1) none)
      { segundo 4095 0 with eventos := [mensaje { estado := some "on" }] }) := by
    constructor <;> decide
  have keep (k : Nat) (t : State) (early : k < 198) (failing : Fallido 0 (k + 1) t) :
      Fallido 0 (k + 1 + 1) (loop t (segundo 0 (k + 1))) :=
    fallido_step (.inl le_rfl) (k + 1) t (by omega) failing
  have dark (k : Nat) (t : State) (failing : Fallido 0 k t) : LlamaSinIntentos t (segundo 0 k) := by
    have below := (fallido_mandos failing).2
    intro lit
    rw [detectaLlama, Bool.and_eq_true, decide_eq_true_eq] at lit
    omega
  have last : Fallido 0 199 (Reactive.run loop (setup (fun _ => 1) none) prendidoPerdido) := by
    rw [prendidoPerdido, Reactive.run_cons]
    exact Reactive.run_indexed (fun k => Fallido 0 (k + 1)) (fun k => segundo 0 (k + 1)) 198 keep
      start
  refine ⟨fallido_bloquea last, ?_⟩
  apply lockouts_deserved
  rw [Reactive.steps_append]
  refine ⟨⟨by unfold LlamaSinIntentos; decide, ?_⟩, dark 199 _ last, trivial⟩
  exact Reactive.steps_indexed (fun k => Fallido 0 (k + 1)) (fun k => segundo 0 (k + 1))
    LlamaSinIntentos 198 keep (fun k t _ => dark (k + 1) t) start

theorem desde_flame {n : Nat} {s : State} {e : Entrada} (flame : detectaLlama s e = true) :
    desde n s e = 0 := if_pos flame

theorem desde_le (n : Nat) (s : State) (e : Entrada) : desde n s e ≤ n + 1 := by
  unfold desde
  split_ifs <;> omega

/-- A reading of 4095 in the pause before the last attempt, without a tick. -/
def llamarada : Entrada := reposo 4095 (BitVec.ofNat 32 (1000 * 199))

theorem llamarada_loop {s : State} (before : Fallido 0 199 s) :
    detectaLlama s llamarada = true ∧ Fallido 0 199 (loop s llamarada) := by
  obtain ⟨clock, on, threshold, blinking, tries, minutes⟩ := before
  have quiet : Quieta llamarada := reposo_quieta _ _
  have lit := mandos_lit s llamarada rfl
  have pause : esTick s llamarada = false := esTick_same clock.symm
  have burner : (mandos s llamarada).encendida = true := (quieta_encendida quiet).trans on
  have count : (mandos s llamarada).intentos = s.intentos := quieta_intentos quiet
  refine ⟨by simp [detectaLlama, burner, lit], ?_, ?_, ?_, ?_, ?_, ?_⟩
  · simp [loop_pause pause, clock]
  · simp [loop_pause pause, burner]
  · rw [loop_eeprom, quieta_eeprom quiet, threshold]
  · simp [loop_pause pause, lit]
  · simp [loop_pause pause, burner, count, tries]
  · rw [loop_pause pause, supervisar_minutos, quieta_minutos quiet]
    exact minutes

/-- An ON message and 199 seconds without a flame. -/
def sinPrender : List Entrada :=
  { reposo 0 0 with eventos := [mensaje { estado := some "on" }] } ::
    (List.range 199).map (segundo 0)

theorem sinPrender_fallido :
    Fallido 0 199 (Reactive.run loop (setup (fun _ => 1) none) sinPrender) := by
  rw [sinPrender, Reactive.run_cons]
  exact encendidoFallido_fallido (.inl le_rfl) none untimed_start

/-- An ignition of 99 attempts that lights in the pause before the next one keeps them:
the first attempt after the flame goes out locks the burner. -/
theorem old_attempts_lock_out :
    ¬ ∀ (flash : Fin EEPROM_SIZE → BitVec 8) (wifi : Option (BitVec 32))
      (entradas : List Entrada), Reactive.Steps (Reactive.watch loop desde)
        (fun pair e => BloqueoMerecido pair.2 pair.1 e) (setup flash wifi, 0) entradas := by
  intro always
  have deserved := always (fun _ => 1) none (sinPrender ++ [llamarada, segundo 0 199])
  rw [Reactive.steps_append] at deserved
  have later := deserved.2
  have failed := sinPrender_fallido
  rw [← Reactive.run_watch desde (setup (fun _ => 1) none) 0] at failed
  generalize Reactive.run (Reactive.watch loop desde) (setup (fun _ => 1) none, 0) sinPrender =
    pair at later failed
  obtain ⟨t, n⟩ := pair
  obtain ⟨flame, after⟩ := llamarada_loop failed
  simp only [Reactive.Steps, Reactive.watch, desde_flame flame] at later
  have many := later.2.1 (fallido_bloquea after)
  have few := desde_le 0 (loop t llamarada) (segundo 0 199)
  omega

end Chimenea.Ignition
