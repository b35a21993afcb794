import Chimenea.Reactive.Countdown
import Chimenea.Timer

/-!
The shutdown timer as a countdown. The counted ticks a timer has left are a
function of its two variables; while nothing is ordered, a counted tick takes one
away and nothing else changes them.
-/

namespace Chimenea.Countdown
open Arduino Sketch Phases Ordenes Timer

/-- Decrements until `contadorMinuto` next arrives at zero. -/
def segundos (contadorMinuto : BitVec 32) : Nat :=
  if contadorMinuto = 0 then 4294967296 else contadorMinuto.toNat

/-- Counted ticks until the timer expires, 0 without a timer. -/
def restante (s : State) : Nat :=
  if 0 < s.minutos then 60 * (s.minutos - 1).toNat + segundos s.contadorMinuto else 0

theorem segundos_pos (contador : BitVec 32) : 1 ≤ segundos contador := by
  unfold segundos
  split_ifs <;> bv_omega

theorem segundos_eq_one (contador : BitVec 32) : segundos contador = 1 ↔ contador = 1#32 := by
  unfold segundos
  split_ifs <;> constructor <;> intro h <;> bv_omega

theorem segundos_sub (contador : BitVec 32) (more : contador ≠ 1#32) :
    segundos (contador - 1#32) = segundos contador - 1 := by
  have later : contador - 1#32 ≠ 0 := by bv_omega
  unfold segundos
  rw [if_neg later]
  split_ifs <;> bv_omega

theorem vence_iff (s : State) : vence s = true ↔ restante s = 1 := by
  have some := segundos_pos s.contadorMinuto
  simp only [vence, decide_eq_true_eq, ← segundos_eq_one]
  unfold restante
  split_ifs with armed
  · omega
  · constructor
    · intro last
      omega
    · intro one
      exact absurd one (by decide)

structure Expira (s : State) (e : Entrada) : Prop where
  antes : 0 < (mandos s e).minutos
  minutos : (loop s e).minutos = 0
  encendida : (loop s e).encendida = false
  gasBajo : (loop s e).gasBajo = false
  gasAlto : (loop s e).gasAlto = false

theorem Expira.congr {s t : State} {e f : Entrada} (expires : Expira s e)
    (orders : mandos s e = mandos t f) (ends : loop s e = loop t f) : Expira t f := by
  obtain ⟨armed, minutos, off, low, high⟩ := expires
  rw [orders] at armed
  rw [ends] at minutos off low high
  exact ⟨armed, minutos, off, low, high⟩

def regresa (s : State) (e : Entrada) : Bool := esTick s e && retorna (supervisar s e)

theorem cuenta_eq (s : State) (e : Entrada) : cuenta s e = (esTick s e && !regresa s e) := by
  unfold cuenta regresa
  cases esTick s e <;> rfl

theorem tick_split (s : State) (e : Entrada) : (if esTick s e then 1 else 0) =
    (if cuenta s e then 1 else 0) + if regresa s e then 1 else 0 := by
  rw [cuenta_eq]
  unfold regresa
  cases esTick s e <;> cases retorna (supervisar s e) <;> rfl

/-- The orders that set the timer or clear it. -/
def tocaTemporizador : Orden → Bool
  | .temporizador _ | .off | .botonApagado | .contAp => true
  | _ => false

def ConservaTemporizador (e : Entrada) : Prop := ∀ orden ∈ ordenes e, tocaTemporizador orden = false

theorem quieta_conserva {e : Entrada} (quiet : Quieta e) : ConservaTemporizador e := by
  intro orden member
  rw [quiet.ordenes, List.mem_singleton] at member
  rw [member]
  rfl

theorem conserva_mandos (s : State) {e : Entrada} (keeps : ConservaTemporizador e) :
    (mandos s e).minutos = s.minutos ∧ (mandos s e).contadorMinuto = s.contadorMinuto := by
  apply mandos_invariant_of_orders
    (fun t => t.minutos = s.minutos ∧ t.contadorMinuto = s.contadorMinuto)
    (fun orden => tocaTemporizador orden = false) _ ⟨rfl, rfl⟩ keeps
  intro t orden kept same
  rw [ejecutar_minutos, ejecutar_contadorMinuto]
  cases orden <;> simp [tocaTemporizador] at kept <;> exact same

theorem restante_loop (s : State) (e : Entrada) (keeps : ConservaTemporizador e) :
    restante (loop s e) = restante s - if cuenta s e then 1 else 0 := by
  have some := segundos_pos s.contadorMinuto
  obtain ⟨minutos, contador⟩ := conserva_mandos s keeps
  simp only [restante, loop_minutos, loop_contadorMinuto, minutos, contador]
  by_cases counted : cuenta s e = true
  · by_cases armed : 0 < s.minutos
    · by_cases borrow : s.contadorMinuto = 1#32
      · have one := (segundos_eq_one _).mpr borrow
        have full : segundos 60#32 = 60 := by decide
        simp only [counted, armed, borrow, and_self, if_true, full]
        rw [borrow] at one
        split_ifs <;> omega
      · simp [counted, armed, borrow, segundos_sub]
        omega
    · simp [armed]
  · simp [counted]

theorem expira_iff (s : State) (e : Entrada) (keeps : ConservaTemporizador e) :
    Expira s e ↔ cuenta s e = true ∧ restante s = 1 := by
  have last : restante s = 1 ↔ s.minutos = 1 ∧ s.contadorMinuto = 1#32 := by
    simp [← vence_iff, vence]
  obtain ⟨minutos, contador⟩ := conserva_mandos s keeps
  rw [last]
  constructor
  · intro expires
    have armed := expires.antes
    have ends := expires.minutos
    rw [loop_minutos] at ends
    rw [minutos, contador] at ends
    rw [minutos] at armed
    split_ifs at ends with borrow
    · exact ⟨borrow.1, by omega, borrow.2.2⟩
    · omega
  · intro last
    obtain ⟨counted, one, borrow⟩ := last
    have out : apaga s e = true := by simp [apaga, counted, vence, minutos, contador, one, borrow]
    obtain ⟨off, low, high⟩ := loop_apaga out
    refine ⟨by rw [minutos, one]; decide, ?_, off, low, high⟩
    simp [loop_minutos, counted, minutos, contador, one, borrow]

section Exacta

/-- A timer is pending and its seconds are those of a minute. -/
structure EnCuenta (s : State) : Prop where
  minutos : 1 ≤ s.minutos
  contador : 1 ≤ s.contadorMinuto.toNat ∧ s.contadorMinuto.toNat ≤ 60

/-- The two timer variables as one number of two digits, to base 60. -/
def saldo (s : State) : Int := 60 * (s.minutos - 1) + s.contadorMinuto.toNat

theorem EnCuenta.saldo_eq {s : State} (pending : EnCuenta s) : saldo s = restante s := by
  obtain ⟨minutes, seconds⟩ := pending
  have armed : 0 < s.minutos := by omega
  have filled : s.contadorMinuto ≠ 0 := by
    intro zero
    simp [zero] at seconds
  simp only [saldo, restante, segundos, armed, filled, if_true, if_false]
  omega

theorem saldo_mandos (s : State) {e : Entrada} (keeps : ConservaTemporizador e) :
    saldo (mandos s e) = saldo s := by
  obtain ⟨minutos, contador⟩ := conserva_mandos s keeps
  rw [saldo, minutos, contador, saldo]

theorem saldo_loop {s : State} {e : Entrada} (pending : EnCuenta s)
    (keeps : ConservaTemporizador e) :
    saldo (loop s e) = saldo s - if cuenta s e then 1 else 0 := by
  obtain ⟨minutos, contador⟩ := conserva_mandos s keeps
  obtain ⟨minutes, seconds⟩ := pending
  have armed : 0 < s.minutos := by omega
  simp only [saldo, loop_minutos, loop_contadorMinuto, minutos, contador]
  by_cases counted : cuenta s e = true
  · by_cases borrow : s.contadorMinuto = 1#32
    · simp [counted, armed, borrow]
      omega
    · have down : (s.contadorMinuto - 1#32).toNat = s.contadorMinuto.toNat - 1 := by bv_omega
      simp only [counted, armed, borrow, down, true_and, and_false, if_true, if_false]
      omega
  · simp [counted]

/-- A pending timer stays in its range in an execution in which it does not expire. -/
theorem enCuenta_loop {s : State} {e : Entrada} (pending : EnCuenta s)
    (keeps : ConservaTemporizador e) (goesOn : ¬ Expira s e) : EnCuenta (loop s e) := by
  obtain ⟨minutos, contador⟩ := conserva_mandos s keeps
  have seconds := loop_segundos s e (by rw [contador]; exact pending.contador.1)
    (by rw [contador]; exact pending.contador.2)
  refine ⟨?_, seconds⟩
  have left := saldo_loop pending keeps
  have more := pending.saldo_eq
  have minutes := pending.minutos
  have digits := pending.contador
  rw [expira_iff s e keeps] at goesOn
  unfold saldo at left more
  split_ifs at left with counted
  · have notLast : restante s ≠ 1 := fun one => goesOn ⟨counted, one⟩
    omega
  · omega

theorem expira_saldo {s : State} {e : Entrada} (pending : EnCuenta s)
    (keeps : ConservaTemporizador e) : Expira s e ↔ cuenta s e = true ∧ saldo s = 1 := by
  rw [expira_iff s e keeps, pending.saldo_eq]
  exact and_congr_right fun _ => by omega

/-- Execution `e` of a run that counts down: it takes one from the balance if its tick
counts, not before the tick, and expires the timer if that was the last one. -/
structure CuentaExacta (total : Int) (contados : Nat) (s : State) (e : Entrada) : Prop where
  pendiente : EnCuenta s
  queda : saldo s = total - contados
  ordenes : saldo (mandos s e) = saldo s
  descuenta : saldo (loop s e) = saldo s - if cuenta s e then 1 else 0
  expira : Expira s e ↔ cuenta s e = true ∧ (contados + 1 : Int) = total
  sigue : ¬ Expira s e → EnCuenta (loop s e)

theorem enCuenta_run {s : State} (pending : EnCuenta s) (entradas : List Entrada)
    (keeps : ∀ e ∈ entradas, ConservaTemporizador e)
    (few : Reactive.count loop cuenta s entradas < saldo s) :
    EnCuenta (Reactive.run loop s entradas) ∧
      saldo (Reactive.run loop s entradas) = saldo s - Reactive.count loop cuenta s entradas := by
  induction entradas generalizing s with
  | nil => exact ⟨pending, by simp [Reactive.count]⟩
  | cons e rest ih =>
    have first := keeps e (by simp)
    have left := saldo_loop pending first
    rw [Reactive.count] at few ⊢
    have mark : ((if cuenta s e = true then 1 else 0 : Nat) : Int) =
        if cuenta s e = true then 1 else 0 := by split_ifs <;> rfl
    rw [Int.natCast_add, mark] at few ⊢
    have goesOn : ¬ Expira s e := by
      intro expires
      obtain ⟨counted, one⟩ := (expira_saldo pending first).mp expires
      rw [counted, one] at few
      simp only [if_true] at few
      omega
    have later := ih (enCuenta_loop pending first goesOn)
      (fun f member => keeps f (by simp [member])) (by omega)
    rw [left] at later
    exact ⟨later.1, by rw [Reactive.run_cons, later.2]; omega⟩

/-- While no order touches the timer, the balance of its two variables falls by one
at every counted tick and at no other time, through lockouts, early returns and
borrows, and the timer expires at the counted tick that takes the last of it. -/
theorem countdown_is_exact (s : State) (pending : EnCuenta s) (entradas : List Entrada)
    (e : Entrada) (keeps : ∀ f ∈ entradas, ConservaTemporizador f)
    (keepsLast : ConservaTemporizador e)
    (few : Reactive.count loop cuenta s entradas < saldo s) :
    CuentaExacta (saldo s) (Reactive.count loop cuenta s entradas)
      (Reactive.run loop s entradas) e := by
  obtain ⟨inRange, left⟩ := enCuenta_run pending entradas keeps few
  constructor
  · exact inRange
  · exact left
  · exact saldo_mandos _ keepsLast
  · exact saldo_loop inRange keepsLast
  · rw [expira_saldo inRange keepsLast, left]
    exact and_congr_right fun _ => by omega
  · exact enCuenta_loop inRange keepsLast

theorem countdown_is_exact_igniting :
    CuentaExacta 60 (Reactive.count loop cuenta { setup (fun _ => 1) none with minutos := 1 }
        [{ segundo 0 0 with eventos := [mensaje { estado := some "on" }] }, segundo 0 1])
      (Reactive.run loop { setup (fun _ => 1) none with minutos := 1 }
        [{ segundo 0 0 with eventos := [mensaje { estado := some "on" }] }, segundo 0 1])
      { segundo 0 2 with contAlt := HIGH } := by
  apply countdown_is_exact { setup (fun _ => 1) none with minutos := 1 } ⟨by decide, by decide⟩
  · simp only [List.forall_mem_cons, List.not_mem_nil, false_implies, implies_true, and_true]
    exact ⟨by unfold ConservaTemporizador; decide, quieta_conserva (segundo_quieta 0 1)⟩
  · unfold ConservaTemporizador
    decide
  · decide

end Exacta

/-- A text message that sets the timer to `n` minutes, after the other messages of
its execution. What that execution reads after it orders nothing more. -/
structure Ajuste (n : Nat) where
  antes : List Evento
  num : BitVec 8
  doc_rx : DocRx
  resto : Entrada
  valor : toInt (string doc_rx.setTemporizador) = n
  quieta : Quieta resto

namespace Ajuste

variable {n : Nat} (ajuste : Ajuste n) (s : State)

def entrada : Entrada := { ajuste.resto with
  eventos := ajuste.antes ++ ⟨ajuste.num, .text, .ok ajuste.doc_rx⟩ :: ajuste.resto.eventos }

def previo : State := ajuste.antes.foldl webSocketEvent s

def recibido : State := recibirTexto (ajuste.previo s) ajuste.doc_rx

theorem mandos_entrada : mandos s ajuste.entrada = mandos (ajuste.recibido s) ajuste.resto := by
  simp only [mandos, entrada, List.foldl_append, List.foldl_cons]
  rfl

theorem supervisar_entrada :
    supervisar s ajuste.entrada = supervisar (ajuste.recibido s) ajuste.resto := by
  rw [supervisar, mandos_entrada]
  rfl

theorem loop_entrada : loop s ajuste.entrada = loop (ajuste.recibido s) ajuste.resto := by
  rw [loop, supervisar_entrada]
  rfl

theorem esTick_entrada : esTick s ajuste.entrada = esTick (ajuste.recibido s) ajuste.resto := by
  rw [esTick, mandos_entrada]
  rfl

theorem regresa_entrada :
    regresa s ajuste.entrada = regresa (ajuste.recibido s) ajuste.resto := by
  rw [regresa, esTick_entrada, supervisar_entrada, regresa]

theorem expira_entrada : Expira s ajuste.entrada ↔ Expira (ajuste.recibido s) ajuste.resto := by
  have orders := ajuste.mandos_entrada s
  have ends := ajuste.loop_entrada s
  exact ⟨fun expires => expires.congr orders ends,
    fun expires => expires.congr orders.symm ends.symm⟩

theorem recibido_off (off : string ajuste.doc_rx.estado = "off") :
    restante (ajuste.recibido s) = 0 := by
  simp [restante, recibido, recibirTexto_minutos, off]

theorem count_entrada (entradas : List Entrada) (mark : State → Entrada → Bool)
    (same : mark s ajuste.entrada = mark (ajuste.recibido s) ajuste.resto) :
    Reactive.count loop mark s (ajuste.entrada :: entradas) =
      Reactive.count loop mark (ajuste.recibido s) (ajuste.resto :: entradas) := by
  rw [Reactive.count, Reactive.count, same, ajuste.loop_entrada]

theorem recibido_restante (keeps : string ajuste.doc_rx.estado ≠ "off") (some : 1 ≤ n) :
    restante (ajuste.recibido s) = 60 * (n - 1) + segundos (ajuste.previo s).contadorMinuto := by
  have armed : 0 < n := some
  simp [restante, recibido, recibirTexto_minutos, recibirTexto_contadorMinuto, ajuste.valor, keeps,
    armed, armed.ne']

end Ajuste

/-- The message is no off message, it finds some seconds of a minute left, and the
early returns among the ticks make up for the seconds missing from that minute. -/
def Puntual {n : Nat} (ajuste : Ajuste n) (s : State) (entradas : List Entrada)
    (ultima : Entrada) : Prop :=
  string ajuste.doc_rx.estado ≠ "off" ∧ (ajuste.previo s).contadorMinuto ≠ 0 ∧
    (ajuste.previo s).contadorMinuto.toNat +
      Reactive.count loop regresa s (ajuste.entrada :: entradas) = 60 ∧
    regresa (Reactive.run loop s (ajuste.entrada :: entradas)) ultima = false

def ExpiraAlFinal (s : State) (entradas : List Entrada) (ultima : Entrada) : Prop :=
  Reactive.Steps loop (fun t e => ¬ Expira t e) s entradas ∧
    Expira (Reactive.run loop s entradas) ultima

section Plazo

variable {n : Nat} (ajuste : Ajuste n) (s : State) (entradas : List Entrada) (ultima : Entrada)
  (quiet : ∀ e ∈ entradas, Quieta e) (quietLast : Quieta ultima)

include quiet quietLast

theorem expiraAlFinal_iff : ExpiraAlFinal s (ajuste.entrada :: entradas) ultima ↔
    cuenta (Reactive.run loop s (ajuste.entrada :: entradas)) ultima = true ∧
      restante (ajuste.recibido s) =
        Reactive.count loop cuenta (ajuste.recibido s) (ajuste.resto :: entradas) + 1 := by
  have all : ∀ e ∈ ajuste.resto :: entradas, Quieta e := by
    intro e member
    rcases List.mem_cons.mp member with rfl | later
    · exact ajuste.quieta
    · exact quiet e later
  have last := Reactive.runs_out_last_iff restante cuenta ConservaTemporizador restante_loop Expira
    expira_iff (ajuste.recibido s) (ajuste.resto :: entradas) ultima
    (fun e member => quieta_conserva (all e member)) (quieta_conserva quietLast)
  rw [Reactive.Steps, Reactive.run_cons] at last
  rw [ExpiraAlFinal, Reactive.Steps, Reactive.run_cons, ajuste.expira_entrada, ajuste.loop_entrada]
  exact last

/-- A timer of `n` minutes expires at the `60 n`-th one-second tick from its message
on, exactly when nothing disturbs the seconds of its first minute. -/
theorem timer_keeps_time_iff
    (due : esTick (Reactive.run loop s (ajuste.entrada :: entradas)) ultima = true)
    (ticks : Reactive.count loop esTick s (ajuste.entrada :: entradas) + 1 = 60 * n) :
    ExpiraAlFinal s (ajuste.entrada :: entradas) ultima ↔ Puntual ajuste s entradas ultima := by
  have some : 1 ≤ n := by omega
  have total := Reactive.count_split loop esTick cuenta regresa tick_split (ajuste.recibido s)
    (ajuste.resto :: entradas)
  rw [ajuste.count_entrada s entradas esTick (ajuste.esTick_entrada s)] at ticks
  rw [expiraAlFinal_iff ajuste s entradas ultima quiet quietLast, cuenta_eq, due, Puntual,
    ajuste.count_entrada s entradas regresa (ajuste.regresa_entrada s)]
  simp only [Bool.true_and, Bool.not_eq_true']
  by_cases off : string ajuste.doc_rx.estado = "off"
  · simp [off, ajuste.recibido_off s off]
  · rw [ajuste.recibido_restante s off some]
    by_cases empty : (ajuste.previo s).contadorMinuto = 0
    · have wraps : segundos (ajuste.previo s).contadorMinuto = 4294967296 := if_pos empty
      constructor
      · intro both
        obtain ⟨_, sum⟩ := both
        omega
      · intro timely
        obtain ⟨_, filled, _⟩ := timely
        exact absurd empty filled
    · have filled : segundos (ajuste.previo s).contadorMinuto =
          (ajuste.previo s).contadorMinuto.toNat := if_neg empty
      rw [filled, and_comm]
      simp only [ne_eq, off, empty, not_false_eq_true, true_and]
      apply and_congr_left
      intro _
      constructor <;> intro sum <;> omega

end Plazo

theorem segundo_ticks (sensor n : Nat) (s : State) (clock : s.previousMillis = 0) :
    Reactive.count loop esTick s ((List.range n).map (segundo sensor)) = n ∧
      (Reactive.run loop s ((List.range n).map (segundo sensor))).previousMillis =
        BitVec.ofNat 32 (1000 * n) := by
  induction n with
  | zero => exact ⟨rfl, clock⟩
  | succ n ih =>
    have due := esTick_segundo _ (segundo sensor n) n ih.2 rfl
    rw [List.range_succ, List.map_append, List.map_singleton, Reactive.count_concat,
      Reactive.run_concat, ih.1, due, loop_previousMillis]
    exact ⟨rfl, if_pos due⟩

def unMinuto (sensor : Nat) : Ajuste 1 where
  antes := []
  num := 0
  doc_rx := { setTemporizador := some "1" }
  resto := reposo sensor 0
  valor := by decide
  quieta := reposo_quieta sensor 0

def unMinutoMenosUno (sensor : Nat) : List Entrada := (List.range 59).map (segundo sensor)

theorem unMinuto_quieta (sensor : Nat) : ∀ e ∈ unMinutoMenosUno sensor, Quieta e := by
  intro e member
  obtain ⟨k, _, rfl⟩ := List.mem_map.mp member
  exact segundo_quieta _ _

theorem unMinuto_ticks (sensor : Nat) (s : State) (clock : s.previousMillis = 0) :
    esTick (Reactive.run loop s ((unMinuto sensor).entrada :: unMinutoMenosUno sensor))
        (segundo sensor 59) = true ∧
      Reactive.count loop esTick s ((unMinuto sensor).entrada :: unMinutoMenosUno sensor) = 59 := by
  have early : esTick s (unMinuto sensor).entrada = false := by
    have now : (unMinuto sensor).entrada.now = 0 := rfl
    rw [esTick_eq, clock, now]
    decide
  have kept : (loop s (unMinuto sensor).entrada).previousMillis = 0 := by
    rw [loop_previousMillis, mandos_previousMillis, clock]
    exact if_neg (Bool.eq_false_iff.mp early)
  have seconds := segundo_ticks sensor 59 _ kept
  rw [unMinutoMenosUno, Reactive.run_cons, Reactive.count, early]
  simp only [Bool.false_eq_true, if_false, Nat.zero_add]
  exact ⟨esTick_segundo _ (segundo sensor 59) 59 seconds.2 rfl, seconds.1⟩

theorem regresa_lit (s : State) (e : Entrada) (lit : e.sensor = 4095) : regresa s e = false := by
  rw [regresa, retorna_lit s e (mandos_lit s e lit), Bool.and_false]

theorem timer_keeps_time_one_minute :
    ExpiraAlFinal (setup (fun _ => 0) none)
      ((unMinuto 4095).entrada :: unMinutoMenosUno 4095) (segundo 4095 59) := by
  have ticks := unMinuto_ticks 4095 (setup (fun _ => 0) none) rfl
  have none : ∀ t, ∀ e ∈ (unMinuto 4095).resto :: unMinutoMenosUno 4095, regresa t e = false := by
    intro t e member
    rcases List.mem_cons.mp member with rfl | later
    · exact regresa_lit t _ rfl
    · obtain ⟨k, _, rfl⟩ := List.mem_map.mp later
      exact regresa_lit t _ rfl
  refine (timer_keeps_time_iff (unMinuto 4095) _ _ _ (unMinuto_quieta 4095) (segundo_quieta _ _)
    ticks.1 (by rw [ticks.2])).mpr
      ⟨by decide, by decide, ?_, regresa_lit _ _ rfl⟩
  rw [Ajuste.count_entrada _ _ _ regresa (Ajuste.regresa_entrada _ _),
    Reactive.count_eq_zero regresa _ _ none]
  rfl

/-- An off message, then a timer of one minute: its first second wraps. -/
theorem off_message_delays_timer :
    ¬ ∀ (n : Nat) (ajuste : Ajuste n) (s : State) (entradas : List Entrada) (ultima : Entrada),
      Alcanzable s → (∀ e ∈ entradas, Quieta e) → Quieta ultima →
      esTick (Reactive.run loop s (ajuste.entrada :: entradas)) ultima = true →
      Reactive.count loop esTick s (ajuste.entrada :: entradas) + 1 = 60 * n →
      ExpiraAlFinal s (ajuste.entrada :: entradas) ultima := by
  intro keeps
  let off : Entrada := { reposo 0 0 with eventos := [mensaje { estado := some "off" }] }
  have reached : Alcanzable (loop (setup (fun _ => 0) none) off) := .step off (.init ⟨_, _, rfl⟩)
  have clock : (loop (setup (fun _ => 0) none) off).previousMillis = 0 := by decide
  have empty : (loop (setup (fun _ => 0) none) off).contadorMinuto = 0 := by decide
  generalize loop (setup (fun _ => 0) none) off = s at reached clock empty
  have ticks := unMinuto_ticks 0 s clock
  have expires := keeps 1 (unMinuto 0) s (unMinutoMenosUno 0) (segundo 0 59) reached
    (unMinuto_quieta 0) (segundo_quieta _ _) ticks.1 (by rw [ticks.2])
  rw [expiraAlFinal_iff _ _ _ _ (unMinuto_quieta 0) (segundo_quieta _ _),
    (unMinuto 0).recibido_restante s (by decide) le_rfl] at expires
  have wraps : segundos ((unMinuto 0).previo s).contadorMinuto = 4294967296 := if_pos empty
  have few := Reactive.count_le_length loop cuenta ((unMinuto 0).recibido s)
    ((unMinuto 0).resto :: unMinutoMenosUno 0)
  have length : ((unMinuto 0).resto :: unMinutoMenosUno 0).length = 60 := rfl
  omega

end Chimenea.Countdown
