import Chimenea.Sketch

/-!
What each block of `loop()` does, as one record equation for every block. Proofs
about whole executions use these equations and the field equations derived from
them, and never open the blocks again.
-/

namespace Chimenea.Phases
open Arduino Sketch

@[simp] theorem nivel_digitalWrite (pin other : Pin) (level : Bool) (salidas : List Salida) :
    nivel pin (.digitalWrite other level :: salidas) =
      if other = pin then level else nivel pin salidas :=
  Reactive.level_write Salida.write rfl pin salidas

@[simp] theorem nivel_broadcastTXT (pin : Pin) (doc : DocTx) (salidas : List Salida) :
    nivel pin (.broadcastTXT doc :: salidas) = nivel pin salidas :=
  Reactive.level_silent Salida.write rfl pin salidas

section Supervision

@[simp] theorem lecturaEstadoChimenea_eq (s : State) : lecturaEstadoChimenea s = { s with
    estadoChimenea := if s.gasBajo = HIGH then "Encendida" else "Apagada" } := by
  unfold lecturaEstadoChimenea
  split_ifs <;> rfl

theorem vigilarLlama_eq (s : State) : vigilarLlama s = { s with
    iniciarCicloEncendido := if s.encendida = true ∧ s.lectura ≠ s.sensorVal1
      then decide (s.lectura < s.sensorVal1) else s.iniciarCicloEncendido
    blink := if s.encendida = true ∧ s.sensorVal1 < s.lectura then false else s.blink
    salidas := if s.encendida = true
      then .digitalWrite .gasBajo HIGH :: .digitalWrite .chispa s.blink :: s.salidas
      else s.salidas } := by
  by_cases on : s.encendida = true
  · rcases lt_trichotomy s.lectura s.sensorVal1 with below | equal | above
    · ext1 <;> simp [vigilarLlama, digitalWrite, on, below, below.ne, below.not_gt]
    · ext1 <;> simp [vigilarLlama, digitalWrite, on, equal]
    · ext1 <;> simp [vigilarLlama, digitalWrite, on, above, above.ne', above.not_gt]
  · ext1 <;> simp [vigilarLlama, on]

theorem valvulaAlta_eq (s : State) : valvulaAlta s = { s with
    salidas :=
      if s.encendidaAlto = false then .digitalWrite .gasAlto LOW :: s.salidas
      else if s.sensorVal1 < s.lectura then .digitalWrite .gasAlto HIGH :: s.salidas
      else s.salidas } := by
  by_cases high : s.encendidaAlto = true
  · by_cases above : s.sensorVal1 < s.lectura
    · ext1 <;> simp [valvulaAlta, digitalWrite, high, above]
    · ext1 <;> simp [valvulaAlta, high, above]
  · ext1 <;> simp [valvulaAlta, digitalWrite, high]

theorem limpiar_eq (s : State) : limpiar s = { s with
    encendidaAlto := s.encendida && s.encendidaAlto
    iniciarCicloEncendido := s.encendida && s.iniciarCicloEncendido
    blink := s.encendida && s.blink
    intentos := if s.encendida = true then s.intentos else 0
    salidas := if s.encendida = true then s.salidas
      else .digitalWrite .gasAlto LOW :: .digitalWrite .gasBajo LOW :: s.salidas } := by
  by_cases on : s.encendida = true <;> ext1 <;> simp [limpiar, digitalWrite, on]

theorem encendidoChimenea_eq (s : State) : encendidoChimenea s = { s with
    encendidaAlto := s.encendida && s.encendidaAlto
    iniciarCicloEncendido := s.encendida && (decide (s.lectura < s.sensorVal1) ||
      (s.iniciarCicloEncendido && decide (s.lectura = s.sensorVal1)))
    blink := s.encendida && s.blink && decide (s.lectura ≤ s.sensorVal1)
    intentos := if s.encendida = true then s.intentos else 0
    salidas := (encendidoChimenea s).salidas } := by
  simp only [encendidoChimenea, limpiar_eq, valvulaAlta_eq, vigilarLlama_eq]
  cases on : s.encendida with
  | false => ext1 <;> simp
  | true =>
    rcases lt_trichotomy s.lectura s.sensorVal1 with below | equal | above
    · ext1 <;> simp [below, below.ne, below.le, below.not_gt]
    · ext1 <;> simp [equal]
    · ext1 <;> simp [above, above.ne', above.not_gt]

variable (s : State)

@[simp] theorem encendidoChimenea_gasBajo :
    nivel .gasBajo (encendidoChimenea s).salidas = s.encendida := by
  simp only [encendidoChimenea, limpiar_eq, valvulaAlta_eq, vigilarLlama_eq]
  cases s.encendida <;> cases s.encendidaAlto <;>
    by_cases above : s.sensorVal1 < s.lectura <;> simp [above]

@[simp] theorem encendidoChimenea_chispa : nivel .chispa (encendidoChimenea s).salidas =
    if s.encendida = true then s.blink else nivel .chispa s.salidas := by
  simp only [encendidoChimenea, limpiar_eq, valvulaAlta_eq, vigilarLlama_eq]
  cases s.encendida <;> cases s.encendidaAlto <;>
    by_cases above : s.sensorVal1 < s.lectura <;> simp [above]

@[simp] theorem encendidoChimenea_gasAlto : nivel .gasAlto (encendidoChimenea s).salidas =
    (s.encendida && s.encendidaAlto &&
      (decide (s.sensorVal1 < s.lectura) || nivel .gasAlto s.salidas)) := by
  simp only [encendidoChimenea, limpiar_eq, valvulaAlta_eq, vigilarLlama_eq]
  cases s.encendida <;> cases s.encendidaAlto <;>
    by_cases above : s.sensorVal1 < s.lectura <;> simp [above]

end Supervision

section Tick

/-- The countdown of this state ends at the next counted tick. -/
def vence (s : State) : Bool := s.minutos = 1 ∧ s.contadorMinuto = 1#32

def retorna (s : State) : Bool := s.blink && s.iniciarCicloEncendido

/-- The number of attempts a counted tick arrives at. -/
def cuentaIntentos (s : State) : Int :=
  if s.blink = false ∧ s.iniciarCicloEncendido = true then s.intentos + 1 else s.intentos

/-- A counted tick in this state fires the lockout branch. -/
def bloquea (s : State) : Bool := 100 ≤ cuentaIntentos s

/-- Below the limit only a tick that counts an attempt fires the lockout branch. -/
theorem bloquea_attempt {s : State} (few : s.intentos < 100) (fires : bloquea s = true) :
    s.blink = false ∧ s.iniciarCicloEncendido = true := by
  by_cases attempt : s.blink = false ∧ s.iniciarCicloEncendido = true
  · exact attempt
  · simp only [bloquea, cuentaIntentos, attempt, if_false, decide_eq_true_eq] at fires
    omega

theorem reintentar_eq (s : State) : reintentar s = { s with
    blink := s.blink || s.iniciarCicloEncendido
    intentos := cuentaIntentos s } := by
  cases blinking : s.blink <;> cases igniting : s.iniciarCicloEncendido <;>
    ext1 <;> simp [reintentar, cuentaIntentos, blinking, igniting]

theorem cuentaRegresiva_eq (s : State) : cuentaRegresiva s = { s with
    encendida := if 0 < s.minutos then !vence s else s.encendida
    iniciarCicloEncendido := s.iniciarCicloEncendido && !vence s
    contadorMinuto := if 0 < s.minutos then
        if s.contadorMinuto = 1#32 then 60#32 else s.contadorMinuto - 1#32
      else s.contadorMinuto
    minutos := if 0 < s.minutos ∧ s.contadorMinuto = 1#32 then s.minutos - 1 else s.minutos
    salidas := if vence s = true
      then .digitalWrite .gasAlto LOW :: .digitalWrite .gasBajo LOW :: s.salidas
      else s.salidas } := by
  have zero : s.contadorMinuto - 1#32 = 0#32 ↔ s.contadorMinuto = 1#32 := by
    constructor <;> intro h <;> bv_omega
  by_cases armed : 0 < s.minutos
  · by_cases lastSecond : s.contadorMinuto = 1#32
    · by_cases lastMinute : s.minutos = 1
      · ext1 <;> simp [cuentaRegresiva, vence, digitalWrite, lastSecond, lastMinute]
      · have more : s.minutos - 1 ≠ 0 := by omega
        ext1 <;> simp [cuentaRegresiva, vence, armed, lastSecond, lastMinute, more]
    · have more : s.minutos ≠ 0 := by omega
      ext1 <;> simp [cuentaRegresiva, vence, armed, lastSecond, zero, more]
  · have idle : s.minutos ≠ 1 := by omega
    ext1 <;> simp [cuentaRegresiva, vence, armed, idle]

def excede (s : State) : Bool := 100 ≤ s.intentos

theorem bloqueo_eq (s : State) : bloqueo s = { s with
    encendida := s.encendida && !excede s
    encendidaAlto := s.encendidaAlto && !excede s
    iniciarCicloEncendido := s.iniciarCicloEncendido && !excede s
    blink := s.blink && !excede s
    intentos := if excede s = true then 0 else s.intentos
    salidas := if excede s = true
      then .digitalWrite .gasAlto LOW :: .digitalWrite .gasBajo LOW :: s.salidas
      else s.salidas } := by
  by_cases many : 100 ≤ s.intentos
  · ext1 <;> simp [bloqueo, excede, digitalWrite, many]
  · ext1 <;> simp [bloqueo, excede, many]

/-- What is left of `loop()` after the status message of a counted tick. -/
def contar (s : State) (e : Entrada) : State :=
  bloqueo (cuentaRegresiva (reintentar (transmitir s e)))

theorem contar_eq (s : State) (e : Entrada) : contar s e = { s with
    previousMillis := e.now
    encendida := (if 0 < s.minutos then !vence s else s.encendida) && !bloquea s
    encendidaAlto := s.encendidaAlto && !bloquea s
    iniciarCicloEncendido := s.iniciarCicloEncendido && !vence s && !bloquea s
    blink := (s.blink || s.iniciarCicloEncendido) && !bloquea s
    intentos := if bloquea s = true then 0 else cuentaIntentos s
    contadorMinuto := if 0 < s.minutos then
        if s.contadorMinuto = 1#32 then 60#32 else s.contadorMinuto - 1#32
      else s.contadorMinuto
    minutos := if 0 < s.minutos ∧ s.contadorMinuto = 1#32 then s.minutos - 1 else s.minutos
    salidas :=
      let sent := (transmitir s e).salidas
      let counted := if vence s = true
        then .digitalWrite .gasAlto LOW :: .digitalWrite .gasBajo LOW :: sent else sent
      if bloquea s = true
        then .digitalWrite .gasAlto LOW :: .digitalWrite .gasBajo LOW :: counted else counted } := by
  rw [contar, bloqueo_eq, cuentaRegresiva_eq, reintentar_eq]
  rfl

section Contar

variable (s : State) (e : Entrada)

@[simp] theorem contar_encendida : (contar s e).encendida =
    ((if 0 < s.minutos then !vence s else s.encendida) && !bloquea s) := by rw [contar_eq]

@[simp] theorem contar_encendidaAlto :
    (contar s e).encendidaAlto = (s.encendidaAlto && !bloquea s) := by rw [contar_eq]

@[simp] theorem contar_iniciarCicloEncendido : (contar s e).iniciarCicloEncendido =
    (s.iniciarCicloEncendido && !vence s && !bloquea s) := by rw [contar_eq]

@[simp] theorem contar_blink :
    (contar s e).blink = ((s.blink || s.iniciarCicloEncendido) && !bloquea s) := by rw [contar_eq]

@[simp] theorem contar_intentos :
    (contar s e).intentos = if bloquea s = true then 0 else cuentaIntentos s := by rw [contar_eq]

@[simp] theorem contar_minutos : (contar s e).minutos =
    if 0 < s.minutos ∧ s.contadorMinuto = 1#32 then s.minutos - 1 else s.minutos := by
  rw [contar_eq]

@[simp] theorem contar_contadorMinuto : (contar s e).contadorMinuto =
    if 0 < s.minutos then if s.contadorMinuto = 1#32 then 60#32 else s.contadorMinuto - 1#32
    else s.contadorMinuto := by rw [contar_eq]

@[simp] theorem contar_previousMillis : (contar s e).previousMillis = e.now := by rw [contar_eq]

@[simp] theorem contar_gasBajo : nivel .gasBajo (contar s e).salidas =
    (nivel .gasBajo s.salidas && !vence s && !bloquea s) := by
  rw [contar_eq]
  cases vence s <;> cases bloquea s <;> simp [transmitir]

@[simp] theorem contar_gasAlto : nivel .gasAlto (contar s e).salidas =
    (nivel .gasAlto s.salidas && !vence s && !bloquea s) := by
  rw [contar_eq]
  cases vence s <;> cases bloquea s <;> simp [transmitir]

@[simp] theorem contar_chispa :
    nivel .chispa (contar s e).salidas = nivel .chispa s.salidas := by
  rw [contar_eq]
  cases vence s <;> cases bloquea s <;> simp [transmitir]

end Contar

theorem tick_cases (s : State) (e : Entrada) :
    (tocaTick s e = false ∧ tick s e = s) ∨
    (tocaTick s e = true ∧ retorna s = true ∧
      tick s e = { transmitir s e with blink := false }) ∨
    (tocaTick s e = true ∧ retorna s = false ∧ tick s e = contar s e) := by
  cases due : tocaTick s e with
  | false => simp [tick, due]
  | true =>
    cases early : retorna s with
    | false =>
      have stay : ¬(s.blink = true ∧ s.iniciarCicloEncendido = true) := by
        simpa [retorna] using early
      simp [tick, contar, due, transmitir, stay]
    | true =>
      have leave : s.blink = true ∧ s.iniciarCicloEncendido = true := by
        simpa [retorna] using early
      simp [tick, due, transmitir, leave]

theorem tick_eq (s : State) (e : Entrada) : tick s e =
    if tocaTick s e = true then
      if retorna s = true then { transmitir s e with blink := false } else contar s e
    else s := by
  rcases tick_cases s e with ⟨due, run⟩ | ⟨due, early, run⟩ | ⟨due, late, run⟩
  · simp [run, due]
  · simp [run, due, early]
  · simp [run, due, late]

@[simp] theorem tick_lectura (s : State) (e : Entrada) : (tick s e).lectura = s.lectura := by
  rcases tick_cases s e with ⟨_, same⟩ | ⟨_, _, early⟩ | ⟨_, _, counted⟩
  · rw [same]
  · rw [early]; rfl
  · rw [counted, contar_eq]

@[simp] theorem tick_sensorVal1 (s : State) (e : Entrada) :
    (tick s e).sensorVal1 = s.sensorVal1 := by
  rcases tick_cases s e with ⟨_, same⟩ | ⟨_, _, early⟩ | ⟨_, _, counted⟩
  · rw [same]
  · rw [early]; rfl
  · rw [counted, contar_eq]

end Tick

section Iteration

variable (s : State) (e : Entrada)

theorem supervisar_eq : supervisar s e = { mandos s e with
    estadoChimenea := (supervisar s e).estadoChimenea
    encendidaAlto := (mandos s e).encendida && (mandos s e).encendidaAlto
    iniciarCicloEncendido := (mandos s e).encendida &&
      (decide ((mandos s e).lectura < (mandos s e).sensorVal1) ||
        ((mandos s e).iniciarCicloEncendido &&
          decide ((mandos s e).lectura = (mandos s e).sensorVal1)))
    blink := (mandos s e).encendida && (mandos s e).blink &&
      decide ((mandos s e).lectura ≤ (mandos s e).sensorVal1)
    intentos := if (mandos s e).encendida = true then (mandos s e).intentos else 0
    salidas := (supervisar s e).salidas } := by
  rw [supervisar, lecturaEstadoChimenea_eq]
  conv_lhs => rw [encendidoChimenea_eq]
  rw [show (encendidoChimenea _).estadoChimenea = _ from
    congrArg State.estadoChimenea (encendidoChimenea_eq _)]

@[simp] theorem supervisar_gasBajo :
    nivel .gasBajo (supervisar s e).salidas = (mandos s e).encendida := by
  simp [supervisar]

@[simp] theorem supervisar_chispa : nivel .chispa (supervisar s e).salidas =
    if (mandos s e).encendida = true then (mandos s e).blink
    else nivel .chispa (mandos s e).salidas := by
  simp [supervisar]

@[simp] theorem supervisar_gasAlto : nivel .gasAlto (supervisar s e).salidas =
    ((mandos s e).encendida && (mandos s e).encendidaAlto &&
      (decide ((mandos s e).sensorVal1 < (mandos s e).lectura) ||
        nivel .gasAlto (mandos s e).salidas)) := by
  simp [supervisar]

@[simp] theorem supervisar_encendida :
    (supervisar s e).encendida = (mandos s e).encendida := by rw [supervisar_eq]

@[simp] theorem supervisar_encendidaAlto : (supervisar s e).encendidaAlto =
    ((mandos s e).encendida && (mandos s e).encendidaAlto) := by rw [supervisar_eq]

@[simp] theorem supervisar_iniciarCicloEncendido : (supervisar s e).iniciarCicloEncendido =
    ((mandos s e).encendida && (decide ((mandos s e).lectura < (mandos s e).sensorVal1) ||
      ((mandos s e).iniciarCicloEncendido &&
        decide ((mandos s e).lectura = (mandos s e).sensorVal1)))) := by rw [supervisar_eq]

@[simp] theorem supervisar_blink : (supervisar s e).blink = ((mandos s e).encendida &&
    (mandos s e).blink && decide ((mandos s e).lectura ≤ (mandos s e).sensorVal1)) := by
  rw [supervisar_eq]

@[simp] theorem supervisar_intentos : (supervisar s e).intentos =
    if (mandos s e).encendida = true then (mandos s e).intentos else 0 := by rw [supervisar_eq]

@[simp] theorem supervisar_minutos :
    (supervisar s e).minutos = (mandos s e).minutos := by rw [supervisar_eq]

@[simp] theorem supervisar_contadorMinuto :
    (supervisar s e).contadorMinuto = (mandos s e).contadorMinuto := by rw [supervisar_eq]

@[simp] theorem supervisar_previousMillis :
    (supervisar s e).previousMillis = (mandos s e).previousMillis := by rw [supervisar_eq]

@[simp] theorem supervisar_lectura :
    (supervisar s e).lectura = (mandos s e).lectura := by rw [supervisar_eq]

@[simp] theorem supervisar_sensorVal1 :
    (supervisar s e).sensorVal1 = (mandos s e).sensorVal1 := by rw [supervisar_eq]

@[simp] theorem vence_supervisar : vence (supervisar s e) = vence (mandos s e) := by
  simp [vence]

@[simp] theorem tocaTick_supervisar : tocaTick (supervisar s e) e = tocaTick (mandos s e) e := by
  simp [tocaTick]

end Iteration

section Loop

def esTick (s : State) (e : Entrada) : Bool := tocaTick (mandos s e) e

/-- This execution runs the tick block to its end. -/
def cuenta (s : State) (e : Entrada) : Bool :=
  esTick s e && !retorna (supervisar s e)

/-- This execution ends with the timer expiry or the lockout. -/
def apaga (s : State) (e : Entrada) : Bool :=
  cuenta s e && (vence (mandos s e) || bloquea (supervisar s e))

theorem cuenta_iff {s : State} {e : Entrada} :
    cuenta s e = true ↔ esTick s e = true ∧ retorna (supervisar s e) = false := by
  rw [cuenta, Bool.and_eq_true, Bool.not_eq_true']

theorem loop_cases (s : State) (e : Entrada) :
    (esTick s e = false ∧ loop s e = supervisar s e) ∨
    (esTick s e = true ∧ retorna (supervisar s e) = true ∧
      loop s e = { transmitir (supervisar s e) e with blink := false }) ∨
    (cuenta s e = true ∧ loop s e = contar (supervisar s e) e) := by
  rcases tick_cases (supervisar s e) e with ⟨due, same⟩ | ⟨due, early, left⟩ | ⟨due, late, counted⟩
  · exact .inl ⟨by simpa [esTick] using due, same⟩
  · exact .inr (.inl ⟨by simpa [esTick] using due, early, left⟩)
  · rw [tocaTick_supervisar] at due
    exact .inr (.inr ⟨cuenta_iff.mpr ⟨due, late⟩, counted⟩)

theorem loop_pause {s : State} {e : Entrada} (pause : esTick s e = false) :
    loop s e = supervisar s e := by
  rcases loop_cases s e with ⟨_, run⟩ | ⟨due, _⟩ | ⟨ran, _⟩
  · exact run
  · exact absurd due (Bool.eq_false_iff.mp pause)
  · simp only [cuenta, pause, Bool.false_and, Bool.false_eq_true] at ran

theorem loop_returned {s : State} {e : Entrada} (due : esTick s e = true)
    (early : retorna (supervisar s e) = true) :
    loop s e = { transmitir (supervisar s e) e with blink := false } := by
  rcases loop_cases s e with ⟨pause, _⟩ | ⟨_, _, run⟩ | ⟨ran, _⟩
  · exact absurd due (Bool.eq_false_iff.mp pause)
  · exact run
  · simp only [cuenta, early, Bool.not_true, Bool.and_false, Bool.false_eq_true] at ran

theorem loop_counted {s : State} {e : Entrada} (ran : cuenta s e = true) :
    loop s e = contar (supervisar s e) e := by
  rcases loop_cases s e with ⟨pause, _⟩ | ⟨_, early, _⟩ | ⟨_, run⟩
  · simp only [cuenta, pause, Bool.false_and, Bool.false_eq_true] at ran
  · simp only [cuenta, early, Bool.not_true, Bool.and_false, Bool.false_eq_true] at ran
  · exact run

variable (s : State) (e : Entrada)

theorem retorna_lit (above : (mandos s e).sensorVal1 < (mandos s e).lectura) :
    retorna (supervisar s e) = false := by
  simp [retorna, above.not_gt, above.ne']

theorem cuenta_lit (above : (mandos s e).sensorVal1 < (mandos s e).lectura) :
    cuenta s e = esTick s e := by
  rw [cuenta, retorna_lit s e above, Bool.not_false, Bool.and_true]

/-- A tick counts in the pause between two sparks and returns early in a spark phase. -/
theorem cuenta_paused {s : State} {e : Entrada} (dark : (mandos s e).blink = false) :
    cuenta s e = esTick s e := by
  simp [cuenta, retorna, dark]

theorem cuenta_sparking {s : State} {e : Entrada} (on : (mandos s e).encendida = true)
    (blinking : (mandos s e).blink = true)
    (below : (mandos s e).lectura < (mandos s e).sensorVal1) : cuenta s e = false := by
  simp [cuenta, retorna, on, blinking, below, below.le]

theorem loop_gasBajo : nivel .gasBajo (loop s e).salidas =
    (nivel .gasBajo (supervisar s e).salidas && !apaga s e) := by
  rcases loop_cases s e with ⟨due, run⟩ | ⟨due, early, run⟩ | ⟨ran, run⟩
  · simp [run, apaga, cuenta, due]
  · simp [run, apaga, cuenta, early, transmitir]
  · simp [run, apaga, ran, Bool.and_assoc]

theorem loop_gasAlto : nivel .gasAlto (loop s e).salidas =
    (nivel .gasAlto (supervisar s e).salidas && !apaga s e) := by
  rcases loop_cases s e with ⟨due, run⟩ | ⟨due, early, run⟩ | ⟨ran, run⟩
  · simp [run, apaga, cuenta, due]
  · simp [run, apaga, cuenta, early, transmitir]
  · simp [run, apaga, ran, Bool.and_assoc]

/-- The tick block never writes the spark. -/
theorem loop_chispa :
    nivel .chispa (loop s e).salidas = nivel .chispa (supervisar s e).salidas := by
  rcases loop_cases s e with ⟨_, run⟩ | ⟨_, _, run⟩ | ⟨_, run⟩
  · rw [run]
  · simp [run, transmitir]
  · simp [run]

theorem loop_iniciarCicloEncendido : (loop s e).iniciarCicloEncendido =
    ((supervisar s e).iniciarCicloEncendido && !apaga s e) := by
  rcases loop_cases s e with ⟨due, run⟩ | ⟨due, early, run⟩ | ⟨ran, run⟩
  · simp [run, apaga, cuenta, due]
  · simp [run, apaga, cuenta, early, transmitir]
  · simp [run, apaga, ran, Bool.and_assoc]

theorem loop_intentos : (loop s e).intentos =
    if cuenta s e = true then
      if bloquea (supervisar s e) = true then 0 else cuentaIntentos (supervisar s e)
    else (supervisar s e).intentos := by
  rcases loop_cases s e with ⟨due, run⟩ | ⟨due, early, run⟩ | ⟨ran, run⟩
  · simp [run, cuenta, due]
  · simp [run, cuenta, early, transmitir]
  · simp [run, ran]

theorem loop_blink : (loop s e).blink =
    if cuenta s e = true then
      ((supervisar s e).blink || (supervisar s e).iniciarCicloEncendido) &&
        !bloquea (supervisar s e)
    else (supervisar s e).blink && !esTick s e := by
  rcases loop_cases s e with ⟨due, run⟩ | ⟨due, early, run⟩ | ⟨ran, run⟩
  · simp [run, cuenta, due]
  · simp [run, cuenta, due, early]
  · simp [run, ran]

theorem loop_encendida : (loop s e).encendida =
    (((mandos s e).encendida || cuenta s e && decide (0 < (mandos s e).minutos)) &&
      !apaga s e) := by
  rcases loop_cases s e with ⟨due, run⟩ | ⟨due, early, run⟩ | ⟨ran, run⟩
  · simp [run, apaga, cuenta, due]
  · simp [run, apaga, cuenta, early, transmitir]
  · by_cases armed : 0 < (mandos s e).minutos
    · simp [run, apaga, ran, armed]
    · have idle : vence (mandos s e) = false := by simp [vence]; omega
      simp [run, apaga, ran, armed, idle]

theorem loop_apaga {s : State} {e : Entrada} (ends : apaga s e = true) :
    (loop s e).encendida = false ∧ (loop s e).gasBajo = false ∧ (loop s e).gasAlto = false := by
  simp [loop_encendida, loop_gasBajo, loop_gasAlto, ends]

theorem loop_minutos : (loop s e).minutos =
    if cuenta s e = true ∧ 0 < (mandos s e).minutos ∧ (mandos s e).contadorMinuto = 1#32
    then (mandos s e).minutos - 1 else (mandos s e).minutos := by
  rcases loop_cases s e with ⟨due, run⟩ | ⟨due, early, run⟩ | ⟨ran, run⟩
  · simp [run, cuenta, due]
  · simp [run, cuenta, early, transmitir]
  · simp [run, ran]

theorem loop_contadorMinuto : (loop s e).contadorMinuto =
    if cuenta s e = true ∧ 0 < (mandos s e).minutos then
      if (mandos s e).contadorMinuto = 1#32 then 60#32 else (mandos s e).contadorMinuto - 1#32
    else (mandos s e).contadorMinuto := by
  rcases loop_cases s e with ⟨due, run⟩ | ⟨due, early, run⟩ | ⟨ran, run⟩
  · simp [run, cuenta, due]
  · simp [run, cuenta, early, transmitir]
  · simp [run, ran]

theorem loop_previousMillis : (loop s e).previousMillis =
    if esTick s e = true then e.now else (mandos s e).previousMillis := by
  rcases loop_cases s e with ⟨due, run⟩ | ⟨due, early, run⟩ | ⟨ran, run⟩
  · simp [run, due]
  · simp [run, due, transmitir]
  · have due : esTick s e = true := (cuenta_iff.mp ran).1
    simp [run, due]

@[simp] theorem loop_eeprom : (loop s e).eeprom = (mandos s e).eeprom := by
  have kept : (supervisar s e).eeprom = (mandos s e).eeprom := by rw [supervisar_eq]
  rcases loop_cases s e with ⟨_, run⟩ | ⟨_, _, run⟩ | ⟨_, run⟩
  · rw [run, kept]
  · rw [run]
    exact kept
  · rw [run, contar_eq]
    exact kept

@[simp] theorem loop_tempVal1 : (loop s e).tempVal1 = (mandos s e).tempVal1 := by
  have kept : (supervisar s e).tempVal1 = (mandos s e).tempVal1 := by rw [supervisar_eq]
  rcases loop_cases s e with ⟨_, run⟩ | ⟨_, _, run⟩ | ⟨_, run⟩
  · rw [run, kept]
  · rw [run]
    exact kept
  · rw [run, contar_eq]
    exact kept

@[simp] theorem loop_lectura : (loop s e).lectura = (mandos s e).lectura := by simp [loop]

@[simp] theorem loop_sensorVal1 : (loop s e).sensorVal1 = (mandos s e).sensorVal1 := by
  simp [loop]

end Loop

end Chimenea.Phases
