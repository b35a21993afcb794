import Chimenea.Phases

/-!
An execution of `loop()` obeys its messages, buttons and remote inputs one after
the other before it supervises the burner. This module lists these orders, in
the order the sketch obeys them, so that "processed before" and "processed
after" have a meaning, and what each order keeps is checked order by order.
-/

namespace Chimenea.Ordenes
open Arduino Sketch Phases

inductive Orden where
  | anotar (sensorVal tempVal temporizadorVal : Int)
  | temporizador (minutos : Int)
  | sensorSet (valor : Int)
  | sensorTemp (valor : Int)
  | on
  | alto
  | off
  | leer (e : Entrada)
  | botonEncendido
  | sostener (tiempo : Int) (millis : BitVec 32)
  | botonApagado
  | contBaj
  | contAlt
  | contAp

def ejecutar (s : State) : Orden → State
  | .anotar sensorVal tempVal temporizadorVal =>
      { s with sensorVal := sensorVal, tempVal := tempVal, temporizadorVal := temporizadorVal }
  | .temporizador minutos => { s with minutos := minutos }
  | .sensorSet valor =>
      { s with
        eeprom := (s.eeprom.write direccion0 valor).commit
        sensorVal1 := (s.eeprom.write direccion0 valor).commit.read direccion0 }
  | .sensorTemp valor =>
      { s with
        eeprom := (s.eeprom.write direccion1 valor).commit
        tempVal1 := (s.eeprom.write direccion1 valor).commit.read direccion1 }
  | .on => estadoOn s
  | .alto => estadoAlto s
  | .off => estadoOff s
  | .leer e => leerSensor s e
  | .botonEncendido => pulsarEncendido s
  | .sostener tiempo millis => sostener tiempo s millis
  | .botonApagado | .contAp => apagar s
  | .contBaj => remotoBajo s
  | .contAlt => remotoAlto s

def cuando (c : Prop) [Decidable c] (orden : Orden) : List Orden := if c then [orden] else []

theorem foldl_cuando {β : Type} (f : β → Orden → β) (start : β) (c : Prop) [Decidable c]
    (orden : Orden) : (cuando c orden).foldl f start = if c then f start orden else start := by
  unfold cuando
  split_ifs <;> rfl

def ordenesTexto (doc_rx : DocRx) : List Orden :=
  let sensorVal := toInt (string doc_rx.sensorSet)
  let tempVal := toInt (string doc_rx.sensorTemp)
  let temporizadorVal := toInt (string doc_rx.setTemporizador)
  [.anotar sensorVal tempVal temporizadorVal] ++
    cuando (temporizadorVal ≠ 0) (.temporizador temporizadorVal) ++
    cuando (sensorVal ≠ 0) (.sensorSet sensorVal) ++
    cuando (tempVal ≠ 0) (.sensorTemp tempVal) ++
    cuando (string doc_rx.estado = "on") .on ++
    cuando (string doc_rx.estado = "alto") .alto ++
    cuando (string doc_rx.estado = "off") .off

def ordenesEvento (evento : Evento) : List Orden :=
  match evento.type, evento.payload with
  | .text, .ok doc_rx => ordenesTexto doc_rx
  | _, _ => []

def ordenesBotones (e : Entrada) : List Orden :=
  cuando (e.botonEncendido = HIGH) .botonEncendido ++
    e.pulsos.map (.sostener e.tiempo.toInt) ++
    cuando (e.botonApagado = HIGH) .botonApagado ++
    cuando (e.contBaj = HIGH) .contBaj ++
    cuando (e.contAlt = HIGH) .contAlt ++
    cuando (e.contAp = HIGH) .contAp

def ordenes (e : Entrada) : List Orden :=
  e.eventos.flatMap ordenesEvento ++ [.leer e] ++ ordenesBotones e

abbrev obedecer (s : State) (lista : List Orden) : State := Reactive.run ejecutar s lista

private theorem obedecer_cuando (s : State) (c : Prop) [Decidable c] (orden : Orden) :
    obedecer s (cuando c orden) = if c then ejecutar s orden else s :=
  foldl_cuando ejecutar s c orden

/-- The scratch variables keep what `anotar` stored until the handler ends. -/
private theorem recibirTemporizador_scratch (s : State) :
    (recibirTemporizador s).sensorVal = s.sensorVal ∧
      (recibirTemporizador s).tempVal = s.tempVal := by
  unfold recibirTemporizador
  split_ifs <;> exact ⟨rfl, rfl⟩

private theorem recibirSensor_scratch (s : State) : (recibirSensor s).tempVal = s.tempVal := by
  unfold recibirSensor
  split_ifs <;> rfl

private theorem recibirSensor_eq (s : State) (valor : Int) (noted : s.sensorVal = valor) :
    recibirSensor s = if valor ≠ 0 then ejecutar s (.sensorSet valor) else s := by
  subst noted
  rfl

private theorem recibirTemp_eq (s : State) (valor : Int) (noted : s.tempVal = valor) :
    recibirTemp s = if valor ≠ 0 then ejecutar s (.sensorTemp valor) else s := by
  subst noted
  rfl

theorem recibirTexto_eq (s : State) (doc_rx : DocRx) :
    recibirTexto s doc_rx = obedecer s (ordenesTexto doc_rx) := by
  simp only [ordenesTexto, obedecer, Reactive.run_append, Reactive.run_cons, Reactive.run_nil,
    obedecer_cuando]
  let noted := ejecutar s (.anotar (toInt (string doc_rx.sensorSet))
    (toInt (string doc_rx.sensorTemp)) (toInt (string doc_rx.setTemporizador)))
  have sensor := recibirSensor_eq (recibirTemporizador noted) (toInt (string doc_rx.sensorSet))
    (recibirTemporizador_scratch noted).1
  have temp := recibirTemp_eq (recibirSensor (recibirTemporizador noted))
    (toInt (string doc_rx.sensorTemp))
    ((recibirSensor_scratch _).trans (recibirTemporizador_scratch noted).2)
  change recibirEstado (recibirTemp (recibirSensor (recibirTemporizador noted))) _ = _
  rw [temp, sensor]
  rfl

theorem webSocketEvent_eq (s : State) (evento : Evento) :
    webSocketEvent s evento = obedecer s (ordenesEvento evento) := by
  rcases evento with ⟨num, type, payload⟩
  cases type with
  | text =>
    cases payload with
    | error code => rfl
    | ok doc_rx => exact recibirTexto_eq s doc_rx
  | _ => rfl

theorem eventos_eq (s : State) (eventos : List Evento) :
    eventos.foldl webSocketEvent s = obedecer s (eventos.flatMap ordenesEvento) := by
  induction eventos generalizing s with
  | nil => rfl
  | cons evento rest ih =>
    simp only [List.foldl_cons, List.flatMap_cons, obedecer, Reactive.run_append] at ih ⊢
    rw [ih, webSocketEvent_eq]

theorem botones_eq (s : State) (e : Entrada) :
    encendidoControlRemoto (encendidoManual s e) e = obedecer s (ordenesBotones e) := by
  have pulsos (t : State) : e.pulsos.foldl (sostener e.tiempo.toInt) t =
      obedecer t (e.pulsos.map (.sostener e.tiempo.toInt)) := by
    simp only [obedecer, Reactive.run, List.foldl_map, ejecutar]
  simp only [ordenesBotones, obedecer, Reactive.run_append, obedecer_cuando]
  simp only [encendidoManual, encendidoControlRemoto, pulsos, ejecutar]

/-- The sketch up to the supervision block obeys its orders from left to right. -/
theorem mandos_eq (s : State) (e : Entrada) : mandos s e = obedecer s (ordenes e) := by
  simp only [mandos, ordenes, eventos_eq, botones_eq, obedecer, Reactive.run_append,
    Reactive.run_cons, Reactive.run_nil, ejecutar]

section Kept

theorem sostener_eq (tiempo : Int) (s : State) (millis : BitVec 32) :
    sostener tiempo s millis =
      { s with encendidaAlto := s.encendidaAlto || pulsacionLarga tiempo millis } := by
  by_cases long : pulsacionLarga tiempo millis = true <;> ext1 <;> simp [sostener, long]

attribute [local simp] ejecutar estadoOn estadoAlto estadoOff leerSensor pulsarEncendido apagar
  remotoBajo remotoAlto digitalWrite sostener_eq

variable {s : State} (orden : Orden)

theorem ejecutar_gasAlto (high : (ejecutar s orden).gasAlto = true) : s.gasAlto = true := by
  cases orden <;> simp_all

theorem ejecutar_iniciarCicloEncendido
    (igniting : (ejecutar s orden).iniciarCicloEncendido = true) :
    s.iniciarCicloEncendido = true := by
  cases orden <;> simp_all

/-- An order leaves the count of attempts alone or clears it. -/
theorem ejecutar_intentos :
    (ejecutar s orden).intentos = s.intentos ∨ (ejecutar s orden).intentos = 0 := by
  cases orden <;> simp

theorem ejecutar_previousMillis : (ejecutar s orden).previousMillis = s.previousMillis := by
  cases orden <;> simp

/-- The orders that open the low valve or light the spark switch the burner on. -/
theorem ejecutar_gasBajo (agree : s.gasBajo = true → s.encendida = true)
    (low : (ejecutar s orden).gasBajo = true) : (ejecutar s orden).encendida = true := by
  cases orden <;> simp_all

theorem ejecutar_chispa (agree : s.chispa = true → s.encendida = true)
    (spark : (ejecutar s orden).chispa = true) : (ejecutar s orden).encendida = true := by
  cases orden <;> simp_all

/-- The orders of the buttons leave alone what the sensor reading has set. -/
theorem botones_lectura {e : Entrada} (button : orden ∈ ordenesBotones e) :
    (ejecutar s orden).lectura = s.lectura ∧ (ejecutar s orden).sensorVal1 = s.sensorVal1 ∧
      (ejecutar s orden).tempVal1 = s.tempVal1 ∧ (ejecutar s orden).eeprom = s.eeprom := by
  simp only [ordenesBotones, cuando, List.mem_append, List.mem_map] at button
  cases orden <;> simp_all

end Kept

section Mandos

variable {s : State} {e : Entrada}

/-- What every order keeps holds when the orders are obeyed. -/
theorem mandos_invariant (Inv : State → Prop) (keep : ∀ t orden, Inv t → Inv (ejecutar t orden))
    (start : Inv s) : Inv (mandos s e) := by
  rw [mandos_eq]
  exact Reactive.run_invariant Inv keep start (ordenes e)

theorem mandos_invariant_of_orders (Inv : State → Prop) (Allowed : Orden → Prop)
    (keep : ∀ t orden, Allowed orden → Inv t → Inv (ejecutar t orden)) (start : Inv s)
    (allowed : ∀ orden ∈ ordenes e, Allowed orden) : Inv (mandos s e) := by
  rw [mandos_eq]
  exact Reactive.run_invariant_of_inputs Inv Allowed keep start (ordenes e) allowed

theorem mandos_gasAlto : (mandos s e).gasAlto = true → s.gasAlto = true := by
  apply mandos_invariant (fun t => t.gasAlto = true → s.gasAlto = true)
  · intro t orden before high
    exact before (ejecutar_gasAlto orden high)
  · exact id

theorem mandos_iniciarCicloEncendido :
    (mandos s e).iniciarCicloEncendido = true → s.iniciarCicloEncendido = true := by
  apply mandos_invariant
    (fun t => t.iniciarCicloEncendido = true → s.iniciarCicloEncendido = true)
  · intro t orden before igniting
    exact before (ejecutar_iniciarCicloEncendido orden igniting)
  · exact id

theorem mandos_intentos_cases (s : State) (e : Entrada) :
    (mandos s e).intentos = s.intentos ∨ (mandos s e).intentos = 0 := by
  apply mandos_invariant (fun t => t.intentos = s.intentos ∨ t.intentos = 0) _ (.inl rfl)
  intro t orden before
  rcases @ejecutar_intentos t orden with same | cleared <;> omega

theorem mandos_intentos (few : 0 ≤ s.intentos ∧ s.intentos < 100) :
    0 ≤ (mandos s e).intentos ∧ (mandos s e).intentos < 100 := by
  rcases mandos_intentos_cases s e with same | cleared <;> omega

@[simp] theorem mandos_previousMillis (s : State) (e : Entrada) :
    (mandos s e).previousMillis = s.previousMillis := by
  apply mandos_invariant (fun t => t.previousMillis = s.previousMillis) _ rfl
  intro t orden same
  exact (ejecutar_previousMillis orden).trans same

theorem mandos_gasBajo (agree : s.gasBajo = true → s.encendida = true) :
    (mandos s e).gasBajo = true → (mandos s e).encendida = true := by
  apply mandos_invariant (fun t => t.gasBajo = true → t.encendida = true) _ agree
  intro t orden before
  exact ejecutar_gasBajo orden before

theorem mandos_chispa (agree : s.chispa = true → s.encendida = true) :
    (mandos s e).chispa = true → (mandos s e).encendida = true := by
  apply mandos_invariant (fun t => t.chispa = true → t.encendida = true) _ agree
  intro t orden before
  exact ejecutar_chispa orden before

/-- Supervision works on the reading of its own execution and on the stored thresholds. -/
theorem mandos_leido (s : State) (e : Entrada) : (mandos s e).lectura = e.sensor ∧
    (mandos s e).sensorVal1 = (mandos s e).eeprom.read direccion0 * 13 ∧
    (mandos s e).tempVal1 = (mandos s e).eeprom.read direccion1 := by
  rw [mandos, botones_eq]
  apply Reactive.run_invariant_of_inputs (fun t : State => t.lectura = e.sensor ∧
    t.sensorVal1 = t.eeprom.read direccion0 * 13 ∧ t.tempVal1 = t.eeprom.read direccion1)
    (fun orden => orden ∈ ordenesBotones e) _ ⟨rfl, rfl, rfl⟩ _ (fun _ member => member)
  intro t orden button read
  obtain ⟨lectura, sensorVal1, tempVal1, eeprom⟩ := botones_lectura (s := t) orden button
  rw [lectura, sensorVal1, tempVal1, eeprom]
  exact read

/-- No threshold byte reaches a reading of 4095. -/
theorem mandos_lit (s : State) (e : Entrada) (lit : e.sensor = 4095) :
    (mandos s e).sensorVal1 < (mandos s e).lectura := by
  obtain ⟨lectura, umbral, _⟩ := mandos_leido s e
  have byte := ((mandos s e).eeprom.ram direccion0).isLt
  rw [umbral, lectura, lit, Eeprom.read]
  omega

end Mandos

section Quieta

/-- No text message arrives and every button and remote input reads LOW. -/
structure Quieta (e : Entrada) : Prop where
  eventos : ∀ evento ∈ e.eventos, evento.type ≠ .text
  botonEncendido : e.botonEncendido = LOW
  pulsos : e.pulsos = []
  botonApagado : e.botonApagado = LOW
  contBaj : e.contBaj = LOW
  contAlt : e.contAlt = LOW
  contAp : e.contAp = LOW

theorem ordenesEvento_silent (evento : Evento) (silent : evento.type ≠ .text) :
    ordenesEvento evento = [] := by
  rcases evento with ⟨num, type, payload⟩
  cases type <;> first | rfl | exact absurd rfl silent

theorem Quieta.ordenes {e : Entrada} (quiet : Quieta e) : ordenes e = [.leer e] := by
  have silent : e.eventos.flatMap ordenesEvento = [] := by
    rw [List.flatMap_eq_nil_iff]
    exact fun evento member => ordenesEvento_silent evento (quiet.eventos evento member)
  simp [Ordenes.ordenes, ordenesBotones, cuando, silent, quiet.botonEncendido, quiet.pulsos,
    quiet.botonApagado, quiet.contBaj, quiet.contAlt, quiet.contAp]

theorem Quieta.mandos {e : Entrada} (quiet : Quieta e) (s : State) :
    mandos s e = leerSensor s e := by
  rw [mandos_eq, quiet.ordenes]
  rfl

section Frame

variable {s : State} {e : Entrada} (quiet : Quieta e)

include quiet

theorem quieta_encendida : (mandos s e).encendida = s.encendida := by
  rw [quiet.mandos, leerSensor]

theorem quieta_blink : (mandos s e).blink = s.blink := by rw [quiet.mandos, leerSensor]

theorem quieta_intentos : (mandos s e).intentos = s.intentos := by
  rw [quiet.mandos, leerSensor]

theorem quieta_minutos : (mandos s e).minutos = s.minutos := by
  rw [quiet.mandos, leerSensor]

theorem quieta_contadorMinuto : (mandos s e).contadorMinuto = s.contadorMinuto := by
  rw [quiet.mandos, leerSensor]

theorem quieta_eeprom : (mandos s e).eeprom = s.eeprom := by rw [quiet.mandos, leerSensor]

end Frame

def reposo (sensor : Nat) (now : BitVec 32) : Entrada where
  eventos := []
  sensor := sensor
  termistor := 0
  tiempo := now
  botonEncendido := LOW
  pulsos := []
  botonApagado := LOW
  contBaj := LOW
  contAlt := LOW
  contAp := LOW
  now := now

@[simp] theorem reposo_now (sensor : Nat) (now : BitVec 32) : (reposo sensor now).now = now := rfl

theorem reposo_quieta (sensor : Nat) (now : BitVec 32) : Quieta (reposo sensor now) := by
  constructor <;> simp [reposo]

/-- The quiet input whose clock reads `k + 1` seconds. -/
def segundo (sensor k : Nat) : Entrada := reposo sensor (BitVec.ofNat 32 (1000 * (k + 1)))

theorem segundo_quieta (sensor k : Nat) : Quieta (segundo sensor k) := reposo_quieta _ _

theorem segundo_mandos (s : State) (sensor k : Nat) :
    mandos s (segundo sensor k) = leerSensor s (segundo sensor k) :=
  (segundo_quieta sensor k).mandos s

theorem esTick_eq (s : State) (e : Entrada) :
    esTick s e = decide (1000 ≤ (e.now - s.previousMillis).toNat) := by
  rw [esTick, tocaTick, mandos_previousMillis]
  rfl

theorem esTick_later {s : State} {e : Entrada} (clock : e.now = s.previousMillis + 1000) :
    esTick s e = true := by
  have elapsed : (s.previousMillis + 1000 - s.previousMillis).toNat = 1000 := by bv_omega
  rw [esTick_eq, clock, elapsed]
  rfl

theorem esTick_same {s : State} {e : Entrada} (clock : e.now = s.previousMillis) :
    esTick s e = false := by
  rw [esTick_eq, clock, BitVec.sub_self]
  rfl

theorem esTick_segundo (s : State) (e : Entrada) (k : Nat)
    (last : s.previousMillis = BitVec.ofNat 32 (1000 * k))
    (clock : e.now = BitVec.ofNat 32 (1000 * (k + 1))) : esTick s e = true := by
  apply esTick_later
  rw [last, clock]
  bv_omega

def mensaje (doc_rx : DocRx) : Evento := ⟨0, .text, .ok doc_rx⟩

/-- The same execution with one more text message, after the first `n` events. -/
def conMensaje (e : Entrada) (n : Nat) (num : BitVec 8) (doc_rx : DocRx) : Entrada := { e with
  eventos := e.eventos.take n ++ ⟨num, .text, .ok doc_rx⟩ :: e.eventos.drop n }

theorem ordenes_conMensaje (e : Entrada) (n : Nat) (num : BitVec 8) (doc_rx : DocRx) :
    ordenes (conMensaje e n num doc_rx) =
      (e.eventos.take n).flatMap ordenesEvento ++ (ordenesTexto doc_rx ++
        ((e.eventos.drop n).flatMap ordenesEvento ++
          ([.leer (conMensaje e n num doc_rx)] ++ ordenesBotones e))) := by
  have buttons : ordenesBotones (conMensaje e n num doc_rx) = ordenesBotones e := rfl
  rw [ordenes, buttons]
  simp [conMensaje, ordenesEvento]

end Quieta

end Chimenea.Ordenes
