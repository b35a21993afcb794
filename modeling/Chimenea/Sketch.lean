import Chimenea.Arduino
import Chimenea.Reactive.Run

/-!
The fireplace sketch `ESP32_WiFi_Manager.ino`: its global variables, the
websocket callback, and one execution of `loop()` as a function of the state
before it and of everything that execution reads from outside.
-/

namespace Chimenea.Sketch
open Arduino

inductive WStype where
  | error | disconnected | connected | text | bin
  | fragmentTextStart | fragmentBinStart | fragment | fragmentFin | ping | pong
  deriving DecidableEq, Repr

inductive DeserializationError where
  | emptyInput | incompleteInput | invalidInput | noMemory | tooDeep
  deriving DecidableEq, Repr

/-- The members of `doc_rx` the sketch asks for, as the C strings the document
converts them to: null when a member is absent or is no string. -/
structure DocRx where
  estado : Option String := none
  sensorSet : Option String := none
  sensorTemp : Option String := none
  setTemporizador : Option String := none
  deriving DecidableEq, Repr

/-- One call of the callback. The payload stands as `deserializeJson` leaves it
in `doc_rx`; only text callbacks look at it. -/
structure Evento where
  num : BitVec 8
  type : WStype
  payload : Except DeserializationError DocRx

/-- The status message. The sketch converts the thermistor reading to degrees in
floating point before it stores `temp`; here `temp` is that reading. -/
structure DocTx where
  sensor : Int
  temp : Nat
  sensorVal : Int
  tempVal : Int
  estadoChimenea : String
  temporizador : Int
  deriving DecidableEq, Repr

/-- What the sketch does to the outside, in the order it does it. -/
inductive Salida where
  | digitalWrite (pin : Pin) (nivel : Bool)
  | broadcastTXT (doc : DocTx)
  deriving DecidableEq, Repr

def Salida.write : Salida → Option (Pin × Bool)
  | .digitalWrite pin nivel => some (pin, nivel)
  | .broadcastTXT _ => none

@[ext] structure State where
  previousMillis : BitVec 32
  sensorVal : Int
  tempVal : Int
  sensorVal1 : Int
  tempVal1 : Int
  intentos : Int
  iniciarCicloEncendido : Bool
  blink : Bool
  encendidaAlto : Bool
  estadoChimenea : String
  contadorMinuto : BitVec 32
  minutos : Int
  temporizadorVal : Int
  lectura : Int
  encendida : Bool
  eeprom : Eeprom
  /-- Newest first. -/
  salidas : List Salida

/-- An output pin has the level last written to it. -/
def nivel (pin : Pin) (salidas : List Salida) : Bool := Reactive.level Salida.write LOW pin salidas

@[simp] abbrev State.gasBajo (s : State) : Bool := nivel .gasBajo s.salidas
@[simp] abbrev State.chispa (s : State) : Bool := nivel .chispa s.salidas
@[simp] abbrev State.gasAlto (s : State) : Bool := nivel .gasAlto s.salidas

def digitalWrite (s : State) (pin : Pin) (level : Bool) : State :=
  { s with salidas := .digitalWrite pin level :: s.salidas }

def direccion0 : Fin EEPROM_SIZE := ⟨0, by decide⟩
def direccion1 : Fin EEPROM_SIZE := ⟨1, by decide⟩
def interval : Nat := 1000
def tiempo_max : Nat := 1000

def globals (flash : Fin EEPROM_SIZE → BitVec 8) : State where
  previousMillis := 0
  sensorVal := 0
  tempVal := 0
  sensorVal1 := 0
  tempVal1 := 0
  intentos := 0
  iniciarCicloEncendido := false
  blink := false
  encendidaAlto := false
  estadoChimenea := " "
  contadorMinuto := 60
  minutos := 0
  temporizadorVal := 0
  lectura := 0
  encendida := false
  eeprom := ⟨fun _ => 0, flash⟩
  salidas := []

/-- `setup()`, as far as `loop()` can tell. Joining the WiFi network sets
`previousMillis` to the clock when it starts to wait; `wifi` is that clock, and
`none` when `initWiFi` gives up before it. -/
def setup (flash : Fin EEPROM_SIZE → BitVec 8) (wifi : Option (BitVec 32)) : State :=
  let s := globals flash
  let s := { s with eeprom := Eeprom.begin s.eeprom.flash }
  let s := digitalWrite s .gasBajo LOW
  let s := digitalWrite s .chispa LOW
  let s := digitalWrite s .gasAlto LOW
  match wifi with
  | none => s
  | some currentMillis => { s with previousMillis := currentMillis }

def recibirTemporizador (s : State) : State :=
  if s.temporizadorVal ≠ 0 then { s with minutos := s.temporizadorVal } else s

def recibirSensor (s : State) : State :=
  if s.sensorVal ≠ 0 then
    let s := { s with eeprom := s.eeprom.write direccion0 s.sensorVal }
    let s := { s with eeprom := s.eeprom.commit }
    { s with sensorVal1 := s.eeprom.read direccion0 }
  else s

def recibirTemp (s : State) : State :=
  if s.tempVal ≠ 0 then
    let s := { s with eeprom := s.eeprom.write direccion1 s.tempVal }
    let s := { s with eeprom := s.eeprom.commit }
    { s with tempVal1 := s.eeprom.read direccion1 }
  else s

def estadoOn (s : State) : State :=
  let s := { s with encendida := true, blink := true, encendidaAlto := false }
  let s := digitalWrite s .chispa s.blink
  digitalWrite s .gasBajo HIGH

def estadoAlto (s : State) : State := { s with encendida := true, encendidaAlto := true }

/-- Of the three ways to switch off, the only one that touches `intentos` and
`contadorMinuto`, and the only one that closes the high valve first. -/
def estadoOff (s : State) : State :=
  let s := { s with
    blink := false, encendida := false, encendidaAlto := false, iniciarCicloEncendido := false,
    minutos := 0, intentos := 0, contadorMinuto := 0 }
  let s := digitalWrite s .gasAlto LOW
  let s := digitalWrite s .gasBajo LOW
  digitalWrite s .chispa LOW

def recibirEstado (s : State) (estado : String) : State :=
  let s := if estado = "on" then estadoOn s else s
  let s := if estado = "alto" then estadoAlto s else s
  if estado = "off" then estadoOff s else s

def recibirTexto (s : State) (doc_rx : DocRx) : State :=
  let s := { s with
    sensorVal := toInt (string doc_rx.sensorSet)
    tempVal := toInt (string doc_rx.sensorTemp)
    temporizadorVal := toInt (string doc_rx.setTemporizador) }
  let s := recibirTemporizador s
  let s := recibirSensor s
  let s := recibirTemp s
  recibirEstado s (string doc_rx.estado)

def webSocketEvent (s : State) (evento : Evento) : State :=
  match evento.type with
  | .text =>
    match evento.payload with
    | .error _ => s
    | .ok doc_rx => recibirTexto s doc_rx
  | _ => s

/-- Everything one execution of `loop()` reads. A pressed start button keeps the
execution inside its hold loop: `pulsos` has the clock of each poll that found
it still pressed, and the poll after the last of them found it released. -/
structure Entrada where
  eventos : List Evento
  sensor : Nat
  termistor : Nat
  tiempo : BitVec 32
  botonEncendido : Bool
  pulsos : List (BitVec 32)
  botonApagado : Bool
  contBaj : Bool
  contAlt : Bool
  contAp : Bool
  now : BitVec 32

def leerSensor (s : State) (e : Entrada) : State :=
  { s with
    sensorVal1 := s.eeprom.read direccion0 * 13
    tempVal1 := s.eeprom.read direccion1
    lectura := e.sensor }

def pulsarEncendido (s : State) : State :=
  { s with encendida := true, blink := true, encendidaAlto := false }

/-- The test `millis()-tiempo >= tiempo_max`. `tiempo` is a signed `int`; the
subtraction and the comparison are unsigned. -/
def pulsacionLarga (tiempo : Int) (millis : BitVec 32) : Bool :=
  tiempo_max ≤ (millis - BitVec.ofInt 32 tiempo).toNat

def sostener (tiempo : Int) (s : State) (millis : BitVec 32) : State :=
  if pulsacionLarga tiempo millis = true then { s with encendidaAlto := true } else s

/-- The common body of `botonApagado` and of `ContAp`. -/
def apagar (s : State) : State :=
  let s := { s with
    encendida := false, encendidaAlto := false, blink := false, iniciarCicloEncendido := false,
    minutos := 0 }
  let s := digitalWrite s .gasBajo LOW
  let s := digitalWrite s .gasAlto LOW
  digitalWrite s .chispa LOW

def encendidoManual (s : State) (e : Entrada) : State :=
  let tiempo := e.tiempo.toInt
  let s := if e.botonEncendido = HIGH then pulsarEncendido s else s
  let s := e.pulsos.foldl (sostener tiempo) s
  if e.botonApagado = HIGH then apagar s else s

def remotoBajo (s : State) : State :=
  let s := { s with encendida := true, blink := true, encendidaAlto := false }
  digitalWrite s .chispa s.blink

def remotoAlto (s : State) : State := { s with encendidaAlto := true }

def encendidoControlRemoto (s : State) (e : Entrada) : State :=
  let s := if e.contBaj = HIGH then remotoBajo s else s
  let s := if e.contAlt = HIGH then remotoAlto s else s
  if e.contAp = HIGH then apagar s else s

def lecturaEstadoChimenea (s : State) : State :=
  if s.gasBajo = HIGH then { s with estadoChimenea := "Encendida" }
  else { s with estadoChimenea := "Apagada" }

/-- The block `if (encendida == true)`: spark, low valve and flame supervision. A
reading equal to the threshold leaves both flags as they are. -/
def vigilarLlama (s : State) : State :=
  if s.encendida = true then
    let s := digitalWrite s .chispa s.blink
    let s := digitalWrite s .gasBajo HIGH
    if s.lectura < s.sensorVal1 then { s with iniciarCicloEncendido := true }
    else if s.lectura > s.sensorVal1 then { s with blink := false, iniciarCicloEncendido := false }
    else s
  else s

def valvulaAlta (s : State) : State :=
  let s :=
    if s.encendidaAlto = true ∧ s.lectura > s.sensorVal1 then digitalWrite s .gasAlto HIGH else s
  if s.encendidaAlto = false then digitalWrite s .gasAlto LOW else s

/-- The block `if (encendida == false)`. It leaves the spark alone. -/
def limpiar (s : State) : State :=
  if s.encendida = false then
    let s := digitalWrite s .gasBajo LOW
    let s := digitalWrite s .gasAlto LOW
    { s with
      encendida := false, encendidaAlto := false, iniciarCicloEncendido := false, blink := false,
      intentos := 0 }
  else s

def encendidoChimenea (s : State) : State := limpiar (valvulaAlta (vigilarLlama s))

/-- One second has passed since the last status message, in 32-bit unsigned time. -/
def tocaTick (s : State) (e : Entrada) : Bool := interval ≤ (e.now - s.previousMillis).toNat

def transmitir (s : State) (e : Entrada) : State :=
  let doc_tx : DocTx := {
    sensor := s.lectura
    temp := e.termistor
    sensorVal := s.sensorVal1
    tempVal := s.tempVal1
    estadoChimenea := s.estadoChimenea
    temporizador := s.minutos }
  { s with salidas := .broadcastTXT doc_tx :: s.salidas, previousMillis := e.now }

/-- The half of the ignition toggle that does not leave the tick. -/
def reintentar (s : State) : State :=
  if s.blink = false ∧ s.iniciarCicloEncendido = true then
    { s with blink := true, intentos := s.intentos + 1 }
  else s

def cuentaRegresiva (s : State) : State :=
  if s.minutos > 0 then
    let s := { s with encendida := true, contadorMinuto := s.contadorMinuto - 1 }
    let s :=
      if s.contadorMinuto = 0 then { s with minutos := s.minutos - 1, contadorMinuto := 60 } else s
    if s.minutos = 0 ∧ s.encendida = true then
      let s := { s with minutos := 0, encendida := false, iniciarCicloEncendido := false }
      let s := digitalWrite s .gasBajo LOW
      digitalWrite s .gasAlto LOW
    else s
  else s

def bloqueo (s : State) : State :=
  if s.intentos ≥ 100 then
    let s := digitalWrite s .gasBajo LOW
    let s := digitalWrite s .gasAlto LOW
    { s with
      encendida := false, encendidaAlto := false, iniciarCicloEncendido := false, blink := false,
      intentos := 0 }
  else s

def tick (s : State) (e : Entrada) : State :=
  if tocaTick s e then
    let s := transmitir s e
    -- this branch is the early `return` of `loop()`
    if s.blink = true ∧ s.iniciarCicloEncendido = true then { s with blink := false }
    else bloqueo (cuentaRegresiva (reintentar s))
  else s

/-- `loop()` up to the supervision block: messages, sensors, buttons, remote. -/
def mandos (s : State) (e : Entrada) : State :=
  let s := e.eventos.foldl webSocketEvent s
  let s := leerSensor s e
  let s := encendidoManual s e
  encendidoControlRemoto s e

def supervisar (s : State) (e : Entrada) : State :=
  encendidoChimenea (lecturaEstadoChimenea (mandos s e))

def loop (s : State) (e : Entrada) : State := tick (supervisar s e) e

def Inicial (s : State) : Prop := ∃ flash wifi, s = setup flash wifi

abbrev Alcanzable (s : State) : Prop := Reactive.Reachable loop Inicial s

end Chimenea.Sketch
