import Chimenea.Arduino
import Chimenea.Reactive.Run

/-!
The sketch `web.ino`: a server that switches a LED. `loop()` serves one client, and its
inner loop reads the request byte by byte until a blank line, the end of the connection or
a timeout.
-/

namespace Chimenea.Web
open Arduino

def TiempoCancelacion : Nat := 500

def Pagina : String := "HTTP/1.1 200 OK\nContent-Type: text/html\n<!DOCTYPE HTML>\n<html>\n"

/-- The variables that outlive a client, and the level of the output. -/
structure Placa where
  estado : Bool
  pinLed : Bool
  tiempoActual : BitVec 32
  tiempoAnterior : BitVec 32
  deriving DecidableEq, Repr

def setup : Placa where
  estado := false
  pinLed := LOW
  tiempoActual := 0
  tiempoAnterior := 0

/-- Where the inner loop is: in it, left by `break`, or left by its condition. -/
inductive Fase where
  | leyendo | respondida | terminada
  deriving DecidableEq, Repr

structure Sesion extends Placa where
  lineaActual : Bytes
  fase : Fase
  respuesta : Option String
  deriving DecidableEq, Repr

structure IPAddress where
  octetos : Fin 4 → BitVec 8

def IPAddress.printTo (ip : IPAddress) : String :=
  ".".intercalate ((List.ofFn ip.octetos).map fun octeto => toString octeto.toNat)

/-- What one pass through the inner loop finds: whether the client is connected, the byte
to read if one is there, and the clock. -/
structure Pasada where
  conectado : Bool
  letra : Option (BitVec 8)
  millis : BitVec 32
  deriving DecidableEq, Repr

def verificarMensaje (mensaje : Bytes) (s : Sesion) : Sesion :=
  if indexOf mensaje (ascii "GET /encender") ≥ 0 then { s with estado := true }
  else if indexOf mensaje (ascii "GET /apagar") ≥ 0 then { s with estado := false }
  else s

def responderCliente (ip : IPAddress) (estado : Bool) : String :=
  Pagina ++ "Hola " ++ ip.printTo ++ "<br>Estado del led: " ++
    (if estado = true then "Encendida" else "Apagada") ++ "<br>Cambia el Led: " ++
    "<a href = \x27/" ++ (if estado = true then "apagar" else "encender") ++
    "\x27>Cambiar </a><br>" ++ "</html>"

def leerLetra (ip : IPAddress) (letra : BitVec 8) (s : Sesion) : Sesion :=
  if letra = newline then
    if s.lineaActual.length = 0 then
      { s with
        pinLed := s.estado
        respuesta := some (responderCliente ip s.estado)
        fase := .respondida }
    else { verificarMensaje s.lineaActual s with lineaActual := [] }
  else if letra ≠ carriageReturn then { s with lineaActual := s.lineaActual ++ [letra] }
  else s

/-- The condition of the inner loop. `TiempoActual` is the clock at the last byte read. -/
def sigue (tiempoActual tiempoAnterior : BitVec 32) (p : Pasada) : Bool :=
  p.conectado && decide ((tiempoActual - tiempoAnterior).toNat ≤ TiempoCancelacion)

def pasada (ip : IPAddress) (s : Sesion) (p : Pasada) : Sesion :=
  match s.fase with
  | .leyendo =>
    if sigue s.tiempoActual s.tiempoAnterior p = true then
      match p.letra with
      | some letra => leerLetra ip letra { s with tiempoActual := p.millis }
      | none => s
    else { s with fase := .terminada }
  | _ => s

/-- A client, with the clock when it is accepted and what the passes find. -/
structure Visita where
  remoteIP : IPAddress
  millis : BitVec 32
  pasadas : List Pasada

def aceptar (s : Placa) (millis : BitVec 32) : Sesion where
  estado := s.estado
  pinLed := s.pinLed
  tiempoActual := millis
  tiempoAnterior := millis
  lineaActual := []
  fase := .leyendo
  respuesta := none

/-- The inner loop as far as the passes go. -/
def atender (s : Placa) (v : Visita) : Sesion :=
  Reactive.run (pasada v.remoteIP) (aceptar s v.millis) v.pasadas

/-- A client whose inner loop is left, so that `loop()` goes on. -/
structure Servida extends Visita where
  fin : ∀ s, (atender s toVisita).fase ≠ .leyendo

/-- One execution of `loop()`. -/
def loop (s : Placa) : Option Servida → Placa
  | some v => (atender s v.toVisita).toPlaca
  | none => s

section Passes

variable (ip : IPAddress) (s : Sesion) (p : Pasada)

theorem pasada_left (left : s.fase ≠ .leyendo) : pasada ip s p = s := by
  unfold pasada
  cases phase : s.fase with
  | leyendo => exact absurd phase left
  | respondida => rfl
  | terminada => rfl

theorem run_left (left : s.fase ≠ .leyendo) (pasadas : List Pasada) :
    Reactive.run (pasada ip) s pasadas = s := by
  induction pasadas with
  | nil => rfl
  | cons p rest ih => rw [Reactive.run_cons, pasada_left ip s p left, ih]

theorem pasada_stops (reading : s.fase = .leyendo)
    (stop : sigue s.tiempoActual s.tiempoAnterior p = false) :
    pasada ip s p = { s with fase := .terminada } := by
  simp [pasada, reading, stop]

theorem pasada_waits (reading : s.fase = .leyendo)
    (stay : sigue s.tiempoActual s.tiempoAnterior p = true) (silent : p.letra = none) :
    pasada ip s p = s := by
  simp [pasada, reading, stay, silent]

theorem pasada_reads {letra : BitVec 8} (reading : s.fase = .leyendo)
    (stay : sigue s.tiempoActual s.tiempoAnterior p = true) (byte : p.letra = some letra) :
    pasada ip s p = leerLetra ip letra { s with tiempoActual := p.millis } := by
  simp [pasada, reading, stay, byte]

/-- No pass that finds the client gone leaves the loop running. -/
theorem pasada_disconnected (gone : p.conectado = false) : (pasada ip s p).fase ≠ .leyendo := by
  by_cases reading : s.fase = .leyendo
  · rw [pasada_stops ip s p reading (by simp [sigue, gone])]
    exact Fase.noConfusion
  · rw [pasada_left ip s p reading]
    exact reading

theorem leerLetra_tiempos (letra : BitVec 8) :
    (leerLetra ip letra s).tiempoActual = s.tiempoActual ∧
      (leerLetra ip letra s).tiempoAnterior = s.tiempoAnterior := by
  unfold leerLetra verificarMensaje
  split_ifs <;> exact ⟨rfl, rfl⟩

theorem leerLetra_inside (letra : BitVec 8) (inside : s.fase ≠ .terminada) :
    (leerLetra ip letra s).fase ≠ .terminada := by
  unfold leerLetra verificarMensaje
  split_ifs <;> first | exact inside | exact Fase.noConfusion

/-- A pass that stays does not end the loop by its condition, and its byte moves the clock. -/
theorem pasada_stays (reading : s.fase = .leyendo)
    (stay : sigue s.tiempoActual s.tiempoAnterior p = true) :
    (pasada ip s p).fase ≠ .terminada ∧
      (pasada ip s p).tiempoActual = if p.letra = none then s.tiempoActual else p.millis := by
  have inside : s.fase ≠ .terminada := by
    rw [reading]
    exact Fase.noConfusion
  cases byte : p.letra with
  | none =>
    rw [pasada_waits ip s p reading stay byte]
    exact ⟨inside, rfl⟩
  | some letra =>
    rw [pasada_reads ip s p reading stay byte]
    exact ⟨leerLetra_inside ip _ letra inside, (leerLetra_tiempos ip _ letra).1⟩

theorem pasada_tiempoAnterior : (pasada ip s p).tiempoAnterior = s.tiempoAnterior := by
  by_cases reading : s.fase = .leyendo
  · cases stay : sigue s.tiempoActual s.tiempoAnterior p with
    | false => rw [pasada_stops ip s p reading stay]
    | true =>
      cases byte : p.letra with
      | none => rw [pasada_waits ip s p reading stay byte]
      | some letra => rw [pasada_reads ip s p reading stay byte, (leerLetra_tiempos ip _ letra).2]
  · rw [pasada_left ip s p reading]

end Passes

end Chimenea.Web
