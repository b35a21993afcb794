import Chimenea.Numeral
import Chimenea.Ordenes

/-!
The two setpoints. Each is sent as a decimal text, stored in one byte of the permanent
memory, and read back by every later execution, after restarts too; a value that is no
byte is stored as its low eight bits.
-/

namespace Chimenea.Setpoint
open Arduino Sketch Phases Ordenes Numeral

/-- The device between two of its inputs: it runs `loop()` or loses power and starts. -/
inductive Paso where
  | iteracion (e : Entrada)
  | reinicio (wifi : Option (BitVec 32))

def paso (s : State) : Paso → State
  | .iteracion e => loop s e
  | .reinicio wifi => setup s.eeprom.flash wifi

inductive Celda where
  | sensor
  | temp

namespace Celda

def direccion : Celda → Fin EEPROM_SIZE
  | .sensor => direccion0
  | .temp => direccion1

def factor : Celda → Int
  | .sensor => 13
  | .temp => 1

def texto : Celda → DocRx → Option String
  | .sensor, doc_rx => doc_rx.sensorSet
  | .temp, doc_rx => doc_rx.sensorTemp

def enUso : Celda → State → Int
  | .sensor, s => s.sensorVal1
  | .temp, s => s.tempVal1

def ajuste : Celda → Int → Orden
  | .sensor => .sensorSet
  | .temp => .sensorTemp

def almacenado (celda : Celda) (s : State) : BitVec 8 := s.eeprom.ram celda.direccion

end Celda

variable (celda : Celda)

/-- The execution sets this setpoint no more. -/
def SinAjuste (e : Entrada) : Prop := ∀ valor, celda.ajuste valor ∉ ordenes e

def Paso.SinAjuste : Paso → Prop
  | .iteracion e => Setpoint.SinAjuste celda e
  | .reinicio _ => True

/-- The byte is stored for good. -/
structure Guarda (byte : BitVec 8) (s : State) : Prop where
  ram : s.eeprom.ram celda.direccion = byte
  flash : s.eeprom.flash celda.direccion = byte

section Kept

variable {celda} {byte : BitVec 8}

variable (celda) in
theorem ejecutar_ajuste (s : State) (valor : Int) :
    Guarda celda (BitVec.ofInt 8 valor) (ejecutar s (celda.ajuste valor)) := by
  cases celda <;> constructor <;>
    simp [Celda.ajuste, Celda.direccion, ejecutar, Eeprom.write, Eeprom.commit]

/-- A write to the other cell. -/
theorem Guarda.of_write {s t : State} (before : Guarda celda byte s) {otra : Fin EEPROM_SIZE}
    (apart : celda.direccion ≠ otra) (valor : Int)
    (written : t.eeprom = (s.eeprom.write otra valor).commit) : Guarda celda byte t := by
  have kept :
      (s.eeprom.write otra valor).ram celda.direccion = s.eeprom.ram celda.direccion := by
    simp only [Eeprom.write, Function.update_of_ne apart]
  constructor
  · rw [written]
    exact kept.trans before.ram
  · rw [written]
    exact kept.trans before.ram

/-- Only an order that sets this setpoint to another byte changes what is stored. -/
theorem ejecutar_guarda (s : State) (orden : Orden)
    (agree : ∀ valor, orden = celda.ajuste valor → BitVec.ofInt 8 valor = byte)
    (before : Guarda celda byte s) : Guarda celda byte (ejecutar s orden) := by
  have apart : direccion0 ≠ direccion1 := by decide
  cases orden with
  | sensorSet valor =>
    cases celda with
    | sensor => exact agree valor rfl ▸ ejecutar_ajuste .sensor s valor
    | temp => exact before.of_write apart.symm valor rfl
  | sensorTemp valor =>
    cases celda with
    | temp => exact agree valor rfl ▸ ejecutar_ajuste .temp s valor
    | sensor => exact before.of_write apart valor rfl
  | sostener tiempo millis =>
    rw [ejecutar, sostener_eq]
    exact ⟨before.ram, before.flash⟩
  | _ => exact ⟨before.ram, before.flash⟩

theorem obedecer_guarda {s : State} (before : Guarda celda byte s) (lista : List Orden)
    (agree : ∀ valor, celda.ajuste valor ∈ lista → BitVec.ofInt 8 valor = byte) :
    Guarda celda byte (obedecer s lista) := by
  apply Reactive.run_invariant_of_inputs (Guarda celda byte)
    (fun orden => ∀ valor, orden = celda.ajuste valor → BitVec.ofInt 8 valor = byte) _ before lista
  · intro orden member valor same
    exact agree valor (same ▸ member)
  · intro t orden only
    exact ejecutar_guarda t orden only

theorem paso_guarda (s : State) (p : Paso) (other : p.SinAjuste celda)
    (before : Guarda celda byte s) : Guarda celda byte (paso s p) := by
  cases p with
  | iteracion e =>
    have orders := obedecer_guarda before (ordenes e) fun valor member =>
      absurd member (other valor)
    rw [← mandos_eq] at orders
    have same : (loop s e).eeprom = (mandos s e).eeprom := loop_eeprom s e
    constructor
    · rw [paso, same]
      exact orders.ram
    · rw [paso, same]
      exact orders.flash
  | reinicio wifi => cases wifi <;> exact ⟨before.flash, before.flash⟩

theorem loop_enUso {s : State} {e : Entrada} (stored : Guarda celda byte (mandos s e)) :
    celda.enUso (loop s e) = celda.factor * byte.toNat := by
  obtain ⟨_, sensor, temp⟩ := mandos_leido s e
  have read : (mandos s e).eeprom.read celda.direccion = byte.toNat := by
    rw [Eeprom.read, stored.ram]
  cases celda with
  | sensor =>
    calc
      _ = (mandos s e).sensorVal1 := loop_sensorVal1 s e
      _ = byte.toNat * 13 := sensor.trans (congrArg (· * 13) read)
      _ = 13 * byte.toNat := Int.mul_comm _ _
  | temp =>
    calc
      _ = (mandos s e).tempVal1 := loop_tempVal1 s e
      _ = byte.toNat := temp.trans read
      _ = 1 * byte.toNat := (Int.one_mul _).symm

end Kept

/-- From here on this execution and every later one work with the threshold, restarts
included, until the setpoint is set again. -/
def Fijado (umbral : Int) (s : State) (e : Entrada) : Prop :=
  celda.enUso (loop s e) = umbral ∧
    ∀ (pasos : List Paso) (f : Entrada), (∀ p ∈ pasos, p.SinAjuste celda) →
      SinAjuste celda f → celda.enUso (loop (Reactive.run paso (loop s e) pasos) f) = umbral

theorem fijado_of_guarda {byte : BitVec 8} {s : State} {e : Entrada}
    (stored : Guarda celda byte (mandos s e)) : Fijado celda (celda.factor * byte.toNat) s e := by
  refine ⟨loop_enUso stored, ?_⟩
  intro pasos f kept still
  have same : (loop s e).eeprom = (mandos s e).eeprom := loop_eeprom s e
  have start : Guarda celda byte (loop s e) :=
    ⟨by rw [same]; exact stored.ram, by rw [same]; exact stored.flash⟩
  have before := Reactive.run_invariant_of_inputs (Guarda celda byte) (Paso.SinAjuste celda)
    paso_guarda start pasos kept
  apply loop_enUso
  rw [mandos_eq]
  exact obedecer_guarda before _ fun valor member => absurd member (still valor)

/-- A text message that sends a value other than zero for the setpoint, after some of
the events of its execution; the events after it do not set the setpoint. -/
structure Envio (valor : Int) where
  base : Entrada
  antes : Nat
  num : BitVec 8
  doc_rx : DocRx
  texto : String
  enviado : celda.texto doc_rx = some texto
  decimal : EsDecimal texto valor
  noNulo : valor ≠ 0
  ultimo : ∀ evento ∈ base.eventos.drop antes, ∀ otro, celda.ajuste otro ∉ ordenesEvento evento

namespace Envio

variable {celda} {valor : Int} (envio : Envio celda valor) (s : State)

def entrada : Entrada := conMensaje envio.base envio.antes envio.num envio.doc_rx

def previo : State := (envio.base.eventos.take envio.antes).foldl webSocketEvent s

def recibido : State := recibirTexto (envio.previo s) envio.doc_rx

/-- The low eight bits of the value that was read. -/
def byte (_ : Envio celda valor) : BitVec 8 := BitVec.ofInt 8 (acotado valor)

theorem acotado_ne_zero {valor : Int} (some : valor ≠ 0) : acotado valor ≠ 0 := by
  simp only [acotado, LONG_MIN, LONG_MAX]
  omega

theorem ordenesTexto_ajuste :
    celda.ajuste (acotado valor) ∈ ordenesTexto envio.doc_rx ∧
      ∀ otro, celda.ajuste otro ∈ ordenesTexto envio.doc_rx → otro = acotado valor := by
  have filled := acotado_ne_zero envio.noNulo
  have sent : toInt (string (celda.texto envio.doc_rx)) = acotado valor := by
    rw [envio.enviado]
    exact toInt_decimal envio.decimal
  cases celda <;> simp only [Celda.texto] at sent <;>
    simp [ordenesTexto, cuando, Celda.ajuste, sent, filled]

theorem recibido_guarda : Guarda celda envio.byte (envio.recibido s) := by
  obtain ⟨member, only⟩ := envio.ordenesTexto_ajuste
  obtain ⟨front, back, orders⟩ := List.append_of_mem member
  rw [recibido, recibirTexto_eq, orders, obedecer, Reactive.run_append, Reactive.run_cons]
  apply obedecer_guarda (ejecutar_ajuste celda _ _)
  intro otro later
  rw [only otro (by simp [orders, later])]

theorem mandos_guarda : Guarda celda envio.byte (mandos s envio.entrada) := by
  have received := envio.recibido_guarda s
  rw [recibido, previo, eventos_eq, recibirTexto_eq] at received
  rw [mandos_eq, entrada, ordenes_conMensaje, obedecer, Reactive.run_append, Reactive.run_append]
  apply obedecer_guarda received
  intro otro member
  exfalso
  simp only [List.mem_append, List.mem_flatMap, List.mem_singleton] at member
  rcases member with ⟨evento, later, obeyed⟩ | reading | button
  · exact envio.ultimo evento later otro obeyed
  · cases celda <;> exact absurd reading (by simp [Celda.ajuste])
  · cases celda <;> simp [Celda.ajuste, ordenesBotones, cuando] at button

theorem byte_of_small (small : 1 ≤ valor ∧ valor ≤ 255) : (envio.byte.toNat : Int) = valor := by
  have kept : acotado valor = valor := by
    simp only [acotado, LONG_MIN, LONG_MAX]
    omega
  rw [byte, kept, BitVec.toNat_ofInt]
  omega

end Envio

/-- A setpoint is either used as sent from now on, or the message leaves it as it was,
exactly when it is a byte other than zero or its low eight bits are stored already. -/
theorem setpoint_round_trip_iff (valor : Int) (envio : Envio celda valor) (s : State) :
    (Fijado celda (celda.factor * valor) s envio.entrada ∨
      celda.almacenado (envio.recibido s) = celda.almacenado (envio.previo s)) ↔
      (1 ≤ valor ∧ valor ≤ 255) ∨
        BitVec.ofInt 8 (acotado valor) = celda.almacenado (envio.previo s) := by
  have stored := envio.mandos_guarda s
  have received : celda.almacenado (envio.recibido s) = envio.byte := (envio.recibido_guarda s).ram
  have small := envio.byte.isLt
  rw [received]
  apply or_congr_left
  constructor
  · intro kept
    have used := (loop_enUso stored).symm.trans kept.1
    have same : (envio.byte.toNat : Int) = valor := by
      cases celda <;> simp only [Celda.factor] at used <;> omega
    have some := envio.noNulo
    omega
  · intro fits
    have fixed := fijado_of_guarda celda stored
    rw [envio.byte_of_small fits] at fixed
    exact fixed

/-- The message of the web page: this setpoint alone, written in decimal. -/
def pagina (valor : Int) (noNulo : valor ≠ 0) : Envio celda valor where
  base := reposo 0 0
  antes := 0
  num := 0
  doc_rx := match celda with
    | .sensor => { sensorSet := some (toString valor) }
    | .temp => { sensorTemp := some (toString valor) }
  texto := toString valor
  enviado := by cases celda <;> rfl
  decimal := esDecimal_toString valor
  noNulo := noNulo
  ultimo := by simp [reposo]

/-- A flame setpoint of 20 is still the threshold after a restart. -/
theorem setpoint_round_trip_iff_veinte :
    Celda.sensor.enUso (loop (Reactive.run paso
      (loop (setup (fun _ => 1) none) (pagina .sensor 20 (by decide)).entrada) [.reinicio none])
      (reposo 0 0)) = 260 := by
  rcases (setpoint_round_trip_iff .sensor 20 (pagina .sensor 20 (by decide))
    (setup (fun _ => 1) none)).mpr (.inl (by decide)) with fixed | kept
  · refine fixed.2 [.reinicio none] (reposo 0 0) ?_ ?_
    · intro p member
      rw [List.mem_singleton.1 member]
      trivial
    · intro valor
      simp [ordenes, ordenesBotones, cuando, reposo, Celda.ajuste]
  · exact absurd kept (by decide)

/-- A flame setpoint of 256 is stored as 0, the threshold that no flame fails. -/
theorem setpoint_of_256_stored_as_0 :
    ¬ ∀ (celda : Celda) (valor : Int) (envio : Envio celda valor) (s : State), Alcanzable s →
      Fijado celda (celda.factor * valor) s envio.entrada ∨
        celda.almacenado (envio.recibido s) = celda.almacenado (envio.previo s) := by
  intro keeps
  let envio := pagina .sensor 256 (by decide)
  have zero : envio.byte = 0 := by decide
  rcases keeps .sensor 256 envio (setup (fun _ => 1) none) (.init ⟨_, _, rfl⟩) with fixed | kept
  · have used := (loop_enUso (envio.mandos_guarda _)).symm.trans fixed.1
    rw [zero] at used
    exact absurd used (by decide)
  · have received : Celda.sensor.almacenado (envio.recibido (setup (fun _ => 1) none)) = 0 :=
      (envio.recibido_guarda _).ram.trans zero
    rw [received] at kept
    exact absurd kept (by decide)

end Chimenea.Setpoint
