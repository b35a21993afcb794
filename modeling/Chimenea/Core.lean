import Chimenea.Reactive.Simulation
import Chimenea.Ordenes

/-!
The core of the state: the variables that `loop()` reads before it writes them, with
the levels of the three pins. The other variables (the scratch variables of the
handler, the reading and the thresholds in use, the status string) are written
before they are read, so two runs that agree in the core stay together.
-/

namespace Chimenea.Core
open Arduino Sketch Phases Ordenes

@[ext] structure Nucleo where
  encendida : Bool
  encendidaAlto : Bool
  blink : Bool
  iniciarCicloEncendido : Bool
  intentos : Int
  minutos : Int
  contadorMinuto : BitVec 32
  previousMillis : BitVec 32
  eeprom : Eeprom
  gasBajo : Bool
  gasAlto : Bool
  chispa : Bool

def nucleo (s : State) : Nucleo where
  encendida := s.encendida
  encendidaAlto := s.encendidaAlto
  blink := s.blink
  iniciarCicloEncendido := s.iniciarCicloEncendido
  intentos := s.intentos
  minutos := s.minutos
  contadorMinuto := s.contadorMinuto
  previousMillis := s.previousMillis
  eeprom := s.eeprom
  gasBajo := s.gasBajo
  gasAlto := s.gasAlto
  chispa := s.chispa

section Orders

attribute [local simp] ejecutar estadoOn estadoAlto estadoOff leerSensor pulsarEncendido apagar
  remotoBajo remotoAlto digitalWrite sostener_eq

theorem ejecutar_nucleo : Reactive.Respects ejecutar nucleo := by
  intro s t orden same
  simp only [nucleo, Nucleo.mk.injEq] at same
  cases orden <;> simp_all [nucleo]

end Orders

/-- What supervision reads of the core: of the low valve nothing, of the spark and the
attempts what the burner leaves of them. -/
structure Concuerdan (a b : Nucleo) : Prop where
  encendida : a.encendida = b.encendida
  encendidaAlto : a.encendidaAlto = b.encendidaAlto
  blink : a.blink = b.blink
  iniciarCicloEncendido : a.iniciarCicloEncendido = b.iniciarCicloEncendido
  intentos : a.encendida = true → a.intentos = b.intentos
  minutos : a.minutos = b.minutos
  contadorMinuto : a.contadorMinuto = b.contadorMinuto
  previousMillis : a.previousMillis = b.previousMillis
  eeprom : a.eeprom = b.eeprom
  gasAlto : a.gasAlto = b.gasAlto
  chispa : a.encendida = false → a.chispa = b.chispa

theorem Concuerdan.refl (a : Nucleo) : Concuerdan a a := by
  constructor <;> simp

theorem supervisar_eeprom (s : State) (e : Entrada) :
    (supervisar s e).eeprom = (mandos s e).eeprom := by rw [supervisar_eq]

theorem supervisar_nucleo {s t : State} {e f : Entrada}
    (agree : Concuerdan (nucleo (mandos s e)) (nucleo (mandos t f)))
    (reading : e.sensor = f.sensor) :
    nucleo (supervisar s e) = nucleo (supervisar t f) := by
  obtain ⟨lectura, umbral, _⟩ := mandos_leido s e
  obtain ⟨lectura', umbral', _⟩ := mandos_leido t f
  obtain ⟨on, high, blink, ciclo, intentos, minutos, contador, reloj, eeprom, alto, chispa⟩ := agree
  simp only [nucleo, State.chispa, State.gasAlto] at *
  rw [reading] at lectura
  rw [eeprom] at umbral
  rw [mandos_previousMillis, mandos_previousMillis] at reloj
  cases burning : (mandos s e).encendida with
  | false =>
    have off : (mandos t f).encendida = false := on.symm.trans burning
    have spark := chispa burning
    ext1 <;> simp [supervisar_eeprom, burning, off, minutos, contador, reloj, eeprom, spark]
  | true =>
    have lit : (mandos t f).encendida = true := on.symm.trans burning
    have tries := intentos burning
    ext1 <;> simp [supervisar_eeprom, burning, lit, high, blink, ciclo, tries, minutos, contador,
      reloj, eeprom, alto, lectura, lectura', umbral, umbral']

theorem contar_nucleo {s t : State} {e f : Entrada} (same : nucleo s = nucleo t)
    (clock : e.now = f.now) : nucleo (contar s e) = nucleo (contar t f) := by
  simp only [nucleo, State.gasBajo, State.gasAlto, State.chispa, Nucleo.mk.injEq] at same
  have expires : vence s = vence t := by simp [vence, same]
  have tries : cuentaIntentos s = cuentaIntentos t := by simp [cuentaIntentos, same]
  have locks : bloquea s = bloquea t := by simp [bloquea, tries]
  have eeprom : (contar s e).eeprom = (contar t f).eeprom := by simp [contar_eq, same]
  simp [nucleo, same, clock, expires, tries, locks, eeprom]

theorem tick_nucleo {s t : State} {e f : Entrada} (same : nucleo s = nucleo t)
    (clock : e.now = f.now) : nucleo (tick s e) = nucleo (tick t f) := by
  have counted := contar_nucleo same clock
  simp only [nucleo, State.gasBajo, State.gasAlto, State.chispa, Nucleo.mk.injEq] at same
  have due : tocaTick s e = tocaTick t f := by simp [tocaTick, same, clock]
  have early : retorna s = retorna t := by simp [retorna, same]
  rw [tick_eq, tick_eq, due, early]
  split_ifs
  · simp [nucleo, transmitir, same, clock]
  · exact counted
  · simp [nucleo, same]

/-- An execution leaves the same core if its orders leave concordant ones and it reads
the same sensor and the same clock. -/
theorem loop_nucleo {s t : State} {e f : Entrada}
    (agree : Concuerdan (nucleo (mandos s e)) (nucleo (mandos t f)))
    (reading : e.sensor = f.sensor) (clock : e.now = f.now) :
    nucleo (loop s e) = nucleo (loop t f) :=
  tick_nucleo (supervisar_nucleo agree reading) clock

theorem loop_respects : Reactive.Respects loop nucleo := by
  intro s t e same
  have orders := ejecutar_nucleo.run same (ordenes e)
  rw [← obedecer, ← obedecer, ← mandos_eq, ← mandos_eq] at orders
  exact loop_nucleo (by rw [orders]; exact .refl _) rfl rfl

end Chimenea.Core
