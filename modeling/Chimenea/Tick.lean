import Chimenea.Ordenes
import Chimenea.Reactive.Polling

/-!
The one-second block. Its clock has 32 bits and wraps, real time does not; between two
polls that come close enough together the difference is the same, so the block runs
exactly when a real second is over, through any number of wraps.
-/

namespace Chimenea.Tick
open Arduino Sketch Phases Ordenes

/-- An execution that reads its last clock value `instante` milliseconds after power-on. -/
structure Vuelta where
  instante : Nat
  entrada : Entrada
  reloj : entrada.now = BitVec.ofNat 32 instante

def vuelta (s : State) (v : Vuelta) : State := loop s v.entrada

def tocaEn (s : State) (v : Vuelta) : Bool := esTick s v.entrada

/-- The real times of the ticks of a run. -/
def ticks (s : State) (vueltas : List Vuelta) : List Nat :=
  (Reactive.marked vuelta tocaEn s vueltas).map Vuelta.instante

def Salida.esTransmision : Salida → Bool
  | .broadcastTXT _ => true
  | .digitalWrite .. => false

/-- The status messages sent so far, one for every run of the block. -/
def transmisiones (s : State) : Nat := s.salidas.countP Salida.esTransmision

section Transmisiones

attribute [local simp] transmisiones Salida.esTransmision List.countP_cons

theorem ejecutar_transmisiones (s : State) (orden : Orden) :
    transmisiones (ejecutar s orden) = transmisiones s := by
  cases orden <;>
    simp [ejecutar, estadoOn, estadoAlto, estadoOff, leerSensor, pulsarEncendido, sostener_eq,
      apagar, remotoBajo, remotoAlto, digitalWrite]

theorem mandos_transmisiones (s : State) (e : Entrada) :
    transmisiones (mandos s e) = transmisiones s := by
  apply mandos_invariant (fun t => transmisiones t = transmisiones s) _ rfl
  intro t orden same
  rw [ejecutar_transmisiones, same]

theorem supervisar_transmisiones (s : State) (e : Entrada) :
    transmisiones (supervisar s e) = transmisiones s := by
  rw [← mandos_transmisiones s e]
  simp only [transmisiones, supervisar, lecturaEstadoChimenea_eq, encendidoChimenea, limpiar_eq,
    valvulaAlta_eq, vigilarLlama_eq]
  split_ifs <;> simp

theorem contar_transmisiones (s : State) (e : Entrada) :
    transmisiones (contar s e) = transmisiones s + 1 := by
  rw [transmisiones, contar_eq]
  simp only [transmitir]
  split_ifs <;> simp

/-- The early return comes after the message. -/
theorem loop_transmisiones (s : State) (e : Entrada) :
    transmisiones (loop s e) = transmisiones s + if esTick s e = true then 1 else 0 := by
  rcases loop_cases s e with ⟨due, run⟩ | ⟨due, early, run⟩ | ⟨ran, run⟩
  · rw [run, supervisar_transmisiones, due]
    rfl
  · have sent := supervisar_transmisiones s e
    rw [run, due, ← sent]
    simp [transmitir]
  · have due : esTick s e = true := (cuenta_iff.mp ran).1
    rw [run, contar_transmisiones, supervisar_transmisiones, due]
    rfl

end Transmisiones

/-- One execution, when the block ran `ultimo` milliseconds after power-on for the last
time: it runs the block if a second has passed, sends one message then and none
otherwise, and has the clock of the last tick at its end. -/
structure Puntual (ultimo : Nat) (s : State) (v : Vuelta) : Prop where
  toca : tocaEn s v = true ↔ ultimo + 1000 ≤ v.instante
  transmite : transmisiones (vuelta s v) =
    transmisiones s + if ultimo + 1000 ≤ v.instante then 1 else 0
  reloj : (vuelta s v).previousMillis =
    BitVec.ofNat 32 (if ultimo + 1000 ≤ v.instante then v.instante else ultimo)

theorem puntual_of_close {s : State} {v : Vuelta} {ultimo : Nat}
    (phase : s.previousMillis = BitVec.ofNat 32 ultimo)
    (close : ultimo ≤ v.instante ∧ v.instante < ultimo + 4294967296) : Puntual ultimo s v := by
  have due : esTick s v.entrada = decide (ultimo + 1000 ≤ v.instante) := by
    rw [esTick_eq, v.reloj, phase, elapsed_real close.1 close.2, decide_eq_decide]
    omega
  constructor
  · rw [tocaEn, due, decide_eq_true_iff]
  · rw [vuelta, loop_transmisiones, due]
    simp only [decide_eq_true_eq]
  · rw [vuelta, loop_previousMillis, mandos_previousMillis, due, v.reloj, phase]
    simp only [decide_eq_true_eq]
    split_ifs <;> rfl

/-- The first execution comes within one period of the clock after the last tick. -/
def Cerca (ultimo : Nat) (vueltas : List Vuelta) : Prop :=
  ∀ v ∈ vueltas.head?, ultimo ≤ v.instante ∧ v.instante < ultimo + 4294967296

theorem puntual_run {d : Nat} (narrow : d < 4294967296 - 1000) {s : State} {ultimo : Nat}
    (phase : s.previousMillis = BitVec.ofNat 32 ultimo) (vueltas : List Vuelta)
    (first : Cerca ultimo vueltas) (spaced : Reactive.Spaced d (vueltas.map Vuelta.instante)) :
    Reactive.Steps (Reactive.watch vuelta (Reactive.lastMark tocaEn Vuelta.instante))
      (fun pair v => Puntual pair.2 pair.1 v) (s, ultimo) vueltas := by
  induction vueltas generalizing s ultimo with
  | nil => trivial
  | cons v rest ih =>
    have close := first v rfl
    have here := puntual_of_close phase close
    have last : Reactive.lastMark tocaEn Vuelta.instante ultimo s v =
        if ultimo + 1000 ≤ v.instante then v.instante else ultimo := by
      simp only [Reactive.lastMark, here.toca]
    refine ⟨here, ?_⟩
    rw [Reactive.watch, last]
    apply ih here.reloj
    · intro w next
      obtain ⟨after, rfl⟩ := List.head?_eq_some_iff.mp next
      have gap := (List.isChain_cons_cons.mp spaced).1
      split_ifs <;> omega
    · exact spaced.of_cons

/-- The block runs exactly when a real second has passed since it ran last, whatever the
phase of the clock and however often it wraps; so any number of intervals between ticks
takes its seconds, and less than a gap more for each of them. -/
theorem tick_every_second (d : Nat) (narrow : d < 4294967296 - 1000) (s : State) (ultimo : Nat)
    (phase : s.previousMillis = BitVec.ofNat 32 ultimo) (vueltas : List Vuelta)
    (first : Cerca ultimo vueltas) (spaced : Reactive.Spaced d (vueltas.map Vuelta.instante)) :
    Reactive.Steps (Reactive.watch vuelta (Reactive.lastMark tocaEn Vuelta.instante))
        (fun pair v => Puntual pair.2 pair.1 v) (s, ultimo) vueltas ∧
      ∀ j k (within : j + k + 1 < (ticks s vueltas).length),
        (ticks s vueltas)[j] + 1000 * (k + 1) ≤ (ticks s vueltas)[j + k + 1] ∧
          (ticks s vueltas)[j + k + 1] < (ticks s vueltas)[j] + (1000 + d) * (k + 1) := by
  have punctual := puntual_run narrow phase vueltas first spaced
  refine ⟨punctual, ?_⟩
  have marks := Reactive.marked_eq_firings (punctual.imp fun _ _ each => each.toca)
  have apart := Reactive.firings_apart (by decide : 0 < 1000) ultimo _ spaced
  rw [← marks] at apart
  intro j k within
  exact Reactive.chain_total apart j k within

/-- Three polls around the wrap of the clock, the last tick 296 ms before it. -/
theorem tick_every_second_wrapping :
    let s := setup (fun _ => 1) (some (BitVec.ofNat 32 4294967000))
    let poll (t : Nat) : Vuelta := ⟨t, reposo 0 (BitVec.ofNat 32 t), rfl⟩
    let vueltas := [poll 4294967500, poll 4294968100, poll 4294969200]
    Reactive.Steps (Reactive.watch vuelta (Reactive.lastMark tocaEn Vuelta.instante))
        (fun pair v => Puntual pair.2 pair.1 v) (s, 4294967000) vueltas ∧
      ∀ j k (within : j + k + 1 < (ticks s vueltas).length),
        (ticks s vueltas)[j] + 1000 * (k + 1) ≤ (ticks s vueltas)[j + k + 1] ∧
          (ticks s vueltas)[j + k + 1] < (ticks s vueltas)[j] + (1000 + 1100) * (k + 1) := by
  intro s poll vueltas
  apply tick_every_second 1100 (by decide) s 4294967000 rfl vueltas
  · simp [Cerca, vueltas, poll]
  · simp [Reactive.Spaced, vueltas, poll]

end Chimenea.Tick
