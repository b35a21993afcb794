import Chimenea.Ordenes

/-!
The start button. One read decides that it is pressed, further reads measure how
long; the measure works on the 32-bit clock, whose differences are right for every
press shorter than the clock's period.
-/

namespace Chimenea.Press
open Arduino Sketch Phases Ordenes

/-- The state in which an execution reaches the first read of the button. -/
def alPulsar (s : State) (e : Entrada) : State :=
  leerSensor (e.eventos.foldl webSocketEvent s) e

/-- The state after the hold loop, from the state before the first read. -/
def sostenido (s : State) (e : Entrada) : State :=
  e.pulsos.foldl (sostener e.tiempo.toInt)
    (if e.botonEncendido = HIGH then pulsarEncendido s else s)

/-- The panel's off button and the remote are obeyed after the hold loop. -/
theorem mandos_sostenido (s : State) (e : Entrada) : mandos s e =
    encendidoControlRemoto
      (if e.botonApagado = HIGH then apagar (sostenido (alPulsar s e) e)
        else sostenido (alPulsar s e) e) e := rfl

/-- The milliseconds since power-on behind the clock values of a press: `inicio` when
`tiempo` is taken, then one for every check of the hold loop. -/
structure Pulsacion (e : Entrada) (inicio : Nat) (chequeos : List Nat) : Prop where
  tiempo : e.tiempo = BitVec.ofNat 32 inicio
  pulsos : e.pulsos = chequeos.map (BitVec.ofNat 32)
  periodo : ∀ t ∈ chequeos, inicio ≤ t ∧ t < inicio + 4294967296

theorem pulsacionLarga_real {inicio t : Nat} (later : inicio ≤ t)
    (short : t < inicio + 4294967296) :
    pulsacionLarga (BitVec.ofNat 32 inicio).toInt (BitVec.ofNat 32 t) =
      decide (1000 ≤ t - inicio) := by
  rw [pulsacionLarga, BitVec.ofInt_toInt, elapsed_real later short]
  rfl

theorem foldl_sostener (tiempo : Int) (s : State) (pulsos : List (BitVec 32)) :
    pulsos.foldl (sostener tiempo) s =
      { s with encendidaAlto := s.encendidaAlto || pulsos.any (pulsacionLarga tiempo) } := by
  induction pulsos generalizing s with
  | nil => simp
  | cons millis rest ih => simp [ih, sostener_eq, Bool.or_assoc]

def Larga (inicio : Nat) (chequeos : List Nat) : Prop := ∃ t ∈ chequeos, 1000 ≤ t - inicio

/-- What the hold loop should leave: a press that any read saw switches on, in high if a
check found a second gone; no press changes nothing. -/
structure Decodificada (s : State) (e : Entrada) (inicio : Nat) (chequeos : List Nat) : Prop where
  vista : e.botonEncendido = HIGH ∨ chequeos ≠ [] →
    (sostenido s e).encendida = true ∧ (sostenido s e).blink = true ∧
      ((sostenido s e).encendidaAlto = true ↔ Larga inicio chequeos)
  nadie : e.botonEncendido = LOW → chequeos = [] →
    (sostenido s e).encendida = s.encendida ∧ (sostenido s e).blink = s.blink ∧
      (sostenido s e).encendidaAlto = s.encendidaAlto

section Decoding

variable {s : State} {e : Entrada} {inicio : Nat} {chequeos : List Nat}
  (press : Pulsacion e inicio chequeos)

include press

theorem sostenido_eq : ∃ larga : Bool, (larga = true ↔ Larga inicio chequeos) ∧
    sostenido s e =
      if e.botonEncendido = HIGH then { pulsarEncendido s with encendidaAlto := larga }
      else { s with encendidaAlto := s.encendidaAlto || larga } := by
  refine ⟨e.pulsos.any (pulsacionLarga e.tiempo.toInt), ?_, ?_⟩
  · simp only [press.pulsos, press.tiempo, List.any_map, List.any_eq_true, Function.comp, Larga]
    apply exists_congr
    intro t
    apply and_congr_right
    intro member
    obtain ⟨later, short⟩ := press.periodo t member
    rw [pulsacionLarga_real later short, decide_eq_true_iff]
  · rw [sostenido, foldl_sostener]
    split_ifs <;> simp [pulsarEncendido]

theorem decodificada_of_first (first : e.botonEncendido = HIGH) :
    Decodificada s e inicio chequeos := by
  obtain ⟨larga, long, held⟩ := sostenido_eq (s := s) press
  rw [if_pos first] at held
  constructor
  · intro _
    rw [held]
    exact ⟨rfl, rfl, long⟩
  · intro low
    simp [first] at low

/-- A press that only the hold loop sees ends in a latch over the old state. -/
theorem decodificada_late_iff (first : e.botonEncendido = LOW) (seen : chequeos ≠ []) :
    Decodificada s e inicio chequeos ↔
      s.encendida = true ∧ s.blink = true ∧ (s.encendidaAlto = true → Larga inicio chequeos) := by
  obtain ⟨larga, long, held⟩ := sostenido_eq (s := s) press
  have high : ((s.encendidaAlto || larga) = true ↔ larga = true) ↔
      (s.encendidaAlto = true → larga = true) := by
    rw [Bool.or_eq_true, or_iff_right_iff_imp]
  rw [if_neg (by simp [first])] at held
  rw [← long, ← high]
  constructor
  · intro decoded
    have pressed := decoded.vista (.inr seen)
    rw [held, ← long] at pressed
    exact pressed
  · intro right
    constructor
    · intro _
      rw [held, ← long]
      exact right
    · intro _ none
      exact absurd none seen

theorem decodificada_of_none (first : e.botonEncendido = LOW) (none : chequeos = []) :
    Decodificada s e inicio chequeos := by
  obtain ⟨larga, long, held⟩ := sostenido_eq (s := s) press
  have short : larga = false := by
    apply Bool.eq_false_iff.mpr
    intro lasted
    obtain ⟨t, member, _⟩ := long.mp lasted
    rw [none] at member
    exact absurd member List.not_mem_nil
  rw [if_neg (by simp [first])] at held
  constructor
  · intro seen
    exact absurd none (seen.resolve_left (by simp [first]))
  · intro _ _
    rw [held, short]
    exact ⟨rfl, rfl, Bool.or_false _⟩

end Decoding

/-- A press is decoded right exactly when the first read sees it, or nothing sees it, or
the burner is already in the state that the press asks for. -/
theorem press_decoded_iff (s : State) (e : Entrada) (inicio : Nat) (chequeos : List Nat)
    (press : Pulsacion e inicio chequeos) :
    Decodificada (alPulsar s e) e inicio chequeos ↔
      e.botonEncendido = HIGH ∨ chequeos = [] ∨
        ((alPulsar s e).encendida = true ∧ (alPulsar s e).blink = true ∧
          ((alPulsar s e).encendidaAlto = true → Larga inicio chequeos)) := by
  by_cases first : e.botonEncendido = HIGH
  · exact iff_of_true (decodificada_of_first press first) (.inl first)
  · have low : e.botonEncendido = LOW := eq_false_of_ne_true first
    by_cases none : chequeos = []
    · exact iff_of_true (decodificada_of_none press low none) (.inr (.inl none))
    · rw [decodificada_late_iff press low none]
      simp only [first, none, false_or]

theorem press_decoded_wrapping :
    Decodificada (alPulsar (setup (fun _ => 1) none)
        { reposo 0 0 with
          tiempo := BitVec.ofNat 32 4294967000, botonEncendido := HIGH
          pulsos := [BitVec.ofNat 32 4294967500, BitVec.ofNat 32 4294968000] })
      { reposo 0 0 with
        tiempo := BitVec.ofNat 32 4294967000, botonEncendido := HIGH
        pulsos := [BitVec.ofNat 32 4294967500, BitVec.ofNat 32 4294968000] }
      4294967000 [4294967500, 4294968000] :=
  (press_decoded_iff _ _ _ _ ⟨rfl, rfl, by simp⟩).mpr (.inl rfl)

/-- The button goes down between the two reads, and the press is lost. -/
theorem late_press_lost :
    ¬ ∀ (s : State) (e : Entrada) (inicio : Nat) (chequeos : List Nat), Alcanzable s →
      Pulsacion e inicio chequeos → Decodificada (alPulsar s e) e inicio chequeos := by
  intro decodes
  have decoded := decodes (setup (fun _ => 1) none) { reposo 0 0 with pulsos := [500] } 0 [500]
    (.init ⟨_, _, rfl⟩) ⟨rfl, rfl, by simp⟩
  have on := (decoded.vista (.inr (by simp))).1
  revert on
  decide

end Chimenea.Press
