import Chimenea.Off
import Chimenea.System

/-!
The device switched off, with no timer pending: what it takes to light it, whatever the
network does.
-/

namespace Chimenea.Standby
open Arduino WebSockets Sketch Ordenes Off Chimenea.System
open Page (Accion)

/-- The clicks that switch the burner on, a timer among them. -/
def enciende : Accion → Bool
  | .boton_bajo | .boton_alto => true
  | .temporizador texto => 0 < atol texto
  | _ => false

/-- The start button or the low key of the remote, in an execution of `loop()`. -/
def pide (e : Entrada) : Bool := e.botonEncendido == HIGH || e.contBaj == HIGH

section Orders

theorem any_cuando (c : Prop) [Decidable c] (orden : Orden) :
    (cuando c orden).any esEncendido = (decide c && esEncendido orden) := by
  unfold cuando
  split_ifs with here <;> simp [here]

theorem ordenesTexto_enciende (doc_rx : DocRx) : (ordenesTexto doc_rx).any esEncendido =
    (decide (0 < toInt (string doc_rx.setTemporizador)) ||
      decide (string doc_rx.estado = "on") || decide (string doc_rx.estado = "alto")) := by
  have timer : (decide (toInt (string doc_rx.setTemporizador) ≠ 0) &&
      decide (0 < toInt (string doc_rx.setTemporizador))) =
        decide (0 < toInt (string doc_rx.setTemporizador)) := by
    rw [Bool.eq_iff_iff]
    simp only [Bool.and_eq_true, decide_eq_true_eq]
    omega
  simp only [ordenesTexto, List.any_append, any_cuando, List.any_cons, List.any_nil, esEncendido,
    timer, Bool.and_true, Bool.and_false, Bool.or_false, Bool.false_or]

/-- A click switches on when one of the orders of its message does. -/
theorem enciende_eq (accion : Accion) :
    (ordenesTexto accion.docRx).any esEncendido = enciende accion := by
  rw [ordenesTexto_enciende]
  cases accion with
  | temporizador texto =>
    have named : string none ≠ "on" ∧ string none ≠ "alto" := by decide
    rw [Accion.docRx, Page.toInt_recibido, decide_eq_false named.1, decide_eq_false named.2,
      Bool.or_false, Bool.or_false]
    rfl
  | boton_ajuste_llama texto => rfl
  | boton_ajuste_temp texto => rfl
  | _ => decide

theorem ordenesBotones_pide (e : Entrada) : (ordenesBotones e).any esEncendido = pide e := by
  have held : (e.pulsos.map (Orden.sostener e.tiempo.toInt)).any esEncendido = false := by
    rw [List.any_map, List.any_eq_false]
    exact fun _ _ => Bool.false_ne_true
  simp only [ordenesBotones, List.any_append, any_cuando, held, esEncendido, pide]
  simp

end Orders

theorem efecto_reposo {s : State} (rest : EnReposo s) {accion : Accion}
    (quiet : enciende accion = false) : EnReposo (accion.efecto s) := by
  rw [← Page.recibirTexto_accion, recibirTexto_eq]
  rw [← enciende_eq, List.any_eq_false] at quiet
  exact obedecer_reposo rest _ fun orden member => Bool.eq_false_iff.2 (quiet orden member)

/-- What an execution of `loop()` may find without lighting the burner. -/
structure Callado (input : List (Slot × Accion) × Entrada) : Prop where
  clics : ∀ c ∈ input.1, enciende c.2 = false
  botones : pide input.2 = false

theorem loopClics_callado {s : State} {input : List (Slot × Accion) × Entrada}
    (rest : EnReposo s) (callado : Callado input) :
    Apagada (loopClics s input) ∧ EnReposo (loopClics s input) := by
  have clicked : EnReposo ((input.1.map Prod.snd).foldl Accion.efecto s) := by
    refine Reactive.run_invariant_of_inputs EnReposo (fun accion => enciende accion = false)
      (fun _ _ quiet rest => efecto_reposo rest quiet) rest _ ?_
    intro accion member
    obtain ⟨c, here, rfl⟩ := List.mem_map.1 member
    exact callado.clics c here
  apply loop_quiet clicked
  intro orden member
  have buttons := ordenesBotones_pide { input.2 with eventos := [] }
  rw [show pide { input.2 with eventos := [] } = false from callado.botones,
    List.any_eq_false] at buttons
  rw [ordenes, List.flatMap_nil, List.nil_append, List.singleton_append] at member
  rcases List.mem_cons.1 member with rfl | pressed
  · rfl
  · exact Bool.eq_false_iff.2 (buttons orden pressed)

section Run

variable {json : DocTx → Bytes} {acceptKey : Bytes → Bytes}

/-- From any reached state in which everything is off and no timer is pending, the device
does not light by itself: if anything is on later, the start button or the low key of the
remote was pressed meanwhile, or the callback was called for a click that switches on, and
a page has sent that click. -/
theorem lit_on_request {flash : Fin EEPROM_SIZE → BitVec 8} {wifi : Option (BitVec 32)}
    {vs vs' : List Vuelta} {d d' : Dispositivo} {told told' : List (List CbEvent)}
    (atento : ∀ v ∈ vs ++ vs', Atento v.looks)
    (run : vueltas json acceptKey (arranque flash wifi) vs = some (d, told))
    (off : Apagada d.state) (timer : SinTemporizador d.state)
    (run' : vueltas json acceptKey d vs' = some (d', told'))
    (lit : ¬ Apagada d'.state) :
    (∃ v ∈ vs', pide v.entrada = true) ∨
      ∃ c : Slot × Accion, enciende c.2 = true ∧ llamada c ∈ told'.flatten ∧
        ∃ v ∈ vs ++ vs', ∃ sent ∈ v.connections, c.2 ∈ clics sent := by
  have before : Girado (Sketch.setup flash wifi) vs told d :=
    girado_later (fun v member => atento v (List.mem_append_left _ member))
      (girado_arranque flash wifi) run
  have after := girado_later (fun v member => atento v (List.mem_append_right _ member)) before run'
  by_contra unasked
  rw [not_or] at unasked
  obtain ⟨unpressed, unclicked⟩ := unasked
  -- with nothing asked for, every execution of the new ones leaves everything off
  have callado : ∀ input ∈ (told'.map (List.filterMap clic)).zip (vs'.map Vuelta.entrada),
      Callado input := by
    intro input member
    obtain ⟨clicked, found⟩ := List.of_mem_zip (a := input.1) (b := input.2) member
    constructor
    · intro c here
      obtain ⟨eventos, theirs, same⟩ := List.mem_map.1 clicked
      rw [← same] at here
      obtain ⟨e, called, read⟩ := List.mem_filterMap.1 here
      rw [← clic_eq_some.1 read] at called
      have flat : llamada c ∈ told'.flatten := List.mem_flatten.2 ⟨eventos, theirs, called⟩
      have whole : llamada c ∈ (told ++ told').flatten := by
        rw [List.flatten_append]
        exact List.mem_append_right _ flat
      exact Bool.eq_false_iff.2 fun asked => unclicked ⟨c, asked, flat, after.sent whole⟩
    · obtain ⟨v, here, same⟩ := List.mem_map.1 found
      rw [← same]
      exact Bool.eq_false_iff.2 fun asked => unpressed ⟨v, here, asked⟩
  apply lit
  rw [before.state_later after]
  exact (Reactive.run_invariant_of_inputs (fun s => Apagada s ∧ EnReposo s) Callado
    (fun _ _ callado rest => loopClics_callado rest.2 callado)
    ⟨off, off.encendida, off.chispa, timer⟩ _ callado).1

def pulsadoUna : Dispositivo :=
  ((vueltas (fun _ => ascii "{}") respuesta (arranque (fun _ => 0) none) pulsado).get
    pulsado_returns).1

theorem lit_on_request_pulsado :
    (∃ v ∈ pulsado, pide v.entrada = true) ∨
      ∃ c : Slot × Accion, enciende c.2 = true ∧
        llamada c ∈ ((vueltas (fun _ => ascii "{}") respuesta (arranque (fun _ => 0) none)
          pulsado).get pulsado_returns).2.flatten ∧
        ∃ v ∈ [] ++ pulsado, ∃ sent ∈ v.connections, c.2 ∈ clics sent := by
  have off : Apagada (arranque (fun _ => 0) none).state := by
    constructor <;> decide
  have lit : ¬ Apagada pulsadoUna.state := by
    intro off
    have burning : pulsadoUna.state.encendida = true := by decide +kernel
    exact absurd off.encendida (by rw [burning]; decide)
  have started : vueltas (fun _ => ascii "{}") respuesta (arranque (fun _ => 0) none) [] =
      some (arranque (fun _ => 0) none, []) := rfl
  have run : vueltas (fun _ => ascii "{}") respuesta (arranque (fun _ => 0) none) pulsado =
      some (pulsadoUna, _) := run_of_returns pulsado_returns
  exact lit_on_request pulsado_atento started off (.inl (by decide)) run lit

end Run

end Chimenea.Standby
