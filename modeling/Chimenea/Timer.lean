import Chimenea.Boundary

/-!
The two variables of the shutdown timer. `minutos` is written by messages, by the
three off requests and by the tick, `contadorMinuto` by the tick and by the off
message, which leaves the one value the tick cannot count down from.
-/

namespace Chimenea.Timer
open Arduino Sketch Phases Ordenes Boundary

def minutosTras (minutos : Int) : Orden → Int
  | .temporizador ajuste => ajuste
  | .off | .botonApagado | .contAp => 0
  | _ => minutos

def contadorTras (contador : BitVec 32) : Orden → BitVec 32
  | .off => 0
  | _ => contador

section Orders

attribute [local simp] ejecutar estadoOn estadoAlto estadoOff leerSensor pulsarEncendido apagar
  remotoBajo remotoAlto digitalWrite sostener_eq

theorem ejecutar_minutos (s : State) (orden : Orden) :
    (ejecutar s orden).minutos = minutosTras s.minutos orden := by
  cases orden <;> simp [minutosTras]

theorem ejecutar_contadorMinuto (s : State) (orden : Orden) :
    (ejecutar s orden).contadorMinuto = contadorTras s.contadorMinuto orden := by
  cases orden <;> simp [contadorTras]

end Orders

theorem obedecer_minutos (s : State) (lista : List Orden) :
    (obedecer s lista).minutos = lista.foldl minutosTras s.minutos :=
  (List.foldl_hom State.minutos fun t orden => (ejecutar_minutos t orden).symm).symm

theorem obedecer_contadorMinuto (s : State) (lista : List Orden) :
    (obedecer s lista).contadorMinuto = lista.foldl contadorTras s.contadorMinuto :=
  (List.foldl_hom State.contadorMinuto fun t orden => (ejecutar_contadorMinuto t orden).symm).symm

theorem contadorTras_kept (contador : BitVec 32) (lista : List Orden) (kept : Orden.off ∉ lista) :
    lista.foldl contadorTras contador = contador := by
  induction lista with
  | nil => rfl
  | cons orden rest ih =>
    rw [List.mem_cons, not_or] at kept
    have same : contadorTras contador orden = contador := by
      cases orden <;> first | rfl | exact absurd rfl kept.1
    rw [List.foldl_cons, same]
    exact ih kept.2

theorem contadorTras_zero (lista : List Orden) : lista.foldl contadorTras 0 = 0 := by
  induction lista with
  | nil => rfl
  | cons orden rest ih =>
    have same : contadorTras 0 orden = 0 := by cases orden <;> rfl
    rw [List.foldl_cons, same, ih]

theorem contadorTras_off (contador : BitVec 32) (lista : List Orden) (off : Orden.off ∈ lista) :
    lista.foldl contadorTras contador = 0 := by
  obtain ⟨front, back, rfl⟩ := List.append_of_mem off
  rw [List.foldl_append, List.foldl_cons]
  exact contadorTras_zero back

theorem recibirTexto_minutos (s : State) (doc_rx : DocRx) :
    (recibirTexto s doc_rx).minutos =
      if string doc_rx.estado = "off" then 0
      else if toInt (string doc_rx.setTemporizador) = 0 then s.minutos
      else toInt (string doc_rx.setTemporizador) := by
  rw [recibirTexto_eq, obedecer_minutos]
  simp only [ordenesTexto, List.foldl_append, List.foldl_cons, List.foldl_nil, foldl_cuando]
  simp [minutosTras]

theorem recibirTexto_contadorMinuto (s : State) (doc_rx : DocRx) :
    (recibirTexto s doc_rx).contadorMinuto =
      if string doc_rx.estado = "off" then 0 else s.contadorMinuto := by
  rw [recibirTexto_eq, obedecer_contadorMinuto]
  simp only [ordenesTexto, List.foldl_append, List.foldl_cons, List.foldl_nil, foldl_cuando]
  simp [contadorTras]

/-- Whether the minutes end up negative depends on the sign they start with only. -/
theorem minutosTras_nonneg (a b : Int) (sign : 0 ≤ a ↔ 0 ≤ b) (lista : List Orden) :
    0 ≤ lista.foldl minutosTras a ↔ 0 ≤ lista.foldl minutosTras b := by
  induction lista generalizing a b with
  | nil => exact sign
  | cons orden rest ih =>
    apply ih
    cases orden <;> first | exact sign | exact Iff.rfl

structure Representacion (s : State) : Prop where
  minutos : 0 ≤ s.minutos
  segundos : 1 ≤ s.contadorMinuto.toNat ∧ s.contadorMinuto.toNat ≤ 60

/-- The tick does not decrement a `contadorMinuto` of zero. -/
def SinVuelta (s : State) (e : Entrada) : Prop :=
  cuenta s e = true → 0 < (mandos s e).minutos → (mandos s e).contadorMinuto ≠ 0

/-- No off message, and the last timer or off request leaves no negative minutes. -/
def TemporizadorValido (e : Entrada) : Prop :=
  Orden.off ∉ ordenes e ∧ 0 ≤ (ordenes e).foldl minutosTras 0

theorem mandos_minutos (s : State) (e : Entrada) :
    (mandos s e).minutos = (ordenes e).foldl minutosTras s.minutos := by
  rw [mandos_eq, obedecer_minutos]

theorem mandos_contadorMinuto (s : State) (e : Entrada) :
    (mandos s e).contadorMinuto = (ordenes e).foldl contadorTras s.contadorMinuto := by
  rw [mandos_eq, obedecer_contadorMinuto]

theorem loop_minutos_nonneg (s : State) (e : Entrada) :
    0 ≤ (loop s e).minutos ↔ 0 ≤ (mandos s e).minutos := by
  rw [loop_minutos]
  split_ifs with borrow
  · omega
  · exact Iff.rfl

theorem loop_segundos (s : State) (e : Entrada) (low : 1 ≤ (mandos s e).contadorMinuto.toNat)
    (high : (mandos s e).contadorMinuto.toNat ≤ 60) :
    1 ≤ (loop s e).contadorMinuto.toNat ∧ (loop s e).contadorMinuto.toNat ≤ 60 := by
  rw [loop_contadorMinuto]
  split_ifs with counted borrow
  · decide
  · have more : (mandos s e).contadorMinuto.toNat ≠ 1 := fun one => borrow (by bv_omega)
    bv_omega
  · exact ⟨low, high⟩

theorem loop_segundos_zero (s : State) (e : Entrada) (zero : (mandos s e).contadorMinuto = 0) :
    ¬(1 ≤ (loop s e).contadorMinuto.toNat ∧ (loop s e).contadorMinuto.toNat ≤ 60) := by
  rw [loop_contadorMinuto, zero]
  split_ifs with _ borrow
  · exact absurd borrow (by decide)
  · decide
  · decide

theorem representacion_step (s : State) (e : Entrada) (before : Representacion s) :
    Representacion (loop s e) ↔ TemporizadorValido e := by
  have sign := minutosTras_nonneg s.minutos 0 (by simp [before.minutos]) (ordenes e)
  by_cases off : Orden.off ∈ ordenes e
  · have zero : (mandos s e).contadorMinuto = 0 := by
      rw [mandos_contadorMinuto, contadorTras_off _ _ off]
    constructor
    · intro after
      exact absurd after.segundos (loop_segundos_zero s e zero)
    · intro valid
      exact absurd off valid.1
  · have kept : (mandos s e).contadorMinuto = s.contadorMinuto := by
      rw [mandos_contadorMinuto, contadorTras_kept _ _ off]
    have seconds := loop_segundos s e (by rw [kept]; exact before.segundos.1)
      (by rw [kept]; exact before.segundos.2)
    constructor
    · intro after
      refine ⟨off, sign.mp ?_⟩
      rw [← mandos_minutos, ← loop_minutos_nonneg]
      exact after.minutos
    · intro valid
      refine ⟨?_, seconds⟩
      rw [loop_minutos_nonneg, mandos_minutos]
      exact sign.mpr valid.2

theorem representacion_setup (flash : Fin EEPROM_SIZE → BitVec 8) (wifi : Option (BitVec 32)) :
    Representacion (setup flash wifi) := by
  cases wifi <;> constructor <;> simp [setup, globals, digitalWrite]

theorem sinVuelta_of_valid {s : State} (before : Representacion s) (entradas : List Entrada)
    (valid : ∀ e ∈ entradas, TemporizadorValido e) :
    Reactive.Steps loop SinVuelta s entradas := by
  induction entradas generalizing s with
  | nil => trivial
  | cons e rest ih =>
    have first := valid e (by simp)
    refine ⟨?_, ih ((representacion_step s e before).mpr first) fun f member =>
      valid f (by simp [member])⟩
    intro _ _ zero
    have kept : (mandos s e).contadorMinuto = s.contadorMinuto := by
      rw [mandos_contadorMinuto, contadorTras_kept _ _ first.1]
    have low := before.segundos.1
    rw [← kept, zero] at low
    simp at low

/-- The timer variables keep their representation along a run, and no decrement of
the run wraps, exactly when its messages send no off and leave no negative timer. -/
theorem timer_representation_iff (flash : Fin EEPROM_SIZE → BitVec 8)
    (wifi : Option (BitVec 32)) (entradas : List Entrada) :
    (Reactive.Always loop Representacion (setup flash wifi) entradas ∧
      Reactive.Steps loop SinVuelta (setup flash wifi) entradas) ↔
      ∀ e ∈ entradas, TemporizadorValido e := by
  have start := representacion_setup flash wifi
  have steps := Reactive.always_iff_steps (fun _ => True) Representacion
    (fun _ e => TemporizadorValido e) (fun _ _ _ => trivial)
    (fun s e _ before => representacion_step s e before) trivial start entradas
  rw [Reactive.steps_input_iff] at steps
  constructor
  · exact fun both => steps.mp both.1
  · exact fun valid => ⟨steps.mpr valid, sinVuelta_of_valid start entradas valid⟩

theorem off_message_zeroes_seconds :
    ¬ ∀ (flash : Fin EEPROM_SIZE → BitVec 8) (wifi : Option (BitVec 32))
      (entradas : List Entrada), Reactive.Always loop Representacion (setup flash wifi) entradas ∧
        Reactive.Steps loop SinVuelta (setup flash wifi) entradas := by
  intro always
  have last := ((always (fun _ => 0) none
    [{ reposo 0 0 with eventos := [mensaje { estado := some "off" }] }]).1 _
    List.prefix_rfl).segundos
  revert last
  decide

end Chimenea.Timer
