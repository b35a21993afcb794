import Chimenea.Boundary

/-!
A proven flame. It takes the burner out of the spark phase and ends the ignition
cycle, and nothing but a start command or a lost flame brings either back.
-/

namespace Chimenea.Flame
open Arduino Sketch Phases Ordenes

/-- The orders that set `blink`. -/
def enciendeChispa : Orden → Bool
  | .on | .botonEncendido | .contBaj => true
  | _ => false

def SinEncendido (e : Entrada) : Prop := ∀ orden ∈ ordenes e, enciendeChispa orden = false

def LlamaMantenida (s : State) (e : Entrada) : Prop := (loop s e).sensorVal1 ≤ (loop s e).lectura

/-- No spark phase, no ignition cycle, and a spark only where the burner is on. -/
structure Probada (s : State) : Prop where
  blink : s.blink = false
  ciclo : s.iniciarCicloEncendido = false
  chispa : s.chispa = true → s.encendida = true

theorem ejecutar_probada (s : State) (orden : Orden) (quiet : enciendeChispa orden = false)
    (before : Probada s) : Probada (ejecutar s orden) := by
  refine ⟨?_, ?_, ejecutar_chispa orden before.chispa⟩
  · have dark := before.blink
    cases orden <;> simp [enciendeChispa] at quiet <;>
      simp [ejecutar, estadoAlto, estadoOff, leerSensor, apagar, remotoAlto, sostener_eq,
        digitalWrite, dark]
  · have idle := before.ciclo
    exact Bool.eq_false_iff.mpr fun igniting => by
      simp [ejecutar_iniciarCicloEncendido orden igniting] at idle

theorem mandos_probada (s : State) (e : Entrada) (quiet : SinEncendido e) (before : Probada s) :
    Probada (mandos s e) :=
  mandos_invariant_of_orders Probada (fun orden => enciendeChispa orden = false)
    ejecutar_probada before quiet

section Step

variable {s : State} {e : Entrada}

/-- A reading above the threshold leaves neither spark phase nor ignition cycle, over a
burner that is on as over one that its timer has just switched on. -/
theorem probada_of_flame (above : (loop s e).sensorVal1 < (loop s e).lectura)
    (stays : (loop s e).encendida = true) : Probada (loop s e) := by
  simp only [loop_sensorVal1, loop_lectura] at above
  refine ⟨?_, ?_, fun _ => stays⟩
  · simp [loop_blink, above.not_ge, above.not_gt, above.ne']
  · simp [loop_iniciarCicloEncendido, above.not_gt, above.ne']

theorem probada_loop (before : Probada s) (quiet : SinEncendido e) (lit : LlamaMantenida s e) :
    Probada (loop s e) ∧ (loop s e).chispa = false := by
  obtain ⟨dark, idle, spark⟩ := mandos_probada s e quiet before
  simp only [LlamaMantenida, loop_sensorVal1, loop_lectura] at lit
  have off : (loop s e).chispa = false := by
    rw [State.chispa, loop_chispa, supervisar_chispa, dark]
    split_ifs with on
    · rfl
    · exact Bool.eq_false_iff.mpr fun lights => on (spark lights)
  refine ⟨⟨?_, ?_, ?_⟩, off⟩
  · simp [loop_blink, dark, idle, lit.not_gt]
  · simp [loop_iniciarCicloEncendido, idle, lit.not_gt]
  · intro lights
    exact absurd lights (Bool.eq_false_iff.mp off)

end Step

/-- Once a flame is proven the spark stays low, execution after execution, as long as
no start command comes and no reading falls below the threshold. -/
theorem flame_keeps_spark_off (s : State) (e : Entrada)
    (above : (loop s e).sensorVal1 < (loop s e).lectura) (stays : (loop s e).encendida = true)
    (entradas : List Entrada) (last : Entrada) (quiet : ∀ f ∈ entradas ++ [last], SinEncendido f)
    (lit : Reactive.Steps loop LlamaMantenida (loop s e) (entradas ++ [last])) :
    (Reactive.run loop (loop s e) (entradas ++ [last])).chispa = false := by
  rw [Reactive.steps_append] at lit
  have calm : Reactive.Steps loop (fun _ f => SinEncendido f) (loop s e) entradas :=
    (Reactive.steps_input_iff SinEncendido _ _).mpr fun f member => quiet f (by simp [member])
  have before := Reactive.run_of_steps Probada _
    (fun t f probada met => (probada_loop probada met.1 met.2).1) (probada_of_flame above stays)
    entradas ((Reactive.steps_and _ _ _ _).mpr ⟨calm, lit.1⟩)
  rw [Reactive.run_concat]
  exact (probada_loop before (quiet last (by simp)) lit.2.1).2

theorem flame_keeps_spark_off_high :
    (Reactive.run loop (loop (setup (fun _ => 1) none)
        { reposo 4095 0 with eventos := [mensaje { estado := some "on" }] })
      [{ reposo 13 1000 with eventos := [mensaje { estado := some "alto" }] }]).chispa = false := by
  refine flame_keeps_spark_off _ _ ?_ ?_ [] _ ?_ ⟨?_, trivial⟩
  · decide
  · decide
  · unfold SinEncendido
    decide
  · unfold LlamaMantenida
    decide

end Chimenea.Flame
