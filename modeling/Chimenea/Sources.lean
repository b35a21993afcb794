import Chimenea.Core
import Chimenea.Countdown

/-!
One command, three sources. A message, a panel button and a remote input are obeyed
at different points of the execution and write different variables; what remains of
the difference at its end is what the core of the state says.
-/

namespace Chimenea.Sources
open Arduino Sketch Phases Ordenes Chimenea.Core Countdown

def esMandato : Orden → Bool
  | .anotar .. | .leer _ => false
  | _ => true

/-- Nothing is commanded: the messages only leave their scratch values. -/
def Callada (e : Entrada) : Prop := ∀ orden ∈ ordenes e, esMandato orden = false

def conBotonEncendido (e : Entrada) (tiempo : BitVec 32) (pulsos : List (BitVec 32)) : Entrada :=
  { e with botonEncendido := HIGH, tiempo := tiempo, pulsos := pulsos }

def conContBaj (e : Entrada) : Entrada := { e with contBaj := HIGH }

def conBotonApagado (e : Entrada) : Entrada := { e with botonApagado := HIGH }

def conContAp (e : Entrada) : Entrada := { e with contAp := HIGH }

def niveles (s : State) : Bool × Bool × Bool := (s.gasBajo, s.gasAlto, s.chispa)

theorem same_levels {s t : State} (same : nucleo s = nucleo t) :
    Reactive.Indistinguishable loop niveles s t := by
  apply loop_respects.indistinguishable niveles _ same
  intro u v agree
  simp only [nucleo, Nucleo.mk.injEq] at agree
  simp only [niveles, agree]

theorem quieta_callada {e : Entrada} (quiet : Quieta e) : Callada e := by
  intro orden member
  rw [quiet.ordenes, List.mem_singleton] at member
  rw [member]
  rfl

theorem obedecer_callada (s : State) (lista : List Orden)
    (silent : ∀ orden ∈ lista, esMandato orden = false) :
    nucleo (obedecer s lista) = nucleo s := by
  apply Reactive.run_invariant_of_inputs (fun t : State => nucleo t = nucleo s)
    (fun orden => esMandato orden = false) _ rfl lista silent
  intro t orden quiet same
  cases orden <;> simp [esMandato] at quiet <;> exact same

section Delivery

variable (s : State) {e : Entrada}

theorem Callada.eventos (silent : Callada e) :
    ∀ orden ∈ e.eventos.flatMap ordenesEvento, esMandato orden = false := by
  intro orden member
  exact silent orden (by simp [ordenes, member])

theorem Callada.botones (silent : Callada e) : ordenesBotones e = [] := by
  rw [List.eq_nil_iff_forall_not_mem]
  intro orden member
  have quiet := silent orden (by simp [ordenes, member])
  simp only [ordenesBotones, cuando, List.mem_append, List.mem_map] at member
  cases orden <;> simp_all [esMandato]

theorem Callada.niveles (silent : Callada e) : e.botonEncendido = LOW ∧ e.pulsos = [] ∧
    e.botonApagado = LOW ∧ e.contBaj = LOW ∧ e.contAlt = LOW ∧ e.contAp = LOW := by
  have none := silent.botones
  simpa [ordenesBotones, cuando, and_assoc] using none

theorem mandos_conMensaje (silent : Callada e) (n : Nat) (num : BitVec 8) (doc_rx : DocRx) :
    nucleo (mandos s (conMensaje e n num doc_rx)) = nucleo (recibirTexto s doc_rx) := by
  have orders := ordenes_conMensaje e n num doc_rx
  rw [silent.botones, List.append_nil] at orders
  have front : ∀ orden ∈ (e.eventos.take n).flatMap ordenesEvento, esMandato orden = false := by
    intro orden member
    obtain ⟨evento, first, obeyed⟩ := List.mem_flatMap.mp member
    exact silent.eventos orden (List.mem_flatMap.mpr ⟨evento, List.mem_of_mem_take first, obeyed⟩)
  have back : ∀ orden ∈ (e.eventos.drop n).flatMap ordenesEvento ++
      [.leer (conMensaje e n num doc_rx)], esMandato orden = false := by
    intro orden member
    rw [List.mem_append, List.mem_singleton] at member
    rcases member with event | rfl
    · obtain ⟨evento, last, obeyed⟩ := List.mem_flatMap.mp event
      exact silent.eventos orden (List.mem_flatMap.mpr ⟨evento, List.mem_of_mem_drop last, obeyed⟩)
    · rfl
  let before := obedecer s ((e.eventos.take n).flatMap ordenesEvento)
  calc
    _ = nucleo (obedecer (recibirTexto before doc_rx) ((e.eventos.drop n).flatMap ordenesEvento ++
        [.leer (conMensaje e n num doc_rx)])) := by
      rw [mandos_eq, orders, obedecer, Reactive.run_append, Reactive.run_append, recibirTexto_eq]
    _ = nucleo (recibirTexto before doc_rx) := obedecer_callada _ _ back
    _ = nucleo (recibirTexto s doc_rx) := by
      rw [recibirTexto_eq, recibirTexto_eq]
      exact ejecutar_nucleo.run (obedecer_callada s _ front) _

theorem mandos_botones (silent : Callada e) (f : Entrada) (same : f.eventos = e.eventos) :
    nucleo (mandos s f) = nucleo (obedecer s (ordenesBotones f)) := by
  rw [mandos_eq, ordenes, obedecer, Reactive.run_append, same]
  apply ejecutar_nucleo.run
  apply obedecer_callada
  intro orden member
  rw [List.mem_append, List.mem_singleton] at member
  rcases member with event | rfl
  · exact silent.eventos orden event
  · rfl

theorem mandos_boton (silent : Callada e) (f : Entrada) (same : f.eventos = e.eventos)
    (orden : Orden) (only : ordenesBotones f = [orden]) :
    nucleo (mandos s f) = nucleo (ejecutar s orden) := by
  rw [mandos_botones s silent f same, only, obedecer, Reactive.run_cons, Reactive.run_nil]

end Delivery

section On

theorem on_concuerdan (s : State) : Concuerdan (nucleo (estadoOn s)) (nucleo (remotoBajo s)) ∧
    Concuerdan (nucleo (pulsarEncendido s)) (nucleo (remotoBajo s)) := by
  constructor <;> constructor <;> simp [nucleo, estadoOn, pulsarEncendido, remotoBajo, digitalWrite]

variable (s : State) (e : Entrada) (silent : Callada e)

include silent

theorem mandos_on_message (n : Nat) (num : BitVec 8) :
    nucleo (mandos s (conMensaje e n num { estado := some "on" })) = nucleo (estadoOn s) := by
  rw [mandos_conMensaje s silent]
  rfl

theorem mandos_on_contBaj : nucleo (mandos s (conContBaj e)) = nucleo (remotoBajo s) := by
  obtain ⟨start, held, stop, _, high, off⟩ := silent.niveles
  apply mandos_boton s silent (conContBaj e) rfl .contBaj
  simp [ordenesBotones, cuando, conContBaj, start, held, stop, high, off]

/-- A short press: no poll of the hold loop finds it long. -/
theorem mandos_on_button (tiempo : BitVec 32) (pulsos : List (BitVec 32))
    (short : ∀ millis ∈ pulsos, pulsacionLarga tiempo.toInt millis = false) :
    nucleo (mandos s (conBotonEncendido e tiempo pulsos)) = nucleo (pulsarEncendido s) := by
  obtain ⟨_, _, stop, low, high, off⟩ := silent.niveles
  have only : ordenesBotones (conBotonEncendido e tiempo pulsos) =
      .botonEncendido :: pulsos.map (.sostener tiempo.toInt) := by
    simp [ordenesBotones, cuando, conBotonEncendido, stop, low, high, off]
  rw [mandos_botones s silent (conBotonEncendido e tiempo pulsos) rfl, only, obedecer,
    Reactive.run_cons]
  apply Reactive.run_invariant_of_inputs (fun t : State => nucleo t = nucleo (pulsarEncendido s))
    (fun orden => orden ∈ pulsos.map (.sostener tiempo.toInt)) _ rfl _ (fun _ member => member)
  intro t orden member same
  obtain ⟨millis, polled, rfl⟩ := List.mem_map.mp member
  rw [ejecutar, sostener, if_neg (by simp [short millis polled]), same]

/-- An ON message, a short press of the start button and the remote's low button end
the execution in the same core, so that nothing later tells them apart. -/
theorem on_sources_agree (n : Nat) (num : BitVec 8) (tiempo : BitVec 32)
    (pulsos : List (BitVec 32))
    (short : ∀ millis ∈ pulsos, pulsacionLarga tiempo.toInt millis = false) :
    let web := loop s (conMensaje e n num { estado := some "on" })
    let panel := loop s (conBotonEncendido e tiempo pulsos)
    let remoto := loop s (conContBaj e)
    (nucleo web = nucleo remoto ∧ nucleo panel = nucleo remoto) ∧
      Reactive.Indistinguishable loop niveles web remoto ∧
      Reactive.Indistinguishable loop niveles panel remoto := by
  intro web panel remoto
  obtain ⟨message, button⟩ := on_concuerdan s
  rw [← mandos_on_message s e silent n num, ← mandos_on_contBaj s e silent] at message
  rw [← mandos_on_button s e silent tiempo pulsos short, ← mandos_on_contBaj s e silent] at button
  have webCore : nucleo web = nucleo remoto := loop_nucleo message rfl rfl
  have panelCore : nucleo panel = nucleo remoto := loop_nucleo button rfl rfl
  exact ⟨⟨webCore, panelCore⟩, same_levels webCore, same_levels panelCore⟩

end On

theorem on_sources_agree_half_second :
    let s := setup (fun _ => 1) none
    let web := loop s (conMensaje (reposo 0 0) 0 0 { estado := some "on" })
    let panel := loop s (conBotonEncendido (reposo 0 0) 0 [250, 500])
    let remoto := loop s (conContBaj (reposo 0 0))
    (nucleo web = nucleo remoto ∧ nucleo panel = nucleo remoto) ∧
      Reactive.Indistinguishable loop niveles web remoto ∧
      Reactive.Indistinguishable loop niveles panel remoto :=
  on_sources_agree _ _ (quieta_callada (reposo_quieta 0 0)) 0 0 0 [250, 500]
    (by simp [pulsacionLarga, tiempo_max])

section Off

theorem off_concuerdan {s : State} (empty : s.contadorMinuto = 0) :
    Concuerdan (nucleo (estadoOff s)) (nucleo (apagar s)) := by
  constructor <;> simp [nucleo, estadoOff, apagar, digitalWrite, empty]

variable (s : State) (e : Entrada) (silent : Callada e)

include silent

theorem mandos_off_message (n : Nat) (num : BitVec 8) :
    nucleo (mandos s (conMensaje e n num { estado := some "off" })) = nucleo (estadoOff s) := by
  rw [mandos_conMensaje s silent]
  rfl

theorem mandos_off_button : nucleo (mandos s (conBotonApagado e)) = nucleo (apagar s) := by
  obtain ⟨start, held, _, low, high, off⟩ := silent.niveles
  apply mandos_boton s silent (conBotonApagado e) rfl .botonApagado
  simp [ordenesBotones, cuando, conBotonApagado, start, held, low, high, off]

theorem mandos_off_contAp : nucleo (mandos s (conContAp e)) = nucleo (apagar s) := by
  obtain ⟨start, held, stop, low, high, _⟩ := silent.niveles
  apply mandos_boton s silent (conContAp e) rfl .contAp
  simp [ordenesBotones, cuando, conContAp, start, held, stop, low, high]

end Off

/-- A timer of one minute that runs over a proven flame: `k` of the `n` ticks it has
to run are over, the first of them a second after `p`. -/
structure EnMarcha (p : BitVec 32) (n k : Nat) (s : State) : Prop where
  reloj : s.previousMillis = p + BitVec.ofNat 32 (1000 * k)
  encendida : s.encendida = true
  intentos : s.intentos = 0
  restante : restante s + k = n

def marcha (p : BitVec 32) (k : Nat) : Entrada := reposo 4095 (p + BitVec.ofNat 32 (1000 * (k + 1)))

theorem marcha_tick {p : BitVec 32} {n k : Nat} {s : State} (before : EnMarcha p n k s) :
    esTick s (marcha p k) = true ∧ cuenta s (marcha p k) = true ∧
      (mandos s (marcha p k)).encendida = true ∧ (loop s (marcha p k)).intentos = 0 ∧
      apaga s (marcha p k) = decide (k + 1 = n) := by
  obtain ⟨clock, on, tries, left⟩ := before
  have quiet : Quieta (marcha p k) := reposo_quieta _ _
  have lit := mandos_lit s (marcha p k) rfl
  have due : esTick s (marcha p k) = true := by
    apply esTick_later
    rw [clock]
    show p + BitVec.ofNat 32 (1000 * (k + 1)) = _
    bv_omega
  have ran : cuenta s (marcha p k) = true := (cuenta_lit s _ lit).trans due
  have burner : (mandos s (marcha p k)).encendida = true := (quieta_encendida quiet).trans on
  have count : cuentaIntentos (supervisar s (marcha p k)) = 0 := by
    have kept : (mandos s (marcha p k)).intentos = 0 := (quieta_intentos quiet).trans tries
    simp [cuentaIntentos, burner, kept, lit.not_gt, lit.ne']
  have free : bloquea (supervisar s (marcha p k)) = false := by simp [bloquea, count]
  have ends : vence (mandos s (marcha p k)) = decide (k + 1 = n) := by
    have same : restante (mandos s (marcha p k)) = restante s := by
      rw [restante, quieta_minutos quiet, quieta_contadorMinuto quiet, restante]
    rw [Bool.eq_iff_iff, vence_iff, same, decide_eq_true_iff]
    omega
  refine ⟨due, ran, burner, ?_, by rw [apaga, ran, ends, free, Bool.or_false, Bool.true_and]⟩
  simp [loop_intentos, ran, free, count]

theorem marcha_step {p : BitVec 32} {n k : Nat} {s : State} (before : EnMarcha p n k s)
    (more : k + 1 < n) :
    EnMarcha p n (k + 1) (loop s (marcha p k)) ∧ (loop s (marcha p k)).gasBajo = true := by
  obtain ⟨due, ran, burner, tries, ends⟩ := marcha_tick before
  have quiet : Quieta (marcha p k) := reposo_quieta _ _
  have goesOn : apaga s (marcha p k) = false := by simp [ends, more.ne]
  refine ⟨⟨?_, ?_, tries, ?_⟩, ?_⟩
  · rw [loop_previousMillis, if_pos due]
    rfl
  · simp [loop_encendida, burner, goesOn]
  · rw [restante_loop s _ (quieta_conserva quiet), if_pos ran]
    have left := before.restante
    omega
  · simp [loop_gasBajo, burner, goesOn]

theorem marcha_last {p : BitVec 32} {k : Nat} {s : State} (before : EnMarcha p (k + 1) k s) :
    (loop s (marcha p k)).gasBajo = false := by
  obtain ⟨_, _, _, _, ends⟩ := marcha_tick before
  simp [loop_gasBajo, ends]

def arranque (p : BitVec 32) : Entrada := { reposo 4095 p with
  eventos := [mensaje { estado := some "on", setTemporizador := some "1" }] }

theorem arranque_loop {s : State} (tries : s.intentos = 0) :
    EnMarcha s.previousMillis (segundos s.contadorMinuto) 0
      (loop s (arranque s.previousMillis)) := by
  have orders : mandos s (arranque s.previousMillis) = obedecer s
      [.anotar 0 0 1, .temporizador 1, .on, .leer (arranque s.previousMillis)] := mandos_eq s _
  have burner : (mandos s (arranque s.previousMillis)).encendida = true := by rw [orders]; rfl
  have count : (mandos s (arranque s.previousMillis)).intentos = 0 := by rw [orders]; exact tries
  have minute : (mandos s (arranque s.previousMillis)).minutos = 1 := by rw [orders]; rfl
  have seconds : (mandos s (arranque s.previousMillis)).contadorMinuto = s.contadorMinuto := by
    rw [orders]; rfl
  have pause : esTick s (arranque s.previousMillis) = false := esTick_same rfl
  rw [loop_pause pause]
  constructor <;> simp [burner, count, restante, minute, seconds]

/-- The off message empties the seconds of the minute, the buttons do not: a timer set
later runs out at the button's count and goes on at the message's. -/
theorem seconds_told_apart {s t : State} (clock : s.previousMillis = t.previousMillis)
    (triesS : s.intentos = 0) (triesT : t.intentos = 0)
    (longer : segundos t.contadorMinuto < segundos s.contadorMinuto) :
    ¬ Reactive.Indistinguishable loop niveles s t := by
  intro same
  have some := segundos_pos t.contadorMinuto
  obtain ⟨k, count⟩ : ∃ k, segundos t.contadorMinuto = k + 1 := ⟨_, (Nat.sub_add_cancel some).symm⟩
  have shortRun := arranque_loop triesT
  have longRun := arranque_loop triesS
  rw [clock] at longRun
  rw [count] at shortRun longer
  have seen := same (arranque t.previousMillis ::
    ((List.range k).map (marcha t.previousMillis) ++ [marcha t.previousMillis k]))
  rw [Reactive.run_cons, Reactive.run_cons, Reactive.run_concat, Reactive.run_concat] at seen
  generalize t.previousMillis = p at shortRun longRun seen
  have shortEnd := Reactive.run_indexed (EnMarcha p (k + 1)) (marcha p) k
    (fun j u early before => (marcha_step before (by omega)).1) shortRun
  have longEnd := Reactive.run_indexed (EnMarcha p (segundos s.contadorMinuto)) (marcha p) k
    (fun j u early before => (marcha_step before (by omega)).1) longRun
  have closed := marcha_last shortEnd
  have opened := (marcha_step longEnd longer).2
  simp only [niveles, Prod.mk.injEq, closed, opened] at seen
  exact absurd seen.1 (by decide)

theorem off_loop {s : State} {e : Entrada} (off : (mandos s e).encendida = false)
    (idle : (mandos s e).minutos = 0) : (loop s e).intentos = 0 ∧
      (loop s e).contadorMinuto = (mandos s e).contadorMinuto ∧
      (loop s e).previousMillis = if esTick s e = true then e.now else s.previousMillis := by
  refine ⟨?_, ?_, by rw [loop_previousMillis, mandos_previousMillis]⟩
  · simp [loop_intentos, cuentaIntentos, bloquea, off]
  · simp [loop_contadorMinuto, idle]

theorem off_told_apart (s : State) (e : Entrada) (silent : Callada e) (n : Nat) (num : BitVec 8)
    (filled : s.contadorMinuto ≠ 0) :
    ¬ Reactive.Indistinguishable loop niveles
      (loop s (conMensaje e n num { estado := some "off" })) (loop s (conBotonApagado e)) := by
  have web := mandos_off_message s e silent n num
  have panel := mandos_off_button s e silent
  simp only [nucleo, Nucleo.mk.injEq] at web panel
  have webEnd := off_loop (s := s) (e := conMensaje e n num { estado := some "off" })
    (by simp [web, estadoOff, digitalWrite]) (by simp [web, estadoOff, digitalWrite])
  have panelEnd := off_loop (s := s) (e := conBotonApagado e)
    (by simp [panel, apagar, digitalWrite]) (by simp [panel, apagar, digitalWrite])
  have ticks : esTick s (conMensaje e n num { estado := some "off" }) =
      esTick s (conBotonApagado e) := by rw [esTick_eq, esTick_eq]; rfl
  apply seconds_told_apart
  · rw [webEnd.2.2, panelEnd.2.2, ticks]
    rfl
  · exact webEnd.1
  · exact panelEnd.1
  · rw [webEnd.2.1, panelEnd.2.1]
    simp only [web, panel, estadoOff, apagar, digitalWrite]
    rw [segundos, if_neg filled, segundos, if_pos rfl]
    exact s.contadorMinuto.isLt

/-- The three off sources lead to states that nothing later tells apart exactly when
the seconds of the current minute are already empty, as the off message leaves them. -/
theorem off_sources_agree_iff (s : State) (e : Entrada) (silent : Callada e) (n : Nat)
    (num : BitVec 8) :
    let web := loop s (conMensaje e n num { estado := some "off" })
    let panel := loop s (conBotonApagado e)
    let remoto := loop s (conContAp e)
    (Reactive.Indistinguishable loop niveles web panel ∧
      Reactive.Indistinguishable loop niveles web remoto ∧
      Reactive.Indistinguishable loop niveles panel remoto) ↔ s.contadorMinuto = 0 := by
  intro web panel remoto
  constructor
  · intro same
    by_contra filled
    exact off_told_apart s e silent n num filled same.1
  · intro empty
    have message := off_concuerdan empty
    rw [← mandos_off_message s e silent n num, ← mandos_off_contAp s e silent] at message
    have webCore : nucleo web = nucleo remoto := loop_nucleo message rfl rfl
    have buttons : nucleo (mandos s (conBotonApagado e)) = nucleo (mandos s (conContAp e)) :=
      calc
        _ = nucleo (apagar s) := mandos_off_button s e silent
        _ = nucleo (mandos s (conContAp e)) := (mandos_off_contAp s e silent).symm
    have panelCore : nucleo panel = nucleo remoto :=
      loop_nucleo (by rw [buttons]; exact .refl _) rfl rfl
    exact ⟨same_levels (webCore.trans panelCore.symm), same_levels webCore, same_levels panelCore⟩

/-- After an off message the three agree. -/
theorem off_sources_agree_apagada :
    let s := loop (setup (fun _ => 1) none)
      { reposo 0 0 with eventos := [mensaje { estado := some "off" }] }
    let web := loop s (conMensaje (reposo 0 0) 0 0 { estado := some "off" })
    let panel := loop s (conBotonApagado (reposo 0 0))
    let remoto := loop s (conContAp (reposo 0 0))
    Reactive.Indistinguishable loop niveles web panel ∧
      Reactive.Indistinguishable loop niveles web remoto ∧
      Reactive.Indistinguishable loop niveles panel remoto :=
  (off_sources_agree_iff _ _ (quieta_callada (reposo_quieta 0 0)) 0 0).mpr rfl

/-- At power-on the seconds are 60. -/
theorem off_message_told_apart :
    ¬ ∀ (s : State) (e : Entrada) (n : Nat) (num : BitVec 8), Alcanzable s → Callada e →
      Reactive.Indistinguishable loop niveles
          (loop s (conMensaje e n num { estado := some "off" })) (loop s (conBotonApagado e)) ∧
        Reactive.Indistinguishable loop niveles
          (loop s (conMensaje e n num { estado := some "off" })) (loop s (conContAp e)) ∧
        Reactive.Indistinguishable loop niveles
          (loop s (conBotonApagado e)) (loop s (conContAp e)) := by
  intro agree
  have silent := quieta_callada (reposo_quieta 0 0)
  have same := agree (setup (fun _ => 1) none) (reposo 0 0) 0 0 (.init ⟨_, _, rfl⟩) silent
  exact off_told_apart _ _ silent 0 0 (by decide) same.1

end Chimenea.Sources
