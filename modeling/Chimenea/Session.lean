import Chimenea.Web
import Chimenea.Text.Lines
import Mathlib.Data.List.Induction
import Mathlib.Data.Fin.VecNotation

/-!
What the inner loop of `web.ino` makes of the bytes of a client. Everything it leaves
behind is computed from the bytes that arrive before a check of the loop fails: the lines
above the first empty one command the state, and the empty line moves the pin and answers.
-/

namespace Chimenea.Web
open Arduino

/-- What a line commands. A line with both patterns switches on. -/
def orden (linea : Bytes) : Option Bool :=
  if indexOf linea (ascii "GET /encender") ≥ 0 then some true
  else if indexOf linea (ascii "GET /apagar") ≥ 0 then some false
  else none

def ultimaOrden (lineas : List Bytes) : Option Bool := (lineas.filterMap orden).getLast?

def sinRetornos (bytes : Bytes) : Bytes := bytes.filter (· ≠ carriageReturn)

/-- The ended lines of the bytes; carriage returns do not count. -/
def lineas (bytes : Bytes) : List Bytes := Text.complete newline (sinRetornos bytes)

def enCurso (bytes : Bytes) : Bytes := Text.pending newline (sinRetornos bytes)

/-- The empty line has arrived. -/
def completa (bytes : Bytes) : Bool := decide ([] ∈ lineas bytes)

/-- The ended lines above the empty one. -/
def cabecera (bytes : Bytes) : List Bytes := (lineas bytes).takeWhile (· ≠ [])

/-- The bytes that arrive before a check of the inner loop fails. -/
def llegan (inicio actual : BitVec 32) : List Pasada → Bytes
  | [] => []
  | p :: rest =>
    if sigue actual inicio p = true then
      match p.letra with
      | some letra => letra :: llegan inicio p.millis rest
      | none => llegan inicio actual rest
    else []

def Visita.bytes (v : Visita) : Bytes := llegan v.millis v.millis v.pasadas

section Lines

variable (bytes : Bytes)

theorem sinRetornos_newline : sinRetornos (bytes ++ [newline]) = sinRetornos bytes ++ [newline] := by
  rw [sinRetornos, List.filter_append]
  rfl

theorem sinRetornos_return : sinRetornos (bytes ++ [carriageReturn]) = sinRetornos bytes := by
  rw [sinRetornos, List.filter_append]
  exact List.append_nil _

theorem sinRetornos_letra {letra : BitVec 8} (other : letra ≠ carriageReturn) :
    sinRetornos (bytes ++ [letra]) = sinRetornos bytes ++ [letra] := by
  rw [sinRetornos, List.filter_append]
  simp [other, sinRetornos]

theorem lineas_newline : lineas (bytes ++ [newline]) = lineas bytes ++ [enCurso bytes] := by
  rw [lineas, sinRetornos_newline, Text.complete_concat_sep]
  rfl

theorem enCurso_newline : enCurso (bytes ++ [newline]) = [] := by
  rw [enCurso, sinRetornos_newline, Text.pending_concat_sep]

theorem lineas_letra {letra : BitVec 8} (inside : letra ≠ newline) :
    lineas (bytes ++ [letra]) = lineas bytes := by
  by_cases ret : letra = carriageReturn
  · rw [lineas, ret, sinRetornos_return]
    rfl
  · rw [lineas, sinRetornos_letra bytes ret, Text.complete_concat _ inside]
    rfl

theorem enCurso_letra {letra : BitVec 8} (inside : letra ≠ newline) :
    enCurso (bytes ++ [letra]) =
      if letra = carriageReturn then enCurso bytes else enCurso bytes ++ [letra] := by
  split_ifs with ret
  · rw [enCurso, ret, sinRetornos_return]
    rfl
  · rw [enCurso, sinRetornos_letra bytes ret, Text.pending_concat _ inside]
    rfl

theorem completa_iff : completa bytes = true ↔ [] ∈ lineas bytes := decide_eq_true_iff

theorem not_completa_iff : completa bytes = false ↔ ∀ linea ∈ lineas bytes, linea ≠ [] := by
  rw [completa, decide_eq_false_iff_not]
  constructor
  · intro missing linea member empty
    exact missing (empty ▸ member)
  · intro each member
    exact each [] member rfl

theorem cabecera_eq_lineas (opened : completa bytes = false) : cabecera bytes = lineas bytes :=
  List.takeWhile_eq_self_iff.mpr fun linea member =>
    decide_eq_true ((not_completa_iff bytes).mp opened linea member)

/-- One byte more ends at most one line more. -/
theorem lineas_concat (letra : BitVec 8) :
    lineas (bytes ++ [letra]) = lineas bytes ++ if letra = newline then [enCurso bytes] else [] := by
  split_ifs with ends
  · rw [ends, lineas_newline]
  · rw [lineas_letra bytes ends, List.append_nil]

/-- Once the empty line has arrived, later bytes change nothing. -/
theorem completa_append (closed : completa bytes = true) (more : Bytes) :
    completa (bytes ++ more) = true ∧ cabecera (bytes ++ more) = cabecera bytes := by
  induction more using List.reverseRecOn with
  | nil => exact ⟨by rw [List.append_nil, closed], by rw [List.append_nil]⟩
  | append_singleton more letra ih =>
    obtain ⟨still, same⟩ := ih
    rw [← List.append_assoc, ← same]
    have empty := (completa_iff _).mp still
    constructor
    · rw [completa_iff, lineas_concat]
      exact List.mem_append_left _ empty
    · rw [cabecera, lineas_concat, List.takeWhile_append, if_neg, cabecera]
      intro whole
      have all := List.takeWhile_eq_self_iff.mp ((List.takeWhile_prefix _).eq_of_length whole)
      exact absurd (all [] empty) (by simp)

theorem ultimaOrden_concat (front : List Bytes) (linea : Bytes) :
    ultimaOrden (front ++ [linea]) = (orden linea).or (ultimaOrden front) := by
  rw [ultimaOrden, List.filterMap_append]
  cases command : orden linea with
  | none => simp [command, ultimaOrden]
  | some estado => simp [command]

theorem newline_closes (opened : completa bytes = false) (empty : enCurso bytes = []) :
    completa (bytes ++ [newline]) = true ∧ cabecera (bytes ++ [newline]) = cabecera bytes := by
  have each := (not_completa_iff bytes).mp opened
  constructor
  · rw [completa_iff, lineas_newline, empty]
    exact List.mem_append_right _ List.mem_cons_self
  · rw [cabecera, lineas_newline, empty, cabecera_eq_lineas bytes opened,
      List.takeWhile_append_of_pos fun linea member => decide_eq_true (each linea member)]
    exact List.append_nil _

theorem newline_continues (opened : completa bytes = false) (some : enCurso bytes ≠ []) :
    completa (bytes ++ [newline]) = false ∧
      cabecera (bytes ++ [newline]) = cabecera bytes ++ [enCurso bytes] := by
  have still : completa (bytes ++ [newline]) = false := by
    rw [not_completa_iff, lineas_newline]
    intro linea member
    cases List.mem_append.mp member with
    | inl before => exact (not_completa_iff bytes).mp opened linea before
    | inr last => exact List.mem_singleton.mp last ▸ some
  refine ⟨still, ?_⟩
  rw [cabecera_eq_lineas _ still, cabecera_eq_lineas _ opened, lineas_newline]

theorem letra_continues {letra : BitVec 8} (inside : letra ≠ newline) :
    completa (bytes ++ [letra]) = completa bytes ∧
      cabecera (bytes ++ [letra]) = cabecera bytes := by
  rw [completa, completa, cabecera, cabecera, lineas_letra bytes inside]
  exact ⟨rfl, rfl⟩

end Lines

theorem verificarMensaje_eq (mensaje : Bytes) (s : Sesion) :
    verificarMensaje mensaje s = { s with estado := (orden mensaje).getD s.estado } := by
  unfold verificarMensaje orden
  split_ifs <;> rfl

/-- The state of the inner loop as a function of the state before the client and of the
bytes that have arrived. -/
structure Refleja (s₀ : Placa) (ip : IPAddress) (bytes : Bytes) (s : Sesion) : Prop where
  estado : s.estado = (ultimaOrden (cabecera bytes)).getD s₀.estado
  pinLed : s.pinLed = if completa bytes = true then s.estado else s₀.pinLed
  lineaActual : completa bytes = false → s.lineaActual = enCurso bytes
  respondida : s.fase = .respondida ↔ completa bytes = true
  respuesta : s.respuesta =
    if completa bytes = true then some (responderCliente ip s.estado) else none

namespace Refleja

variable {s₀ : Placa} {ip : IPAddress} {bytes : Bytes} {s : Sesion}

theorem aceptar (s₀ : Placa) (ip : IPAddress) (millis : BitVec 32) :
    Refleja s₀ ip [] (Web.aceptar s₀ millis) where
  estado := rfl
  pinLed := rfl
  lineaActual := fun _ => rfl
  respondida := by simp [Web.aceptar, completa, lineas, sinRetornos]
  respuesta := rfl

theorem opened (refleja : Refleja s₀ ip bytes s) (reading : s.fase = .leyendo) :
    completa bytes = false := by
  rw [← Bool.not_eq_true, ← refleja.respondida, reading]
  exact Fase.noConfusion

theorem reading_iff (refleja : Refleja s₀ ip bytes s) (inside : s.fase ≠ .terminada) :
    s.fase = .leyendo ↔ completa bytes = false := by
  rw [← Bool.not_eq_true, ← refleja.respondida]
  cases phase : s.fase with
  | leyendo => simp
  | respondida => simp
  | terminada => exact absurd phase inside

theorem tiempo (refleja : Refleja s₀ ip bytes s) (millis : BitVec 32) :
    Refleja s₀ ip bytes { s with tiempoActual := millis } :=
  ⟨refleja.estado, refleja.pinLed, refleja.lineaActual, refleja.respondida, refleja.respuesta⟩

/-- Inside the header a byte changes the line in progress, and the state as far as the
line it ends commands. -/
theorem escribe (refleja : Refleja s₀ ip bytes s) (reading : s.fase = .leyendo) {after : Bytes}
    {estado : Bool} (still : completa after = false)
    (holds : estado = (ultimaOrden (cabecera after)).getD s₀.estado) :
    Refleja s₀ ip after { s with estado := estado, lineaActual := enCurso after } := by
  have pin := refleja.pinLed
  have answer := refleja.respuesta
  rw [refleja.opened reading, if_neg Bool.false_ne_true] at pin answer
  constructor
  · exact holds
  · simpa [still] using pin
  · exact fun _ => rfl
  · simp [still, reading]
  · simpa [still] using answer

/-- A byte read by the loop, one case for each of its branches. -/
theorem leerLetra (refleja : Refleja s₀ ip bytes s) (reading : s.fase = .leyendo)
    (letra : BitVec 8) : Refleja s₀ ip (bytes ++ [letra]) (Web.leerLetra ip letra s) := by
  have opened := refleja.opened reading
  have linea := refleja.lineaActual opened
  by_cases ends : letra = newline
  · subst ends
    by_cases empty : enCurso bytes = []
    · obtain ⟨closed, same⟩ := newline_closes bytes opened empty
      have branch : s.lineaActual.length = 0 := by rw [linea, empty, List.length_nil]
      rw [Web.leerLetra, if_pos rfl, if_pos branch]
      constructor
      · exact same ▸ refleja.estado
      · rw [if_pos closed]
      · simp [closed]
      · simp [closed]
      · rw [if_pos closed]
    · obtain ⟨still, more⟩ := newline_continues bytes opened empty
      have branch : s.lineaActual.length ≠ 0 := by
        rw [linea]
        exact fun none => empty (List.eq_nil_of_length_eq_zero none)
      have step : Web.leerLetra ip newline s =
          { s with
            estado := (orden (enCurso bytes)).getD s.estado
            lineaActual := enCurso (bytes ++ [newline]) } := by
        rw [Web.leerLetra, if_pos rfl, if_neg branch, verificarMensaje_eq, linea, enCurso_newline]
      rw [step]
      apply refleja.escribe reading still
      rw [more, ultimaOrden_concat, refleja.estado]
      cases orden (enCurso bytes) <;> rfl
  · obtain ⟨same, above⟩ := letra_continues bytes ends
    have step : Web.leerLetra ip letra s =
        { s with lineaActual := enCurso (bytes ++ [letra]) } := by
      rw [Web.leerLetra, if_neg ends, enCurso_letra bytes ends, ← linea]
      split_ifs <;> first | rfl | contradiction
    rw [step]
    apply refleja.escribe reading (same.trans opened)
    rw [above, refleja.estado]

/-- Bytes after the empty line are not read and change nothing. -/
theorem append (refleja : Refleja s₀ ip bytes s) (answered : s.fase = .respondida)
    (more : Bytes) : Refleja s₀ ip (bytes ++ more) s := by
  have closed := refleja.respondida.mp answered
  obtain ⟨still, same⟩ := completa_append bytes closed more
  have pin := refleja.pinLed
  have answer := refleja.respuesta
  rw [if_pos closed] at pin answer
  constructor
  · exact same ▸ refleja.estado
  · rw [if_pos still, pin]
  · simp [still]
  · simp [still, answered]
  · rw [if_pos still, answer]

/-- The condition ends the loop before the empty line. -/
theorem corta (refleja : Refleja s₀ ip bytes s) (reading : s.fase = .leyendo) :
    Refleja s₀ ip bytes { s with fase := .terminada } := by
  have opened := refleja.opened reading
  exact ⟨refleja.estado, refleja.pinLed, refleja.lineaActual, by simp [opened],
    refleja.respuesta⟩

/-- A pass that stays in the loop, with a byte or without. -/
theorem pasada (refleja : Refleja s₀ ip bytes s) (reading : s.fase = .leyendo) {p : Pasada}
    (stay : sigue s.tiempoActual s.tiempoAnterior p = true) :
    Refleja s₀ ip (bytes ++ p.letra.toList) (Web.pasada ip s p) := by
  cases byte : p.letra with
  | none =>
    rw [pasada_waits ip s p reading stay byte, Option.toList_none, List.append_nil]
    exact refleja
  | some letra =>
    rw [pasada_reads ip s p reading stay byte]
    exact (refleja.tiempo p.millis).leerLetra reading letra

/-- The bytes that arrive in time are all that a run adds to. -/
theorem run (refleja : Refleja s₀ ip bytes s) (inside : s.fase ≠ .terminada)
    (pasadas : List Pasada) :
    Refleja s₀ ip (bytes ++ llegan s.tiempoAnterior s.tiempoActual pasadas)
      (Reactive.run (Web.pasada ip) s pasadas) := by
  induction pasadas generalizing s bytes with
  | nil => rwa [llegan, List.append_nil]
  | cons p rest ih =>
    cases phase : s.fase with
    | terminada => exact absurd phase inside
    | respondida =>
      rw [run_left ip s (by simp [phase])]
      exact refleja.append phase _
    | leyendo =>
      cases stay : sigue s.tiempoActual s.tiempoAnterior p with
      | false =>
        rw [Reactive.run_cons, pasada_stops ip s p phase stay,
          run_left ip _ Fase.noConfusion, llegan, if_neg (by simp [stay]),
          List.append_nil]
        exact refleja.corta phase
      | true =>
        obtain ⟨kept, clock⟩ := pasada_stays ip s p phase stay
        have later := ih (refleja.pasada phase stay) kept
        rw [pasada_tiempoAnterior, clock] at later
        rw [Reactive.run_cons, llegan, if_pos stay]
        cases byte : p.letra with
        | none => simpa [byte] using later
        | some letra => simpa [byte] using later

end Refleja

/-- A client leaves behind what the bytes that arrived in time make of the board. -/
theorem atender_refleja (s : Placa) (v : Visita) :
    Refleja s v.remoteIP v.bytes (atender s v) :=
  (Refleja.aceptar s v.remoteIP v.millis).run Fase.noConfusion v.pasadas

def localhost : IPAddress := ⟨![127, 0, 0, 1]⟩

/-- A client that sends its bytes one a pass within a millisecond and is gone then. -/
def inmediata (bytes : Bytes) : Visita where
  remoteIP := localhost
  millis := 0
  pasadas := (bytes.map fun letra => ⟨true, some letra, 0⟩) ++ [⟨false, none, 0⟩]

theorem inmediata_bytes (bytes : Bytes) : (inmediata bytes).bytes = bytes := by
  change llegan 0 0 (inmediata bytes).pasadas = bytes
  induction bytes with
  | nil => rfl
  | cons letra rest ih =>
    have inTime : sigue 0 0 ⟨true, some letra, 0⟩ = true := rfl
    change llegan 0 0 (⟨true, some letra, 0⟩ :: (inmediata rest).pasadas) = letra :: rest
    rw [llegan, if_pos inTime, ih]

end Chimenea.Web
