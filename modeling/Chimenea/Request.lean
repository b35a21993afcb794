import Chimenea.Session

/-!
Which line of a request commands the output of `web.ino`. The sketch looks for its two
patterns anywhere in every line, so a header or a longer path commands as well as the
request line of exactly one of the two paths.
-/

namespace Chimenea.Web
open Arduino

/-- A request: the request line, the headers, the blank line. Carriage returns may stand
anywhere; without them the first two kinds of line are not empty and the last one is. -/
structure Peticion where
  solicitud : Bytes
  cabeceras : List Bytes
  blanca : Bytes
  enteras : ∀ linea ∈ solicitud :: cabeceras, newline ∉ linea ∧ sinRetornos linea ≠ []
  vacia : sinRetornos blanca = []

namespace Peticion

variable (p : Peticion)

def bytes : Bytes :=
  (p.solicitud :: p.cabeceras).flatMap (· ++ [newline]) ++ (p.blanca ++ [newline])

/-- The lines above the blank one, without carriage returns. -/
def lineas : List Bytes := (p.solicitud :: p.cabeceras).map sinRetornos

end Peticion

def space : BitVec 8 := 32

/-- The request line is a GET for exactly the path: these are its first two words. -/
def esGet (camino : String) (solicitud : Bytes) : Bool :=
  decide (((sinRetornos solicitud).splitOn space).take 2 = [ascii "GET", ascii camino])

/-- The state a request asks for, by its request line alone. -/
def Peticion.pedido (p : Peticion) (antes : Bool) : Bool :=
  if esGet "/encender" p.solicitud = true then true
  else if esGet "/apagar" p.solicitud = true then false
  else antes

section Lines

theorem sinRetornos_append (front back : Bytes) :
    sinRetornos (front ++ back) = sinRetornos front ++ sinRetornos back := List.filter_append ..

theorem sinRetornos_flatMap (textos : List Bytes) :
    sinRetornos (textos.flatMap (· ++ [newline])) =
      (textos.map sinRetornos).flatMap (· ++ [newline]) := by
  induction textos with
  | nil => rfl
  | cons texto rest ih =>
    rw [List.flatMap_cons, sinRetornos_append, sinRetornos_newline, ih]
    rfl

theorem Peticion.lineas_bytes (p : Peticion) : Web.lineas p.bytes = p.lineas ++ [[]] := by
  have inside : ∀ linea ∈ p.lineas, newline ∉ linea := by
    intro linea member ends
    obtain ⟨texto, source, rfl⟩ := List.mem_map.mp member
    exact (p.enteras texto source).1 (List.mem_of_mem_filter ends)
  have clean : sinRetornos p.bytes = p.lineas.flatMap (· ++ [newline]) ++ [newline] := by
    rw [bytes, sinRetornos_append, sinRetornos_flatMap, sinRetornos_newline, p.vacia]
    rfl
  rw [Web.lineas, clean, Text.complete_lines _ _ inside]
  rfl

/-- A request ends with its blank line, and its header is the lines above. -/
theorem Peticion.cabecera_bytes (p : Peticion) :
    completa p.bytes = true ∧ cabecera p.bytes = p.lineas := by
  have some : ∀ linea ∈ p.lineas, decide (linea ≠ []) = true := by
    intro linea member
    obtain ⟨texto, source, rfl⟩ := List.mem_map.mp member
    exact decide_eq_true (p.enteras texto source).2
  constructor
  · rw [completa_iff, p.lineas_bytes]
    exact List.mem_append_right _ List.mem_cons_self
  · rw [cabecera, p.lineas_bytes, List.takeWhile_append_of_pos some]
    exact List.append_nil _

/-- A request line that is a GET for a path begins with that text. -/
theorem esGet_starts {camino : String} {solicitud : Bytes} (get : esGet camino solicitud = true) :
    ascii "GET" ++ space :: ascii camino <+: sinRetornos solicitud := by
  have first := List.take_append_drop 2 ((sinRetornos solicitud).splitOn space)
  rw [of_decide_eq_true get] at first
  have joined : [space].intercalate ((sinRetornos solicitud).splitOn space) =
      sinRetornos solicitud := List.intercalate_splitOn space
  rw [← joined, ← first]
  cases ((sinRetornos solicitud).splitOn space).drop 2 with
  | nil => simp [List.intercalate]
  | cons word rest => simp [List.intercalate]

theorem esGet_encender {solicitud : Bytes} (get : esGet "/encender" solicitud = true) :
    orden (sinRetornos solicitud) = some true := by
  have starts := c_str_starts (esGet_starts get) (by decide)
  exact if_pos ((indexOf_nonneg _ _).mpr starts.isInfix)

theorem esGet_apagar {solicitud : Bytes} (get : esGet "/apagar" solicitud = true) :
    orden (sinRetornos solicitud) ≠ none := by
  have starts := c_str_starts (esGet_starts get) (by decide)
  have found : indexOf (sinRetornos solicitud) (ascii "GET /apagar") ≥ 0 :=
    (indexOf_nonneg _ _).mpr starts.isInfix
  rw [orden, if_pos found]
  split_ifs <;> exact Option.some_ne_none _

/-- Where no line commands, the request line is no GET for one of the two paths. -/
theorem Peticion.pedido_of_none (p : Peticion) (antes : Bool)
    (silence : ultimaOrden p.lineas = none) : p.pedido antes = antes := by
  have silent : orden (sinRetornos p.solicitud) = none := by
    rw [ultimaOrden, List.getLast?_eq_none_iff, List.filterMap_eq_nil_iff] at silence
    exact silence _ List.mem_cons_self
  rw [pedido, if_neg, if_neg]
  · exact fun get => esGet_apagar get silent
  · exact fun get => Option.some_ne_none _ ((esGet_encender get).symm.trans silent)

end Lines

/-- The state after a request that arrives in time, from its lines. -/
theorem estado_of_delivered (s : Placa) (v : Visita) (p : Peticion)
    (delivered : p.bytes <+: v.bytes) :
    (atender s v).estado = (ultimaOrden p.lineas).getD s.estado := by
  obtain ⟨more, arrived⟩ := delivered
  obtain ⟨closed, header⟩ := p.cabecera_bytes
  rw [(atender_refleja s v).estado, ← arrived, (completa_append p.bytes closed more).2, header]

/-- A request that arrives in time sets the state its request line asks for exactly when
the last of its lines that commands anything commands that state. -/
theorem only_request_line_iff (s : Placa) (v : Visita) (p : Peticion)
    (delivered : p.bytes <+: v.bytes) :
    (atender s v).estado = p.pedido s.estado ↔
      ∀ estado, ultimaOrden p.lineas = some estado → estado = p.pedido s.estado := by
  rw [estado_of_delivered s v p delivered]
  cases last : ultimaOrden p.lineas with
  | none => simp [p.pedido_of_none s.estado last]
  | some estado => simp

def peticionEncender : Peticion where
  solicitud := ascii "GET /encender HTTP/1.1\r"
  cabeceras := [ascii "Host: chimenea\r"]
  blanca := ascii "\r"
  enteras := by decide
  vacia := by decide

theorem only_request_line_encender :
    (atender setup (inmediata peticionEncender.bytes)).estado = true := by
  have arrives : peticionEncender.bytes <+: (inmediata peticionEncender.bytes).bytes := by
    rw [inmediata_bytes]
  exact (only_request_line_iff setup _ peticionEncender arrives).mpr (by decide)

/-- A request for the root with one of the patterns in a header. -/
def peticionRaiz : Peticion where
  solicitud := ascii "GET / HTTP/1.1\r"
  cabeceras := [ascii "Nota: GET /encender\r"]
  blanca := ascii "\r"
  enteras := by decide
  vacia := by decide

theorem header_commands :
    ¬ ∀ (s : Placa) (v : Visita) (p : Peticion), p.bytes <+: v.bytes →
      (atender s v).estado = p.pedido s.estado := by
  intro obeys
  have arrives : peticionRaiz.bytes <+: (inmediata peticionRaiz.bytes).bytes := by
    rw [inmediata_bytes]
  have switched := obeys setup _ peticionRaiz arrives
  rw [estado_of_delivered setup _ peticionRaiz arrives] at switched
  exact absurd switched (by decide)

end Chimenea.Web
