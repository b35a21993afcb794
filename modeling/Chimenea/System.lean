import Chimenea.WebSockets.Delivery
import Chimenea.Page
import Mathlib.Data.List.Forall2

/-!
The whole: pages that send their clicks, the websocket server, and the sketch that is told
of them in its `loop()`.
-/

namespace Chimenea.System
open Arduino Machine WebSockets
open Sketch (State Entrada Evento DocTx Salida webSocketEvent)
open Page (Accion)

/-- What a page sends on its websocket: clicks, answers to a ping, and at last its end. -/
inductive Mensaje where
  | clic (accion : Accion) (maskKey : MaskKey)
  | pong (payload : Bytes) (maskKey : MaskKey)
  | cierre (payload : Bytes) (maskKey : MaskKey)

def Mensaje.frame : Mensaje → Frame
  | .clic accion maskKey =>
    { fin := true, opCode := WSop_text, mask := true, maskKey := maskKey, payload := accion.send }
  | .pong payload maskKey =>
    { fin := true, opCode := WSop_pong, mask := true, maskKey := maskKey, payload := payload }
  | .cierre payload maskKey =>
    { fin := true, opCode := WSop_close, mask := true, maskKey := maskKey, payload := payload }

def Mensaje.accion : Mensaje → Option Accion
  | .clic accion _ => some accion
  | .pong _ _ => none
  | .cierre _ _ => none

/-- A page: the request it opens its websocket with, and what it sends on it. -/
structure Pagina where
  request : List Bytes
  mensajes : List Mensaje
  plain : ∀ line ∈ request, newline ∉ line ∧ trim line ≠ []
  wide : ∀ m ∈ mensajes, m.frame.payload.length < 2 ^ 32

def Pagina.conexion (sent : Pagina) : Conexion where
  request := sent.request
  frames := sent.mensajes.map Mensaje.frame
  plain := sent.plain
  wide := by
    intro f member
    obtain ⟨m, here, rfl⟩ := List.mem_map.1 member
    exact sent.wide m here

def clics (sent : Pagina) : List Accion := sent.mensajes.filterMap Mensaje.accion

/-- The call of `webSocketEvent` that a call of the callback is. -/
def evento (e : CbEvent) : Evento where
  num := e.num
  type := e.type
  payload := (Json.deserializeJson e.payload).map Page.docRx

structure Dispositivo where
  state : State
  clients : Slot → WSclient

def arranque (flash : Fin EEPROM_SIZE → BitVec 8) (wifi : Option (BitVec 32)) : Dispositivo where
  state := Sketch.setup flash wifi
  clients := inicio

/-- What an execution of `loop()` finds: the pages whose connections came in, the network,
and the rest of its inputs. -/
structure Vuelta where
  connections : List Pagina
  looks : List Look
  entrada : Entrada

def Vuelta.conexiones (v : Vuelta) : List Conexion := v.connections.map Pagina.conexion

def doc : Salida → Option DocTx
  | .digitalWrite _ _ => none
  | .broadcastTXT doc => some doc

/-- The status messages of an execution of `loop()`. -/
def transmitidos (antes despues : State) : List DocTx :=
  ((despues.salidas.take (despues.salidas.length - antes.salidas.length)).filterMap doc).reverse

def broadcasts : List Bytes → Serving Unit
  | [] => return
  | payload :: rest => do
    broadcastTXT payload
    broadcasts rest

section Device

variable (json : DocTx → Bytes) (acceptKey : Bytes → Bytes)

/-- `loop()` with the library at work: the callback is called from a broadcast too. `json`
is what `serializeJson` makes of a status message. -/
def ciclo (connections : List Bytes) (entrada : Entrada) (s : State) : Serving State := do
  serve acceptKey connections
  let server ← get
  let s' := Sketch.loop s { entrada with eventos := server.eventos.map evento }
  broadcasts ((transmitidos s s').map json)
  let later ← get
  let lost := later.eventos.drop server.eventos.length
  return (lost.map evento).foldl webSocketEvent s'

/-- The device after an execution of `loop()`, and the calls of the callback in it, if it
has returned. -/
def vuelta (d : Dispositivo) (v : Vuelta) : Option (Dispositivo × List CbEvent) :=
  match ciclo json acceptKey (v.conexiones.map Conexion.bytes) v.entrada d.state
    ⟨d.clients, [], v.looks⟩ with
  | .ok s server => some (⟨s, server.clients⟩, server.eventos)
  | .error _ _ => none

abbrev vueltas := Reactive.trace (vuelta json acceptKey)

end Device

/-- An execution of `loop()` as its users see it: the clicks that have come, then the rest. -/
def loopClics (s : State) (input : List (Slot × Accion) × Entrada) : State :=
  Sketch.loop ((input.1.map Prod.snd).foldl Accion.efecto s) { input.2 with eventos := [] }

/-- Of connections one after the other, the clicks that were carried out: of each the first. -/
def Entregado (sents : List Pagina) (hechos : List Accion) : Prop :=
  ∃ parts, List.Forall₂ (fun sent part => part <+: clics sent) sents parts ∧ hechos = parts.flatten

section Clicks

/-- The call of the callback for a click. -/
def llamada (c : Slot × Accion) : CbEvent := ⟨c.1.num, .text, c.2.send⟩

theorem llamada_injective : Function.Injective llamada := by
  intro c c' same
  injection same with num _ payload
  exact Prod.ext (Slot.num_injective num) (Page.send_injective payload)

/-- The click that a call of the callback is for. -/
noncomputable def clic (e : CbEvent) : Option (Slot × Accion) := Function.partialInv llamada e

@[simp] theorem clic_llamada (c : Slot × Accion) : clic (llamada c) = some c :=
  Function.partialInv_left llamada_injective c

theorem clic_eq_some {e : CbEvent} {c : Slot × Accion} : clic e = some c ↔ llamada c = e :=
  llamada_injective.isPartialInv c e

theorem clic_other {e : CbEvent} (other : e.type ≠ .text) : clic e = none := by
  rw [Option.eq_none_iff_forall_not_mem]
  intro c here
  rw [Option.mem_def, clic_eq_some] at here
  rw [← here] at other
  exact absurd rfl other

theorem webSocketEvent_llamada (s : State) (c : Slot × Accion) :
    webSocketEvent s (evento (llamada c)) = c.2.efecto s :=
  (congrArg (webSocketEvent s) (Page.recibir_send_eq c.1.num c.2)).trans
    (Page.recibirTexto_accion s c.2)

theorem webSocketEvent_other (s : State) {e : CbEvent} (other : e.type ≠ .text) :
    webSocketEvent s (evento e) = s := by
  rw [webSocketEvent, evento]
  split
  · exact absurd ‹_› other
  · rfl

/-- The calls of the callback that pages cause. -/
def DePagina (e : CbEvent) : Prop := e.type ≠ .text ∨ ∃ c, e = llamada c

theorem foldl_eventos {told : List CbEvent} (pages : ∀ e ∈ told, DePagina e) (s : State) :
    (told.map evento).foldl webSocketEvent s =
      ((told.filterMap clic).map Prod.snd).foldl Accion.efecto s := by
  induction told generalizing s with
  | nil => rfl
  | cons e told ih =>
    rw [List.map_cons, List.foldl_cons, ih fun e member => pages e (List.mem_cons_of_mem _ member)]
    rcases pages e (List.mem_cons_self ..) with other | ⟨c, rfl⟩
    · rw [webSocketEvent_other s other, List.filterMap_cons_none (clic_other other)]
    · rw [webSocketEvent_llamada, List.filterMap_cons_some (clic_llamada c), List.map_cons,
        List.foldl_cons]

theorem not_text_of_lost {e : CbEvent} (lost : e.type = .disconnected) : e.type ≠ .text := by
  rw [lost]
  decide

theorem foldl_lost {told : List CbEvent} (lost : ∀ e ∈ told, e.type = .disconnected) (s : State) :
    (told.map evento).foldl webSocketEvent s = s := by
  rw [foldl_eventos fun e member => .inl (not_text_of_lost (lost e member)),
    List.filterMap_eq_nil_iff.2 fun e member => clic_other (not_text_of_lost (lost e member))]
  rfl

/-- The messages come before everything else in an execution of `loop()`. -/
theorem loop_eventos (s : State) (entrada : Entrada) (eventos : List Evento) :
    Sketch.loop s { entrada with eventos := eventos } =
      Sketch.loop (eventos.foldl webSocketEvent s) { entrada with eventos := [] } := rfl

theorem clic_of (i : Slot) (told : List CbEvent) :
    (told.filterMap clic).filter (fun c => c.1 = i) = (of i told).filterMap clic := by
  induction told with
  | nil => rfl
  | cons e told ih =>
    rw [of] at ih ⊢
    cases here : clic e with
    | none =>
      rw [List.filterMap_cons_none here, ih, List.filter_cons]
      split_ifs
      · rw [List.filterMap_cons_none here]
      · rfl
    | some c =>
      have num : e.num = c.1.num := by rw [← clic_eq_some.1 here]; rfl
      rw [List.filterMap_cons_some here, List.filter_cons, List.filter_cons, num, ih]
      by_cases same : c.1 = i
      · rw [if_pos (decide_eq_true same), if_pos (decide_eq_true (congrArg Slot.num same)),
          List.filterMap_cons_some here]
      · rw [if_neg (by simpa using same),
          if_neg (by simpa using fun num => same (Slot.num_injective num))]

/-- A message that reaches the sketch is a click, or leaves it alone. -/
theorem clic_event (i : Slot) {m : Mensaje} (accepted : m.frame.Accepted) :
    DePagina (m.frame.event i.num) ∧
      clic (m.frame.event i.num) = m.accion.map fun accion => (i, accion) := by
  cases m with
  | clic accion maskKey =>
    have same : (Mensaje.clic accion maskKey).frame.event i.num = llamada (i, accion) := rfl
    rw [same]
    exact ⟨.inr ⟨_, rfl⟩, clic_llamada _⟩
  | pong payload maskKey =>
    have other : ((Mensaje.pong payload maskKey).frame.event i.num).type ≠ .text := by
      change messageType WSop_pong true ≠ .text
      decide
    exact ⟨.inl other, clic_other other⟩
  | cierre payload maskKey => exact absurd accepted.opCode (by simp only [Mensaje.frame]; decide)

/-- Calls of the callback for the clicks `part` on a page. -/
structure Clicked (i : Slot) (part : List Accion) (told : List CbEvent) : Prop where
  pages : ∀ e ∈ told, DePagina e
  clicks : told.filterMap clic = part.map fun accion => (i, accion)

theorem Clicked.calls {i : Slot} (url : Bytes) {front : List Mensaje}
    (accepted : ∀ m ∈ front, m.frame.Accepted) :
    Clicked i (front.filterMap Mensaje.accion)
      (WebSockets.calls i.num url (front.map Mensaje.frame)) := by
  have opened : (⟨i.num, .connected, url⟩ : CbEvent).type ≠ .text := by simp
  constructor
  · intro e member
    rcases List.mem_cons.1 member with rfl | later
    · exact .inl opened
    · rw [List.map_map] at later
      obtain ⟨m, here, rfl⟩ := List.mem_map.1 later
      exact (clic_event i (accepted m here)).1
  · rw [WebSockets.calls, List.filterMap_cons_none (clic_other opened), List.map_map,
      List.filterMap_map, List.map_filterMap]
    refine List.filterMap_congr fun m here => ?_
    exact (clic_event i (accepted m here)).2

theorem Heard.clics {i : Slot} {sent : Pagina} {told : List CbEvent}
    (heard : Heard i.num sent.conexion told) : ∃ part, part <+: clics sent ∧ Clicked i part told := by
  cases heard with
  | silent => exact ⟨[], List.nil_prefix, by simp, rfl⟩
  | upgraded url served rest upgraded =>
    obtain ⟨front, back, split, rfl, rfl⟩ := List.map_eq_append_iff.1 upgraded.split
    refine ⟨front.filterMap Mensaje.accion, ?_, Clicked.calls url fun m member =>
      upgraded.accepted _ (List.mem_map_of_mem member)⟩
    rw [System.clics, split]
    exact (List.prefix_append front back).filterMap _

theorem Entregado.next {sents : List Pagina} {hechos part : List Accion}
    (before : Entregado sents hechos) {sent : Pagina} (first : part <+: clics sent) :
    Entregado (sents ++ [sent]) (hechos ++ part) := by
  obtain ⟨parts, each, rfl⟩ := before
  refine ⟨parts ++ [part], List.rel_append each (.cons first .nil), ?_⟩
  rw [List.flatten_append, List.flatten_singleton]

theorem Entregado.sent {sents : List Pagina} {hechos : List Accion}
    (delivered : Entregado sents hechos) {accion : Accion} (member : accion ∈ hechos) :
    ∃ sent ∈ sents, accion ∈ clics sent := by
  obtain ⟨parts, each, rfl⟩ := delivered
  induction each with
  | nil => exact absurd member (List.not_mem_nil)
  | cons first _ ih =>
    rw [List.flatten_cons] at member
    rcases List.mem_append.1 member with here | later
    · exact ⟨_, List.mem_cons_self .., first.subset here⟩
    · obtain ⟨sent, theirs, clicked⟩ := ih later
      exact ⟨sent, List.mem_cons_of_mem _ theirs, clicked⟩

/-- What the callback was called for: the clicks that were carried out, and what leaves the
sketch alone. -/
def Dichos (sents : List Pagina) (told : List CbEvent) : Prop :=
  (∀ e ∈ told, DePagina e) ∧ Entregado sents ((told.filterMap clic).map Prod.snd)

theorem Dichos.next {i : Slot} {sents : List Pagina} {told new : List CbEvent} {sent : Pagina}
    {part : List Accion} (before : Dichos sents told) (first : part <+: clics sent)
    (clicked : Clicked i part new) : Dichos (sents ++ [sent]) (told ++ new) := by
  constructor
  · intro e member
    exact (List.mem_append.1 member).elim (before.1 e) (clicked.pages e)
  · have all : (new.filterMap clic).map Prod.snd = part := by
      rw [clicked.clicks, List.map_map]
      exact List.map_id part
    rw [List.filterMap_append, List.map_append, all]
    exact before.2.next first

theorem Dichos.lost {sents : List Pagina} {told : List CbEvent}
    (before : Dichos sents told) {e : CbEvent} (lost : e.type = .disconnected) :
    Dichos sents (told ++ [e]) := by
  constructor
  · intro e' member
    rcases List.mem_append.1 member with old | young
    · exact before.1 e' old
    · rw [List.mem_singleton.1 young]
      exact .inl (not_text_of_lost lost)
  · rw [List.filterMap_append, List.filterMap_cons_none (clic_other (not_text_of_lost lost)),
      List.filterMap_nil, List.append_nil]
    exact before.2

theorem Past.dichos {i : Slot} {sents : List Pagina} {told : List CbEvent}
    (past : Past i.num (sents.map Pagina.conexion) told) : Dichos sents told := by
  generalize same : sents.map Pagina.conexion = conexiones at past
  induction past generalizing sents with
  | none =>
    rw [List.map_eq_nil_iff.1 same]
    exact ⟨by simp, [], .nil, rfl⟩
  | ended past heard ih =>
    obtain ⟨before, last, rfl, earlier, here⟩ := List.map_eq_append_iff.1 same
    obtain ⟨sent, rfl, rfl⟩ := List.map_eq_singleton_iff.1 here
    obtain ⟨part, first, clicked⟩ := Heard.clics heard
    exact ((ih earlier).next first clicked).lost rfl

theorem History.dichos {i : Slot} {sents : List Pagina} {told : List CbEvent}
    {c : WSclient} (history : History i.num (sents.map Pagina.conexion) told c) :
    Dichos sents told := by
  cases history with
  | free past _ => exact Past.dichos past
  | open_ before sent old new last past live eventos =>
    obtain ⟨front, back, rfl, rfl, here⟩ := List.map_eq_append_iff.1 last
    obtain ⟨sent, rfl, rfl⟩ := List.map_eq_singleton_iff.1 here
    obtain ⟨part, first, clicked⟩ := Heard.clics live.heard
    rw [eventos]
    exact (Past.dichos past).next first clicked

end Clicks

section Run

variable {json : DocTx → Bytes} {acceptKey : Bytes → Bytes} {arrivals : Arrivals}
  {old : List CbEvent} {server : Server}

/-- The pages whose connections came in, each with its place. -/
abbrev Llegadas := List (Pagina × Option Slot)

def enviadas (llegadas : Llegadas) : Arrivals :=
  llegadas.map fun a => (a.1.conexion, a.2)

/-- The pages that had a place, one after the other. -/
def paginas (i : Slot) (llegadas : Llegadas) : List Pagina :=
  (llegadas.filter fun a => a.2 = some i).map Prod.fst

theorem placed_enviadas (i : Slot) (llegadas : Llegadas) :
    placed i (enviadas llegadas) = (paginas i llegadas).map Pagina.conexion := by
  rw [placed, enviadas, paginas, List.filter_map, List.map_map, List.map_map]
  rfl

theorem exists_llegadas {sents : List Pagina} {later : Arrivals}
    (all : later.map Prod.fst = sents.map Pagina.conexion) :
    ∃ llegadas : Llegadas, llegadas.map Prod.fst = sents ∧ enviadas llegadas = later := by
  induction sents generalizing later with
  | nil => exact ⟨[], rfl, (List.map_eq_nil_iff.1 all).symm⟩
  | cons sent sents ih =>
    obtain ⟨a, rest, rfl, first, all⟩ := List.map_eq_cons_iff.1 all
    obtain ⟨llegadas, mine, rfl⟩ := ih all
    exact ⟨(sent, a.2) :: llegadas, congrArg _ mine, congrArg (· :: _) (Prod.ext first.symm rfl)⟩

theorem Relaying.dePagina {llegadas : Llegadas} (relaying : Relaying (enviadas llegadas) old server) :
    ∀ e ∈ old ++ server.eventos, DePagina e := by
  intro e member
  obtain ⟨i, num⟩ := relaying.numbered e member
  have history := relaying.history i
  rw [placed_enviadas] at history
  exact (History.dichos history).1 e (List.mem_filter.2 ⟨member, decide_eq_true num⟩)

theorem broadcasts_relaying (payloads : List Bytes) (relaying : Relaying arrivals old server) :
    Ends (fun _ => True) (broadcasts payloads) server fun _ t => Relaying arrivals old t ∧
      ∃ new, t.eventos = server.eventos ++ new ∧ ∀ e ∈ new, e.type = .disconnected := by
  induction payloads generalizing server with
  | nil => exact ⟨relaying, [], (List.append_nil _).symm, by simp⟩
  | cons payload rest ih =>
    apply ends_bind (broadcastTXT_relaying payload relaying)
    intro _ t after
    obtain ⟨relaying, new, eventos, lost⟩ := after
    apply ends_mono (ih relaying)
    intro _ u after
    obtain ⟨relaying, more, eventos', lost'⟩ := after
    refine ⟨relaying, new ++ more, by rw [eventos', eventos, List.append_assoc], ?_⟩
    intro e member
    exact (List.mem_append.1 member).elim (lost e) (lost' e)

/-- The messages are handled before the rest of `loop()`, and a broadcast brings no more. -/
theorem ciclo_ends (connections : List Conexion) (entrada : Entrada)
    (s : State) (relaying : Relaying arrivals old server) :
    Ends (fun _ => True) (ciclo json acceptKey (connections.map Conexion.bytes) entrada s) server
        fun s' t =>
      (∃ later : Arrivals, later.map Prod.fst = connections ∧
        Relaying (arrivals ++ later) old t) ∧
      ∃ told lost, t.eventos = told ++ lost ∧ (∀ e ∈ lost, e.type = .disconnected) ∧
        s' = Sketch.loop s { entrada with eventos := told.map evento } := by
  apply ends_bind (serve_relaying connections relaying)
  intro _ t after
  obtain ⟨later, all, relaying⟩ := after
  apply ends_bind (ends_get (Q := fun v u => v = t ∧ u = t) ⟨rfl, rfl⟩)
  intro v u same
  rw [same.1, same.2]
  apply ends_bind (broadcasts_relaying _ relaying)
  intro _ w after
  obtain ⟨relaying, lost, eventos, gone⟩ := after
  apply ends_bind (ends_get (Q := fun v u => v = w ∧ u = w) ⟨rfl, rfl⟩)
  intro v u same
  rw [same.1, same.2]
  refine ⟨⟨later, all, relaying⟩, t.eventos, lost, eventos, gone, ?_⟩
  rw [eventos, List.drop_left, foldl_lost gone]

theorem vuelta_ends {d d' : Dispositivo} {v : Vuelta} {told : List CbEvent}
    {Q : State → Server → Prop} (run : vuelta json acceptKey d v = some (d', told))
    (ends : Ends (fun _ => True) (ciclo json acceptKey (v.conexiones.map Conexion.bytes)
      v.entrada d.state) ⟨d.clients, [], v.looks⟩ Q) :
    ∃ s server, Q s server ∧ d' = ⟨s, server.clients⟩ ∧ told = server.eventos := by
  unfold vuelta at run
  unfold Ends at ends
  cases here : ciclo json acceptKey (v.conexiones.map Conexion.bytes) v.entrada d.state
    ⟨d.clients, [], v.looks⟩ with
  | ok s server =>
    rw [here] at run ends
    have same := Option.some.inj run
    exact ⟨s, server, ends, (congrArg Prod.fst same).symm, (congrArg Prod.snd same).symm⟩
  | error e server =>
    rw [here] at run
    exact absurd run (by simp)

/-- The device between two executions of `loop()`, after these and these calls of the
callback. -/
structure Girado (inicial : State) (vs : List Vuelta) (told : List (List CbEvent))
    (d : Dispositivo) : Prop where
  length : told.length = vs.length
  state : d.state = Reactive.run loopClics inicial
    ((told.map (List.filterMap clic)).zip (vs.map Vuelta.entrada))
  relayed : ∃ llegadas : Llegadas, llegadas.map Prod.fst = vs.flatMap Vuelta.connections ∧
    ∀ looks, Atento looks → Relaying (enviadas llegadas) told.flatten ⟨d.clients, [], looks⟩

theorem vuelta_girado {inicial : State} {vs : List Vuelta} {told : List (List CbEvent)}
    {d d' : Dispositivo} {v : Vuelta} {eventos : List CbEvent}
    (atento : Atento v.looks) (before : Girado inicial vs told d)
    (run : vuelta json acceptKey d v = some (d', eventos)) :
    Girado inicial (vs ++ [v]) (told ++ [eventos]) d' := by
  obtain ⟨llegadas, all, relaying⟩ := before.relayed
  obtain ⟨s, server, ⟨⟨later, mine, relaying⟩, front, lost, same, gone, state⟩, rfl, rfl⟩ :=
    vuelta_ends run (ciclo_ends v.conexiones v.entrada d.state (relaying v.looks atento))
  obtain ⟨nuevas, theirs, rfl⟩ := exists_llegadas mine
  replace relaying : Relaying (enviadas (llegadas ++ nuevas)) told.flatten server := by
    rw [enviadas, List.map_append]
    exact relaying
  have pages : ∀ e ∈ front, DePagina e := by
    intro e member
    refine Relaying.dePagina relaying e (List.mem_append_right _ ?_)
    rw [same]
    exact List.mem_append_left _ member
  have silent : lost.filterMap clic = [] :=
    List.filterMap_eq_nil_iff.2 fun e member => clic_other (not_text_of_lost (gone e member))
  have whole : (told ++ [server.eventos]).flatten = told.flatten ++ server.eventos := by
    rw [List.flatten_append, List.flatten_singleton]
  refine ⟨by simp [before.length], ?_, llegadas ++ nuevas, ?_, fun looks atento => ?_⟩
  · rw [List.map_append, List.map_append, List.zip_append (by simp [before.length]),
      List.map_singleton, List.map_singleton, List.zip_cons_cons, List.zip_nil_left,
      Reactive.run_concat, ← before.state, loopClics, same, List.filterMap_append, silent,
      List.append_nil, ← foldl_eventos pages, ← loop_eventos]
    exact state
  · rw [List.map_append, all, theirs, List.flatMap_append, List.flatMap_singleton]
  · refine ⟨atento, relaying.nums, ?_, ?_⟩
    · rw [whole, List.append_nil]
      exact relaying.numbered
    · rw [whole, List.append_nil]
      exact relaying.history

theorem girado_later {inicial : State} {vs vs' : List Vuelta} {told told' : List (List CbEvent)}
    {d d' : Dispositivo}
    (atento : ∀ v ∈ vs', Atento v.looks) (before : Girado inicial vs told d)
    (run : vueltas json acceptKey d vs' = some (d', told')) :
    Girado inicial (vs ++ vs') (told ++ told') d' := by
  refine Reactive.trace_invariant
    (fun vs' told' d => Girado inicial (vs ++ vs') (told ++ told') d)
    (fun v => Atento v.looks) ?_ ?_ atento run
  · intro vs' told' d v d' eventos atento before run
    rw [← List.append_assoc, ← List.append_assoc]
    exact vuelta_girado atento before run
  · rw [List.append_nil, List.append_nil]
    exact before

theorem girado_arranque (flash : Fin EEPROM_SIZE → BitVec 8) (wifi : Option (BitVec 32)) :
    Girado (Sketch.setup flash wifi) [] [] (arranque flash wifi) := by
  exact ⟨rfl, rfl, [], rfl, fun _ => inicio_relaying⟩

theorem Girado.state_later {inicial : State} {vs vs' : List Vuelta}
    {told told' : List (List CbEvent)} {d d' : Dispositivo} (before : Girado inicial vs told d)
    (after : Girado inicial (vs ++ vs') (told ++ told') d') :
    d'.state = Reactive.run loopClics d.state
      ((told'.map (List.filterMap clic)).zip (vs'.map Vuelta.entrada)) := by
  rw [after.state, List.map_append, List.map_append, List.zip_append (by simp [before.length]),
    Reactive.run_append, ← before.state]

/-- The clicks that the callback is called for are clicks of pages. -/
theorem Girado.sent {inicial : State} {vs : List Vuelta}
    {told : List (List CbEvent)} {d : Dispositivo} (girado : Girado inicial vs told d)
    {c : Slot × Accion} (called : llamada c ∈ told.flatten) :
    ∃ v ∈ vs, ∃ sent ∈ v.connections, c.2 ∈ clics sent := by
  obtain ⟨llegadas, all, relaying⟩ := girado.relayed
  have history := (relaying [] atento_nil).history c.1
  rw [placed_enviadas, List.append_nil] at history
  have read : c.2 ∈ ((of c.1 told.flatten).filterMap clic).map Prod.snd := by
    rw [← clic_of]
    refine List.mem_map_of_mem (List.mem_filter.2 ⟨?_, decide_eq_true rfl⟩)
    exact List.mem_filterMap.2 ⟨_, called, clic_llamada c⟩
  obtain ⟨sent, theirs, clicked⟩ := Entregado.sent (History.dichos history).2 read
  obtain ⟨a, placed, rfl⟩ := List.mem_map.1 theirs
  have came : a.1 ∈ vs.flatMap Vuelta.connections := by
    rw [← all]
    exact List.mem_map_of_mem (List.mem_of_mem_filter placed)
  obtain ⟨v, here, connected⟩ := List.mem_flatMap.1 came
  exact ⟨v, here, a.1, connected, clicked⟩

/-- Whatever pages connect, whatever is clicked on them and whatever the network does, as
long as no request is left in the middle of a line, the device does what it would do if the
clicks were carried out at the start of the executions of `loop()`, whole and one after the
other: of each connection the first ones, each once and in its order, and no others. -/
theorem clicks_carried_out {flash : Fin EEPROM_SIZE → BitVec 8} {wifi : Option (BitVec 32)}
    {vs : List Vuelta} {d : Dispositivo} {told : List (List CbEvent)}
    (atento : ∀ v ∈ vs, Atento v.looks)
    (run : vueltas json acceptKey (arranque flash wifi) vs = some (d, told)) :
    ∃ (hechos : List (List (Slot × Accion))) (llegadas : Llegadas),
      hechos.length = vs.length ∧ llegadas.map Prod.fst = vs.flatMap Vuelta.connections ∧
        d.state = Reactive.run loopClics (Sketch.setup flash wifi)
          (hechos.zip (vs.map Vuelta.entrada)) ∧
        ∀ i, Entregado (paginas i llegadas)
          ((hechos.flatten.filter fun c => c.1 = i).map Prod.snd) := by
  have girado : Girado (Sketch.setup flash wifi) vs told d :=
    girado_later atento (girado_arranque flash wifi) run
  obtain ⟨llegadas, all, relaying⟩ := girado.relayed
  refine ⟨told.map (List.filterMap clic), llegadas, ?_, all, girado.state, ?_⟩
  · rw [List.length_map, girado.length]
  · intro i
    have history := (relaying [] atento_nil).history i
    rw [placed_enviadas, List.append_nil] at history
    rw [← List.filterMap_flatten, clic_of]
    exact (History.dichos history).2

/-- A page with two clicks. -/
def visita : Pagina where
  request := peticion
  mensajes := [.pong [] fun _ => 0x3C, .clic .boton_bajo fun _ => 0x5A, .clic .boton_off fun _ => 0xA5]
  plain := peticion_plain
  wide := by decide

/-- An execution of `loop()` with nothing pressed and the network at its best. -/
def tranquila : Vuelta where
  connections := []
  looks := calma
  entrada := {
    eventos := []
    sensor := 0
    termistor := 0
    tiempo := 0
    botonEncendido := LOW
    pulsos := []
    botonApagado := LOW
    contBaj := LOW
    contAlt := LOW
    contAp := LOW
    now := 0 }

/-- The page opens its websocket, answers the ping, and is clicked once. -/
def pulsado : List Vuelta := { tranquila with connections := [visita] } :: List.replicate 7 tranquila

theorem pulsado_atento : ∀ v ∈ pulsado, Atento v.looks := by
  intro v member
  rcases List.mem_cons.1 member with rfl | later
  · exact calma_atento
  · rw [List.eq_of_mem_replicate later]
    exact calma_atento

theorem pulsado_returns :
    (vueltas (fun _ => ascii "{}") respuesta (arranque (fun _ => 0) none) pulsado).isSome = true := by
  decide +kernel

theorem clicks_carried_out_pulsado : ∃ (hechos : List (List (Slot × Accion))) (llegadas : Llegadas),
    hechos.length = pulsado.length ∧
      llegadas.map Prod.fst = pulsado.flatMap Vuelta.connections ∧
      ((vueltas (fun _ => ascii "{}") respuesta (arranque (fun _ => 0) none) pulsado).get
        pulsado_returns).1.state =
        Reactive.run loopClics (Sketch.setup (fun _ => 0) none)
          (hechos.zip (pulsado.map Vuelta.entrada)) ∧
      ∀ i, Entregado (paginas i llegadas)
        ((hechos.flatten.filter fun c => c.1 = i).map Prod.snd) :=
  clicks_carried_out pulsado_atento (run_of_returns pulsado_returns)

end Run

end Chimenea.System
