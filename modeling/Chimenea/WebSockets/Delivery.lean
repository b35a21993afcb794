import Chimenea.WebSockets.Link
import Chimenea.Reactive.Trace

/-!
The server with all its clients: whatever the others do and whatever the network does,
the sketch is told of a connection the frames that were sent on it.
-/

namespace Chimenea.WebSockets
open Arduino Machine

theorem Slot.num_injective : Function.Injective Slot.num := by
  intro i j same
  revert i j
  decide

/-- Of the calls of the callback, those for a place. -/
def of (i : Slot) (eventos : List CbEvent) : List CbEvent :=
  eventos.filter fun e => e.num = i.num

theorem of_append (i : Slot) (front back : List CbEvent) : of i (front ++ back) = of i front ++ of i back :=
  List.filter_append ..

theorem of_own {i : Slot} {new : List CbEvent} (own : ∀ e ∈ new, e.num = i.num) : of i new = new :=
  List.filter_eq_self.2 fun e member => decide_eq_true (own e member)

theorem of_other {i j : Slot} (other : j ≠ i) {new : List CbEvent} (own : ∀ e ∈ new, e.num = j.num) :
    of i new = [] := by
  rw [of, List.filter_eq_nil_iff]
  intro e member same
  rw [decide_eq_true_eq, own e member] at same
  exact other (Slot.num_injective same)

section Serving

variable {α : Type} {s : Server} {i j : Slot} {x : Library α} {Q : α → Server → Prop}

theorem onClient_ends (run : Ends (fun _ => True) x ⟨s.clients i, s.eventos, s.looks⟩ fun a d =>
      Q a { clients := Function.update s.clients i d.client, eventos := d.eventos, looks := d.looks }) :
    Ends (fun _ => True) (onClient i x) s Q := by
  unfold Ends onClient at *
  cases here : x ⟨s.clients i, s.eventos, s.looks⟩ with
  | ok a d =>
    rw [here] at run
    exact run
  | error e d => trivial

theorem nums_update {clients : Slot → WSclient} {c : WSclient}
    (nums : ∀ j, (clients j).num = Slot.num j) (same : c.num = i.num) (j : Slot) :
    (Function.update clients i c j).num = Slot.num j := by
  by_cases here : j = i
  · subst here
    rw [Function.update_self]
    exact same
  · rw [Function.update_of_ne here]
    exact nums j

end Serving

section Relay

/-- The connections that have come in, each with what is sent on it and the place it was
given, if one was free. -/
abbrev Arrivals := List (Conexion × Option Slot)

def placed (i : Slot) (arrivals : Arrivals) : List Conexion :=
  (arrivals.filter fun a => a.2 = some i).map Prod.fst

variable {acceptKey : Bytes → Bytes} {i j : Slot} {arrivals : Arrivals} {old : List CbEvent}
  {s : Server}

/-- The server after these arrivals, and after the calls `old` of the callback before this
call of its `loop()`. -/
structure Relaying (arrivals : Arrivals) (old : List CbEvent) (s : Server) : Prop where
  atento : Atento s.looks
  nums : ∀ i, (s.clients i).num = Slot.num i
  numbered : ∀ e ∈ old ++ s.eventos, ∃ i, e.num = Slot.num i
  history : ∀ i, History i.num (placed i arrivals) (of i (old ++ s.eventos)) (s.clients i)

theorem placed_same (sent : Conexion) :
    placed i (arrivals ++ [(sent, some i)]) = placed i arrivals ++ [sent] := by
  simp [placed]

theorem placed_other {place : Option Slot} (other : place ≠ some i) (sent : Conexion) :
    placed i (arrivals ++ [(sent, place)]) = placed i arrivals := by
  simp [placed, other]

/-- What is done for one client keeps the histories of all, if it keeps that of the client. -/
theorem onClient_relaying {α : Type} {x : Library α}
    {R : α → List CbEvent → WSclient → List CbEvent → Prop} (own : Keeps Own x)
    (relaying : Relaying arrivals old s)
    (run : ∀ told, History i.num (placed i arrivals) told (s.clients i) →
      Ends (fun _ => True) x ⟨s.clients i, s.eventos, s.looks⟩ fun a u =>
        ∃ new, u.eventos = s.eventos ++ new ∧
          History i.num (placed i arrivals) (told ++ new) u.client ∧ R a (told ++ new) u.client new) :
    Ends (fun _ => True) (onClient i x) s fun a t => Relaying arrivals old t ∧
      ∃ new, t.eventos = s.eventos ++ new ∧ R a (of i (old ++ t.eventos)) (t.clients i) new := by
  apply onClient_ends
  apply ends_mono (ends_and (own _) (run _ (relaying.history i)))
  intro a u after
  obtain ⟨own, new, eventos, history, result⟩ := after
  obtain ⟨new', eventos', mine⟩ := own.eventos
  have same : new' = new := List.append_cancel_left (eventos'.symm.trans eventos)
  have mine : ∀ e ∈ new, e.num = i.num := fun e member =>
    (mine e (same ▸ member)).trans (relaying.nums i)
  have told (j : Slot) : of j (old ++ u.eventos) = of j (old ++ s.eventos) ++ of j new := by
    rw [eventos, ← List.append_assoc, of_append]
  have atento : Atento u.looks := fun l member => relaying.atento l (own.looks.subset member)
  refine ⟨⟨atento, nums_update relaying.nums (own.num.trans (relaying.nums i)), ?_, ?_⟩,
    new, eventos, ?_⟩
  · intro e member
    rw [eventos, ← List.append_assoc] at member
    rcases List.mem_append.1 member with before | here
    · exact relaying.numbered e before
    · exact ⟨i, mine e here⟩
  · intro j
    change History j.num _ (of j (old ++ u.eventos)) (Function.update s.clients i u.client j)
    by_cases here : j = i
    · subst here
      rw [told, of_own mine, Function.update_self]
      exact history
    · rw [told, of_other (Ne.symm here) mine, List.append_nil, Function.update_of_ne here]
      exact relaying.history j
  · change R a (of i (old ++ u.eventos)) (Function.update s.clients i u.client i) new
    rw [told, of_own mine, Function.update_self]
    exact result

/-- What the work for each client keeps, the work for all of them keeps. -/
theorem forSlots_ends {body : Slot → Serving Unit} (Inv : Server → Prop)
    (step : ∀ i s, Inv s → Ends (fun _ => True) (body i) s fun _ t => Inv t)
    (slots : List Slot) {s : Server} (start : Inv s) :
    Ends (fun _ => True) (forSlots body slots) s fun _ t => Inv t := by
  induction slots generalizing s with
  | nil => exact start
  | cons i slots ih =>
    apply ends_bind (step i s start)
    intro _ t next
    exact ih next

theorem handleClientData_relaying (relaying : Relaying arrivals old s) :
    Ends (fun _ => True) (handleClientData acceptKey) s fun _ t => Relaying arrivals old t := by
  refine forSlots_ends (Relaying arrivals old) ?_ _ relaying
  intro i s relaying
  apply ends_mono (onClient_relaying (R := fun _ _ _ _ => True) (own_serveClient acceptKey) relaying ?_)
  · intro _ t after
    exact after.1
  intro told history
  apply ends_mono (serveClient_history relaying.atento (relaying.nums i) history)
  intro _ u after
  obtain ⟨new, eventos, history⟩ := after
  exact ⟨new, eventos, history, trivial⟩

/-- A free place has nothing left of an earlier request, so the new one is read from its
beginning. -/
theorem Free.arrive {c : WSclient} (free : Free c) (sent : Conexion) :
    Asking sent sent.request { c with
      tcp := some { unread := sent.bytes }, status := .header, pongReceived := false } where
  status := rfl
  read := ⟨c.http.cHttpHeadersValid, [], rfl, free.http⟩
  unread := ⟨_, rfl, rfl⟩

/-- The new connection goes to one place, or is lost. -/
theorem newClient_relaying (sent : Conexion) (slots : List Slot)
    (relaying : Relaying arrivals old s) :
    Ends (fun _ => True) (newClient { unread := sent.bytes } slots) s fun _ t =>
      ∃ place, Relaying (arrivals ++ [(sent, place)]) old t := by
  induction slots generalizing s with
  | nil =>
    refine ⟨none, relaying.atento, relaying.nums, relaying.numbered, ?_⟩
    intro i
    rw [placed_other (by simp)]
    exact relaying.history i
  | cons j slots ih =>
    apply ends_bind (onClient_relaying (R := fun r told c _ => r = false →
      Past j.num (placed j arrivals) told ∧ Free c) own_clientIsConnected relaying ?_)
    · intro r t after
      obtain ⟨relaying, _, _, ended⟩ := after
      apply ends_ite
      · intro _
        exact ih relaying
      intro free
      obtain ⟨past, free⟩ := ended (Bool.eq_false_of_not_eq_true free)
      apply onClient_ends
      refine ⟨some j, relaying.atento, nums_update relaying.nums (relaying.nums j),
        relaying.numbered, ?_⟩
      intro i
      change History i.num _ _ (Function.update t.clients j _ i)
      by_cases here : i = j
      · subst here
        rw [placed_same, Function.update_self]
        exact .open_ _ sent _ [] rfl past (.asking sent.request (free.arrive sent))
          (List.append_nil _).symm
      · rw [placed_other fun same => here (Option.some.inj same).symm, Function.update_of_ne here]
        exact relaying.history i
    · intro told history
      apply ends_mono (clientIsConnected_history (relaying.nums j) history)
      intro r u after
      obtain ⟨new, eventos, history, _, _, ended⟩ := after
      exact ⟨new, eventos, history, ended⟩

theorem serve_relaying (connections : List Conexion) (relaying : Relaying arrivals old s) :
    Ends (fun _ => True) (serve acceptKey (connections.map Conexion.bytes)) s fun _ t => 
      ∃ later : Arrivals, later.map Prod.fst = connections ∧
        Relaying (arrivals ++ later) old t := by
  have accepted : Ends (fun _ => True) (handleNewClients (connections.map Conexion.bytes)) s fun _ t =>
      ∃ later : Arrivals, later.map Prod.fst = connections ∧
        Relaying (arrivals ++ later) old t := by
    induction connections generalizing s arrivals with
    | nil => exact ⟨[], rfl, (List.append_nil arrivals).symm ▸ relaying⟩
    | cons sent connections ih =>
      apply ends_bind (newClient_relaying sent _ relaying)
      intro _ t after
      obtain ⟨place, relaying⟩ := after
      apply ends_mono (ih relaying)
      intro _ u rest
      obtain ⟨later, all, relaying⟩ := rest
      refine ⟨(sent, place) :: later, congrArg _ all, ?_⟩
      rw [List.append_assoc] at relaying
      exact relaying
  apply ends_bind accepted
  intro _ t after
  obtain ⟨later, all, relaying⟩ := after
  apply ends_mono (handleClientData_relaying relaying)
  intro _ u relaying
  exact ⟨later, all, relaying⟩

/-- A broadcast tells the sketch of lost clients at most. -/
theorem broadcastTXT_relaying (payload : Bytes) (relaying : Relaying arrivals old s) :
    Ends (fun _ => True) (broadcastTXT payload) s fun _ t => Relaying arrivals old t ∧
      ∃ new, t.eventos = s.eventos ++ new ∧ ∀ e ∈ new, e.type = .disconnected := by
  refine forSlots_ends (fun t => Relaying arrivals old t ∧ ∃ new, t.eventos = s.eventos ++ new ∧
    ∀ e ∈ new, e.type = .disconnected) ?_ _ ⟨relaying, [], (List.append_nil _).symm, by simp⟩
  intro i t before
  obtain ⟨relaying, told, eventos, lost⟩ := before
  apply ends_mono (onClient_relaying (R := fun _ _ _ new => ∀ e ∈ new, e.type = .disconnected)
    (own_broadcastClient payload) relaying ?_)
  · intro _ u after
    obtain ⟨relaying, new, eventos', lost'⟩ := after
    refine ⟨relaying, told ++ new, by rw [eventos', eventos, List.append_assoc], ?_⟩
    intro e member
    exact (List.mem_append.1 member).elim (lost e) (lost' e)
  · intro before history
    exact broadcastClient_history payload (relaying.nums i) history

end Relay

/-- What a call of the server's `loop()` finds: connections that came in, each with what is
sent on it, and the network. -/
structure Pass where
  connections : List Conexion
  looks : List Look

section Run

variable {acceptKey : Bytes → Bytes} {clients clients' : Slot → WSclient}

variable (acceptKey) in
/-- A call of `webSocket.loop()`: the clients after it and the calls of the callback, if
it has returned. -/
def pass (clients : Slot → WSclient) (p : Pass) : Option ((Slot → WSclient) × List CbEvent) :=
  match serve acceptKey (p.connections.map Conexion.bytes) ⟨clients, [], p.looks⟩ with
  | .ok _ s => some (s.clients, s.eventos)
  | .error _ _ => none

variable (acceptKey) in
/-- Calls one after the other. -/
abbrev passes := Reactive.trace (pass acceptKey)

theorem pass_ends {p : Pass} {eventos : List CbEvent} {Q : Server → Prop}
    (run : pass acceptKey clients p = some (clients', eventos))
    (ends : Ends (fun _ => True) (serve acceptKey (p.connections.map Conexion.bytes))
      ⟨clients, [], p.looks⟩ fun _ t => Q t) : ∃ t, Q t ∧ t.clients = clients' ∧ t.eventos = eventos := by
  unfold pass at run
  unfold Ends at ends
  cases here : serve acceptKey (p.connections.map Conexion.bytes) ⟨clients, [], p.looks⟩ with
  | ok a t =>
    rw [here] at run ends
    have same := Option.some.inj run
    exact ⟨t, ends, congrArg Prod.fst same, congrArg Prod.snd same⟩
  | error e t =>
    rw [here] at run
    exact absurd run (by simp)

/-- The server between two calls of its `loop()`. -/
def Relayed (ps : List Pass) (told : List (List CbEvent)) (clients : Slot → WSclient) : Prop :=
  ∃ arrivals : Arrivals, arrivals.map Prod.fst = ps.flatMap Pass.connections ∧
    ∀ looks, Atento looks → Relaying arrivals told.flatten ⟨clients, [], looks⟩

theorem inicio_relaying {looks : List Look} (atento : Atento looks) :
    Relaying [] [] ⟨inicio, [], looks⟩ where
  atento := atento
  nums := fun _ => rfl
  numbered := by simp
  history := fun _ => .free .none ⟨rfl, rfl⟩

theorem relayed_inicio : Relayed [] [] inicio := ⟨[], rfl, fun _ => inicio_relaying⟩

theorem atento_nil : Atento [] := fun _ member => absurd member (by simp)

/-- Whatever connections come in and whatever the network does with their bytes, as long as
no request is left in the middle of a line, each connection has at most one place, and what
the sketch is told of a place is what was sent on the connections that had it: of each that
asked for a websocket that it is there, then its frames, each frame once and in its order,
up to where its connection is over, and of the others their end. -/
theorem frames_relayed {ps : List Pass} {told : List (List CbEvent)}
    (atento : ∀ p ∈ ps, Atento p.looks) (run : passes acceptKey inicio ps = some (clients', told)) :
    ∃ arrivals : Arrivals, arrivals.map Prod.fst = ps.flatMap Pass.connections ∧
      ∀ i, History i.num (placed i arrivals) (of i told.flatten) (clients' i) := by
  suffices Relayed ps told clients' by
    obtain ⟨arrivals, all, relaying⟩ := this
    refine ⟨arrivals, all, fun i => ?_⟩
    have history := (relaying [] atento_nil).history i
    rw [List.append_nil] at history
    exact history
  refine Reactive.trace_invariant Relayed (fun p => Atento p.looks) ?_ relayed_inicio atento run
  intro ps told clients p clients' eventos atento before run
  obtain ⟨arrivals, all, relaying⟩ := before
  obtain ⟨t, ⟨later, mine, relaying⟩, rfl, rfl⟩ := pass_ends run
    (serve_relaying p.connections (relaying p.looks atento))
  refine ⟨arrivals ++ later, ?_, fun looks atento => ⟨atento, relaying.nums, ?_, ?_⟩⟩
  · rw [List.map_append, all, mine, List.flatMap_append, List.flatMap_singleton]
  · rw [List.flatten_append, List.flatten_singleton, List.append_nil]
    exact relaying.numbered
  · rw [List.flatten_append, List.flatten_singleton, List.append_nil]
    exact relaying.history

theorem run_of_returns {α β : Type} {run : Option (α × β)} (returns : run.isSome = true) :
    run = some ((run.get returns).1, (run.get returns).2) :=
  (Option.some_get returns).symm

/-- What a browser asks to open a websocket, and the key that answers its key. -/
def peticion : List Bytes :=
  [ascii "GET / HTTP/1.1\r", ascii "Connection: keep-alive, Upgrade\r", ascii "Upgrade: websocket\r",
    ascii "Sec-WebSocket-Version: 13\r", ascii "Sec-WebSocket-Key: x3JJHMbDL1EzLkh9GBhXDw==\r"]

def respuesta (_ : Bytes) : Bytes := ascii "HSmrc0sMlYUkAGmm5OPpG2HaGWk="

theorem peticion_plain : ∀ line ∈ peticion, newline ∉ line ∧ trim line ≠ [] := by
  decide +kernel

/-- The network at its best. -/
def calma : List Look :=
  List.replicate 80 {
    connected := true
    millis := 0
    len := 64
    late := false
    memory := true
    random := fun _ => 0 }

theorem calma_atento : Atento calma := by
  intro l member
  rw [List.eq_of_mem_replicate member]

/-- A page that answers the ping and says nothing of use. -/
def saludo : Conexion where
  request := peticion
  frames := [
    { fin := true, opCode := WSop_pong, mask := true, maskKey := fun _ => 0x3C, payload := [] },
    { fin := true, opCode := WSop_text, mask := true, maskKey := fun _ => 0x5A, payload := ascii "{}" }]
  plain := peticion_plain
  wide := by decide

/-- Its request takes six calls, and each of its frames one. -/
def saludada : List Pass :=
  { connections := [saludo], looks := calma } :: List.replicate 7 { connections := [], looks := calma }

theorem saludada_returns : (passes respuesta inicio saludada).isSome = true := by decide +kernel

theorem frames_relayed_saludo : ∃ arrivals : Arrivals,
    arrivals.map Prod.fst = saludada.flatMap Pass.connections ∧
      ∀ i, History i.num (placed i arrivals)
        (of i ((passes respuesta inicio saludada).get saludada_returns).2.flatten)
        (((passes respuesta inicio saludada).get saludada_returns).1 i) := by
  have atento : ∀ p ∈ saludada, Atento p.looks := by
    intro p member
    rcases List.mem_cons.1 member with rfl | later
    · exact calma_atento
    · rw [List.eq_of_mem_replicate later]
      exact calma_atento
  exact frames_relayed atento (run_of_returns saludada_returns)

end Run

end Chimenea.WebSockets
