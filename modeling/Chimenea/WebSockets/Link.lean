import Chimenea.WebSockets.Receive
import Chimenea.WebSockets.Server

/-!
The connection of a page with the server, from its opening on: which of the frames the
page sends have reached the sketch, whatever the network and the other clients do.
-/

namespace Chimenea.WebSockets
open Arduino Machine
open Sketch (WStype)

section Own

/-- The library works for its own client only. -/
structure Own (d u : Session) : Prop where
  looks : u.looks <:+ d.looks
  num : u.client.num = d.client.num
  eventos : ∃ new, u.eventos = d.eventos ++ new ∧ ∀ e ∈ new, e.num = d.client.num

theorem own_refl (d : Session) : Own d d where
  looks := List.suffix_rfl
  num := rfl
  eventos := ⟨[], (List.append_nil _).symm, fun _ member => absurd member (by simp)⟩

theorem own_trans (d u w : Session) (first : Own d u) (second : Own u w) : Own d w where
  looks := second.looks.trans first.looks
  num := second.num.trans first.num
  eventos := by
    obtain ⟨new, eventos, mine⟩ := first.eventos
    obtain ⟨more, eventos', mine'⟩ := second.eventos
    refine ⟨new ++ more, by rw [eventos', eventos, List.append_assoc], ?_⟩
    intro e member
    rcases List.mem_append.1 member with old | young
    · exact mine e old
    · exact (mine' e young).trans first.num

theorem own_bind {α β : Type} {x : Library α} {next : α → Library β} (first : Keeps Own x)
    (second : ∀ a, Keeps Own (next a)) : Keeps Own (x >>= next) :=
  keeps_bind own_trans first second

theorem own_pure {α : Type} (a : α) : Keeps Own (pure a : Library α) := keeps_pure own_refl a

theorem own_get : Keeps Own (get : Library Session) := keeps_get own_refl

theorem own_look : Keeps Own look := by
  intro d
  apply look_ends
  intro l looks next
  refine ⟨?_, rfl, (own_refl d).eventos⟩
  rw [next]
  exact List.suffix_cons ..

theorem own_setClient {f : WSclient → WSclient} (same : ∀ c, (f c).num = c.num) :
    Keeps Own (setClient f) :=
  fun d => ⟨List.suffix_rfl, same d.client, (own_refl d).eventos⟩

theorem own_runCbEvent (type : WStype) (payload : Bytes) : Keeps Own (runCbEvent type payload) := by
  intro d
  refine ⟨List.suffix_rfl, rfl, [_], rfl, ?_⟩
  intro e member
  rw [List.mem_singleton.1 member]

theorem own_connected : Keeps Own connected := by
  apply own_bind own_get
  intro d
  cases d.client.tcp with
  | none => exact own_pure false
  | some t => exact own_bind own_look fun l => own_pure l.connected

theorem own_readCb (n : Nat) : Keeps Own (readCb n) := by
  apply own_bind own_look
  intro l
  apply own_bind own_get
  intro d
  apply keeps_loop own_refl own_trans
  intro turn
  obtain ⟨t, n, out⟩ := turn
  apply keeps_ite (own_pure _)
  apply own_bind own_get
  intro d
  cases d.client.tcp with
  | none => exact own_pure _
  | some tcp =>
    apply own_bind own_look
    intro l
    apply keeps_ite (own_pure _)
    apply keeps_ite (own_pure _)
    apply keeps_ite (own_pure _)
    refine own_bind (own_setClient ?_) ?_
    · exact fun _ => rfl
    · exact fun _ => own_bind own_look fun now => own_pure _

theorem own_write (out : Bytes) : Keeps Own (write out) := by
  apply own_bind own_look
  intro l
  apply own_bind own_get
  intro d
  apply keeps_loop own_refl own_trans
  intro turn
  obtain ⟨t, out, total⟩ := turn
  apply keeps_ite (own_pure _)
  apply own_bind own_get
  intro d
  cases d.client.tcp with
  | none => exact own_pure _
  | some tcp =>
    apply own_bind own_look
    intro l
    apply keeps_ite (own_pure _)
    apply keeps_ite (own_pure _)
    apply keeps_ite (own_pure _)
    refine own_bind (own_setClient ?_) ?_
    · exact fun _ => rfl
    · exact fun _ => own_bind own_look fun now => own_pure _

theorem own_sendFrame (opcode : WSopcode) (payload : Bytes) (fin : Bool) :
    Keeps Own (sendFrame opcode payload fin) := by
  apply own_bind own_connected
  intro r
  apply keeps_ite (own_pure _)
  apply own_bind own_get
  intro d
  apply keeps_ite (own_pure _)
  apply own_bind own_look
  intro l
  apply keeps_ite
  · exact own_bind (own_write _) fun n => own_pure _
  · apply own_bind (own_write _)
    intro n
    apply keeps_ite
    · exact own_bind (own_pure 0) fun m => own_pure _
    · exact own_bind (own_write _) fun m => own_pure _

theorem own_dropClient : Keeps Own dropClient :=
  own_bind (own_setClient fun _ => rfl) fun _ => own_runCbEvent _ _

theorem own_clientDisconnect (code : BitVec 16) : Keeps Own (clientDisconnect code) := by
  apply own_bind own_get
  intro d
  apply keeps_ite
  · exact own_bind (own_sendFrame _ _ _) fun _ => own_dropClient
  · exact own_dropClient

theorem own_handleOpCode (header : WSMessageHeader) (payload : Bytes) :
    Keeps Own (handleOpCode header payload) := by
  apply keeps_ite (own_runCbEvent _ _)
  apply keeps_ite
  · exact own_bind (own_sendFrame _ _ _) fun _ => own_runCbEvent _ _
  apply keeps_ite
  · exact own_bind (own_setClient fun _ => rfl) fun _ => own_runCbEvent _ _
  exact keeps_ite (own_clientDisconnect _) (own_clientDisconnect _)

theorem own_handleWebsocketPayloadCb (payload : Option Bytes) :
    Keeps Own (handleWebsocketPayloadCb payload) := by
  cases payload with
  | none => exact own_clientDisconnect _
  | some payload =>
    apply own_bind own_get
    intro d
    exact own_bind (own_handleOpCode _ _) fun _ => own_setClient fun _ => rfl

theorem own_waitFor {cb : Library Unit} (next : Keeps Own cb) (size : Nat) :
    Keeps Own (handleWebsocketWaitFor cb size) := by
  apply own_bind own_connected
  intro r
  apply keeps_ite (own_pure _)
  apply keeps_ite (own_pure _)
  apply own_bind own_get
  intro d
  apply keeps_ite (own_pure _)
  apply own_bind (own_readCb _)
  intro bytes
  cases bytes with
  | none =>
    refine own_bind (own_setClient ?_) ?_
    · exact fun _ => rfl
    · exact fun _ => own_bind (own_clientDisconnect _) fun _ => own_pure _
  | some bytes =>
    refine own_bind (own_setClient ?_) ?_
    · exact fun _ => rfl
    · exact fun _ => own_bind next fun _ => own_pure _

theorem own_handlePayload (header : WSMessageHeader) : Keeps Own (handlePayload header) := by
  refine own_bind (own_setClient ?_) ?_
  · exact fun _ => rfl
  intro _
  apply keeps_ite (own_handleWebsocketPayloadCb _)
  apply own_bind own_look
  intro l
  apply keeps_ite (own_clientDisconnect _)
  exact own_bind (own_readCb _) fun _ => own_handleWebsocketPayloadCb _

theorem own_handleWebsocketCb (depth : Nat) : Keeps Own (handleWebsocketCb depth) := by
  induction depth with
  | zero => exact keeps_throw none
  | succ depth ih =>
    apply own_bind own_connected
    intro r
    apply keeps_ite (own_pure _)
    apply own_bind (own_waitFor ih _)
    intro r
    apply keeps_ite (own_pure _)
    apply own_bind own_get
    intro d
    apply own_bind (keeps_ite (own_pure _) (own_waitFor ih _))
    intro r
    apply keeps_ite (own_pure _)
    apply own_bind own_get
    intro d
    apply keeps_ite (own_clientDisconnect _)
    apply keeps_ite
    · apply own_bind (own_waitFor ih _)
      intro r
      apply keeps_ite (own_pure _)
      exact own_bind own_get fun d => own_handlePayload _
    · exact own_handlePayload _

theorem own_clientIsConnected : Keeps Own clientIsConnected := by
  apply own_bind own_get
  intro d
  cases d.client.tcp with
  | none => exact own_pure _
  | some t =>
    apply own_bind own_look
    intro l
    exact keeps_ite (own_pure _) (own_bind own_dropClient fun _ => own_pure _)

theorem own_available : Keeps Own available := by
  apply own_bind own_get
  intro d
  cases d.client.tcp with
  | none => exact own_pure _
  | some t => exact own_bind own_look fun l => own_pure _

theorem own_broadcastClient (payload : Bytes) : Keeps Own (broadcastClient payload) := by
  apply own_bind own_clientIsConnected
  intro r
  exact keeps_ite (own_bind (own_sendFrame _ _ _) fun _ => own_pure _) (own_pure _)

theorem own_readLine : Keeps Own readLine := by
  apply own_bind own_get
  intro d
  apply keeps_loop own_refl own_trans
  intro line
  apply own_bind own_get
  intro d
  cases d.client.tcp with
  | none => exact own_pure _
  | some tcp =>
    apply own_bind own_look
    intro l
    cases tcp.unread.take l.len with
    | nil => exact keeps_ite (own_pure _) (own_pure _)
    | cons c more =>
      refine own_bind (own_setClient ?_) ?_
      · exact fun _ => rfl
      · exact fun _ => keeps_ite (own_pure _) (own_pure _)

theorem own_tcpWrite (out : Bytes) : Keeps Own (tcpWrite out) := by
  apply own_bind own_get
  intro d
  cases d.client.tcp with
  | none => exact own_pure _
  | some tcp =>
    apply own_bind own_look
    intro l
    exact own_setClient fun _ => rfl

theorem own_handleHeader (acceptKey : Bytes → Bytes) (headerLine : Bytes) :
    Keeps Own (handleHeader acceptKey headerLine) := by
  apply keeps_ite
  · exact own_setClient fun _ => rfl
  apply own_bind own_get
  intro d
  apply keeps_ite
  · refine own_bind (own_setClient ?_) ?_
    · exact fun _ => rfl
    intro _
    apply own_bind (own_write _)
    intro _
    refine own_bind (own_setClient ?_) ?_
    · exact fun _ => rfl
    intro _
    exact own_bind (own_sendFrame _ _ _) fun _ => own_runCbEvent _ _
  · exact own_bind (own_tcpWrite _) fun _ => own_dropClient

theorem own_serveClient (acceptKey : Bytes → Bytes) : Keeps Own (serveClient acceptKey) := by
  apply own_bind own_clientIsConnected
  intro r
  apply keeps_ite _ (own_pure _)
  apply own_bind own_available
  intro n
  apply keeps_ite _ (own_pure _)
  apply own_bind own_get
  intro d
  cases d.client.status with
  | header => exact own_bind own_readLine fun headerLine => own_handleHeader acceptKey headerLine
  | connected =>
    exact own_bind own_get fun d => keeps_ite (own_handleWebsocketCb 4) (own_pure _)
  | notConnected => exact own_clientDisconnect _

end Own

/-- The bytes of a request from one of its lines on, with the empty line that ends it. -/
def requestBytes (request : List Bytes) : Bytes :=
  (request.flatMap fun line => line ++ [newline]) ++ [carriageReturn, newline]

/-- What is sent on a connection: the lines of an HTTP request, then frames. -/
structure Conexion where
  request : List Bytes
  frames : List Frame
  plain : ∀ line ∈ request, newline ∉ line ∧ trim line ≠ []
  wide : ∀ f ∈ frames, f.payload.length < 2 ^ 32

def Conexion.bytes (sent : Conexion) : Bytes :=
  requestBytes sent.request ++ sent.frames.flatMap Frame.bytes

/-- What the server knows of a request after these of its lines. -/
def readRequest (valid : Bool) (request : List Bytes) : WSheader :=
  request.foldl (fun http line => handleHeaderLine http (trim line)) { cHttpHeadersValid := valid }

/-- The request asks for a websocket at `url`. -/
def Conexion.Upgrade (sent : Conexion) (url : Bytes) : Prop :=
  ∃ valid, (readRequest valid sent.request).ok = true ∧ (readRequest valid sent.request).cUrl = url

/-- No stream gives up in the middle of a line. -/
def Atento (looks : List Look) : Prop := ∀ l ∈ looks, l.late = false

/-- A place without a connection, and with nothing left of an earlier request. -/
structure Free (c : WSclient) : Prop where
  tcp : c.tcp = none
  http : c.http = c.http.reset

/-- A client of whose request the lines `left` are still to be read. -/
structure Asking (sent : Conexion) (left : List Bytes) (c : WSclient) : Prop where
  status : c.status = .header
  read : ∃ valid done, sent.request = done ++ left ∧ c.http = readRequest valid done
  unread : ∃ t, c.tcp = some t ∧ t.unread = requestBytes left ++ sent.frames.flatMap Frame.bytes

/-- A client that is waiting for the frames `rest`. -/
structure Up (rest : List Frame) (c : WSclient) : Prop where
  status : c.status = .connected
  size : c.cWsRXsize = 0
  unread : ∃ t, c.tcp = some t ∧ t.unread = rest.flatMap Frame.bytes

/-- A client that stopped in a header. It is not read from any more. -/
structure Stuck (c : WSclient) : Prop where
  status : c.status = .connected
  size : c.cWsRXsize ≠ 0
  tcp : ∃ t, c.tcp = some t

section Request

variable {d d' : Session} {t : WiFiClient} {line back : Bytes}

/-- In the loop of `readLine`: `part` is the beginning of the line and was read. -/
structure Spelling (line : Bytes) (d : Session) (part : Bytes) (d' : Session) : Prop where
  reads : Reads part d d'
  more : part <+: line

theorem lineTurn_ends (atento : Atento d.looks) (here : d.client.tcp = some t)
    (plain : newline ∉ line) (unread : t.unread = line ++ newline :: back) {part : Bytes}
    (spelling : Spelling line d part d') :
    Ends (fun _ => True) (lineTurn part) d' fun r u => r.elim
      (fun next => Spelling line d next u ∧ u.looks.length < d'.looks.length)
      (fun all => all = line ∧ Reads (line ++ [newline]) d u) := by
  obtain ⟨reads, rest, rfl⟩ := spelling
  obtain ⟨t0, t', before, here', left⟩ := reads.tcp
  have same : t0 = t := Option.some.inj (before.symm.trans here)
  rw [same, unread, List.append_assoc] at left
  replace left := (List.append_cancel_left left).symm
  apply ends_state
  rw [here']
  apply ends_bind (look_reads here')
  intro l d1 after
  obtain ⟨reads1, client1, next⟩ := after
  have shorter : d1.looks.length < d'.looks.length := by
    rw [next]
    exact Nat.lt_succ_self _
  cases taken : t'.unread.take l.len with
  | nil =>
    dsimp only
    rw [atento l (reads.looks.subset (by rw [next]; simp))]
    exact ends_ite (fun late => absurd late (by simp)) fun _ =>
      ⟨⟨List.append_nil part ▸ reads.trans reads1, rest, rfl⟩, shorter⟩
  | cons c more =>
    obtain ⟨after, split⟩ : ∃ after, t'.unread = c :: after := by
      refine ⟨more ++ t'.unread.drop l.len, ?_⟩
      rw [← List.cons_append, ← taken, List.take_append_drop]
    dsimp only
    apply ends_bind (setClient_ends (Q := fun _ u => u = { d1 with client := { d1.client with
      tcp := some { t' with unread := t'.unread.drop 1 } } }) rfl)
    intro _ d2 set
    rw [split, List.drop_one, List.tail_cons] at set
    have reads2 : Reads [c] d1 d2 := by
      refine ⟨?_, ?_, ?_, t', { t' with unread := after }, client1.symm ▸ here', ?_, split⟩
      all_goals rw [set]
    have all : Reads (part ++ [c]) d d2 := by
      have whole := (reads.trans reads1).trans reads2
      rw [List.append_nil] at whole
      exact whole
    have fewer : d2.looks.length < d'.looks.length := by
      rw [set]
      exact shorter
    rw [split] at left
    apply ends_ite
    · intro ended
      -- the newline is the one behind the line, which has none itself
      cases rest with
      | nil =>
        rw [List.append_nil, ← ended]
        exact ⟨rfl, all⟩
      | cons b rest =>
        have same : c = b := List.head_eq_of_cons_eq left
        exact absurd (List.mem_append_right part (by simp [← same, ended])) plain
    · intro goes
      cases rest with
      | nil => exact absurd (List.head_eq_of_cons_eq left) goes
      | cons b rest =>
        have same : c = b := List.head_eq_of_cons_eq left
        refine ⟨⟨all, rest, ?_⟩, fewer⟩
        rw [same, List.append_assoc, List.singleton_append]

/-- A line of a request is read whole, however the network cuts it. -/
theorem readLine_ends (atento : Atento d.looks) (here : d.client.tcp = some t)
    (plain : newline ∉ line) (unread : t.unread = line ++ newline :: back) :
    Ends (fun _ => True) readLine d fun all u => all = line ∧ Reads (line ++ [newline]) d u := by
  apply ends_state
  apply ends_loop (fun u => u.looks.length) (Spelling line d)
  · intro part u spelling
    exact lineTurn_ends atento here plain unread spelling
  · exact ⟨⟨List.suffix_rfl, rfl, rfl, t, t, here, here, rfl⟩, List.nil_prefix⟩
  · exact Nat.lt_succ_self _

theorem tcpWrite_ends (out : Bytes) (here : d.client.tcp = some t) :
    Ends (fun _ => True) (tcpWrite out) d fun _ u => Reads [] d u := by
  apply ends_state
  rw [here]
  apply ends_bind (look_reads here)
  intro l d1 after
  obtain ⟨reads, client, _⟩ := after
  refine setClient_ends ⟨reads.looks, reads.eventos, ?_, t, _, here, rfl, rfl⟩
  rw [client]

theorem Dropped.free (dropped : Dropped d d') : Free d'.client := ⟨dropped.tcp, dropped.http⟩

/-- A request that is read to its end is answered, and its client told or dropped. -/
theorem handleHeader_blank {acceptKey : Bytes → Bytes} {headerLine : Bytes} {frames : List Frame}
    (blank : trim headerLine = []) (here : d.client.tcp = some t)
    (unread : t.unread = frames.flatMap Frame.bytes) :
    Ends (fun _ => True) (handleHeader acceptKey headerLine) d fun _ u =>
      (d.client.http.ok = true ∧ Up frames u.client ∧
        u.eventos = d.eventos ++ [⟨d.client.num, .connected, d.client.http.cUrl⟩]) ∨
      (u.eventos = d.eventos ++ [⟨d.client.num, .disconnected, []⟩] ∧ Free u.client) := by
  apply ends_ite (fun line => absurd blank line)
  intro _
  apply ends_state
  apply ends_ite
  · intro ok
    apply ends_bind (setClient_ends (Q := fun _ u => u =
      { d with client := { d.client with status := .connected } }) rfl)
    intro _ d1 set
    have here1 : d1.client.tcp = some t := by
      rw [set]
      exact here
    apply ends_bind (write_ends _ here1)
    intro _ d2 wrote
    obtain ⟨t1, t2, before, here2, same⟩ := wrote.tcp
    have unread2 : t2.unread = frames.flatMap Frame.bytes := by
      rw [← unread, ← Option.some.inj (before.symm.trans here1), same]
      rfl
    apply ends_bind (setClient_ends (Q := fun _ u => u =
      { d2 with client := { d2.client with status := .connected, cWsRXsize := 0 } }) rfl)
    intro _ d3 set3
    have here3 : d3.client.tcp = some t2 := by
      rw [set3]
      exact here2
    apply ends_bind (sendFrame_ends WSop_ping [] true here3)
    intro _ u pinged
    obtain ⟨t3, t4, before, here4, same⟩ := pinged.tcp
    refine .inl ⟨ok, ⟨?_, ?_, t4, here4, ?_⟩, ?_⟩
    · change u.client.status = _
      rw [pinged.client, set3]
    · change u.client.cWsRXsize = _
      rw [pinged.client, set3]
    · rw [← unread2, ← Option.some.inj (before.symm.trans here3), same]
      rfl
    · change u.eventos ++ [⟨u.client.num, _, _⟩] = _
      rw [pinged.eventos, pinged.client, set3, wrote.eventos, wrote.client, set]
  · intro _
    apply ends_bind (tcpWrite_ends badRequest here)
    intro _ d1 wrote
    apply ends_mono (dropClient_ends wrote.quiet)
    intro _ u dropped
    exact .inr ⟨dropped.eventos, dropped.free⟩

end Request

section Serve

variable {acceptKey : Bytes → Bytes} {d : Session} {rest : List Frame} {t : WiFiClient}

theorem clientIsConnected_ends (here : d.client.tcp = some t) :
    Ends (fun _ => True) clientIsConnected d fun r u =>
      (r = true ∧ u.client = d.client ∧ u.eventos = d.eventos ∧ u.looks <:+ d.looks) ∨
        (r = false ∧ u.eventos = d.eventos ++ [⟨d.client.num, .disconnected, []⟩] ∧
          Free u.client) := by
  apply ends_state
  rw [here]
  apply ends_bind (look_reads here)
  intro l d1 after
  obtain ⟨reads, client, next⟩ := after
  apply ends_ite
  · intro _
    exact .inl ⟨rfl, client, reads.eventos, reads.looks⟩
  intro lost
  apply ends_bind (dropClient_ends reads.quiet)
  intro _ u dropped
  exact .inr ⟨rfl, dropped.eventos, dropped.free⟩

theorem available_ends (here : d.client.tcp = some t) :
    Ends (fun _ => True) available d fun n u => u.client = d.client ∧ u.eventos = d.eventos ∧
      u.looks <:+ d.looks ∧ n ≤ t.unread.length := by
  apply ends_state
  rw [here]
  apply ends_bind (look_reads here)
  intro l d1 after
  obtain ⟨reads, client, _⟩ := after
  exact ⟨client, reads.eventos, reads.looks, Nat.min_le_right ..⟩

/-- What a client is served comes after the same first steps in each of its states. -/
theorem serveClient_ends {Q : Session → Prop} (here : d.client.tcp = some t)
    (lost : ∀ u, u.eventos = d.eventos ++ [⟨d.client.num, .disconnected, []⟩] →
      Free u.client → Q u)
    (nothing : ∀ u, u.client = d.client → u.eventos = d.eventos → Q u)
    (served : ∀ u, u.client = d.client → u.eventos = d.eventos → u.looks <:+ d.looks →
      t.unread ≠ [] → Ends (fun _ => True) (match d.client.status with
        | .header => do
          let headerLine ← readLine
          handleHeader acceptKey headerLine
        | .connected => handleWebsocket
        | .notConnected => clientDisconnect 1002) u fun _ w => Q w) :
    Ends (fun _ => True) (serveClient acceptKey) d fun _ u => Q u := by
  apply ends_bind (clientIsConnected_ends here)
  intro r d1 after1
  rcases after1 with ⟨stands, client1, eventos1, looks1⟩ | ⟨gone, eventos1, free⟩
  swap
  · rw [gone]
    exact lost d1 eventos1 free
  rw [stands]
  apply ends_ite _ (fun no => absurd rfl no)
  intro _
  apply ends_bind (available_ends ((congrArg WSclient.tcp client1).trans here))
  intro n d2 after2
  obtain ⟨client2, eventos2, looks2, most⟩ := after2
  have client : d2.client = d.client := client2.trans client1
  have eventos : d2.eventos = d.eventos := eventos2.trans eventos1
  apply ends_ite _ (fun _ => ends_pure (nothing d2 client eventos))
  intro some_
  apply ends_state
  rw [client]
  exact served d2 client eventos (looks2.trans looks1)
    (List.length_pos_iff.1 (Nat.lt_of_lt_of_le some_ most))

/-- What serving a client whose request is being read comes to. -/
inductive Asked (sent : Conexion) (d u : Session) : Prop where
  | waits (left : List Bytes) (asking : Asking sent left u.client) (eventos : u.eventos = d.eventos)
  | upgraded (url : Bytes) (upgrade : sent.Upgrade url) (up : Up sent.frames u.client)
      (eventos : u.eventos = d.eventos ++ [⟨d.client.num, .connected, url⟩])
  | refused (eventos : u.eventos = d.eventos ++ [⟨d.client.num, .disconnected, []⟩])
      (free : Free u.client)

theorem serveClient_asking {sent : Conexion} {left : List Bytes} (atento : Atento d.looks)
    (asking : Asking sent left d.client) :
    Ends (fun _ => True) (serveClient acceptKey) d fun _ u => Asked sent d u := by
  obtain ⟨t, here, unread⟩ := asking.unread
  refine serveClient_ends here (fun u => .refused) ?_ ?_
  · intro u client eventos
    exact .waits left (client ▸ asking) eventos
  intro d2 client eventos looks _
  rw [asking.status]
  obtain ⟨valid, done, split, http⟩ := asking.read
  have atento2 : Atento d2.looks := fun l member => atento l (looks.subset member)
  have here2 : d2.client.tcp = some t := (congrArg WSclient.tcp client).trans here
  cases left with
  | cons line later =>
    have member : line ∈ sent.request := by
      rw [split]
      simp
    obtain ⟨plain, full⟩ := sent.plain line member
    have front : t.unread = line ++ newline ::
        (requestBytes later ++ sent.frames.flatMap Frame.bytes) := by
      rw [unread, requestBytes, requestBytes, List.flatMap_cons]
      simp only [List.append_assoc, List.cons_append, List.nil_append]
    apply ends_bind (readLine_ends atento2 here2 plain front)
    intro all d3 after
    obtain ⟨rfl, reads⟩ := after
    obtain ⟨t2, t3, before, here3, left⟩ := reads.tcp
    rw [Option.some.inj (before.symm.trans here2), front, List.append_assoc,
      List.singleton_append] at left
    apply ends_ite _ (fun blank => absurd full blank)
    intro _
    refine setClient_ends (.waits later ⟨?_, ⟨valid, done ++ [all], ?_, ?_⟩, t3, here3, ?_⟩ ?_)
    · change d3.client.status = _
      rw [reads.client]
      exact (congrArg WSclient.status client).trans asking.status
    · rw [split, List.append_assoc, List.singleton_append]
    · change handleHeaderLine d3.client.http _ = _
      rw [reads.client, client, http, readRequest, readRequest, List.foldl_append]
      rfl
    · exact (List.cons_injective (List.append_cancel_left left)).symm
    · exact reads.eventos.trans eventos
  | nil =>
    have front : t.unread = [carriageReturn] ++ newline :: sent.frames.flatMap Frame.bytes := unread
    apply ends_bind (readLine_ends atento2 here2 (by decide) front)
    intro all d3 after
    obtain ⟨rfl, reads⟩ := after
    obtain ⟨t2, t3, before, here3, left⟩ := reads.tcp
    rw [Option.some.inj (before.symm.trans here2), front] at left
    have client3 : d3.client.http = readRequest valid sent.request := by
      rw [reads.client]
      change d2.client.http = _
      rw [client, http, split, List.append_nil]
    have num : d3.client.num = d.client.num := by
      rw [reads.client]
      change d2.client.num = _
      rw [client]
    have tail : t3.unread = sent.frames.flatMap Frame.bytes := by simpa using left.symm
    apply ends_mono (handleHeader_blank (by decide) here3 tail)
    intro _ u after
    rcases after with ⟨ok, up, told⟩ | ⟨told, free⟩
    · rw [client3] at ok told
      refine .upgraded _ ⟨valid, ok, rfl⟩ up ?_
      rw [told, reads.eventos, eventos, num]
    · refine .refused ?_ free
      rw [told, reads.eventos, eventos, num]

/-- What serving a client that waits for the frames `rest` comes to. -/
inductive Turn (rest : List Frame) (d u : Session) : Prop where
  | nothing (up : Up rest u.client) (eventos : u.eventos = d.eventos)
  | served (f : Frame) (later : List Frame) (split : rest = f :: later) (accepted : f.Accepted)
      (up : Up later u.client) (eventos : u.eventos = d.eventos ++ [f.event d.client.num])
  | stuck (stuck : Stuck u.client) (eventos : u.eventos = d.eventos)
  | down (eventos : u.eventos = d.eventos ++ [⟨d.client.num, .disconnected, []⟩])
      (free : Free u.client)

theorem serveClient_up (wide : ∀ f ∈ rest, f.payload.length < 2 ^ 32) (up : Up rest d.client) :
    Ends (fun _ => True) (serveClient acceptKey) d fun _ u => Turn rest d u := by
  obtain ⟨t, here, unread⟩ := up.unread
  refine serveClient_ends here (fun u => .down) ?_ ?_
  · intro u client eventos
    exact .nothing (client ▸ up) eventos
  intro d2 client eventos looks some_
  rw [up.status]
  cases rest with
  | nil => exact absurd unread some_
  | cons f later =>
    have reading : Reading f (later.flatMap Frame.bytes) 0 d2 d2 := {
      looks := List.suffix_rfl
      eventos := rfl
      num := rfl
      tcp := ⟨t, by rw [client, here]⟩
      status := by rw [client, up.status]
      size := by rw [client, up.size]
      header := fun more => absurd more (Nat.lt_irrefl 0)
      unread := by
        refine ⟨t, by rw [client, here], ?_⟩
        rw [unread, List.flatMap_cons, Frame.bytes, List.append_assoc]
        rfl }
    apply ends_mono (handleWebsocket_ends (wide f (List.mem_cons_self ..)) reading)
    intro _ u outcome
    cases outcome with
    | served served size =>
      refine .served f later rfl served.accepted ⟨served.status, size, served.unread⟩ ?_
      rw [served.eventos, eventos, client]
    | dropped dropped _ =>
      refine .down ?_ dropped.free
      rw [dropped.eventos, eventos, client]
    | broken k reading _ =>
      rcases Nat.eq_zero_or_pos k with zero | more
      · subst zero
        refine .nothing ⟨reading.status, reading.size, ?_⟩ (reading.eventos.trans eventos)
        obtain ⟨t', here', unread'⟩ := reading.unread
        refine ⟨t', here', ?_⟩
        rw [unread', List.flatMap_cons, Frame.bytes, List.append_assoc]
        rfl
      · refine .stuck ⟨reading.status, ?_, reading.tcp⟩ (reading.eventos.trans eventos)
        rw [reading.size]
        exact Nat.ne_of_gt more

theorem serveClient_stuck (stuck : Stuck d.client) :
    Ends (fun _ => True) (serveClient acceptKey) d fun _ u =>
      (Stuck u.client ∧ u.eventos = d.eventos) ∨
        (u.eventos = d.eventos ++ [⟨d.client.num, .disconnected, []⟩] ∧ Free u.client) := by
  obtain ⟨t, here⟩ := stuck.tcp
  refine serveClient_ends here (fun u eventos free => .inr ⟨eventos, free⟩) ?_ ?_
  · intro u client eventos
    exact .inl ⟨client ▸ stuck, eventos⟩
  intro d2 client eventos _ _
  rw [stuck.status]
  have same : Stuck d2.client := client ▸ stuck
  apply ends_state
  exact ends_ite (fun zero => absurd zero same.size) (fun _ => ends_pure (.inl ⟨same, eventos⟩))

/-- A place without a connection is passed over. -/
theorem clientIsConnected_free (free : d.client.tcp = none) :
    Ends (fun _ => True) clientIsConnected d fun r u => r = false ∧ u = d := by
  apply ends_state
  rw [free]
  exact ⟨rfl, rfl⟩

theorem serveClient_free (free : d.client.tcp = none) :
    Ends (fun _ => True) (serveClient acceptKey) d fun _ u => u = d := by
  apply ends_bind (clientIsConnected_free free)
  intro r u after
  rw [after.1, after.2]
  exact ends_ite (fun yes => absurd yes (by simp)) (fun _ => ends_pure rfl)

end Serve

/-- The connection is a websocket at `url`, and of its frames `served` were handed over. -/
structure Upgraded (sent : Conexion) (url : Bytes) (served rest : List Frame) : Prop where
  upgrade : sent.Upgrade url
  split : sent.frames = served ++ rest
  accepted : ∀ f ∈ served, f.Accepted

/-- The calls of the callback for them. -/
def calls (n : BitVec 8) (url : Bytes) (served : List Frame) : List CbEvent :=
  ⟨n, .connected, url⟩ :: served.map (Frame.event · n)

/-- What the sketch is told of a connection before its end: nothing, or that it is there and
then the first of its frames, each once and in their order. -/
inductive Heard (n : BitVec 8) (sent : Conexion) : List CbEvent → Prop where
  | silent : Heard n sent []
  | upgraded (url : Bytes) (served rest : List Frame) (upgraded : Upgraded sent url served rest) :
      Heard n sent (calls n url served)

/-- A connection that stands, with what the sketch was told of it. -/
inductive Live (n : BitVec 8) (sent : Conexion) (c : WSclient) : List CbEvent → Prop where
  | asking (left : List Bytes) (client : Asking sent left c) : Live n sent c []
  | upgraded (url : Bytes) (served rest : List Frame) (upgraded : Upgraded sent url served rest)
      (client : Up rest c ∨ Stuck c) : Live n sent c (calls n url served)

/-- Connections that are over, one after the other: each was heard, and then the sketch
was told of its end. -/
inductive Past (n : BitVec 8) : List Conexion → List CbEvent → Prop where
  | none : Past n [] []
  | ended {before : List Conexion} {sent : Conexion} {old told : List CbEvent}
      (past : Past n before old) (heard : Heard n sent told) :
      Past n (before ++ [sent]) (old ++ told ++ [⟨n, .disconnected, []⟩])

/-- What the sketch was told of a place that had the connections `sents`. -/
inductive History (n : BitVec 8) (sents : List Conexion) (told : List CbEvent)
    (c : WSclient) : Prop where
  | free (past : Past n sents told) (free : Free c)
  | open_ (before : List Conexion) (sent : Conexion) (old new : List CbEvent)
      (last : sents = before ++ [sent]) (past : Past n before old) (live : Live n sent c new)
      (eventos : told = old ++ new)

section History

variable {acceptKey : Bytes → Bytes} {n : BitVec 8} {sent : Conexion} {sents : List Conexion}
  {told new : List CbEvent} {d : Session} {c : WSclient}

theorem Upgraded.next {url : Bytes} {served later : List Frame} {f : Frame}
    (upgraded : Upgraded sent url served (f :: later)) (accepted : f.Accepted) :
    Upgraded sent url (served ++ [f]) later where
  upgrade := upgraded.upgrade
  split := by rw [upgraded.split, List.append_assoc, List.singleton_append]
  accepted := by
    intro g member
    rcases List.mem_append.1 member with old | young
    · exact upgraded.accepted g old
    · rw [List.mem_singleton.1 young]
      exact accepted

theorem calls_concat (n : BitVec 8) (url : Bytes) (served : List Frame) (f : Frame) :
    calls n url (served ++ [f]) = calls n url served ++ [f.event n] := by
  rw [calls, calls, List.map_append, List.map_singleton, List.cons_append]

theorem Live.heard (live : Live n sent c new) : Heard n sent new := by
  cases live with
  | asking => exact .silent
  | upgraded url served rest upgraded => exact .upgraded url served rest upgraded

theorem Live.tcp (live : Live n sent c new) : ∃ t, c.tcp = some t := by
  cases live with
  | asking left client => exact client.unread.imp fun t here => here.1
  | upgraded url served rest upgraded client =>
    exact client.elim (fun up => up.unread.imp fun t here => here.1) Stuck.tcp

/-- A connection that is served goes on or is over. -/
theorem serveClient_live (atento : Atento d.looks) (num : d.client.num = n)
    (live : Live n sent d.client new) :
    Ends (fun _ => True) (serveClient acceptKey) d fun _ u =>
      (∃ more, u.eventos = d.eventos ++ more ∧ Live n sent u.client (new ++ more)) ∨
        (u.eventos = d.eventos ++ [⟨d.client.num, .disconnected, []⟩] ∧ Free u.client) := by
  cases live with
  | asking left client =>
    apply ends_mono (serveClient_asking atento client)
    intro _ u asked
    cases asked with
    | waits left asking eventos =>
      exact .inl ⟨[], eventos.trans (List.append_nil _).symm, .asking left asking⟩
    | upgraded url upgrade up eventos =>
      rw [num] at eventos
      refine .inl ⟨_, eventos, ?_⟩
      exact .upgraded url [] sent.frames ⟨upgrade, rfl, by simp⟩ (.inl up)
    | refused eventos free => exact .inr ⟨eventos, free⟩
  | upgraded url served rest upgraded client =>
    have same {u : Session} (eventos : u.eventos = d.eventos)
        (client : Up rest u.client ∨ Stuck u.client) :
        ∃ more, u.eventos = d.eventos ++ more ∧
          Live n sent u.client (calls n url served ++ more) := by
      refine ⟨[], eventos.trans (List.append_nil _).symm, ?_⟩
      rw [List.append_nil]
      exact .upgraded url served rest upgraded client
    rcases client with waits | stuck
    · have wide : ∀ f ∈ rest, f.payload.length < 2 ^ 32 := by
        intro f member
        refine sent.wide f ?_
        rw [upgraded.split]
        exact List.mem_append_right _ member
      apply ends_mono (serveClient_up wide waits)
      intro _ u turn
      cases turn with
      | nothing up eventos => exact .inl (same eventos (.inl up))
      | served f later split accepted up eventos =>
        subst split
        refine .inl ⟨_, eventos, ?_⟩
        rw [num, ← calls_concat]
        exact .upgraded url _ later (upgraded.next accepted) (.inl up)
      | stuck stuck eventos => exact .inl (same eventos (.inr stuck))
      | down eventos free => exact .inr ⟨eventos, free⟩
    · apply ends_mono (serveClient_stuck stuck)
      intro _ u after
      rcases after with ⟨stuck, eventos⟩ | ended
      · exact .inl (same eventos (.inr stuck))
      · exact .inr ended

theorem serveClient_history (atento : Atento d.looks) (num : d.client.num = n)
    (history : History n sents told d.client) :
    Ends (fun _ => True) (serveClient acceptKey) d fun _ u => ∃ new, u.eventos = d.eventos ++ new ∧
      History n sents (told ++ new) u.client := by
  cases history with
  | free past free =>
    apply ends_mono (serveClient_free free.tcp)
    intro _ u same
    rw [same]
    exact ⟨[], (List.append_nil _).symm, (List.append_nil told).symm ▸ .free past free⟩
  | open_ before sent old new last past live eventos =>
    apply ends_mono (serveClient_live atento num live)
    intro _ u after
    rcases after with ⟨more, eventos', stands⟩ | ⟨eventos', free⟩
    · refine ⟨more, eventos', .open_ before sent old (new ++ more) last past stands ?_⟩
      rw [eventos, List.append_assoc]
    · refine ⟨_, eventos', ?_⟩
      rw [last, eventos, num]
      exact .free (.ended past live.heard) free

/-- A place is given away only when its connection is over, and the sketch is told of
nothing else. -/
theorem clientIsConnected_history (num : d.client.num = n)
    (history : History n sents told d.client) :
    Ends (fun _ => True) clientIsConnected d fun r u => ∃ new, u.eventos = d.eventos ++ new ∧
      History n sents (told ++ new) u.client ∧ (∀ e ∈ new, e.type = .disconnected) ∧
        (r = true → ∃ t, u.client.tcp = some t) ∧
        (r = false → Past n sents (told ++ new) ∧ Free u.client) := by
  have none_ : ∀ e ∈ ([] : List CbEvent), e.type = .disconnected := by simp
  cases history with
  | free past free =>
    apply ends_mono (clientIsConnected_free free.tcp)
    intro r u same
    rw [same.2]
    have past' := (List.append_nil told).symm ▸ past
    refine ⟨[], (List.append_nil _).symm, .free past' free, none_, fun yes => ?_,
      fun _ => ⟨past', free⟩⟩
    rw [same.1] at yes
    exact absurd yes (by simp)
  | open_ before sent old new last past live eventos =>
    obtain ⟨t, here⟩ := live.tcp
    apply ends_mono (clientIsConnected_ends here)
    intro r u after
    rcases after with ⟨yes, same, eventos', _⟩ | ⟨no, eventos', free⟩
    · refine ⟨[], eventos'.trans (List.append_nil _).symm, ?_, none_, fun _ => ?_, fun no => ?_⟩
      · rw [List.append_nil, same]
        exact .open_ before sent old new last past live eventos
      · exact ⟨t, same ▸ here⟩
      · rw [yes] at no
        exact absurd no (by simp)
    · have ended : Past n sents (told ++ [⟨d.client.num, .disconnected, []⟩]) := by
        rw [last, eventos, num]
        exact .ended past live.heard
      refine ⟨_, eventos', .free ended free, ?_, fun yes => ?_, fun _ => ⟨ended, free⟩⟩
      · intro e member
        rw [List.mem_singleton.1 member]
      · rw [no] at yes
        exact absurd yes (by simp)

/-- Writing to a connection takes nothing from what it has to read. -/
theorem History.reads {u : Session} (history : History n sents told d.client)
    (reads : Reads [] d u) : History n sents told u.client := by
  obtain ⟨t, t', here, there, unread⟩ := reads.tcp
  rw [reads.client]
  have same {bytes : Bytes} (before : ∃ t, d.client.tcp = some t ∧ t.unread = bytes) :
      ∃ t, u.client.tcp = some t ∧ t.unread = bytes := by
    obtain ⟨t'', here', unread'⟩ := before
    refine ⟨t', there, ?_⟩
    rw [← unread', ← Option.some.inj (here.symm.trans here'), unread]
    rfl
  cases history with
  | free _ free =>
    rw [free.tcp] at here
    exact absurd here (by simp)
  | open_ before sent old new last past live eventos =>
    refine .open_ before sent old new last past ?_ eventos
    cases live with
    | asking left client => exact .asking left ⟨client.status, client.read, same client.unread⟩
    | upgraded url served rest upgraded client =>
      refine .upgraded url served rest upgraded ?_
      rcases client with up | stuck
      · exact .inl ⟨up.status, up.size, same up.unread⟩
      · exact .inr ⟨stuck.status, stuck.size, t', there⟩

/-- A broadcast only drops clients that are lost. -/
theorem broadcastClient_history (payload : Bytes) (num : d.client.num = n)
    (history : History n sents told d.client) :
    Ends (fun _ => True) (broadcastClient payload) d fun _ u => ∃ new,
      u.eventos = d.eventos ++ new ∧ History n sents (told ++ new) u.client ∧
        ∀ e ∈ new, e.type = .disconnected := by
  apply ends_bind (clientIsConnected_history num history)
  intro r d1 after
  obtain ⟨new, eventos, history, lost, stands, _⟩ := after
  apply ends_ite
  · intro yes
    obtain ⟨t, here⟩ := stands yes
    apply ends_bind (sendFrame_ends WSop_text payload true here)
    intro _ u reads
    exact ⟨new, reads.eventos.trans eventos, history.reads reads, lost⟩
  · intro _
    exact ⟨new, eventos, history, lost⟩

end History

end Chimenea.WebSockets
