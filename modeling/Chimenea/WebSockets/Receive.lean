import Chimenea.WebSockets.Client

/-!
What a client of the websocket server makes of a frame that the other end sends,
however the network cuts it up.
-/

namespace Chimenea.WebSockets
open Arduino Machine
open Sketch (WStype)

/-- A network that does its part: the connection stands, there is memory, and no look
is later than another by more than the library waits. -/
structure Steady (looks : List Look) : Prop where
  stands : ∀ l ∈ looks, l.connected = true ∧ l.memory = true
  prompt : looks.Pairwise fun l l' => (l'.millis - l.millis).toNat ≤ WEBSOCKETS_TCP_TIMEOUT

theorem Steady.sublist {looks looks' : List Look} (steady : Steady looks)
    (part : looks'.Sublist looks) : Steady looks' where
  stands := fun l member => steady.stands l (part.subset member)
  prompt := steady.prompt.sublist part

/-- From one session to a later one the bytes `front` were read, and nothing else was
done but to write to the connection. -/
structure Reads (front : Bytes) (d d' : Session) : Prop where
  looks : d'.looks <:+ d.looks
  eventos : d'.eventos = d.eventos
  client : d'.client = { d.client with tcp := d'.client.tcp }
  tcp : ∃ t t', d.client.tcp = some t ∧ d'.client.tcp = some t' ∧ t.unread = front ++ t'.unread

/-- The client is still there, and the sketch was told nothing. -/
structure Quiet (d d' : Session) : Prop where
  looks : d'.looks <:+ d.looks
  eventos : d'.eventos = d.eventos
  num : d'.client.num = d.client.num
  tcp : ∃ t, d'.client.tcp = some t

/-- The client was dropped and the sketch told so. -/
structure Dropped (d d' : Session) : Prop where
  looks : d'.looks <:+ d.looks
  eventos : d'.eventos = d.eventos ++ [⟨d.client.num, .disconnected, []⟩]
  num : d'.client.num = d.client.num
  status : d'.client.status = .notConnected
  tcp : d'.client.tcp = none
  http : d'.client.http = d'.client.http.reset
  size : d'.client.cWsRXsize = 0

section Network

variable {d d' d'' : Session} {front back : Bytes} {t : WiFiClient}

theorem Reads.trans (first : Reads front d d') (second : Reads back d' d'') :
    Reads (front ++ back) d d'' where
  looks := second.looks.trans first.looks
  eventos := second.eventos.trans first.eventos
  client := by rw [second.client, first.client]
  tcp := by
    obtain ⟨t, t', here, there, unread⟩ := first.tcp
    obtain ⟨u, u', here', there', unread'⟩ := second.tcp
    have same : t' = u := Option.some.inj (there.symm.trans here')
    refine ⟨t, u', here, there', ?_⟩
    rw [unread, same, unread', List.append_assoc]

/-- Where the library asks for its state, it goes on with the state it is in. -/
theorem ends_state {α : Type} {next : Session → Library α} {Q : α → Session → Prop}
    {E : Option Empty → Prop} (after : Ends E (next d) d Q) : Ends E (get >>= next) d Q := by
  apply ends_bind (ends_get (Q := fun v s => v = d ∧ s = d) ⟨rfl, rfl⟩)
  intro v s same
  rw [same.1, same.2]
  exact after

theorem Reads.quiet (reads : Reads front d d') : Quiet d d' where
  looks := reads.looks
  eventos := reads.eventos
  num := by rw [reads.client]
  tcp := by
    obtain ⟨_, t', _, there, _⟩ := reads.tcp
    exact ⟨t', there⟩

theorem Quiet.trans (first : Quiet d d') (second : Quiet d' d'') : Quiet d d'' where
  looks := second.looks.trans first.looks
  eventos := second.eventos.trans first.eventos
  num := second.num.trans first.num
  tcp := second.tcp

/-- A look takes the first of those that are to come. -/
theorem look_ends {Q : Look → Session → Prop}
    (after : ∀ l looks, d.looks = l :: looks → Q l { d with looks := looks }) :
    Ends (fun _ => True) look d Q := by
  apply ends_state
  cases here : d.looks with
  | nil => trivial
  | cons l looks => exact after l looks here

theorem setClient_ends {Q : Unit → Session → Prop} {E : Option Empty → Prop}
    {f : WSclient → WSclient} (after : Q () { d with client := f d.client }) :
    Ends E (setClient f) d Q := after

/-- A look at a connection. -/
theorem look_reads (here : d.client.tcp = some t) :
    Ends (fun _ => True) look d fun l d' =>
      Reads [] d d' ∧ d'.client = d.client ∧ d.looks = l :: d'.looks := by
  apply look_ends
  intro l looks next
  refine ⟨⟨?_, rfl, rfl, t, t, here, here, rfl⟩, rfl, next⟩
  rw [next]
  exact List.suffix_cons ..

theorem connected_ends (here : d.client.tcp = some t) :
    Ends (fun _ => True) connected d fun r d' =>
      Reads [] d d' ∧ d'.client = d.client ∧ (Steady d.looks → r = true) := by
  apply ends_state
  rw [here]
  apply ends_bind (look_reads here)
  intro l d' after
  obtain ⟨reads, client, next⟩ := after
  refine ⟨reads, client, ?_⟩
  intro steady
  exact (steady.stands l (next ▸ List.mem_cons_self ..)).1

/-- A connection is late only where two looks are too far apart. -/
theorem prompt_of_steady {l l' : Look} {looks : List Look} (steady : Steady looks)
    (apart : [l, l'].Sublist looks) : expired l.millis l' = false := by
  have prompt := (steady.prompt.sublist apart)
  rw [List.pairwise_pair] at prompt
  exact decide_eq_false (Nat.not_lt.2 prompt)

end Network

section Read

variable {d : Session} {t : WiFiClient} {front back : Bytes}

/-- In the loop of `readCb`: what was read is the beginning of `front`, the rest is wanted,
and the last byte came with the look `l`. -/
structure Waiting (front back : Bytes) (d : Session) (turn : BitVec 32 × Nat × Bytes)
    (d' : Session) : Prop where
  reads : Reads turn.2.2 d d'
  more : ∃ rest, front = turn.2.2 ++ rest ∧ turn.2.1 = rest.length ∧
    ∃ t', d'.client.tcp = some t' ∧ t'.unread = rest ++ back
  last : ∃ l, turn.1 = l.millis ∧ (l :: d'.looks).Sublist d.looks

theorem readTurn_ends {turn : BitVec 32 × Nat × Bytes} {d' : Session}
    (waiting : Waiting front back d turn d') :
    Ends (fun _ => True) (readTurn turn) d' fun r u => r.elim
      (fun next => Waiting front back d next u ∧ u.looks.length < d'.looks.length)
      (fun bytes => (∃ part, Reads part d u) ∧
        (∀ all, bytes = some all → all = front ∧ Reads front d u) ∧
        (bytes = none → ¬ Steady d.looks)) := by
  obtain ⟨time, n, out⟩ := turn
  obtain ⟨reads, ⟨rest, split, wanted, t', here, unread⟩, l0, clock, sub⟩ := waiting
  dsimp only at reads split wanted clock
  apply ends_ite
  · intro done
    have whole : rest = [] := List.length_eq_zero_iff.1 (wanted ▸ done)
    rw [whole, List.append_nil] at split
    refine ⟨⟨out, reads⟩, ?_, fun none => absurd none (by simp)⟩
    intro all same
    rw [← Option.some.inj same, split]
    exact ⟨rfl, reads⟩
  intro wants
  apply ends_state
  rw [here]
  apply ends_bind (look_reads here)
  intro l d1 after
  obtain ⟨reads1, client1, next⟩ := after
  have member : l ∈ d.looks := sub.subset (by rw [next]; simp)
  apply ends_ite
  · intro gone
    refine ⟨⟨_, reads.trans reads1⟩, fun all some => absurd some (by simp), ?_⟩
    intro _ steady
    exact absurd gone (by rw [(steady.stands l member).1]; simp)
  intro _
  apply ends_ite
  · intro late
    refine ⟨⟨_, reads.trans reads1⟩, fun all some => absurd some (by simp), ?_⟩
    intro _ steady
    have apart : [l0, l].Sublist d.looks := by
      rw [next] at sub
      exact (((List.nil_sublist _).cons_cons l).cons_cons l0).trans sub
    rw [clock, prompt_of_steady steady apart] at late
    exact absurd late (by simp)
  intro _
  have shorter : d1.looks.length < d'.looks.length := by
    rw [next]
    exact Nat.lt_succ_self _
  apply ends_ite
  · intro nothing
    refine ⟨⟨?_, ⟨rest, split, wanted, t', ?_, unread⟩, l0, clock, ?_⟩, shorter⟩
    · exact List.append_nil out ▸ reads.trans reads1
    · rw [client1, here]
    · rw [next] at sub
      exact ((List.sublist_cons_self l d1.looks).cons_cons l0).trans sub
  · intro _
    obtain ⟨bytes, more, parts, got⟩ : ∃ bytes more, rest = bytes ++ more ∧
        t'.unread.take (min l.len n) = bytes := by
      refine ⟨_, _, (List.take_append_drop (min l.len n) rest).symm, ?_⟩
      rw [unread, List.take_append_of_le_length (wanted ▸ Nat.min_le_right ..)]
    have left : t'.unread.drop bytes.length = more ++ back := by
      rw [unread, parts, List.append_assoc, List.drop_left]
    rw [got]
    apply ends_bind (setClient_ends (Q := fun _ u => u = { d1 with client := { d1.client with
      tcp := some { t' with unread := t'.unread.drop bytes.length } } }) rfl)
    intro _ d2 set
    rw [left] at set
    have here2 : d2.client.tcp = some { t' with unread := more ++ back } := by rw [set]
    have reads2 : Reads bytes d1 d2 := by
      refine ⟨?_, ?_, ?_, t', _, client1.symm ▸ here, here2, ?_⟩
      · rw [set]
      · rw [set]
      · rw [set]
      · rw [unread, parts, List.append_assoc]
    apply ends_bind (look_reads here2)
    intro now d3 after3
    obtain ⟨reads3, client3, next3⟩ := after3
    have all := (reads.trans reads1).trans (reads2.trans reads3)
    rw [List.append_nil, List.append_nil] at all
    refine ⟨⟨all, ⟨more, ?_, ?_, _, (congrArg WSclient.tcp client3).trans here2,
      rfl⟩, now, rfl, ?_⟩, ?_⟩
    · rw [List.append_assoc, ← parts, split]
    · rw [wanted, parts, List.length_append, Nat.add_sub_cancel_left]
    · rw [← next3]
      exact ((reads2.looks.trans reads1.looks).trans reads.looks).sublist
    · have fewer : d2.looks.length = d1.looks.length := by rw [set]
      rw [← fewer, next3] at shorter
      exact (Nat.lt_succ_self _).trans shorter

/-- `readCb` reads exactly the bytes it is asked for, in their order, or it gives up
because the network did not do its part. -/
theorem readCb_ends (here : d.client.tcp = some t) (unread : t.unread = front ++ back) :
    Ends (fun _ => True) (readCb front.length) d fun bytes u => (∃ part, Reads part d u) ∧
      (∀ all, bytes = some all → all = front ∧ Reads front d u) ∧
      (bytes = none → ¬ Steady d.looks) := by
  apply ends_bind (look_reads here)
  intro l d1 after
  obtain ⟨reads, client, next⟩ := after
  apply ends_state
  apply ends_loop (fun u => u.looks.length) (Waiting front back d)
  · intro turn u waiting
    exact readTurn_ends waiting
  · exact {
      reads := reads
      more := ⟨front, rfl, rfl, t, (congrArg WSclient.tcp client).trans here, unread⟩
      last := ⟨l, rfl, by rw [next]⟩ }
  · exact Nat.lt_succ_self _

end Read

section Write

variable {d d' : Session} {t : WiFiClient}

theorem writeTurn_ends {turn : BitVec 32 × Bytes × Nat} (wrote : Reads [] d d') :
    Ends (fun _ => True) (writeTurn turn) d' fun r u => r.elim
      (fun _ => Reads [] d u ∧ u.looks.length < d'.looks.length) (fun _ => Reads [] d u) := by
  obtain ⟨time, out, total⟩ := turn
  obtain ⟨_, t', _, here, _⟩ := wrote.tcp
  apply ends_ite
  · intro _
    exact wrote
  intro _
  apply ends_state
  rw [here]
  apply ends_bind (look_reads here)
  intro l d1 after
  obtain ⟨reads1, client1, next⟩ := after
  have shorter : d1.looks.length < d'.looks.length := by
    rw [next]
    exact Nat.lt_succ_self _
  apply ends_ite
  · intro _
    exact wrote.trans reads1
  intro _
  apply ends_ite
  · intro _
    exact wrote.trans reads1
  intro _
  apply ends_ite
  · intro _
    exact ⟨wrote.trans reads1, shorter⟩
  intro _
  apply ends_bind (setClient_ends (Q := fun _ u => u = { d1 with client := { d1.client with
    tcp := some { t' with written := t'.written ++ out.take l.len } } }) rfl)
  intro _ d2 set
  have here2 : d2.client.tcp = some { t' with written := t'.written ++ out.take l.len } := by
    rw [set]
  have reads2 : Reads [] d1 d2 := by
    refine ⟨?_, ?_, ?_, t', _, client1.symm ▸ here, here2, rfl⟩
    all_goals rw [set]
  apply ends_bind (look_reads here2)
  intro now d3 after3
  obtain ⟨reads3, _, next3⟩ := after3
  refine ⟨(wrote.trans reads1).trans (reads2.trans reads3), ?_⟩
  have fewer : d2.looks.length = d1.looks.length := by rw [set]
  rw [← fewer, next3] at shorter
  exact (Nat.lt_succ_self _).trans shorter

theorem write_ends (out : Bytes) (here : d.client.tcp = some t) :
    Ends (fun _ => True) (write out) d fun _ u => Reads [] d u := by
  apply ends_bind (look_reads here)
  intro l d1 after
  apply ends_state
  apply ends_loop (fun u => u.looks.length) fun _ u => Reads [] d u
  · intro turn u wrote
    exact writeTurn_ends wrote
  · exact after.1
  · exact Nat.lt_succ_self _

/-- Sending a frame leaves what the other end sends alone. -/
theorem sendFrame_ends (opcode : WSopcode) (payload : Bytes) (fin : Bool)
    (here : d.client.tcp = some t) :
    Ends (fun _ => True) (sendFrame opcode payload fin) d fun _ u => Reads [] d u := by
  apply ends_bind (connected_ends here)
  intro r d1 after
  obtain ⟨reads1, client1, _⟩ := after
  have here1 := (congrArg WSclient.tcp client1).trans here
  apply ends_ite
  · intro _
    exact reads1
  intro _
  apply ends_state
  apply ends_ite
  · intro _
    exact reads1
  intro _
  apply ends_bind (look_reads here1)
  intro l d2 after2
  obtain ⟨reads2, client2, _⟩ := after2
  have here2 := (congrArg WSclient.tcp client2).trans here1
  have before := reads1.trans reads2
  apply ends_ite
  · intro _
    apply ends_bind (write_ends _ here2)
    intro n u wrote
    exact before.trans wrote
  · intro _
    apply ends_bind (write_ends _ here2)
    intro n u wrote
    obtain ⟨_, t', _, here', _⟩ := wrote.tcp
    apply ends_ite
    · intro _
      exact before.trans wrote
    · intro _
      apply ends_bind (write_ends payload here')
      intro m w wrote'
      exact (before.trans wrote).trans wrote'

theorem dropClient_ends (quiet : Quiet d d') :
    Ends (fun _ => True) dropClient d' fun _ u => Dropped d u := by
  exact {
    looks := quiet.looks
    eventos := by
      change d'.eventos ++ [⟨d'.client.num, WStype.disconnected, []⟩] = _
      rw [quiet.eventos, quiet.num]
    num := quiet.num
    status := rfl
    tcp := rfl
    http := rfl
    size := rfl }

/-- However the close frame fares, the client is dropped. -/
theorem clientDisconnect_ends (code : BitVec 16) (quiet : Quiet d d') :
    Ends (fun _ => True) (clientDisconnect code) d' fun _ u => Dropped d u := by
  obtain ⟨t', here⟩ := quiet.tcp
  apply ends_state
  apply ends_ite
  · intro _
    apply ends_bind (sendFrame_ends _ _ true here)
    intro _ u sent
    exact dropClient_ends (quiet.trans sent.quiet)
  · intro _
    exact dropClient_ends quiet

end Write

/-- A frame the library hands to the sketch. -/
structure Frame.Accepted (f : Frame) : Prop where
  small : f.payload.length ≤ WEBSOCKETS_MAX_DATA_SIZE
  opCode : f.opCode = WSop_text ∨ f.opCode = WSop_binary ∨ f.opCode = WSop_continuation ∨
    f.opCode = WSop_ping ∨ f.opCode = WSop_pong

theorem Frame.Accepted.wide {f : Frame} (accepted : f.Accepted) : f.payload.length < 2 ^ 32 := by
  have small := accepted.small
  unfold WEBSOCKETS_MAX_DATA_SIZE at small
  omega

/-- The call of the callback for a frame. -/
def Frame.event (f : Frame) (num : BitVec 8) : CbEvent :=
  ⟨num, messageType f.opCode f.fin, f.payload⟩

/-- The first `k` bytes of the header of `f` were read. -/
structure Reading (f : Frame) (rest : Bytes) (k : Nat) (start d : Session) : Prop
    extends Quiet start d where
  status : d.client.status = .connected
  size : d.client.cWsRXsize = k
  header : 0 < k → d.client.cWsHeader = f.header.take k
  unread : ∃ t, d.client.tcp = some t ∧ t.unread = f.header.drop k ++ (f.body ++ rest)

/-- A frame was read to its end, and `rest` is behind it. -/
structure Complete (rest : Bytes) (start d : Session) : Prop extends Quiet start d where
  status : d.client.status = .connected
  unread : ∃ t, d.client.tcp = some t ∧ t.unread = rest

/-- The frame was handed to the sketch, and the next one is in front. -/
structure Served (f : Frame) (rest : Bytes) (start d : Session) : Prop where
  accepted : f.Accepted
  looks : d.looks <:+ start.looks
  eventos : d.eventos = start.eventos ++ [f.event start.client.num]
  num : d.client.num = start.client.num
  status : d.client.status = .connected
  unread : ∃ t, d.client.tcp = some t ∧ t.unread = rest

/-- What a call of `handleWebsocket` comes to with the frame `f` in front: the frame is
served, or the client is dropped, or the connection was found broken and is left as it is. -/
inductive Outcome (f : Frame) (rest : Bytes) (start d : Session) : Prop where
  | served (served : Served f rest start d) (size : d.client.cWsRXsize = 0)
  | dropped (dropped : Dropped start d) (why : Steady start.looks → ¬ f.Accepted)
  | broken (k : Nat) (reading : Reading f rest k start d) (why : ¬ Steady start.looks)

section Receive

variable {f : Frame} {rest : Bytes} {k : Nat} {start d : Session}

theorem Reading.reads {d' : Session} {front : Bytes} (reading : Reading f rest k start d)
    (reads : Reads front d d') (same : front = []) : Reading f rest k start d' := by
  obtain ⟨t, here, unread⟩ := reading.unread
  obtain ⟨u, u', there, here', left⟩ := reads.tcp
  have tcp : t = u := Option.some.inj (here.symm.trans there)
  rw [tcp, left, same, List.nil_append] at unread
  exact {
    toQuiet := reading.toQuiet.trans reads.quiet
    status := by
      rw [reads.client]
      exact reading.status
    size := by
      rw [reads.client]
      exact reading.size
    header := by
      rw [reads.client]
      exact reading.header
    unread := ⟨u', here', unread⟩ }

theorem drop_split {bytes : Bytes} {k size : Nat} (later : k ≤ size)
    (inside : size ≤ bytes.length) :
    (bytes.take size).drop k ++ bytes.drop size = bytes.drop k := by
  rw [← List.drop_append_of_le_length, List.take_append_drop]
  rwa [List.length_take_of_le inside]

/-- Reading on from the first `k` bytes of the header to the first `size`. -/
theorem Reading.more {d' : Session} {size : Nat} (reading : Reading f rest k start d)
    (reads : Reads ((f.header.take size).drop k) d d') (later : k ≤ size)
    (inside : size ≤ f.header.length) : Reading f rest size start { d' with client := { d'.client with
      cWsHeader := d'.client.cWsHeader.take d'.client.cWsRXsize ++ (f.header.take size).drop k
      cWsRXsize := size } } := by
  obtain ⟨t, here, unread⟩ := reading.unread
  obtain ⟨u, u', there, there', left⟩ := reads.tcp
  have tcp : t = u := Option.some.inj (here.symm.trans there)
  have quiet := reading.toQuiet.trans reads.quiet
  have front : d.client.cWsHeader.take k = f.header.take k := by
    rcases Nat.eq_zero_or_pos k with zero | some
    · rw [zero, List.take_zero, List.take_zero]
    · rw [reading.header some, List.take_take, Nat.min_self]
  have whole : f.header.take k ++ (f.header.take size).drop k = f.header.take size := by
    have before : f.header.take k = (f.header.take size).take k := by
      rw [List.take_take, Nat.min_eq_left later]
    rw [before, List.take_append_drop]
  exact {
    looks := quiet.looks
    eventos := quiet.eventos
    num := quiet.num
    tcp := quiet.tcp
    status := by
      change d'.client.status = _
      rw [reads.client]
      exact reading.status
    size := rfl
    header := by
      intro _
      change d'.client.cWsHeader.take d'.client.cWsRXsize ++ (f.header.take size).drop k = _
      rw [reads.client]
      change d.client.cWsHeader.take d.client.cWsRXsize ++ (f.header.take size).drop k = _
      rw [reading.size, front, whole]
    unread := by
      rw [tcp, left, ← drop_split later inside, List.append_assoc] at unread
      exact ⟨u', there', List.append_cancel_left unread⟩ }

/-- Where the header is not read up to `size`, `cb` goes on with the rest of it. -/
theorem waitFor_ends {cb : Library Unit} {size : Nat} (reading : Reading f rest k start d)
    (fits : size ≤ WEBSOCKETS_MAX_HEADER_SIZE) (inside : size ≤ f.header.length)
    (next : ∀ d', k < size → Reading f rest size start d' →
      Ends (fun _ => True) cb d' fun _ u => Outcome f rest start u) :
    Ends (fun _ => True) (handleWebsocketWaitFor cb size) d fun r u =>
      (r = true ∧ size ≤ k ∧ Reading f rest k start u) ∨ (r = false ∧ Outcome f rest start u) := by
  obtain ⟨t, here, unread⟩ := reading.unread
  apply ends_bind (connected_ends here)
  intro r d1 after
  obtain ⟨reads1, client1, stands⟩ := after
  have reading1 := reading.reads reads1 rfl
  apply ends_ite
  · intro gone
    refine .inr ⟨rfl, .broken k reading1 ?_⟩
    intro steady
    rw [stands (steady.sublist reading.looks.sublist)] at gone
    exact absurd gone (by simp)
  intro _
  apply ends_ite
  · intro large
    exact absurd fits (Nat.not_le.2 large)
  intro _
  apply ends_state
  rw [reading1.size]
  apply ends_ite
  · intro ready
    exact .inl ⟨rfl, ready, reading1⟩
  intro missing
  have short : k < size := Nat.not_le.1 missing
  obtain ⟨t1, here1, unread1⟩ := reading1.unread
  have part : (f.header.take size).drop k ++ (f.header.drop size ++ (f.body ++ rest)) =
      f.header.drop k ++ (f.body ++ rest) := by
    rw [← List.append_assoc, drop_split short.le inside]
  have wanted : ((f.header.take size).drop k).length = size - k := by
    rw [List.length_drop, List.length_take_of_le inside]
  have run := readCb_ends here1 (unread1.trans part.symm)
  rw [wanted] at run
  apply ends_bind run
  intro bytes d2 after2
  obtain ⟨⟨_, reads2⟩, whole, failed⟩ := after2
  cases bytes with
  | some bytes =>
    obtain ⟨all, reads3⟩ := whole bytes rfl
    rw [all]
    apply ends_bind (setClient_ends (Q := fun _ u => u = { d2 with client := { d2.client with
      cWsHeader := d2.client.cWsHeader.take d2.client.cWsRXsize ++ (f.header.take size).drop k,
      cWsRXsize := size } }) rfl)
    intro _ d3 set
    apply ends_bind (next d3 short (set ▸ reading1.more reads3 short.le inside))
    intro _ u outcome
    exact .inr ⟨rfl, outcome⟩
  | none =>
    apply ends_bind (setClient_ends (Q := fun _ u => Quiet start u) ?_)
    · intro _ d3 quiet
      apply ends_bind (clientDisconnect_ends _ quiet)
      intro _ u dropped
      refine .inr ⟨rfl, .dropped dropped ?_⟩
      intro steady
      exact absurd (steady.sublist reading1.looks.sublist) (failed rfl)
    · have quiet := reading1.toQuiet.trans reads2.quiet
      exact ⟨quiet.looks, quiet.eventos, quiet.num, quiet.tcp⟩

theorem messageReceived_ends {opcode : WSopcode} {fin : Bool} (complete : Complete rest start d)
    (accepted : f.Accepted) (same : f.opCode = opcode) (last : f.fin = fin) :
    Ends (fun _ => True) (messageReceived opcode f.payload fin) d fun _ u =>
      Served f rest start u := by
  exact {
    accepted := accepted
    looks := complete.looks
    eventos := by
      change d.eventos ++ [⟨d.client.num, messageType opcode fin, f.payload⟩] = _
      rw [complete.eventos, complete.num, Frame.event, same, last]
    num := complete.num
    status := complete.status
    unread := complete.unread }

theorem handleOpCode_ends {header : WSMessageHeader} (same : f.opCode = header.opCode)
    (last : f.fin = header.fin) (small : f.payload.length ≤ WEBSOCKETS_MAX_DATA_SIZE)
    (complete : Complete rest start d) :
    Ends (fun _ => True) (handleOpCode header f.payload) d fun _ u =>
      Served f rest start u ∨ (Dropped start u ∧ ¬ f.Accepted) := by
  obtain ⟨t, here, unread⟩ := complete.unread
  have served {d' : Session} (complete : Complete rest start d') (accepted : f.Accepted) :
      Ends (fun _ => True) (messageReceived header.opCode f.payload header.fin) d' fun _ u =>
        Served f rest start u ∨ (Dropped start u ∧ ¬ f.Accepted) := by
    apply ends_mono (messageReceived_ends complete accepted same last)
    intro _ u told
    exact .inl told
  have dropped (code : BitVec 16) (refused : ¬ f.Accepted) :
      Ends (fun _ => True) (clientDisconnect code) d fun _ u =>
        Served f rest start u ∨ (Dropped start u ∧ ¬ f.Accepted) := by
    apply ends_mono (clientDisconnect_ends code complete.toQuiet)
    intro _ u dropped
    exact .inr ⟨dropped, refused⟩
  apply ends_ite
  · intro data
    rw [← same] at data
    exact served complete ⟨small, by tauto⟩
  intro control
  apply ends_ite
  · intro ping
    apply ends_bind (sendFrame_ends _ _ _ here)
    intro _ u sent
    obtain ⟨t', u', here', there, left⟩ := sent.tcp
    have tcp : t = t' := Option.some.inj (here.symm.trans here')
    rw [tcp, left] at unread
    have after : Complete rest start u := {
      toQuiet := complete.toQuiet.trans sent.quiet
      status := by
        rw [sent.client]
        exact complete.status
      unread := ⟨u', there, unread⟩ }
    exact served after ⟨small, by rw [same]; tauto⟩
  intro noPing
  apply ends_ite
  · intro pong
    have after : Complete rest start { d with client := { d.client with pongReceived := true } } := {
      looks := complete.looks
      eventos := complete.eventos
      num := complete.num
      tcp := complete.tcp
      status := complete.status
      unread := complete.unread }
    exact served after ⟨small, by rw [same]; tauto⟩
  intro noPong
  have refused : ¬ f.Accepted := by
    intro accepted
    have opCode := accepted.opCode
    rw [same] at opCode
    tauto
  apply ends_ite
  · intro _
    exact dropped 1000 refused
  · intro _
    exact dropped 1002 refused

/-- The header of a frame as the library decodes it. -/
def Frame.decoded (f : Frame) (header : WSMessageHeader) : Prop :=
  header.fin = f.fin ∧ header.opCode = f.opCode ∧ header.mask = f.mask ∧
    header.payloadLen = BitVec.ofNat 32 f.payload.length ∧
    (f.mask = true → header.maskKey = f.maskKey)

theorem handleWebsocketPayloadCb_ends (decoded : f.decoded d.client.cWsHeaderDecode)
    (small : f.payload.length ≤ WEBSOCKETS_MAX_DATA_SIZE) (complete : Complete rest start d) :
    Ends (fun _ => True) (handleWebsocketPayloadCb (some f.body)) d fun _ u =>
      Outcome f rest start u := by
  obtain ⟨fin, opCode, mask, _, maskKey⟩ := decoded
  apply ends_state
  have payload : (if d.client.cWsHeaderDecode.mask = true then
      xorMask d.client.cWsHeaderDecode.maskKey f.body else f.body) = f.payload := by
    rw [mask]
    by_cases masked : f.mask = true
    · rw [maskKey masked]
      exact f.unmask
    · rw [if_neg masked]
      exact if_neg masked
  dsimp only
  rw [payload]
  apply ends_bind (handleOpCode_ends opCode.symm fin.symm small complete)
  intro _ u after
  rcases after with served | ⟨dropped, refused⟩
  · exact .served {
      accepted := served.accepted
      looks := served.looks
      eventos := served.eventos
      num := served.num
      status := served.status
      unread := served.unread } rfl
  · refine .dropped ?_ fun _ => refused
    exact {
      looks := dropped.looks
      eventos := dropped.eventos
      num := dropped.num
      status := dropped.status
      tcp := dropped.tcp
      http := dropped.http
      size := rfl }

/-- The payload of a frame whose header was read. -/
theorem handlePayload_ends {header : WSMessageHeader} (decoded : f.decoded header)
    (small : f.payload.length ≤ WEBSOCKETS_MAX_DATA_SIZE) (reading : Reading f rest k start d)
    (whole : f.header.length ≤ k) :
    Ends (fun _ => True) (handlePayload header) d fun _ u => Outcome f rest start u := by
  obtain ⟨t, here, unread⟩ := reading.unread
  rw [List.drop_eq_nil_of_le whole, List.nil_append] at unread
  have length : header.payloadLen.toNat = f.body.length := by
    rw [decoded.2.2.2.1, BitVec.toNat_ofNat, Frame.body_length]
    unfold WEBSOCKETS_MAX_DATA_SIZE at small
    omega
  apply ends_bind (setClient_ends (Q := fun _ u => u =
    { d with client := { d.client with cWsHeaderDecode := header } }) rfl)
  intro _ d1 set
  have decoded1 : f.decoded d1.client.cWsHeaderDecode := by
    rw [set]
    exact decoded
  have quiet1 : Quiet start d1 := by
    rw [set]
    exact ⟨reading.looks, reading.eventos, reading.num, reading.tcp⟩
  have here1 : d1.client.tcp = some t := by
    rw [set]
    exact here
  have status1 : d1.client.status = .connected := by
    rw [set]
    exact reading.status
  apply ends_ite
  · intro zero
    have empty : f.body = [] := by
      apply List.length_eq_zero_iff.1
      rw [← length, zero]
      rfl
    have complete : Complete rest start d1 := {
      toQuiet := quiet1
      status := status1
      unread := ⟨t, here1, by rw [unread, empty, List.nil_append]⟩ }
    rw [← empty]
    exact handleWebsocketPayloadCb_ends decoded1 small complete
  intro _
  apply ends_bind (look_reads here1)
  intro l d2 after2
  obtain ⟨reads2, client2, next2⟩ := after2
  have quiet2 := quiet1.trans reads2.quiet
  apply ends_ite
  · intro full
    apply ends_mono (clientDisconnect_ends 1011 quiet2)
    intro _ u dropped
    refine .dropped dropped ?_
    intro steady
    have there := (steady.stands l (quiet1.looks.subset (by rw [next2]; simp))).2
    rw [full] at there
    exact absurd there (by simp)
  intro _
  rw [length]
  have here2 : d2.client.tcp = some t := (congrArg WSclient.tcp client2).trans here1
  apply ends_bind (readCb_ends here2 unread)
  intro payload d3 after3
  obtain ⟨⟨_, reads3⟩, all, failed⟩ := after3
  cases payload with
  | none =>
    apply ends_mono (clientDisconnect_ends 1002 (quiet2.trans reads3.quiet))
    intro _ u dropped
    refine .dropped dropped ?_
    intro steady
    exact absurd (steady.sublist quiet2.looks.sublist) (failed rfl)
  | some payload =>
    obtain ⟨same, reads⟩ := all payload rfl
    obtain ⟨u, u', there, there', left⟩ := reads.tcp
    have tcp : t = u := Option.some.inj (here2.symm.trans there)
    rw [tcp, left] at unread
    have complete : Complete rest start d3 := {
      toQuiet := quiet2.trans reads.quiet
      status := by
        rw [reads.client]
        exact (congrArg WSclient.status client2).trans status1
      unread := ⟨u', there', List.append_cancel_left unread⟩ }
    have decoded3 : f.decoded d3.client.cWsHeaderDecode := by
      rw [reads.client]
      change f.decoded d2.client.cWsHeaderDecode
      rw [client2]
      exact decoded1
    rw [same]
    exact handleWebsocketPayloadCb_ends decoded3 small complete

/-- Where the parts of a header begin: its length behind the first two bytes, then the mask. -/
def Frame.extra (f : Frame) : Nat := (lengthBytes f.payload.length).length

theorem Frame.header_length (f : Frame) :
    f.header.length = 2 + f.extra + if f.mask = true then 4 else 0 := by
  rw [header, createHeader, List.length_cons, List.length_cons, List.length_append, extra]
  split_ifs
  · rw [List.length_ofFn]
    omega
  · rw [List.length_nil]
    omega

theorem Frame.header_fits (f : Frame) : f.header.length ≤ WEBSOCKETS_MAX_HEADER_SIZE := by
  have most : f.extra ≤ 8 := by
    unfold extra lengthBytes
    split_ifs <;> simp
  rw [f.header_length]
  unfold WEBSOCKETS_MAX_HEADER_SIZE
  split_ifs <;> omega

/-- How many parts of the header are still to be read. -/
def Frame.parts (f : Frame) (k : Nat) : Nat :=
  (if k < 2 then 1 else 0) + (if k < 2 + f.extra then 1 else 0) +
    if k < f.header.length then 1 else 0

theorem waitForLength_ends {cb : Library Unit} (reading : Reading f rest k start d)
    (first : 2 ≤ k) (next : ∀ d', k < 2 + f.extra → Reading f rest (2 + f.extra) start d' →
      Ends (fun _ => True) cb d' fun _ u => Outcome f rest start u) :
    Ends (fun _ => True) (waitForLength cb f.extra) d fun r u =>
      (r = true ∧ 2 + f.extra ≤ k ∧ Reading f rest k start u) ∨
        (r = false ∧ Outcome f rest start u) := by
  have inside : 2 + f.extra ≤ f.header.length := by
    rw [f.header_length]
    omega
  apply ends_ite
  · intro none
    exact .inl ⟨rfl, by omega, reading⟩
  · intro _
    exact waitFor_ends reading (inside.trans f.header_fits) inside next

theorem Frame.extra_eq (f : Frame) :
    f.extra = extraLength (BitVec.ofNat 32 (lengthCode f.payload.length)) :=
  lengthBytes_length f.payload.length

/-- The fields of the first two bytes, once they were read. -/
theorem Frame.splitHeader_read (f : Frame) {cWsHeader : Bytes} (first : 2 ≤ k)
    (read : cWsHeader = f.header.take k) :
    splitHeader (cWsHeader.getD 0 0) (cWsHeader.getD 1 0) =
      { fin := f.fin, rsv1 := false, rsv2 := false, rsv3 := false, opCode := f.opCode,
        mask := f.mask, payloadLen := BitVec.ofNat 32 (lengthCode f.payload.length),
        maskKey := fun _ => 0 } := by
  obtain ⟨k, rfl⟩ := Nat.exists_eq_add_of_le' first
  rw [read]
  exact splitHeader_first f.fin f.mask f.opCode (lengthCode_small f.payload.length)

/-- The length of the payload, once its bytes were read. -/
theorem Frame.readLength_read (f : Frame) {cWsHeader : Bytes} (second : 2 + f.extra ≤ k)
    (read : cWsHeader = f.header.take k) :
    readLength (BitVec.ofNat 32 (lengthCode f.payload.length)) (cWsHeader.drop 2) =
      BitVec.ofNat 32 f.payload.length := by
  obtain ⟨k, rfl⟩ := Nat.exists_eq_add_of_le' ((Nat.le_add_right 2 _).trans second)
  have behind : cWsHeader.drop 2 = lengthBytes f.payload.length ++
      (if f.mask = true then List.ofFn f.maskKey else []).take (k - f.extra) := by
    rw [read]
    change (lengthBytes f.payload.length ++
      if f.mask = true then List.ofFn f.maskKey else []).take k = _
    rw [List.take_append, List.take_of_length_le (by change f.extra ≤ k; omega)]
    rfl
  rw [behind]
  exact readLength_lengthBytes f.payload.length _

/-- The key of the mask, once the header was read. -/
theorem Frame.maskKey_read (f : Frame) {cWsHeader : Bytes} (whole : f.header.length ≤ k)
    (read : cWsHeader = f.header.take k) (masked : f.mask = true) :
    maskKeyAt cWsHeader (2 + f.extra) = f.maskKey := by
  funext i
  rw [maskKeyAt, read, List.take_of_length_le whole, Frame.header, createHeader, if_pos masked,
    if_pos masked]
  have key : (List.ofFn f.maskKey).getD i 0 = f.maskKey i := by
    rw [List.getD_eq_getElem _ _ (by simp), List.getElem_ofFn]
  calc _ = (lengthBytes f.payload.length ++ List.ofFn f.maskKey).getD (f.extra + i) 0 := by
        rw [Nat.add_assoc, Nat.add_comm 2]
        rfl
    _ = (List.ofFn f.maskKey).getD i 0 := by
        rw [extra, List.getD_append_right _ _ _ _ (Nat.le_add_right ..), Nat.add_sub_cancel_left]
    _ = f.maskKey i := key

/-- The library decodes the header again from its start whenever more of it is there. -/
theorem handleWebsocketCb_ends (wide : f.payload.length < 2 ^ 32) {depth : Nat}
    (enough : f.parts k < depth) (reading : Reading f rest k start d) :
    Ends (fun _ => True) (handleWebsocketCb depth) d fun _ u => Outcome f rest start u := by
  induction depth generalizing k d with
  | zero => exact absurd enough (Nat.not_lt_zero _)
  | succ depth ih =>
    have length := f.header_length
    have again {size : Nat} (d' : Session) (short : k < size) (fewer : f.parts size < f.parts k)
        (reading : Reading f rest size start d') :
        Ends (fun _ => True) (handleWebsocketCb depth) d' fun _ u => Outcome f rest start u :=
      ih (by omega) reading
    obtain ⟨t, here, _⟩ := reading.unread
    apply ends_bind (connected_ends here)
    intro r d1 after1
    obtain ⟨reads1, _, stands⟩ := after1
    have reading1 := reading.reads reads1 rfl
    apply ends_ite
    · intro gone
      refine .broken k reading1 ?_
      intro steady
      rw [stands (steady.sublist reading.looks.sublist)] at gone
      exact absurd gone (by simp)
    intro _
    apply ends_bind (waitFor_ends reading1 (by decide) (by omega) fun d' short => again d' short (by
      unfold Frame.parts
      split_ifs <;> omega))
    intro r d2 after2
    rcases after2 with ⟨ready, first, reading2⟩ | ⟨waits, outcome⟩
    swap
    · rw [waits]
      exact outcome
    rw [ready]
    apply ends_ite (fun no => absurd no (by simp))
    intro _
    apply ends_state
    dsimp only
    rw [f.splitHeader_read first (reading2.header (by omega)), ← f.extra_eq]
    apply ends_bind (waitForLength_ends reading2 first fun d' short => again d' short (by
      unfold Frame.parts
      split_ifs <;> omega))
    intro r d3 after3
    rcases after3 with ⟨ready, second, reading3⟩ | ⟨waits, outcome⟩
    swap
    · rw [waits]
      exact outcome
    rw [ready]
    apply ends_ite (fun no => absurd no (by simp))
    intro _
    apply ends_state
    dsimp only
    rw [f.readLength_read second (reading3.header (by omega))]
    apply ends_ite
    · intro large
      apply ends_mono (clientDisconnect_ends 1009 reading3.toQuiet)
      intro _ u dropped
      refine .dropped dropped ?_
      intro _ accepted
      have small := accepted.small
      rw [BitVec.toNat_ofNat, Nat.mod_eq_of_lt wide] at large
      omega
    intro fits
    rw [BitVec.toNat_ofNat, Nat.mod_eq_of_lt wide, Nat.not_lt] at fits
    apply ends_ite
    · intro masked
      rw [if_pos masked] at length
      apply ends_bind (waitFor_ends reading3 (by have := f.header_fits; omega) (by omega)
        fun d' short => again d' short (by
          unfold Frame.parts
          split_ifs <;> omega))
      intro r d4 after4
      rcases after4 with ⟨ready, third, reading4⟩ | ⟨waits, outcome⟩
      swap
      · rw [waits]
        exact outcome
      rw [ready]
      apply ends_ite (fun no => absurd no (by simp))
      intro _
      apply ends_state
      have whole : f.header.length ≤ k := by omega
      have key := f.maskKey_read whole (reading4.header (by omega)) masked
      exact handlePayload_ends ⟨rfl, rfl, rfl, rfl, fun _ => key⟩ fits reading4 whole
    · intro bare
      rw [if_neg bare] at length
      have whole : f.header.length ≤ k := by omega
      exact handlePayload_ends ⟨rfl, rfl, rfl, rfl, fun masked => absurd masked bare⟩ fits reading3
        whole

/-- A call of `handleWebsocket` with the next frame in front. -/
theorem handleWebsocket_ends (wide : f.payload.length < 2 ^ 32) (reading : Reading f rest 0 d d) :
    Ends (fun _ => True) handleWebsocket d fun _ u => Outcome f rest d u := by
  apply ends_state
  apply ends_ite
  · intro _
    apply handleWebsocketCb_ends wide _ reading
    unfold Frame.parts
    split_ifs <;> omega
  · intro busy
    exact absurd reading.size busy

end Receive

end Chimenea.WebSockets
