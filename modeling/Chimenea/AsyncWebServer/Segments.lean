import Chimenea.AsyncWebServer.Request

/-!
How TCP cuts a request into segments makes no difference to it: the segments are read as
their bytes would be, one after the other.
-/

namespace Chimenea.AsyncWebServer
open Arduino
open Wifi (AsyncWebParameter)

section Plain

variable (r : AsyncWebServerRequest) (data : BitVec 8)

/-- A character of a form's body changes the piece it belongs to and the parameters. -/
theorem parsePlainPostChar_eq : ∃ temp params,
    parsePlainPostChar r data = { r with temp := temp, params := params } := by
  unfold parsePlainPostChar
  dsimp only
  split_ifs
  · exact ⟨_, _, rfl⟩
  · exact ⟨_, _, rfl⟩
  · exact ⟨_, _, rfl⟩
  · exact ⟨_, _, rfl⟩

end Plain

section Bytes

variable (sitio : Sitio)
  (parseMultipartPostByte : Bytes → Nat → Bytes → Nat × List AsyncWebParameter)

/-- A segment of one byte. -/
def onByte (r : AsyncWebServerRequest) (b : BitVec 8) : AsyncWebServerRequest :=
  onData sitio parseMultipartPostByte r [b]

/-- What the request is waiting for: another byte of its head, or of the body of a form. -/
def espera (r : AsyncWebServerRequest) (b : BitVec 8) : Bool :=
  match r.parseState with
  | .start | .headers => b ≠ 0
  | .body =>
    !r.isMultipart && startsWith r.contentType urlencoded && decide (r.parsedLength < r.contentLength)
  | _ => false

/-- The bytes belong to the request. -/
def dentro (r : AsyncWebServerRequest) : Bytes → Bool
  | [] => true
  | b :: rest => espera r b && dentro (onByte sitio parseMultipartPostByte r b) rest

variable {sitio parseMultipartPostByte} {r : AsyncWebServerRequest} {b : BitVec 8} {rest : Bytes}

/-- The state of a request whose head is being read. -/
def EnCabecera (r : AsyncWebServerRequest) : Prop :=
  r.parseState = .start ∨ r.parseState = .headers

theorem onDataFrom_head {bound : Nat} {buf : Bytes} (head : EnCabecera r) :
    onDataFrom sitio parseMultipartPostByte (bound + 1) r buf =
      if buf.takeWhile (· ≠ newline) = buf then
        { r with temp := r.temp ++ c_str buf.dropLast ++ buf.getLast?.toList }
      else
        let str := buf.takeWhile (· ≠ newline)
        let r' := parseLine sitio { r with temp := trim (r.temp ++ c_str str) }
        if buf.drop (str.length + 1) = [] then r'
        else onDataFrom sitio parseMultipartPostByte bound r' (buf.drop (str.length + 1)) := by
  rcases head with state | state <;> rw [onDataFrom, state]

theorem onDataFrom_body {bound : Nat} {buf : Bytes} (state : r.parseState = .body) :
    onDataFrom sitio parseMultipartPostByte (bound + 1) r buf =
      onBody parseMultipartPostByte r buf := by
  rw [onDataFrom, state]

theorem onDataFrom_done {bound : Nat} {buf : Bytes} (head : ¬ EnCabecera r)
    (state : r.parseState ≠ .body) : onDataFrom sitio parseMultipartPostByte bound r buf = r := by
  cases bound with
  | zero => rfl
  | succ bound =>
    unfold EnCabecera at head
    cases here : r.parseState <;> simp [here] at head state <;> rw [onDataFrom, here]

/-- There are as many turns as the bytes need. -/
theorem onDataFrom_enough {bound bound' : Nat} {buf : Bytes} (some_ : buf ≠ [])
    (enough : buf.length ≤ bound) (enough' : buf.length ≤ bound') :
    onDataFrom sitio parseMultipartPostByte bound r buf =
      onDataFrom sitio parseMultipartPostByte bound' r buf := by
  have more := List.length_pos_iff.2 some_
  induction bound generalizing bound' r buf with
  | zero => omega
  | succ bound ih =>
    obtain ⟨bound', rfl⟩ : ∃ n, bound' = n + 1 := ⟨bound' - 1, by omega⟩
    by_cases head : EnCabecera r
    · rw [onDataFrom_head head, onDataFrom_head head]
      dsimp only
      split_ifs with _ last
      · rfl
      · rfl
      · have shorter : (buf.drop ((buf.takeWhile (· ≠ newline)).length + 1)).length < buf.length := by
          rw [List.length_drop]
          omega
        exact ih last (by omega) (by omega) (List.length_pos_iff.2 last)
    by_cases body : r.parseState = .body
    · rw [onDataFrom_body body, onDataFrom_body body]
    · rw [onDataFrom_done head body, onDataFrom_done head body]

theorem onByte_letter (head : EnCabecera r) (letter : b ≠ newline) :
    onByte sitio parseMultipartPostByte r b = { r with temp := r.temp ++ [b] } := by
  rw [onByte, onData, List.length_singleton, onDataFrom_head head]
  simp [letter, c_str]

theorem onByte_newline (head : EnCabecera r) :
    onByte sitio parseMultipartPostByte r newline =
      parseLine sitio { r with temp := trim r.temp } := by
  rw [onByte, onData, List.length_singleton, onDataFrom_head head]
  simp [c_str]

theorem onByte_body (body : r.parseState = .body) :
    onByte sitio parseMultipartPostByte r b = onBody parseMultipartPostByte r [b] := by
  rw [onByte, onData, List.length_singleton, onDataFrom_body body]

theorem onData_letter (head : EnCabecera r) (letter : b ≠ newline) (solid : b ≠ 0)
    (more : rest ≠ []) :
    onData sitio parseMultipartPostByte r (b :: rest) =
      onData sitio parseMultipartPostByte { r with temp := r.temp ++ [b] } rest := by
  obtain ⟨c, rest, rfl⟩ := List.exists_cons_of_ne_nil more
  have head' : EnCabecera { r with temp := r.temp ++ [b] } := head
  rw [onData, onData, List.length_cons, List.length_cons, onDataFrom_head head,
    onDataFrom_head head']
  have line : (b :: c :: rest).takeWhile (· ≠ newline) =
      b :: (c :: rest).takeWhile (· ≠ newline) :=
    List.takeWhile_cons_of_pos (decide_eq_true letter)
  have front (text : Bytes) : c_str (b :: text) = b :: c_str text :=
    List.takeWhile_cons_of_pos (decide_eq_true solid)
  simp only [line, List.cons.injEq, true_and, front, List.dropLast_cons_cons,
    List.getLast?_cons_cons, List.length_cons, List.drop_succ_cons, List.append_assoc,
    List.singleton_append]
  split_ifs with _ last
  · simp
  · rfl
  · refine onDataFrom_enough last ?_ ?_
    all_goals
      rw [List.length_drop]
      omega

theorem onData_newline (head : EnCabecera r) (more : rest ≠ []) :
    onData sitio parseMultipartPostByte r (newline :: rest) =
      onData sitio parseMultipartPostByte
        (parseLine sitio { r with temp := trim r.temp }) rest := by
  rw [onData, List.length_cons, onDataFrom_head head]
  simp [more, c_str, onData]

theorem onData_body (body : r.parseState = .body) (some_ : rest ≠ []) :
    onData sitio parseMultipartPostByte r rest = onBody parseMultipartPostByte r rest := by
  obtain ⟨c, rest, rfl⟩ := List.exists_cons_of_ne_nil some_
  rw [onData, List.length_cons, onDataFrom_body body]

/-- The request is a form's. -/
structure EsFormulario (r : AsyncWebServerRequest) : Prop where
  isMultipart : r.isMultipart = false
  contentType : startsWith r.contentType urlencoded = true

theorem parsePlainPost_append (front back : Bytes) :
    parsePlainPost r (front ++ back) = parsePlainPost (parsePlainPost r front) back := by
  induction front generalizing r with
  | nil => rfl
  | cons b front ih => exact ih

/-- The body of a form changes the piece in progress and the parameters, and is counted. -/
theorem parsePlainPost_keeps (buf : Bytes) : ∃ temp params, parsePlainPost r buf =
    { r with temp := temp, params := params, parsedLength := r.parsedLength + buf.length } := by
  induction buf generalizing r with
  | nil => exact ⟨_, _, rfl⟩
  | cons b rest ih =>
    obtain ⟨temp, params, first⟩ :=
      parsePlainPostChar_eq { r with parsedLength := r.parsedLength + 1 } b
    obtain ⟨temp', params', later⟩ := @ih { r with
      temp := temp, params := params, parsedLength := r.parsedLength + 1 }
    refine ⟨temp', params', ?_⟩
    rw [parsePlainPost, first, later, List.length_cons, Nat.add_assoc, Nat.add_comm 1]

/-- The body of a form whose kind is known. -/
def readForm (r : AsyncWebServerRequest) (buf : Bytes) : AsyncWebServerRequest :=
  if r.isPlainPost = true ∧ needParse r = true then parsePlainPost r buf
  else { r with parsedLength := r.parsedLength + buf.length }

theorem readForm_append (front back : Bytes) :
    readForm r (front ++ back) = readForm (readForm r front) back := by
  unfold readForm
  by_cases parse : r.isPlainPost = true ∧ needParse r = true
  · obtain ⟨temp, params, first⟩ := parsePlainPost_keeps (r := r) front
    have again : (parsePlainPost r front).isPlainPost = true ∧
        needParse (parsePlainPost r front) = true := by
      rw [first]
      exact parse
    rw [if_pos parse, if_pos parse, if_pos again, parsePlainPost_append]
  · have again : ¬ ({ r with parsedLength := r.parsedLength + front.length }.isPlainPost = true ∧
        needParse { r with parsedLength := r.parsedLength + front.length } = true) := parse
    rw [if_neg parse, if_neg parse, if_neg again, List.length_append, Nat.add_assoc]

theorem readForm_keeps (buf : Bytes) : ∃ temp params, readForm r buf =
    { r with temp := temp, params := params, parsedLength := r.parsedLength + buf.length } := by
  unfold readForm
  split_ifs
  · exact parsePlainPost_keeps buf
  · exact ⟨_, _, rfl⟩

/-- With the first byte of its body a form is known as one. -/
def begun (r : AsyncWebServerRequest) : AsyncWebServerRequest :=
  if r.parsedLength = 0 then { r with isPlainPost := true } else r

theorem readBody_form (form : EsFormulario r) (buf : Bytes) :
    readBody parseMultipartPostByte r buf = readForm (begun r) buf := by
  have always : esPlainPost r buf = true := if_pos form.contentType
  have single : ¬ r.isMultipart = true := by simp [form.isMultipart]
  rw [readBody, if_neg single, always]
  rfl

variable (parseMultipartPostByte) in
theorem readBody_keeps (form : EsFormulario r) (buf : Bytes) : ∃ temp params plain,
    readBody parseMultipartPostByte r buf =
      { r with
        temp := temp
        params := params
        isPlainPost := plain
        parsedLength := r.parsedLength + buf.length } := by
  obtain ⟨temp, params, first⟩ := readForm_keeps (r := begun r) buf
  rw [readBody_form form, first]
  unfold begun
  split_ifs <;> exact ⟨temp, params, _, rfl⟩

variable (parseMultipartPostByte) in
theorem readBody_append (form : EsFormulario r) {front : Bytes} (some_ : front ≠ [])
    (back : Bytes) : readBody parseMultipartPostByte r (front ++ back) =
      readBody parseMultipartPostByte (readBody parseMultipartPostByte r front) back := by
  have more := List.length_pos_iff.2 some_
  obtain ⟨temp, params, first⟩ := readForm_keeps (r := begun r) front
  have same : (begun r).isMultipart = r.isMultipart ∧ (begun r).contentType = r.contentType := by
    unfold begun
    split_ifs <;> exact ⟨rfl, rfl⟩
  have form' : EsFormulario (readForm (begun r) front) := by
    rw [first]
    exact ⟨same.1.trans form.isMultipart, same.2 ▸ form.contentType⟩
  have later : begun (readForm (begun r) front) = readForm (begun r) front := by
    refine if_neg ?_
    rw [first]
    exact Nat.ne_of_gt (Nat.add_pos_right _ more)
  rw [readBody_form form, readBody_form form, readBody_form form', later, readForm_append]

theorem espera_head (head : EnCabecera r) (waits : espera r b = true) : b ≠ 0 := by
  rcases head with state | state <;> simpa [espera, state] using waits

theorem espera_body (state : r.parseState = .body) (waits : espera r b = true) :
    EsFormulario r := by
  simp only [espera, state, Bool.and_eq_true, Bool.not_eq_true'] at waits
  exact ⟨waits.1.1, waits.1.2⟩

/-- A request that is over waits for nothing. -/
theorem espera_done (head : ¬ EnCabecera r) (body : r.parseState ≠ .body) : espera r b = false := by
  unfold EnCabecera at head
  cases state : r.parseState <;> simp [state] at head body <;> rw [espera, state]

/-- Where the request goes on, a segment is its first byte and the others. -/
theorem onData_cons (inside : dentro sitio parseMultipartPostByte r (b :: rest) = true)
    (more : rest ≠ []) : onData sitio parseMultipartPostByte r (b :: rest) =
      onData sitio parseMultipartPostByte (onByte sitio parseMultipartPostByte r b) rest := by
  rw [dentro, Bool.and_eq_true] at inside
  obtain ⟨waits, inside⟩ := inside
  by_cases head : EnCabecera r
  · by_cases line : b = newline
    · subst line
      rw [onData_newline head more, onByte_newline head]
    · rw [onData_letter head line (espera_head head waits) more, onByte_letter head line]
  by_cases state : r.parseState = .body
  · have form := espera_body state waits
    obtain ⟨temp, params, plain, first⟩ :=
      readBody_keeps parseMultipartPostByte form [b]
    have goesOn : onBody parseMultipartPostByte r [b] = readBody parseMultipartPostByte r [b] := by
      refine if_neg fun complete => ?_
      obtain ⟨c, rest, rfl⟩ := List.exists_cons_of_ne_nil more
      rw [dentro, Bool.and_eq_true, onByte_body state, onBody, if_pos complete] at inside
      have ended : espera (handleRequest { readBody parseMultipartPostByte r [b] with
          parseState := .end_ }) c = false := by
        rw [handleRequest]
        split <;> rfl
      rw [ended] at inside
      exact absurd inside.1 (by simp)
    have state' : (readBody parseMultipartPostByte r [b]).parseState = .body := by
      rw [first]
      exact state
    have together := readBody_append parseMultipartPostByte form (List.cons_ne_nil b []) rest
    rw [onData_body state (by simp), onByte_body state, goesOn, onData_body state' more, onBody,
      onBody, ← together, List.singleton_append]
  · rw [espera_done head state] at waits
    exact absurd waits (by simp)

/-- The body of a form may be as long as it was said to be. -/
theorem dentro_body {buf : Bytes} (form : EsFormulario r) (state : r.parseState = .body)
    (room : r.parsedLength + buf.length ≤ r.contentLength) :
    dentro sitio parseMultipartPostByte r buf = true := by
  induction buf generalizing r with
  | nil => rfl
  | cons b rest ih =>
    rw [List.length_cons] at room
    have waits : espera r b = true := by
      have less : r.parsedLength < r.contentLength := by omega
      simp [espera, state, form.isMultipart, form.contentType, less]
    rw [dentro, waits, Bool.true_and]
    by_cases last : rest = []
    · rw [last, dentro]
    · have more := List.length_pos_iff.2 last
      obtain ⟨temp, params, plain, first⟩ :=
        readBody_keeps parseMultipartPostByte form [b]
      rw [List.length_singleton] at first
      have goesOn : onBody parseMultipartPostByte r [b] =
          readBody parseMultipartPostByte r [b] := by
        refine if_neg ?_
        rw [first]
        dsimp only
        omega
      rw [onByte_body state, goesOn, first]
      exact ih ⟨form.isMultipart, form.contentType⟩ state (by dsimp only; omega)

theorem onData_bytes {buf : Bytes} (inside : dentro sitio parseMultipartPostByte r buf = true)
    (some_ : buf ≠ []) : onData sitio parseMultipartPostByte r buf =
      buf.foldl (onByte sitio parseMultipartPostByte) r := by
  induction buf generalizing r with
  | nil => exact absurd rfl some_
  | cons b rest ih =>
    by_cases last : rest = []
    · subst last
      rfl
    · rw [onData_cons inside last, List.foldl_cons]
      rw [dentro, Bool.and_eq_true] at inside
      exact ih inside.2 last

theorem dentro_append {front back : Bytes} :
    dentro sitio parseMultipartPostByte r (front ++ back) =
      (dentro sitio parseMultipartPostByte r front &&
        dentro sitio parseMultipartPostByte
          (front.foldl (onByte sitio parseMultipartPostByte) r) back) := by
  induction front generalizing r with
  | nil => rfl
  | cons b front ih => rw [List.cons_append, dentro, dentro, ih, Bool.and_assoc, List.foldl_cons]

/-- However TCP cuts the bytes of a request, its segments are read as the bytes are. -/
theorem segments_read_as_bytes {segments : List Bytes} (some_ : ∀ segment ∈ segments, segment ≠ [])
    (inside : dentro sitio parseMultipartPostByte r segments.flatten = true) :
    segments.foldl (onData sitio parseMultipartPostByte) r =
      segments.flatten.foldl (onByte sitio parseMultipartPostByte) r := by
  induction segments generalizing r with
  | nil => rfl
  | cons segment segments ih =>
    rw [List.flatten_cons, dentro_append, Bool.and_eq_true] at inside
    rw [List.foldl_cons, List.flatten_cons, List.foldl_append,
      onData_bytes inside.1 (some_ segment (List.mem_cons_self ..)), ih _ inside.2]
    exact fun other member => some_ other (List.mem_cons_of_mem _ member)

/-- Two ways of cutting the same bytes make the same request. -/
theorem cuts_agree {segments segments' : List Bytes} (some_ : ∀ segment ∈ segments, segment ≠ [])
    (some_' : ∀ segment ∈ segments', segment ≠ []) (same : segments.flatten = segments'.flatten)
    (inside : dentro sitio parseMultipartPostByte r segments.flatten = true) :
    segments.foldl (onData sitio parseMultipartPostByte) r =
      segments'.foldl (onData sitio parseMultipartPostByte) r := by
  have inside' : dentro sitio parseMultipartPostByte r segments'.flatten = true := same ▸ inside
  rw [segments_read_as_bytes some_ inside, segments_read_as_bytes some_' inside', same]

end Bytes

def cabeceraCasa : Bytes :=
  ascii "POST / HTTP/1.1\r\nContent-Type: application/x-www-form-urlencoded\r\nContent-Length: 16\r\n\r\n"

/-- A form cut inside a field, or inside its first line and at the separator of its fields. -/
theorem cuts_agree_casa :
    [cabeceraCasa ++ ascii "ssid=ca", ascii "sa&pass=x"].foldl
        (onData ⟨false, fun _ => false⟩ fun _ length _ => (length, [])) {} =
      [cabeceraCasa.take 5, cabeceraCasa.drop 5 ++ ascii "ssid=casa", ascii "&pass=x"].foldl
        (onData ⟨false, fun _ => false⟩ fun _ length _ => (length, [])) {} :=
  cuts_agree (by decide +kernel) (by decide +kernel) (by decide +kernel) (by decide +kernel)

end Chimenea.AsyncWebServer
