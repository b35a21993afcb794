import Chimenea.AsyncWebServer.Form
import Chimenea.Numeral

/-!
The request in which a browser sends the form of the access point, and what the server has
made of it when the last of its segments is in.
-/

namespace Chimenea.AsyncWebServer
open Arduino
open Wifi (AsyncWebParameter)

def crlf : Bytes := [carriageReturn, newline]

def requestLine : Bytes := ascii "POST / HTTP/1.1" ++ crlf

def headerLine (h : Bytes × Bytes) : Bytes := h.1 ++ ascii ": " ++ h.2

/-- The form sent to `/`: its headers, in any order, and its fields. -/
structure Envio where
  headers : List (Bytes × Bytes)
  campos : List (Bytes × Bytes)

def Envio.bytes (e : Envio) : Bytes :=
  requestLine ++ e.headers.flatMap (fun h => headerLine h ++ crlf) ++ crlf ++ formBody e.campos

def esTipo (h : Bytes × Bytes) : Bool := equalsIgnoreCase h.1 (ascii "Content-Type")

def esLargo (h : Bytes × Bytes) : Bool := equalsIgnoreCase h.1 (ascii "Content-Length")

/-- A header as browsers write it. -/
structure Cabecera (h : Bytes × Bytes) : Prop where
  named : h.1 ≠ []
  name : ∀ b ∈ h.1, b ≠ 0 ∧ b ≠ newline ∧ b ≠ ch ':' ∧ isBlank b = false
  value : ∀ b ∈ h.2, b ≠ 0 ∧ b ≠ newline
  ends : ∀ b ∈ h.2.getLast?, isBlank b = false
  small : (headerLine h).length < 2147483648

/-- A request as browsers make it from a form. -/
structure Envio.Valido (e : Envio) : Prop where
  headers : ∀ h ∈ e.headers, Cabecera h
  tipo : ∃ h ∈ e.headers, esTipo h = true
  tipos : ∀ h ∈ e.headers, esTipo h = true → startsWith h.2 urlencoded = true
  largo : ∃ h ∈ e.headers, esLargo h = true
  largos : ∀ h ∈ e.headers, esLargo h = true → h.2 = ascii (toString (formBody e.campos).length)
  campos : e.campos ≠ []
  named : ∀ campo ∈ e.campos, campo.1 ≠ []
  small : (formBody e.campos).length < 2147483648

section Lines

variable (sitio : Sitio)
  (parseMultipartPostByte : Bytes → Nat → Bytes → Nat × List AsyncWebParameter)
  {r : AsyncWebServerRequest} {h : Bytes × Bytes}

/-- A line of the head is parsed when its end has come. -/
theorem line_read (line : Bytes) (head : EnCabecera r)
    (plain : ∀ b ∈ line, b ≠ 0 ∧ b ≠ newline) :
    (line ++ [newline]).foldl (onByte sitio parseMultipartPostByte) r =
        parseLine sitio { r with temp := trim (r.temp ++ line) } ∧
      dentro sitio parseMultipartPostByte r (line ++ [newline]) = true := by
  have waits {r : AsyncWebServerRequest} (head : EnCabecera r) {b : BitVec 8} (solid : b ≠ 0) :
      espera r b = true := by
    rcases head with state | state <;> rw [espera, state] <;> exact decide_eq_true solid
  induction line generalizing r with
  | nil =>
    constructor
    · rw [List.nil_append, List.foldl_cons, List.foldl_nil, onByte_newline head, List.append_nil]
    · rw [List.nil_append, dentro, dentro, waits head (by decide)]
      rfl
  | cons b line ih =>
    have here := plain b (List.mem_cons_self ..)
    have head' : EnCabecera { r with temp := r.temp ++ [b] } := head
    obtain ⟨read, inside⟩ := ih head' fun b member => plain b (List.mem_cons_of_mem _ member)
    constructor
    · rw [List.cons_append, List.foldl_cons, onByte_letter head here.2, read]
      simp
    · rw [List.cons_append, dentro, waits head here.1, onByte_letter head here.2, inside]
      rfl

theorem trim_line {line blanks : Bytes} (first : ∀ b ∈ line.head?, isBlank b = false)
    (last : ∀ b ∈ line.getLast?, isBlank b = false) (blank : ∀ b ∈ blanks, isBlank b = true) :
    trim (line ++ blanks) = line := by
  have back : (line ++ blanks).rdropWhile isBlank = line := by
    induction blanks using List.reverseRecOn with
    | nil =>
      rw [List.append_nil, List.rdropWhile_eq_self_iff]
      intro some_ ends
      rw [last _ (List.getLast?_eq_some_getLast some_ ▸ rfl)] at ends
      exact absurd ends (by simp)
    | append_singleton blanks b ih =>
      rw [← List.append_assoc, List.rdropWhile_concat_pos _ _ _ (blank b (by simp))]
      exact ih fun b member => blank b (List.mem_append_left _ member)
  cases line with
  | nil =>
    have all : blanks.dropWhile isBlank = [] := List.dropWhile_eq_nil_iff.2 blank
    rw [trim, List.nil_append, all]
    rfl
  | cons c line =>
    have front : (c :: line ++ blanks).dropWhile isBlank = c :: line ++ blanks :=
      List.dropWhile_cons_of_neg (by rw [first c rfl]; simp)
    rw [trim, front, back]

/-- Without a value the blank behind the colon goes too. -/
theorem trim_header (header : Cabecera h) : ∃ tail,
    trim (headerLine h ++ [carriageReturn]) = h.1 ++ ch ':' :: tail ∧ tail.drop 1 = h.2 := by
  obtain ⟨c, name, named⟩ := List.exists_cons_of_ne_nil header.named
  have first (back : Bytes) : ∀ b ∈ (h.1 ++ back).head?, isBlank b = false := by
    intro b member
    rw [named, List.cons_append, List.head?_cons, Option.mem_some] at member
    exact member ▸ (header.name c (named ▸ List.mem_cons_self ..)).2.2.2
  cases value : h.2 with
  | nil =>
    refine ⟨[], ?_, rfl⟩
    have line : headerLine h ++ [carriageReturn] =
        h.1 ++ [ch ':'] ++ [ch ' ', carriageReturn] := by
      rw [headerLine, value]
      simp [ascii, ch]
    rw [line]
    refine trim_line (first _) ?_ (by decide)
    intro b member
    rw [List.getLast?_concat, Option.mem_some] at member
    exact member ▸ (by decide)
  | cons b value' =>
    refine ⟨ch ' ' :: h.2, ?_, value ▸ rfl⟩
    have line : headerLine h = h.1 ++ ch ':' :: ch ' ' :: h.2 := by
      rw [headerLine, List.append_assoc]
      rfl
    rw [line]
    refine trim_line (first _) ?_ (by decide)
    intro b member
    refine header.ends b ?_
    have last : (h.1 ++ ch ':' :: ch ' ' :: h.2).getLast? = h.2.getLast? := by
      rw [value, List.getLast?_append_cons, List.getLast?_cons_cons, List.getLast?_cons_cons]
    exact last ▸ member

/-- The name and the value of a header are found in its line. -/
theorem parseReqHeader_line (header : Cabecera h)
    (line : r.temp = trim (headerLine h ++ [carriageReturn])) :
    parseReqHeader r =
      { setHeader r h.1 h.2 with headers := r.headers ++ [h], temp := [] } := by
  obtain ⟨tail, trimmed, value⟩ := trim_header header
  have named := List.length_pos_iff.2 header.named
  have small := header.small
  rw [headerLine, List.length_append, List.length_append] at small
  have index : indexOfChar r.temp (ch ':') 0 = h.1.length := by
    rw [line, trimmed]
    exact indexOfChar_append (fun null => (header.name _ null).1 rfl)
      (fun same => (header.name _ same).2.2.1 rfl) (by decide) _
  have name : substring r.temp 0 (unsigned h.1.length) = h.1 := by
    rw [line, trimmed]
    exact substring_front _ _ (by omega)
  have rest : substring r.temp (unsigned (h.1.length + 2)) r.temp.length = h.2 := by
    change substring r.temp (unsigned (h.1.length + 2 : Nat)) r.temp.length = h.2
    rw [substring_toEnd, unsigned_small (by omega), line, trimmed, List.drop_append]
    simp [value, List.drop_eq_nil_of_le]
  rw [parseReqHeader, index, if_pos (by omega), name, rest]

end Lines

section Headers

variable {r : AsyncWebServerRequest} {h : Bytes × Bytes}

theorem esTipo_length (tipo : esTipo h = true) : h.1.length = 12 := by
  rw [esTipo, equalsIgnoreCase, Bool.and_eq_true, decide_eq_true_eq] at tipo
  exact tipo.1

theorem esLargo_length (largo : esLargo h = true) : h.1.length = 14 := by
  rw [esLargo, equalsIgnoreCase, Bool.and_eq_true, decide_eq_true_eq] at largo
  exact largo.1

theorem equalsIgnoreCase_length {text other : Bytes} (apart : text.length ≠ other.length) :
    ¬ equalsIgnoreCase text other = true := by
  rw [equalsIgnoreCase, decide_eq_false apart]
  simp

/-- The type without what follows a `;` starts as it did. -/
theorem startsWith_cut {front : Bytes} (back : Bytes) (solid : (0 : BitVec 8) ∉ front)
    (absent : ch ';' ∉ front) (small : (front ++ back).length < 2147483648) :
    startsWith (substring (front ++ back) 0
      (unsigned (indexOfChar (front ++ back) (ch ';') 0))) front = true := by
  have cut : front.length ≤ unsigned (indexOfChar (front ++ back) (ch ';') 0) := by
    have nowhere : front.findIdx? (fun b => decide (b = ch ';')) = none := by
      rw [List.findIdx?_eq_none_iff]
      intro b member
      exact decide_eq_false fun same => absent (same ▸ member)
    rw [List.length_append] at small
    have far : front.length ≤ unsigned (-1) := by
      have all : unsigned (-1) = 4294967295 := by decide
      omega
    rw [indexOfChar, List.drop_zero, c_str_append_solid solid, List.findIdx?_append, nowhere]
    split_ifs with nothing
    · exact far
    cases found : (c_str back).findIdx? (fun b => decide (b = ch ';')) with
    | none => exact far
    | some i =>
      have inside : i < back.length := by
        have place := (List.findIdx?_eq_some_iff_getElem.1 found).1
        exact place.trans_le (List.takeWhile_sublist _).length_le
      change front.length ≤ unsigned ((0 + (i + front.length) : Nat) : Int)
      rw [unsigned_small (by omega)]
      omega
  rw [substring, Nat.max_eq_right (Nat.zero_le _), Nat.min_eq_left (Nat.zero_le _), List.drop_zero,
    startsWith, List.isPrefixOf_iff_prefix, List.take_append, List.take_of_length_le cut]
  exact List.prefix_append ..

theorem setHeader_tipo (tipo : esTipo h = true) (form : startsWith h.2 urlencoded = true)
    (small : h.2.length < 2147483648) :
    ∃ contentType, setHeader r h.1 h.2 = { r with contentType := contentType } ∧
      startsWith contentType urlencoded = true := by
  have host : ¬ equalsIgnoreCase h.1 (ascii "Host") = true :=
    equalsIgnoreCase_length (by rw [esTipo_length tipo]; decide)
  obtain ⟨rest, value⟩ := List.isPrefixOf_iff_prefix.1 form
  have single : ¬ startsWith (urlencoded ++ rest) (ascii "multipart/") = true :=
    Bool.false_ne_true
  have cut := startsWith_cut rest (by decide) (by decide) (value.symm ▸ small)
  refine ⟨_, ?_, cut⟩
  rw [setHeader, if_neg host, value]
  refine (if_pos tipo).trans ?_
  rw [setContentType, ← value, if_neg single]

theorem setHeader_largo (largo : esLargo h = true) :
    setHeader r h.1 h.2 = { r with contentLength := unsigned (atoi h.2) } := by
  have length := esLargo_length largo
  have host : ¬ equalsIgnoreCase h.1 (ascii "Host") = true :=
    equalsIgnoreCase_length (by rw [length]; decide)
  have tipo : ¬ equalsIgnoreCase h.1 (ascii "Content-Type") = true :=
    equalsIgnoreCase_length (by rw [length]; decide)
  rw [setHeader, if_neg host, if_neg tipo]
  exact if_pos largo

theorem setHeader_other (tipo : esTipo h = false) (largo : esLargo h = false) :
    ∃ host authorization reqconntype isDigest expecting, setHeader r h.1 h.2 =
      { r with
        host := host
        authorization := authorization
        reqconntype := reqconntype
        isDigest := isDigest
        expectingContinue := expecting } := by
  have apart : ¬ equalsIgnoreCase h.1 (ascii "Content-Type") = true :=
    Bool.not_eq_true _ ▸ tipo
  have apart' : ¬ equalsIgnoreCase h.1 (ascii "Content-Length") = true :=
    Bool.not_eq_true _ ▸ largo
  have signed : ∃ authorization isDigest, setAuthorization r h.2 =
      { r with authorization := authorization, isDigest := isDigest } := by
    unfold setAuthorization
    split_ifs <;> exact ⟨_, _, rfl⟩
  obtain ⟨authorization, isDigest, signed⟩ := signed
  rw [setHeader, if_neg apart, if_neg apart', signed]
  split_ifs <;> exact ⟨_, _, _, _, _, rfl⟩

theorem digit_byte {c : Char} (digit : c.isDigit = true) :
    BitVec.ofNat 8 c.toNat ≠ 0 ∧ Char.ofNat (BitVec.ofNat 8 c.toNat).toNat = c := by
  have bounds : 48 ≤ c.toNat ∧ c.toNat ≤ 57 := by
    simpa [Char.isDigit, UInt32.le_iff_toNat_le] using digit
  have value : (BitVec.ofNat 8 c.toNat).toNat = c.toNat := by
    rw [BitVec.toNat_ofNat, Nat.mod_eq_of_lt (by omega)]
  refine ⟨fun null => ?_, ?_⟩
  · rw [null] at value
    exact absurd value (by simp only [BitVec.ofNat_eq_ofNat, BitVec.toNat_ofNat]; omega)
  · rw [value, Char.ofNat_toNat]

/-- A length is read as it was written. -/
theorem atoi_toString (n : Nat) (small : n ≤ 2147483647) : atoi (ascii (toString n)) = n := by
  have digits : ∀ c ∈ (toString n).toList, c.isDigit = true := by
    intro c member
    rw [Nat.toString_eq_repr, Nat.toList_repr] at member
    exact Nat.isDigit_of_mem_toDigits (by decide) (by decide) member
  have solid : (0 : BitVec 8) ∉ ascii (toString n) := by
    intro null
    obtain ⟨c, member, byte⟩ := List.mem_map.1 null
    exact (digit_byte (digits c member)).1 byte
  have text : (ascii (toString n)).map (fun b => Char.ofNat b.toNat) = (toString n).toList := by
    rw [ascii, List.map_map]
    exact (List.map_congr_left fun c member => (digit_byte (digits c member)).2).trans
      (List.map_id _)
  have read := Numeral.toInt_decimal (Numeral.esDecimal_toString n)
  have same : toString (n : Int) = toString n := rfl
  rw [same, Numeral.acotado, LONG_MIN, LONG_MAX] at read
  rw [atoi, (c_str_eq_self _).2 solid, text, ← toInt, read]
  omega

end Headers

section Envio

/-- The server of the access point. -/
abbrev puntoDeAcceso (archivo : Bytes → Bool) : Sitio := ⟨false, archivo⟩

variable (archivo : Bytes → Bool)
  (parseMultipartPostByte : Bytes → Nat → Bytes → Nat × List AsyncWebParameter)
  {r : AsyncWebServerRequest} {e : Envio} {h : Bytes × Bytes} {hs : List (Bytes × Bytes)}

/-- The request when its first line is read. -/
def pedido : AsyncWebServerRequest where
  parseState := .headers
  version := 1
  method := HTTP_POST
  url := ascii "/"

/-- The request when the headers are read up to here. -/
structure Leido (e : Envio) (hs : List (Bytes × Bytes)) (r : AsyncWebServerRequest) : Prop where
  parseState : r.parseState = .headers
  method : r.method = HTTP_POST
  url : r.url = ascii "/"
  temp : r.temp = []
  isMultipart : r.isMultipart = false
  parsedLength : r.parsedLength = 0
  params : r.params = []
  handled : r.handled = []
  tipo : (∃ h ∈ hs, esTipo h = true) → startsWith r.contentType urlencoded = true
  largo : (∃ h ∈ hs, esLargo h = true) → r.contentLength = (formBody e.campos).length

theorem requestLine_read :
    requestLine.foldl (onByte (puntoDeAcceso archivo) parseMultipartPostByte) {} = pedido ∧
      dentro (puntoDeAcceso archivo) parseMultipartPostByte {} requestLine = true := by
  obtain ⟨read, inside⟩ := line_read (puntoDeAcceso archivo) parseMultipartPostByte (r := {})
    (ascii "POST / HTTP/1.1" ++ [carriageReturn]) (.inl rfl)
    (by simp [ascii, newline, carriageReturn])
  exact ⟨read, inside⟩

theorem parseLine_header (state : r.parseState = .headers) (some_ : r.temp ≠ []) :
    parseLine (puntoDeAcceso archivo) r = parseReqHeader r := by
  rw [parseLine, state]
  exact if_neg some_

theorem attachHandler_form (method : r.method = HTTP_POST) (url : r.url = ascii "/") :
    attachHandler (puntoDeAcceso archivo) r = .formulario := by
  have get : (puntoDeAcceso archivo).canHandle r .paginaInicio = false := by
    rw [Sitio.canHandle, canHandle, method, url]
    decide
  have static : (puntoDeAcceso archivo).canHandle r .estatico = false := by
    rw [Sitio.canHandle, method]
    rfl
  have post : (puntoDeAcceso archivo).canHandle r .formulario = true := by
    rw [Sitio.canHandle, canHandle, method, url]
    decide
  have handlers : (puntoDeAcceso archivo).handlers = [.paginaInicio, .estatico, .formulario] := rfl
  rw [attachHandler, handlers, List.find?_cons_of_neg (by rw [get]; simp),
    List.find?_cons_of_neg (by rw [static]; simp), List.find?_cons_of_pos post]
  rfl

theorem parseLine_blank (state : r.parseState = .headers) (blank : r.temp = [])
    (more : r.contentLength ≠ 0)
    (handler : attachHandler (puntoDeAcceso archivo) r = .formulario) :
    parseLine (puntoDeAcceso archivo) r =
      { r with handler := some .formulario, parseState := .body } := by
  rw [parseLine, state]
  refine (if_pos blank).trans ?_
  rw [handler]
  exact if_pos more

theorem exists_front {p : Bytes × Bytes → Bool} (other : p h = false)
    (found : ∃ h' ∈ hs ++ [h], p h' = true) : ∃ h' ∈ hs, p h' = true := by
  obtain ⟨h', member, holds⟩ := found
  rcases List.mem_append.1 member with front | last
  · exact ⟨h', front, holds⟩
  · rw [List.mem_singleton.1 last, other] at holds
    exact absurd holds (by simp)

/-- A header gives the request its type or its length, or nothing that matters to the form. -/
theorem Leido.header (read : Leido e hs r) (valid : e.Valido) (member : h ∈ e.headers)
    (temp : Bytes) (headers : List (Bytes × Bytes)) :
    Leido e (hs ++ [h])
      { setHeader { r with temp := temp } h.1 h.2 with headers := headers, temp := [] } := by
  have small := (valid.headers h member).small
  rw [headerLine, List.length_append, List.length_append] at small
  cases tipo : esTipo h with
  | true =>
    obtain ⟨contentType, set, form⟩ :=
      setHeader_tipo (r := { r with temp := temp }) tipo (valid.tipos h member tipo) (by omega)
    have other : esLargo h = false := by
      have length := esTipo_length tipo
      rw [esLargo, equalsIgnoreCase, length]
      rfl
    rw [set]
    exact { read with
      temp := rfl
      tipo := fun _ => form
      largo := fun found => read.largo (exists_front other found) }
  | false =>
    cases largo : esLargo h with
    | true =>
      have length : unsigned (atoi h.2) = (formBody e.campos).length := by
        have whole := valid.small
        rw [valid.largos h member largo, atoi_toString _ (by omega), unsigned_small (by omega)]
      rw [setHeader_largo (r := { r with temp := temp }) largo, length]
      exact { read with
        temp := rfl
        tipo := fun found => read.tipo (exists_front tipo found)
        largo := fun _ => rfl }
    | false =>
      obtain ⟨_, _, _, _, _, set⟩ := setHeader_other (r := { r with temp := temp }) tipo largo
      rw [set]
      exact { read with
        temp := rfl
        tipo := fun found => read.tipo (exists_front tipo found)
        largo := fun found => read.largo (exists_front largo found) }

theorem Leido.line (read : Leido e hs r) (valid : e.Valido) (member : h ∈ e.headers) :
    Leido e (hs ++ [h])
        ((headerLine h ++ crlf).foldl (onByte (puntoDeAcceso archivo) parseMultipartPostByte) r) ∧
      dentro (puntoDeAcceso archivo) parseMultipartPostByte r (headerLine h ++ crlf) = true := by
  have header := valid.headers h member
  have state := read.parseState
  have fresh := read.temp
  have plain : ∀ b ∈ headerLine h ++ [carriageReturn], b ≠ 0 ∧ b ≠ newline := by
    intro b inside
    rcases List.mem_append.1 inside with inside | ends
    · rcases List.mem_append.1 inside with inside | value
      · rcases List.mem_append.1 inside with name | colon
        · exact ⟨(header.name b name).1, (header.name b name).2.1⟩
        · have all : ∀ b ∈ ascii ": ", b ≠ 0 ∧ b ≠ newline := by decide
          exact all b colon
      · exact header.value b value
    · rw [List.mem_singleton.1 ends]
      decide
  obtain ⟨parsed, inside⟩ := line_read (puntoDeAcceso archivo) parseMultipartPostByte _ (.inr state) plain
  have split : headerLine h ++ crlf = headerLine h ++ [carriageReturn] ++ [newline] := by
    rw [List.append_assoc]
    rfl
  have some_ : trim (headerLine h ++ [carriageReturn]) ≠ [] := by
    obtain ⟨tail, trimmed, _⟩ := trim_header header
    rw [trimmed]
    simp
  rw [split]
  refine ⟨?_, inside⟩
  have parse := parseLine_header archivo
    (r := { r with temp := trim (headerLine h ++ [carriageReturn]) }) state some_
  rw [parsed, fresh, List.nil_append, parse, parseReqHeader_line header rfl]
  exact read.header valid member _ _

theorem headers_read (valid : e.Valido) (read : Leido e hs r) {later : List (Bytes × Bytes)}
    (members : ∀ h ∈ later, h ∈ e.headers) :
    Leido e (hs ++ later) ((later.flatMap fun h => headerLine h ++ crlf).foldl
        (onByte (puntoDeAcceso archivo) parseMultipartPostByte) r) ∧
      dentro (puntoDeAcceso archivo) parseMultipartPostByte r
        (later.flatMap fun h => headerLine h ++ crlf) = true := by
  induction later generalizing hs r with
  | nil => exact ⟨by rwa [List.append_nil], rfl⟩
  | cons h later ih =>
    obtain ⟨first, inside⟩ :=
      read.line archivo parseMultipartPostByte valid (members h (List.mem_cons_self ..))
    obtain ⟨all, inside'⟩ := ih first fun h member => members h (List.mem_cons_of_mem _ member)
    rw [List.flatMap_cons, List.foldl_append, dentro_append, inside, inside']
    rw [List.append_assoc, List.singleton_append] at all
    exact ⟨all, rfl⟩

/-- The empty line hands the request to the form's handler. -/
theorem blank_read (valid : e.Valido) (read : Leido e e.headers r) :
    crlf.foldl (onByte (puntoDeAcceso archivo) parseMultipartPostByte) r =
        { r with handler := some .formulario, parseState := .body } ∧
      dentro (puntoDeAcceso archivo) parseMultipartPostByte r crlf = true := by
  have state := read.parseState
  have fresh := read.temp
  have more : r.contentLength ≠ 0 := by
    rw [read.largo valid.largo]
    exact Nat.ne_of_gt (List.length_pos_iff.2 (formBody_ne_nil valid.campos))
  obtain ⟨parsed, inside⟩ :=
    line_read (puntoDeAcceso archivo) parseMultipartPostByte [carriageReturn] (.inr state) (by decide)
  refine ⟨parsed.trans ?_, inside⟩
  have blank : trim (r.temp ++ [carriageReturn]) = r.temp := by
    rw [fresh]
    decide
  rw [blank, parseLine_blank archivo state fresh more
    (attachHandler_form archivo read.method read.url)]

/-- The form is over, and its handler was called with the fields. -/
structure Atendido (e : Envio) (r : AsyncWebServerRequest) : Prop where
  parseState : r.parseState = .end_
  handled : r.handled = [(.formulario, e.campos.map postParam)]

/-- The body gives the handler its parameters and calls it. -/
theorem body_read (valid : e.Valido) (read : Leido e e.headers r) :
    Atendido e ((formBody e.campos).foldl (onByte (puntoDeAcceso archivo) parseMultipartPostByte)
        { r with handler := some .formulario, parseState := .body }) ∧
      dentro (puntoDeAcceso archivo) parseMultipartPostByte
        { r with handler := some .formulario, parseState := .body } (formBody e.campos) = true := by
  have some_ := formBody_ne_nil valid.campos
  have length : r.contentLength = (formBody e.campos).length := read.largo valid.largo
  have parsed := read.parsedLength
  have form : EsFormulario { r with handler := some .formulario, parseState := .body } :=
    ⟨read.isMultipart, read.tipo valid.tipo⟩
  have inside : dentro (puntoDeAcceso archivo) parseMultipartPostByte
      { r with handler := some .formulario, parseState := .body } (formBody e.campos) = true := by
    refine dentro_body form rfl ?_
    dsimp only
    omega
  refine ⟨?_, inside⟩
  have params := parsePlainPost_formBody (r := { r with
    handler := some .formulario
    parseState := .body
    isPlainPost := true }) valid.campos valid.named read.temp
    (by dsimp only; have := valid.small; omega) (by dsimp only; omega)
  have begin : begun { r with handler := some .formulario, parseState := .body } =
      { r with handler := some .formulario, parseState := .body, isPlainPost := true } :=
    if_pos parsed
  have whole : readForm (begun { r with handler := some .formulario, parseState := .body })
      (formBody e.campos) = { r with
        handler := some .formulario
        parseState := .body
        isPlainPost := true
        params := e.campos.map postParam
        parsedLength := r.contentLength } := by
    rw [begin, readForm]
    refine (if_pos ⟨rfl, rfl⟩).trans (params.trans ?_)
    dsimp only
    rw [read.params, List.nil_append]
  rw [← onData_bytes inside some_, onData_body rfl some_, onBody, readBody_form form, whole,
    if_pos rfl, handleRequest, read.handled]
  exact ⟨rfl, rfl⟩

theorem form_handled (valid : e.Valido) {segments : List Bytes}
    (some_ : ∀ segment ∈ segments, segment ≠ []) (cut : segments.flatten = e.bytes) :
    Atendido e (segments.foldl (onData (puntoDeAcceso archivo) parseMultipartPostByte) {}) := by
  obtain ⟨first, inside⟩ := requestLine_read archivo parseMultipartPostByte
  have start : Leido e [] pedido := ⟨rfl, rfl, rfl, rfl, rfl, rfl, rfl, rfl, by simp, by simp⟩
  obtain ⟨read, inside'⟩ :=
    headers_read archivo parseMultipartPostByte valid start fun _ member => member
  rw [List.nil_append] at read
  obtain ⟨blank, inside''⟩ := blank_read archivo parseMultipartPostByte valid read
  obtain ⟨handled, inside'''⟩ := body_read archivo parseMultipartPostByte valid read
  have whole : dentro (puntoDeAcceso archivo) parseMultipartPostByte {} segments.flatten = true := by
    rw [cut, Envio.bytes, dentro_append, dentro_append, dentro_append, List.foldl_append,
      List.foldl_append, List.foldl_append, first, inside, inside', inside'', blank, inside''']
    rfl
  rw [segments_read_as_bytes some_ whole, cut, Envio.bytes, List.foldl_append, List.foldl_append,
    List.foldl_append, first, blank]
  exact handled

theorem onData_end (done : r.parseState = .end_) (later : List Bytes) :
    later.foldl (onData (puntoDeAcceso archivo) parseMultipartPostByte) r = r := by
  induction later with
  | nil => rfl
  | cons segment later ih =>
    have head : ¬ EnCabecera r := by simp [EnCabecera, done]
    rw [List.foldl_cons, onData, onDataFrom_done head (by simp [done]), ih]

/-- However TCP cuts a form that a browser sends, its handler is called once, with the fields as
they were typed and in their order, whatever comes after the form. -/
theorem form_received (valid : e.Valido) {segments : List Bytes}
    (some_ : ∀ segment ∈ segments, segment ≠ []) (cut : segments.flatten = e.bytes)
    (later : List Bytes) :
    ((segments ++ later).foldl (onData (puntoDeAcceso archivo) parseMultipartPostByte) {}).handled =
      [(.formulario, e.campos.map postParam)] := by
  have done := form_handled archivo parseMultipartPostByte valid some_ cut
  rw [List.foldl_append, onData_end archivo parseMultipartPostByte done.parseState, done.handled]

def envioCasa : Envio where
  headers :=
    [(ascii "Host", ascii "192.168.4.1"),
      (ascii "Content-Type", ascii "application/x-www-form-urlencoded"),
      (ascii "Content-Length", ascii "43")]
  campos :=
    [(ascii "ssid", ascii "Mi casa"), (ascii "pass", ascii "50%&=+"), (ascii "ip", ascii "1.2.3.4")]

theorem envioCasa_valido : envioCasa.Valido where
  headers := by
    intro h member
    simp only [envioCasa, List.mem_cons, List.not_mem_nil, or_false] at member
    rcases member with rfl | rfl | rfl <;>
      constructor <;> simp [ascii, newline, ch, isBlank, headerLine]
  tipo := by decide +kernel
  tipos := by decide +kernel
  largo := by decide +kernel
  largos := by decide +kernel
  campos := by decide
  named := by decide +kernel
  small := by decide +kernel

theorem form_received_casa :
    (([envioCasa.bytes.take 100, envioCasa.bytes.drop 100] ++ [ascii "GET /"]).foldl
      (onData (puntoDeAcceso fun _ => false) fun _ length _ => (length, [])) {}).handled =
      [(.formulario, envioCasa.campos.map postParam)] :=
  form_received _ _ envioCasa_valido (by decide +kernel) (by decide +kernel) _

end Envio

end Chimenea.AsyncWebServer
