import Chimenea.Json.Literal
import Chimenea.Ordenes

/-!
The pages served by the fireplace (`js.js`, `js2.js`, `js3.js`) and what the sketch
reads of a message they send: from the text typed into a field to the members of `doc_rx`.
-/

namespace Chimenea.Page
open Arduino Sketch Json

/-- A text is sent in UTF-8. -/
def utf8Char (c : Char) : Bytes :=
  let v := c.toNat
  if v < 0x80 then [BitVec.ofNat 8 v]
  else if v < 0x800 then [BitVec.ofNat 8 (0xC0 + v / 64), BitVec.ofNat 8 (0x80 + v % 64)]
  else if v < 0x10000 then
    [BitVec.ofNat 8 (0xE0 + v / 4096), BitVec.ofNat 8 (0x80 + v / 64 % 64),
      BitVec.ofNat 8 (0x80 + v % 64)]
  else
    [BitVec.ofNat 8 (0xF0 + v / 262144), BitVec.ofNat 8 (0x80 + v / 4096 % 64),
      BitVec.ofNat 8 (0x80 + v / 64 % 64), BitVec.ofNat 8 (0x80 + v % 64)]

def utf8 (text : List Char) : Bytes := text.flatMap utf8Char

def hexDigit (n : Nat) : Char :=
  if n < 10 then Char.ofNat ('0'.toNat + n) else Char.ofNat ('a'.toNat + (n - 10))

/-- `JSON.stringify` on a character of a string. -/
def quoteChar (c : Char) : List Char :=
  if c = '"' then ['\\', '"']
  else if c = '\\' then ['\\', '\\']
  else if c.toNat = 8 then ['\\', 'b']
  else if c.toNat = 12 then ['\\', 'f']
  else if c.toNat = 10 then ['\\', 'n']
  else if c.toNat = 13 then ['\\', 'r']
  else if c.toNat = 9 then ['\\', 't']
  else if c.toNat < 0x20 then ['\\', 'u', '0', '0', hexDigit (c.toNat / 16), hexDigit (c.toNat % 16)]
  else [c]

def quoteJSONString (text : List Char) : List Char := '"' :: (text.flatMap quoteChar ++ ['"'])

/-- `JSON.stringify` of an object with one property, a string. -/
def stringify (key value : List Char) : List Char :=
  '{' :: (quoteJSONString key ++ ':' :: (quoteJSONString value ++ ['}']))

/-- The buttons of the pages, with the text that is in their field. -/
inductive Accion where
  | boton_bajo
  | boton_alto
  | boton_off
  | temporizador (texto : List Char)
  | boton_ajuste_llama (texto : List Char)
  | boton_ajuste_temp (texto : List Char)
  deriving DecidableEq, Repr

/-- The object `estado` of the click handler. -/
def Accion.estado : Accion → List Char × List Char
  | .boton_bajo => ("estado".toList, "on".toList)
  | .boton_alto => ("estado".toList, "alto".toList)
  | .boton_off => ("estado".toList, "off".toList)
  | .temporizador texto => ("setTemporizador".toList, texto)
  | .boton_ajuste_llama texto => ("sensorSet".toList, texto)
  | .boton_ajuste_temp texto => ("sensorTemp".toList, texto)

/-- `Socket.send(JSON.stringify(estado))`. -/
def Accion.send (accion : Accion) : Bytes :=
  utf8 (stringify accion.estado.1 accion.estado.2)

/-- The bytes of a string of the device, one character each. -/
def chars (text : Bytes) : List Char := text.map fun b => Char.ofNat b.toNat

/-- `doc_rx[key]` as a C string: null if there is no such member or it is no string. -/
def member (document : VariantData Bytes) (key : String) : Option String :=
  match document with
  | .object members =>
    match members.getMember (fun s => s) (ascii key) with
    | some (.string s) => some (String.ofList (chars (c_str s)))
    | _ => none
  | _ => none

def docRx (document : VariantData Bytes) : DocRx where
  estado := member document "estado"
  sensorSet := member document "sensorSet"
  sensorTemp := member document "sensorTemp"
  setTemporizador := member document "setTemporizador"

/-- The callback for a text frame with this payload. -/
def recibir (num : BitVec 8) (payload : Bytes) : Evento where
  num := num
  type := .text
  payload := (deserializeJson payload).map docRx

section Quote

theorem toNat_lt (c : Char) : c.toNat < 0x110000 := by
  rcases c.valid with low | ⟨_, up⟩
  · exact lt_of_lt_of_le low (by decide)
  · exact up

/-- The bytes of a text that stand for themselves in a literal. -/
def Plain (b : BitVec 8) : Prop := b ≠ ch '"' ∧ b ≠ 0 ∧ b ≠ ch '\\'

theorem plain_of_high {n : Nat} (high : 0x80 ≤ n) (byte : n < 256) : Plain (BitVec.ofNat 8 n) := by
  have value : (BitVec.ofNat 8 n).toNat = n := by
    rw [BitVec.toNat_ofNat, Nat.mod_eq_of_lt (by omega)]
  have other {b : BitVec 8} (low : b.toNat < 0x80) : BitVec.ofNat 8 n ≠ b := by
    rintro rfl
    omega
  exact ⟨other (by decide), other (by decide), other (by decide)⟩

theorem utf8Char_plain {c : Char} (quote : c ≠ '"') (slash : c ≠ '\\') (high : 0x20 ≤ c.toNat) :
    ∀ b ∈ utf8Char c, Plain b := by
  have range := toNat_lt c
  unfold utf8Char
  dsimp only
  split_ifs with one two three
  · intro b member
    rw [List.mem_singleton.1 member]
    have value : (BitVec.ofNat 8 c.toNat).toNat = c.toNat := by
      rw [BitVec.toNat_ofNat, Nat.mod_eq_of_lt (by omega)]
    have other {a : Char} (different : c ≠ a) (small : a.toNat < 256) :
        BitVec.ofNat 8 c.toNat ≠ ch a := by
      intro same
      have same := congrArg BitVec.toNat same
      rw [value, BitVec.toNat_ofNat, Nat.mod_eq_of_lt small] at same
      exact different (Char.toNat_inj.1 same)
    refine ⟨other quote (by decide), ?_, other slash (by decide)⟩
    intro null
    have same := congrArg BitVec.toNat null
    rw [value] at same
    have zero : (0 : BitVec 8).toNat = 0 := rfl
    omega
  · simp only [List.mem_cons, List.not_mem_nil, or_false, forall_eq_or_imp, forall_eq]
    exact ⟨plain_of_high (by omega) (by omega), plain_of_high (by omega) (by omega)⟩
  · simp only [List.mem_cons, List.not_mem_nil, or_false, forall_eq_or_imp, forall_eq]
    exact ⟨plain_of_high (by omega) (by omega), plain_of_high (by omega) (by omega),
      plain_of_high (by omega) (by omega)⟩
  · simp only [List.mem_cons, List.not_mem_nil, or_false, forall_eq_or_imp, forall_eq]
    exact ⟨plain_of_high (by omega) (by omega), plain_of_high (by omega) (by omega),
      plain_of_high (by omega) (by omega), plain_of_high (by omega) (by omega)⟩

theorem literal_plain {p : Codepoint} {text bytes plain : Bytes} (all : ∀ b ∈ plain, Plain b)
    (rest : Literal (ch '"') p text bytes) : Literal (ch '"') p (plain ++ text) (plain ++ bytes) := by
  induction plain with
  | nil => exact rest
  | cons b plain ih =>
    have here := all b (List.mem_cons_self ..)
    exact .raw here.1 here.2.1 here.2.2 (ih fun b member => all b (List.mem_cons_of_mem _ member))

/-- The control characters below the space are written as their code. -/
theorem control_code : ∀ n < 32,
    (utf8 ['0', '0', hexDigit (n / 16), hexDigit (n % 16)]).length = 4 ∧
      hexCode 0 (utf8 ['0', '0', hexDigit (n / 16), hexDigit (n % 16)]) =
        some (BitVec.ofNat 16 n) ∧
      isHighSurrogate (BitVec.ofNat 16 n) = false ∧ isLowSurrogate (BitVec.ofNat 16 n) = false ∧
      encodeCodepoint ((BitVec.ofNat 16 n).setWidth 32) = [BitVec.ofNat 8 n] := by decide

theorem utf8Char_ascii {c : Char} (low : c.toNat < 0x80) :
    utf8Char c = [BitVec.ofNat 8 c.toNat] := if_pos low

variable {c : Char} {text bytes : Bytes} {p : Codepoint}

theorem literal_control (low : c.toNat < 0x20) (rest : ∀ p, Literal (ch '"') p text bytes) :
    Literal (ch '"') p
      (ch '\\' :: ch 'u' :: (utf8 ['0', '0', hexDigit (c.toNat / 16), hexDigit (c.toNat % 16)] ++
        text)) (utf8Char c ++ bytes) := by
  obtain ⟨four, code, high, surrogate, encoded⟩ := control_code c.toNat low
  have complete : p.append (BitVec.ofNat 16 c.toNat) =
      (true, { p with codepoint := (BitVec.ofNat 16 c.toNat).setWidth 32 }) := by
    rw [Codepoint.append, high, surrogate]
    rfl
  have literal : Literal (ch '"') p _ _ := Literal.codeunit four code (rest _)
  rw [complete, if_pos rfl, encoded] at literal
  rw [utf8Char_ascii (by omega)]
  exact literal

theorem literal_escape (letter : Char) (byte : unescapeChar (ch letter) = BitVec.ofNat 8 c.toNat)
    (known : unescapeChar (ch letter) ≠ 0) (plain : ch letter ≠ ch 'u') (low : c.toNat < 0x80)
    (rest : Literal (ch '"') p text bytes) :
    Literal (ch '"') p (ch '\\' :: ch letter :: text) (utf8Char c ++ bytes) := by
  rw [utf8Char_ascii low, ← byte]
  exact .escape plain known rest

/-- The escape sequences of `JSON.stringify` are understood as what they stand for. -/
theorem literal_quoteChar (c : Char) (rest : ∀ p, Literal (ch '"') p text bytes) :
    Literal (ch '"') p (utf8 (quoteChar c) ++ text) (utf8Char c ++ bytes) := by
  unfold quoteChar
  split_ifs with quote slash backspace formfeed newline return_ tab control
  · subst quote
    exact literal_escape _ (by decide) (by decide) (by decide) (by decide) (rest p)
  · subst slash
    exact literal_escape _ (by decide) (by decide) (by decide) (by decide) (rest p)
  · exact literal_escape 'b' (by rw [backspace]; decide) (by decide) (by decide)
      (by omega) (rest p)
  · exact literal_escape 'f' (by rw [formfeed]; decide) (by decide) (by decide)
      (by omega) (rest p)
  · exact literal_escape 'n' (by rw [newline]; decide) (by decide) (by decide)
      (by omega) (rest p)
  · exact literal_escape 'r' (by rw [return_]; decide) (by decide) (by decide)
      (by omega) (rest p)
  · exact literal_escape 't' (by rw [tab]; decide) (by decide) (by decide)
      (by omega) (rest p)
  · exact literal_control control rest
  · have alone : utf8 [c] = utf8Char c := List.append_nil _
    rw [alone]
    exact literal_plain (utf8Char_plain quote slash (by omega)) (rest p)

theorem literal_quote (text : List Char) (p : Codepoint) :
    Literal (ch '"') p (utf8 (text.flatMap quoteChar)) (utf8 text) := by
  induction text generalizing p with
  | nil => exact .nil
  | cons c text ih =>
    rw [utf8, utf8, List.flatMap_cons, List.flatMap_append, List.flatMap_cons]
    exact literal_quoteChar c ih

theorem utf8_append (a b : List Char) : utf8 (a ++ b) = utf8 a ++ utf8 b := List.flatMap_append

theorem utf8_stringify (key value : List Char) : utf8 (stringify key value) =
    memberText (utf8 (key.flatMap quoteChar)) (utf8 (value.flatMap quoteChar)) := by
  have quoted (text : List Char) : utf8 (quoteJSONString text) =
      ch '"' :: (utf8 (text.flatMap quoteChar) ++ [ch '"']) := by
    change ch '"' :: utf8 (text.flatMap quoteChar ++ ['"']) = _
    rw [utf8_append]
    rfl
  change ch '{' :: utf8 (quoteJSONString key ++ ':' :: (quoteJSONString value ++ ['}'])) = _
  rw [utf8_append, quoted]
  change ch '{' :: (ch '"' :: (utf8 (key.flatMap quoteChar) ++ [ch '"']) ++
    ch ':' :: utf8 (quoteJSONString value ++ ['}'])) = _
  rw [utf8_append, quoted, memberText]
  simp only [List.cons_append, List.append_assoc, List.nil_append]
  rfl

/-- What the device finds in the document of a page's message. -/
theorem deserializeJson_stringify (key value : List Char) :
    deserializeJson (utf8 (stringify key value)) =
      .ok (.object (.slot (some (utf8 key)) (.string (utf8 value)) .empty)) := by
  rw [utf8_stringify]
  exact deserializeJson_member (literal_quote key {}) (literal_quote value {})

end Quote

section Number

/-- The characters of a typed text as the device has them. -/
def recibido (texto : List Char) : List Char := chars (c_str (utf8 texto))

theorem recibido_null {c : Char} (texto : List Char) (null : c.toNat = 0) :
    recibido (c :: texto) = [] := by
  have empty : c_str (utf8 (c :: texto)) = [] := by
    rw [utf8, List.flatMap_cons, utf8Char_ascii (by omega), null, c_str]
    exact List.takeWhile_cons_of_neg (by decide)
  rw [recibido, empty]
  rfl

theorem recibido_ascii {c : Char} (texto : List Char) (more : 0 < c.toNat) (low : c.toNat < 0x80) :
    recibido (c :: texto) = c :: recibido texto := by
  have value : (BitVec.ofNat 8 c.toNat).toNat = c.toNat := by
    rw [BitVec.toNat_ofNat, Nat.mod_eq_of_lt (by omega)]
  have solid : BitVec.ofNat 8 c.toNat ≠ 0 := by
    intro null
    have same := congrArg BitVec.toNat null
    rw [value] at same
    have zero : (0 : BitVec 8).toNat = 0 := rfl
    omega
  have split : c_str (utf8 (c :: texto)) = BitVec.ofNat 8 c.toNat :: c_str (utf8 texto) := by
    rw [utf8, List.flatMap_cons, utf8Char_ascii low, c_str]
    exact List.takeWhile_cons_of_pos (by simpa using solid)
  rw [recibido, split, chars, List.map_cons, value, Char.ofNat_toNat]
  rfl

theorem toNat_byte (n : Nat) (byte : n < 256) : (Char.ofNat n).toNat = n := by
  rw [Char.ofNat, dif_pos (.inl (by omega))]
  rfl

/-- A character outside ASCII arrives as characters outside ASCII. -/
theorem recibido_high {c : Char} (texto : List Char) (high : 0x80 ≤ c.toNat) :
    ∃ d rest, recibido (c :: texto) = d :: rest ∧ 0x80 ≤ d.toNat := by
  have shape : ∃ n tail, utf8Char c = BitVec.ofNat 8 n :: tail ∧ 0x80 ≤ n ∧ n < 256 := by
    have range := toNat_lt c
    unfold utf8Char
    dsimp only
    split_ifs with one two three
    · omega
    · exact ⟨_, _, rfl, by omega, by omega⟩
    · exact ⟨_, _, rfl, by omega, by omega⟩
    · exact ⟨_, _, rfl, by omega, by omega⟩
  obtain ⟨n, tail, bytes, up, byte⟩ := shape
  have value : (BitVec.ofNat 8 n).toNat = n := by
    rw [BitVec.toNat_ofNat, Nat.mod_eq_of_lt (by omega)]
  have split : c_str (utf8 (c :: texto)) = BitVec.ofNat 8 n :: c_str (tail ++ utf8 texto) := by
    rw [utf8, List.flatMap_cons, bytes, c_str]
    exact List.takeWhile_cons_of_pos (by simpa using (plain_of_high up byte).2.1)
  refine ⟨Char.ofNat n, chars (c_str (tail ++ utf8 texto)), ?_, ?_⟩
  · rw [recibido, split, chars, List.map_cons, value]
    rfl
  · rw [toNat_byte n byte]
    exact up

/-- The decimal reader stops at such a character without a value. -/
structure Stops (c : Char) : Prop where
  digit : c.isDigit = false
  space : isspace c = false
  minus : c ≠ '-'
  plus : c ≠ '+'

theorem stops_of_high {c : Char} (high : 0x80 ≤ c.toNat) : Stops c where
  digit := by
    rw [Char.isDigit, Bool.and_eq_false_iff]
    right
    rw [decide_eq_false_iff_not, UInt32.le_iff_toNat_le]
    intro le
    have small : c.toNat ≤ 57 := le
    omega
  space := by
    rw [isspace, Bool.or_eq_false_iff]
    constructor
    · rw [decide_eq_false_iff_not]
      rintro rfl
      exact absurd high (by decide)
    · rw [Bool.and_eq_false_iff]
      right
      rw [decide_eq_false_iff_not]
      omega
  minus := by
    rintro rfl
    exact absurd high (by decide)
  plus := by
    rintro rfl
    exact absurd high (by decide)

theorem stops_of_null {c : Char} (null : c.toNat = 0) : Stops c := by
  have same : c = '\x00' := Char.toNat_inj.1 null
  subst same
  exact ⟨by decide, by decide, by decide, by decide⟩

theorem leadingDigits_stops {c : Char} (stops : Stops c) (value : Nat) (rest : List Char) :
    leadingDigits value (c :: rest) = value := by
  rw [leadingDigits, stops.digit]
  rfl

theorem atol_unsigned {c : Char} (space : isspace c = false) (minus : c ≠ '-') (plus : c ≠ '+')
    (rest : List Char) : atol (c :: rest) = min LONG_MAX (leadingDigits 0 (c :: rest)) := by
  have blank : (c :: rest).dropWhile isspace = c :: rest := by
    rw [List.dropWhile_cons, space]
    rfl
  rw [atol, blank]
  split
  · next signed => exact absurd (List.cons.inj signed).1 minus
  · next signed => exact absurd (List.cons.inj signed).1 plus
  · rfl

theorem atol_stops {c : Char} (stops : Stops c) (rest : List Char) : atol (c :: rest) = 0 := by
  rw [atol_unsigned stops.space stops.minus stops.plus, leadingDigits_stops stops]
  rfl

theorem leadingDigits_recibido (texto : List Char) (value : Nat) :
    leadingDigits value (recibido texto) = leadingDigits value texto := by
  induction texto generalizing value with
  | nil => rfl
  | cons c texto ih =>
    rcases Nat.eq_zero_or_pos c.toNat with null | more
    · rw [recibido_null texto null, leadingDigits_stops (stops_of_null null)]
      rfl
    rcases Nat.lt_or_ge c.toNat 0x80 with low | high
    · rw [recibido_ascii texto more low, leadingDigits, leadingDigits, ih]
    · obtain ⟨d, rest, shape, up⟩ := recibido_high texto high
      rw [shape, leadingDigits_stops (stops_of_high up), leadingDigits_stops (stops_of_high high)]

/-- The decimal reader finds the same number in the bytes of a text as in the text. -/
theorem atol_recibido (texto : List Char) : atol (recibido texto) = atol texto := by
  induction texto with
  | nil => rfl
  | cons c texto ih =>
    rcases Nat.eq_zero_or_pos c.toNat with null | more
    · rw [recibido_null texto null, atol_stops (stops_of_null null)]
      rfl
    rcases Nat.lt_or_ge c.toNat 0x80 with low | high
    · rw [recibido_ascii texto more low]
      by_cases space : isspace c = true
      · have skip (rest : List Char) : atol (c :: rest) = atol rest := by
          rw [atol, atol, List.dropWhile_cons_of_pos space]
        rw [skip, skip, ih]
      · by_cases minus : c = '-'
        · subst minus
          change max LONG_MIN (-(leadingDigits 0 (recibido texto) : Int)) = _
          rw [leadingDigits_recibido]
          rfl
        by_cases plus : c = '+'
        · subst plus
          change min LONG_MAX (leadingDigits 0 (recibido texto) : Int) = _
          rw [leadingDigits_recibido]
          rfl
        have dark := Bool.eq_false_of_not_eq_true space
        have digits := leadingDigits_recibido (c :: texto) 0
        rw [recibido_ascii texto more low] at digits
        rw [atol_unsigned dark minus plus, atol_unsigned dark minus plus, digits]
    · obtain ⟨d, rest, shape, up⟩ := recibido_high texto high
      rw [shape, atol_stops (stops_of_high up), atol_stops (stops_of_high high)]

end Number

section Received

/-- The members the sketch finds in the document of an action. -/
def Accion.docRx : Accion → DocRx
  | .boton_bajo => { estado := some "on" }
  | .boton_alto => { estado := some "alto" }
  | .boton_off => { estado := some "off" }
  | .temporizador texto => { setTemporizador := some (String.ofList (recibido texto)) }
  | .boton_ajuste_llama texto => { sensorSet := some (String.ofList (recibido texto)) }
  | .boton_ajuste_temp texto => { sensorTemp := some (String.ofList (recibido texto)) }

theorem member_slot (key : Bytes) (value : Bytes) (asked : String) :
    member (.object (.slot (some key) (.string value) .empty)) asked =
      if c_str key = c_str (ascii asked) then some (String.ofList (chars (c_str value))) else none := by
  by_cases same : c_str key = c_str (ascii asked)
  · have found : (CollectionData.slot (some key) (.string value) .empty).getMember (fun s => s)
        (ascii asked) = some (.string value) := by
      rw [CollectionData.getMember, CollectionData.getSlot, Option.map_some,
        if_pos (congrArg some same)]
      rfl
    rw [if_pos same, member, found]
  · have absent : (CollectionData.slot (some key) (.string value) .empty).getMember (fun s => s)
        (ascii asked) = none := by
      rw [CollectionData.getMember, CollectionData.getSlot, Option.map_some,
        if_neg (fun found => same (Option.some.inj found))]
      rfl
    rw [if_neg same, member, absent]

def claves : List String := ["estado", "sensorSet", "sensorTemp", "setTemporizador"]

theorem claves_apart : ∀ a ∈ claves, ∀ b ∈ claves,
    c_str (utf8 a.toList) = c_str (ascii b) ↔ a = b := by decide

theorem docRx_slot {clave : String} (known : clave ∈ claves) (value : Bytes) :
    docRx (.object (.slot (some (utf8 clave.toList)) (.string value) .empty)) =
      let texto := some (String.ofList (chars (c_str value)))
      { estado := if clave = "estado" then texto else none
        sensorSet := if clave = "sensorSet" then texto else none
        sensorTemp := if clave = "sensorTemp" then texto else none
        setTemporizador := if clave = "setTemporizador" then texto else none } := by
  have asked (b : String) (here : b ∈ claves) :
      member (.object (.slot (some (utf8 clave.toList)) (.string value) .empty)) b =
        if clave = b then some (String.ofList (chars (c_str value))) else none := by
    rw [member_slot]
    exact if_congr (claves_apart clave known b here) rfl rfl
  rw [docRx, asked "estado" (by decide), asked "sensorSet" (by decide),
    asked "sensorTemp" (by decide), asked "setTemporizador" (by decide)]

/-- The message of an action arrives with its own member and no other. -/
theorem recibir_send_eq (num : BitVec 8) (accion : Accion) :
    recibir num accion.send = ⟨num, .text, .ok accion.docRx⟩ := by
  have document (clave : String) (known : clave ∈ claves) (value : List Char) :
      recibir num (utf8 (stringify clave.toList value)) = ⟨num, .text, .ok
        { estado := if clave = "estado" then some (String.ofList (recibido value)) else none
          sensorSet := if clave = "sensorSet" then some (String.ofList (recibido value)) else none
          sensorTemp := if clave = "sensorTemp" then some (String.ofList (recibido value)) else none
          setTemporizador :=
            if clave = "setTemporizador" then some (String.ofList (recibido value)) else none }⟩ := by
    rw [recibir, deserializeJson_stringify, Except.map, docRx_slot known]
    rfl
  have estado (valor : String) (ascii : recibido valor.toList = valor.toList) :
      recibir num (utf8 (stringify "estado".toList valor.toList)) =
        ⟨num, .text, .ok { estado := some valor }⟩ := by
    rw [document "estado" (by decide), ascii, String.ofList_toList]
    rfl
  cases accion with
  | boton_bajo => exact estado "on" (by decide)
  | boton_alto => exact estado "alto" (by decide)
  | boton_off => exact estado "off" (by decide)
  | temporizador texto => exact document "setTemporizador" (by decide) texto
  | boton_ajuste_llama texto => exact document "sensorSet" (by decide) texto
  | boton_ajuste_temp texto => exact document "sensorTemp" (by decide) texto

/-- The variables of the handler when the message has one of the three numbers. -/
def anotar (s : State) (sensorVal tempVal temporizadorVal : Int) : State :=
  { s with sensorVal := sensorVal, tempVal := tempVal, temporizadorVal := temporizadorVal }

/-- The low eight bits of a number in a cell, in memory and in the flash. -/
def guardar (eeprom : Eeprom) (direccion : Fin EEPROM_SIZE) (valor : Int) : Eeprom :=
  let ram := Function.update eeprom.ram direccion (BitVec.ofInt 8 valor)
  ⟨ram, ram⟩

/-- What a click is for. A number that is 0, or text without a number, sets nothing. -/
def Accion.efecto (s : State) : Accion → State
  | .boton_bajo =>
    { anotar s 0 0 0 with
      encendida := true
      blink := true
      encendidaAlto := false
      salidas := [.digitalWrite .gasBajo HIGH, .digitalWrite .chispa HIGH] ++ s.salidas }
  | .boton_alto => { anotar s 0 0 0 with encendida := true, encendidaAlto := true }
  | .boton_off =>
    { anotar s 0 0 0 with
      encendida := false
      blink := false
      encendidaAlto := false
      iniciarCicloEncendido := false
      minutos := 0
      intentos := 0
      contadorMinuto := 0
      salidas := [.digitalWrite .chispa LOW, .digitalWrite .gasBajo LOW,
        .digitalWrite .gasAlto LOW] ++ s.salidas }
  | .temporizador texto =>
    { anotar s 0 0 (atol texto) with
      minutos := if atol texto = 0 then s.minutos else atol texto }
  | .boton_ajuste_llama texto =>
    if atol texto = 0 then anotar s 0 0 0
    else
      { anotar s (atol texto) 0 0 with
        eeprom := guardar s.eeprom direccion0 (atol texto)
        sensorVal1 := (BitVec.ofInt 8 (atol texto)).toNat }
  | .boton_ajuste_temp texto =>
    if atol texto = 0 then anotar s 0 0 0
    else
      { anotar s 0 (atol texto) 0 with
        eeprom := guardar s.eeprom direccion1 (atol texto)
        tempVal1 := (BitVec.ofInt 8 (atol texto)).toNat }

theorem toInt_recibido (texto : List Char) :
    toInt (string (some (String.ofList (recibido texto)))) = atol texto := by
  rw [string, Option.getD_some, toInt, String.toList_ofList]
  exact atol_recibido texto

theorem recibirEstado_none (s : State) : recibirEstado s (string none) = s := by
  have on : string none ≠ "on" := by decide
  have alto : string none ≠ "alto" := by decide
  have off : string none ≠ "off" := by decide
  rw [recibirEstado, if_neg on, if_neg alto, if_neg off]

theorem toInt_none : toInt (string none) = 0 := by decide

theorem recibirSensor_zero {s : State} (zero : s.sensorVal = 0) : recibirSensor s = s :=
  if_neg (not_not.2 zero)

theorem recibirTemp_zero {s : State} (zero : s.tempVal = 0) : recibirTemp s = s :=
  if_neg (not_not.2 zero)

/-- A message with one member runs the part of the handler for that member. -/
theorem recibirTexto_estado (s : State) (estado : Option String) :
    recibirTexto s { estado := estado } = recibirEstado (anotar s 0 0 0) (string estado) := by
  simp only [recibirTexto, toInt_none]
  rfl

theorem recibirTexto_setTemporizador (s : State) (texto : Option String) :
    recibirTexto s { setTemporizador := texto } =
      recibirTemporizador (anotar s 0 0 (toInt (string texto))) := by
  simp only [recibirTexto, toInt_none, recibirEstado_none]
  have sensor : (recibirTemporizador (anotar s 0 0 (toInt (string texto)))).sensorVal = 0 := by
    unfold recibirTemporizador
    split_ifs <;> rfl
  have temp : (recibirTemporizador (anotar s 0 0 (toInt (string texto)))).tempVal = 0 := by
    unfold recibirTemporizador
    split_ifs <;> rfl
  exact (congrArg recibirTemp (recibirSensor_zero sensor)).trans (recibirTemp_zero temp)

theorem recibirTexto_sensorSet (s : State) (texto : Option String) :
    recibirTexto s { sensorSet := texto } =
      recibirSensor (anotar s (toInt (string texto)) 0 0) := by
  simp only [recibirTexto, toInt_none, recibirEstado_none]
  have temp : (recibirSensor (anotar s (toInt (string texto)) 0 0)).tempVal = 0 := by
    unfold recibirSensor
    split_ifs <;> rfl
  exact recibirTemp_zero temp

theorem recibirTexto_sensorTemp (s : State) (texto : Option String) :
    recibirTexto s { sensorTemp := texto } =
      recibirTemp (anotar s 0 (toInt (string texto)) 0) := by
  simp only [recibirTexto, toInt_none, recibirEstado_none]
  rfl

theorem recibirTexto_accion (s : State) (accion : Accion) :
    recibirTexto s accion.docRx = accion.efecto s := by
  cases accion with
  | boton_bajo =>
    refine (recibirTexto_estado s (some "on")).trans ?_
    simp [recibirEstado, string, Accion.efecto, estadoOn, digitalWrite, anotar]
  | boton_alto =>
    refine (recibirTexto_estado s (some "alto")).trans ?_
    simp [recibirEstado, string, Accion.efecto, estadoAlto, anotar]
  | boton_off =>
    refine (recibirTexto_estado s (some "off")).trans ?_
    simp [recibirEstado, string, Accion.efecto, estadoOff, digitalWrite, anotar]
  | temporizador texto =>
    refine (recibirTexto_setTemporizador s _).trans ?_
    rw [toInt_recibido, Accion.efecto]
    by_cases zero : atol texto = 0
    · rw [if_pos zero, zero]
      rfl
    · rw [if_neg zero]
      exact if_pos zero
  | boton_ajuste_llama texto =>
    refine (recibirTexto_sensorSet s _).trans ?_
    rw [toInt_recibido, Accion.efecto]
    by_cases zero : atol texto = 0
    · rw [if_pos zero, recibirSensor_zero zero, zero]
    · rw [if_neg zero]
      refine (if_pos (show (anotar s (atol texto) 0 0).sensorVal ≠ 0 from zero)).trans ?_
      simp [anotar, guardar, Eeprom.write, Eeprom.commit, Eeprom.read]
  | boton_ajuste_temp texto =>
    refine (recibirTexto_sensorTemp s _).trans ?_
    rw [toInt_recibido, Accion.efecto]
    by_cases zero : atol texto = 0
    · rw [if_pos zero, recibirTemp_zero zero, zero]
    · rw [if_neg zero]
      refine (if_pos (show (anotar s 0 (atol texto) 0).tempVal ≠ 0 from zero)).trans ?_
      simp [anotar, guardar, Eeprom.write, Eeprom.commit, Eeprom.read]

/-- Handling the message of a click is what the click is for, whatever was typed. -/
theorem webSocketEvent_send (s : State) (num : BitVec 8) (accion : Accion) :
    webSocketEvent s (recibir num accion.send) = accion.efecto s := by
  rw [recibir_send_eq]
  exact recibirTexto_accion s accion

end Received

section Sent

/-- The first byte of a character says how many bytes it has, and they say which it is. -/
theorem utf8Char_append_inj {c d : Char} {x y : Bytes}
    (same : utf8Char c ++ x = utf8Char d ++ y) : c = d ∧ x = y := by
  have cr := toNat_lt c
  have dr := toNat_lt d
  suffices c.toNat = d.toNat ∧ x = y from ⟨Char.toNat_inj.1 this.1, this.2⟩
  unfold utf8Char at same
  dsimp only at same
  split_ifs at same <;>
    simp only [List.cons_append, List.nil_append, List.cons.injEq, ← BitVec.toNat_inj,
      BitVec.toNat_ofNat] at same <;>
    first
    | omega
    | exact ⟨by omega, by tauto⟩

theorem utf8_injective : Function.Injective utf8 := by
  intro a b same
  have some_ (c : Char) (text : List Char) : utf8 (c :: text) ≠ [] := by
    rw [utf8, List.flatMap_cons, utf8Char]
    split_ifs <;> simp
  induction a generalizing b with
  | nil =>
    cases b with
    | nil => rfl
    | cons d b => exact absurd same.symm (some_ d b)
  | cons c a ih =>
    cases b with
    | nil => exact absurd same (some_ c a)
    | cons d b =>
      obtain ⟨rfl, rest⟩ := utf8Char_append_inj same
      rw [ih rest]

theorem estado_injective : Function.Injective Accion.estado := by
  intro a b same
  cases a <;> cases b <;> obtain ⟨key, value⟩ := Prod.mk.inj same <;>
    first
    | rfl
    | exact absurd key (by decide)
    | exact absurd value (by decide)
    | exact congrArg _ value

/-- No two clicks are sent as the same text. -/
theorem send_injective : Function.Injective Accion.send := by
  intro a b same
  have document := congrArg deserializeJson same
  rw [Accion.send, Accion.send, deserializeJson_stringify, deserializeJson_stringify] at document
  injection document with document
  injection document with members
  injection members with key value
  injection value with value
  exact estado_injective (Prod.ext (utf8_injective (Option.some.inj key)) (utf8_injective value))

end Sent

end Chimenea.Page
