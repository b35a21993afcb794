import Chimenea.AsyncWebServer.Segments

/-!
What a browser makes of a form's fields, and the parameters the server finds in it.
-/

namespace Chimenea.AsyncWebServer
open Arduino
open Wifi (AsyncWebParameter)

/-- The bytes a browser leaves as they are. -/
def unreserved (b : BitVec 8) : Bool :=
  (48 ≤ b.toNat && b.toNat ≤ 57) || (65 ≤ b.toNat && b.toNat ≤ 90) ||
    (97 ≤ b.toNat && b.toNat ≤ 122) || b = ch '*' || b = ch '-' || b = ch '.' || b = ch '_'

def hexUpper (n : Nat) : BitVec 8 := BitVec.ofNat 8 (if n < 10 then 48 + n else 55 + n)

def urlencodeByte (b : BitVec 8) : Bytes :=
  if b = ch ' ' then [ch '+']
  else if unreserved b = true then [b]
  else [ch '%', hexUpper (b.toNat / 16), hexUpper (b.toNat % 16)]

def urlencode (text : Bytes) : Bytes := text.flatMap urlencodeByte

def formField (campo : Bytes × Bytes) : Bytes := urlencode campo.1 ++ ch '=' :: urlencode campo.2

/-- The parameter a field is meant to be. -/
def postParam (campo : Bytes × Bytes) : AsyncWebParameter where
  isPost := true
  name := campo.1
  value := campo.2

/-- The body of a form, `application/x-www-form-urlencoded`. -/
def formBody : List (Bytes × Bytes) → Bytes
  | [] => []
  | [campo] => formField campo
  | campo :: rest => formField campo ++ ch '&' :: formBody rest

section Text

theorem unsigned_small {n : Nat} (small : n < 4294967296) : unsigned n = n := by
  rw [unsigned, BitVec.ofInt_natCast, BitVec.toNat_ofNat, Nat.mod_eq_of_lt small]

theorem c_str_append_solid {front : Bytes} (solid : (0 : BitVec 8) ∉ front) (back : Bytes) :
    c_str (front ++ back) = front ++ c_str back := by
  refine List.takeWhile_append_of_pos fun b member => decide_eq_true fun null => ?_
  exact solid (null ▸ member)

/-- A character is found behind what does not have it. -/
theorem indexOfChar_append {front : Bytes} {c : BitVec 8} (solid : (0 : BitVec 8) ∉ front)
    (absent : c ∉ front) (some_ : c ≠ 0) (back : Bytes) :
    indexOfChar (front ++ c :: back) c 0 = front.length := by
  have found : (c_str (front ++ c :: back)).findIdx? (· = c) = some front.length := by
    have first : c_str (c :: back) = c :: c_str back :=
      List.takeWhile_cons_of_pos (decide_eq_true some_)
    have nowhere : front.findIdx? (fun b => decide (b = c)) = none := by
      rw [List.findIdx?_eq_none_iff]
      intro b member
      exact decide_eq_false fun same => absent (same ▸ member)
    have here : (c :: c_str back).findIdx? (fun b => decide (b = c)) = some 0 := by
      rw [List.findIdx?_cons]
      simp
    rw [c_str_append_solid solid, first, List.findIdx?_append, nowhere, here]
    simp
  rw [indexOfChar, if_neg (by simp), List.drop_zero, found]
  simp

theorem substring_front (front back : Bytes) (small : front.length < 4294967296) :
    substring (front ++ back) 0 (unsigned front.length) = front := by
  rw [unsigned_small small, substring, Nat.max_eq_right (Nat.zero_le _),
    Nat.min_eq_left (Nat.zero_le _), List.take_left, List.drop_zero]

theorem substring_toEnd (text : Bytes) (left : Nat) :
    substring text left text.length = text.drop left := by
  rcases Nat.le_total left text.length with inside | outside
  · rw [substring, Nat.max_eq_right inside, Nat.min_eq_left inside, List.take_length]
  · rw [substring, Nat.max_eq_left outside, Nat.min_eq_right outside,
      List.take_of_length_le outside, List.drop_length, List.drop_eq_nil_of_le outside]

end Text

section Decode

theorem urlDecode_plain {c : BitVec 8} (plain : c ≠ ch '%') (rest : Bytes) :
    urlDecode (c :: rest) = plus c :: urlDecode rest := by
  match rest with
  | [] => rfl
  | [_] => rfl
  | _ :: _ :: _ => rw [urlDecode, if_neg plain]

theorem strtolHex_hexUpper : ∀ h < 16, ∀ l < 16, strtolHex (hexUpper h) (hexUpper l) = 16 * h + l := by
  decide

theorem urlDecode_urlencodeByte (b : BitVec 8) (rest : Bytes) :
    urlDecode (urlencodeByte b ++ rest) = b :: urlDecode rest := by
  have byte := b.isLt
  unfold urlencodeByte
  split_ifs with space plain
  · rw [List.singleton_append, urlDecode_plain (by decide), space]
    rfl
  · have other : b ≠ ch '%' ∧ b ≠ ch '+' := by
      constructor <;>
      · intro same
        rw [same] at plain
        exact absurd plain (by decide)
    rw [List.singleton_append, urlDecode_plain other.1, plus, if_neg other.2]
  · rw [List.cons_append, List.cons_append, List.singleton_append, urlDecode, if_pos rfl,
      strtolHex_hexUpper _ (by omega) _ (by omega), Nat.div_add_mod, BitVec.ofNat_toNat,
      BitVec.setWidth_eq]

/-- What was encoded is decoded. -/
theorem urlDecode_urlencode (text : Bytes) : urlDecode (urlencode text) = text := by
  suffices all : ∀ rest, urlDecode (urlencode text ++ rest) = text ++ urlDecode rest by
    have whole := all []
    rw [List.append_nil, urlDecode, List.append_nil] at whole
    exact whole
  induction text with
  | nil => exact fun _ => rfl
  | cons b text ih =>
    intro rest
    rw [urlencode, List.flatMap_cons, List.append_assoc, urlDecode_urlencodeByte, List.cons_append]
    exact congrArg _ (ih rest)

/-- The bytes that have a meaning of their own in a form or in a text. -/
def separators : Bytes := [0, ch '&', ch '=', ch '{', ch '[']

theorem hexUpper_apart : ∀ n < 16, hexUpper n ∉ separators := by decide

theorem urlencode_apart (text : Bytes) : ∀ c ∈ urlencode text, c ∉ separators := by
  intro c member
  obtain ⟨b, _, inside⟩ := List.mem_flatMap.1 member
  have byte := b.isLt
  unfold urlencodeByte at inside
  split_ifs at inside with space plain
  · rw [List.mem_singleton.1 inside]
    decide
  · rw [List.mem_singleton.1 inside]
    intro special
    have each : ∀ c ∈ separators, unreserved c = false := by decide
    rw [each b special] at plain
    exact absurd plain (by simp)
  · simp only [List.mem_cons, List.not_mem_nil, or_false] at inside
    rcases inside with rfl | rfl | rfl
    · decide
    · exact hexUpper_apart _ (by omega)
    · exact hexUpper_apart _ (by omega)

theorem urlencode_ne_nil {text : Bytes} (some_ : text ≠ []) : urlencode text ≠ [] := by
  obtain ⟨b, text, rfl⟩ := List.exists_cons_of_ne_nil some_
  rw [urlencode, List.flatMap_cons, urlencodeByte]
  split_ifs <;> simp

end Decode

section Pieces

variable {r : AsyncWebServerRequest} {campo : Bytes × Bytes}

/-- A field is read as what it was written from. -/
theorem leerParam_formField (named : campo.1 ≠ []) (small : (formField campo).length < 4294967296) :
    leerParam (formField campo) = postParam campo := by
  have apart := urlencode_apart campo.1
  have short : (urlencode campo.1).length < 4294967296 := by
    rw [formField, List.length_append] at small
    omega
  have index : indexOfChar (formField campo) (ch '=') 0 = (urlencode campo.1).length :=
    indexOfChar_append (fun null => apart _ null (by decide)) (fun same => apart _ same (by decide))
      (by decide) _
  obtain ⟨c, rest, head⟩ := List.exists_cons_of_ne_nil (urlencode_ne_nil named)
  have starts (pattern : BitVec 8) (special : pattern ∈ separators) :
      startsWith (formField campo) [pattern] = false := by
    have other : pattern ≠ c := fun same => apart c (head ▸ List.mem_cons_self ..) (same ▸ special)
    rw [formField, head, startsWith, List.cons_append, List.isPrefixOf_cons_cons,
      beq_eq_false_iff_ne.2 other, Bool.false_and]
  have brace : startsWith (formField campo) [ch '{'] = false := starts (ch '{') (by decide)
  have bracket : startsWith (formField campo) [ch '['] = false := starts (ch '[') (by decide)
  have positive : 0 < indexOfChar (formField campo) (ch '=') 0 := by
    have more := List.length_pos_iff.2 (urlencode_ne_nil named)
    rw [index]
    omega
  have next : unsigned (indexOfChar (formField campo) (ch '=') 0 + 1) =
      (urlencode campo.1 ++ [ch '=']).length := by
    rw [formField, List.length_append, List.length_cons] at small
    rw [index]
    change unsigned ((urlencode campo.1).length + 1 : Nat) = _
    rw [unsigned_small (by omega), List.length_append, List.length_singleton]
  have name : substring (formField campo) 0 (unsigned (indexOfChar (formField campo) (ch '=') 0)) =
      urlencode campo.1 := by
    rw [index]
    exact substring_front _ _ short
  have value : substring (formField campo)
      (unsigned (indexOfChar (formField campo) (ch '=') 0 + 1)) (formField campo).length =
      urlencode campo.2 := by
    have split : formField campo = urlencode campo.1 ++ [ch '='] ++ urlencode campo.2 := by
      rw [formField, List.append_assoc, List.singleton_append]
    rw [next, split, substring_toEnd, List.drop_left]
  rw [leerParam, if_pos ⟨brace, bracket, positive⟩, name, value, urlDecode_urlencode,
    urlDecode_urlencode]
  rfl

/-- The characters of a piece are collected as long as more of the body is to come. -/
theorem parsePlainPost_piece {piece : Bytes} (apart : ∀ c ∈ piece, c ∉ [0, ch '&'])
    (more : r.parsedLength + piece.length < r.contentLength) :
    parsePlainPost r piece =
      { r with temp := r.temp ++ piece, parsedLength := r.parsedLength + piece.length } := by
  induction piece generalizing r with
  | nil => simp [parsePlainPost]
  | cons c piece ih =>
    have other := apart c (List.mem_cons_self ..)
    rw [List.mem_cons, List.mem_singleton, not_or] at other
    rw [List.length_cons] at more
    have goesOn : ¬ (c = 0 ∨ c = ch '&' ∨ r.parsedLength + 1 = r.contentLength) := by
      rintro (null | amp | last)
      · exact other.1 null
      · exact other.2 amp
      · omega
    have first : parsePlainPostChar { r with parsedLength := r.parsedLength + 1 } c =
        { r with parsedLength := r.parsedLength + 1, temp := r.temp ++ [c] } := by
      rw [parsePlainPostChar, if_pos other]
      exact if_neg goesOn
    rw [parsePlainPost, first, ih (fun c member => apart c (List.mem_cons_of_mem _ member))
      (by dsimp only; omega)]
    simp [Nat.add_assoc, Nat.add_comm 1]

theorem parsePlainPost_amp {piece : Bytes} (apart : ∀ c ∈ piece, c ∉ [0, ch '&'])
    (more : r.parsedLength + piece.length < r.contentLength) :
    parsePlainPost r (piece ++ [ch '&']) =
      { r with
        temp := []
        params := r.params ++ [leerParam (r.temp ++ piece)]
        parsedLength := r.parsedLength + (piece.length + 1) } := by
  have ends (r : AsyncWebServerRequest) : parsePlainPostChar r (ch '&') =
      { r with temp := [], params := r.params ++ [leerParam r.temp] } := by
    have special : ¬ (ch '&' ≠ 0 ∧ ch '&' ≠ ch '&') := fun both => both.2 rfl
    rw [parsePlainPostChar, if_neg special]
    exact if_pos (.inr (.inl rfl))
  rw [parsePlainPost_append, parsePlainPost_piece apart more, parsePlainPost, parsePlainPost, ends]
  rfl

/-- The last character of the body ends the last piece. -/
theorem parsePlainPost_last {piece : Bytes} (apart : ∀ c ∈ piece, c ∉ [0, ch '&'])
    (some_ : piece ≠ []) (whole : r.parsedLength + piece.length = r.contentLength) :
    parsePlainPost r piece =
      { r with
        temp := []
        params := r.params ++ [leerParam (r.temp ++ piece)]
        parsedLength := r.parsedLength + piece.length } := by
  obtain ⟨front, c, rfl⟩ : ∃ front c, piece = front ++ [c] :=
    ⟨_, _, (List.dropLast_concat_getLast some_).symm⟩
  have other := apart c (by simp)
  rw [List.mem_cons, List.mem_singleton, not_or] at other
  rw [List.length_append, List.length_singleton] at whole
  have last (r : AsyncWebServerRequest) (complete : r.parsedLength = r.contentLength) :
      parsePlainPostChar r c = { r with
        temp := [], params := r.params ++ [leerParam (r.temp ++ [c])] } := by
    rw [parsePlainPostChar, if_pos other]
    exact if_pos (.inr (.inr complete))
  rw [parsePlainPost_append, parsePlainPost_piece
    (fun c member => apart c (List.mem_append_left _ member)) (by omega), parsePlainPost,
    parsePlainPost, last _ (by dsimp only; omega)]
  simp [Nat.add_assoc]

theorem formField_apart (campo : Bytes × Bytes) : ∀ c ∈ formField campo, c ∉ [0, ch '&'] := by
  intro c member special
  have listed : c ∈ separators := by
    simp only [List.mem_cons, List.not_mem_nil, or_false] at special
    rcases special with rfl | rfl <;> decide
  rcases List.mem_append.1 member with name | rest
  · exact urlencode_apart _ c name listed
  rcases List.mem_cons.1 rest with rfl | value
  · exact absurd special (by decide)
  · exact urlencode_apart _ c value listed

theorem formField_ne_nil (campo : Bytes × Bytes) : formField campo ≠ [] := by
  simp [formField]

theorem formBody_ne_nil {campos : List (Bytes × Bytes)} (some_ : campos ≠ []) :
    formBody campos ≠ [] := by
  match campos with
  | [] => exact absurd rfl some_
  | [campo] => exact formField_ne_nil campo
  | _ :: _ :: _ => simp [formBody]

/-- The body of a form gives its fields, in their order. -/
theorem parsePlainPost_formBody {campos : List (Bytes × Bytes)} (some_ : campos ≠ [])
    (named : ∀ campo ∈ campos, campo.1 ≠ []) (fresh : r.temp = [])
    (small : r.contentLength < 4294967296)
    (whole : r.parsedLength + (formBody campos).length = r.contentLength) :
    parsePlainPost r (formBody campos) =
      { r with
        params := r.params ++ campos.map postParam
        parsedLength := r.contentLength } := by
  induction campos generalizing r with
  | nil => exact absurd rfl some_
  | cons campo rest ih =>
    have name := named campo (List.mem_cons_self ..)
    cases rest with
    | nil =>
      rw [formBody] at whole ⊢
      rw [parsePlainPost_last (formField_apart campo) (formField_ne_nil campo) whole, fresh,
        List.nil_append, leerParam_formField name (by omega), whole]
      rfl
    | cons campo' rest =>
      have split : formBody (campo :: campo' :: rest) =
          formField campo ++ [ch '&'] ++ formBody (campo' :: rest) := by
        rw [formBody, List.append_assoc, List.singleton_append]
        simp
      rw [split, List.length_append, List.length_append, List.length_singleton] at whole
      rw [split, parsePlainPost_append, parsePlainPost_amp (formField_apart campo) (by omega), fresh,
        List.nil_append, leerParam_formField name (by omega)]
      have later := ih (r := { r with
        temp := []
        params := r.params ++ [postParam campo]
        parsedLength := r.parsedLength + ((formField campo).length + 1) }) (by simp)
        (fun campo member => named campo (List.mem_cons_of_mem _ member)) rfl small
        (by dsimp only; omega)
      exact later.trans (by simp)

end Pieces

end Chimenea.AsyncWebServer
