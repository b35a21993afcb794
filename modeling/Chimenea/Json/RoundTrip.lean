import Chimenea.Json.Literal
import Chimenea.Json.Serializer

/-!
What `serializeJson` writes, `deserializeJson` reads.
-/

namespace Chimenea.Json
open Arduino Machine

/-- What an integer is read as: without a sign it is unsigned. -/
def Number.leido : Number → Number
  | .signedInteger value => if value.toInt < 0 then .signedInteger value else .unsignedInteger value
  | n => n

def Number.Entero : Number → Prop
  | .unsignedInteger _ => True
  | .signedInteger _ => True
  | _ => False

mutual

def VariantData.leido : VariantData Bytes → VariantData Bytes
  | .null => .null
  | .boolean value => .boolean value
  | .number n => .number n.leido
  | .string s => .string s
  | .array elements => .array elements.leido
  | .object members => .object members.leido

def CollectionData.leido : CollectionData Bytes → CollectionData Bytes
  | .empty => .empty
  | .slot key data next => .slot key data.leido next.leido

end

def CollectionData.keys : CollectionData Bytes → List (Option Bytes)
  | .empty => []
  | .slot key _ next => key :: next.keys

mutual

/-- The numbers are integers, and the keys of an object are C strings without repetitions. -/
def VariantData.Escribible : VariantData Bytes → Prop
  | .null => True
  | .boolean _ => True
  | .number n => n.Entero
  | .string _ => True
  | .array elements => (∀ key ∈ elements.keys, key = none) ∧ elements.Escribible
  | .object members =>
    (∀ key ∈ members.keys, ∃ k, key = some k ∧ (0 : BitVec 8) ∉ k) ∧ members.keys.Nodup ∧
      members.Escribible

def CollectionData.Escribible : CollectionData Bytes → Prop
  | .empty => True
  | .slot _ data next => data.Escribible ∧ next.Escribible

end

mutual

def VariantData.depth : VariantData Bytes → Nat
  | .array elements => elements.depth + 1
  | .object members => members.depth + 1
  | _ => 0

def CollectionData.depth : CollectionData Bytes → Nat
  | .empty => 0
  | .slot _ data next => max data.depth next.depth

end

mutual

/-- The slots that the document takes from its pool. -/
def VariantData.slots : VariantData Bytes → Nat
  | .array elements => elements.slots
  | .object members => members.slots
  | _ => 0

def CollectionData.slots : CollectionData Bytes → Nat
  | .empty => 0
  | .slot _ data next => data.slots + next.slots + 1

end

namespace CollectionData

def append : CollectionData Bytes → CollectionData Bytes → CollectionData Bytes
  | .empty, back => back
  | .slot key data next, back => .slot key data (next.append back)

theorem addSlot_append (key : Option Bytes) (data : VariantData Bytes)
    (front back : CollectionData Bytes) :
    (front.addSlot key data).append back = front.append (.slot key data back) := by
  match front with
  | .empty => rfl
  | .slot key' data' next =>
    rw [addSlot, append, append, addSlot_append key data next back]

theorem append_empty (front : CollectionData Bytes) : front.append .empty = front := by
  match front with
  | .empty => rfl
  | .slot key data next => rw [append, append_empty next]

theorem addSlot_keys (key : Option Bytes) (data : VariantData Bytes)
    (front : CollectionData Bytes) : (front.addSlot key data).keys = front.keys ++ [key] := by
  match front with
  | .empty => rfl
  | .slot key' data' next => rw [addSlot, keys, keys, addSlot_keys key data next, List.cons_append]

/-- A key that is not among those of an object has no slot there. -/
theorem getSlot_none {k : Bytes} (solid : (0 : BitVec 8) ∉ k) (front : CollectionData Bytes)
    (clean : ∀ key ∈ front.keys, ∃ k, key = some k ∧ (0 : BitVec 8) ∉ k)
    (absent : some k ∉ front.keys) : front.getSlot (fun s => s) k = none := by
  match front with
  | .empty => rfl
  | .slot key data next =>
    obtain ⟨k', rfl, solid'⟩ := clean key (List.mem_cons_self ..)
    rw [keys, List.mem_cons, not_or] at absent
    have other : ¬ (some k').map (fun k => c_str k) = some (c_str k) := by
      rw [Option.map_some, (c_str_eq_self k').2 solid', (c_str_eq_self k).2 solid]
      exact Ne.symm absent.1
    have later := getSlot_none solid next (fun key member => clean key (List.mem_cons_of_mem _ member))
      absent.2
    rw [getSlot, if_neg other, later]
    rfl

end CollectionData

section Strings

theorem escapeChar_letter (c : BitVec 8) (special : escapeChar c ≠ 0) :
    escapeChar c ≠ ch 'u' ∧ unescapeChar (escapeChar c) = c ∧ c ≠ 0 := by
  have all : ∀ n < 256, escapeChar (BitVec.ofNat 8 n) ≠ 0 →
      escapeChar (BitVec.ofNat 8 n) ≠ ch 'u' ∧
        unescapeChar (escapeChar (BitVec.ofNat 8 n)) = BitVec.ofNat 8 n ∧
          BitVec.ofNat 8 n ≠ 0 := by decide +kernel
  have here := all c.toNat c.isLt
  rw [BitVec.ofNat_toNat, BitVec.setWidth_eq] at here
  exact here special

theorem escapeChar_plain {c : BitVec 8} (plain : escapeChar c = 0) :
    c ≠ ch '"' ∧ c ≠ ch '\\' := by
  constructor <;>
  · intro same
    rw [same] at plain
    exact absurd plain (by decide)

/-- A string is written as the literal that stands for it. -/
theorem literal_write (s : Bytes) (p : Codepoint) :
    Literal (ch '"') p (s.flatMap writeChar) s := by
  induction s generalizing p with
  | nil => exact .nil
  | cons c s ih =>
    rw [List.flatMap_cons, writeChar]
    split_ifs with special more
    · obtain ⟨letter, back, some_⟩ := escapeChar_letter c special
      have rest := Literal.escape letter (back.symm ▸ some_) (ih p)
      rw [back] at rest
      exact rest
    · obtain ⟨quote, slash⟩ := escapeChar_plain (not_not.1 special)
      exact .raw quote more slash (ih p)
    · have null : c = 0 := not_not.1 more
      have four : (ascii "0000").length = 4 := by decide
      have code : hexCode 0 (ascii "0000") = some 0 := by decide
      have unit := Literal.codeunit four code (ih (p.append 0).2)
      have byte : (if (p.append 0).1 then encodeCodepoint (p.append 0).2.codepoint else []) = [0] :=
        rfl
      rw [byte] at unit
      rw [null]
      exact unit

theorem writeString_length (s : Bytes) :
    (s.flatMap writeChar).length + 2 = (writeString s).length := by
  rw [writeString, List.length_cons, List.length_append, List.length_singleton]

end Strings

/-- The parser before a text, at its start or in the middle of it. -/
def Before (unread : Bytes) (slots : Nat) (d : Deserializer Text) : Prop :=
  ∃ lastRead string found, d =
    { storage := { unread := unread, lastRead := lastRead, string := string },
      foundSomething := found, slots := slots }

/-- The parser behind a value. It has looked at what follows a number. -/
def After (rest : Bytes) (slots : Nat) (v : VariantData Bytes) (d : Deserializer Text) : Prop :=
  ∃ lastRead string, d = mid rest string slots lastRead ∧
    (v.isEnclosed = false → lastRead = rest.headD 0)

section Words

variable {E : Option Sketch.DeserializationError → Prop} {bound slots : Nat}
  {rest string front : Bytes} {d : Deserializer Text}

theorem At.before (here : At rest string slots d) : Before rest slots d := by
  obtain ⟨lastRead, rfl⟩ := here
  exact ⟨lastRead, string, true, rfl⟩

theorem After.at {v : VariantData Bytes} (here : After rest slots v d) :
    ∃ string, At rest string slots d := by
  obtain ⟨lastRead, string, rfl, _⟩ := here
  exact ⟨string, lastRead, rfl⟩

theorem skip_before {c : BitVec 8} (more : c ≠ 0) (solid : isSpace c = false) (enough : 0 < bound)
    (here : Before (c :: rest) slots d) :
    Ends E (skipSpacesAndComments bound) d fun _ t => ∃ string, At (c :: rest) string slots t := by
  obtain ⟨lastRead, string, found, rfl⟩ := here
  apply ends_mono (skipSpacesAndComments_here more solid enough)
  intro _ t after
  exact ⟨string, after⟩

theorem readBuffer_word {n : Nat} (word : ∀ c ∈ front, canBeInNonQuotedString c = true)
    (stop : canBeInNonQuotedString (rest.headD 0) = false) (few : front.length < n)
    (here : At (front ++ rest) string slots d) :
    Ends E (readBuffer n) d fun b t => b = front ∧ t = mid rest string slots (rest.headD 0) := by
  obtain ⟨lastRead, rfl⟩ := here
  induction front generalizing n lastRead with
  | nil =>
    obtain ⟨n, rfl⟩ := Nat.exists_eq_succ_of_ne_zero (Nat.ne_of_gt few)
    apply ends_current
    apply ends_ite (fun goes => absurd (goes.symm.trans stop) (by decide))
    intro _
    exact ends_pure ⟨rfl, rfl⟩
  | cons c front ih =>
    obtain ⟨n, rfl⟩ := Nat.exists_eq_succ_of_ne_zero (Nat.ne_of_gt (Nat.zero_lt_of_lt few))
    have here := word c (List.mem_cons_self ..)
    apply ends_current
    apply ends_ite _ (fun other => absurd here other)
    intro _
    apply ends_move
    apply ends_bind (ih (fun c member => word c (List.mem_cons_of_mem _ member))
      (Nat.lt_of_succ_lt_succ few) c)
    rintro _ t ⟨rfl, rfl⟩
    exact ends_pure ⟨rfl, rfl⟩

theorem parseNumericValue_null (stop : canBeInNonQuotedString (rest.headD 0) = false)
    (here : At (ascii "null" ++ rest) string slots d) :
    Ends E (parseNumericValue .null) d fun w t => w = .null ∧ After rest slots w t := by
  apply ends_bind (readBuffer_word (by decide) stop (by decide) here)
  rintro _ t ⟨rfl, rfl⟩
  apply ends_ite (fun other => absurd other (by decide))
  intro _
  apply ends_ite (fun other => absurd other (by decide))
  intro _
  apply ends_ite _ (fun other => absurd (by decide) other)
  intro _
  apply ends_ite _ (fun other => absurd (by decide) other)
  intro _
  exact ends_pure ⟨rfl, _, _, rfl, fun _ => rfl⟩

theorem parseNumericValue_boolean (value : Bool)
    (stop : canBeInNonQuotedString (rest.headD 0) = false)
    (here : At (ascii (if value = true then "true" else "false") ++ rest) string slots d) :
    Ends E (parseNumericValue .null) d fun w t => w = .boolean value ∧ After rest slots w t := by
  cases value with
  | true =>
    apply ends_bind (readBuffer_word (by decide) stop (by decide) here)
    rintro _ t ⟨rfl, rfl⟩
    apply ends_ite _ (fun other => absurd (by decide) other)
    intro _
    apply ends_ite _ (fun other => absurd (by decide) other)
    intro _
    exact ends_pure ⟨rfl, _, _, rfl, fun _ => rfl⟩
  | false =>
    apply ends_bind (readBuffer_word (by decide) stop (by decide) here)
    rintro _ t ⟨rfl, rfl⟩
    apply ends_ite (fun other => absurd other (by decide))
    intro _
    apply ends_ite _ (fun other => absurd (by decide) other)
    intro _
    apply ends_ite _ (fun other => absurd (by decide) other)
    intro _
    exact ends_pure ⟨rfl, _, _, rfl, fun _ => rfl⟩

/-- The first character of a value that is neither a string nor a collection. -/
structure Starts (c : BitVec 8) : Prop where
  more : c ≠ 0
  solid : isSpace c = false
  bracket : c ≠ ch '['
  brace : c ≠ ch '{'
  quote : isQuote c = false
  close : c ≠ ch ']'

/-- The first character of a number. -/
theorem starts_number {c : BitVec 8} (first : isdigit c = true ∨ c = ch '-') :
    Starts c ∧ canBeInNonQuotedString c = true ∧ c ≠ ch 't' ∧ c ≠ ch 'f' ∧ c ≠ ch 'n' := by
  have all : ∀ n < 256, isdigit (BitVec.ofNat 8 n) = true ∨ BitVec.ofNat 8 n = ch '-' →
      (BitVec.ofNat 8 n ≠ 0 ∧ isSpace (BitVec.ofNat 8 n) = false ∧ BitVec.ofNat 8 n ≠ ch '[' ∧
        BitVec.ofNat 8 n ≠ ch '{' ∧ isQuote (BitVec.ofNat 8 n) = false ∧
        BitVec.ofNat 8 n ≠ ch ']') ∧ canBeInNonQuotedString (BitVec.ofNat 8 n) = true ∧
        BitVec.ofNat 8 n ≠ ch 't' ∧ BitVec.ofNat 8 n ≠ ch 'f' ∧ BitVec.ofNat 8 n ≠ ch 'n' := by
    decide +kernel
  have here := all c.toNat c.isLt
  rw [BitVec.ofNat_toNat, BitVec.setWidth_eq] at here
  obtain ⟨⟨more, solid, bracket, brace, quote, close⟩, rest⟩ := here first
  exact ⟨⟨more, solid, bracket, brace, quote, close⟩, rest⟩

theorem writeNumber_integer (writeFloat : Number → Bytes) {n : Number} (entero : n.Entero) :
    (∃ c back, writeNumber writeFloat n = c :: back ∧ (isdigit c = true ∨ c = ch '-')) ∧
      (∀ c ∈ writeNumber writeFloat n, isdigit c = true ∨ c = ch '-') ∧
      (writeNumber writeFloat n).length < 63 ∧
      parseNumber (writeNumber writeFloat n) = some n.leido := by
  have unsigned (value : BitVec 64) :
      (∃ c back, writeUnsigned value = c :: back ∧ (isdigit c = true ∨ c = ch '-')) ∧
        (∀ c ∈ writeUnsigned value, isdigit c = true ∨ c = ch '-') ∧
        (writeUnsigned value).length < 63 := by
    obtain ⟨some_, few, digits⟩ := writeUnsigned_shape value
    obtain ⟨c, back, shape⟩ := List.exists_cons_of_ne_nil some_
    exact ⟨⟨c, back, shape, .inl (digits c (shape ▸ List.mem_cons_self ..))⟩,
      fun c member => .inl (digits c member), by omega⟩
  match n with
  | .unsignedInteger value =>
    obtain ⟨first, all, few⟩ := unsigned value
    exact ⟨first, all, few, parseNumber_writeUnsigned value⟩
  | .signedInteger value =>
    rw [writeNumber, writeSigned, Number.leido]
    split_ifs with negative
    · obtain ⟨_, all, few⟩ := unsigned (~~~ value + 1)
      obtain ⟨_, few, _⟩ := writeUnsigned_shape (~~~ value + 1)
      refine ⟨⟨_, _, rfl, .inr rfl⟩, ?_, ?_, parseNumber_writeNegative negative⟩
      · intro c member
        rcases List.mem_cons.1 member with sign | digit
        · exact .inr sign
        · exact all c digit
      · rw [List.length_cons]
        omega
    · obtain ⟨first, all, few⟩ := unsigned value
      exact ⟨first, all, few, parseNumber_writeUnsigned value⟩

theorem parseNumericValue_number (writeFloat : Number → Bytes) {n : Number} (entero : n.Entero)
    (stop : canBeInNonQuotedString (rest.headD 0) = false)
    (here : At (writeNumber writeFloat n ++ rest) string slots d) :
    Ends E (parseNumericValue .null) d fun w t =>
      w = .number n.leido ∧ After rest slots w t := by
  obtain ⟨⟨c, back, shape, first⟩, word, few, value⟩ := writeNumber_integer writeFloat entero
  obtain ⟨_, _, t, f, n⟩ := starts_number first
  apply ends_bind (readBuffer_word (fun c member => (starts_number (word c member)).2.1) stop few here)
  rintro _ u ⟨rfl, rfl⟩
  have head : (writeNumber writeFloat _).headD 0 = c := congrArg (fun l => l.headD 0) shape
  apply ends_ite (fun other => absurd (head.symm.trans other) t)
  intro _
  apply ends_ite (fun other => absurd (head.symm.trans other) f)
  intro _
  apply ends_ite (fun other => absurd (head.symm.trans other) n)
  intro _
  rw [value]
  exact ends_pure ⟨rfl, _, _, rfl, fun _ => rfl⟩

theorem parseValue_word {c : BitVec 8} {back : Bytes} {nested : Nested Text Bytes}
    {Q : VariantData Bytes → Deserializer Text → Prop} (start : Starts c) (enough : 0 < bound)
    (here : Before (c :: back) slots d)
    (word : ∀ string t, At (c :: back) string slots t → Ends E (parseNumericValue .null) t Q) :
    Ends E (parseValue bound nested .null) d Q := by
  apply ends_bind (skip_before start.more start.solid enough here)
  rintro _ t ⟨string, lastRead, rfl⟩
  apply ends_current
  apply ends_ite (fun other => absurd other start.bracket)
  intro _
  apply ends_ite (fun other => absurd other start.brace)
  intro _
  apply ends_ite (fun other => absurd (other.symm.trans start.quote) (by decide))
  intro _
  exact word string _ ⟨c, rfl⟩

theorem parseValue_string {text bytes : Bytes} {nested : Nested Text Bytes}
    (literal : Literal (ch '"') {} text bytes) (enough : text.length < bound)
    (here : Before (ch '"' :: (text ++ ch '"' :: rest)) slots d) :
    Ends E (parseValue bound nested .null) d fun w t =>
      w = .string bytes ∧ After rest slots w t := by
  apply ends_bind (skip_before quote_more quote_solid (Nat.zero_lt_of_lt enough) here)
  rintro _ t ⟨string, lastRead, rfl⟩
  apply ends_current
  apply ends_ite (fun other => absurd other quote_ne_bracket)
  intro _
  apply ends_ite (fun other => absurd other quote_ne_brace)
  intro _
  apply ends_ite _ (fun other => absurd quote_isQuote other)
  intro _
  apply ends_mono (parseStringValue_literal literal enough ⟨ch '"', rfl⟩)
  rintro _ u ⟨rfl, built, lastRead, rfl⟩
  exact ⟨rfl, lastRead, built, rfl, fun enclosed => nomatch (enclosed : true = false)⟩

theorem parseSeparator_comma {α : Type} {close : Char} (collection : α) (other : ch ',' ≠ ch close)
    (enough : 0 < bound) (here : At (ch ',' :: rest) string slots d) :
    Ends E (parseSeparator bound close collection) d fun r t =>
      r = .inl collection ∧ At rest string slots t := by
  apply ends_bind (skip_at (by decide) (by decide) enough here)
  intro _ t after
  apply ends_bind (eat_other other after)
  rintro _ u ⟨rfl, after⟩
  apply ends_ite (fun wrong => absurd wrong Bool.false_ne_true)
  intro _
  apply ends_bind (eat_at after)
  rintro _ w ⟨rfl, after⟩
  exact ends_pure ⟨rfl, after⟩

end Words

section Values

variable {E : Option Sketch.DeserializationError → Prop} (writeFloat : Number → Bytes)

theorem write_starts (v : VariantData Bytes) (plain : v.Escribible) :
    ∃ c back, v.write writeFloat = c :: back ∧ c ≠ 0 ∧ isSpace c = false ∧ c ≠ ch ']' := by
  match v with
  | .null => exact ⟨_, _, rfl, by decide, by decide, by decide⟩
  | .boolean true => exact ⟨_, _, rfl, by decide, by decide, by decide⟩
  | .boolean false => exact ⟨_, _, rfl, by decide, by decide, by decide⟩
  | .number n =>
    obtain ⟨⟨c, back, shape, first⟩, _⟩ := writeNumber_integer writeFloat plain
    have start := (starts_number first).1
    exact ⟨c, back, shape, start.more, start.solid, start.close⟩
  | .string s => exact ⟨_, _, rfl, by decide, by decide, by decide⟩
  | .array elements => exact ⟨_, _, rfl, by decide, by decide, by decide⟩
  | .object members => exact ⟨_, _, rfl, by decide, by decide, by decide⟩

theorem elements_start {elements : CollectionData Bytes} (some_ : elements ≠ .empty)
    (plain : elements.Escribible) : ∃ c back, elements.writeElements writeFloat = c :: back ∧
      c ≠ 0 ∧ isSpace c = false ∧ c ≠ ch ']' := by
  match elements with
  | .empty => exact absurd rfl some_
  | .slot key data next =>
    obtain ⟨c, back, shape, rest⟩ := write_starts writeFloat data plain.1
    refine ⟨c, back ++ (comma next ++ next.writeElements writeFloat), ?_, rest⟩
    rw [CollectionData.writeElements, shape, List.cons_append]

theorem members_start {members : CollectionData Bytes} (some_ : members ≠ .empty) (behind : Bytes) :
    ∃ back, members.writeMembers writeFloat ++ behind = ch '"' :: back := by
  match members with
  | .empty => exact absurd rfl some_
  | .slot key data next =>
    rw [CollectionData.writeMembers, writeString]
    exact ⟨_, rfl⟩

/-- The pool has a slot for the next value. -/
theorem allocVariant_at {rest string : Bytes} {slots : Nat} {d : Deserializer Text}
    (here : At rest string (slots + 1) d) :
    Ends E allocVariant d fun _ t => At rest string slots t := by
  obtain ⟨lastRead, rfl⟩ := here
  exact ⟨lastRead, rfl⟩

/-- What stands behind an element: a comma, or the end of the collection. -/
theorem comma_stops (close : BitVec 8) (next : CollectionData Bytes) (text rest : Bytes)
    (stop : canBeInNonQuotedString close = false) (last : next = .empty → text = []) :
    canBeInNonQuotedString ((comma next ++ (text ++ close :: rest)).headD 0) = false := by
  cases next with
  | empty =>
    rw [last rfl]
    exact stop
  | slot key data next => rfl

theorem comma_slot {next : CollectionData Bytes} (more : next ≠ .empty) : comma next = [ch ','] := by
  cases next with
  | empty => exact absurd rfl more
  | slot key data next => rfl

/-- A key that an object does not have yet gets a slot. -/
theorem parseMemberValue_new {front : CollectionData Bytes} {k : Bytes}
    (absent : front.getSlot (fun s => s) k = none) {text rest : Bytes} {slots slots' : Nat}
    {v : VariantData Bytes} {parseVariant : VariantData Bytes → Parser Text (VariantData Bytes)}
    {d : Deserializer Text} (here : At text k (slots + 1) d)
    (value : ∀ string t, At text string slots t →
      Ends E (parseVariant .null) t fun w u => w = v ∧ After rest slots' w u) :
    Ends E (parseMemberValue parseVariant front) d fun object t =>
      object = front.addSlot (some k) v ∧ ∃ string, At rest string slots' t := by
  obtain ⟨lastRead, rfl⟩ := here
  have key : Ends E (str : Parser Text Bytes) (mid text k (slots + 1) lastRead) fun s t =>
      k = s ∧ mid text k (slots + 1) lastRead = t := ⟨rfl, rfl⟩
  apply ends_bind key
  rintro _ _ ⟨rfl, rfl⟩
  have here : Ends E (get : Parser Text (Deserializer Text)) (mid text k (slots + 1) lastRead)
      fun s t => mid text k (slots + 1) lastRead = s ∧ mid text k (slots + 1) lastRead = t :=
    ends_get ⟨rfl, rfl⟩
  apply ends_bind here
  rintro _ _ ⟨rfl, rfl⟩
  have absent : front.getSlot (Storage.bytes (mid text k (slots + 1) lastRead).storage)
      (Storage.bytes (mid text k (slots + 1) lastRead).storage k) = none := absent
  rw [absent]
  have saved : Ends E (save : Parser Text Bytes) (mid text k (slots + 1) lastRead) fun s t =>
      k = s ∧ At text (k ++ [0]) (slots + 1) t := ⟨rfl, lastRead, rfl⟩
  apply ends_bind saved
  rintro _ t ⟨rfl, at_⟩
  apply ends_bind (allocVariant_at at_)
  intro _ u at_
  apply ends_bind (value _ u at_)
  rintro _ w ⟨rfl, after⟩
  exact ends_pure ⟨rfl, after.at⟩

mutual

theorem parseVariant_write (v : VariantData Bytes) (plain : v.Escribible) {n : Nat}
    (deep : v.depth ≤ n) {bound : Nat} (enough : (v.write writeFloat).length < bound)
    {rest : Bytes} (stop : canBeInNonQuotedString (rest.headD 0) = false) {slots : Nat}
    {d : Deserializer Text} (here : Before (v.write writeFloat ++ rest) (slots + v.slots) d) :
    Ends E (parseVariant bound n .null) d fun w t => w = v.leido ∧ After rest slots w t := by
  have some_ : 0 < bound := Nat.zero_lt_of_lt enough
  obtain ⟨nested, step⟩ : ∃ nested : Nested Text Bytes,
      parseVariant bound n = parseValue bound nested := by
    cases n <;> exact ⟨_, rfl⟩
  match v with
  | .null =>
    rw [step]
    exact parseValue_word ⟨by decide, by decide, by decide, by decide, by decide, by decide⟩ some_
      here fun string t => parseNumericValue_null stop
  | .boolean value =>
    rw [step]
    cases value with
    | true =>
      exact parseValue_word ⟨by decide, by decide, by decide, by decide, by decide, by decide⟩ some_
        here fun string t => parseNumericValue_boolean true stop
    | false =>
      exact parseValue_word ⟨by decide, by decide, by decide, by decide, by decide, by decide⟩ some_
        here fun string t => parseNumericValue_boolean false stop
  | .number k =>
    rw [step]
    obtain ⟨⟨c, back, shape, first⟩, _⟩ := writeNumber_integer writeFloat plain
    have text : VariantData.write writeFloat (.number k) ++ rest = c :: (back ++ rest) :=
      congrArg (· ++ rest) shape
    rw [text] at here
    refine parseValue_word (starts_number first).1 some_ here fun string t at_ => ?_
    rw [← text] at at_
    exact parseNumericValue_number writeFloat plain stop at_
  | .string s =>
    rw [step]
    have length := writeString_length s
    have text : VariantData.write writeFloat (.string s) ++ rest =
        ch '"' :: (s.flatMap writeChar ++ ch '"' :: rest) := by
      rw [VariantData.write, writeString, List.cons_append, List.append_assoc, List.singleton_append]
    rw [VariantData.write] at enough
    rw [text] at here
    exact parseValue_string (literal_write s {}) (by omega) here
  | .array elements =>
    obtain ⟨keyless, plain⟩ := plain
    obtain ⟨n, rfl⟩ : ∃ m, n = m + 1 := ⟨n - 1, by rw [VariantData.depth] at deep; omega⟩
    rw [VariantData.depth] at deep
    rw [VariantData.write, List.length_cons, List.length_append, List.length_singleton] at enough
    have text : VariantData.write writeFloat (.array elements) ++ rest =
        ch '[' :: (elements.writeElements writeFloat ++ ch ']' :: rest) := by
      rw [VariantData.write, List.cons_append, List.append_assoc, List.singleton_append]
    rw [text, VariantData.slots] at here
    apply ends_bind (skip_before (by decide) (by decide) some_ here)
    rintro _ t ⟨string, lastRead, rfl⟩
    apply ends_current
    apply ends_ite _ (fun other => absurd rfl other)
    intro _
    apply ends_move
    by_cases none_ : elements = .empty
    · subst none_
      apply ends_bind (skip_at (by decide) (by decide) some_ ⟨ch '[', rfl⟩)
      intro _ u at_
      apply ends_bind (eat_at at_)
      rintro _ w ⟨rfl, lastRead, rfl⟩
      apply ends_ite _ (fun other => absurd rfl other)
      intro _
      exact ends_pure ⟨rfl, lastRead, string, rfl, fun enclosed => nomatch (enclosed : true = false)⟩
    · obtain ⟨c, back, shape, more, solid, close⟩ := elements_start writeFloat none_ plain
      have start : elements.writeElements writeFloat ++ ch ']' :: rest =
          c :: (back ++ ch ']' :: rest) := by
        rw [shape, List.cons_append]
      apply ends_bind (skip_at more solid some_ ⟨ch '[', congrArg
        (fun unread => mid unread string (slots + elements.slots) (ch '[')) start⟩)
      intro _ u at_
      apply ends_bind (eat_other close at_)
      rintro _ w ⟨rfl, at_⟩
      apply ends_ite (fun wrong => absurd wrong Bool.false_ne_true)
      intro _
      rw [← start] at at_
      apply ends_bind (parseElements_write elements none_ keyless plain (by omega) (by omega)
        (by omega) .empty at_)
      rintro _ x ⟨rfl, string, lastRead, rfl⟩
      exact ends_pure ⟨rfl, lastRead, string, rfl, fun enclosed => nomatch (enclosed : true = false)⟩
  | .object members =>
    obtain ⟨clean, apart, plain⟩ := plain
    obtain ⟨n, rfl⟩ : ∃ m, n = m + 1 := ⟨n - 1, by rw [VariantData.depth] at deep; omega⟩
    rw [VariantData.depth] at deep
    rw [VariantData.write, List.length_cons, List.length_append, List.length_singleton] at enough
    have text : VariantData.write writeFloat (.object members) ++ rest =
        ch '{' :: (members.writeMembers writeFloat ++ ch '}' :: rest) := by
      rw [VariantData.write, List.cons_append, List.append_assoc, List.singleton_append]
    rw [text, VariantData.slots] at here
    apply ends_bind (skip_before (by decide) (by decide) some_ here)
    rintro _ t ⟨string, lastRead, rfl⟩
    apply ends_current
    apply ends_ite (fun other => absurd other brace_ne_bracket)
    intro _
    apply ends_ite _ (fun other => absurd rfl other)
    intro _
    apply ends_move
    by_cases none_ : members = .empty
    · subst none_
      apply ends_bind (skip_at (by decide) (by decide) some_ ⟨ch '{', rfl⟩)
      intro _ u at_
      apply ends_bind (eat_at at_)
      rintro _ w ⟨rfl, lastRead, rfl⟩
      apply ends_ite _ (fun other => absurd rfl other)
      intro _
      exact ends_pure ⟨rfl, lastRead, string, rfl, fun enclosed => nomatch (enclosed : true = false)⟩
    · obtain ⟨back, start⟩ := members_start writeFloat none_ (ch '}' :: rest)
      apply ends_bind (skip_at quote_more quote_solid some_ ⟨ch '{', congrArg
        (fun unread => mid unread string (slots + members.slots) (ch '{')) start⟩)
      intro _ u at_
      apply ends_bind (eat_other (by decide) at_)
      rintro _ w ⟨rfl, at_⟩
      apply ends_ite (fun wrong => absurd wrong Bool.false_ne_true)
      intro _
      rw [← start] at at_
      apply ends_bind (parseMembers_write members none_ .empty clean apart plain (by omega)
        (by omega) (by omega) at_)
      rintro _ x ⟨rfl, string, lastRead, rfl⟩
      exact ends_pure ⟨rfl, lastRead, string, rfl, fun enclosed => nomatch (enclosed : true = false)⟩

theorem parseElements_write (elements : CollectionData Bytes) (some_ : elements ≠ .empty)
    (keyless : ∀ key ∈ elements.keys, key = none) (plain : elements.Escribible) {n : Nat}
    (deep : elements.depth ≤ n) {bound turns : Nat}
    (enough : (elements.writeElements writeFloat).length < bound)
    (more : (elements.writeElements writeFloat).length < turns)
    (front : CollectionData Bytes) {rest string : Bytes} {slots : Nat} {d : Deserializer Text}
    (here : At (elements.writeElements writeFloat ++ ch ']' :: rest) string
      (slots + elements.slots) d) :
    Ends E (loop (parseElement bound (parseVariant bound n)) turns front) d fun c t =>
      c = front.append elements.leido ∧ ∃ string, At rest string slots t := by
  match elements with
  | .empty => exact absurd rfl some_
  | .slot key data next =>
    obtain ⟨turns, rfl⟩ := Nat.exists_eq_succ_of_ne_zero (Nat.ne_of_gt (Nat.zero_lt_of_lt more))
    obtain rfl := keyless key (List.mem_cons_self ..)
    rw [CollectionData.writeElements, List.length_append, List.length_append] at enough more
    rw [CollectionData.depth] at deep
    have text : CollectionData.writeElements writeFloat (.slot none data next) ++ ch ']' :: rest =
        data.write writeFloat ++
          (comma next ++ (next.writeElements writeFloat ++ ch ']' :: rest)) := by
      rw [CollectionData.writeElements, List.append_assoc, List.append_assoc]
    have pool : slots + CollectionData.slots (.slot none data next) =
        slots + next.slots + data.slots + 1 := by
      rw [CollectionData.slots]
      omega
    rw [text, pool] at here
    have stop := comma_stops (ch ']') next (next.writeElements writeFloat) rest (by decide)
      fun last => last ▸ rfl
    apply ends_turn
    apply ends_bind (allocVariant_at here)
    intro _ t taken
    apply ends_bind (parseVariant_write data plain.1 (by omega) (by omega) stop taken.before)
    rintro _ u ⟨rfl, after⟩
    obtain ⟨string, at_⟩ := after.at
    by_cases last : next = .empty
    · subst last
      apply ends_mono (parseSeparator_close _ (by decide) (by decide) (by omega) at_)
      rintro _ w ⟨rfl, done⟩
      refine ⟨?_, string, done⟩
      rw [← CollectionData.append_empty (front.addSlot _ _), CollectionData.addSlot_append]
      rfl
    · have behind := comma_slot last
      rw [behind] at at_ enough more
      rw [List.length_singleton] at enough more
      apply ends_mono (parseSeparator_comma _ (by decide) (by omega) at_)
      rintro _ w ⟨rfl, goes⟩
      apply ends_mono (parseElements_write next last
        (fun key member => keyless key (List.mem_cons_of_mem _ member)) plain.2 (by omega) (by omega)
        (by omega) (front.addSlot none data.leido) goes)
      rintro _ x ⟨rfl, done⟩
      exact ⟨CollectionData.addSlot_append .., done⟩

theorem parseMembers_write (members : CollectionData Bytes) (some_ : members ≠ .empty)
    (front : CollectionData Bytes)
    (clean : ∀ key ∈ front.keys ++ members.keys, ∃ k, key = some k ∧ (0 : BitVec 8) ∉ k)
    (apart : (front.keys ++ members.keys).Nodup) (plain : members.Escribible) {n : Nat}
    (deep : members.depth ≤ n) {bound turns : Nat}
    (enough : (members.writeMembers writeFloat).length < bound)
    (more : (members.writeMembers writeFloat).length < turns) {rest string : Bytes} {slots : Nat}
    {d : Deserializer Text}
    (here : At (members.writeMembers writeFloat ++ ch '}' :: rest) string
      (slots + members.slots) d) :
    Ends E (loop (parseMember bound (parseVariant bound n)) turns front) d fun c t =>
      c = front.append members.leido ∧ ∃ string, At rest string slots t := by
  match members with
  | .empty => exact absurd rfl some_
  | .slot key data next =>
    obtain ⟨turns, rfl⟩ := Nat.exists_eq_succ_of_ne_zero (Nat.ne_of_gt (Nat.zero_lt_of_lt more))
    obtain ⟨k, rfl, solid⟩ := clean key (List.mem_append_right _ (List.mem_cons_self ..))
    have absent : front.getSlot (fun s => s) k = none := by
      refine CollectionData.getSlot_none solid front
        (fun key member => clean key (List.mem_append_left _ member)) fun member => ?_
      exact (List.nodup_append.1 apart).2.2 _ member _ (List.mem_cons_self ..) rfl
    have name : c_str ((some k).getD []) = k := (c_str_eq_self k).2 solid
    have length := writeString_length k
    rw [CollectionData.writeMembers, name, List.length_append, List.length_cons, List.length_append,
      List.length_append] at enough more
    rw [CollectionData.depth] at deep
    have text : CollectionData.writeMembers writeFloat (.slot (some k) data next) ++ ch '}' :: rest =
        ch '"' :: (k.flatMap writeChar ++ ch '"' :: ch ':' :: (data.write writeFloat ++
          (comma next ++ (next.writeMembers writeFloat ++ ch '}' :: rest)))) := by
      rw [CollectionData.writeMembers, name, writeString]
      simp only [List.cons_append, List.append_assoc, List.nil_append]
    have pool : slots + CollectionData.slots (.slot (some k) data next) =
        slots + next.slots + data.slots + 1 := by
      rw [CollectionData.slots]
      omega
    rw [text, pool] at here
    have stop := comma_stops (ch '}') next (next.writeMembers writeFloat) rest (by decide)
      fun last => last ▸ rfl
    apply ends_turn
    apply ends_bind (parseKey_literal (literal_write k {}) (by omega) here)
    intro _ t at_
    apply ends_bind (skip_at (by decide) (by decide) (by omega) at_)
    intro _ u at_
    apply ends_bind (eat_at at_)
    rintro _ w ⟨rfl, at_⟩
    apply ends_ite _ (fun other => absurd rfl other)
    intro _
    apply ends_bind (parseMemberValue_new absent at_ fun string x taken =>
      parseVariant_write data plain.1 (by omega) (by omega) stop taken.before)
    rintro _ x ⟨rfl, string, at_⟩
    by_cases last : next = .empty
    · subst last
      apply ends_bind (parseSeparator_close _ (by decide) (by decide) (by omega) at_)
      rintro _ y ⟨rfl, done⟩
      refine ends_pure ⟨?_, string, done⟩
      rw [← CollectionData.append_empty (front.addSlot _ _), CollectionData.addSlot_append]
      rfl
    · have behind := comma_slot last
      rw [behind] at at_ enough more
      rw [List.length_singleton] at enough more
      obtain ⟨back, start⟩ := members_start writeFloat last (ch '}' :: rest)
      apply ends_bind (parseSeparator_comma _ (by decide) (by omega) at_)
      rintro _ y ⟨rfl, goes⟩
      rw [start] at goes
      apply ends_bind (skip_at quote_more quote_solid (by omega) goes)
      intro _ z goes
      rw [← start] at goes
      have keys : (front.addSlot (some k) data.leido).keys ++ next.keys =
          front.keys ++ CollectionData.keys (.slot (some k) data next) := by
        rw [CollectionData.addSlot_keys, List.append_assoc]
        rfl
      apply ends_pure
      apply ends_mono (parseMembers_write next last (front.addSlot (some k) data.leido)
        (keys ▸ clean) (keys ▸ apart) plain.2 (by omega) (by omega) (by omega) goes)
      rintro _ x ⟨rfl, done⟩
      exact ⟨CollectionData.addSlot_append .., done⟩

end

theorem writeString_solid (s : Bytes) : (0 : BitVec 8) ∉ writeString s := by
  have inside : (0 : BitVec 8) ∉ s.flatMap writeChar := by
    intro null
    obtain ⟨c, _, member⟩ := List.mem_flatMap.1 null
    unfold writeChar at member
    split_ifs at member with special more
    · simp only [List.mem_cons, List.not_mem_nil, or_false] at member
      exact member.elim (fun same => absurd same.symm backslash_more) fun same => special same.symm
    · exact more (List.mem_singleton.1 member).symm
    · exact absurd member (by decide)
  simp only [writeString, List.mem_cons, List.mem_append, List.not_mem_nil, or_false, not_or]
  exact ⟨quote_more.symm, inside, quote_more.symm⟩

theorem comma_solid (next : CollectionData Bytes) : (0 : BitVec 8) ∉ comma next := by
  cases next <;> rw [comma] <;> decide

mutual

/-- The text is a C string. -/
theorem write_solid (v : VariantData Bytes) (plain : v.Escribible) :
    (0 : BitVec 8) ∉ v.write writeFloat := by
  match v with
  | .null => exact (by decide : (0 : BitVec 8) ∉ ascii "null")
  | .boolean true => exact (by decide : (0 : BitVec 8) ∉ ascii "true")
  | .boolean false => exact (by decide : (0 : BitVec 8) ∉ ascii "false")
  | .number n =>
    intro null
    obtain ⟨_, word, _⟩ := writeNumber_integer writeFloat plain
    exact (starts_number (word 0 null)).1.more rfl
  | .string s => exact writeString_solid s
  | .array elements =>
    rw [VariantData.write, List.mem_cons, List.mem_append, not_or, not_or]
    exact ⟨by decide, writeElements_solid elements plain.2, by decide⟩
  | .object members =>
    rw [VariantData.write, List.mem_cons, List.mem_append, not_or, not_or]
    exact ⟨by decide, writeMembers_solid members plain.2.2, by decide⟩

theorem writeElements_solid (elements : CollectionData Bytes) (plain : elements.Escribible) :
    (0 : BitVec 8) ∉ elements.writeElements writeFloat := by
  match elements with
  | .empty => exact List.not_mem_nil
  | .slot key data next =>
    rw [CollectionData.writeElements, List.mem_append, List.mem_append, not_or, not_or]
    exact ⟨write_solid data plain.1, comma_solid next, writeElements_solid next plain.2⟩

theorem writeMembers_solid (members : CollectionData Bytes) (plain : members.Escribible) :
    (0 : BitVec 8) ∉ members.writeMembers writeFloat := by
  match members with
  | .empty => exact List.not_mem_nil
  | .slot key data next =>
    rw [CollectionData.writeMembers, List.mem_append, List.mem_cons, List.mem_append,
      List.mem_append, not_or, not_or, not_or, not_or]
    exact ⟨writeString_solid _, by decide, write_solid data plain.1, comma_solid next,
      writeMembers_solid next plain.2⟩

end

theorem parse_write {v : VariantData Bytes} (plain : v.Escribible)
    (deep : v.depth ≤ DEFAULT_NESTING_LIMIT) (fits : v.slots ≤ documentSlots) {bound : Nat}
    (enough : (v.write writeFloat).length < bound) :
    Ends E (parse bound DEFAULT_NESTING_LIMIT)
      (.start { unread := v.write writeFloat : Text }) fun w _ => w = v.leido := by
  have room : documentSlots - v.slots + v.slots = documentSlots := Nat.sub_add_cancel fits
  have here : Before (v.write writeFloat ++ []) (documentSlots - v.slots + v.slots)
      (.start { unread := v.write writeFloat : Text }) := by
    rw [List.append_nil, room]
    exact ⟨0, [], false, rfl⟩
  apply ends_bind (parseVariant_write writeFloat v plain deep enough (by decide) here)
  rintro _ t ⟨rfl, lastRead, string, rfl, looked⟩
  have seen : Ends E (last : Parser Text (BitVec 8))
      (mid [] string (documentSlots - v.slots) lastRead) fun c _ => lastRead = c := rfl
  apply ends_bind seen
  rintro _ t rfl
  apply ends_ite (fun wrong => absurd (looked wrong.2) wrong.1)
  intro _
  exact ends_pure rfl

/-- What `serializeJson` writes of a document, `deserializeJson` reads as the document. -/
theorem deserializeJson_serializeJson {v : VariantData Bytes} (plain : v.Escribible)
    (deep : v.depth ≤ DEFAULT_NESTING_LIMIT) (fits : v.slots ≤ documentSlots) :
    deserializeJson (serializeJson writeFloat v) = .ok v.leido := by
  have clean : c_str (serializeJson writeFloat v) = serializeJson writeFloat v :=
    (c_str_eq_self _).2 (write_solid writeFloat v plain)
  exact deserializeJson_of_ends clean (parse_write writeFloat plain deep fits (Nat.lt_succ_self _))

/-- A document with the integers, the characters and the collections that take a case of their
own. -/
def ejemplo : VariantData Bytes :=
  .object
    (.slot (some (ascii "sensor")) (.number (.signedInteger 5))
      (.slot (some (ascii "texto")) (.string (ascii "a\"b\\\n\x00"))
        (.slot (some (ascii "lista"))
          (.array
            (.slot none (.number (.signedInteger (-5)))
              (.slot none (.boolean true) (.slot none (.object .empty) .empty))))
          .empty)))

theorem ejemplo_escribible : ejemplo.Escribible := by
  simp [ejemplo, VariantData.Escribible, CollectionData.Escribible, CollectionData.keys,
    Number.Entero, ascii]

theorem deserializeJson_serializeJson_ejemplo :
    deserializeJson (serializeJson (fun _ => []) ejemplo) = .ok ejemplo.leido :=
  deserializeJson_serializeJson _ ejemplo_escribible (by decide) (by decide)

end Values

end Chimenea.Json
