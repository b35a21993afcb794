import Chimenea.Json.Bounds

/-!
String literals: what a literal says, and that `parseQuotedString` reads it so.
-/

namespace Chimenea.Json
open Arduino Machine

/-- The code unit that hexadecimal digits spell after `result`, as `parseHex4` takes them. -/
def hexCode (result : BitVec 16) : Bytes → Option (BitVec 16)
  | [] => some result
  | digit :: rest =>
    if digit = 0 then none
    else if decodeHex digit > 0x0F then none
    else hexCode (result <<< 4 ||| (decodeHex digit).setWidth 16) rest

/-- The inside of a literal between `stopChar`s, and the bytes it stands for. The
index is the surrogate that an earlier code unit has left. -/
inductive Literal (stopChar : BitVec 8) : Codepoint → Bytes → Bytes → Prop where
  | nil {p : Codepoint} : Literal stopChar p [] []
  | raw {p : Codepoint} {c : BitVec 8} {text bytes : Bytes} (inside : c ≠ stopChar)
      (more : c ≠ 0) (plain : c ≠ ch '\\') (rest : Literal stopChar p text bytes) :
      Literal stopChar p (c :: text) (c :: bytes)
  | escape {p : Codepoint} {c : BitVec 8} {text bytes : Bytes} (letter : c ≠ ch 'u')
      (known : unescapeChar c ≠ 0) (rest : Literal stopChar p text bytes) :
      Literal stopChar p (ch '\\' :: c :: text) (unescapeChar c :: bytes)
  | codeunit {p : Codepoint} {digits text bytes : Bytes} {u : BitVec 16}
      (four : digits.length = 4) (code : hexCode 0 digits = some u)
      (rest : Literal stopChar (p.append u).2 text bytes) :
      Literal stopChar p (ch '\\' :: ch 'u' :: (digits ++ text))
        ((if (p.append u).1 then encodeCodepoint (p.append u).2.codepoint else []) ++ bytes)

/-- The parser in the middle of a text. -/
def mid (unread string : Bytes) (slots : Nat) (lastRead : BitVec 8) : Deserializer Text where
  storage := { unread := unread, lastRead := lastRead, string := string }
  foundSomething := true
  slots := slots

/-- What the parser has before it, what it has built, and the slots it has left. -/
def At (unread string : Bytes) (slots : Nat) (d : Deserializer Text) : Prop :=
  ∃ lastRead, d = mid unread string slots lastRead

section Literal

variable {E : Option Sketch.DeserializationError → Prop} {bound slots : Nat} {lastRead : BitVec 8}
  {rest string : Bytes} {d : Deserializer Text}

theorem parseHex4_hexCode (digits : Bytes) (result u : BitVec 16)
    (code : hexCode result digits = some u) (here : At (digits ++ rest) string slots d) :
    Ends E (parseHex4 digits.length result) d fun v t => u = v ∧ At rest string slots t := by
  induction digits generalizing result d with
  | nil => exact ends_pure ⟨(Option.some.inj code).symm, here⟩
  | cons digit digits ih =>
    obtain ⟨lastRead, rfl⟩ := here
    rw [hexCode] at code
    split_ifs at code with null wrong
    apply ends_current
    apply ends_ite
    · intro end_
      exact absurd end_ null
    intro _
    apply ends_ite
    · intro invalid
      exact absurd invalid wrong
    · intro _
      apply ends_move
      exact ih _ code ⟨digit, rfl⟩

theorem appendAll_ok (bytes : Bytes) (here : At rest string slots d) :
    Ends E (appendAll bytes) d fun _ t => At rest (string ++ bytes) slots t := by
  induction bytes generalizing string d with
  | nil => exact ends_pure (string.append_nil.symm ▸ here)
  | cons c bytes ih =>
    obtain ⟨lastRead, rfl⟩ := here
    apply ends_mono (ih (d := mid rest (string ++ [c]) slots lastRead) ⟨lastRead, rfl⟩)
    intro _ t after
    rwa [List.append_assoc] at after

theorem parseCodeunit_ok {digits : Bytes} {u : BitVec 16} (p : Codepoint)
    (four : digits.length = 4) (code : hexCode 0 digits = some u)
    (here : At (ch 'u' :: (digits ++ rest)) string slots d) :
    Ends E (parseCodeunit p) d fun r t => r = .inl (p.append u).2 ∧
      At rest (string ++
        if (p.append u).1 then encodeCodepoint (p.append u).2.codepoint else []) slots t := by
  obtain ⟨lastRead, rfl⟩ := here
  apply ends_move
  have hex : Ends E (parseHex4 4 0) (mid (digits ++ rest) string slots lastRead)
      fun v t => u = v ∧ At rest string slots t :=
    four ▸ parseHex4_hexCode digits 0 u code ⟨lastRead, rfl⟩
  apply ends_bind hex
  rintro _ t ⟨rfl, after⟩
  by_cases complete : (p.append u).1 = true
  · rw [if_pos complete, if_pos complete]
    apply ends_bind (appendAll_ok _ after)
    intro _ w done
    exact ends_pure ⟨rfl, done⟩
  · rw [if_neg complete, if_neg complete, List.append_nil]
    exact ends_pure ⟨rfl, after⟩

theorem backslash_more : ch '\\' ≠ 0 := by decide

theorem quote_ne_backslash : ch '"' ≠ ch '\\' := by decide

theorem quote_isQuote : isQuote (ch '"') = true := by decide

theorem quote_more : ch '"' ≠ 0 := by decide

theorem quote_solid : isSpace (ch '"') = false := by decide

theorem quote_ne_bracket : ch '"' ≠ ch '[' := by decide

theorem quote_ne_brace : ch '"' ≠ ch '{' := by decide

theorem brace_ne_bracket : ch '{' ≠ ch '[' := by decide

theorem u_more : ch 'u' ≠ 0 := by decide

/-- The loop of `parseQuotedString` builds what the literal says and stops behind it. -/
theorem quoted_literal {stopChar : BitVec 8} (stop : stopChar ≠ ch '\\') {p : Codepoint}
    {text bytes : Bytes} (literal : Literal stopChar p text bytes) (enough : text.length < bound)
    (here : At (text ++ stopChar :: rest) string slots d) :
    Ends E (loop (parseQuotedChar stopChar) bound p) d fun _ t =>
      At rest (string ++ bytes) slots t := by
  induction literal generalizing bound string d with
  | nil =>
    obtain ⟨lastRead, rfl⟩ := here
    obtain ⟨bound, rfl⟩ := Nat.exists_eq_succ_of_ne_zero (Nat.ne_of_gt enough)
    apply ends_turn
    apply ends_current
    apply ends_move
    apply ends_ite _ (fun other => absurd rfl other)
    intro _
    rw [List.append_nil]
    exact ends_pure ⟨stopChar, rfl⟩
  | @raw p c text bytes inside more plain _ ih =>
    obtain ⟨lastRead, rfl⟩ := here
    obtain ⟨bound, rfl⟩ := Nat.exists_eq_succ_of_ne_zero (Nat.ne_of_gt (Nat.zero_lt_of_lt enough))
    apply ends_turn
    apply ends_current
    apply ends_move
    apply ends_ite (fun other => absurd other inside)
    intro _
    apply ends_ite (fun other => absurd other more)
    intro _
    apply ends_ite (fun other => absurd other plain)
    intro _
    have shorter : text.length < bound := Nat.lt_of_succ_lt_succ enough
    have rest := ih shorter
      (d := mid (text ++ stopChar :: rest) (string ++ [c]) slots c) ⟨c, rfl⟩
    rw [List.append_assoc] at rest
    exact rest
  | @escape p c text bytes letter known _ ih =>
    obtain ⟨lastRead, rfl⟩ := here
    obtain ⟨bound, rfl⟩ := Nat.exists_eq_succ_of_ne_zero (Nat.ne_of_gt (Nat.zero_lt_of_lt enough))
    have shorter : text.length < bound := by
      simp only [List.length_cons] at enough
      omega
    have more : c ≠ 0 := by
      rintro rfl
      exact known (by decide)
    apply ends_turn
    apply ends_current
    apply ends_move
    apply ends_ite (fun other => absurd other stop.symm)
    intro _
    apply ends_ite (fun other => absurd other backslash_more)
    intro _
    apply ends_ite _ (fun other => absurd rfl other)
    intro _
    apply ends_current
    apply ends_ite (fun other => absurd other more)
    intro _
    apply ends_ite (fun other => absurd other letter)
    intro _
    apply ends_ite (fun other => absurd other known)
    intro _
    have rest := ih shorter
      (d := mid (text ++ stopChar :: rest) (string ++ [unescapeChar c]) slots c) ⟨c, rfl⟩
    rw [List.append_assoc] at rest
    exact rest
  | @codeunit p digits text bytes u four code _ ih =>
    obtain ⟨lastRead, rfl⟩ := here
    obtain ⟨bound, rfl⟩ := Nat.exists_eq_succ_of_ne_zero (Nat.ne_of_gt (Nat.zero_lt_of_lt enough))
    have shorter : text.length < bound := by
      simp only [List.length_cons, List.length_append] at enough
      omega
    apply ends_turn
    apply ends_current
    apply ends_move
    apply ends_ite (fun other => absurd other stop.symm)
    intro _
    apply ends_ite (fun other => absurd other backslash_more)
    intro _
    apply ends_ite _ (fun other => absurd rfl other)
    intro _
    apply ends_current
    apply ends_ite (fun other => absurd other u_more)
    intro _
    apply ends_ite _ (fun other => absurd rfl other)
    intro _
    have unit := parseCodeunit_ok (E := E) p four code
      (d := mid (ch 'u' :: (digits ++ (text ++ stopChar :: rest))) string slots (ch 'u'))
      ⟨ch 'u', rfl⟩
    rw [List.cons_append, List.cons_append, List.append_assoc]
    apply ends_mono unit
    rintro _ t ⟨rfl, after⟩
    have rest := ih shorter after
    rw [List.append_assoc] at rest
    exact rest

/-- A literal in double quotes. -/
theorem parseQuotedString_literal {text bytes : Bytes} (literal : Literal (ch '"') {} text bytes)
    (enough : text.length < bound) (here : At (ch '"' :: (text ++ ch '"' :: rest)) string slots d) :
    Ends E (parseQuotedString bound) d fun _ t => At rest (string ++ bytes) slots t := by
  obtain ⟨lastRead, rfl⟩ := here
  apply ends_current
  apply ends_move
  exact quoted_literal quote_ne_backslash literal enough ⟨ch '"', rfl⟩

/-- Nothing is skipped in front of a character that is no space. -/
theorem skipSpacesAndComments_here {c : BitVec 8} {found : Bool} (more : c ≠ 0)
    (solid : isSpace c = false) (enough : 0 < bound) :
    Ends E (skipSpacesAndComments bound)
      { storage := { unread := c :: rest, lastRead := lastRead, string := string },
        foundSomething := found, slots := slots } fun _ t => At (c :: rest) string slots t := by
  obtain ⟨bound, rfl⟩ := Nat.exists_eq_succ_of_ne_zero (Nat.ne_of_gt enough)
  apply ends_turn
  apply ends_current
  apply ends_ite (fun other => absurd other more)
  intro _
  apply ends_ite (fun other => absurd (other.symm.trans solid) (by decide))
  intro _
  exact ⟨c, rfl⟩

theorem skip_at {c : BitVec 8} (more : c ≠ 0) (solid : isSpace c = false) (enough : 0 < bound)
    (here : At (c :: rest) string slots d) :
    Ends E (skipSpacesAndComments bound) d fun _ t => At (c :: rest) string slots t := by
  obtain ⟨lastRead, rfl⟩ := here
  exact skipSpacesAndComments_here more solid enough

theorem eat_at {c : BitVec 8} (here : At (c :: rest) string slots d) :
    Ends E (eat c) d fun r t => r = true ∧ At rest string slots t := by
  obtain ⟨lastRead, rfl⟩ := here
  apply ends_current
  apply ends_ite (fun other => absurd rfl other)
  intro _
  exact ⟨rfl, c, rfl⟩

theorem eat_other {c a : BitVec 8} (other : a ≠ c) (here : At (a :: rest) string slots d) :
    Ends E (eat c) d fun r t => r = false ∧ At (a :: rest) string slots t := by
  obtain ⟨lastRead, rfl⟩ := here
  apply ends_current
  apply ends_ite _ (fun same => absurd other same)
  intro _
  exact ⟨rfl, a, rfl⟩

theorem startString_at (here : At rest string slots d) :
    Ends E startString d fun _ t => At rest [] slots t := by
  obtain ⟨lastRead, rfl⟩ := here
  exact ⟨lastRead, rfl⟩

theorem parseKey_literal {text bytes : Bytes} (literal : Literal (ch '"') {} text bytes)
    (enough : text.length < bound) (here : At (ch '"' :: (text ++ ch '"' :: rest)) string slots d) :
    Ends E (parseKey bound) d fun _ t => At rest bytes slots t := by
  apply ends_bind (startString_at here)
  rintro _ t ⟨lastRead, rfl⟩
  apply ends_current
  apply ends_ite _ (fun other => absurd quote_isQuote other)
  intro _
  exact parseQuotedString_literal literal enough ⟨ch '"', rfl⟩

theorem parseStringValue_literal {text bytes : Bytes} (literal : Literal (ch '"') {} text bytes)
    (enough : text.length < bound) (here : At (ch '"' :: (text ++ ch '"' :: rest)) string slots d) :
    Ends E (parseStringValue bound) d fun v t =>
      v = .string bytes ∧ ∃ built, At rest built slots t := by
  apply ends_bind (startString_at here)
  intro _ t start
  apply ends_bind (parseQuotedString_literal literal enough start)
  rintro _ u ⟨lastRead, rfl⟩
  exact ⟨rfl, bytes ++ [0], lastRead, rfl⟩

theorem parseSeparator_close {α : Type} {close : Char} (collection : α) (more : ch close ≠ 0)
    (solid : isSpace (ch close) = false) (enough : 0 < bound)
    (here : At (ch close :: rest) string slots d) :
    Ends E (parseSeparator bound close collection) d fun r t =>
      r = .inr collection ∧ At rest string slots t := by
  apply ends_bind (skip_at more solid enough here)
  intro _ t after
  apply ends_bind (eat_at after)
  rintro _ u ⟨rfl, after⟩
  exact ends_pure ⟨rfl, after⟩

/-- An object with one member, a string. -/
def memberText (key value : Bytes) : Bytes :=
  ch '{' :: ch '"' :: (key ++ ch '"' :: ch ':' :: ch '"' :: (value ++ [ch '"', ch '}']))

section Member

variable {key keyBytes value valueBytes : Bytes} (keyLiteral : Literal (ch '"') {} key keyBytes)
  (valueLiteral : Literal (ch '"') {} value valueBytes) (shortKey : key.length < bound)
  (shortValue : value.length < bound)

include valueLiteral shortValue

theorem parseValue_literal (nested : Nested Text Bytes) (v : VariantData Bytes)
    (here : At (ch '"' :: (value ++ ch '"' :: rest)) string slots d) :
    Ends E (parseValue bound nested v) d fun v t =>
      v = .string valueBytes ∧ ∃ built, At rest built slots t := by
  have some : 0 < bound := Nat.zero_lt_of_lt shortValue
  apply ends_bind (skip_at quote_more quote_solid some here)
  rintro _ t ⟨lastRead, rfl⟩
  apply ends_current
  apply ends_ite (fun other => absurd other quote_ne_bracket)
  intro _
  apply ends_ite (fun other => absurd other quote_ne_brace)
  intro _
  apply ends_ite _ (fun other => absurd quote_isQuote other)
  intro _
  exact parseStringValue_literal valueLiteral shortValue ⟨ch '"', rfl⟩

theorem parseVariant_literal (nestingLimit : Nat) (v : VariantData Bytes)
    (here : At (ch '"' :: (value ++ ch '"' :: rest)) string slots d) :
    Ends E (parseVariant bound nestingLimit v) d fun v t =>
      v = .string valueBytes ∧ ∃ built, At rest built slots t := by
  cases nestingLimit with
  | zero => exact parseValue_literal valueLiteral shortValue none v here
  | succ n => exact parseValue_literal valueLiteral shortValue _ v here

theorem parseMemberValue_literal (nestingLimit : Nat) (keyBytes : Bytes)
    (here : At (ch '"' :: (value ++ ch '"' :: rest)) keyBytes (slots + 1) d) :
    Ends E (parseMemberValue (parseVariant bound nestingLimit) .empty) d fun object t =>
      object = .slot (some keyBytes) (.string valueBytes) .empty ∧
        ∃ built, At rest built slots t := by
  obtain ⟨lastRead, rfl⟩ := here
  -- the object has no slots yet, so the key gets one from the pool
  change Ends E (parseVariant bound nestingLimit .null >>= _)
    (mid (ch '"' :: (value ++ ch '"' :: rest)) (keyBytes ++ [0]) slots lastRead) _
  apply ends_bind (parseVariant_literal valueLiteral shortValue nestingLimit .null
    ⟨lastRead, rfl⟩)
  rintro _ t ⟨rfl, after⟩
  exact ends_pure ⟨rfl, after⟩

include keyLiteral shortKey

theorem parseMember_literal (nestingLimit : Nat)
    (here : At (ch '"' :: (key ++ ch '"' :: ch ':' :: ch '"' :: (value ++ [ch '"', ch '}'])))
      string (slots + 1) d) :
    Ends E (parseMember bound (parseVariant bound nestingLimit) .empty) d fun r _ =>
      r = .inr (.slot (some keyBytes) (.string valueBytes) .empty) := by
  have some : 0 < bound := Nat.zero_lt_of_lt shortValue
  apply ends_bind (parseKey_literal keyLiteral shortKey here)
  intro _ t1 after1
  apply ends_bind (skip_at (by decide) (by decide) some after1)
  intro _ t2 after2
  apply ends_bind (eat_at after2)
  rintro _ t3 ⟨rfl, after3⟩
  apply ends_ite _ (fun other => absurd rfl other)
  intro _
  apply ends_bind (parseMemberValue_literal valueLiteral shortValue nestingLimit keyBytes after3)
  rintro _ t4 ⟨rfl, built, after4⟩
  apply ends_bind (parseSeparator_close _ (by decide) (by decide) some after4)
  rintro _ t5 ⟨rfl, _⟩
  exact ends_pure rfl

theorem parseObject_literal :
    Ends E (parseVariant bound DEFAULT_NESTING_LIMIT .null)
      (.start { unread := memberText key value : Text }) fun v _ =>
      v = .object (.slot (some keyBytes) (.string valueBytes) .empty) := by
  have some : 0 < bound := Nat.zero_lt_of_lt shortValue
  obtain ⟨turns, rfl⟩ := Nat.exists_eq_succ_of_ne_zero (Nat.ne_of_gt some)
  apply ends_bind (skipSpacesAndComments_here (by decide) (by decide) some)
  rintro _ t ⟨last, rfl⟩
  apply ends_current
  apply ends_ite (fun other => absurd other brace_ne_bracket)
  intro _
  apply ends_ite _ (fun other => absurd rfl other)
  intro _
  apply ends_move
  apply ends_bind (skip_at quote_more quote_solid some ⟨ch '{', rfl⟩)
  intro _ t1 after1
  apply ends_bind (eat_other (by decide) after1)
  rintro _ t2 ⟨rfl, after2⟩
  apply ends_ite (fun other => absurd other Bool.false_ne_true)
  intro _
  have member := parseMember_literal (E := E) keyLiteral valueLiteral shortKey shortValue 9 after2
  have members : Ends E (loop (parseMember (turns + 1) (parseVariant (turns + 1) 9)) (turns + 1)
      CollectionData.empty) t2 fun c _ =>
      c = .slot (Option.some keyBytes) (.string valueBytes) .empty := by
    apply ends_turn
    apply ends_mono member
    rintro _ _ rfl
    rfl
  apply ends_bind members
  rintro _ _ rfl
  exact ends_pure rfl

theorem parse_member :
    Ends E (parse bound DEFAULT_NESTING_LIMIT) (.start { unread := memberText key value : Text })
      fun v _ => v = .object (.slot (some keyBytes) (.string valueBytes) .empty) := by
  apply ends_bind (parseObject_literal keyLiteral valueLiteral shortKey shortValue)
  rintro _ t rfl
  change Ends E (if _ ∧ true = false then _ else _) t _
  apply ends_ite (fun wrong => absurd wrong.2 (by decide))
  intro _
  exact ends_pure rfl

end Member

end Literal

section Document

/-- No character of a literal is the null character. -/
theorem hexCode_solid (digits : Bytes) (result u : BitVec 16)
    (code : hexCode result digits = some u) : (0 : BitVec 8) ∉ digits := by
  induction digits generalizing result with
  | nil => exact List.not_mem_nil
  | cons digit rest ih =>
    rw [hexCode] at code
    split_ifs at code with null wrong
    intro member
    rcases List.mem_cons.1 member with first | later
    · exact null first.symm
    · exact ih _ code later

theorem Literal.solid {stopChar : BitVec 8} {p : Codepoint} {text bytes : Bytes}
    (literal : Literal stopChar p text bytes) : (0 : BitVec 8) ∉ text := by
  induction literal with
  | nil => exact List.not_mem_nil
  | raw _ more _ _ ih =>
    intro member
    rcases List.mem_cons.1 member with first | later
    · exact more first.symm
    · exact ih later
  | @escape p c text bytes _ known _ ih =>
    have more : c ≠ 0 := by
      rintro rfl
      exact known (by decide)
    simp only [List.mem_cons, not_or]
    exact ⟨backslash_more.symm, more.symm, ih⟩
  | @codeunit p digits text bytes u _ code _ ih =>
    simp only [List.mem_cons, List.mem_append, not_or]
    exact ⟨backslash_more.symm, u_more.symm, hexCode_solid digits 0 u code, ih⟩

/-- What the parser ends with is the answer. -/
theorem deserializeJson_of_ends {text : Bytes} {v : VariantData Bytes} (clean : c_str text = text)
    (run : Ends (fun _ => False) (parse (text.length + 1) DEFAULT_NESTING_LIMIT)
      (.start { unread := text : Text }) fun w _ => w = v) : deserializeJson text = .ok v := by
  have plain : some (deserializeJson text) = readText text := Option.some_get (readText_isSome _)
  unfold readText at plain
  rw [clean] at plain
  unfold Ends at run
  revert run plain
  generalize parse _ _ (Deserializer.start { unread := text : Text }) = result
  intro run plain
  rcases result with ⟨w, t⟩ | ⟨e, t⟩
  · subst run
    exact Option.some.inj plain
  · exact run.elim

theorem deserializeJson_member {key keyBytes value valueBytes : Bytes}
    (keyLiteral : Literal (ch '"') {} key keyBytes)
    (valueLiteral : Literal (ch '"') {} value valueBytes) :
    deserializeJson (memberText key value) =
      .ok (.object (.slot (some keyBytes) (.string valueBytes) .empty)) := by
  have clean : c_str (memberText key value) = memberText key value := by
    rw [c_str_eq_self]
    simp only [memberText, List.mem_cons, List.mem_append, List.not_mem_nil, not_or]
    exact ⟨by decide, by decide, keyLiteral.solid, by decide, by decide, by decide,
      valueLiteral.solid, by decide, by decide, not_false⟩
  have shortKey : key.length < (memberText key value).length + 1 := by
    simp only [memberText, List.length_cons, List.length_append]
    omega
  have shortValue : value.length < (memberText key value).length + 1 := by
    simp only [memberText, List.length_cons, List.length_append]
    omega
  exact deserializeJson_of_ends clean (parse_member keyLiteral valueLiteral shortKey shortValue)

end Document

end Chimenea.Json
