import Chimenea.Json.Deserializer

/-!
The deserializer ends: each turn of its loops takes a character from the text, so
a bound above the length of the text is never used up.
-/

namespace Chimenea.Json
open Arduino Machine

section Length

abbrev left (d : Deserializer Text) : Nat := d.storage.unread.length

theorem tail_shorter {text : Bytes} (more : text.headD 0 ≠ 0) :
    text.tail.length < text.length := by
  cases text with
  | nil => exact absurd rfl more
  | cons c rest => exact Nat.lt_succ_self _

variable {α β : Type} {d : Deserializer Text} {bound : Nat}

/-- Looking at the next character takes nothing from the text. -/
def peeked (d : Deserializer Text) : Deserializer Text :=
  { d with storage := { d.storage with lastRead := d.storage.unread.headD 0 } }

def moved (d : Deserializer Text) : Deserializer Text :=
  { d with storage := { d.storage with unread := d.storage.unread.tail } }

@[simp] theorem moved_unread (d : Deserializer Text) :
    (moved d).storage.unread = d.storage.unread.tail := rfl

theorem moved_left (d : Deserializer Text) : left (moved d) ≤ left d := by
  rw [left, moved_unread, List.length_tail]
  exact Nat.sub_le _ _

variable {E : Option Sketch.DeserializationError → Prop}
  {Q : β → Deserializer Text → Prop}

theorem ends_current {next : BitVec 8 → Parser Text β}
    (rest : Ends E (next (d.storage.unread.headD 0)) (peeked d) Q) : Ends E (current >>= next) d Q :=
  rest

theorem ends_move {next : Unit → Parser Text β} (rest : Ends E (next ()) (moved d) Q) :
    Ends E (move >>= next) d Q := rest

/-- A program that uses up no bound. -/
abbrev Bounded (x : Parser Text α) (d : Deserializer Text) (Q : α → Deserializer Text → Prop) :
    Prop :=
  Ends (· ≠ none) x d Q

theorem bounded_fail (error : Sketch.DeserializationError) : Bounded (fail error) d Q :=
  ends_throw (Option.some_ne_none error)

/-- The other operations of the storage leave the text to read alone. -/
abbrev Quiet (x : Parser Text α) (d : Deserializer Text) : Prop :=
  Bounded x d fun _ t => t.storage.unread = d.storage.unread

theorem startString_quiet (d : Deserializer Text) : Quiet startString d := rfl

theorem append_quiet (c : BitVec 8) (d : Deserializer Text) : Quiet (append c) d := rfl

theorem str_quiet (d : Deserializer Text) : Quiet str d := rfl

theorem save_quiet (d : Deserializer Text) : Quiet save d := rfl

theorem last_quiet (d : Deserializer Text) : Quiet last d := rfl

theorem found_quiet :
    Quiet (modify fun t => { t with foundSomething := true } : Parser Text Unit) d := rfl

theorem ends_quiet {x : Parser Text α} {next : α → Parser Text β} (quiet : Quiet x d)
    (rest : ∀ a t, left t = left d → Bounded (next a) t Q) : Bounded (x >>= next) d Q :=
  ends_bind quiet (fun a t same => rest a t (congrArg List.length same))

/-- A program that leaves at most `n` characters of the text. -/
abbrev Leaves (x : Parser Text α) (d : Deserializer Text) (n : Nat) : Prop :=
  Bounded x d fun _ after => left after ≤ n

theorem eat_ends (c : Char) (letter : ch c ≠ 0) (d : Deserializer Text) :
    Bounded (eat (ch c)) d fun eaten after =>
      left after ≤ left d ∧ (eaten = true → left after < left d) := by
  apply ends_current
  by_cases other : d.storage.unread.headD 0 ≠ ch c
  · rw [if_pos other]
    exact ends_pure ⟨le_rfl, fun eaten => absurd eaten Bool.false_ne_true⟩
  · rw [if_neg other]
    have more : d.storage.unread.headD 0 ≠ 0 := by
      rw [not_not.1 other]
      exact letter
    exact ends_move (ends_pure ⟨moved_left _, fun _ => tail_shorter more⟩)

theorem skipSpacesAndComments_ends (enough : left d < bound) :
    Leaves (skipSpacesAndComments bound) d (left d) := by
  apply ends_loop left (fun _ after => left after ≤ left d) _ bound () le_rfl enough
  intro _ t less
  apply ends_current
  apply ends_ite
  · intro _
    exact ends_bind (ends_get (Q := fun _ _ => True) trivial) (fun _ _ _ => bounded_fail _)
  intro more
  apply ends_ite
  · intro _
    exact ends_move (ends_pure ⟨(moved_left t).trans less, tail_shorter more⟩)
  · intro _
    apply ends_quiet found_quiet
    intro _ u same
    exact ends_pure (same.le.trans less)

theorem allocVariant_ends (d : Deserializer Text) : Leaves allocVariant d (left d) := by
  apply ends_bind (ends_get (Q := fun t u => t = u ∧ u = d) ⟨rfl, rfl⟩)
  rintro t _ ⟨rfl, rfl⟩
  apply ends_ite
  · intro _
    exact bounded_fail _
  · intro _
    exact le_refl (left t)

theorem appendAll_ends (text : Bytes) (d : Deserializer Text) :
    Leaves (appendAll text) d (left d) := by
  induction text generalizing d with
  | nil => exact ends_pure le_rfl
  | cons c rest ih => exact ih _

theorem parseHex4_ends (n : Nat) (result : BitVec 16) (d : Deserializer Text) :
    Leaves (parseHex4 n result) d (left d) := by
  induction n generalizing result d with
  | zero => exact ends_pure le_rfl
  | succ n ih =>
    apply ends_current
    apply ends_ite
    · intro _
      exact bounded_fail _
    intro _
    apply ends_ite
    · intro _
      exact bounded_fail _
    · intro _
      apply ends_move
      exact ends_mono (ih _ _) (fun _ _ less => less.trans (moved_left d))

theorem parseEscape_ends (p : Codepoint) (d : Deserializer Text) :
    Leaves (parseEscape p) d (left d) := by
  apply ends_current
  apply ends_ite
  · intro _
    exact bounded_fail _
  intro _
  apply ends_ite
  · intro _
    apply ends_move
    apply ends_bind (parseHex4_ends 4 0 _)
    intro codeunit t less
    apply ends_ite
    · intro _
      exact ends_bind (appendAll_ends _ t)
        (fun _ _ same => ends_pure (same.trans (less.trans (moved_left d))))
    · intro _
      exact ends_pure (less.trans (moved_left d))
  intro _
  apply ends_ite
  · intro _
    exact bounded_fail _
  · intro _
    exact ends_move (ends_quiet (append_quiet _ _) (fun _ _ same => ends_pure (same.le.trans (moved_left d))))

theorem parseQuotedString_ends (enough : left d < bound) :
    Leaves (parseQuotedString bound) d (left d) := by
  apply ends_current
  apply ends_move
  have start : left (moved (peeked d)) ≤ left d := moved_left _
  refine ends_loop left (fun _ after => left after ≤ left d) ?_ bound ({} : Codepoint) start
    (lt_of_le_of_lt start enough)
  intro p t less
  apply ends_current
  apply ends_move
  apply ends_ite
  · intro _
    exact ends_pure ((moved_left t).trans less)
  intro _
  apply ends_ite
  · intro _
    exact bounded_fail _
  intro more
  have shorter : left (moved t) < left t := tail_shorter more
  apply ends_ite
  · intro _
    apply ends_mono (parseEscape_ends p _)
    intro r u after
    have fewer : left u ≤ left (moved t) := after
    cases r with
    | inl next => exact ⟨by omega, by omega⟩
    | inr _ => show left u ≤ left d; omega
  · intro _
    apply ends_quiet (append_quiet _ _)
    intro _ u same
    exact ends_pure ⟨same.le.trans ((moved_left t).trans less), same.trans_lt shorter⟩

theorem canBeInNonQuotedString_more {c : BitVec 8} (can : canBeInNonQuotedString c = true) :
    c ≠ 0 := by
  rintro rfl
  exact absurd can (by decide)

theorem parseNonQuotedString_ends (enough : left d < bound) :
    Leaves (parseNonQuotedString bound) d (left d) := by
  apply ends_current
  apply ends_ite
  · intro can
    refine ends_loop left
      (fun c after => canBeInNonQuotedString c = true ∧ after.storage.unread.headD 0 = c ∧
        left after ≤ left d) ?_ bound _ ⟨can, rfl, le_refl (left d)⟩ enough
    rintro c t ⟨can, rfl, less⟩
    have shorter := tail_shorter (canBeInNonQuotedString_more can)
    have fewer : left (moved t) ≤ left d := (moved_left t).trans less
    apply ends_move
    apply ends_quiet (append_quiet _ _)
    intro _ u same
    apply ends_current
    apply ends_ite
    · intro more
      exact ends_pure ⟨⟨more, rfl, same.trans_le fewer⟩, same.trans_lt shorter⟩
    · intro _
      exact ends_pure (same.trans_le fewer)
  · intro _
    exact bounded_fail _

theorem parseKey_ends (enough : left d < bound) : Leaves (parseKey bound) d (left d) := by
  apply ends_quiet (startString_quiet d)
  intro _ t same
  apply ends_current
  have room : left (peeked t) < bound := same.trans_lt enough
  apply ends_ite
  · intro _
    exact ends_mono (parseQuotedString_ends room) (fun _ _ less => less.trans same.le)
  · intro _
    exact ends_mono (parseNonQuotedString_ends room) (fun _ _ less => less.trans same.le)

theorem parseStringValue_ends (enough : left d < bound) :
    Leaves (parseStringValue bound) d (left d) := by
  apply ends_quiet (startString_quiet d)
  intro _ t same
  have room : left t < bound := same.trans_lt enough
  apply ends_bind (parseQuotedString_ends room)
  intro _ u less
  apply ends_quiet (save_quiet u)
  intro s v kept
  exact ends_pure (kept.le.trans (less.trans same.le))

theorem readBuffer_ends (n : Nat) (d : Deserializer Text) : Leaves (readBuffer n) d (left d) := by
  induction n generalizing d with
  | zero =>
    apply ends_current
    exact ends_pure le_rfl
  | succ n ih =>
    apply ends_current
    apply ends_ite
    · intro _
      apply ends_move
      apply ends_bind (ih _)
      intro rest t less
      exact ends_pure (less.trans (moved_left d))
    · intro _
      exact ends_pure le_rfl

theorem parseNumericValue_ends (v : VariantData Bytes) (d : Deserializer Text) :
    Leaves (parseNumericValue v) d (left d) := by
  apply ends_bind (readBuffer_ends 63 d)
  intro buffer t less
  apply ends_ite
  · intro _
    exact ends_ite (fun _ => ends_pure less) (fun _ => bounded_fail _)
  intro _
  apply ends_ite
  · intro _
    exact ends_ite (fun _ => ends_pure less) (fun _ => bounded_fail _)
  intro _
  apply ends_ite
  · intro _
    exact ends_ite (fun _ => ends_pure less) (fun _ => bounded_fail _)
  intro _
  cases parseNumber buffer with
  | some n => exact ends_pure less
  | none => exact bounded_fail _

theorem parseSeparator_ends {close : Char} (letter : ch close ≠ 0) (collection : α)
    (enough : left d < bound) :
    Bounded (parseSeparator bound close collection) d (fun r after =>
      r.elim (fun _ => left after < left d) (fun _ => left after ≤ left d)) := by
  apply ends_bind (skipSpacesAndComments_ends enough)
  intro _ t less
  apply ends_bind (eat_ends close letter t)
  intro closed u after
  apply ends_ite
  · intro _
    exact ends_pure (after.1.trans less)
  intro _
  apply ends_bind (eat_ends ',' (by decide) u)
  intro more v taken
  apply ends_ite
  · intro comma
    exact ends_pure (lt_of_lt_of_le (taken.2 comma) (after.1.trans less))
  · intro _
    exact bounded_fail _

section Nested

variable {parseVariant : VariantData Bytes → Parser Text (VariantData Bytes)}
  (child : ∀ v d, left d < bound → Leaves (parseVariant v) d (left d))

include child

theorem parseElement_ends (array : CollectionData Bytes) (enough : left d < bound) :
    Bounded (parseElement bound parseVariant array) d (fun r after =>
      r.elim (fun _ => left after < left d) (fun _ => left after ≤ left d)) := by
  apply ends_bind (allocVariant_ends d)
  intro _ t less
  apply ends_bind (child .null t (lt_of_le_of_lt less enough))
  intro value u fewer
  have all : left u ≤ left d := fewer.trans less
  apply ends_mono (parseSeparator_ends (by decide) _ (lt_of_le_of_lt all enough))
  intro r v after
  cases r with
  | inl _ => exact lt_of_lt_of_le after all
  | inr _ => exact le_trans after all

theorem parseMemberValue_ends (object : CollectionData Bytes) (enough : left d < bound) :
    Leaves (parseMemberValue parseVariant object) d (left d) := by
  apply ends_quiet (str_quiet d)
  intro key t same
  apply ends_bind (ends_get (Q := fun _ now => left now = left d) same)
  intro _ now same
  split
  · exact ends_bind (child _ now (same.trans_lt enough))
      (fun _ _ less => ends_pure (le_trans less same.le))
  · apply ends_quiet (save_quiet now)
    intro key u kept
    apply ends_bind (allocVariant_ends u)
    intro _ v less
    have all : left v ≤ left d := less.trans (kept.trans same).le
    apply ends_bind (child .null v (lt_of_le_of_lt all enough))
    intro value w fewer
    exact ends_pure (fewer.trans all)

theorem parseMember_ends (object : CollectionData Bytes) (enough : left d < bound) :
    Bounded (parseMember bound parseVariant object) d (fun r after =>
      r.elim (fun _ => left after < left d) (fun _ => left after ≤ left d)) := by
  apply ends_bind (parseKey_ends enough)
  intro _ t less
  apply ends_bind (skipSpacesAndComments_ends (lt_of_le_of_lt less enough))
  intro _ u fewer
  apply ends_bind (eat_ends ':' (by decide) u)
  intro colon v after
  have all : left v ≤ left d := after.1.trans (fewer.trans less)
  apply ends_ite
  · intro _
    apply ends_bind (parseMemberValue_ends child object (lt_of_le_of_lt all enough))
    intro object w rest
    have room : left w < bound := lt_of_le_of_lt (le_trans rest all) enough
    apply ends_bind (parseSeparator_ends (by decide) object room)
    intro r x separated
    cases r with
    | inl object =>
      have fewest : left x < left d := lt_of_lt_of_le separated (le_trans rest all)
      apply ends_bind (skipSpacesAndComments_ends (fewest.trans enough))
      intro _ y last
      exact ends_pure (lt_of_le_of_lt last fewest)
    | inr object => exact ends_pure (le_trans separated (le_trans rest all))
  · intro _
    exact bounded_fail _

end Nested

/-- `[` and `{` differ in the parser of their entries only. -/
theorem collection_ends {close : Char} (letter : ch close ≠ 0) (empty : VariantData Bytes)
    (wrap : CollectionData Bytes → VariantData Bytes) {entry : CollectionData Bytes →
      Parser Text (CollectionData Bytes ⊕ CollectionData Bytes)} (enough : left d < bound)
    (step : ∀ c t, left t < bound → Bounded (entry c) t (fun r after =>
      r.elim (fun _ => left after < left t) (fun _ => left after ≤ left t))) :
    Leaves (do
      move
      skipSpacesAndComments bound
      let closed ← eat (ch close)
      if closed then return empty
      else do
        let entries ← loop entry bound .empty
        return wrap entries) d (left d) := by
  apply ends_move
  apply ends_bind (skipSpacesAndComments_ends (lt_of_le_of_lt (moved_left d) enough))
  intro _ u fewer
  apply ends_bind (eat_ends close letter u)
  intro closed w after
  have all : left w ≤ left d := after.1.trans (le_trans fewer (moved_left d))
  apply ends_ite
  · intro _
    exact ends_pure all
  intro _
  have entries : Leaves (loop entry bound .empty) w (left d) := by
    refine ends_loop left (fun _ after => left after ≤ left d) ?_ bound CollectionData.empty all
      (lt_of_le_of_lt all enough)
    intro c t less
    apply ends_mono (step c t (lt_of_le_of_lt less enough))
    intro r u after
    cases r with
    | inl next => exact ⟨(le_of_lt after).trans less, after⟩
    | inr result => exact le_trans after less
  exact ends_bind entries (fun _ _ rest => ends_pure rest)

theorem parseValue_ends (nested : Nested Text Bytes) (enough : left d < bound)
    (child : ∀ parseVariant ∈ nested, ∀ v d, left d < bound → Leaves (parseVariant v) d (left d))
    (v : VariantData Bytes) : Leaves (parseValue bound nested v) d (left d) := by
  apply ends_bind (skipSpacesAndComments_ends enough)
  intro _ t less
  have room : left t < bound := lt_of_le_of_lt less enough
  have weaken {x : Parser Text (VariantData Bytes)} (run : Leaves x (peeked t) (left t)) :
      Leaves x (peeked t) (left d) := ends_mono run (fun _ _ fewer => le_trans fewer less)
  apply ends_current
  apply ends_ite
  · intro _
    cases nested with
    | none => exact bounded_fail _
    | some parseVariant =>
      exact weaken (collection_ends (by decide) _ _ room
        (fun c _ enough => parseElement_ends (child parseVariant rfl) c enough))
  intro _
  apply ends_ite
  · intro _
    cases nested with
    | none => exact bounded_fail _
    | some parseVariant =>
      exact weaken (collection_ends (by decide) _ _ room
        (fun c _ enough => parseMember_ends (child parseVariant rfl) c enough))
  intro _
  apply ends_ite
  · intro _
    exact weaken (parseStringValue_ends room)
  · intro _
    exact weaken (parseNumericValue_ends v _)

theorem parseVariant_ends (nestingLimit : Nat) (v : VariantData Bytes) (d : Deserializer Text)
    (enough : left d < bound) : Leaves (parseVariant bound nestingLimit v) d (left d) := by
  induction nestingLimit generalizing v d with
  | zero => exact parseValue_ends none enough (fun _ member => nomatch member) v
  | succ nestingLimit ih =>
    apply parseValue_ends _ enough _ v
    intro parseVariant member
    cases member
    exact ih

theorem parse_ends (nestingLimit : Nat) (enough : left d < bound) :
    Leaves (parse bound nestingLimit) d (left d) := by
  apply ends_bind (parseVariant_ends nestingLimit .null d enough)
  intro variant t less
  apply ends_quiet (last_quiet t)
  intro c u same
  exact ends_ite (fun _ => bounded_fail _) (fun _ => ends_pure (same.le.trans less))

end Length

theorem answer_isSome {α : Type} {x : Parser Text α} {d : Deserializer Text}
    {Q : α → Deserializer Text → Prop} (run : Bounded x d Q) : (answer (x d)).isSome = true := by
  unfold Bounded Ends at run
  revert run
  rcases x d with ⟨v, t⟩ | ⟨_ | e, t⟩ <;> intro run
  · rfl
  · exact absurd rfl run
  · rfl

theorem readText_isSome (payload : Bytes) : (readText payload).isSome = true :=
  answer_isSome (parse_ends DEFAULT_NESTING_LIMIT (Nat.lt_succ_self _))

/-- `deserializeJson(doc_rx, payload)`. -/
def deserializeJson (payload : Bytes) : Except Sketch.DeserializationError (VariantData Bytes) :=
  (readText payload).get (readText_isSome payload)

end Chimenea.Json
