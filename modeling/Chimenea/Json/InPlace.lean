import Chimenea.Json.Buffer

/-!
Parsing in the buffer is parsing the text: function by function, the two runs
take the same way and end in states that show the same.
-/

namespace Chimenea.Json
open Arduino Machine

section Operations

variable {payload : Nat → BitVec 8} {len : Nat} {d : Deserializer Buffer} {e : Deserializer Text}
  (cstring : CString payload len) (related : (sideBySide payload len).inv d e)

include related

include cstring in
theorem current_alike : Alike (sideBySide payload len) current d current e fun c c' d' _ =>
    c = c' ∧ Loaded c d'.storage ∧ d'.storage.writePtr = d.storage.writePtr ∧
      d'.storage.pos = d.storage.pos := by
  obtain ⟨fits, same, loaded, writePtr, pos, memory⟩ := related.1.load cstring
  exact ⟨⟨fits, related.2⟩, ⟨writePtr.ge, fun i _ => congrFun memory i⟩, same, loaded, writePtr,
    pos⟩

include cstring in
theorem move_alike {c : BitVec 8} (loaded : Loaded c d.storage) (more : c ≠ 0) :
    Alike (sideBySide payload len) move d move e fun _ _ d' _ =>
      d'.storage.writePtr = d.storage.writePtr ∧ d'.storage.pos = d.storage.pos + 1 := by
  obtain ⟨fits, next⟩ := related.1.move cstring loaded more
  exact ⟨⟨fits, related.2⟩, (sideBySide payload len).refl d, rfl, next⟩

theorem startString_alike : Alike (sideBySide payload len) startString d startString e
    fun _ _ d' _ => (∀ c, Loaded c d.storage → Loaded c d'.storage) ∧
      d'.storage.writePtr = d.storage.writePtr ∧ d'.storage.pos = d.storage.pos := by
  refine ⟨⟨?_, related.2⟩, (sideBySide payload len).refl d, fun _ => id, rfl, rfl⟩
  have empty : (Storage.startString d.storage).read (Storage.startString d.storage).string = [] := by
    change List.map _ (List.range (d.storage.writePtr - d.storage.writePtr)) = []
    rw [Nat.sub_self]
    rfl
  exact { related.1 with start := le_rfl, string := empty.symm }

theorem append_alike (c : BitVec 8) (room : Room d.storage) :
    Alike (sideBySide payload len) (append c) d (append c) e fun _ _ d' _ =>
      d'.storage.writePtr = d.storage.writePtr + 1 ∧ d'.storage.pos = d.storage.pos :=
  ⟨⟨related.1.append c room, related.2⟩, d.storage.write_grows c 1, rfl, rfl⟩

theorem str_alike (room : Room d.storage) :
    Alike (sideBySide payload len) str d str e fun s s' d' _ =>
      s' = d'.storage.read s ∧ Room d'.storage :=
  ⟨⟨related.1.terminate room, related.2⟩, d.storage.write_grows 0 0,
    (related.1.terminate room).string, room⟩

theorem save_alike (room : Room d.storage) :
    Alike (sideBySide payload len) save d save e fun s s' d' _ =>
      s' = d'.storage.read s ∧ Saved d'.storage s :=
  ⟨⟨related.1.append 0 room, related.2⟩, d.storage.write_grows 0 1,
    (related.1.terminate room).string, save_saved related.1.start⟩

theorem last_alike : Alike (sideBySide payload len) last d last e fun c c' d' _ =>
    c = c' ∧ d' = d :=
  ⟨related, (sideBySide payload len).refl d, related.1.lastRead.symm, rfl⟩

theorem found_alike : Alike (sideBySide payload len)
    (modify fun d => { d with foundSomething := true } : Parser Buffer Unit) d
    (modify fun e => { e with foundSomething := true } : Parser Text Unit) e fun _ _ _ _ => True :=
  ⟨⟨related.1, rfl, related.2.2⟩, (sideBySide payload len).refl d, trivial⟩

theorem allocVariant_alike : Alike (sideBySide payload len) allocVariant d allocVariant e
    fun _ _ d' _ => d'.storage = d.storage := by
  apply alike_bind (alike_get related (Q := fun d1 e1 d2 e2 => d1 = d2 ∧ e1 = e2 ∧ d2 = d) ⟨rfl, rfl, rfl⟩)
  rintro d1 e1 _ _ related' _ ⟨rfl, rfl, rfl⟩
  apply alike_ite (by rw [related'.2.2])
  · intro _
    exact alike_throw related'
  · intro _
    refine ⟨⟨related'.1, related'.2.1, ?_⟩, (sideBySide payload len).refl d1, rfl⟩
    rw [related'.2.2]

end Operations

theorem isQuote_more {c : BitVec 8} (quote : isQuote c = true) : c ≠ 0 := by
  rintro rfl
  exact absurd quote (by decide)

theorem encodeCodepoint_length (c : BitVec 32) : (encodeCodepoint c).length ≤ 4 := by
  unfold encodeCodepoint
  dsimp only
  split_ifs <;> simp only [List.length_cons, List.length_nil] <;> omega

section Characters

variable {payload : Nat → BitVec 8} {len bound : Nat} {d : Deserializer Buffer}
  {e : Deserializer Text} (cstring : CString payload len)
  (related : (sideBySide payload len).inv d e)

include cstring related

theorem eat_alike {c : BitVec 8} (letter : c ≠ 0) :
    Alike (sideBySide payload len) (eat c) d (eat c) e fun r r' d' _ =>
      r = r' ∧ (r = true → Room d'.storage) := by
  apply alike_bind (current_alike cstring related)
  rintro a _ d1 e1 related1 _ ⟨rfl, loaded, _, _⟩
  apply alike_ite Iff.rfl
  · intro _
    exact alike_pure related1 ⟨rfl, fun eaten => absurd eaten Bool.false_ne_true⟩
  · intro same
    have here : a = c := not_not.1 same
    apply alike_bind (move_alike cstring related1 loaded (here ▸ letter))
    intro _ _ d2 e2 related2 _ moved
    have behind := related1.1.behind
    exact alike_pure related2 ⟨rfl, fun _ => show _ < _ by omega⟩

theorem skipSpacesAndComments_alike :
    Alike (sideBySide payload len) (skipSpacesAndComments bound) d (skipSpacesAndComments bound) e
      fun _ _ _ _ => True := by
  refine alike_loop (s := d) (fun _ _ _ _ => True) ?_ bound ()
    () related ((sideBySide payload len).refl d) trivial
  intro _ _ d1 e1 related1 _ _
  apply alike_bind (current_alike cstring related1)
  rintro c _ d2 e2 related2 _ ⟨rfl, loaded, _, _⟩
  apply alike_ite Iff.rfl
  · intro _
    apply alike_bind (alike_get related2
      (Q := fun a b _ _ => a.foundSomething = b.foundSomething) related2.2.1)
    intro d3 e3 d4 e4 related4 _ found
    rw [found]
    exact alike_throw related4
  intro more
  apply alike_ite Iff.rfl
  · intro _
    apply alike_bind (move_alike cstring related2 loaded more)
    intro _ _ d3 e3 related3 _ _
    exact alike_pure related3 (.inl trivial)
  · intro _
    apply alike_bind (found_alike related2)
    intro _ _ d3 e3 related3 _ _
    exact alike_pure related3 (.inr trivial)

omit cstring in
theorem appendAll_alike (text : Bytes)
    (room : d.storage.writePtr + text.length ≤ d.storage.pos) :
    Alike (sideBySide payload len) (appendAll text) d (appendAll text) e fun _ _ _ _ => True := by
  induction text generalizing d e with
  | nil => exact alike_pure related trivial
  | cons c rest ih =>
    rw [List.length_cons] at room
    apply alike_bind (append_alike related c (show _ < _ by omega))
    intro _ _ d1 e1 related1 _ appended
    exact ih related1 (by omega)

theorem parseHex4_alike (n : Nat) (result : BitVec 16) :
    Alike (sideBySide payload len) (parseHex4 n result) d (parseHex4 n result) e fun r r' d' _ =>
      r = r' ∧ d'.storage.writePtr = d.storage.writePtr ∧
        d'.storage.pos = d.storage.pos + n := by
  induction n generalizing result d e with
  | zero => exact alike_pure related ⟨rfl, rfl, rfl⟩
  | succ n ih =>
    apply alike_bind (current_alike cstring related)
    rintro c _ d1 e1 related1 _ ⟨rfl, loaded, writePtr, pos⟩
    apply alike_ite Iff.rfl
    · intro _
      exact alike_throw related1
    intro more
    apply alike_ite Iff.rfl
    · intro _
      exact alike_throw related1
    · intro _
      apply alike_bind (move_alike cstring related1 loaded more)
      intro _ _ d2 e2 related2 _ moved
      apply alike_mono (ih related2 _)
      rintro r r' d3 e3 _ _ ⟨same, written, taken⟩
      exact ⟨same, by omega, by omega⟩

theorem parseEscape_alike (p : Codepoint) (room : Room d.storage) :
    Alike (sideBySide payload len) (parseEscape p) d (parseEscape p) e fun r r' _ _ =>
      ∃ next, r = .inl next ∧ r' = .inl next := by
  apply alike_bind (current_alike cstring related)
  rintro c _ d1 e1 related1 _ ⟨rfl, loaded, writePtr, pos⟩
  apply alike_ite Iff.rfl
  · intro _
    exact alike_throw related1
  intro more
  have behind := related.1.behind
  have below : d.storage.writePtr < d.storage.pos := room
  apply alike_ite Iff.rfl
  · intro _
    apply alike_bind (move_alike cstring related1 loaded more)
    intro _ _ d2 e2 related2 _ moved
    apply alike_bind (parseHex4_alike cstring related2 4 0)
    rintro codeunit _ d3 e3 related3 _ ⟨rfl, written, taken⟩
    apply alike_ite Iff.rfl
    · intro _
      -- the escape sequence has six characters, and the code point at most four bytes
      have short := encodeCodepoint_length (p.append codeunit).2.codepoint
      apply alike_bind (appendAll_alike related3 _ (by omega))
      intro _ _ d4 e4 related4 _ _
      exact alike_pure related4 ⟨_, rfl, rfl⟩
    · intro _
      exact alike_pure related3 ⟨_, rfl, rfl⟩
  intro _
  apply alike_ite Iff.rfl
  · intro _
    exact alike_throw related1
  · intro _
    apply alike_bind (move_alike cstring related1 loaded more)
    intro _ _ d2 e2 related2 _ moved
    apply alike_bind (append_alike related2 _ (show _ < _ by omega))
    intro _ _ d3 e3 related3 _ _
    exact alike_pure related3 ⟨p, rfl, rfl⟩

omit cstring in
theorem Loaded.char {c : BitVec 8} (loaded : Loaded c d.storage) : c = payload d.storage.pos :=
  loaded.2.symm.trans (related.1.latch loaded.1)

theorem parseQuotedString_alike (quote : isQuote (payload d.storage.pos) = true) :
    Alike (sideBySide payload len) (parseQuotedString bound) d (parseQuotedString bound) e
      fun _ _ d' _ => Room d'.storage := by
  apply alike_bind (current_alike cstring related)
  rintro stopChar _ d1 e1 related1 _ ⟨rfl, loaded, _, pos⟩
  have stop : stopChar ≠ 0 := by
    rw [loaded.char related1, pos]
    exact isQuote_more quote
  apply alike_bind (move_alike cstring related1 loaded stop)
  intro _ _ d2 e2 related2 _ _
  refine alike_loop (s := d2) (fun p p' _ _ => p = p') ?_ bound ({} : Codepoint) ({} : Codepoint)
    related2
    ((sideBySide payload len).refl d2) rfl
  rintro p _ d3 e3 related3 _ rfl
  apply alike_bind (current_alike cstring related3)
  rintro c _ d4 e4 related4 _ ⟨rfl, loaded, _, _⟩
  by_cases null : c = 0
  · -- the null character is taken too, but nothing is read after it
    subst null
    change Alike _ (if (0 : BitVec 8) = stopChar then _ else _) _
      (if (0 : BitVec 8) = stopChar then _ else _) _ _
    rw [if_neg stop.symm, if_neg stop.symm]
    exact alike_throw_of_safe related4.1.safe
  · apply alike_bind (move_alike cstring related4 loaded null)
    intro _ _ d5 e5 related5 _ moved
    have behind := related4.1.behind
    have room : Room d5.storage := show _ < _ by omega
    apply alike_ite Iff.rfl
    · intro _
      exact alike_pure related5 (.inr room)
    intro _
    rw [if_neg null, if_neg null]
    apply alike_ite Iff.rfl
    · intro _
      apply alike_mono (parseEscape_alike cstring related5 p room)
      rintro _ _ d6 e6 _ _ ⟨next, rfl, rfl⟩
      exact .inl rfl
    · intro _
      apply alike_bind (append_alike related5 c room)
      intro _ _ d6 e6 related6 _ _
      exact alike_pure related6 (.inl rfl)

theorem parseNonQuotedString_alike :
    Alike (sideBySide payload len) (parseNonQuotedString bound) d (parseNonQuotedString bound) e
      fun _ _ _ _ => True := by
  apply alike_bind (current_alike cstring related)
  rintro c _ d1 e1 related1 _ ⟨rfl, loaded, _, _⟩
  apply alike_ite Iff.rfl
  · intro can
    refine alike_loop (s := d1) (fun c c' u _ => c = c' ∧ Loaded c u.storage ∧
      canBeInNonQuotedString c = true) ?_ bound c c related1 ((sideBySide payload len).refl d1)
      ⟨rfl, loaded, can⟩
    rintro c _ d2 e2 related2 _ ⟨rfl, loaded, can⟩
    apply alike_bind (move_alike cstring related2 loaded (canBeInNonQuotedString_more can))
    intro _ _ d3 e3 related3 _ moved
    have behind := related2.1.behind
    apply alike_bind (append_alike related3 c (show _ < _ by omega))
    intro _ _ d4 e4 related4 _ _
    apply alike_bind (current_alike cstring related4)
    rintro next _ d5 e5 related5 _ ⟨rfl, loaded, _, _⟩
    apply alike_ite Iff.rfl
    · intro more
      exact alike_pure related5 (.inl ⟨rfl, loaded, more⟩)
    · intro _
      exact alike_pure related5 (.inr trivial)
  · intro _
    exact alike_throw related1

theorem parseKey_alike :
    Alike (sideBySide payload len) (parseKey bound) d (parseKey bound) e fun _ _ _ _ => True := by
  apply alike_bind (startString_alike related)
  intro _ _ d1 e1 related1 _ _
  apply alike_bind (current_alike cstring related1)
  rintro c _ d2 e2 related2 _ ⟨rfl, loaded, _, _⟩
  apply alike_ite Iff.rfl
  · intro quote
    rw [loaded.char related2] at quote
    exact alike_mono (parseQuotedString_alike cstring related2 quote)
      (fun _ _ _ _ _ _ _ => trivial)
  · intro _
    exact parseNonQuotedString_alike cstring related2

theorem parseStringValue_alike (quote : isQuote (payload d.storage.pos) = true) :
    Alike (sideBySide payload len) (parseStringValue bound) d (parseStringValue bound) e
      fun v w d' _ => Reads d'.storage v w := by
  apply alike_bind (startString_alike related)
  rintro _ _ d1 e1 related1 _ ⟨_, _, pos⟩
  apply alike_bind (parseQuotedString_alike cstring related1 (pos ▸ quote))
  intro _ _ d2 e2 related2 _ room
  apply alike_bind (save_alike related2 room)
  rintro s _ d3 e3 related3 _ ⟨rfl, saved⟩
  exact alike_pure related3 ⟨saved, rfl⟩

theorem readBuffer_alike (n : Nat) :
    Alike (sideBySide payload len) (readBuffer n) d (readBuffer n) e fun r r' _ _ => r = r' := by
  induction n generalizing d e with
  | zero =>
    apply alike_bind (current_alike cstring related)
    intro _ _ d1 e1 related1 _ _
    exact alike_pure related1 rfl
  | succ n ih =>
    apply alike_bind (current_alike cstring related)
    rintro c _ d1 e1 related1 _ ⟨rfl, loaded, _, _⟩
    apply alike_ite Iff.rfl
    · intro can
      apply alike_bind (move_alike cstring related1 loaded (canBeInNonQuotedString_more can))
      intro _ _ d2 e2 related2 _ _
      apply alike_bind (ih related2)
      rintro rest _ d3 e3 related3 _ rfl
      exact alike_pure related3 rfl
    · intro _
      exact alike_pure related1 rfl

theorem parseNumericValue_alike {v : VariantData Linked} {w : VariantData Bytes}
    (reads : Reads d.storage v w) :
    Alike (sideBySide payload len) (parseNumericValue v) d (parseNumericValue w) e
      fun v w d' _ => Reads d'.storage v w := by
  apply alike_bind (readBuffer_alike cstring related 63)
  rintro buffer _ d1 e1 related1 later rfl
  have literal (b : Bool) : Reads d1.storage (.boolean b) (.boolean b) := ⟨trivial, rfl⟩
  have length (n : Nat) {x : VariantData Linked} {y : VariantData Bytes}
      (same : Reads d1.storage x y) : Alike (sideBySide payload len)
        (if buffer.length = n then return x else fail .incompleteInput) d1
        (if buffer.length = n then return y else fail .incompleteInput) e1
        fun v w d' _ => Reads d'.storage v w :=
    alike_ite Iff.rfl (fun _ => alike_pure related1 same) (fun _ => alike_throw related1)
  apply alike_ite Iff.rfl (fun _ => length 4 (literal true))
  intro _
  apply alike_ite Iff.rfl (fun _ => length 5 (literal false))
  intro _
  apply alike_ite Iff.rfl (fun _ => length 4 (reads.grows later))
  intro _
  cases parseNumber buffer with
  | some n => exact alike_pure related1 ⟨trivial, rfl⟩
  | none => exact alike_throw related1

theorem parseSeparator_alike {close : Char} (letter : ch close ≠ 0)
    {c : CollectionData Linked} {c' : CollectionData Bytes} (reads : ReadsSlots d.storage c c') :
    Alike (sideBySide payload len) (parseSeparator bound close c) d
      (parseSeparator bound close c') e fun r r' d' _ =>
        Sum.LiftRel (ReadsSlots d'.storage) (ReadsSlots d'.storage) r r' := by
  apply alike_bind (skipSpacesAndComments_alike cstring related)
  intro _ _ d1 e1 related1 later1 _
  apply alike_bind (eat_alike cstring related1 letter)
  rintro closed _ d2 e2 related2 later2 ⟨rfl, _⟩
  apply alike_ite Iff.rfl
  · intro _
    exact alike_pure related2 (.inr ((reads.grows later1).grows later2))
  intro _
  apply alike_bind (eat_alike cstring related2 (c := ch ',') (by decide))
  rintro more _ d3 e3 related3 later3 ⟨rfl, _⟩
  apply alike_ite Iff.rfl
  · intro _
    exact alike_pure related3 (.inl (((reads.grows later1).grows later2).grows later3))
  · intro _
    exact alike_throw related3

end Characters

section Values

variable {payload : Nat → BitVec 8} {len bound : Nat} {d : Deserializer Buffer}
  {e : Deserializer Text} (cstring : CString payload len)

/-- Parsers of values that do the same in the buffer and in the text. -/
def SameValues (payload : Nat → BitVec 8) (len : Nat)
    (values : VariantData Linked → Parser Buffer (VariantData Linked))
    (values' : VariantData Bytes → Parser Text (VariantData Bytes)) : Prop :=
  ∀ d e v w, (sideBySide payload len).inv d e → Reads d.storage v w →
    Alike (sideBySide payload len) (values v) d (values' w) e fun v w d' _ => Reads d'.storage v w

variable {values : VariantData Linked → Parser Buffer (VariantData Linked)}
  {values' : VariantData Bytes → Parser Text (VariantData Bytes)}
  {c : CollectionData Linked} {c' : CollectionData Bytes}

theorem reads_null (b : Buffer) : Reads b .null .null := ⟨trivial, rfl⟩

include cstring

theorem parseElement_alike (child : SameValues payload len values values')
    (related : (sideBySide payload len).inv d e) (reads : ReadsSlots d.storage c c') :
    Alike (sideBySide payload len) (parseElement bound values c) d (parseElement bound values' c') e
      fun r r' d' _ => Sum.LiftRel (ReadsSlots d'.storage) (ReadsSlots d'.storage) r r' := by
  apply alike_bind (allocVariant_alike related)
  intro _ _ d1 e1 related1 later1 _
  apply alike_bind (child _ _ _ _ related1 (reads_null _))
  intro v w d2 e2 related2 later2 value
  have slots := ((reads.grows later1).grows later2).addElement value
  exact parseSeparator_alike cstring related2 (by decide) slots

omit cstring in
theorem parseMemberValue_alike (child : SameValues payload len values values')
    (related : (sideBySide payload len).inv d e) (room : Room d.storage)
    (reads : ReadsSlots d.storage c c') :
    Alike (sideBySide payload len) (parseMemberValue values c) d (parseMemberValue values' c') e
      fun c c' d' _ => ReadsSlots d'.storage c c' := by
  apply alike_bind (str_alike related room)
  rintro key _ d1 e1 related1 later1 ⟨rfl, room⟩
  have slots := reads.grows later1
  apply alike_bind (Q := fun v w d e => d1 = v ∧ e1 = w ∧ d1 = d ∧ e1 = e)
    (alike_get related1 ⟨rfl, rfl, rfl, rfl⟩)
  intro _ _ _ _ _ _ current
  obtain ⟨rfl, rfl, rfl, rfl⟩ := current
  have plain : c'.getSlot (Storage.bytes e1.storage)
        (Storage.bytes e1.storage (d1.storage.read key)) =
      c.getSlot (Storage.bytes d1.storage) (Storage.bytes d1.storage key) :=
    slots.getSlot _
  rw [plain]
  cases c.getSlot (Storage.bytes d1.storage) (Storage.bytes d1.storage key) with
  | some i =>
    apply alike_bind (child _ _ _ _ related1 (slots.data i))
    intro v w d2 e2 related2 later2 value
    exact alike_pure related2 ((slots.grows later2).setData i value)
  | none =>
    apply alike_bind (save_alike related1 room)
    rintro key _ d2 e2 related2 later2 ⟨rfl, saved⟩
    apply alike_bind (allocVariant_alike related2)
    intro _ _ d3 e3 related3 later3 _
    apply alike_bind (child _ _ _ _ related3 (reads_null _))
    intro v w d4 e4 related4 later4 value
    have all := ((slots.grows later2).grows later3).grows later4
    have later := (sideBySide payload len).trans later3 later4
    have text := saved.read later
    have added := all.addMember (saved.grows later) value
    rw [text] at added
    exact alike_pure related4 added

theorem parseMember_alike (child : SameValues payload len values values')
    (related : (sideBySide payload len).inv d e) (reads : ReadsSlots d.storage c c') :
    Alike (sideBySide payload len) (parseMember bound values c) d (parseMember bound values' c') e
      fun r r' d' _ => Sum.LiftRel (ReadsSlots d'.storage) (ReadsSlots d'.storage) r r' := by
  apply alike_bind (parseKey_alike cstring related)
  intro _ _ d1 e1 related1 later1 _
  apply alike_bind (skipSpacesAndComments_alike cstring related1)
  intro _ _ d2 e2 related2 later2 _
  apply alike_bind (eat_alike cstring related2 (c := ch ':') (by decide))
  rintro colon _ d3 e3 related3 later3 ⟨rfl, room⟩
  apply alike_ite Iff.rfl
  · intro eaten
    have slots := ((reads.grows later1).grows later2).grows later3
    apply alike_bind (parseMemberValue_alike child related3 (room eaten) slots)
    intro object object' d4 e4 related4 later4 slots
    apply alike_bind (parseSeparator_alike cstring related4 (by decide) slots)
    intro r r' d5 e5 related5 later5 separated
    cases separated with
    | inl slots =>
      apply alike_bind (skipSpacesAndComments_alike cstring related5)
      intro _ _ d6 e6 related6 later6 _
      exact alike_pure related6 (.inl (slots.grows later6))
    | inr slots => exact alike_pure related5 (.inr slots)
  · intro _
    exact alike_throw related3

/-- `[` and `{` differ in the parser of their entries only. -/
theorem collection_alike {close : Char} (letter : ch close ≠ 0)
    {wrap : CollectionData Linked → VariantData Linked}
    {wrap' : CollectionData Bytes → VariantData Bytes}
    (wrapped : ∀ {b c c'}, ReadsSlots b c c' → Reads b (wrap c) (wrap' c'))
    {entry : CollectionData Linked → Parser Buffer (CollectionData Linked ⊕ CollectionData Linked)}
    {entry' : CollectionData Bytes → Parser Text (CollectionData Bytes ⊕ CollectionData Bytes)}
    (step : ∀ {d e c c'}, (sideBySide payload len).inv d e → ReadsSlots d.storage c c' →
      Alike (sideBySide payload len) (entry c) d (entry' c') e fun r r' d' _ =>
        Sum.LiftRel (ReadsSlots d'.storage) (ReadsSlots d'.storage) r r')
    (related : (sideBySide payload len).inv d e) {a : BitVec 8} (loaded : Loaded a d.storage)
    (more : a ≠ 0) :
    Alike (sideBySide payload len)
      (do
        move
        skipSpacesAndComments bound
        let closed ← eat (ch close)
        if closed then return wrap .empty
        else do
          let entries ← loop entry bound .empty
          return wrap entries) d
      (do
        move
        skipSpacesAndComments bound
        let closed ← eat (ch close)
        if closed then return wrap' .empty
        else do
          let entries ← loop entry' bound .empty
          return wrap' entries) e
      fun v w d' _ => Reads d'.storage v w := by
  apply alike_bind (move_alike cstring related loaded more)
  intro _ _ d1 e1 related1 _ _
  apply alike_bind (skipSpacesAndComments_alike cstring related1)
  intro _ _ d2 e2 related2 _ _
  apply alike_bind (eat_alike cstring related2 letter)
  rintro closed _ d3 e3 related3 _ ⟨rfl, _⟩
  apply alike_ite Iff.rfl
  · intro _
    exact alike_pure related3 (wrapped ReadsSlots.empty)
  · intro _
    apply alike_bind (alike_loop (s := d3) (Q := fun c c' u _ => ReadsSlots u.storage c c')
      (fun c c' u _ => ReadsSlots u.storage c c') (fun c c' u v related _ => step related) bound
      .empty .empty related3 ((sideBySide payload len).refl d3) ReadsSlots.empty)
    intro entries entries' d4 e4 related4 _ slots
    exact alike_pure related4 (wrapped slots)

theorem parseValue_alike {nested : Nested Buffer Linked} {nested' : Nested Text Bytes}
    (child : Option.Rel (SameValues payload len) nested nested') :
    SameValues payload len (parseValue bound nested) (parseValue bound nested') := by
  intro d e v w related reads
  apply alike_bind (skipSpacesAndComments_alike cstring related)
  intro _ _ d1 e1 related1 later1 _
  apply alike_bind (current_alike cstring related1)
  rintro c _ d2 e2 related2 later2 ⟨rfl, loaded, _, pos⟩
  apply alike_ite Iff.rfl
  · rintro rfl
    cases child with
    | none => exact alike_throw related2
    | some child =>
      exact collection_alike cstring (by decide) ReadsSlots.array
        (fun related slots => parseElement_alike cstring child related slots) related2 loaded
        (by decide)
  intro _
  apply alike_ite Iff.rfl
  · rintro rfl
    cases child with
    | none => exact alike_throw related2
    | some child =>
      exact collection_alike cstring (by decide) ReadsSlots.object
        (fun related slots => parseMember_alike cstring child related slots) related2 loaded
        (by decide)
  intro _
  apply alike_ite Iff.rfl
  · intro quote
    rw [loaded.char related2] at quote
    exact parseStringValue_alike cstring related2 quote
  · intro _
    exact parseNumericValue_alike cstring related2 ((reads.grows later1).grows later2)

theorem parseVariant_alike (nestingLimit : Nat) :
    SameValues payload len (parseVariant bound nestingLimit) (parseVariant bound nestingLimit) := by
  induction nestingLimit with
  | zero => exact parseValue_alike cstring .none
  | succ nestingLimit ih => exact parseValue_alike cstring (.some ih)

omit cstring in
theorem isEnclosed_map {f : Linked → Bytes} (v : VariantData Linked) :
    (v.map f).isEnclosed = v.isEnclosed := by
  cases v <;> rfl

theorem parse_alike (nestingLimit : Nat) (related : (sideBySide payload len).inv d e) :
    Alike (sideBySide payload len) (parse bound nestingLimit) d (parse bound nestingLimit) e
      fun v w d' _ => Reads d'.storage v w := by
  apply alike_bind (parseVariant_alike cstring nestingLimit _ _ _ _ related (reads_null _))
  intro v w d1 e1 related1 _ reads
  apply alike_bind (last_alike related1)
  rintro c _ _ e2 related2 _ ⟨rfl, rfl⟩
  have enclosed : w.isEnclosed = v.isEnclosed := by
    rw [← reads.same, isEnclosed_map]
  apply alike_ite (by rw [enclosed])
  · intro _
    exact alike_throw related2
  · intro _
    exact alike_pure related2 reads

end Values

/-- `deserializeJson` as it runs: in the payload itself. -/
def inPlace (payload : Nat → BitVec 8) (bound : Nat) :
    EStateM.Result (Option Sketch.DeserializationError) (Deserializer Buffer)
      (VariantData Linked) :=
  parse bound DEFAULT_NESTING_LIMIT (.start { memory := payload : Buffer })

section Payload

variable {memory : Nat → BitVec 8}

/-- The C string of a payload that stands in memory with a null character after it. -/
theorem cstring_of_payload (payload : Bytes)
    (frame : ∀ i ≤ payload.length, memory i = payload.getD i 0) :
    CString memory (c_str payload).length ∧
      contents memory (c_str payload).length = c_str payload := by
  induction payload generalizing memory with
  | nil => exact ⟨⟨fun i inside => absurd inside (Nat.not_lt_zero i), frame 0 le_rfl⟩, rfl⟩
  | cons c rest ih =>
    have first : memory 0 = c := frame 0 (Nat.zero_le _)
    by_cases null : c = 0
    · have empty : c_str (c :: rest) = [] := by
        rw [c_str, List.takeWhile_cons_of_neg (by simp [null])]
      rw [empty]
      exact ⟨⟨fun i inside => absurd inside (Nat.not_lt_zero i), first.trans null⟩, rfl⟩
    · have more : c_str (c :: rest) = c :: c_str rest := by
        rw [c_str, List.takeWhile_cons_of_pos (by simpa using null)]
        rfl
      obtain ⟨cstring, text⟩ := @ih (fun i => memory (i + 1))
        (fun i within => frame (i + 1) (Nat.succ_le_succ within))
      rw [more, List.length_cons]
      refine ⟨⟨?_, cstring.terminator⟩, ?_⟩
      · intro i inside
        cases i with
        | zero => exact first ▸ null
        | succ i => exact cstring.text i (Nat.lt_of_succ_lt_succ inside)
      · rw [contents, List.range_succ_eq_map, List.map_cons, List.map_map, first]
        exact congrArg (c :: ·) text

theorem start_related (memory : Nat → BitVec 8) (len : Nat) :
    (sideBySide memory len).inv (.start { memory := memory : Buffer })
      (.start { unread := contents memory len : Text }) := by
  refine ⟨?_, rfl, rfl⟩
  exact {
    ends := Nat.zero_le _
    place := fun loaded => absurd loaded Bool.false_ne_true
    unread := rfl
    ahead := fun _ _ => rfl
    latch := fun loaded => absurd loaded Bool.false_ne_true
    lastRead := rfl
    start := le_rfl
    behind := le_rfl
    string := rfl }

/-- The parser that works in the payload answers what the plain one answers, its
strings read in the buffer as they are left. It looks at nothing behind the first
null character and writes nothing there or behind. -/
structure ParsesInPlace (memory : Nat → BitVec 8) (payload : Bytes) : Prop where
  ok : ∀ document d, inPlace memory ((c_str payload).length + 1) = .ok document d →
    deserializeJson payload = .ok (document.map d.storage.read) ∧
      Safe memory (c_str payload).length d.storage
  error : ∀ code d, inPlace memory ((c_str payload).length + 1) = .error (some code) d →
    deserializeJson payload = .error code ∧ Safe memory (c_str payload).length d.storage
  ends : ∀ d, inPlace memory ((c_str payload).length + 1) ≠ .error none d

theorem deserializeJson_inPlace (memory : Nat → BitVec 8) (payload : Bytes)
    (frame : ∀ i ≤ payload.length, memory i = payload.getD i 0) :
    ParsesInPlace memory payload := by
  obtain ⟨cstring, text⟩ := cstring_of_payload payload frame
  have run : Alike (sideBySide memory (c_str payload).length)
      (parse ((c_str payload).length + 1) DEFAULT_NESTING_LIMIT) _
      (parse ((c_str payload).length + 1) DEFAULT_NESTING_LIMIT) _ _ :=
    parse_alike cstring DEFAULT_NESTING_LIMIT (start_related memory _)
  rw [text] at run
  have plain : some (deserializeJson payload) = readText payload :=
    Option.some_get (readText_isSome payload)
  unfold readText at plain
  constructor
  · intro document d here
    obtain ⟨w, e, there, related, reads⟩ := alike_ok run here
    rw [there] at plain
    rw [reads.same]
    exact ⟨Option.some.inj plain, related.1.safe⟩
  · intro code d here
    obtain ⟨e, there, safe⟩ := alike_error run here
    rw [there] at plain
    exact ⟨Option.some.inj plain, safe⟩
  · intro d here
    obtain ⟨e, there, _⟩ := alike_error run here
    rw [there] at plain
    exact absurd plain (Option.some_ne_none _)

theorem deserializeJson_inPlace_on :
    ParsesInPlace (fun i => (ascii "{estado:on}").getD i 0) (ascii "{estado:on}") :=
  deserializeJson_inPlace _ (ascii "{estado:on}") (fun _ _ => rfl)

end Payload

end Chimenea.Json
