import Chimenea.Json.Bounds

/-!
What runs on the device: the reader and `StringMover` over one buffer, the payload
of the frame. The strings of the document are written over the text they are
read from. `Text` is what this has to look like from outside.
-/

namespace Chimenea.Json
open Arduino Machine

/-- A linked `String`: a place in the buffer. -/
structure Linked where
  data : Nat
  size : Nat
  deriving DecidableEq, Repr

/-- The payload, the `Reader` and the `Latch`, and the `StringMover`. The source
leaves the latch's character uninitialised; it is not asked for before the first load. -/
structure Buffer where
  memory : Nat → BitVec 8
  ptr : Nat := 0
  current : BitVec 8 := 0
  loaded : Bool := false
  writePtr : Nat := 0
  startPtr : Nat := 0

namespace Buffer

/-- The bytes of a string as the buffer has them now. -/
def read (b : Buffer) (s : Linked) : Bytes := (List.range s.size).map fun i => b.memory (s.data + i)

def write (b : Buffer) (c : BitVec 8) : Buffer :=
  { b with memory := Function.update b.memory b.writePtr c }

/-- `StringMover::str`, which also writes the terminator. -/
def string (b : Buffer) : Linked := ⟨b.startPtr, b.writePtr - b.startPtr⟩

instance : Storage Buffer Linked where
  current b :=
    if b.loaded = true then (b.current, b)
    else (b.memory b.ptr, { b with ptr := b.ptr + 1, current := b.memory b.ptr, loaded := true })
  move b := { b with loaded := false }
  last b := b.current
  startString b := { b with startPtr := b.writePtr }
  append c b := { b.write c with writePtr := b.writePtr + 1 }
  str b := (b.string, b.write 0)
  save b := (b.string, { b.write 0 with writePtr := b.writePtr + 1 })
  bytes b s := b.read s

/-- The place of the next character: a loaded one is not taken yet. -/
def pos (b : Buffer) : Nat := if b.loaded = true then b.ptr - 1 else b.ptr

end Buffer

/-- `len` is the place of the first null character. -/
structure CString (memory : Nat → BitVec 8) (len : Nat) : Prop where
  text : ∀ i < len, memory i ≠ 0
  terminator : memory len = 0

def contents (memory : Nat → BitVec 8) (len : Nat) : Bytes := (List.range len).map memory

section Fits

variable {payload : Nat → BitVec 8} {len : Nat}

/-- The buffer and the plain text show the parser the same: what is ahead of the
reader is still the payload, and the strings are behind it. -/
structure Fits (payload : Nat → BitVec 8) (len : Nat) (b : Buffer) (t : Text) : Prop where
  ends : b.pos ≤ len
  place : b.loaded = true → 0 < b.ptr
  unread : t.unread = (contents payload len).drop b.pos
  ahead : ∀ i, b.pos ≤ i → b.memory i = payload i
  latch : b.loaded = true → b.current = payload b.pos
  lastRead : t.lastRead = b.current
  start : b.startPtr ≤ b.writePtr
  behind : b.writePtr ≤ b.pos
  string : t.string = b.read b.string

/-- Nothing below the write pointer changes any more. -/
def Grows (b b' : Buffer) : Prop :=
  b.writePtr ≤ b'.writePtr ∧ ∀ i < b.writePtr, b'.memory i = b.memory i

/-- The reader has gone no further than the terminator, and from there on the
memory is as it was. -/
def Safe (payload : Nat → BitVec 8) (len : Nat) (b : Buffer) : Prop :=
  b.ptr ≤ len + 1 ∧ ∀ i, len ≤ i → b.memory i = payload i

theorem Fits.safe {b : Buffer} {t : Text} (fits : Fits payload len b t) :
    Safe payload len b := by
  have ends := fits.ends
  constructor
  · unfold Buffer.pos at ends
    split_ifs at ends with loaded
    · omega
    · omega
  · intro i beyond
    exact fits.ahead i (ends.trans beyond)

/-- The two deserializers side by side. -/
def sideBySide (payload : Nat → BitVec 8) (len : Nat) :
    Frame (Deserializer Buffer) (Deserializer Text) where
  inv d e := Fits payload len d.storage e.storage ∧ d.foundSomething = e.foundSomething ∧
    d.slots = e.slots
  le d d' := Grows d.storage d'.storage
  safe d := Safe payload len d.storage
  refl _ := ⟨le_rfl, fun _ _ => rfl⟩
  trans first second := ⟨first.1.trans second.1, fun i below =>
    (second.2 i (lt_of_lt_of_le below first.1)).trans (first.2 i below)⟩
  safe_of_inv related := related.1.safe

theorem contents_head (cstring : CString payload len) {i : Nat} (within : i ≤ len) :
    ((contents payload len).drop i).headD 0 = payload i := by
  rw [List.headD_eq_head?_getD, List.head?_drop, contents, List.getElem?_map]
  rcases Nat.lt_or_eq_of_le within with inside | rfl
  · rw [List.getElem?_range inside]
    rfl
  · rw [List.getElem?_eq_none (by rw [List.length_range])]
    exact cstring.terminator.symm

theorem Fits.head {b : Buffer} {t : Text} (cstring : CString payload len)
    (fits : Fits payload len b t) : t.unread.headD 0 = payload b.pos := by
  rw [fits.unread]
  exact contents_head cstring fits.ends

/-- A string that lies below the write pointer, with its terminator. -/
def Saved (b : Buffer) (s : Linked) : Prop :=
  s.data + s.size < b.writePtr ∧ b.memory (s.data + s.size) = 0

theorem Saved.grows {b b' : Buffer} {s : Linked} (saved : Saved b s) (grows : Grows b b') :
    Saved b' s :=
  ⟨lt_of_lt_of_le saved.1 grows.1, (grows.2 _ saved.1).trans saved.2⟩

theorem Saved.read {b b' : Buffer} {s : Linked} (saved : Saved b s) (grows : Grows b b') :
    b'.read s = b.read s := by
  apply List.map_congr_left
  intro i member
  have inside := List.mem_range.1 member
  have below := saved.1
  exact grows.2 _ (by omega)

/-- The document in the buffer reads as the plain one, and goes on to do so. -/
structure Reads (b : Buffer) (v : VariantData Linked) (w : VariantData Bytes) : Prop where
  saved : v.All (Saved b)
  same : v.map b.read = w

theorem Reads.grows {b b' : Buffer} {v : VariantData Linked} {w : VariantData Bytes}
    (reads : Reads b v w) (grows : Grows b b') : Reads b' v w where
  saved := v.all_mono (fun _ saved => saved.grows grows) reads.saved
  same := (v.map_congr (fun _ saved => Saved.read saved grows) reads.saved).trans reads.same

/-- The same of the slots of a collection. -/
structure ReadsSlots (b : Buffer) (c : CollectionData Linked) (c' : CollectionData Bytes) :
    Prop where
  saved : c.All (Saved b)
  same : c.map b.read = c'

namespace ReadsSlots

variable {b b' : Buffer} {c : CollectionData Linked} {c' : CollectionData Bytes}

theorem grows (reads : ReadsSlots b c c') (grows : Grows b b') : ReadsSlots b' c c' where
  saved := c.all_mono (fun _ saved => saved.grows grows) reads.saved
  same := (c.map_congr (fun _ saved => Saved.read saved grows) reads.saved).trans reads.same

theorem empty : ReadsSlots b .empty .empty := ⟨trivial, rfl⟩

theorem array (reads : ReadsSlots b c c') : Reads b (.array c) (.array c') :=
  ⟨reads.saved, congrArg VariantData.array reads.same⟩

theorem object (reads : ReadsSlots b c c') : Reads b (.object c) (.object c') :=
  ⟨reads.saved, congrArg VariantData.object reads.same⟩

theorem addElement {v : VariantData Linked} {w : VariantData Bytes} (reads : ReadsSlots b c c')
    (value : Reads b v w) : ReadsSlots b (c.addSlot none v) (c'.addSlot none w) where
  saved := CollectionData.all_addSlot (fun _ member => nomatch member) value.saved c reads.saved
  same := by
    rw [CollectionData.map_addSlot, reads.same, value.same]
    rfl

theorem addMember {v : VariantData Linked} {w : VariantData Bytes} {key : Linked}
    (reads : ReadsSlots b c c') (saved : Saved b key) (value : Reads b v w) :
    ReadsSlots b (c.addSlot (some key) v) (c'.addSlot (some (b.read key)) w) where
  saved := by
    apply CollectionData.all_addSlot _ value.saved c reads.saved
    intro k member
    cases member
    exact saved
  same := by
    rw [CollectionData.map_addSlot, reads.same, value.same]
    rfl

theorem data (reads : ReadsSlots b c c') (i : Nat) : Reads b (c.data i) (c'.data i) where
  saved := CollectionData.all_data c i reads.saved
  same := by rw [← CollectionData.map_data, reads.same]

theorem setData {v : VariantData Linked} {w : VariantData Bytes} (reads : ReadsSlots b c c')
    (i : Nat) (value : Reads b v w) : ReadsSlots b (c.setData i v) (c'.setData i w) where
  saved := CollectionData.all_setData value.saved c i reads.saved
  same := by rw [CollectionData.map_setData, reads.same, value.same]

/-- A key is found in the buffer where it is found in the plain document. -/
theorem getSlot (reads : ReadsSlots b c c') (key : Bytes) :
    c'.getSlot (fun s => s) key = c.getSlot b.read key := by
  rw [← reads.same, CollectionData.map_getSlot]

end ReadsSlots

end Fits

section Operations

variable {payload : Nat → BitVec 8} {len : Nat} {d : Deserializer Buffer} {e : Deserializer Text}

/-- The parser has seen the next character. -/
def Loaded (c : BitVec 8) (b : Buffer) : Prop := b.loaded = true ∧ b.current = c

/-- There is room for a character between what is written and what is read. -/
def Room (b : Buffer) : Prop := b.writePtr < b.pos

theorem Fits.load {b : Buffer} {t : Text} (cstring : CString payload len)
    (fits : Fits payload len b t) : Fits payload len (Storage.current b).2 (Storage.current t).2 ∧
      (Storage.current b).1 = (Storage.current t).1 ∧
      Loaded (Storage.current b).1 (Storage.current b).2 ∧
      (Storage.current b).2.writePtr = b.writePtr ∧ (Storage.current b).2.pos = b.pos ∧
      (Storage.current b).2.memory = b.memory := by
  have head := fits.head cstring
  by_cases loaded : b.loaded = true
  · have here : Storage.current b = (b.current, b) := if_pos loaded
    rw [here]
    have seen := fits.latch loaded
    exact ⟨{ fits with lastRead := head.trans seen.symm }, seen.trans head.symm, ⟨loaded, rfl⟩,
      rfl, rfl, rfl⟩
  · have here : Storage.current b = (b.memory b.ptr,
        { b with ptr := b.ptr + 1, current := b.memory b.ptr, loaded := true }) := if_neg loaded
    have pos : b.pos = b.ptr := if_neg loaded
    have next : b.memory b.ptr = payload b.pos := pos ▸ fits.ahead b.pos le_rfl
    have same : (Storage.current b).2.pos = b.pos := by
      rw [here, pos]
      rfl
    refine ⟨?_, ?_, ?_, ?_, same, ?_⟩
    · constructor
      · exact same ▸ fits.ends
      · intro _
        rw [here]
        exact Nat.succ_pos _
      · exact same ▸ fits.unread
      · intro i beyond
        rw [same] at beyond
        rw [here]
        exact fits.ahead i beyond
      · intro _
        rw [same, here]
        exact next
      · rw [here]
        exact head.trans next.symm
      · rw [here]
        exact fits.start
      · rw [same, here]
        exact fits.behind
      · rw [here]
        exact fits.string
    · rw [here]
      exact next.trans head.symm
    · rw [here]
      exact ⟨rfl, rfl⟩
    · rw [here]
    · rw [here]

theorem Fits.move {b : Buffer} {t : Text} {c : BitVec 8} (cstring : CString payload len)
    (fits : Fits payload len b t) (loaded : Loaded c b) (more : c ≠ 0) :
    Fits payload len (Storage.move b) (Storage.move t) ∧
      (Storage.move b).pos = b.pos + 1 := by
  have here : b.pos = b.ptr - 1 := if_pos loaded.1
  have taken : (Storage.move b).pos = b.ptr := rfl
  have place := fits.place loaded.1
  have next : (Storage.move b).pos = b.pos + 1 := by omega
  have inside : b.pos ≠ len := by
    intro terminator
    have null := cstring.terminator
    rw [← terminator, ← fits.latch loaded.1, loaded.2] at null
    exact more null
  have ends := fits.ends
  have behind := fits.behind
  refine ⟨?_, next⟩
  constructor
  · omega
  · exact fun unloaded => absurd unloaded Bool.false_ne_true
  · rw [next, ← List.tail_drop, ← fits.unread]
    rfl
  · intro i beyond
    exact fits.ahead i (by omega)
  · exact fun unloaded => absurd unloaded Bool.false_ne_true
  · exact fits.lastRead
  · exact fits.start
  · rw [next]
    exact behind.trans (Nat.le_succ _)
  · exact fits.string

theorem Buffer.write_other (b : Buffer) (c : BitVec 8) {i : Nat} (other : i ≠ b.writePtr) :
    (b.write c).memory i = b.memory i := by
  change Function.update b.memory b.writePtr c i = _
  rw [Function.update_of_ne other]

theorem Buffer.write_here (b : Buffer) (c : BitVec 8) :
    (b.write c).memory b.writePtr = c := by
  change Function.update b.memory b.writePtr c b.writePtr = c
  rw [Function.update_self]

/-- Writing at the write pointer leaves the string in front of it. -/
theorem Buffer.read_write (b : Buffer) (c : BitVec 8) (start : b.startPtr ≤ b.writePtr) :
    (b.write c).read b.string = b.read b.string := by
  apply List.map_congr_left
  intro i member
  have inside : i < b.writePtr - b.startPtr := List.mem_range.1 member
  exact b.write_other c (show b.startPtr + i ≠ b.writePtr by omega)

theorem Buffer.read_append (b : Buffer) (c : BitVec 8) (start : b.startPtr ≤ b.writePtr) :
    (Storage.append c b).read (Storage.append c b).string = b.read b.string ++ [c] := by
  have longer : (Storage.append c b).string = ⟨b.startPtr, b.writePtr - b.startPtr + 1⟩ := by
    have size : b.writePtr + 1 - b.startPtr = b.writePtr - b.startPtr + 1 := by omega
    exact congrArg (Linked.mk b.startPtr) size
  have here : b.startPtr + (b.writePtr - b.startPtr) = b.writePtr := by omega
  rw [longer, Buffer.read, List.range_succ, List.map_append, ← b.read_write c start]
  congr 1
  change [(b.write c).memory (b.startPtr + (b.writePtr - b.startPtr))] = [c]
  rw [here, b.write_here]

theorem Buffer.write_grows (b : Buffer) (c : BitVec 8) (n : Nat) :
    Grows b { b.write c with writePtr := b.writePtr + n } :=
  ⟨Nat.le_add_right _ _, fun _ below => b.write_other c (Nat.ne_of_lt below)⟩

theorem Fits.append {b : Buffer} {t : Text} (c : BitVec 8) (fits : Fits payload len b t)
    (room : Room b) : Fits payload len (Storage.append c b) (Storage.append c t) := by
  have start := fits.start
  constructor
  · exact fits.ends
  · exact fits.place
  · exact fits.unread
  · intro i beyond
    have ahead : b.pos ≤ i := beyond
    have below : b.writePtr < b.pos := room
    exact (b.write_other c (by omega)).trans (fits.ahead i ahead)
  · exact fits.latch
  · exact fits.lastRead
  · exact start.trans (Nat.le_succ _)
  · exact room
  · rw [b.read_append c start, ← fits.string]
    rfl

theorem Fits.terminate {b : Buffer} {t : Text} (fits : Fits payload len b t) (room : Room b) :
    Fits payload len (b.write 0) t where
  ends := fits.ends
  place := fits.place
  unread := fits.unread
  ahead i beyond := by
    have ahead : b.pos ≤ i := beyond
    have below : b.writePtr < b.pos := room
    exact (b.write_other 0 (by omega)).trans (fits.ahead i ahead)
  latch := fits.latch
  lastRead := fits.lastRead
  start := fits.start
  behind := fits.behind
  string := fits.string.trans (b.read_write 0 fits.start).symm

theorem save_saved {b : Buffer} (start : b.startPtr ≤ b.writePtr) :
    Saved (Storage.save b).2 b.string := by
  have here : b.string.data + b.string.size = b.writePtr := by
    change b.startPtr + (b.writePtr - b.startPtr) = b.writePtr
    omega
  constructor
  · rw [here]
    exact Nat.lt_succ_self _
  · rw [here]
    exact b.write_here 0

end Operations

end Chimenea.Json
