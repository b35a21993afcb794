import Chimenea.Json.Deserializer

/-!
The text of a document: `JsonSerializer` and the `TextFormatter` it writes with.
-/

namespace Chimenea.Json
open Arduino

/-- The table without its first pair: a solidus is not escaped. -/
def escapeChar (c : BitVec 8) : BitVec 8 :=
  match escapeTable.tail.find? (fun p => ch p.2 == c) with
  | some p => ch p.1
  | none => 0

def writeChar (c : BitVec 8) : Bytes :=
  if escapeChar c ≠ 0 then [ch '\\', escapeChar c]
  else if c ≠ 0 then [c]
  else ascii "\\u0000"

def writeString (value : Bytes) : Bytes := ch '"' :: (value.flatMap writeChar ++ [ch '"'])

/-- The digits from the last one on, in front of those that are written; twenty are enough for
64 bits. -/
def writeDigits : Nat → Nat → Bytes → Bytes
  | 0, _, written => written
  | n + 1, value, written =>
    let written := BitVec.ofNat 8 (value % 10 + '0'.toNat) :: written
    if value / 10 = 0 then written else writeDigits n (value / 10) written

def writeUnsigned (value : BitVec 64) : Bytes := writeDigits 20 value.toNat []

def writeSigned (value : BitVec 64) : Bytes :=
  if value.toInt < 0 then ch '-' :: writeUnsigned (~~~ value + 1) else writeUnsigned value

section Serializer

/- How `writeFloat` writes the numbers that are no integers. -/
variable (writeFloat : Number → Bytes)

def writeNumber : Number → Bytes
  | .unsignedInteger value => writeUnsigned value
  | .signedInteger value => writeSigned value
  | n => writeFloat n

def comma : CollectionData Bytes → Bytes
  | .empty => []
  | .slot _ _ _ => [ch ',']

mutual

def VariantData.write : VariantData Bytes → Bytes
  | .null => ascii "null"
  | .boolean true => ascii "true"
  | .boolean false => ascii "false"
  | .number n => writeNumber writeFloat n
  | .string s => writeString s
  | .array elements => ch '[' :: (elements.writeElements ++ [ch ']'])
  | .object members => ch '{' :: (members.writeMembers ++ [ch '}'])

def CollectionData.writeElements : CollectionData Bytes → Bytes
  | .empty => []
  | .slot _ data next => data.write ++ (comma next ++ next.writeElements)

/-- A key is written as a C string. -/
def CollectionData.writeMembers : CollectionData Bytes → Bytes
  | .empty => []
  | .slot key data next =>
    writeString (c_str (key.getD [])) ++ (ch ':' :: (data.write ++ (comma next ++ next.writeMembers)))

end

/-- `serializeJson`. -/
def serializeJson (document : VariantData Bytes) : Bytes := document.write writeFloat

end Serializer

section Integers

theorem digit_written : ∀ k < 10, isdigit (BitVec.ofNat 8 (k + '0'.toNat)) = true ∧
    digit (BitVec.ofNat 8 (k + '0'.toNat)) = k := by decide

theorem readMantissa_digit {m k : Nat} (back : Bytes) (decimal : k < 10)
    (fits : m * 10 + k ≤ maxUint) :
    readMantissa m (BitVec.ofNat 8 (k + '0'.toNat) :: back) = readMantissa (m * 10 + k) back := by
  obtain ⟨known, value⟩ := digit_written k decimal
  have small : ¬ m > maxUint / 10 := by
    rw [maxUint] at fits ⊢
    omega
  have room : ¬ m * 10 > maxUint - k := by omega
  rw [readMantissa, if_pos known, if_neg small, value, if_neg room]

/-- The digits of a value are read as the value, as long as the mantissa has room for it. -/
theorem readMantissa_writeDigits {n value : Nat} (written : Bytes) (enough : value < 10 ^ n)
    (room : value ≤ maxUint) (positive : 0 < n) :
    readMantissa 0 (writeDigits n value written) = readMantissa value written := by
  induction n generalizing value written with
  | zero => exact absurd positive (Nat.lt_irrefl _)
  | succ n ih =>
    have last : value % 10 < 10 := Nat.mod_lt _ (by decide)
    rw [writeDigits]
    split_ifs with first
    · have whole : 0 * 10 + value % 10 = value := by omega
      rw [readMantissa_digit written last (by omega), whole]
    · have fewer : value / 10 < 10 ^ n := by
        rw [Nat.pow_succ] at enough
        omega
      have more : 0 < n := by
        by_contra none_
        have zero : n = 0 := by omega
        rw [zero] at fewer
        omega
      have whole : value / 10 * 10 + value % 10 = value := by omega
      rw [ih _ fewer (by omega) more, readMantissa_digit written last (by omega), whole]

/-- A number starts with a digit, and has no more than there is room for. -/
theorem writeDigits_shape (n value : Nat) (written : Bytes) (positive : 0 < n) :
    ∃ front, writeDigits n value written = front ++ written ∧ front ≠ [] ∧ front.length ≤ n ∧
      ∀ c ∈ front, isdigit c = true := by
  induction n generalizing value written with
  | zero => exact absurd positive (Nat.lt_irrefl _)
  | succ n ih =>
    have known : isdigit (BitVec.ofNat 8 (value % 10 + '0'.toNat)) = true :=
      (digit_written _ (Nat.mod_lt _ (by decide))).1
    have one : ∃ front, BitVec.ofNat 8 (value % 10 + '0'.toNat) :: written = front ++ written ∧
        front ≠ [] ∧ front.length ≤ n + 1 ∧ ∀ c ∈ front, isdigit c = true :=
      ⟨[_], rfl, by simp, by simp, by simpa using known⟩
    rw [writeDigits]
    split_ifs with first
    · exact one
    cases n with
    | zero => exact one
    | succ n =>
      obtain ⟨front, shape, _, few, digits⟩ :=
        ih (value / 10) (BitVec.ofNat 8 (value % 10 + '0'.toNat) :: written) (Nat.succ_pos n)
      refine ⟨front ++ [BitVec.ofNat 8 (value % 10 + '0'.toNat)], ?_, by simp, ?_, ?_⟩
      · rw [shape, List.append_assoc, List.singleton_append]
      · rw [List.length_append, List.length_singleton]
        omega
      · intro c member
        rcases List.mem_append.1 member with inside | last
        · exact digits c inside
        · rw [List.mem_singleton.1 last]
          exact known

theorem writeUnsigned_shape (value : BitVec 64) : writeUnsigned value ≠ [] ∧
    (writeUnsigned value).length ≤ 20 ∧ ∀ c ∈ writeUnsigned value, isdigit c = true := by
  obtain ⟨front, shape, some_, few, digits⟩ :=
    writeDigits_shape 20 value.toNat [] (by decide)
  rw [List.append_nil] at shape
  rw [writeUnsigned, shape]
  exact ⟨some_, few, digits⟩

theorem readMantissa_writeUnsigned (value : BitVec 64) :
    readMantissa 0 (writeUnsigned value) = (value.toNat, []) := by
  have small := value.isLt
  have room : value.toNat ≤ maxUint := by
    rw [maxUint]
    omega
  rw [writeUnsigned, readMantissa_writeDigits [] (by omega) room (by decide), readMantissa]

theorem isdigit_apart {c : BitVec 8} (known : isdigit c = true) : c ≠ ch '-' ∧ c ≠ ch '+' := by
  constructor <;>
  · intro same
    rw [same] at known
    exact absurd known (by decide)

theorem parseNumber_writeUnsigned (value : BitVec 64) :
    parseNumber (writeUnsigned value) = some (.unsignedInteger value) := by
  obtain ⟨some_, _, digits⟩ := writeUnsigned_shape value
  obtain ⟨c, rest, shape⟩ := List.exists_cons_of_ne_nil some_
  have known := digits c (shape ▸ List.mem_cons_self ..)
  have apart := isdigit_apart known
  have sign : readSign (writeUnsigned value) = (false, writeUnsigned value) := by
    rw [shape, readSign, if_neg apart.1, if_neg apart.2]
  have starts : ¬ (isdigit ((writeUnsigned value).headD 0) = false ∧
      (writeUnsigned value).headD 0 ≠ ch '.') := by
    rw [shape, List.headD_cons, known]
    simp
  rw [parseNumber, sign]
  dsimp only
  rw [if_neg starts, readMantissa_writeUnsigned]
  simp

theorem parseNumber_writeNegative {value : BitVec 64} (negative : value.toInt < 0) :
    parseNumber (ch '-' :: writeUnsigned (~~~ value + 1)) = some (.signedInteger value) := by
  obtain ⟨some_, _, digits⟩ := writeUnsigned_shape (~~~ value + 1)
  obtain ⟨c, rest, shape⟩ := List.exists_cons_of_ne_nil some_
  have known := digits c (shape ▸ List.mem_cons_self ..)
  have sign : readSign (ch '-' :: writeUnsigned (~~~ value + 1)) =
      (true, writeUnsigned (~~~ value + 1)) := by
    rw [readSign, if_pos rfl]
  have starts : ¬ (isdigit ((writeUnsigned (~~~ value + 1)).headD 0) = false ∧
      (writeUnsigned (~~~ value + 1)).headD 0 ≠ ch '.') := by
    rw [shape, List.headD_cons, known]
    simp
  have opposite (v : BitVec 64) : ~~~ v + 1 = -v := (BitVec.neg_eq_not_add v).symm
  have small : (~~~ value + 1).toNat ≤ sintMantissaMax := by
    have high := BitVec.toInt_neg_iff.1 negative
    rw [opposite, BitVec.toNat_neg, sintMantissaMax]
    omega
  have back : ~~~ BitVec.ofNat 64 (~~~ value + 1).toNat + 1 = value := by
    rw [BitVec.ofNat_toNat, BitVec.setWidth_eq, opposite, opposite, BitVec.neg_neg]
  rw [parseNumber, sign]
  dsimp only
  rw [if_neg starts, readMantissa_writeUnsigned, if_pos ⟨rfl, rfl, small⟩, back]

end Integers

end Chimenea.Json
