import Chimenea.Reactive.Outputs
import Mathlib.Logic.Function.Basic
import Mathlib.Data.Int.Order.Basic
import Mathlib.Data.List.TakeWhile

/-!
The part of the Arduino runtime the sketches compute with: pin levels, the
emulated EEPROM, the decimal reader behind `String::toInt`, the wrapping
millisecond clock, and strings as the bytes they consist of.
-/

namespace Chimenea.Arduino

@[simp] abbrev LOW : Bool := false
@[simp] abbrev HIGH : Bool := true

/-- The three outputs of the sketch (GPIO 23, 22 and 21). -/
inductive Pin where
  | gasBajo
  | chispa
  | gasAlto
  deriving DecidableEq, Repr

def EEPROM_SIZE : Nat := 4000

/-- `write` and `read` work on a copy in memory, `commit` makes it permanent. -/
structure Eeprom where
  ram : Fin EEPROM_SIZE → BitVec 8
  flash : Fin EEPROM_SIZE → BitVec 8

def Eeprom.begin (flash : Fin EEPROM_SIZE → BitVec 8) : Eeprom := ⟨flash, flash⟩

def Eeprom.read (eeprom : Eeprom) (address : Fin EEPROM_SIZE) : Int := (eeprom.ram address).toNat

/-- The value parameter of EEPROM.write is a byte: the low eight bits arrive. -/
def Eeprom.write (eeprom : Eeprom) (address : Fin EEPROM_SIZE) (value : Int) : Eeprom :=
  { eeprom with ram := Function.update eeprom.ram address (BitVec.ofInt 8 value) }

def Eeprom.commit (eeprom : Eeprom) : Eeprom := { eeprom with flash := eeprom.ram }

/-- Differences of the wrapping clock are real as long as they are shorter than its period. -/
theorem elapsed_real {inicio t : Nat} (later : inicio ≤ t) (short : t < inicio + 4294967296) :
    (BitVec.ofNat 32 t - BitVec.ofNat 32 inicio).toNat = t - inicio := by
  bv_omega

def isspace (c : Char) : Bool := c = ' ' || (9 ≤ c.toNat && c.toNat ≤ 13)

def leadingDigits (value : Nat) : List Char → Nat
  | [] => value
  | c :: rest =>
    if c.isDigit then leadingDigits (10 * value + (c.toNat - '0'.toNat)) rest else value

def LONG_MAX : Int := 2147483647
def LONG_MIN : Int := -2147483648

/-- `atol`: blanks, an optional sign, digits; out of range it sticks at the end of `long`. -/
def atol (text : List Char) : Int :=
  match text.dropWhile isspace with
  | '-' :: digits => max LONG_MIN (-(leadingDigits 0 digits : Int))
  | '+' :: digits => min LONG_MAX (leadingDigits 0 digits)
  | digits => min LONG_MAX (leadingDigits 0 digits)

def toInt (text : String) : Int := atol text.toList

/-- A `String` built from a C string; the null pointer gives the empty string. -/
def string (text : Option String) : String := text.getD ""

/-- A `String` where its bytes matter; a null byte may be one of them. -/
abbrev Bytes := List (BitVec 8)

def ascii (text : String) : Bytes := text.toList.map fun c => BitVec.ofNat 8 c.toNat

def newline : BitVec 8 := 10
def carriageReturn : BitVec 8 := 13

/-- What a function that takes the C string sees. -/
def c_str (text : Bytes) : Bytes := text.takeWhile (· ≠ 0)

def readStringUntil (terminator : BitVec 8) (content : Bytes) : Bytes :=
  content.takeWhile (· ≠ terminator)

/-- `strstr`, with the offset of the place it points to. -/
def strstr (pattern : Bytes) : Bytes → Option Nat
  | [] => if pattern = [] then some 0 else none
  | b :: rest =>
    if pattern.isPrefixOf (b :: rest) = true then some 0 else (strstr pattern rest).map (· + 1)

/-- `String::indexOf` searches the C string. -/
def indexOf (text pattern : Bytes) : Int :=
  match strstr pattern (c_str text) with
  | some i => i
  | none => -1

theorem c_str_idem (text : Bytes) : c_str (c_str text) = c_str text := List.takeWhile_idem ..

theorem c_str_eq_self (text : Bytes) : c_str text = text ↔ (0 : BitVec 8) ∉ text := by
  rw [c_str, List.takeWhile_eq_self_iff]
  constructor
  · intro each null
    exact absurd rfl (of_decide_eq_true (each _ null))
  · intro whole b member
    exact decide_eq_true fun null => whole (null ▸ member)

theorem c_str_starts {pattern text : Bytes} (starts : pattern <+: text)
    (clean : (0 : BitVec 8) ∉ pattern) : pattern <+: c_str text := by
  obtain ⟨rest, rfl⟩ := starts
  have whole : ∀ b ∈ pattern, decide (b ≠ 0) = true := by
    intro b member
    exact decide_eq_true fun null => clean (null ▸ member)
  rw [c_str, List.takeWhile_append_of_pos whole]
  exact List.prefix_append ..

theorem strstr_isSome (pattern text : Bytes) :
    (strstr pattern text).isSome = true ↔ pattern <:+: text := by
  induction text with
  | nil => simp [strstr]
  | cons b rest ih =>
    rw [strstr, List.infix_cons_iff, ← ih, ← List.isPrefixOf_iff_prefix]
    split_ifs with here <;> simp [here]

theorem indexOf_nonneg (text pattern : Bytes) :
    0 ≤ indexOf text pattern ↔ pattern <:+: c_str text := by
  rw [← strstr_isSome, indexOf]
  cases strstr pattern (c_str text) with
  | none => simp
  | some i => simp

end Chimenea.Arduino
