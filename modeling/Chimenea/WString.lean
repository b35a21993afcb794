import Chimenea.Arduino
import Mathlib.Data.List.DropRight

/-!
The operations of Arduino's `String` that the web server uses. A `String` knows its
length; what searches or compares in C stops at the first null byte.
-/

namespace Chimenea.Arduino

/-- An `int` given for an `unsigned int`. -/
def unsigned (i : Int) : Nat := (BitVec.ofInt 32 i).toNat

/-- `String::indexOf` of a character, from a position on. -/
def indexOfChar (text : Bytes) (c : BitVec 8) (fromIndex : Nat) : Int :=
  if text.length ≤ fromIndex then -1
  else
    match (c_str (text.drop fromIndex)).findIdx? (· = c) with
    | some i => fromIndex + i
    | none => -1

/-- `String::substring`: the bounds are put in order and cut to the length. -/
def substring (text : Bytes) (left right : Nat) : Bytes :=
  (text.take (max left right)).drop (min left right)

def isBlank (b : BitVec 8) : Bool := b = 0x20 || (9 ≤ b.toNat && b.toNat ≤ 13)

def trim (text : Bytes) : Bytes := (text.dropWhile isBlank).rdropWhile isBlank

def startsWith (text pattern : Bytes) : Bool := pattern.isPrefixOf text

/-- `==` with a C string. -/
def equalsCstr (text : Bytes) (cstr : String) : Bool := c_str text = ascii cstr

def tolower (b : BitVec 8) : BitVec 8 := if 65 ≤ b.toNat ∧ b.toNat ≤ 90 then b + 32 else b

def equalsIgnoreCase (text other : Bytes) : Bool :=
  text.length = other.length &&
    (c_str text).map tolower = (other.take (c_str text).length).map tolower

/-- `atoi` of the C string. -/
def atoi (text : Bytes) : Int := atol ((c_str text).map fun b => Char.ofNat b.toNat)

end Chimenea.Arduino
