import Chimenea.Arduino
import Mathlib.Data.Nat.Digits.Defs

/-!
The numbers of ArduinoJson: `parseNumber` and `TextFormatter::writeInteger`.
-/

namespace Chimenea.Json
open Arduino

/-- A character of the source as a byte. -/
abbrev ch (c : Char) : BitVec 8 := BitVec.ofNat 8 c.toNat

def isdigit (c : BitVec 8) : Bool := ch '0' ≤ c && c ≤ ch '9'

def digit (c : BitVec 8) : Nat := (c - ch '0').toNat

/-- A number of a document. A `Float` is given by what `make_float` computes it
from, `mantissa * 10 ^ exponent`. -/
inductive Number where
  | unsignedInteger (value : BitVec 64)
  | signedInteger (value : BitVec 64)
  | float (is_negative : Bool) (mantissa : Nat) (exponent : Int)
  | inf (is_negative : Bool)
  deriving DecidableEq, Repr

def maxUint : Nat := 2 ^ 64 - 1
def sintMantissaMax : Nat := 2 ^ 63
def mantissa_max : Nat := 2 ^ 52 - 1
def exponent_max : Int := 308

/-- The digits that fit the mantissa. A digit that would overflow it stays unread,
and then the mantissa may be left multiplied by ten. -/
def readMantissa (mantissa : Nat) : Bytes → Nat × Bytes
  | [] => (mantissa, [])
  | c :: s =>
    if isdigit c then
      if mantissa > maxUint / 10 then (mantissa, c :: s)
      else if mantissa * 10 > maxUint - digit c then (mantissa * 10, c :: s)
      else readMantissa (mantissa * 10 + digit c) s
    else (mantissa, c :: s)

/-- `while (mantissa > mantissa_max)`; four divisions are enough for 64 bits. -/
def reduceMantissa : Nat → Nat → Int → Nat × Int
  | 0, mantissa, exponent_offset => (mantissa, exponent_offset)
  | n + 1, mantissa, exponent_offset =>
    if mantissa > mantissa_max then reduceMantissa n (mantissa / 10) (exponent_offset + 1)
    else (mantissa, exponent_offset)

def readDecimals (mantissa : Nat) (exponent_offset : Int) : Bytes → Nat × Int × Bytes
  | [] => (mantissa, exponent_offset, [])
  | c :: s =>
    if isdigit c then
      if mantissa < mantissa_max / 10 then
        readDecimals (mantissa * 10 + digit c) (exponent_offset - 1) s
      else readDecimals mantissa exponent_offset s
    else (mantissa, exponent_offset, c :: s)

/-- The digits of the exponent; `none` when it passes `exponent_max`. -/
def readExponent (exponent_offset : Int) (exponent : Nat) : Bytes → Option (Nat × Bytes)
  | [] => some (exponent, [])
  | c :: s =>
    if isdigit c then
      let exponent := exponent * 10 + digit c
      if (exponent : Int) + exponent_offset > exponent_max then none
      else readExponent exponent_offset exponent s
    else some (exponent, c :: s)

def readSign (s : Bytes) : Bool × Bytes :=
  match s with
  | c :: rest =>
    if c = ch '-' then (true, rest) else if c = ch '+' then (false, rest) else (false, s)
  | [] => (false, [])

/-- The part of `parseNumber` after the integer case. -/
def parseFloat (is_negative : Bool) (mantissa : Nat) (s : Bytes) : Option Number :=
  let (mantissa, exponent_offset) := reduceMantissa 4 mantissa 0
  let exponent_offset := exponent_offset + (s.takeWhile isdigit).length
  let s := s.dropWhile isdigit
  let (mantissa, exponent_offset, s) :=
    if s.head? = some (ch '.') then readDecimals mantissa exponent_offset s.tail
    else (mantissa, exponent_offset, s)
  if s.head? = some (ch 'e') ∨ s.head? = some (ch 'E') then
    let (negative_exponent, s) := readSign s.tail
    match readExponent exponent_offset 0 s with
    | none => if negative_exponent then some (.float is_negative 0 0) else some (.inf is_negative)
    | some (exponent, s) =>
      let exponent : Int := if negative_exponent then -exponent else exponent
      if s = [] then some (.float is_negative mantissa (exponent + exponent_offset)) else none
  else if s = [] then some (.float is_negative mantissa exponent_offset) else none

/-- The text is the C string in `_buffer`; `none` is the answer `false`. -/
def parseNumber (s : Bytes) : Option Number :=
  let (is_negative, s) := readSign s
  if isdigit (s.headD 0) = false ∧ s.headD 0 ≠ ch '.' then none
  else
    let (mantissa, s) := readMantissa 0 s
    if s = [] ∧ is_negative = true ∧ mantissa ≤ sintMantissaMax then
      some (.signedInteger (~~~ BitVec.ofNat 64 mantissa + 1))
    else if s = [] ∧ is_negative = false then some (.unsignedInteger (BitVec.ofNat 64 mantissa))
    else parseFloat is_negative mantissa s

example : parseNumber (ascii "-12") = some (.signedInteger (BitVec.ofInt 64 (-12))) := by decide
example : parseNumber (ascii "1.5e3") = some (.float false 15 2) := by decide
example : parseNumber (ascii "12a") = none := by decide

end Chimenea.Json
