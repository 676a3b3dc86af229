import IntelAmt.Foundation.Json
import Mathlib.Data.Rat.Floor

/-!
# Numbers in JSON values

What a program makes of a value that it takes for a number or for a truth
value.  A float is what rounding its literal to 53 binary digits gives.
-/

namespace IntelAmt
namespace Foundation
namespace Json

def digitsNat (digits : List Char) : Nat := Nat.ofDigitChars 10 digits 0

inductive FloatValue where
  | nan
  | infinite (negative : Bool)
  | finite (negative : Bool) (magnitude : Rat)
deriving DecidableEq, Repr

/-- A literal as it is read, before any rounding. -/
def literalMagnitude (literal : List Char) : Rat :=
  let mantissa := literal.takeWhile fun c => c ≠ 'e' ∧ c ≠ 'E'
  let exponent := (literal.drop mantissa.length).drop 1
  let whole := mantissa.takeWhile fun c => c ≠ '.'
  let fraction := (mantissa.drop whole.length).drop 1
  let value : Rat :=
    digitsNat (whole ++ fraction) / (10 ^ fraction.length : Nat)
  match exponent with
  | '-' :: digits => value / (10 ^ digitsNat digits : Nat)
  | '+' :: digits => value * (10 ^ digitsNat digits : Nat)
  | digits => value * (10 ^ digitsNat digits : Nat)

/-- To the nearest multiple of `unit`, and to the even one of two. -/
def roundHalfEven (unit magnitude : Rat) : Rat :=
  let scaled := magnitude / unit
  let low := scaled.floor
  let rest := scaled - low
  if rest < 1 / 2 then low * unit
  else if 1 / 2 < rest then (low + 1) * unit
  else if low % 2 = 0 then low * unit
  else (low + 1) * unit

/-- The distance of the doubles around a magnitude. -/
def doubleUnit (magnitude : Rat) : Rat :=
  let exponent : Int :=
    (Nat.log2 magnitude.num.natAbs : Int) - Nat.log2 magnitude.den
  let exponent :=
    if (2 : Rat) ^ exponent ≤ magnitude then exponent else exponent - 1
  (2 : Rat) ^ max (exponent - 52) (-1074)

def roundDouble (magnitude : Rat) : Option Rat :=
  let rounded := roundHalfEven (doubleUnit magnitude) magnitude
  if rounded < 2 ^ 1024 then some rounded else none

def floatMagnitude (negative : Bool) (literal : List Char) : FloatValue :=
  if literal = "Infinity".toList then FloatValue.infinite negative
  else
    match roundDouble (literalMagnitude literal) with
    | none => FloatValue.infinite negative
    | some magnitude => FloatValue.finite negative magnitude

/-- `float` of a literal. -/
def floatValue (literal : List Char) : FloatValue :=
  if literal = "NaN".toList then FloatValue.nan
  else
    match literal with
    | '-' :: rest => floatMagnitude true rest
    | literal => floatMagnitude false literal

/-- `value <= 0`. -/
def FloatValue.atMostZero : FloatValue -> Bool
  | nan => false
  | infinite negative => negative
  | finite negative magnitude => negative || magnitude == 0

/-- `bool`. -/
def truthy : Json -> Bool
  | null => false
  | bool value => value
  | int value => value ≠ 0
  | float literal =>
      match floatValue literal with
      | FloatValue.finite _ magnitude => magnitude ≠ 0
      | _ => true
  | str points => points ≠ []
  | arr items => !items.isEmpty
  | obj members => !members.isEmpty

/-- `a or b`. -/
def orElse (a b : Json) : Json := if a.truthy then a else b

/-!
## Integers in texts
-/

def decimalZeros : List Nat :=
  [0x0660, 0x06f0, 0x07c0, 0x0966, 0x09e6, 0x0a66, 0x0ae6, 0x0b66, 0x0be6,
    0x0c66, 0x0ce6, 0x0d66, 0x0de6, 0x0e50, 0x0ed0, 0x0f20, 0x1040, 0x1090,
    0x17e0, 0x1810, 0x1946, 0x19d0, 0x1a80, 0x1a90, 0x1b50, 0x1bb0, 0x1c40,
    0x1c50, 0xa620, 0xa8d0, 0xa900, 0xa9d0, 0xa9f0, 0xaa50, 0xabf0, 0xff10,
    0x104a0, 0x10d30, 0x11066, 0x110f0, 0x11136, 0x111d0, 0x112f0, 0x11450,
    0x114d0, 0x11650, 0x116c0, 0x11730, 0x118e0, 0x11950, 0x11c50, 0x11d50,
    0x11da0, 0x16a60, 0x16ac0, 0x16b50, 0x1d7ce, 0x1d7d8, 0x1d7e2, 0x1d7ec,
    0x1d7f6, 0x1e140, 0x1e2f0, 0x1e950, 0x1fbf0]

def wideSpaces : List Nat :=
  [0x85, 0xa0, 0x1680, 0x2000, 0x2001, 0x2002, 0x2003, 0x2004, 0x2005, 0x2006,
    0x2007, 0x2008, 0x2009, 0x200a, 0x2028, 0x2029, 0x202f, 0x205f, 0x3000]

/-- The ASCII character that a code point is taken for. -/
def asciiPoint (n : Nat) : Nat :=
  if n < 128 then n
  else if n ∈ wideSpaces then 32
  else
    match decimalZeros.find? fun z => z ≤ n ∧ n < z + 10 with
    | some z => 48 + (n - z)
    | none => 63

def isTextSpace (n : Nat) : Bool :=
  decide (n = 32 ∨ 9 ≤ n ∧ n ≤ 13)

def isTextDigit (n : Nat) : Bool :=
  decide (48 ≤ n ∧ n ≤ 57)

def strip (points : List Nat) : List Nat :=
  ((points.dropWhile isTextSpace).reverse.dropWhile isTextSpace).reverse

/-- Digits, with single underscores between them. -/
def textNat : List Nat -> Nat -> Option Nat
  | [], _ => none
  | [digit], n =>
      if isTextDigit digit then some (10 * n + (digit - 48)) else none
  | digit :: 95 :: rest, n =>
      if isTextDigit digit then textNat rest (10 * n + (digit - 48))
      else none
  | digit :: rest, n =>
      if isTextDigit digit then textNat rest (10 * n + (digit - 48))
      else none

/-- `int` of a text. -/
def textInt (points : List Nat) : Option Int :=
  let text := strip (points.map asciiPoint)
  if maxTextDigits < text.countP isTextDigit then none
  else
    match text with
    | 43 :: digits => (textNat digits 0).map Int.ofNat
    | 45 :: digits => (textNat digits 0).map fun n => -Int.ofNat n
    | digits => (textNat digits 0).map Int.ofNat

end Json
end Foundation
end IntelAmt
