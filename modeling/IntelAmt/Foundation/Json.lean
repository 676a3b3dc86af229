import IntelAmt.Foundation.Dict

/-!
# JSON

The values, the text that is written for them, and the scanner that reads a
text back.  A value is written on one line and in ASCII, every other character
as an escape; the scanner reads any text, as long as its numbers and its
nesting stay within what the interpreter allows.  A string is a list of code
points, since an escape can name a surrogate.  A float stays as it is written:
nothing computes with it.
-/

namespace IntelAmt
namespace Foundation

inductive Json where
  | null
  | bool (value : Bool)
  | int (value : Int)
  | float (literal : List Char)
  | str (points : List Nat)
  | arr (items : List Json)
  | obj (members : List (List Nat × Json))

namespace Json

/-!
## Writing
-/

def escapeUnit (n : Nat) : List Char :=
  ['\\', 'u', (n / 4096 % 16).digitChar, (n / 256 % 16).digitChar,
    (n / 16 % 16).digitChar, (n % 16).digitChar]

/-- The escapes of one letter, with what they stand for. -/
def shortEscapes : List (Nat × Char) :=
  [(34, '"'), (92, '\\'), (10, 'n'), (13, 'r'), (9, 't'), (12, 'f'), (8, 'b')]

def escapePoint (n : Nat) : List Char :=
  match shortEscapes.lookup n with
  | some letter => ['\\', letter]
  | none =>
      if 32 ≤ n ∧ n ≤ 126 then [Char.ofNat n]
      else if n < 65536 then escapeUnit n
      else
        escapeUnit (55296 + (n - 65536) / 1024 % 1024) ++
          escapeUnit (56320 + (n - 65536) % 1024)

def dumpsString (points : List Nat) : List Char :=
  '"' :: (points.flatMap escapePoint ++ ['"'])

def dumpsInt (n : Int) : List Char :=
  if n < 0 then '-' :: Nat.toDigits 10 n.natAbs
  else Nat.toDigits 10 n.natAbs

def separator (first : Bool) : List Char :=
  if first then [] else [',', ' ']

mutual

def dumps : Json -> List Char
  | null => ['n', 'u', 'l', 'l']
  | bool true => ['t', 'r', 'u', 'e']
  | bool false => ['f', 'a', 'l', 's', 'e']
  | int n => dumpsInt n
  | float literal => literal
  | str points => dumpsString points
  | arr items => '[' :: (dumpsItems true items ++ [']'])
  | obj members => '{' :: (dumpsMembers true members ++ ['}'])

def dumpsItems : Bool -> List Json -> List Char
  | _, [] => []
  | first, item :: items =>
      separator first ++ (dumps item ++ dumpsItems false items)

def dumpsMembers : Bool -> List (List Nat × Json) -> List Char
  | _, [] => []
  | first, (k, v) :: members =>
      separator first ++
        (dumpsString k ++ ([':', ' '] ++
          (dumps v ++ dumpsMembers false members)))

end

/-!
## Strings
-/

def hexValue (c : Char) : Option Nat :=
  if c.isDigit then some (c.toNat - 48)
  else if 'a' ≤ c ∧ c ≤ 'f' then some (c.toNat - 87)
  else if 'A' ≤ c ∧ c ≤ 'F' then some (c.toNat - 55)
  else none

def hex4 (a b c d : Char) : Option Nat := do
  let a ← hexValue a
  let b ← hexValue b
  let c ← hexValue c
  let d ← hexValue d
  pure (4096 * a + 256 * b + 16 * c + d)

def unescape (letter : Char) : Option Nat :=
  if letter = '/' then some 47
  else (shortEscapes.map Prod.swap).lookup letter

/-- The characters of a string and its escapes, up to the closing quote. -/
def scanPoints : List Char -> Option (List Nat × List Char)
  | [] => none
  | c :: rest =>
      if c = '"' then some ([], rest)
      else if c = '\\' then
        match rest with
        | 'u' :: a :: b :: c :: d :: rest => do
            let n ← hex4 a b c d
            let (points, rest) ← scanPoints rest
            pure (n :: points, rest)
        | letter :: rest => do
            let n ← unescape letter
            let (points, rest) ← scanPoints rest
            pure (n :: points, rest)
        | [] => none
      else if c.toNat < 32 then none
      else do
        let (points, rest) ← scanPoints rest
        pure (c.toNat :: points, rest)

def isHigh (n : Nat) : Bool := decide (55296 ≤ n ∧ n ≤ 56319)

def isLow (n : Nat) : Bool := decide (56320 ≤ n ∧ n ≤ 57343)

/-- A pair of surrogates names one point.  Only escapes name surrogates, so
the pairs can be joined when the whole string has been read. -/
def joinSurrogates : List Nat -> List Nat
  | high :: low :: rest =>
      if isHigh high && isLow low then
        (65536 + (high - 55296) * 1024 + (low - 56320)) ::
          joinSurrogates rest
      else high :: joinSurrogates (low :: rest)
  | points => points

def scanString (text : List Char) : Option (List Nat × List Char) :=
  (scanPoints text).map fun found => (joinSurrogates found.1, found.2)

/-!
## Numbers
-/

def scanSign (signs : List Char) : List Char -> List Char × List Char
  | [] => ([], [])
  | c :: rest => if c ∈ signs then ([c], rest) else ([], c :: rest)

def scanInteger : List Char -> Option (List Char × List Char)
  | [] => none
  | c :: rest =>
      if c = '0' then some ([c], rest)
      else if c.isDigit then
        some (c :: rest.takeWhile Char.isDigit, rest.dropWhile Char.isDigit)
      else none

def scanFraction : List Char -> List Char × List Char
  | [] => ([], [])
  | c :: rest =>
      if c = '.' ∧ rest.takeWhile Char.isDigit ≠ [] then
        (c :: rest.takeWhile Char.isDigit, rest.dropWhile Char.isDigit)
      else ([], c :: rest)

def scanExponent : List Char -> List Char × List Char
  | [] => ([], [])
  | c :: rest =>
      let signed := scanSign ['+', '-'] rest
      if (c = 'e' ∨ c = 'E') ∧ signed.2.takeWhile Char.isDigit ≠ [] then
        (c :: (signed.1 ++ signed.2.takeWhile Char.isDigit),
          signed.2.dropWhile Char.isDigit)
      else ([], c :: rest)

/-- How many digits the interpreter converts unless it is told otherwise. -/
def maxTextDigits : Nat := 4300

def intValue (sign digits : List Char) : Int :=
  if sign = [] then (Nat.ofDigitChars 10 digits 0 : Int)
  else -(Nat.ofDigitChars 10 digits 0 : Int)

/-- The number that the parts of a literal stand for. -/
def numberOf (sign digits fraction exponent : List Char) : Option Json :=
  if fraction ++ exponent = [] then
    if maxTextDigits < digits.length then none
    else some (int (intValue sign digits))
  else some (float (sign ++ digits ++ fraction ++ exponent))

def scanNumber (text : List Char) : Option (Json × List Char) := do
  let sign := scanSign ['-'] text
  let (digits, rest) ← scanInteger sign.2
  let fraction := scanFraction rest
  let exponent := scanExponent fraction.2
  let value ← numberOf sign.1 digits fraction.1 exponent.1
  pure (value, exponent.2)

/-!
## Values
-/

def isSpace (c : Char) : Bool :=
  c = ' ' || c = '\t' || c = '\n' || c = '\r'

/-- The next character behind white space. -/
def next (text : List Char) : Option (Char × List Char) :=
  match text.dropWhile isSpace with
  | [] => none
  | c :: rest => some (c, rest)

def scanWord (word : List Char) (value : Json) (text : List Char) :
    Option (Json × List Char) :=
  if word <+: text then some (value, text.drop word.length) else none

/-- A value that neither nests nor is a string. -/
def scanScalar (c : Char) (rest : List Char) : Option (Json × List Char) :=
  if c = 'n' then scanWord ['u', 'l', 'l'] null rest
  else if c = 't' then scanWord ['r', 'u', 'e'] (bool true) rest
  else if c = 'f' then scanWord ['a', 'l', 's', 'e'] (bool false) rest
  else
    match scanNumber (c :: rest) with
    | some found => some found
    | none =>
        if c = 'N' then scanWord ['a', 'N'] (float ['N', 'a', 'N']) rest
        else if c = 'I' then
          scanWord ['n', 'f', 'i', 'n', 'i', 't', 'y']
            (float ['I', 'n', 'f', 'i', 'n', 'i', 't', 'y']) rest
        else if c = '-' then
          scanWord ['I', 'n', 'f', 'i', 'n', 'i', 't', 'y']
            (float ['-', 'I', 'n', 'f', 'i', 'n', 'i', 't', 'y']) rest
        else none

/-- `ValueError`, and the `RecursionError` of a text that nests too deep. -/
inductive ScanError where
  | value
  | recursion
deriving DecidableEq, Repr

def found {alpha : Type} : Option alpha -> Except ScanError alpha
  | none => Except.error ScanError.value
  | some a => Except.ok a

mutual

/-- A value with the white space before it; `depth` arrays and objects can
still be opened inside one another. -/
def scanValue : Nat -> Nat -> List Char ->
    Except ScanError (Json × List Char)
  | 0, _, _ => Except.error ScanError.value
  | fuel + 1, depth, text => do
      let (c, rest) ← found (next text)
      if c = '"' then
        let (points, rest) ← found (scanString rest)
        pure (str points, rest)
      else if c = '{' then
        if depth = 0 then Except.error ScanError.recursion
        else
          let (c, rest) ← found (next rest)
          if c = '}' then pure (obj [], rest)
          else if c = '"' then
            let (members, rest) ← scanMembers fuel (depth - 1) rest
            pure (obj (ofEntries members), rest)
          else Except.error ScanError.value
      else if c = '[' then
        if depth = 0 then Except.error ScanError.recursion
        else
          let (c, behind) ← found (next rest)
          if c = ']' then pure (arr [], behind)
          else
            let (items, rest) ← scanItems fuel (depth - 1) rest
            pure (arr items, rest)
      else found (scanScalar c rest)

/-- The members of an object from behind the quote that opens a key. -/
def scanMembers : Nat -> Nat -> List Char ->
    Except ScanError (List (List Nat × Json) × List Char)
  | 0, _, _ => Except.error ScanError.value
  | fuel + 1, depth, text => do
      let (k, rest) ← found (scanString text)
      let (c, rest) ← found (next rest)
      if c = ':' then
        let (v, rest) ← scanValue fuel depth rest
        let (c, rest) ← found (next rest)
        if c = '}' then pure ([(k, v)], rest)
        else if c = ',' then
          let (c, rest) ← found (next rest)
          if c = '"' then
            let (members, rest) ← scanMembers fuel depth rest
            pure ((k, v) :: members, rest)
          else Except.error ScanError.value
        else Except.error ScanError.value
      else Except.error ScanError.value

def scanItems : Nat -> Nat -> List Char ->
    Except ScanError (List Json × List Char)
  | 0, _, _ => Except.error ScanError.value
  | fuel + 1, depth, text => do
      let (item, rest) ← scanValue fuel depth text
      let (c, rest) ← found (next rest)
      if c = ']' then pure ([item], rest)
      else if c = ',' then
        let (items, rest) ← scanItems fuel depth rest
        pure (item :: items, rest)
      else Except.error ScanError.value

end

/-- The value that a whole text stands for. -/
def loads (depth : Nat) (text : List Char) : Except ScanError Json :=
  if text.head? = some '\uFEFF' then Except.error ScanError.value
  else
    match scanValue (2 * text.length + 1) depth text with
    | Except.error e => Except.error e
    | Except.ok (value, rest) =>
        if next rest = none then Except.ok value
        else Except.error ScanError.value

end Json
end Foundation
end IntelAmt
