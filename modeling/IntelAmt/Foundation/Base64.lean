import IntelAmt.Foundation.Bytes

/-!
# Base64

The strict decoding: groups of four characters of the alphabet, the last one
filled up with padding, and nothing else but padding that fills up no group.
-/

namespace IntelAmt
namespace Foundation
namespace Base64

/-- The six bits that a character of the alphabet stands for. -/
def sextet (c : Char) : Option Nat :=
  if 'A' ≤ c && c ≤ 'Z' then some (c.toNat - 65)
  else if 'a' ≤ c && c ≤ 'z' then some (c.toNat - 97 + 26)
  else if '0' ≤ c && c ≤ '9' then some (c.toNat - 48 + 52)
  else if c = '+' then some 62
  else if c = '/' then some 63
  else none

/-- How far a group has come: how many of its characters were read, and the
bits that are not yet part of a byte. -/
structure Group where
  read : Nat := 0
  left : Nat := 0
deriving DecidableEq, Repr

/-- One more character of a group, and the byte that it completes. -/
def Group.next (group : Group) (bits : Nat) : Bytes × Group :=
  if group.read = 0 then ([], { read := 1, left := bits })
  else if group.read = 1 then
    ([UInt8.ofNat (group.left * 4 + bits / 16)],
      { read := 2, left := bits % 16 })
  else if group.read = 2 then
    ([UInt8.ofNat (group.left * 16 + bits / 4)],
      { read := 3, left := bits % 4 })
  else ([UInt8.ofNat (group.left * 64 + bits)], { read := 0, left := 0 })

def incompleteMessage (count : Nat) : String :=
  "Invalid base64-encoded string: number of data characters (" ++
  toString count ++ ") cannot be 1 more than a multiple of 4"

/-- Padding fills up a group of two or three characters. -/
def Group.filled (group : Group) (pads : Nat) : Bool :=
  2 ≤ group.read && 4 ≤ group.read + pads

/-- At the end of the text no group may be incomplete. -/
def atEnd (group : Group) (bytes : Bytes) : Except String Bytes :=
  if group.read = 0 then Except.ok bytes
  else if group.read = 1 then
    Except.error (incompleteMessage (bytes.length / 3 * 4 + 1))
  else Except.error "Incorrect padding"

/-- What may stand behind so many padding characters. -/
def padded (group : Group) (bytes : Bytes) (pads : Nat) :
    List Char -> Except String Bytes
  | [] => if group.filled pads then Except.ok bytes else atEnd group bytes
  | c :: rest =>
      if group.filled pads then Except.error "Excess data after padding"
      else if c = '=' then padded group bytes (pads + 1) rest
      else if (sextet c).isSome then
        Except.error "Discontinuous padding not allowed"
      else Except.error "Only base64 data is allowed"

def decodeFrom (group : Group) (bytes : Bytes) :
    List Char -> Except String Bytes
  | [] => atEnd group bytes
  | '=' :: rest => padded group bytes 1 rest
  | c :: rest =>
      match sextet c with
      | none => Except.error "Only base64 data is allowed"
      | some bits =>
          decodeFrom (group.next bits).2 (bytes ++ (group.next bits).1) rest

/-- `base64.b64decode` with `validate`. -/
def b64decode (encoded : String) : Except String Bytes :=
  let text := encoded.toList
  if text.any fun c => 127 < c.toNat then
    Except.error "string argument should contain only ASCII characters"
  else if text.head? = some '=' then
    Except.error "Leading padding not allowed"
  else decodeFrom {} [] text

example : (b64decode "Zm9vYg==").toOption = some "foob".toUTF8.toList := by
  decide +kernel

end Base64
end Foundation
end IntelAmt
