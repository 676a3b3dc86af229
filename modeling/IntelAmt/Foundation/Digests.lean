import IntelAmt.Foundation.Text

/-!
# Digests

MD5 and SHA-256 of a byte string.  A word of 32 bits is a natural number
below `2 ^ 32`.
-/

namespace IntelAmt
namespace Foundation

def wordMask : Nat := 0xFFFFFFFF

def addWords (x y : Nat) : Nat := (x + y) &&& wordMask

def notWord (x : Nat) : Nat := x ^^^ wordMask

def rotateLeft (x n : Nat) : Nat :=
  ((x <<< n) ||| (x >>> (32 - n))) &&& wordMask

def rotateRight (x n : Nat) : Nat := rotateLeft x (32 - n)

/-- The zeros that fill a message up, up to the eight bytes of its length. -/
def paddingZeros (length : Nat) : Bytes :=
  List.replicate ((119 - length % 64) % 64) 0

/-- The pieces of `size` bytes, `count` of them. -/
def pieces (size count : Nat) (bytes : Bytes) : List Bytes :=
  (List.range count).map fun k => slice bytes (size * k) size

def blocks (bytes : Bytes) : List Bytes :=
  pieces 64 (bytes.length / 64) bytes

/-!
## MD5
-/

def md5Shifts : List Nat :=
  [7, 12, 17, 22, 5, 9, 14, 20, 4, 11, 16, 23, 6, 10, 15, 21]

def md5Constants : List Nat :=
  [0xd76aa478, 0xe8c7b756, 0x242070db, 0xc1bdceee, 0xf57c0faf, 0x4787c62a,
    0xa8304613, 0xfd469501, 0x698098d8, 0x8b44f7af, 0xffff5bb1, 0x895cd7be,
    0x6b901122, 0xfd987193, 0xa679438e, 0x49b40821, 0xf61e2562, 0xc040b340,
    0x265e5a51, 0xe9b6c7aa, 0xd62f105d, 0x02441453, 0xd8a1e681, 0xe7d3fbc8,
    0x21e1cde6, 0xc33707d6, 0xf4d50d87, 0x455a14ed, 0xa9e3e905, 0xfcefa3f8,
    0x676f02d9, 0x8d2a4c8a, 0xfffa3942, 0x8771f681, 0x6d9d6122, 0xfde5380c,
    0xa4beea44, 0x4bdecfa9, 0xf6bb4b60, 0xbebfbc70, 0x289b7ec6, 0xeaa127fa,
    0xd4ef3085, 0x04881d05, 0xd9d4d039, 0xe6db99e5, 0x1fa27cf8, 0xc4ac5665,
    0xf4292244, 0x432aff97, 0xab9423a7, 0xfc93a039, 0x655b59c3, 0x8f0ccc92,
    0xffeff47d, 0x85845dd1, 0x6fa87e4f, 0xfe2ce6e0, 0xa3014314, 0x4e0811a1,
    0xf7537e82, 0xbd3af235, 0x2ad7d2bb, 0xeb86d391]

structure Md5State where
  a : Nat
  b : Nat
  c : Nat
  d : Nat

def md5Start : Md5State where
  a := 0x67452301
  b := 0xefcdab89
  c := 0x98badcfe
  d := 0x10325476

/-- The function of a round, and the word that the round takes. -/
def md5Round (s : Md5State) (k : Nat) : Nat × Nat :=
  if k < 16 then ((s.b &&& s.c) ||| (notWord s.b &&& s.d), k)
  else if k < 32 then
    ((s.d &&& s.b) ||| (notWord s.d &&& s.c), (5 * k + 1) % 16)
  else if k < 48 then (s.b ^^^ s.c ^^^ s.d, (3 * k + 5) % 16)
  else (s.c ^^^ (s.b ||| notWord s.d), 7 * k % 16)

def md5Step (words : List Nat) (s : Md5State) (k : Nat) : Md5State :=
  let round := md5Round s k
  let sum := addWords (addWords round.1 s.a)
    (addWords (md5Constants.getD k 0) (words.getD round.2 0))
  { a := s.d
    b := addWords s.b
      (rotateLeft sum (md5Shifts.getD (4 * (k / 16) + k % 4) 0))
    c := s.b
    d := s.c }

def md5Block (s : Md5State) (block : Bytes) : Md5State :=
  let words := (pieces 4 16 block).map leNat
  let last := (List.range 64).foldl (md5Step words) s
  { a := addWords s.a last.a
    b := addWords s.b last.b
    c := addWords s.c last.c
    d := addWords s.d last.d }

def md5 (bytes : Bytes) : Bytes :=
  let padded := bytes ++ [0x80] ++ paddingZeros bytes.length ++
    packLE 8 (8 * bytes.length)
  let last := (blocks padded).foldl md5Block md5Start
  packLE 4 last.a ++ packLE 4 last.b ++ packLE 4 last.c ++ packLE 4 last.d

theorem md5_length (bytes : Bytes) : (md5 bytes).length = 16 := by
  simp [md5]

example : md5 (encodeUtf8 "abc".toList) =
    [0x90, 0x01, 0x50, 0x98, 0x3c, 0xd2, 0x4f, 0xb0, 0xd6, 0x96, 0x3f, 0x7d,
      0x28, 0xe1, 0x7f, 0x72] := by
  decide +kernel

/-!
## SHA-256
-/

def sha256Constants : List Nat :=
  [0x428a2f98, 0x71374491, 0xb5c0fbcf, 0xe9b5dba5, 0x3956c25b, 0x59f111f1,
    0x923f82a4, 0xab1c5ed5, 0xd807aa98, 0x12835b01, 0x243185be, 0x550c7dc3,
    0x72be5d74, 0x80deb1fe, 0x9bdc06a7, 0xc19bf174, 0xe49b69c1, 0xefbe4786,
    0x0fc19dc6, 0x240ca1cc, 0x2de92c6f, 0x4a7484aa, 0x5cb0a9dc, 0x76f988da,
    0x983e5152, 0xa831c66d, 0xb00327c8, 0xbf597fc7, 0xc6e00bf3, 0xd5a79147,
    0x06ca6351, 0x14292967, 0x27b70a85, 0x2e1b2138, 0x4d2c6dfc, 0x53380d13,
    0x650a7354, 0x766a0abb, 0x81c2c92e, 0x92722c85, 0xa2bfe8a1, 0xa81a664b,
    0xc24b8b70, 0xc76c51a3, 0xd192e819, 0xd6990624, 0xf40e3585, 0x106aa070,
    0x19a4c116, 0x1e376c08, 0x2748774c, 0x34b0bcb5, 0x391c0cb3, 0x4ed8aa4a,
    0x5b9cca4f, 0x682e6ff3, 0x748f82ee, 0x78a5636f, 0x84c87814, 0x8cc70208,
    0x90befffa, 0xa4506ceb, 0xbef9a3f7, 0xc67178f2]

def sha256Start : List Nat :=
  [0x6a09e667, 0xbb67ae85, 0x3c6ef372, 0xa54ff53a, 0x510e527f, 0x9b05688c,
    0x1f83d9ab, 0x5be0cd19]

/-- One more word of the message schedule. -/
def sha256Extend (words : List Nat) : List Nat :=
  let word (back : Nat) : Nat := words.getD (words.length - back) 0
  let small := rotateRight (word 15) 7 ^^^ rotateRight (word 15) 18 ^^^
    (word 15 >>> 3)
  let large := rotateRight (word 2) 17 ^^^ rotateRight (word 2) 19 ^^^
    (word 2 >>> 10)
  words ++
    [addWords (addWords (word 16) small) (addWords (word 7) large)]

def sha256Step (words s : List Nat) (k : Nat) : List Nat :=
  match s with
  | [a, b, c, d, e, f, g, h] =>
      let large := rotateRight e 6 ^^^ rotateRight e 11 ^^^ rotateRight e 25
      let choice := (e &&& f) ^^^ (notWord e &&& g)
      let first := addWords (addWords h large) (addWords choice
        (addWords (sha256Constants.getD k 0) (words.getD k 0)))
      let small := rotateRight a 2 ^^^ rotateRight a 13 ^^^ rotateRight a 22
      let majority := (a &&& b) ^^^ (a &&& c) ^^^ (b &&& c)
      [addWords first (addWords small majority), a, b, c, addWords d first,
        e, f, g]
  | other => other

def sha256Block (s : List Nat) (block : Bytes) : List Nat :=
  let words := (List.range 48).foldl (fun words _ => sha256Extend words)
    ((pieces 4 16 block).map beNat)
  List.zipWith addWords s ((List.range 64).foldl (sha256Step words) s)

def sha256 (bytes : Bytes) : Bytes :=
  let padded := bytes ++ [0x80] ++ paddingZeros bytes.length ++
    packBE 8 (8 * bytes.length)
  ((blocks padded).foldl sha256Block sha256Start).flatMap (packBE 4)

example : (sha256 (encodeUtf8 "abc".toList)).take 8 =
    [0xba, 0x78, 0x16, 0xbf, 0x8f, 0x01, 0xcf, 0xea] := by
  decide +kernel

end Foundation
end IntelAmt
