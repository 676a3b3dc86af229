import IntelAmt.Errors.Literals
import IntelAmt.Foundation.Json.Numbers
import IntelAmt.Foundation.Regex.Languages

/-!
# Patterns of identifying values

The values that the evidence is searched for, in the order in which they are
searched for.  A text is a list of code points.
-/

namespace IntelAmt
namespace Evidence

open Foundation Errors

inductive Category where
  | fingerprint
  | digest
  | mac
  | uuid
  | partialUuid
  | ipv4
  | ipv6
  | fqdn
  | hostname
  | username
  | serial
  | assetTag
  | path
deriving DecidableEq, Repr

def Category.name : Category -> String
  | fingerprint => "fingerprint"
  | digest => "digest"
  | mac => "mac"
  | uuid => "uuid"
  | partialUuid => "partial_uuid"
  | ipv4 => "ipv4"
  | ipv6 => "ipv6"
  | fqdn => "fqdn"
  | hostname => "hostname"
  | username => "username"
  | serial => "serial"
  | assetTag => "asset_tag"
  | path => "path"

/-!
## Characters
-/

def isDigit (c : Nat) : Bool := decide ('0'.toNat ≤ c ∧ c ≤ '9'.toNat)

def isLetter (c : Nat) : Bool :=
  decide ('A'.toNat ≤ c ∧ c ≤ 'Z'.toNat) ||
    decide ('a'.toNat ≤ c ∧ c ≤ 'z'.toNat)

/-- `_HEX` -/
def isHex (c : Nat) : Bool :=
  isDigit c || decide ('A'.toNat ≤ c ∧ c ≤ 'F'.toNat) ||
    decide ('a'.toNat ≤ c ∧ c ≤ 'f'.toNat)

def isAlnum (c : Nat) : Bool := isDigit c || isLetter c

def isDot (c : Nat) : Bool := c = '.'.toNat

def isColon (c : Nat) : Bool := c = ':'.toNat

def isDash (c : Nat) : Bool := c = '-'.toNat

/-- A character of a label. -/
def isLabel (c : Nat) : Bool := isAlnum c || c = '_'.toNat || isDash c

def hex : Regex Nat := Regex.char isHex

def dot : Regex Nat := Regex.char isDot

def colon : Regex Nat := Regex.char isColon

def dash : Regex Nat := Regex.char isDash

def digit : Regex Nat := Regex.char isDigit

def letter : Regex Nat := Regex.char isLetter

def label : Regex Nat := Regex.char isLabel

/-- A digit of a range. -/
def digitIn (low high : Char) : Regex Nat :=
  Regex.char fun c => decide (low.toNat ≤ c ∧ c ≤ high.toNat)

def octet : Regex Nat :=
  Regex.choice
    (Regex.concat [digitIn '2' '2', digitIn '5' '5', digitIn '0' '5'])
    [Regex.concat [digitIn '2' '2', digitIn '0' '4', digit],
      Regex.seq (digitIn '1' '1') (Regex.times 2 digit),
      Regex.seq (Regex.optional (digitIn '1' '9')) digit]

/-- A group of an address and the colon behind it. -/
def groupColon : Regex Nat := Regex.seq (Regex.between 1 4 hex) colon

/-- A colon and the group behind it. -/
def colonGroup : Regex Nat := Regex.seq colon (Regex.between 1 4 hex)

/-!
## Rules
-/

/-- The entries of `_PATTERNS`. -/
inductive Rule where
  | fingerprint
  | digest
  | mac
  | uuid
  | compactUuid
  | partialUuid
  | ipv4
  | ipv6
  | fqdn
deriving DecidableEq, Repr

namespace Rule

def category : Rule -> Category
  | fingerprint => Category.fingerprint
  | digest => Category.digest
  | mac => Category.mac
  | uuid => Category.uuid
  | compactUuid => Category.uuid
  | partialUuid => Category.partialUuid
  | ipv4 => Category.ipv4
  | ipv6 => Category.ipv6
  | fqdn => Category.fqdn

/-- What must not stand before a value. -/
def behind : Rule -> Nat -> Bool
  | fingerprint, c => isHex c
  | digest, c => isAlnum c
  | mac, c => isAlnum c || isColon c || isDash c
  | uuid, c => isAlnum c || isDash c
  | compactUuid, c => isAlnum c
  | partialUuid, c => isAlnum c || isDash c
  | ipv4, c => isAlnum c || isDot c
  | ipv6, c => isHex c || isColon c || isDot c
  | fqdn, c => isLabel c || isDot c || c = '@'.toNat

def body : Rule -> Regex Nat
  | fingerprint =>
      Regex.seq (Regex.times 31 (Regex.seq (Regex.times 2 hex) colon))
        (Regex.times 2 hex)
  | digest => Regex.times 64 hex
  | mac =>
      Regex.seq
        (Regex.times 5 (Regex.seq (Regex.times 2 hex)
          (Regex.char fun c => isColon c || isDash c)))
        (Regex.times 2 hex)
  | uuid =>
      Regex.concat [Regex.times 8 hex, dash, Regex.times 4 hex, dash,
        Regex.times 4 hex, dash, Regex.times 4 hex, dash, Regex.times 12 hex]
  | compactUuid => Regex.times 32 hex
  | partialUuid => Regex.concat [Regex.times 8 hex, dash, Regex.times 4 hex]
  | ipv4 => Regex.seq (Regex.times 3 (Regex.seq octet dot)) octet
  | ipv6 =>
      Regex.choice
        (Regex.seq (Regex.times 7 groupColon) (Regex.between 1 4 hex))
        [Regex.seq (Regex.between 1 7 groupColon) colon,
          Regex.seq (Regex.between 1 6 groupColon) colonGroup,
          Regex.seq (Regex.between 1 5 groupColon)
            (Regex.between 1 2 colonGroup),
          Regex.seq (Regex.between 1 4 groupColon)
            (Regex.between 1 3 colonGroup),
          Regex.seq (Regex.between 1 3 groupColon)
            (Regex.between 1 4 colonGroup),
          Regex.seq (Regex.between 1 2 groupColon)
            (Regex.between 1 5 colonGroup),
          Regex.seq groupColon (Regex.between 1 6 colonGroup),
          Regex.concat [colon, colon, Regex.between 0 6 groupColon,
            Regex.between 1 4 hex]]
  | fqdn =>
      Regex.concat
        [Regex.star true (Regex.seq (Regex.atLeast 1 label) dot),
          Regex.star true label, letter, Regex.star true label, dot,
          Regex.atLeast 2 letter]

/-- What must follow a value, or must not follow it. -/
def tail : Rule -> Regex Nat
  | fingerprint => Regex.notAhead (Regex.seq (Regex.optional colon) hex)
  | digest => Regex.notAhead (Regex.char isAlnum)
  | mac =>
      Regex.notAhead (Regex.char fun c => isAlnum c || isColon c || isDash c)
  | uuid => Regex.notAhead (Regex.char fun c => isAlnum c || isDash c)
  | compactUuid => Regex.notAhead (Regex.char isAlnum)
  | partialUuid => Regex.ahead (Regex.concat [dash, dot, dot, dot])
  | ipv4 => Regex.notAhead (Regex.char fun c => isAlnum c || isDot c)
  | ipv6 =>
      Regex.notAhead (Regex.char fun c => isHex c || isColon c || isDot c)
  | fqdn =>
      Regex.notAhead (Regex.char fun c => isAlnum c || isDot c || isDash c)

def pattern (rule : Rule) : Regex Nat :=
  Regex.guarded rule.behind rule.body rule.tail

end Rule

/-- `_PATTERNS` -/
def rules : List Rule :=
  [Rule.fingerprint, Rule.digest, Rule.mac, Rule.uuid, Rule.compactUuid,
    Rule.partialUuid, Rule.ipv4, Rule.ipv6, Rule.fqdn]

end Evidence
end IntelAmt
