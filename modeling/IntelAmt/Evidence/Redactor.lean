import IntelAmt.Evidence.Patterns

/-!
# The redactor of the evidence

The values that identify a machine are replaced by tokens, by what they look
like wherever they stand and by the key that they stand under.  A token is kept
for each value, so that the same value has the same token again.
-/

namespace IntelAmt
namespace Evidence

open Foundation Errors

/-!
## Keys
-/

/-- `str.lower` as far as an ASCII text can tell: two letters outside of ASCII
have a lower case that begins with an ASCII letter. -/
def lower (text : List Nat) : List Nat :=
  text.flatMap fun c =>
    if c = 304 then ['i'.toNat, 775]
    else if c = 8490 then ['k'.toNat]
    else if 'A'.toNat ≤ c ∧ c ≤ 'Z'.toNat then [c + 32]
    else [c]

def identifyingKeys : List (String × Category) :=
  [("hostname", Category.hostname), ("host_name", Category.hostname),
    ("host", Category.hostname), ("amt_host", Category.hostname),
    ("username", Category.username), ("user", Category.username),
    ("amt_username", Category.username), ("serial_number", Category.serial),
    ("serialnumber", Category.serial), ("serial", Category.serial),
    ("board_serial", Category.serial), ("chassis_serial", Category.serial),
    ("asset_tag", Category.assetTag), ("assettag", Category.assetTag),
    ("sku", Category.assetTag), ("sku_number", Category.assetTag),
    ("path", Category.path), ("iso_path", Category.path),
    ("image_path", Category.path), ("answer_image_path", Category.path),
    ("cdrom", Category.path), ("floppy", Category.path),
    ("allowed_directory", Category.path), ("runtime_dir", Category.path),
    ("state_file", Category.path)]

/-- `_IDENTIFYING_KEYS.get(key.lower())` -/
def identifying (key : List Nat) : Option Category :=
  (identifyingKeys.find? fun entry => points entry.1 = lower key).map Prod.snd

def exemptKeys : List String := ["raw_hex", "raw_base64", "action", "note"]

def isExempt (key : List Nat) : Bool :=
  exemptKeys.any fun exempt => points exempt = lower key

def propertyShapesKey : List Nat := points "property_shapes"

def propertyShapes : List String :=
  ["absent", "empty", "text", "nested", "repeated"]

def isShape (text : List Nat) : Bool :=
  propertyShapes.any fun shape => points shape = text

def isShapeValue : Json -> Bool
  | Json.str text => isShape text
  | _ => false

/-!
## Names
-/

def preservedDomainSuffixes : List String :=
  ["intel.com", "schemas.dmtf.org", "schemas.xmlsoap.org", "w3.org",
    "oasis-open.org"]

def filenameLabels : List String :=
  ["cfg", "conf", "csv", "html", "img", "ini", "iso", "json", "log", "md",
    "py", "rst", "sh", "txt", "xml", "yaml", "yml"]

/-- `_is_dns_name` -/
def isDnsName (candidate : List Nat) : Bool :=
  let lowered := lower candidate
  !(preservedDomainSuffixes.any fun suffix =>
      points suffix = lowered || (points ("." ++ suffix)).isSuffixOf lowered) &&
    !((lowered.splitOn '.'.toNat).any fun label =>
      filenameLabels.any fun filename => points filename = label)

/-!
## Tokens
-/

/-- `\d`: a decimal digit of any script. -/
def isDecimal (c : Nat) : Bool := Json.isTextDigit (Json.asciiPoint c)

/-- `_TOKEN_RE` -/
def tokenPattern : Regex Nat :=
  Regex.concat
    [Regex.exactly (points "<redacted-"),
      Regex.atLeast 1 (Regex.char fun c =>
        decide ('a'.toNat ≤ c ∧ c ≤ 'z'.toNat) || isDigit c ||
          c = '_'.toNat),
      dash, Regex.atLeast 1 (Regex.char isDecimal),
      Regex.exactly (points ">")]

def isToken (text : List Nat) : Bool := tokenPattern.fullMatch text

/-- The token with a number. -/
def tokenText (category : Category) (n : Nat) : List Nat :=
  points "<redacted-" ++ points category.name ++ points "-" ++
    (Nat.toDigits 10 n).map Char.toNat ++ points ">"

structure Redactor where
  tokens : Category -> List Nat -> Option (List Nat)
  counts : Category -> Nat
  occurrences : Category -> Nat

namespace Redactor

/-- `Redactor()` -/
def new : Redactor where
  tokens _ _ := none
  counts _ := 0
  occurrences _ := 0

/-- A new token for a value. -/
def mint (redactor : Redactor) (category : Category) (value : List Nat) :
    Redactor :=
  let n := redactor.counts category + 1
  { redactor with
    counts := Function.update redactor.counts category n
    tokens := Function.update redactor.tokens category
      (Function.update (redactor.tokens category) value
        (some (tokenText category n))) }

def count (redactor : Redactor) (category : Category) : Redactor :=
  { redactor with
    occurrences := Function.update redactor.occurrences category
      (redactor.occurrences category + 1) }

/-- `token_for` -/
def tokenFor (redactor : Redactor) (category : Category) (value : List Nat) :
    Redactor × List Nat :=
  match redactor.tokens category value with
  | some token => (redactor.count category, token)
  | none =>
      ((redactor.mint category value).count category,
        tokenText category (redactor.counts category + 1))

/-- The `replace` of `redact_text`. -/
def replace (redactor : Redactor) (category : Category) (value : List Nat) :
    Redactor × List Nat :=
  if isToken value then (redactor, value)
  else if category = Category.fqdn ∧ isDnsName value = false then
    (redactor, value)
  else redactor.tokenFor category value

/-- `pattern.sub(replace, text)`, once the text has been searched. -/
def sub (category : Category) :
    Redactor -> List (Piece Nat (List (Nat × List Nat))) ->
      Redactor × List Nat
  | redactor, [] => (redactor, [])
  | redactor, Piece.kept c :: pieces =>
      let later := sub category redactor pieces
      (later.1, c :: later.2)
  | redactor, Piece.found value _ :: pieces =>
      let replaced := redactor.replace category value
      let later := sub category replaced.1 pieces
      (later.1, replaced.2 ++ later.2)

/-- One turn of the loop of `redact_text`. -/
def redactRule (state : Redactor × List Nat) (rule : Rule) :
    Redactor × List Nat :=
  sub rule.category state.1 (scan rule.pattern.find [] 0 state.2)

def redactText (redactor : Redactor) (text : List Nat) :
    Redactor × List Nat :=
  rules.foldl redactRule (redactor, text)

/-- `redact_value` of a string. -/
def redactString (redactor : Redactor) (key : Option (List Nat))
    (value : List Nat) : Redactor × List Nat :=
  if key.any isExempt then (redactor, value)
  else
    let redacted := redactor.redactText value
    if redacted.2 ≠ value then redacted
    else
      match key.bind identifying with
      | some category =>
          if value ≠ [] ∧ isToken value = false then
            redacted.1.tokenFor category value
          else redacted
      | none => redacted

mutual

def redactValue (redactor : Redactor) (key : Option (List Nat)) :
    Json -> Redactor × Json
  | Json.str value =>
      let redacted := redactor.redactString key value
      (redacted.1, Json.str redacted.2)
  | Json.arr items =>
      let redacted := redactItems redactor items
      (redacted.1, Json.arr redacted.2)
  | Json.obj members =>
      let redacted := redactMembers false redactor members
      (redacted.1, Json.obj redacted.2)
  | value => (redactor, value)

def redactItems (redactor : Redactor) : List Json -> Redactor × List Json
  | [] => (redactor, [])
  | item :: items =>
      let redacted := redactValue redactor none item
      let later := redactItems redacted.1 items
      (later.1, redacted.2 :: later.2)

/-- The members of a mapping, or of a census of shapes. -/
def redactMembers (census : Bool) (redactor : Redactor) :
    List (List Nat × Json) -> Redactor × List (List Nat × Json)
  | [] => (redactor, [])
  | (key, Json.obj members) :: rest =>
      let redacted := redactMembers
        (!census && decide (key = propertyShapesKey)) redactor members
      let later := redactMembers census redacted.1 rest
      (later.1, (key, Json.obj redacted.2) :: later.2)
  | (key, value) :: rest =>
      let redacted :=
        if census && isShapeValue value then (redactor, value)
        else redactValue redactor (some key) value
      let later := redactMembers census redacted.1 rest
      (later.1, (key, redacted.2) :: later.2)

end

end Redactor

end Evidence
end IntelAmt
