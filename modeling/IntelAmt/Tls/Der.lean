import IntelAmt.Foundation.Decimals
import IntelAmt.Foundation.Hex
import IntelAmt.Foundation.Text
import IntelAmt.Foundation.Tlv

/-!
# Reading a certificate without its parser

The decoder for the fields of a peer certificate that is not validated, from
`_der_read_tlv` to `_parse_der_certificate`.
-/

namespace IntelAmt
namespace Tls

open Foundation

/-- Why the decoder stops: an index is out of range, or a loop has used up its
rounds. -/
inductive DerStop where
  | indexError
  | unfinished
deriving DecidableEq, Repr

def byteAt (data : Bytes) (offset : Nat) : Except DerStop UInt8 :=
  match data[offset]? with
  | some b => Except.ok b
  | none => Except.error DerStop.indexError

/-- `_der_read_tlv`. -/
def derReadTlv (data : Bytes) (offset : Nat) :
    Except DerStop (UInt8 × Bytes × Nat) := do
  let tag ← byteAt data offset
  let lengthByte ← byteAt data (offset + 1)
  let offset := offset + 2
  if lengthByte &&& 0x80 ≠ 0 then
    let numLengthBytes := (lengthByte &&& 0x7F).toNat
    let length := beNat (slice data offset numLengthBytes)
    let offset := offset + numLengthBytes
    pure (tag, slice data offset length, offset + length)
  else
    let length := lengthByte.toNat
    pure (tag, slice data offset length, offset + length)

/-- The loop of `_der_iter_children`, for some rounds at most. -/
def derChildrenFrom (content : Bytes) :
    Nat -> Nat -> Except DerStop (List (UInt8 × Bytes))
  | 0, offset =>
      if offset < content.length then Except.error DerStop.unfinished
      else Except.ok []
  | rounds + 1, offset =>
      if offset < content.length then do
        let (tag, value, offset) ← derReadTlv content offset
        let rest ← derChildrenFrom content rounds offset
        pure ((tag, value) :: rest)
      else Except.ok []

/-- `_der_iter_children`. -/
def derIterChildren (content : Bytes) :
    Except DerStop (List (UInt8 × Bytes)) :=
  derChildrenFrom content content.length 0

/-- `_der_decode_string`. -/
def derDecodeString (value : Bytes) : String :=
  match decodeUtf8 value with
  | some text => String.ofList text
  | none => String.ofList (value.map fun b => Char.ofNat b.toNat)

/-- `bytes.decode("ascii")`. -/
def decodeAscii (value : Bytes) : Option (List Char) :=
  if value.all (fun b => b.toNat < 128) then
    some (value.map fun b => Char.ofNat b.toNat)
  else none

def intAt (text : List Char) (offset length : Nat) : Option Int :=
  Json.textInt (((text.drop offset).take length).map Char.toNat)

/-- The year of `_der_decode_time`, and the text behind it. -/
def derDecodeYear (tag : UInt8) (text : List Char) :
    Option (Int × List Char) :=
  if tag = 0x17 then do
    let year ← intAt text 0 2
    pure (year + (if year < 50 then 2000 else 1900), text.drop 2)
  else do
    let year ← intAt text 0 4
    pure (year, text.drop 4)

/-- `_der_decode_time`. -/
def derDecodeTime (tag : UInt8) (value : Bytes) : Option String := do
  let text ← decodeAscii value
  let (year, rest) ← derDecodeYear tag text
  let month ← intAt rest 0 2
  let day ← intAt rest 2 2
  let hour ← intAt rest 4 2
  let minute ← intAt rest 6 2
  let second ← intAt rest 8 2
  pure (zeroPadded 4 year ++ "-" ++ zeroPadded 2 month ++ "-" ++
    zeroPadded 2 day ++ "T" ++ zeroPadded 2 hour ++ ":" ++
    zeroPadded 2 minute ++ ":" ++ zeroPadded 2 second ++ "Z")

def rdnOidShortNames : List (String × String) :=
  [("550403", "CN"), ("550406", "C"), ("550407", "L"), ("550408", "ST"),
    ("55040a", "O"), ("55040b", "OU")]

def shortName (oid : Bytes) : String :=
  (rdnOidShortNames.lookup (hexOf oid)).getD ("OID." ++ hexOf oid)

/-- What `_parse_name` makes of one attribute. -/
def attributeParts (atv : UInt8 × Bytes) : Except DerStop (List String) := do
  let fields ← derIterChildren atv.2
  match fields with
  | [(_, oidValue), (_, strValue)] =>
      pure [shortName oidValue ++ "=" ++ derDecodeString strValue]
  | _ => pure []

def rdnParts (rdn : UInt8 × Bytes) : Except DerStop (List String) := do
  let atvs ← derIterChildren rdn.2
  let parts ← atvs.mapM attributeParts
  pure parts.flatten

/-- `_parse_name`. -/
def parseName (nameContent : Bytes) : Except DerStop String := do
  let rdns ← derIterChildren nameContent
  let parts ← rdns.mapM rdnParts
  pure (",".intercalate parts.flatten)

def fieldAt (fields : List (UInt8 × Bytes)) (index : Nat) :
    Except DerStop (UInt8 × Bytes) :=
  match fields[index]? with
  | some field => Except.ok field
  | none => Except.error DerStop.indexError

/-- The `try` block of `_parse_der_certificate`. -/
def certificateFields (der : Bytes) :
    Except DerStop (Option (String × String × Option String)) := do
  let (_, certificateContent, _) ← derReadTlv der 0
  let (_, tbsContent, _) ← derReadTlv certificateContent 0
  let fields ← derIterChildren tbsContent
  let first ← fieldAt fields 0
  let index := (if first.1 = 0xA0 then 1 else 0) + 2
  let (issuerTag, issuerContent) ← fieldAt fields index
  let (_, validityContent) ← fieldAt fields (index + 1)
  let (subjectTag, subjectContent) ← fieldAt fields (index + 2)
  if issuerTag ≠ 0x30 ∨ subjectTag ≠ 0x30 then pure none
  else do
    let issuer ← parseName issuerContent
    let subject ← parseName subjectContent
    let validityFields ← derIterChildren validityContent
    let (notAfterTag, notAfterValue) ← fieldAt validityFields 1
    pure (some (subject, issuer, derDecodeTime notAfterTag notAfterValue))

structure CertificateNames where
  subject : Option String
  issuer : Option String
  notAfter : Option String
deriving DecidableEq, Repr

def orNone (text : String) : Option String :=
  if text = "" then none else some text

/-- `_parse_der_certificate`. -/
def parseDerCertificate (der : Bytes) :
    Except DerStop (Option CertificateNames) :=
  match certificateFields der with
  | Except.ok (some (subject, issuer, notAfter)) =>
      Except.ok (some ⟨orNone subject, orNone issuer, notAfter⟩)
  | Except.ok none => Except.ok none
  | Except.error DerStop.indexError => Except.ok none
  | Except.error DerStop.unfinished => Except.error DerStop.unfinished

end Tls
end IntelAmt
