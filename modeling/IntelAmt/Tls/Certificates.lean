import IntelAmt.Tls.Der

/-!
# What is read of a certificate

Every byte string is read to an end, and of what is encoded as a certificate
the names and the end of its validity are read as they were written.
-/

namespace IntelAmt
namespace Tls

open Foundation

/-!
## Every byte string
-/

/-- No loop has used up its rounds. -/
def Finishes {alpha : Type} (x : Except DerStop alpha) : Prop :=
  x ≠ Except.error DerStop.unfinished

section Finishing

variable {alpha beta : Type}

theorem finishes_ok (a : alpha) : Finishes (Except.ok a) :=
  fun h => by cases h

theorem finishes_indexError :
    Finishes (Except.error DerStop.indexError : Except DerStop alpha) :=
  fun h => by cases h

theorem finishes_bind {x : Except DerStop alpha}
    {f : alpha -> Except DerStop beta} (hx : Finishes x)
    (hf : forall a, x = Except.ok a -> Finishes (f a)) :
    Finishes (x >>= f) := by
  cases h : x with
  | ok a => exact hf a h
  | error stop =>
      intro hstop
      cases hstop
      exact hx h

theorem finishes_mapM {f : alpha -> Except DerStop beta}
    (hf : forall a, Finishes (f a)) (items : List alpha) :
    Finishes (items.mapM f) := by
  induction items with
  | nil => exact finishes_ok []
  | cons a items ih =>
      rw [List.mapM_cons]
      apply finishes_bind (hf a)
      intro b _
      apply finishes_bind ih
      intro rest _
      exact finishes_ok (b :: rest)

theorem byteAt_finishes (data : Bytes) (offset : Nat) :
    Finishes (byteAt data offset) := by
  rw [byteAt]
  cases data[offset]? with
  | some b => exact finishes_ok b
  | none => exact finishes_indexError

theorem fieldAt_finishes (fields : List (UInt8 × Bytes)) (index : Nat) :
    Finishes (fieldAt fields index) := by
  rw [fieldAt]
  cases fields[index]? with
  | some field => exact finishes_ok field
  | none => exact finishes_indexError

theorem derReadTlv_finishes (data : Bytes) (offset : Nat) :
    Finishes (derReadTlv data offset) := by
  apply finishes_bind (byteAt_finishes data offset)
  intro tag _
  apply finishes_bind (byteAt_finishes data (offset + 1))
  intro lengthByte _
  dsimp only
  split
  · exact finishes_ok _
  · exact finishes_ok _

theorem derReadTlv_advances {data value : Bytes} {offset next : Nat}
    {tag : UInt8} (h : derReadTlv data offset = Except.ok (tag, value, next)) :
    offset + 2 ≤ next := by
  rw [derReadTlv] at h
  cases hfirst : byteAt data offset with
  | error stop =>
      rw [hfirst] at h
      cases h
  | ok first =>
      cases hsecond : byteAt data (offset + 1) with
      | error stop =>
          rw [hfirst, hsecond] at h
          cases h
      | ok lengthByte =>
          rw [hfirst, hsecond] at h
          simp only [bind, Except.bind, pure, Except.pure] at h
          split at h
          · cases h
            lia
          · cases h
            lia

theorem derChildrenFrom_finishes (content : Bytes) {rounds offset : Nat}
    (h : content.length ≤ offset + rounds) :
    Finishes (derChildrenFrom content rounds offset) := by
  induction rounds generalizing offset with
  | zero =>
      rw [derChildrenFrom, if_neg (by lia)]
      exact finishes_ok []
  | succ rounds ih =>
      rw [derChildrenFrom]
      split
      · apply finishes_bind (derReadTlv_finishes content offset)
        rintro ⟨tag, value, next⟩ hread
        have hnext := derReadTlv_advances hread
        apply finishes_bind (ih (by lia))
        intro rest _
        exact finishes_ok _
      · exact finishes_ok []

theorem derIterChildren_finishes (content : Bytes) :
    Finishes (derIterChildren content) :=
  derChildrenFrom_finishes content (by lia)

theorem attributeParts_finishes (atv : UInt8 × Bytes) :
    Finishes (attributeParts atv) := by
  apply finishes_bind (derIterChildren_finishes atv.2)
  intro fields _
  split
  · exact finishes_ok _
  · exact finishes_ok _

theorem rdnParts_finishes (rdn : UInt8 × Bytes) : Finishes (rdnParts rdn) := by
  apply finishes_bind (derIterChildren_finishes rdn.2)
  intro atvs _
  apply finishes_bind (finishes_mapM attributeParts_finishes atvs)
  intro parts _
  exact finishes_ok _

theorem parseName_finishes (nameContent : Bytes) :
    Finishes (parseName nameContent) := by
  apply finishes_bind (derIterChildren_finishes nameContent)
  intro rdns _
  apply finishes_bind (finishes_mapM rdnParts_finishes rdns)
  intro parts _
  exact finishes_ok _

theorem certificateFields_finishes (der : Bytes) :
    Finishes (certificateFields der) := by
  apply finishes_bind (derReadTlv_finishes der 0)
  intro certificate _
  apply finishes_bind (derReadTlv_finishes certificate.2.1 0)
  intro tbs _
  apply finishes_bind (derIterChildren_finishes tbs.2.1)
  intro fields _
  apply finishes_bind (fieldAt_finishes fields 0)
  intro first _
  apply finishes_bind (fieldAt_finishes fields _)
  intro issuer _
  apply finishes_bind (fieldAt_finishes fields _)
  intro validity _
  apply finishes_bind (fieldAt_finishes fields _)
  intro subject _
  dsimp only
  split
  · exact finishes_ok none
  · apply finishes_bind (parseName_finishes issuer.2)
    intro _ _
    apply finishes_bind (parseName_finishes subject.2)
    intro _ _
    apply finishes_bind (derIterChildren_finishes validity.2)
    intro validityFields _
    apply finishes_bind (fieldAt_finishes validityFields 1)
    intro _ _
    exact finishes_ok _

theorem parseDerCertificate_returns (der : Bytes) :
    exists parsed, parseDerCertificate der = Except.ok parsed := by
  have hfinishes := certificateFields_finishes der
  rw [parseDerCertificate]
  cases hfields : certificateFields der with
  | ok found =>
      cases found with
      | none => exact ⟨none, rfl⟩
      | some names => exact ⟨_, rfl⟩
  | error stop =>
      cases stop with
      | indexError => exact ⟨none, rfl⟩
      | unfinished => exact absurd hfields hfinishes

end Finishing

/-!
## Encoded elements
-/

section Elements

variable {tag : UInt8} {content bytes before behind : Bytes}

theorem shortLength {n : Nat} (h : n < 128) :
    UInt8.ofNat n &&& 0x80 = 0 ∧ (UInt8.ofNat n).toNat = n := by
  have hall : forall n, n < 128 ->
      UInt8.ofNat n &&& 0x80 = 0 ∧ (UInt8.ofNat n).toNat = n := by
    decide +kernel
  exact hall n h

theorem longLength {count : Nat} (h : count < 128) :
    UInt8.ofNat (128 + count) &&& 0x80 ≠ 0 ∧
      (UInt8.ofNat (128 + count) &&& 0x7F).toNat = count := by
  have hall : forall count, count < 128 ->
      UInt8.ofNat (128 + count) &&& 0x80 ≠ 0 ∧
        (UInt8.ofNat (128 + count) &&& 0x7F).toNat = count := by
    decide +kernel
  exact hall count h

theorem byteAt_behind (b : UInt8) :
    byteAt (before ++ b :: behind) before.length = Except.ok b := by
  rw [byteAt, List.getElem?_append_right (Nat.le_refl _), Nat.sub_self]
  rfl

theorem slice_behind :
    slice (before ++ (content ++ behind)) before.length content.length =
      content := by
  rw [slice, List.drop_left, List.take_left]

theorem slice_header (lengthByte : UInt8) :
    slice (before ++ tag :: lengthByte :: (content ++ behind))
      (before.length + 2) content.length = content := by
  have hbehind := @slice_behind content (before ++ [tag, lengthByte]) behind
  rwa [List.append_assoc, List.length_append] at hbehind

theorem derReadTlv_header (lengthByte : UInt8) :
    derReadTlv (before ++ tag :: lengthByte :: behind) before.length =
      if lengthByte &&& 0x80 ≠ 0 then
        let data := before ++ tag :: lengthByte :: behind
        let numLengthBytes := (lengthByte &&& 0x7F).toNat
        let length := beNat (slice data (before.length + 2) numLengthBytes)
        let offset := before.length + 2 + numLengthBytes
        Except.ok (tag, slice data offset length, offset + length)
      else
        Except.ok (tag,
          slice (before ++ tag :: lengthByte :: behind) (before.length + 2)
            lengthByte.toNat,
          before.length + 2 + lengthByte.toNat) := by
  have hlength := @byteAt_behind (before ++ [tag]) behind lengthByte
  rw [List.append_assoc, List.length_append, List.singleton_append,
    List.length_singleton] at hlength
  rw [derReadTlv, byteAt_behind tag, hlength]
  rfl

theorem derReadTlv_short (h : content.length < 128) :
    derReadTlv
        (before ++ tag :: UInt8.ofNat content.length :: (content ++ behind))
        before.length =
      Except.ok (tag, content, before.length + (content.length + 2)) := by
  rcases shortLength h with ⟨hbit, hvalue⟩
  rw [derReadTlv_header, if_neg (not_not_intro hbit), hvalue, slice_header]
  congr 3
  lia

theorem derReadTlv_long {count : Nat} (hcount : count < 127)
    (h : content.length < 256 ^ count) :
    derReadTlv
        (before ++ tag :: UInt8.ofNat (128 + count) ::
          (packBE count content.length ++ (content ++ behind)))
        before.length =
      Except.ok
        (tag, content, before.length + (count + content.length + 2)) := by
  rcases longLength (Nat.lt_succ_of_lt hcount) with ⟨hbit, hvalue⟩
  have hnumber : beNat (slice
      (before ++ tag :: UInt8.ofNat (128 + count) ::
        (packBE count content.length ++ (content ++ behind)))
      (before.length + 2) count) = content.length := by
    have hpacked := @slice_header tag (packBE count content.length) before
      (content ++ behind) (UInt8.ofNat (128 + count))
    rw [packBE_length] at hpacked
    rw [hpacked, beNat, packBE, List.reverse_reverse, leNat_packLE_of_lt h]
  have hcontent : slice
      (before ++ tag :: UInt8.ofNat (128 + count) ::
        (packBE count content.length ++ (content ++ behind)))
      (before.length + 2 + count) content.length = content := by
    have hbehind := @slice_behind content
      (before ++ tag :: UInt8.ofNat (128 + count) ::
        packBE count content.length) behind
    have hoffset : before.length + 2 + count =
        before.length + (count + 1 + 1) := by lia
    rw [List.append_assoc, List.length_append, List.length_cons,
      List.length_cons, packBE_length, List.cons_append,
      List.cons_append] at hbehind
    rw [hoffset]
    exact hbehind
  rw [derReadTlv_header, if_pos hbit]
  dsimp only
  rw [hvalue, hnumber, hcontent]
  congr 3
  lia

/-- An element is read wherever it stands. -/
theorem derReadTlv_encoded (h : Encoded tag content bytes) :
    derReadTlv (before ++ (bytes ++ behind)) before.length =
      Except.ok (tag, content, before.length + bytes.length) := by
  cases h with
  | short hshort => exact derReadTlv_short hshort
  | long count hpos hcount hlong =>
      rw [List.cons_append, List.cons_append, List.append_assoc,
        derReadTlv_long hcount hlong, List.length_cons, List.length_cons,
        List.length_append, packBE_length]

theorem derChildrenFrom_sequenced {fields : List (UInt8 × Bytes)}
    (h : Sequenced Element fields bytes) {rounds : Nat}
    (hrounds : fields.length ≤ rounds) :
    derChildrenFrom (before ++ bytes) rounds before.length =
      Except.ok fields := by
  induction h generalizing before rounds with
  | nil =>
      have hend : ¬ before.length < (before ++ []).length := by
        rw [List.append_nil]
        exact Nat.lt_irrefl _
      cases rounds with
      | zero => rw [derChildrenFrom, if_neg hend]
      | succ rounds => rw [derChildrenFrom, if_neg hend]
  | @cons field fields first rest hfirst hrest ih =>
      cases rounds with
      | zero => cases hrounds
      | succ rounds =>
          have htwo := Encoded.length hfirst
          have hmore : before.length < (before ++ (first ++ rest)).length := by
            rw [List.length_append, List.length_append]
            lia
          have hbehind := @ih (before ++ first) rounds
            (Nat.le_of_succ_le_succ hrounds)
          rw [List.append_assoc, List.length_append] at hbehind
          rw [derChildrenFrom, if_pos hmore, derReadTlv_encoded hfirst]
          simp only [bind, Except.bind, hbehind]
          rfl

theorem derIterChildren_sequenced {fields : List (UInt8 × Bytes)}
    (h : Sequenced Element fields bytes) :
    derIterChildren bytes = Except.ok fields := by
  have hchildren := @derChildrenFrom_sequenced bytes [] fields h bytes.length
    h.length_le
  exact hchildren

end Elements

/-!
## Encoded names
-/

/-- An attribute of a name, with its text under the tag of some string. -/
structure Attribute where
  oid : Bytes
  stringTag : UInt8
  text : List Char

/-- The relative names, each with its attributes. -/
abbrev DistinguishedName := List (List Attribute)

def Attribute.rendered (a : Attribute) : String :=
  shortName a.oid ++ "=" ++ String.ofList a.text

/-- The attributes in their order, or nothing when there are none. -/
def DistinguishedName.rendered (name : DistinguishedName) : Option String :=
  match name.flatten with
  | [] => none
  | attributes => some (",".intercalate (attributes.map Attribute.rendered))

def AttributeWritten (a : Attribute) (content : Bytes) : Prop :=
  Sequenced Element [(0x06, a.oid), (a.stringTag, encodeUtf8 a.text)] content

def RdnWritten : List Attribute -> Bytes -> Prop :=
  Sequenced (Tagged 0x30 AttributeWritten)

def NameWritten : DistinguishedName -> Bytes -> Prop :=
  Sequenced (Tagged 0x31 RdnWritten)

section Names

variable {content : Bytes}

theorem mapM_written {alpha beta : Type} {Written : alpha -> Bytes -> Prop}
    {f : UInt8 × Bytes -> Except DerStop beta} {g : alpha -> beta} {tag : UInt8}
    (hf : forall item content, Written item content ->
      f (tag, content) = Except.ok (g item))
    {items : List alpha} {contents : List Bytes}
    (h : List.Forall₂ Written items contents) :
    (contents.map fun content => (tag, content)).mapM f =
      Except.ok (items.map g) := by
  induction h with
  | nil => rfl
  | cons hwritten _ ih =>
      rw [List.map_cons, List.mapM_cons, hf _ _ hwritten, ih]
      rfl

theorem derDecodeString_encodeUtf8 (text : List Char) :
    derDecodeString (encodeUtf8 text) = String.ofList text := by
  rw [derDecodeString, decodeUtf8_encodeUtf8]

theorem attributeParts_written {a : Attribute} (tag : UInt8)
    (h : AttributeWritten a content) :
    attributeParts (tag, content) = Except.ok [a.rendered] := by
  rw [attributeParts, derIterChildren_sequenced h, Attribute.rendered,
    ← derDecodeString_encodeUtf8]
  rfl

theorem rdnParts_written {attributes : List Attribute} (tag : UInt8)
    (h : RdnWritten attributes content) :
    rdnParts (tag, content) =
      Except.ok (attributes.map Attribute.rendered) := by
  rcases Sequenced.elements h with ⟨contents, hcontents, hsequenced⟩
  have hparts := mapM_written
    (fun a content hwritten => @attributeParts_written content a 0x30 hwritten)
    hcontents
  have hflat : (attributes.map fun a => [a.rendered]).flatten =
      attributes.map Attribute.rendered := by
    rw [← List.flatMap_def, ← List.map_eq_flatMap]
  rw [rdnParts, derIterChildren_sequenced hsequenced]
  simp only [bind, Except.bind, hparts, pure, Except.pure, hflat]

theorem parseName_written {name : DistinguishedName}
    (h : NameWritten name content) :
    parseName content =
      Except.ok (",".intercalate (name.flatten.map Attribute.rendered)) := by
  rcases Sequenced.elements h with ⟨contents, hcontents, hsequenced⟩
  have hparts := mapM_written
    (fun rdn content hwritten => @rdnParts_written content rdn 0x31 hwritten)
    hcontents
  rw [parseName, derIterChildren_sequenced hsequenced]
  simp only [bind, Except.bind, hparts, pure, Except.pure, List.map_flatten]

theorem orNone_rendered (name : DistinguishedName) :
    orNone (",".intercalate (name.flatten.map Attribute.rendered)) =
      name.rendered := by
  rw [DistinguishedName.rendered]
  cases hname : name.flatten with
  | nil => rfl
  | cons a attributes =>
      have hne : ",".intercalate
          ((a :: attributes).map Attribute.rendered) ≠ "" := by
        intro h
        have hlist := congrArg String.toList h
        cases attributes with
        | nil => simp [Attribute.rendered] at hlist
        | cons b attributes => simp [Attribute.rendered] at hlist
      rw [orNone, if_neg hne]

end Names

/-!
## Encoded times
-/

/-- The year of a UTCTime or of a GeneralizedTime. -/
inductive ValidityYear where
  | utc (lastDigits : Fin 100)
  | generalized (year : Fin 10000)

def ValidityYear.tag : ValidityYear -> UInt8
  | utc _ => 0x17
  | generalized _ => 0x18

def ValidityYear.digits : ValidityYear -> List Char
  | utc lastDigits => fixedDigits 2 lastDigits
  | generalized year => fixedDigits 4 year

def ValidityYear.year : ValidityYear -> Nat
  | utc lastDigits =>
      if lastDigits.val < 50 then 2000 + lastDigits.val
      else 1900 + lastDigits.val
  | generalized year => year

structure ValidityTime where
  year : ValidityYear
  month : Fin 100
  day : Fin 100
  hour : Fin 100
  minute : Fin 100
  second : Fin 100

/-- The digits behind the year. -/
def ValidityTime.rest (time : ValidityTime) : List Char :=
  fixedDigits 2 time.month ++ fixedDigits 2 time.day ++
    fixedDigits 2 time.hour ++ fixedDigits 2 time.minute ++
    fixedDigits 2 time.second ++ ['Z']

def ValidityTime.field (time : ValidityTime) : UInt8 × Bytes :=
  (time.year.tag,
    (time.year.digits ++ time.rest).map fun c => UInt8.ofNat c.toNat)

/-- The instant as it is reported. -/
def ValidityTime.instant (time : ValidityTime) : String :=
  String.ofList
    (fixedDigits 4 time.year.year ++ ['-'] ++ fixedDigits 2 time.month ++
      ['-'] ++ fixedDigits 2 time.day ++ ['T'] ++ fixedDigits 2 time.hour ++
      [':'] ++ fixedDigits 2 time.minute ++ [':'] ++
      fixedDigits 2 time.second ++ ['Z'])

section Times

variable (time : ValidityTime)

theorem decodeAscii_ofNat {text : List Char}
    (h : forall c, c ∈ text -> c.toNat < 128) :
    decodeAscii (text.map fun c => UInt8.ofNat c.toNat) = some text := by
  have hbyte : forall c, c ∈ text -> (UInt8.ofNat c.toNat).toNat = c.toNat := by
    intro c hc
    have hsmall := h c hc
    rw [UInt8.toNat_ofNat', Nat.mod_eq_of_lt (by lia)]
  have hall : (text.map fun c => UInt8.ofNat c.toNat).all
      (fun b => b.toNat < 128) = true := by
    rw [List.all_map, List.all_eq_true]
    intro c hc
    rw [Function.comp_apply, hbyte c hc]
    exact decide_eq_true (h c hc)
  have hchars : (text.map fun c => UInt8.ofNat c.toNat).map
      (fun b => Char.ofNat b.toNat) = text := by
    rw [List.map_map]
    conv_rhs => rw [← List.map_id text]
    apply List.map_congr_left
    intro c hc
    rw [Function.comp_apply, hbyte c hc, Char.ofNat_toNat]
    rfl
  rw [decodeAscii, if_pos hall, hchars]

theorem ValidityTime.ascii :
    forall c, c ∈ time.year.digits ++ time.rest -> c.toNat < 128 := by
  intro c hc
  have hdigit : forall {width n : Nat}, c ∈ fixedDigits width n ->
      c.toNat < 128 := by
    intro width n hmem
    have hbounds := toNat_fixedDigits hmem
    lia
  simp only [ValidityTime.rest, List.mem_append, List.mem_singleton] at hc
  rcases hc with hyear | ((((hc | hc) | hc) | hc) | hc) | hc
  · cases hform : time.year with
    | utc lastDigits =>
        rw [hform] at hyear
        exact hdigit hyear
    | generalized year =>
        rw [hform] at hyear
        exact hdigit hyear
  · exact hdigit hc
  · exact hdigit hc
  · exact hdigit hc
  · exact hdigit hc
  · exact hdigit hc
  · rw [hc]
    decide

theorem intAt_fixedDigits {width n : Nat} {before behind : List Char}
    (hpos : 0 < width) (hwidth : width ≤ Json.maxTextDigits)
    (hn : n < 10 ^ width) :
    intAt (before ++ (fixedDigits width n ++ behind)) before.length width =
      some (n : Int) := by
  rw [intAt, List.drop_left, List.take_left' (fixedDigits_length width n)]
  exact textInt_fixedDigits hpos hwidth hn

theorem intAt_pair (n : Fin 100) {before behind : List Char} :
    intAt (before ++ (fixedDigits 2 n ++ behind)) before.length 2 =
      some ((n : Nat) : Int) :=
  intAt_fixedDigits (by lia) (by decide) n.isLt

theorem zeroPadded_pair (n : Fin 100) :
    zeroPadded 2 ((n : Nat) : Int) = String.ofList (fixedDigits 2 n) :=
  zeroPadded_natCast n.isLt

theorem ValidityYear.year_lt (year : ValidityYear) : year.year < 10 ^ 4 := by
  cases year with
  | utc lastDigits =>
      have hlt := lastDigits.isLt
      rw [ValidityYear.year]
      split
      · lia
      · lia
  | generalized year => exact year.isLt

/-- The year is read in two digits or in four, as the tag says. -/
theorem derDecodeYear_digits (year : ValidityYear) (rest : List Char) :
    derDecodeYear year.tag (year.digits ++ rest) =
      some ((year.year : Int), rest) := by
  cases year with
  | utc lastDigits =>
      have hread := @intAt_pair lastDigits [] rest
      have hyear : ((lastDigits : Nat) : Int) +
          (if ((lastDigits : Nat) : Int) < 50 then 2000 else 1900) =
            ((ValidityYear.utc lastDigits).year : Int) := by
        rw [ValidityYear.year]
        split
        · rw [if_pos (by lia)]
          lia
        · rw [if_neg (by lia)]
          lia
      rw [List.nil_append, List.length_nil] at hread
      rw [derDecodeYear, ValidityYear.digits, ValidityYear.tag, if_pos rfl,
        hread, List.drop_left' (fixedDigits_length 2 lastDigits), ← hyear]
      rfl
  | generalized year =>
      have hread := @intAt_fixedDigits 4 year [] rest (by lia) (by decide)
        year.isLt
      have htag : ¬ (0x18 : UInt8) = 0x17 := by decide
      rw [List.nil_append, List.length_nil] at hread
      rw [derDecodeYear, ValidityYear.digits, ValidityYear.tag, if_neg htag,
        hread, List.drop_left' (fixedDigits_length 4 year)]
      rfl

theorem derDecodeTime_field :
    derDecodeTime time.field.1 time.field.2 = some time.instant := by
  have hmonth : intAt time.rest 0 2 = some ((time.month : Nat) : Int) := by
    have hread := @intAt_pair time.month []
    simpa [ValidityTime.rest] using hread
  have hday : intAt time.rest 2 2 = some ((time.day : Nat) : Int) := by
    have hread := @intAt_pair time.day (fixedDigits 2 time.month)
    simpa [ValidityTime.rest] using hread
  have hhour : intAt time.rest 4 2 = some ((time.hour : Nat) : Int) := by
    have hread := @intAt_pair time.hour
      (fixedDigits 2 time.month ++ fixedDigits 2 time.day)
    simpa [ValidityTime.rest] using hread
  have hminute : intAt time.rest 6 2 = some ((time.minute : Nat) : Int) := by
    have hread := @intAt_pair time.minute
      (fixedDigits 2 time.month ++ fixedDigits 2 time.day ++
        fixedDigits 2 time.hour)
    simpa [ValidityTime.rest] using hread
  have hsecond : intAt time.rest 8 2 = some ((time.second : Nat) : Int) := by
    have hread := @intAt_pair time.second
      (fixedDigits 2 time.month ++ fixedDigits 2 time.day ++
        fixedDigits 2 time.hour ++ fixedDigits 2 time.minute)
    simpa [ValidityTime.rest] using hread
  rw [derDecodeTime, ValidityTime.field, decodeAscii_ofNat time.ascii]
  simp only [bind, Option.bind_some, derDecodeYear_digits, hmonth, hday, hhour,
    hminute, hsecond, zeroPadded_pair, zeroPadded_natCast time.year.year_lt,
    pure, ValidityTime.instant, String.ofList_append]

end Times

/-!
## Encoded certificates
-/

/-- What a certificate says.  The fields that nobody asks for stand for
themselves. -/
structure Certificate where
  version : Option Bytes
  serialNumber : Bytes
  signature : Bytes
  issuer : DistinguishedName
  notBefore : ValidityTime
  notAfter : ValidityTime
  subject : DistinguishedName
  behindSubject : List (UInt8 × Bytes)
  behindTbs : List (UInt8 × Bytes)

def Certificate.versionField (c : Certificate) : List (UInt8 × Bytes) :=
  match c.version with
  | none => []
  | some version => [(0xA0, version)]

def TbsWritten (c : Certificate) (content : Bytes) : Prop :=
  exists issuer validity subject,
    NameWritten c.issuer issuer ∧
      Sequenced Element [c.notBefore.field, c.notAfter.field] validity ∧
      NameWritten c.subject subject ∧
      Sequenced Element
        (c.versionField ++
          [(0x02, c.serialNumber), (0x30, c.signature), (0x30, issuer),
            (0x30, validity), (0x30, subject)] ++ c.behindSubject) content

def CertificateWritten (c : Certificate) (content : Bytes) : Prop :=
  exists tbs last, Tagged 0x30 TbsWritten c tbs ∧
    Sequenced Element c.behindTbs last ∧ content = tbs ++ last

/-- The bytes encode the certificate. -/
def EncodedCertificate : Certificate -> Bytes -> Prop :=
  Tagged 0x30 CertificateWritten

def Certificate.names (c : Certificate) : CertificateNames where
  subject := c.subject.rendered
  issuer := c.issuer.rendered
  notAfter := some c.notAfter.instant

theorem derReadTlv_start {tag : UInt8} {content bytes : Bytes}
    (h : Encoded tag content bytes) (behind : Bytes) :
    derReadTlv (bytes ++ behind) 0 =
      Except.ok (tag, content, bytes.length) := by
  have hread := @derReadTlv_encoded tag content bytes [] behind h
  simpa using hread

theorem certificateFields_encoded {c : Certificate} {der : Bytes}
    (h : EncodedCertificate c der) :
    certificateFields der =
      Except.ok (some
        (",".intercalate (c.subject.flatten.map Attribute.rendered),
          ",".intercalate (c.issuer.flatten.map Attribute.rendered),
          some c.notAfter.instant)) := by
  rcases h with ⟨content, ⟨tbs, last, htbs, _, rfl⟩, hcertificate⟩
  rcases htbs with ⟨tbsContent, hwritten, hencoded⟩
  rcases hwritten with
    ⟨issuer, validity, subject, hissuer, hvalidity, hsubject, hfields⟩
  have hder := derReadTlv_start hcertificate []
  rw [List.append_nil] at hder
  rw [certificateFields, hder]
  simp only [bind, Except.bind, derReadTlv_start hencoded,
    derIterChildren_sequenced hfields]
  cases hversion : c.version with
  | none =>
      simp [Certificate.versionField, hversion, fieldAt,
        parseName_written hissuer, parseName_written hsubject,
        derIterChildren_sequenced hvalidity, derDecodeTime_field, pure,
        Except.pure]
  | some version =>
      simp [Certificate.versionField, hversion, fieldAt,
        parseName_written hissuer, parseName_written hsubject,
        derIterChildren_sequenced hvalidity, derDecodeTime_field, pure,
        Except.pure]

/-- Of every byte string the decoder returns something or nothing, and of an
encoded certificate it returns the names, attribute by attribute, and the end
of the validity. -/
theorem parseDerCertificate_reads :
    (forall der, exists parsed, parseDerCertificate der = Except.ok parsed) ∧
      forall c der, EncodedCertificate c der ->
        parseDerCertificate der = Except.ok (some c.names) := by
  constructor
  · exact parseDerCertificate_returns
  · intro c der h
    rw [parseDerCertificate, certificateFields_encoded h]
    simp only [orNone_rendered, Certificate.names]

/-- An element whose length is one byte. -/
def shortElement (field : UInt8 × Bytes) : Bytes :=
  field.1 :: UInt8.ofNat field.2.length :: field.2

theorem sequenced_shortElement {fields : List (UInt8 × Bytes)}
    (h : forall field, field ∈ fields -> field.2.length < 128) :
    Sequenced Element fields (fields.flatMap shortElement) := by
  induction fields with
  | nil => exact Sequenced.nil
  | cons field fields ih =>
      rw [List.flatMap_cons]
      apply Sequenced.cons
      · exact Encoded.short (h field List.mem_cons_self)
      · exact ih fun other hmem => h other (List.mem_cons_of_mem field hmem)

/-- A certificate of a host that nobody has issued. -/
def hostCertificate : Certificate where
  version := some [0x02, 0x01, 0x02]
  serialNumber := [1]
  signature := []
  issuer := []
  notBefore := ⟨ValidityYear.generalized 1949, 12, 31, 23, 59, 59⟩
  notAfter := ⟨ValidityYear.utc 49, 12, 31, 23, 59, 59⟩
  subject := [[⟨[0x55, 0x04, 0x03], 0x0C, ['a', 'm', 't']⟩]]
  behindSubject := [(0x30, [])]
  behindTbs := [(0x30, []), (0x03, [0])]

def hostAttribute : Bytes :=
  [((0x06 : UInt8), ([0x55, 0x04, 0x03] : Bytes)),
    (0x0C, encodeUtf8 ['a', 'm', 't'])].flatMap shortElement

def hostSubject : Bytes :=
  shortElement (0x31, shortElement (0x30, hostAttribute))

def hostValidity : Bytes :=
  [hostCertificate.notBefore.field,
    hostCertificate.notAfter.field].flatMap shortElement

def hostTbs : Bytes :=
  [((0xA0 : UInt8), ([0x02, 0x01, 0x02] : Bytes)), (0x02, [1]), (0x30, []),
    (0x30, []), (0x30, hostValidity), (0x30, hostSubject),
    (0x30, [])].flatMap shortElement

def hostSigned : Bytes :=
  shortElement (0x30, hostTbs) ++
    [((0x30 : UInt8), ([] : Bytes)), (0x03, [0])].flatMap shortElement

/-- The whole encoding, with a length of two bytes. -/
def hostDer : Bytes := 0x30 :: 130 :: (packBE 2 hostSigned.length ++ hostSigned)

theorem hostSubject_written : NameWritten hostCertificate.subject hostSubject := by
  have hattribute : Tagged 0x30 AttributeWritten
      ⟨[0x55, 0x04, 0x03], 0x0C, ['a', 'm', 't']⟩
      (shortElement (0x30, hostAttribute)) := by
    refine ⟨hostAttribute, sequenced_shortElement ?_, Encoded.short ?_⟩
    · decide +kernel
    · decide +kernel
  have hrdn : RdnWritten [⟨[0x55, 0x04, 0x03], 0x0C, ['a', 'm', 't']⟩]
      (shortElement (0x30, hostAttribute) ++ []) :=
    Sequenced.cons hattribute Sequenced.nil
  rw [List.append_nil] at hrdn
  have hname := @Sequenced.cons _ (Tagged 0x31 RdnWritten) _ [] hostSubject []
    ⟨_, hrdn, Encoded.short (by decide +kernel)⟩ Sequenced.nil
  rw [List.append_nil] at hname
  exact hname

theorem hostTbs_written : TbsWritten hostCertificate hostTbs := by
  refine ⟨[], hostValidity, hostSubject, Sequenced.nil, ?_,
    hostSubject_written, ?_⟩
  · exact sequenced_shortElement (by decide +kernel)
  · exact sequenced_shortElement (by decide +kernel)

theorem hostDer_encoded : EncodedCertificate hostCertificate hostDer := by
  refine ⟨hostSigned, ⟨_, _, ⟨hostTbs, hostTbs_written, Encoded.short ?_⟩,
    sequenced_shortElement ?_, rfl⟩, Encoded.long 2 ?_ ?_ ?_⟩
  · decide +kernel
  · decide +kernel
  · lia
  · lia
  · decide +kernel

theorem parseDerCertificate_host :
    parseDerCertificate hostDer =
      Except.ok
        (some ⟨some "CN=amt", none, some "2049-12-31T23:59:59Z"⟩) := by
  have hnames : hostCertificate.names =
      ⟨some "CN=amt", none, some "2049-12-31T23:59:59Z"⟩ := by
    decide +kernel
  rw [← hnames]
  exact parseDerCertificate_reads.2 hostCertificate hostDer hostDer_encoded

end Tls
end IntelAmt
