import IntelAmt.Redirection.TwoRuns

/-!
# The frames of the digest authentication

A frame announces how many bytes follow, and its payload is read back as the
fields that it was put together from.  A field that is too long for the byte of
its length stops the frame before anything is sent.
-/

namespace IntelAmt
namespace Redirection

open Foundation

/-!
## Fields
-/

/-- Length-prefixed fields, one after the other, and what is left over. -/
def readFields : Nat -> Bytes -> Option (List Bytes × Bytes)
  | 0, bytes => some ([], bytes)
  | _ + 1, [] => none
  | count + 1, length :: bytes =>
      if bytes.length < length.toNat then none
      else
        match readFields count (bytes.drop length.toNat) with
        | none => none
        | some (fields, rest) =>
            some (bytes.take length.toNat :: fields, rest)

/-- The length of a field fits into its byte. -/
def Prefixable (field : Bytes) : Prop := field.length ≤ 0xFF

theorem readFields_prefixed {fields : List Bytes}
    (h : forall field, field ∈ fields -> Prefixable field) (rest : Bytes) :
    readFields fields.length (fields.flatMap prefixed ++ rest) =
      some (fields, rest) := by
  induction fields with
  | nil => rfl
  | cons field fields ih =>
      have hshort : field.length ≤ 0xFF := h field List.mem_cons_self
      have hlength : (UInt8.ofNat field.length).toNat = field.length := by
        rw [UInt8.toNat_ofNat']
        exact Nat.mod_eq_of_lt (by lia)
      have hwhole : (field :: fields).flatMap prefixed ++ rest =
          UInt8.ofNat field.length ::
            (field ++ (fields.flatMap prefixed ++ rest)) := by
        rw [List.flatMap_cons, prefixed, List.append_assoc, List.cons_append]
      have hroom : ¬ (field ++ (fields.flatMap prefixed ++ rest)).length <
          field.length := by
        rw [List.length_append]
        lia
      rw [hwhole, List.length_cons, readFields, hlength, if_neg hroom,
        List.drop_left, List.take_left,
        ih fun other hother => h other (List.mem_cons_of_mem _ hother)]

theorem lengthPrefixed_short {field : Bytes} (h : Prefixable field) :
    lengthPrefixed field = Except.ok (prefixed field) :=
  if_neg (Nat.not_lt.mpr h)

/-- A `ProtocolError`. -/
def IsProtocolError (e : Failure) : Prop :=
  exists error, e = Failure.amt error ∧
    error.errorClass = ErrorClass.protocol

theorem lengthPrefixed_long {field : Bytes} (h : ¬ Prefixable field) :
    exists e, lengthPrefixed field = Except.error e ∧ IsProtocolError e := by
  refine ⟨_, if_pos (Nat.not_le.mp h), _, rfl, rfl⟩

theorem prefixedFields_short {fields : List Bytes}
    (h : forall field, field ∈ fields -> Prefixable field) :
    prefixedFields fields = Except.ok (fields.flatMap prefixed) := by
  induction fields with
  | nil => rfl
  | cons field fields ih =>
      rw [prefixedFields, lengthPrefixed_short (h field List.mem_cons_self),
        ih fun other hother => h other (List.mem_cons_of_mem _ hother)]
      rfl

theorem prefixedFields_long {fields : List Bytes}
    (h : exists field, field ∈ fields ∧ ¬ Prefixable field) :
    exists e, prefixedFields fields = Except.error e ∧ IsProtocolError e := by
  induction fields with
  | nil =>
      rcases h with ⟨field, hmem, _⟩
      cases hmem
  | cons field fields ih =>
      rw [prefixedFields]
      by_cases hfield : Prefixable field
      · have hlater : exists other, other ∈ fields ∧ ¬ Prefixable other := by
          rcases h with ⟨other, hmem, hlong⟩
          rcases List.mem_cons.mp hmem with rfl | hmem
          · exact absurd hfield hlong
          · exact ⟨other, hmem, hlong⟩
        rcases ih hlater with ⟨e, he, hprotocol⟩
        rw [lengthPrefixed_short hfield, he]
        exact ⟨e, rfl, hprotocol⟩
      · rcases lengthPrefixed_long hfield with ⟨e, he, hprotocol⟩
        rw [he]
        exact ⟨e, rfl, hprotocol⟩

theorem flatMap_prefixed_length (fields : List Bytes) :
    (fields.flatMap prefixed).length =
      (fields.map List.length).sum + fields.length := by
  induction fields with
  | nil => rfl
  | cons field fields ih =>
      rw [List.flatMap_cons, List.length_append, ih, prefixed,
        List.length_cons, List.map_cons, List.sum_cons, List.length_cons]
      lia

theorem flatMap_prefixed_le {fields : List Bytes}
    (h : forall field, field ∈ fields -> Prefixable field) :
    (fields.flatMap prefixed).length ≤ 256 * fields.length := by
  induction fields with
  | nil => exact Nat.le_refl 0
  | cons field fields ih =>
      have hfield : field.length ≤ 0xFF := h field List.mem_cons_self
      have hfields := ih fun other hother =>
        h other (List.mem_cons_of_mem _ hother)
      rw [List.flatMap_cons, List.length_append, prefixed, List.length_cons,
        List.length_cons]
      lia

/-!
## Frames
-/

/-- A frame of type 4 that announces the bytes of its payload. -/
structure IsFrameOf (payload frame : Bytes) : Prop where
  header : frame.take 5 = [0x13, 0, 0, 0, 0x04]
  length : leNat (slice frame 5 4) = payload.length
  payload : frame.drop 9 = payload

theorem isFrameOf {payload : Bytes} (h : payload.length < 256 ^ 4) :
    IsFrameOf payload
      ([0x13, 0, 0, 0, 0x04] ++ packLE 4 payload.length ++ payload) := by
  have hlength : (packLE 4 payload.length).length = 4 := packLE_length 4 _
  constructor
  · rfl
  · show leNat ((packLE 4 payload.length ++ payload).take 4) = _
    rw [List.take_left' hlength, leNat_packLE_of_lt h]
  · exact List.drop_left' (by rw [List.length_append, hlength]; rfl)

/-- The UTF-8 encoding of the text fits behind the byte of its length. -/
def ShortText (text : List Char) : Prop := Prefixable (encodeUtf8 text)

/-- What `secrets.token_hex` returns. -/
def IsTokenHex (size : Nat) (token : List Char) : Prop :=
  exists bytes : Bytes, bytes.length = size ∧ token = hexdigest bytes

variable {hashes : Hashes} {session : RedirectionSession}

/-- The fields of the answer to a challenge, in their order. -/
def responseFields (hashes : Hashes) (session : RedirectionSession)
    (challenge : Challenge) (cnonce : List Char) : List Bytes :=
  [session.username.toList, challenge.realm, challenge.nonce, authUri, cnonce,
    snc, digestOf hashes session challenge cnonce, challenge.qop].map encodeUtf8

/-- The texts of an answer that are not of a fixed length. -/
def ShortTexts (session : RedirectionSession) (challenge : Challenge) : Prop :=
  ShortText session.username.toList ∧ ShortText challenge.realm ∧
    ShortText challenge.nonce ∧ ShortText challenge.qop

theorem prefixable_cnonce {cnonce : List Char} (h : IsTokenHex 16 cnonce) :
    Prefixable (encodeUtf8 cnonce) := by
  rcases h with ⟨bytes, hbytes, rfl⟩
  rw [Prefixable, encodeUtf8_of_ascii (hexdigest_ascii bytes),
    List.length_map, hexdigest_length, hbytes]
  decide

theorem prefixable_uri : Prefixable (encodeUtf8 authUri) := by
  rw [Prefixable]
  decide

theorem prefixable_snc : Prefixable (encodeUtf8 snc) := by
  rw [Prefixable]
  decide

theorem responseFields_short {challenge : Challenge} {cnonce : List Char}
    (htoken : IsTokenHex 16 cnonce) (h : ShortTexts session challenge) :
    forall field, field ∈ responseFields hashes session challenge cnonce ->
      Prefixable field := by
  rcases h with ⟨huser, hrealm, hnonce, hqop⟩
  have hdigest : Prefixable (encodeUtf8
      (digestOf hashes session challenge cnonce)) := by
    rw [Prefixable, digestOf_length]
    decide
  intro field hfield
  rcases List.mem_map.mp hfield with ⟨text, htext, rfl⟩
  simp only [List.mem_cons, List.not_mem_nil, or_false] at htext
  rcases htext with rfl | rfl | rfl | rfl | rfl | rfl | rfl | rfl
  · exact huser
  · exact hrealm
  · exact hnonce
  · exact prefixable_uri
  · exact prefixable_cnonce htoken
  · exact prefixable_snc
  · exact hdigest
  · exact hqop

theorem digestFrame_eq (challenge : Challenge) (cnonce : List Char) :
    digestFrame hashes session challenge cnonce =
      (prefixedFields (responseFields hashes session challenge cnonce) >>=
        fun payload => pure ([0x13, 0, 0, 0, 0x04] ++
          packLE 4 (((responseFields hashes session challenge cnonce).map
            List.length).sum + 8) ++ payload)) := rfl

theorem digestFrame_short {challenge : Challenge} {cnonce : List Char}
    (htoken : IsTokenHex 16 cnonce) (h : ShortTexts session challenge) :
    exists frame payload,
      digestFrame hashes session challenge cnonce = Except.ok frame ∧
        IsFrameOf payload frame ∧
        readFields 8 payload =
          some (responseFields hashes session challenge cnonce, []) := by
  have hshort := @responseFields_short hashes session challenge cnonce htoken h
  generalize hfields : responseFields hashes session challenge cnonce = fields
    at hshort
  have hcount : fields.length = 8 := by
    rw [← hfields]
    rfl
  have htotal : (fields.map List.length).sum + 8 =
      (fields.flatMap prefixed).length := by
    rw [flatMap_prefixed_length, hcount]
  have hbound : (fields.flatMap prefixed).length < 256 ^ 4 := by
    have hle := flatMap_prefixed_le hshort
    rw [hcount] at hle
    lia
  refine ⟨_, fields.flatMap prefixed, ?_, isFrameOf hbound, ?_⟩
  · rw [digestFrame_eq, hfields, prefixedFields_short hshort, ← htotal]
    rfl
  · have hread := readFields_prefixed hshort []
    rw [hcount, List.append_nil] at hread
    exact hread

theorem digestFrame_long {challenge : Challenge}
    (h : ¬ ShortTexts session challenge) (cnonce : List Char) :
    exists e, digestFrame hashes session challenge cnonce = Except.error e ∧
      IsProtocolError e := by
  have hlong : exists field,
      field ∈ responseFields hashes session challenge cnonce ∧
        ¬ Prefixable field := by
    apply Classical.byContradiction
    intro hnone
    apply h
    have hall : forall field,
        field ∈ responseFields hashes session challenge cnonce ->
          Prefixable field := by
      intro field hmem
      exact Classical.not_not.mp fun hfield => hnone ⟨field, hmem, hfield⟩
    simp only [responseFields, List.map_cons, List.map_nil,
      List.forall_mem_cons] at hall
    exact ⟨hall.1, hall.2.1, hall.2.2.1, hall.2.2.2.2.2.2.2.1⟩
  rcases prefixedFields_long hlong with ⟨e, he, hprotocol⟩
  rw [digestFrame_eq, he]
  exact ⟨e, rfl, hprotocol⟩

theorem digestTypeQuery_eq :
    digestTypeQuery session =
      (lengthPrefixed (encodeUtf8 session.username.toList) >>=
        fun prefixedUser => lengthPrefixed (encodeUtf8 authUri) >>=
          fun prefixedUri => pure ([0x13, 0, 0, 0, 0x04] ++
            packLE 4 ((encodeUtf8 session.username.toList).length +
              (encodeUtf8 authUri).length + 8) ++ prefixedUser ++ [0, 0] ++
            prefixedUri ++ [0, 0, 0, 0])) := rfl

theorem digestTypeQuery_short (h : ShortText session.username.toList) :
    exists frame payload, digestTypeQuery session = Except.ok frame ∧
      IsFrameOf payload frame := by
  have huser : (encodeUtf8 session.username.toList).length ≤ 0xFF := h
  have huri : (encodeUtf8 authUri).length ≤ 0xFF := prefixable_uri
  generalize hpayload : prefixed (encodeUtf8 session.username.toList) ++
    [0, 0] ++ prefixed (encodeUtf8 authUri) ++ [0, 0, 0, 0] = payload
  have hlength : payload.length =
      (encodeUtf8 session.username.toList).length +
        (encodeUtf8 authUri).length + 8 := by
    rw [← hpayload]
    simp only [prefixed, List.length_append, List.length_cons,
      List.length_nil]
    lia
  refine ⟨_, payload, ?_, isFrameOf (by lia)⟩
  rw [digestTypeQuery_eq, lengthPrefixed_short h,
    lengthPrefixed_short prefixable_uri, hlength, ← hpayload]
  simp only [List.append_assoc]
  rfl

theorem digestTypeQuery_long (h : ¬ ShortText session.username.toList) :
    exists e, digestTypeQuery session = Except.error e ∧
      IsProtocolError e := by
  rcases lengthPrefixed_long h with ⟨e, he, hprotocol⟩
  rw [digestTypeQuery_eq, he]
  exact ⟨e, rfl, hprotocol⟩

/-!
## Refusals
-/

/-- A script that ends with a `ProtocolError` and sends nothing. -/
def Refuses {alpha : Type} (x : SocketScript alpha) : Prop :=
  (forall frame, ¬ Script.Asks (SocketOp.sendAll frame) x) ∧
    Script.Assuming (fun _ _ => True) (fun _ => False) IsProtocolError x

theorem refuses_raised {alpha : Type} {e : Failure} (h : IsProtocolError e) :
    Refuses (Script.raised e : SocketScript alpha) :=
  ⟨fun _ hasks => hasks, h⟩

theorem query_refused (h : ¬ ShortText session.username.toList)
    {first : AuthReply} (hlisted : first.authType = 0)
    (hoffered : requiredAuthType ∈ first.authData) (buffer : Bytes) :
    Refuses (decidingReply session first buffer) := by
  rcases digestTypeQuery_long h with ⟨e, he, hprotocol⟩
  rw [decidingReply, if_pos hlisted, if_neg (not_not_intro hoffered), he]
  exact refuses_raised hprotocol

theorem response_refused {challenge : Challenge}
    (h : ¬ ShortTexts session challenge) {alpha : Type}
    (f : Bytes -> SessionM alpha) (buffer : Bytes) :
    Refuses ((digestResponse hashes session challenge >>= f) buffer) := by
  have hdrawn : forall cnonce, Refuses
      ((ofExcept (digestFrame hashes session challenge cnonce) >>= f)
        buffer) := by
    intro cnonce
    rcases @digestFrame_long hashes session challenge h cnonce with
      ⟨e, he, hprotocol⟩
    rw [he]
    exact refuses_raised hprotocol
  constructor
  · rintro frame (hframe | ⟨cnonce, hasks⟩)
    · cases hframe
    · exact (hdrawn cnonce).1 frame hasks
  · exact fun cnonce _ => (hdrawn cnonce).2

theorem answer_refused {authData : Bytes} {challenge : Challenge}
    (hparse : parseChallenge authData = Except.ok challenge)
    (h : ¬ ShortTexts session challenge) (buffer : Bytes) :
    Refuses (answerChallenge hashes session authData buffer) := by
  rw [answerChallenge, hparse]
  show Refuses ((digestResponse hashes session challenge >>= fun response =>
    send session response >>= fun _ => readAuthReply session) buffer)
  exact response_refused h _ buffer

/-- The frames of the digest authentication announce what follows and can be
read back; where a text is too long for them, nothing is sent. -/
theorem digest_frames_well_formed (hashes : Hashes)
    (session : RedirectionSession) :
    (ShortText session.username.toList -> exists frame payload,
        digestTypeQuery session = Except.ok frame ∧
          IsFrameOf payload frame) ∧
      (forall challenge cnonce, ShortTexts session challenge ->
        IsTokenHex 16 cnonce -> exists frame payload,
          digestFrame hashes session challenge cnonce = Except.ok frame ∧
            IsFrameOf payload frame ∧
            readFields 8 payload =
              some (responseFields hashes session challenge cnonce, [])) ∧
      (¬ ShortText session.username.toList -> forall first buffer,
        first.authType = 0 -> requiredAuthType ∈ first.authData ->
          Refuses (decidingReply session first buffer)) ∧
      (forall challenge buffer, ¬ ShortTexts session challenge ->
        Refuses
          ((digestResponse hashes session challenge >>= send session)
            buffer)) ∧
      forall authData challenge buffer,
        parseChallenge authData = Except.ok challenge ->
          ¬ ShortTexts session challenge ->
            Refuses (answerChallenge hashes session authData buffer) := by
  constructor
  · exact digestTypeQuery_short
  constructor
  · exact fun challenge cnonce hshort htoken =>
      digestFrame_short htoken hshort
  constructor
  · exact fun hlong first buffer hlisted hoffered =>
      query_refused hlong hlisted hoffered buffer
  constructor
  · exact fun challenge buffer hlong => response_refused hlong _ buffer
  · exact fun authData challenge buffer hparse hlong =>
      answer_refused hparse hlong buffer

end Redirection
end IntelAmt
