import IntelAmt.Redirection.Authentication

/-!
# Failures of the handshake

Whatever the peer sends and however the socket fails, a handshake fails with
an error of the collection, unless it was given a challenge whose three
fields are not there or are not texts.
-/

namespace IntelAmt
namespace Redirection

open Foundation

/-!
## Challenges
-/

/-- A field behind the byte of its length. -/
def prefixed (field : Bytes) : Bytes := UInt8.ofNat field.length :: field

/-- The three fields of a challenge are in the data. -/
def HoldsFields (authData realm nonce qop : Bytes) : Prop :=
  realm.length < 256 ∧ nonce.length < 256 ∧ qop.length < 256 ∧
    (prefixed realm ++ prefixed nonce ++ prefixed qop) <+: authData

/-- No length points behind the end of the data. -/
def Fits (authData : Bytes) : Prop :=
  exists realm nonce qop, HoldsFields authData realm nonce qop

/-- The three fields are there, and they are texts. -/
def WellFormed (authData : Bytes) : Prop :=
  exists realm nonce qop, HoldsFields authData realm nonce qop ∧
    (decodeUtf8 realm).isSome ∧ (decodeUtf8 nonce).isSome ∧
      (decodeUtf8 qop).isSome

theorem WellFormed.fits {authData : Bytes} (h : WellFormed authData) :
    Fits authData := by
  rcases h with ⟨realm, nonce, qop, hholds, _⟩
  exact ⟨realm, nonce, qop, hholds⟩

theorem readField_prefixed (before field after : Bytes)
    (h : field.length < 256) :
    readField (before ++ prefixed field ++ after) before.length =
      match decodeUtf8 field with
      | none => Except.error (Failure.other Uncaught.unicodeDecode)
      | some text => Except.ok (text, (before ++ prefixed field).length) := by
  have hlength : (UInt8.ofNat field.length).toNat = field.length := by
    rw [UInt8.toNat_ofNat']
    exact Nat.mod_eq_of_lt h
  have hhead : (before ++ prefixed field ++ after)[before.length]? =
      some (UInt8.ofNat field.length) := by
    rw [List.append_assoc, List.getElem?_append_right (Nat.le_refl _),
      Nat.sub_self]
    rfl
  have hfield : slice (before ++ prefixed field ++ after)
      (before.length + 1) field.length = field := by
    have hwhole : before ++ prefixed field ++ after =
        (before ++ [UInt8.ofNat field.length]) ++ (field ++ after) := by
      simp [prefixed]
    have hfront : (before ++ [UInt8.ofNat field.length]).length =
        before.length + 1 := by
      simp
    rw [hwhole, slice, ← hfront, List.drop_left, List.take_left]
  have hend : (before ++ prefixed field).length =
      before.length + 1 + field.length := by
    simp [prefixed]
    lia
  cases hdecoded : decodeUtf8 field with
  | none => simp only [readField, hhead, hlength, hfield, hdecoded]
  | some text =>
      simp only [readField, hhead, hlength, hfield, hend, hdecoded]

theorem parseChallenge_of_holds {authData realm nonce qop : Bytes}
    (h : HoldsFields authData realm nonce qop) :
    parseChallenge authData =
      match decodeUtf8 realm, decodeUtf8 nonce, decodeUtf8 qop with
      | some realm, some nonce, some qop =>
          Except.ok { realm := realm, nonce := nonce, qop := qop }
      | _, _, _ => Except.error (Failure.other Uncaught.unicodeDecode) := by
  rcases h with ⟨hrealm, hnonce, hqop, trailing, hdata⟩
  have hfirst := readField_prefixed [] realm
    (prefixed nonce ++ prefixed qop ++ trailing) hrealm
  have hsecond := readField_prefixed (prefixed realm) nonce
    (prefixed qop ++ trailing) hnonce
  have hthird := readField_prefixed (prefixed realm ++ prefixed nonce) qop
    trailing hqop
  simp only [List.nil_append, List.length_nil, List.append_assoc]
    at hfirst hsecond hthird hdata
  rw [hdata] at hfirst hsecond hthird
  unfold parseChallenge
  rw [hfirst]
  cases decodeUtf8 realm with
  | none => rfl
  | some realm =>
      change (readField authData _ >>= _) = _
      rw [hsecond]
      cases decodeUtf8 nonce with
      | none => rfl
      | some nonce =>
          change (readField authData _ >>= _) = _
          rw [hthird]
          cases decodeUtf8 qop with
          | none => rfl
          | some qop => rfl

theorem parseChallenge_wellFormed {authData : Bytes}
    (h : WellFormed authData) :
    exists challenge, parseChallenge authData = Except.ok challenge := by
  rcases h with ⟨realm, nonce, qop, hholds, hrealm, hnonce, hqop⟩
  rw [parseChallenge_of_holds hholds]
  rcases Option.isSome_iff_exists.mp hrealm with ⟨realm', hrealm⟩
  rcases Option.isSome_iff_exists.mp hnonce with ⟨nonce', hnonce⟩
  rcases Option.isSome_iff_exists.mp hqop with ⟨qop', hqop⟩
  rw [hrealm, hnonce, hqop]
  exact ⟨_, rfl⟩

theorem wellFormed_of_parse {authData : Bytes} {challenge : Challenge}
    (hfits : Fits authData)
    (h : parseChallenge authData = Except.ok challenge) :
    WellFormed authData := by
  rcases hfits with ⟨realm, nonce, qop, hholds⟩
  rw [parseChallenge_of_holds hholds] at h
  refine ⟨realm, nonce, qop, hholds, ?_⟩
  cases hrealm : decodeUtf8 realm with
  | none =>
      rw [hrealm] at h
      cases h
  | some realm =>
      cases hnonce : decodeUtf8 nonce with
      | none =>
          rw [hrealm, hnonce] at h
          cases h
      | some nonce =>
          cases hqop : decodeUtf8 qop with
          | none =>
              rw [hrealm, hnonce, hqop] at h
              cases h
          | some qop => exact ⟨rfl, rfl, rfl⟩

theorem readField_error {authData : Bytes} {position : Nat} {e : Failure}
    (h : readField authData position = Except.error e) : ¬ Classified e := by
  have hother : exists u, e = Failure.other u := by
    unfold readField at h
    split at h
    · cases h
      exact ⟨_, rfl⟩
    · split at h
      · cases h
        exact ⟨_, rfl⟩
      · cases h
  rcases hother with ⟨u, he⟩
  rintro ⟨error, herror⟩
  rw [he] at herror
  cases herror

theorem parseChallenge_error {authData : Bytes} {e : Failure}
    (h : parseChallenge authData = Except.error e) : ¬ Classified e := by
  unfold parseChallenge at h
  cases hrealm : readField authData 0 with
  | error e' =>
      rw [hrealm] at h
      cases h
      exact readField_error hrealm
  | ok realm =>
      rw [hrealm] at h
      change (readField authData realm.2 >>= _) = _ at h
      cases hnonce : readField authData realm.2 with
      | error e' =>
          rw [hnonce] at h
          cases h
          exact readField_error hnonce
      | ok nonce =>
          rw [hnonce] at h
          change (readField authData nonce.2 >>= _) = _ at h
          cases hqop : readField authData nonce.2 with
          | error e' =>
              rw [hqop] at h
              cases h
              exact readField_error hqop
          | ok qop =>
              rw [hqop] at h
              cases h

/-!
## Failures of the talk
-/

section Talking

variable {session : RedirectionSession}

theorem startReply_fails :
    Talk.FailsWith Classified (Wire.startReply session) := by
  refine Talk.failsWith_bind (Talk.failsWith_take 13) fun header => ?_
  split
  · exact Talk.failsWith_raised ⟨_, rfl⟩
  · split
    · exact Talk.failsWith_raised ⟨_, rfl⟩
    · exact Talk.failsWith_bind (Talk.failsWith_take _) fun _ =>
        Talk.failsWith_returned ()

theorem authReply_fails :
    Talk.FailsWith Classified (Wire.authReply session) := by
  refine Talk.failsWith_bind (Talk.failsWith_take 9) fun header => ?_
  split
  · exact Talk.failsWith_raised ⟨_, rfl⟩
  · exact Talk.failsWith_bind (Talk.failsWith_take _) fun _ =>
      Talk.failsWith_returned _

theorem lengthPrefixed_error {value : Bytes} {e : Failure}
    (h : lengthPrefixed value = Except.error e) : Classified e := by
  unfold lengthPrefixed at h
  split at h
  · cases h
    exact ⟨_, rfl⟩
  · cases h

theorem prefixedFields_error {fields : List Bytes} {e : Failure}
    (h : prefixedFields fields = Except.error e) : Classified e := by
  induction fields with
  | nil => cases h
  | cons field rest ih =>
      unfold prefixedFields at h
      cases hfirst : lengthPrefixed field with
      | error e' =>
          rw [hfirst] at h
          cases h
          exact lengthPrefixed_error hfirst
      | ok first =>
          rw [hfirst] at h
          change (prefixedFields rest >>= _) = _ at h
          cases hrest : prefixedFields rest with
          | error e' =>
              rw [hrest] at h
              cases h
              exact ih hrest
          | ok others =>
              rw [hrest] at h
              cases h

theorem told_fails {alpha : Type} {result : Except Failure alpha}
    (h : forall e, result = Except.error e -> Classified e) :
    Talk.FailsWith Classified (told result) := by
  cases result with
  | ok a => exact Talk.failsWith_returned a
  | error e => exact Talk.failsWith_raised (h e rfl)

theorem digestTypeQuery_error {e : Failure}
    (h : digestTypeQuery session = Except.error e) : Classified e := by
  unfold digestTypeQuery at h
  dsimp only at h
  cases huser : lengthPrefixed (encodeUtf8 session.username.toList) with
  | error e' =>
      rw [huser] at h
      cases h
      exact lengthPrefixed_error huser
  | ok user =>
      cases huri : lengthPrefixed (encodeUtf8 authUri) with
      | error e' =>
          rw [huser, huri] at h
          cases h
          exact lengthPrefixed_error huri
      | ok uri =>
          rw [huser, huri] at h
          cases h

theorem digestFrame_error {hashes : Hashes} {challenge : Challenge}
    {cnonce : List Char} {e : Failure}
    (h : digestFrame hashes session challenge cnonce = Except.error e) :
    Classified e := by
  unfold digestFrame at h
  dsimp only at h
  generalize hfields : prefixedFields _ = result at h
  cases result with
  | error e' =>
      cases h
      exact prefixedFields_error hfields
  | ok payload => cases h

theorem decision_fails :
    Talk.FailsWith Classified (Wire.decision session) := by
  refine Talk.failsWith_bind (Talk.failsWith_say _ ()) fun _ => ?_
  refine Talk.failsWith_bind startReply_fails fun _ => ?_
  refine Talk.failsWith_bind (Talk.failsWith_say _ ()) fun _ => ?_
  refine Talk.failsWith_bind authReply_fails fun first => ?_
  unfold Wire.decidingReply
  split
  · split
    · exact Talk.failsWith_raised ⟨_, rfl⟩
    · refine Talk.failsWith_bind
        (told_fails fun e => digestTypeQuery_error) fun query => ?_
      exact Talk.failsWith_bind (Talk.failsWith_say _ ()) fun _ =>
        authReply_fails
  · exact Talk.failsWith_returned first

variable {hashes : Hashes} {cnonce : List Char}

theorem settlement_fails {reply : AuthReply}
    (hread : IsChallenge reply -> exists challenge,
      parseChallenge reply.authData = Except.ok challenge) :
    Talk.FailsWith Classified
      (Wire.settlement hashes session cnonce reply) := by
  refine Talk.failsWith_bind ?_ fun last => ?_
  · unfold Wire.settleReply
    split
    · exact Talk.failsWith_raised ⟨_, rfl⟩
    · split
      · next hchallenge =>
          rcases hread hchallenge with ⟨challenge, hparse⟩
          refine Talk.failsWith_bind ?_ fun challenge => ?_
          · rw [hparse]
            exact Talk.failsWith_returned challenge
          · refine Talk.failsWith_bind ?_ fun response => ?_
            · exact Talk.failsWith_bind (Talk.failsWith_say _ _) fun drawn =>
                told_fails fun e => digestFrame_error
            · exact Talk.failsWith_bind (Talk.failsWith_say _ ()) fun _ =>
                authReply_fails
      · exact Talk.failsWith_returned reply
  · split
    · exact Talk.failsWith_raised ⟨_, rfl⟩
    · exact Talk.failsWith_returned ()

/-- What the peer sends decides for a challenge that is not well formed. -/
def Malformed (session : RedirectionSession) (s : Bytes) : Prop :=
  exists reply, Decides session s reply ∧ IsChallenge reply ∧
    ¬ WellFormed reply.authData

/-- What the peer sends decides for a challenge with a length that points
behind the end of its data. -/
def Overrun (session : RedirectionSession) (s : Bytes) : Prop :=
  exists reply, Decides session s reply ∧ IsChallenge reply ∧
    ¬ Fits reply.authData

theorem handshake_fails {s : Bytes} {events : List Event} {e : Failure}
    (hwell : ¬ Malformed session s)
    (h : Wire.handshake hashes session cnonce s =
      (events, Outcome.failed e)) : Classified e := by
  rcases Talk.bind_eq_failed h with
    hdecision | ⟨first, reply, middle, later, hdecision, hsettlement, _⟩
  · exact decision_fails s events e hdecision
  · refine settlement_fails ?_ middle later e hsettlement
    intro hchallenge
    apply parseChallenge_wellFormed
    apply Classical.byContradiction
    intro hbad
    rcases decision_done hdecision with
      ⟨consumed, queries, hdecided, hs, _⟩
    exact hwell
      ⟨reply, ⟨consumed, queries, middle, hs, hdecided⟩, hchallenge, hbad⟩

/-- A challenge that is not well formed makes the talk fail without a class,
or it is answered although a length points behind its end. -/
theorem handshake_malformed {s : Bytes} {reply : AuthReply}
    (hdecides : Decides session s reply) (hchallenge : IsChallenge reply)
    (hbad : ¬ WellFormed reply.authData) :
    (exists e, (Wire.handshake hashes session cnonce s).2 = Outcome.failed e ∧
      ¬ Classified e) ∨
    (¬ Fits reply.authData ∧
      Event.draw ∈ (Wire.handshake hashes session cnonce s).1) := by
  rcases hdecides with ⟨consumed, queries, rest, hs, hdecided⟩
  have hdecision := decision_of_decided hdecided rest
  rw [← hs] at hdecision
  have hsecure : reply.authType ∉ insecureAuthTypes := by
    rw [hchallenge.2]
    decide
  have hsettle : Wire.settleReply hashes session cnonce reply =
      Wire.answerChallenge hashes session cnonce reply.authData := by
    unfold Wire.settleReply
    rw [if_neg hsecure]
    exact if_pos hchallenge
  cases hparse : parseChallenge reply.authData with
  | error e =>
      have hanswer :
          Wire.answerChallenge hashes session cnonce reply.authData rest =
            ([], Outcome.failed e) := by
        unfold Wire.answerChallenge
        rw [hparse]
        exact Talk.bind_failed rfl
      have hsettlement : Wire.settlement hashes session cnonce reply rest =
          ([], Outcome.failed e) := by
        unfold Wire.settlement
        rw [hsettle]
        exact Talk.bind_failed hanswer
      refine Or.inl ⟨e, ?_, parseChallenge_error hparse⟩
      unfold Wire.handshake
      rw [Talk.bind_done hdecision, hsettlement]
  | ok challenge =>
      refine Or.inr ⟨fun hfits => hbad (wellFormed_of_parse hfits hparse), ?_⟩
      have hdrawn : Event.draw ∈
          (Wire.digestResponse hashes session cnonce challenge rest).1 := by
        unfold Wire.digestResponse
        apply (Talk.bind_prefix).subset
        exact List.mem_singleton_self _
      have hanswered : Event.draw ∈
          (Wire.answerChallenge hashes session cnonce reply.authData
            rest).1 := by
        unfold Wire.answerChallenge
        rw [hparse, Talk.bind_done rfl]
        exact (Talk.bind_prefix).subset hdrawn
      have hsettled : Event.draw ∈
          (Wire.settlement hashes session cnonce reply rest).1 := by
        unfold Wire.settlement
        rw [hsettle]
        exact (Talk.bind_prefix).subset hanswered
      unfold Wire.handshake
      rw [Talk.bind_done hdecision]
      exact List.mem_append_right _ hsettled

end Talking

/-!
## Failures of a connection
-/

section Connecting

variable {hashes : Hashes} {session : RedirectionSession}
variable {opening rest : List (Exchange SocketAnswer)}

theorem connect_opened {y : SocketScript Bytes}
    (hopened : Script.After (openSocket hashes session) opening
      (Script.returned ())) :
    Script.After (connect hashes session) (opening ++ rest) y ↔
      exists x, Script.After (handshake hashes session []) rest x ∧
        y = ended x := by
  have hthen : Script.After (connect hashes session) opening
      (ended (handshake hashes session [])) := Script.after_then hopened
  constructor
  · intro h
    have hrest := Script.after_split hthen h
    rcases Script.after_bind hrest with
      ⟨x, hx, hy⟩ | ⟨first, last, r, hsplit, hfirst, hlast⟩
    · exact ⟨x, hx, hy⟩
    · rcases Script.after_returned hlast with ⟨hnil, hy⟩
      rw [hnil, List.append_nil] at hsplit
      rw [hsplit]
      exact ⟨Script.returned r, hfirst, hy⟩
  · rintro ⟨x, hx, hy⟩
    rw [hy]
    exact Script.after_append hthen (Script.after_bind_left hx)

theorem ended_eq_raised {x : SocketScript (Unit × Bytes)} {e : Failure}
    (h : ended x = Script.raised e) : x = Script.raised e := by
  cases x with
  | returned r => cases h
  | raised e' =>
      cases h
      rfl
  | call o next => cases h

/-!
## The TLS layer
-/

/-- What the TLS layer makes of a connected socket. -/
structure TlsLayer where
  wrapping : Wrapping
  certificate : Option Bytes

/-- The answers that this layer gives. -/
def TlsLayer.Gives (tls : TlsLayer) : (o : SocketOp) -> SocketAnswer o -> Prop
  | SocketOp.wrapSocket _, wrapping => wrapping = tls.wrapping
  | SocketOp.getPeerCert, certificate => certificate = tls.certificate
  | _, _ => True

/-- The TLS handshake ends in an `OSError` that is no `SSLError`. -/
def BreaksOff (session : RedirectionSession) (tls : TlsLayer) : Prop :=
  session.useTls = true ∧ tls.wrapping = Wrapping.failed

/-- The certificate has the fingerprint that is pinned. -/
def Pinned (hashes : Hashes) (session : RedirectionSession)
    (certificate : Option Bytes) : Prop :=
  forall pin, session.tlsPinSha256 = some pin -> pin ≠ [] ->
    exists der, certificate = some der ∧ der ≠ [] ∧
      hexdigest (hashes.sha256 der) = pin

/-- The TLS layer lets the first byte of the protocol pass. -/
def Passes (hashes : Hashes) (session : RedirectionSession)
    (tls : TlsLayer) : Prop :=
  session.useTls = true ->
    tls.wrapping = Wrapping.wrapped ∧ Pinned hashes session tls.certificate

variable {tls : TlsLayer}

theorem socketFactory_assuming :
    Script.Assuming tls.Gives
      (fun _ => session.useTls = true -> tls.wrapping = Wrapping.wrapped)
      (fun e => Classified e ∨ BreaksOff session tls)
      (socketFactory session) := by
  intro connecting _
  cases connecting with
  | timeout => exact Or.inl ⟨_, rfl⟩
  | failed reason => exact Or.inl ⟨_, rfl⟩
  | connected =>
      change Script.Assuming _ _ _ (ite _ _ _)
      split
      · next htls =>
          intro wrapping hwrapping
          cases wrapping with
          | wrapped => exact fun _ => hwrapping.symm
          | sslError reason => exact fun _ _ => Or.inl ⟨_, rfl⟩
          | failed => exact Or.inr ⟨htls, hwrapping.symm⟩
      · next hplain => exact fun htls => absurd htls hplain

theorem verifyTlsPin_assuming (pin : List Char) :
    Script.Assuming tls.Gives
      (fun _ => exists der, tls.certificate = some der ∧ der ≠ [] ∧
        hexdigest (hashes.sha256 der) = pin)
      (fun e => Classified e ∨ BreaksOff session tls)
      (verifyTlsPin hashes session pin) := by
  rw [verifyTlsPin, Script.ask_bind]
  intro certificate hcertificate
  dsimp only
  split
  · exact Or.inl ⟨_, rfl⟩
  · next bytes hfilter =>
      have hder := Option.filter_eq_some_iff.mp hfilter
      split
      · exact Or.inl ⟨_, rfl⟩
      · next hpin =>
          refine ⟨bytes, ?_, of_decide_eq_true hder.2, not_not.mp hpin⟩
          rw [← hder.1]
          exact hcertificate.symm

/-- A socket is opened where the TLS layer lets it pass, and fails with an
error of the collection unless that layer breaks off. -/
theorem openSocket_assuming :
    Script.Assuming tls.Gives (fun _ => Passes hashes session tls)
      (fun e => Classified e ∨ BreaksOff session tls)
      (openSocket hashes session) := by
  refine Script.assuming_bind_iff.mpr
    (Script.assuming_mono socketFactory_assuming fun _ hwrapped => ?_)
  split
  · next pin hpin =>
      split
      · refine Script.assuming_mono (verifyTlsPin_assuming pin)
          fun _ hder htls => ⟨hwrapped htls, ?_⟩
        intro pin' hpin' _
        cases hpin.symm.trans hpin'
        exact hder
      · next hnone =>
          refine fun htls => ⟨hwrapped htls, ?_⟩
          intro pin' hpin' hnonempty
          cases hpin.symm.trans hpin'
          rw [htls] at hnone
          exact absurd (by simpa using hnonempty) hnone
  · next hpin =>
      refine fun htls => ⟨hwrapped htls, ?_⟩
      intro pin' hpin'
      cases hpin.symm.trans hpin'

theorem socketFactory_breaks (h : BreaksOff session tls) :
    exists log, Script.After (socketFactory session) log
        (Script.raised (Failure.other Uncaught.os)) ∧
      forall exchange, exchange ∈ log ->
        tls.Gives exchange.1 exchange.2 := by
  refine ⟨[⟨SocketOp.createConnection session.host session.port
      session.connectTimeout, Connecting.connected⟩,
    ⟨SocketOp.wrapSocket session.host, Wrapping.failed⟩], ?_, ?_⟩
  · refine Script.After.call ?_
    rw [if_pos h.1]
    exact Script.After.call (Script.After.here _)
  · intro exchange hmem
    rcases List.mem_pair.mp hmem with rfl | rfl
    · trivial
    · exact h.2.symm

theorem socketFactory_opens
    (h : session.useTls = true -> tls.wrapping = Wrapping.wrapped) :
    exists log, Script.After (socketFactory session) log
        (Script.returned ()) ∧
      forall exchange, exchange ∈ log ->
        tls.Gives exchange.1 exchange.2 := by
  by_cases htls : session.useTls = true
  · refine ⟨[⟨SocketOp.createConnection session.host session.port
        session.connectTimeout, Connecting.connected⟩,
      ⟨SocketOp.wrapSocket session.host, Wrapping.wrapped⟩], ?_, ?_⟩
    · refine Script.After.call ?_
      rw [if_pos htls]
      exact Script.After.call (Script.After.here _)
    · intro exchange hmem
      rcases List.mem_pair.mp hmem with rfl | rfl
      · trivial
      · exact (h htls).symm
  · refine ⟨[⟨SocketOp.createConnection session.host session.port
      session.connectTimeout, Connecting.connected⟩], ?_, ?_⟩
    · refine Script.After.call ?_
      rw [if_neg htls]
      exact Script.After.here _
    · intro exchange hmem
      cases List.mem_singleton.mp hmem
      trivial

theorem openSocket_opens (h : Passes hashes session tls) :
    exists log, Script.After (openSocket hashes session) log
        (Script.returned ()) ∧
      forall exchange, exchange ∈ log ->
        tls.Gives exchange.1 exchange.2 := by
  rcases socketFactory_opens fun htls => (h htls).1 with
    ⟨log, hlog, hgives⟩
  have hquiet : Script.After (pure () : SocketScript Unit) []
      (Script.returned ()) := Script.After.here _
  cases hpin : session.tlsPinSha256 with
  | none =>
      refine ⟨log ++ [], ?_, by simpa using hgives⟩
      refine Script.after_append (Script.after_then hlog) ?_
      rw [hpin]
      exact hquiet
  | some pin =>
      by_cases hchecked : (session.useTls && pin ≠ []) = true
      · rw [Bool.and_eq_true, decide_eq_true_eq] at hchecked
        rcases (h hchecked.1).2 pin hpin hchecked.2 with
          ⟨der, hder, hbytes, hdigest⟩
        refine ⟨log ++ [⟨SocketOp.getPeerCert, some der⟩], ?_, ?_⟩
        · refine Script.after_append (Script.after_then hlog) ?_
          rw [hpin]
          dsimp only
          rw [if_pos (by simp [hchecked]), verifyTlsPin, Script.ask_bind]
          refine Script.After.call ?_
          have hfilter : (some der).filter (fun bytes => decide (bytes ≠ [])) =
              some der := by
            simp [hbytes]
          dsimp only
          rw [hfilter]
          dsimp only
          rw [if_neg (not_not.mpr hdigest)]
          exact hquiet
        · intro exchange hmem
          rcases List.mem_append.mp hmem with hmem | hmem
          · exact hgives exchange hmem
          · cases List.mem_singleton.mp hmem
            exact hder.symm
      · refine ⟨log ++ [], ?_, by simpa using hgives⟩
        refine Script.after_append (Script.after_then hlog) ?_
        rw [hpin]
        dsimp only
        rw [if_neg hchecked]
        exact hquiet

/-!
## Every run
-/

theorem handshake_gives {x : SocketScript (Unit × Bytes)}
    (h : Script.After (handshake hashes session []) rest x) :
    forall exchange, exchange ∈ rest ->
      tls.Gives exchange.1 exchange.2 := by
  have hasks : OnlyAsks (fun o => ¬ Opens o) (handshake hashes session) :=
    handshake_asks ⟨fun _ h => h, fun _ h => h⟩ fun _ h => h
  intro exchange hmem
  have hnot := Script.after_uses (hasks []) h exchange hmem
  rcases exchange with ⟨o, a⟩
  cases o with
  | wrapSocket host => exact absurd trivial hnot
  | getPeerCert => exact absurd trivial hnot
  | _ => trivial

/-- A handshake that is given no malformed challenge fails with an error of
the collection. -/
theorem handshake_classified {s : Bytes} {x : SocketScript (Unit × Bytes)}
    (hwell : ¬ Malformed session s)
    (h : Script.After (handshake hashes session []) rest x)
    (hreceived : peerBytes rest <+: s) {e : Failure}
    (hx : x = Script.raised e) : Classified e := by
  rw [hx] at h
  rcases exists_cnonce h with ⟨cnonce, hallowed⟩
  rcases handshake_follows [] rest _ hallowed h with
    ⟨_, hfailed⟩ | ⟨_, hclassified, _⟩
  · rcases hreceived with ⟨unread, hunread⟩
    have hthis := hfailed unread
    rw [List.nil_append, received_eq, hunread] at hthis
    exact handshake_fails hwell hthis
  · exact hclassified

theorem peerBytes_opened
    (hopened : Script.After (openSocket hashes session) opening
      (Script.returned ())) :
    peerBytes (opening ++ rest) = peerBytes rest := by
  rw [peerBytes, List.flatMap_append]
  change peerBytes opening ++ peerBytes rest = peerBytes rest
  rw [(opening_quiet hopened).1]
  rfl

theorem connect_breaks (h : BreaksOff session tls) :
    exists log, Script.After (connect hashes session) log
        (Script.raised (Failure.other Uncaught.os)) ∧
      (forall exchange, exchange ∈ log ->
        tls.Gives exchange.1 exchange.2) ∧
      peerBytes log = [] := by
  rcases socketFactory_breaks h with ⟨log, hlog, hgives⟩
  have hopening : Script.After (openSocket hashes session) log
      (Script.raised (Failure.other Uncaught.os)) :=
    Script.after_bind_left hlog
  exact ⟨log, Script.after_bind_left hopening, hgives,
    (opening_quiet hopening).1⟩

/-- Behind an open socket a peer that decides for a malformed challenge makes
the connection fail without a class, or it is answered although a length points
behind its end. -/
theorem connect_malformed {s : Bytes} (hpasses : Passes hashes session tls)
    (hbad : Malformed session s) :
    exists log y, Script.After (connect hashes session) log y ∧
      (forall exchange, exchange ∈ log ->
        tls.Gives exchange.1 exchange.2) ∧
      peerBytes log <+: s ∧
      ((exists e, y = Script.raised e ∧ ¬ Classified e) ∨
        Overrun session s ∧ HasDrawn log) := by
  rcases hbad with ⟨reply, hdecides, hchallenge, hbad⟩
  rcases openSocket_opens hpasses with ⟨opening, hopened, hgives⟩
  have hfollows : (wire []).Follows Classified (handshake hashes session)
      (Wire.handshake hashes session []) [] := handshake_follows []
  rcases Channel.follows_delivered (wire_serves []) hfollows s with
    ⟨rest, x, hafter, _, _, hreceived, hevents, hfailed⟩
  rw [received_eq] at hreceived
  rw [List.nil_append] at hevents hfailed
  refine ⟨opening ++ rest, ended x,
    (connect_opened hopened).mpr ⟨x, hafter, rfl⟩, ?_, ?_, ?_⟩
  · intro exchange hmem
    rcases List.mem_append.mp hmem with hmem | hmem
    · exact hgives exchange hmem
    · exact handshake_gives hafter exchange hmem
  · rw [peerBytes_opened hopened]
    exact hreceived
  rcases handshake_malformed hdecides hchallenge hbad with
    ⟨e, he, hnot⟩ | ⟨hnot, hdraw⟩
  · exact Or.inl ⟨e, by rw [hfailed e he]; rfl, hnot⟩
  · rw [← hevents, ← hasDrawn_iff] at hdraw
    rcases hdraw with ⟨exchange, hmem, hdraw⟩
    exact Or.inr ⟨⟨reply, hdecides, hchallenge, hnot⟩, exchange,
      List.mem_append_right _ hmem, hdraw⟩

theorem opening_classified {log : List (Exchange SocketAnswer)}
    {x : SocketScript Unit} {y : SocketScript Bytes}
    (hwhole : ¬ BreaksOff session tls)
    (hgives : forall exchange, exchange ∈ log ->
      tls.Gives exchange.1 exchange.2)
    (h : Script.After (openSocket hashes session) log x)
    (hopening : x ≠ Script.returned ())
    (hy : y = x >>= fun _ => ended (handshake hashes session [])) :
    (forall e, y = Script.raised e -> Classified e) ∧
      forall leftover, y ≠ Script.returned leftover := by
  have hassuming := Script.assuming_after openSocket_assuming h hgives
  cases x with
  | returned u => exact absurd rfl hopening
  | raised e' =>
      refine ⟨?_, ?_⟩
      · intro e he
        cases hy.symm.trans he
        exact hassuming.resolve_right hwhole
      · intro leftover hleftover
        cases hy.symm.trans hleftover
  | call o next =>
      refine ⟨?_, ?_⟩
      · intro e he
        cases hy.symm.trans he
      · intro leftover hleftover
        cases hy.symm.trans hleftover

/-- However the bytes of the peer are cut and whatever fails on the way, a
connected socket fails with an error of the collection, and it does not answer
a challenge whose lengths point behind its end: this holds of all that a TLS
layer can answer but of a failure that is not its own, and of all that a peer
can send to it but of a malformed challenge. -/
theorem connect_classified_iff (hashes : Hashes) (session : RedirectionSession)
    (tls : TlsLayer) (s : Bytes) :
    (forall log y, Script.After (connect hashes session) log y ->
      (forall exchange, exchange ∈ log ->
        tls.Gives exchange.1 exchange.2) ->
      peerBytes log <+: s ->
        (forall e, y = Script.raised e -> Classified e) ∧
        (Overrun session s ->
          (forall leftover, y ≠ Script.returned leftover) ∧
            ¬ HasDrawn log)) ↔
      ¬ BreaksOff session tls ∧
        (Passes hashes session tls -> ¬ Malformed session s) := by
  constructor
  · intro hall
    constructor
    · intro hbreaks
      rcases connect_breaks hbreaks with ⟨log, hconnect, hgives, hquiet⟩
      have hreceived : peerBytes log <+: s := hquiet ▸ List.nil_prefix
      rcases (hall log _ hconnect hgives hreceived).1 _ rfl with ⟨error, he⟩
      cases he
    · intro hpasses hbad
      rcases connect_malformed hpasses hbad with
        ⟨log, y, hconnect, hgives, hreceived, hends⟩
      rcases hall log y hconnect hgives hreceived with
        ⟨hclassified, hoverrun⟩
      rcases hends with ⟨e, he, hnot⟩ | ⟨hover, hdrawn⟩
      · exact hnot (hclassified e he)
      · exact (hoverrun hover).2 hdrawn
  · rintro ⟨hwhole, hwell⟩ log y h hgives hreceived
    rcases connect_cases h with
      ⟨x, hx, hopening, hy⟩ | ⟨opening, rest, x, hlog, hopened, hx, hy⟩
    · have hends := opening_classified hwhole hgives hx hopening hy
      exact ⟨hends.1, fun _ => ⟨hends.2, (opening_quiet hx).2.2⟩⟩
    · have hpasses := Script.assuming_after openSocket_assuming hopened
        fun exchange hmem => hgives exchange (by simp [hlog, hmem])
      rw [hlog, peerBytes_opened hopened] at hreceived
      constructor
      · intro e he
        exact handshake_classified (hwell hpasses) hx hreceived
          (ended_eq_raised (hy.symm.trans he))
      · rintro ⟨reply, hdecides, hchallenge, hnot⟩
        exact absurd ⟨reply, hdecides, hchallenge, fun h => hnot h.fits⟩
          (hwell hpasses)

end Connecting

/-!
## A challenge without fields
-/

section Runs

def opened : List (Exchange SocketAnswer) :=
  [⟨SocketOp.createConnection "10.0.0.1" redirectionPortPlain 10,
    Connecting.connected⟩]

theorem opened_after :
    Script.After (openSocket hashlib plainSession) opened
      (Script.returned ()) :=
  Script.After.call (Script.After.here _)

def indexFailure : SocketScript Bytes -> Bool
  | Script.raised (Failure.other Uncaught.index) => true
  | _ => false

/-- The data of the challenge is empty. -/
def emptyChallenge : List Bytes :=
  [[], [], startReplyBytes, [], authReplyBytes 1 4 []]

theorem connect_unclassified :
    exists log e,
      Script.After (connect hashlib plainSession) log (Script.raised e) ∧
        ¬ Classified e := by
  have hindex : indexFailure (connected emptyChallenge).2 = true := by
    decide +kernel
  have hafter := connected_after emptyChallenge
  generalize (connected emptyChallenge).2 = y at hindex hafter
  cases y with
  | raised e =>
      refine ⟨_, e, hafter, ?_⟩
      rintro ⟨error, herror⟩
      rw [herror] at hindex
      cases hindex
  | returned leftover => cases hindex
  | call o next => cases hindex

def tlsSession : RedirectionSession :=
  RedirectionSession.create "10.0.0.1" "admin" "secret" true none none 10
    startSessionIder

theorem challengingPeer_wellFormed :
    ¬ Malformed tlsSession challengingPeer.flatten := by
  rintro ⟨reply, ⟨consumed, queries, rest, hs, hdecided⟩, _, hbad⟩
  have hdecision := decision_of_decided hdecided rest
  rw [← hs] at hdecision
  have hreply : (Wire.decision tlsSession challengingPeer.flatten).2 =
      Outcome.done
        { status := 1
          authType := 4
          authData := prefixed (encodeUtf8 "Dlgs".toList) ++
            prefixed (encodeUtf8 "n0nce".toList) ++
            prefixed (encodeUtf8 "auth".toList) }
        (authReplyBytes 0 4 [] ++ [0x40, 1]) := rfl
  rw [hdecision] at hreply
  cases hreply
  exact hbad ⟨_, _, _, ⟨by decide, by decide, by decide, List.prefix_rfl⟩,
    by decide, by decide, by decide⟩

/-- However the two messages of a firmware with a challenge are cut and cut
off, and whatever fails behind its TLS handshake. -/
theorem connect_classified_challenge :
    forall log y, Script.After (connect hashlib tlsSession) log y ->
      (forall exchange, exchange ∈ log ->
        TlsLayer.Gives ⟨Wrapping.wrapped, none⟩ exchange.1 exchange.2) ->
      peerBytes log <+: challengingPeer.flatten ->
        forall e, y = Script.raised e -> Classified e := by
  intro log y h hgives hreceived
  have hiff := connect_classified_iff hashlib tlsSession
    ⟨Wrapping.wrapped, none⟩ challengingPeer.flatten
  have hwhole : ¬ BreaksOff tlsSession ⟨Wrapping.wrapped, none⟩ :=
    fun hbreaks => Wrapping.noConfusion hbreaks.2
  exact (hiff.mpr ⟨hwhole, fun _ => challengingPeer_wellFormed⟩ log y h
    hgives hreceived).1

end Runs

end Redirection
end IntelAmt
