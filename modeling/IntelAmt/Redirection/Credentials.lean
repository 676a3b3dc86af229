import IntelAmt.AmtMedia.Accepted
import IntelAmt.Redirection.TwoRuns
import IntelAmt.Tls.Fingerprints

/-!
# Who gets the credentials

The background session of `amt_media` connects with a configuration that both
policies have let through.  Its credentials leave the client only as the
digest that answers a challenge, and only to an approved peer.
-/

namespace IntelAmt
namespace Redirection

open Foundation MediaSession AmtMedia

/-!
## Fingerprints
-/

theorem loweredPin_normalized {raw fingerprint : String}
    (h : Tls.normalizeFingerprint raw = Except.ok fingerprint) :
    loweredPin (some fingerprint) = some fingerprint.toList ∧
      fingerprint.toList ≠ [] := by
  unfold Tls.normalizeFingerprint at h
  split at h
  · cases h
  · dsimp only at h
    split at h
    · cases h
    · next hgood =>
        have hfingerprint := Except.ok.inj h
        rw [Bool.or_eq_true, not_or] at hgood
        rcases hgood with ⟨hlength, hmatches⟩
        have hlength : (Tls.fingerprintCandidate raw.toList).length =
            Tls.fingerprintHexLength := by
          simpa using hlength
        have hmatches :
            Tls.hexMatches (Tls.fingerprintCandidate raw.toList) = true := by
          simpa using hmatches
        have htext : fingerprint.toList =
            Tls.fingerprintCandidate raw.toList := by
          rw [← hfingerprint, String.toList_ofList]
        have hnonempty : fingerprint.toList ≠ [] := by
          intro hnil
          rw [htext] at hnil
          rw [hnil] at hlength
          cases hlength
        have hdigits := Tls.hexMatches_digits hmatches
        rw [← htext] at hdigits
        have hcolons : fingerprint.toList.filter (fun c => c ≠ ':') =
            fingerprint.toList := by
          rw [List.filter_eq_self]
          intro c hc
          rcases hdigits c hc with hdigit | hnewline
          · apply decide_eq_true
            intro hcolon
            rw [hcolon] at hdigit
            cases hdigit
          · rw [hnewline]
            rfl
        refine ⟨?_, hnonempty⟩
        have hthere : fingerprint ≠ "" := by
          intro hempty
          rw [hempty] at hnonempty
          exact hnonempty rfl
        unfold loweredPin
        rw [Option.filter_some, if_pos (decide_eq_true hthere), Option.map_some,
          Tls.lower_digits hdigits]
        exact congrArg some hcolons

/-!
## The approved peer
-/

section Peer

variable {hashes : Hashes} {session : RedirectionSession}
variable {opening : List (Exchange SocketAnswer)}

theorem verifyTlsPin_returned {pin : List Char}
    {log : List (Exchange SocketAnswer)}
    (h : Script.After (verifyTlsPin hashes session pin) log
      (Script.returned ())) :
    exists der, ⟨SocketOp.getPeerCert, some der⟩ ∈ log ∧
      hexdigest (hashes.sha256 der) = pin := by
  rw [verifyTlsPin, Script.ask_bind] at h
  rcases Script.after_call h with ⟨_, hnot⟩ | ⟨der, rest, hlog, hrest⟩
  · cases hnot
  · rw [hlog]
    dsimp only at hrest
    cases der with
    | none =>
        have hthis := Script.after_raised hrest
        cases hthis.2
    | some bytes =>
        refine ⟨bytes, List.mem_cons_self, ?_⟩
        by_cases hempty : bytes = []
        · have hnone : (some bytes).filter (fun bytes => bytes ≠ []) =
              none := by
            rw [Option.filter_some, if_neg]
            simpa using hempty
          rw [hnone] at hrest
          cases (Script.after_raised hrest).2
        · have hsome : (some bytes).filter (fun bytes => bytes ≠ []) =
              some bytes := by
            rw [Option.filter_some, if_pos]
            simpa using hempty
          rw [hsome] at hrest
          dsimp only at hrest
          split at hrest
          · cases (Script.after_raised hrest).2
          · next hsame => exact not_not.mp hsame

/-- With a pin the socket is open only to a peer whose certificate has it. -/
theorem openSocket_verified {pin : List Char}
    (htls : session.useTls = true) (hpin : session.tlsPinSha256 = some pin)
    (hne : pin ≠ [])
    (h : Script.After (openSocket hashes session) opening
      (Script.returned ())) :
    exists der, ⟨SocketOp.getPeerCert, some der⟩ ∈ opening ∧
      hexdigest (hashes.sha256 der) = pin := by
  rcases Script.after_bind_returned h with
    ⟨first, rest, _, hlog, _, hrest⟩
  have hverify : (session.useTls && decide (pin ≠ [])) = true := by
    rw [htls, decide_eq_true hne]
    rfl
  rw [hpin] at hrest
  dsimp only at hrest
  rw [if_pos hverify] at hrest
  rcases verifyTlsPin_returned hrest with ⟨der, hmem, hder⟩
  refine ⟨der, ?_, hder⟩
  rw [hlog]
  exact List.mem_append_right _ hmem

end Peer

/-!
## The background session
-/

/-- The session that `_run_daemon` opens. -/
def daemonSession (config : SessionConfig) (username password : String) :
    RedirectionSession :=
  RedirectionSession.create config.host username password config.useTls
    config.tlsPinSha256 (some config.port) config.connectTimeout
    startSessionIder

theorem buildSessionConfig_ok {params : Params} {config : SessionConfig}
    {sessionId : String} {port : Int} {specs : List MediaSpec}
    (h : buildSessionConfig params sessionId port specs = Except.ok config) :
    config.useTls = params.useTls ∧
      forall raw, given params.tlsFingerprint = some raw ->
        exists fingerprint,
          Tls.normalizeFingerprint raw = Except.ok fingerprint ∧
            config.tlsPinSha256 = some fingerprint := by
  unfold buildSessionConfig at h
  rcases Json.bind_eq_ok.mp h with ⟨pin, hpinned, h⟩
  rcases Json.bind_eq_ok.mp h with ⟨timeout, _, h⟩
  cases h
  refine ⟨rfl, ?_⟩
  intro raw hraw
  unfold sessionPin at hpinned
  rw [hraw] at hpinned
  cases hpin : Tls.normalizeFingerprint raw with
  | error e =>
      simp only [hpin] at hpinned
      cases hpinned
  | ok fingerprint =>
      simp only [hpin] at hpinned
      cases hpinned
      exact ⟨fingerprint, rfl, rfl⟩

theorem accepts_transport {params : Params} {config : SessionConfig}
    (h : Accepts params config) (username password : String) :
    (daemonSession config username password).useTls = params.useTls ∧
      (params.useTls = false -> params.allowInsecureTransport = true) ∧
      (params.useTls = true -> exists raw fingerprint,
        params.tlsFingerprint = some raw ∧
        Tls.normalizeFingerprint raw = Except.ok fingerprint ∧
        (daemonSession config username password).tlsPinSha256 =
          some fingerprint.toList ∧ fingerprint.toList ≠ []) := by
  rcases h with ⟨htransport, htrust, sessionId, port, specs, hconfig⟩
  refine ⟨?_, ?_, ?_⟩
  · exact (buildSessionConfig_ok hconfig).1
  · intro hplain
    unfold Tls.enforceTransportPolicy at htransport
    rw [hplain, Bool.false_or] at htransport
    split at htransport
    · next hallowed => exact hallowed
    · cases htransport
  · intro htls
    unfold enforceRedirectionTrustPolicy at htrust
    split at htrust
    · cases htrust
    · split at htrust
      · cases htrust
      · next hpinned =>
          rw [htls, Bool.true_and, Option.isNone_iff_eq_none] at hpinned
          rcases Option.ne_none_iff_exists'.mp hpinned with ⟨raw, hraw⟩
          have hgiven : params.tlsFingerprint = some raw := by
            unfold given at hraw
            rw [Option.filter_eq_some_iff] at hraw
            exact hraw.1
          rcases (buildSessionConfig_ok hconfig).2 raw hraw with
            ⟨fingerprint, hpin, hconfigured⟩
          rcases loweredPin_normalized hpin with ⟨hlowered, hne⟩
          have hsession :
              (daemonSession config username password).tlsPinSha256 =
                loweredPin config.tlsPinSha256 := rfl
          rw [hsession, hconfigured]
          exact ⟨raw, fingerprint, hgiven, hpin, hlowered, hne⟩

/-- The credentials of a session are safe in a run of its connection: which
frames are sent, when a frame is the answer to a challenge, what another
password changes, and who is at the other end. -/
structure CredentialsSafe (hashes : Hashes) (params : Params)
    (session : RedirectionSession) (log : List (Exchange SocketAnswer)) :
    Prop where
  frames : exists queries answers, Asked session queries ∧
    (answers = [] ∨ exists answer, answers = [answer] ∧
      exists challenge cnonce,
        digestFrame hashes session challenge cnonce = Except.ok answer) ∧
    sentFrames log <+: askingFrames session queries ++ answers
  answers : forall before frame sending after,
    log = before ++ ⟨SocketOp.sendAll frame, sending⟩ :: after ->
      (IsQuestion session frame ∧ ¬ HasDrawn before) ∨
      (IsAnswer hashes session before frame ∧
        ¬ Declined session (peerBytes before) ∧ sentFrames after = [])
  password : forall other, exists log' y',
    Script.After (connect hashes (session.withPassword other)) log' y' ∧
      List.Forall₂ (SameExchange (AnswersAlike hashes session other)) log log'
  pinned : params.useTls = true -> forall before frame sending after,
    log = before ++ ⟨SocketOp.sendAll frame, sending⟩ :: after ->
      exists der raw, ⟨SocketOp.getPeerCert, some der⟩ ∈ before ∧
        params.tlsFingerprint = some raw ∧
        Tls.normalizeFingerprint raw =
          Except.ok (String.ofList (hexdigest (hashes.sha256 der)))
  plain : params.useTls = false -> sentFrames log ≠ [] ->
    params.allowInsecureTransport = true

section Runs

variable {hashes : Hashes} {session : RedirectionSession}
variable {log : List (Exchange SocketAnswer)} {y : SocketScript Bytes}

theorem connect_frame {before after : List (Exchange SocketAnswer)}
    {frame : Bytes} {sending : Sending}
    (h : Script.After (connect hashes session)
      (before ++ ⟨SocketOp.sendAll frame, sending⟩ :: after) y) :
    exists opening middle x, before = opening ++ middle ∧
      Script.After (openSocket hashes session) opening
        (Script.returned ()) ∧
      Script.After (handshake hashes session [])
        (middle ++ ⟨SocketOp.sendAll frame, sending⟩ :: after) x := by
  have hquiet : forall {opening : List (Exchange SocketAnswer)}
      {x : SocketScript Unit},
      Script.After (openSocket hashes session) opening x ->
        ⟨SocketOp.sendAll frame, sending⟩ ∉ opening := by
    intro opening x hopening hmem
    exact Script.after_uses (openSocket_uses hashes session) hopening _ hmem
  rcases connect_cases h with
    ⟨x, hx, _, _⟩ | ⟨opening, rest, x, hlog, hopening, hrest, _⟩
  · exact absurd (List.mem_append_right _ List.mem_cons_self) (hquiet hx)
  · rcases List.append_eq_append_iff.mp hlog with
      ⟨middle, hopen, hmiddle⟩ | ⟨middle, hbefore, hmiddle⟩
    · cases middle with
      | nil =>
          rw [List.append_nil] at hopen
          rw [List.nil_append] at hmiddle
          refine ⟨opening, [], x, ?_, hopening, ?_⟩
          · rw [hopen, List.append_nil]
          · rw [List.nil_append, hmiddle]
            exact hrest
      | cons exchange middle =>
          rw [List.cons_append] at hmiddle
          have hhead := (List.cons.inj hmiddle).1
          apply absurd _ (hquiet hopening)
          rw [hopen, ← hhead]
          exact List.mem_append_right _ List.mem_cons_self
    · refine ⟨opening, middle, x, hbefore, hopening, ?_⟩
      rw [← hmiddle]
      exact hrest

theorem isAnswer_opened {opening middle : List (Exchange SocketAnswer)}
    {x : SocketScript Unit} {frame : Bytes}
    (hopening : Script.After (openSocket hashes session) opening x)
    (h : IsAnswer hashes session middle frame) :
    IsAnswer hashes session (opening ++ middle) frame ∧
      ¬ Declined session (peerBytes (opening ++ middle)) := by
  rcases h with
    ⟨reply, challenge, size, cnonce, hdecides, hchallenge, hparse, hmem,
      hresponse⟩
  have hpeer : peerBytes (opening ++ middle) = peerBytes middle :=
    (opened_transcript hopening).1
  rw [← hpeer] at hdecides
  exact
    ⟨⟨reply, challenge, size, cnonce, hdecides, hchallenge, hparse,
      List.mem_append_right _ hmem, hresponse⟩,
      not_declined hdecides hchallenge⟩

theorem connect_frames
    (h : Script.After (connect hashes session) log y) :
    exists queries answers, Asked session queries ∧
      (answers = [] ∨ exists answer, answers = [answer] ∧
        exists challenge cnonce,
          digestFrame hashes session challenge cnonce = Except.ok answer) ∧
      sentFrames log <+: askingFrames session queries ++ answers := by
  rcases connect_cases h with
    ⟨x, hx, _, _⟩ | ⟨opening, rest, x, hlog, hopening, hrest, _⟩
  · refine ⟨[], [], Or.inl rfl, Or.inl rfl, ?_⟩
    rw [(opening_quiet hx).2.1]
    exact List.nil_prefix
  · rcases handshake_frames hrest with
      ⟨queries, answers, hasked, hanswers, hframes⟩
    refine ⟨queries, answers, hasked, hanswers, ?_⟩
    rw [hlog, (opened_transcript hopening).2.1]
    exact hframes

end Runs

/-- Whatever parameters `amt_media` is called with: every connection of a
daemon that it forks keeps its credentials safe, against every peer. -/
theorem credentials_safe {hashes : Hashes} {looks : Nat} {params : Params}
    {calls : List (Exchange SystemAnswer)} {ending : MediaScript ModuleResult}
    {config : SessionConfig} {forked : ForkResult}
    {username password : String} {log : List (Exchange SocketAnswer)}
    {y : SocketScript Bytes}
    (hmain : Script.After (main looks params) calls ending)
    (hfork : ⟨SystemOp.fork config, forked⟩ ∈ calls)
    (h : Script.After
      (connect hashes (daemonSession config username password)) log y) :
    CredentialsSafe hashes params (daemonSession config username password)
      log := by
  have haccepts : Accepts params config :=
    Script.after_uses (main_forksAccepted looks params) hmain _ hfork
  rcases accepts_transport haccepts username password with
    ⟨huseTls, hplain, hpinned⟩
  generalize hsession : daemonSession config username password = session
    at h huseTls hpinned
  refine
    { frames := connect_frames h
      answers := ?_
      password := fun other => connect_two_runs other h
      pinned := ?_
      plain := fun huse _ => hplain huse }
  · intro before frame sending after hlog
    rw [hlog] at h
    rcases connect_frame h with
      ⟨opening, middle, x, hbefore, hopening, hrest⟩
    rw [hbefore]
    rcases handshake_frame hrest with
      ⟨hquestion, hdrawn⟩ | ⟨hanswer, hafter⟩
    · refine Or.inl ⟨hquestion, fun hdraw => hdrawn ?_⟩
      exact (opened_transcript hopening).2.2.mp hdraw
    · rcases isAnswer_opened hopening hanswer with ⟨hwhole, hnot⟩
      exact Or.inr ⟨hwhole, hnot, hafter⟩
  · intro htls before frame sending after hlog
    rw [hlog] at h
    rcases connect_frame h with
      ⟨opening, middle, x, hbefore, hopening, hrest⟩
    rcases hpinned htls with ⟨raw, fingerprint, hraw, hnormal, hpin, hne⟩
    rcases openSocket_verified (huseTls.trans htls) hpin hne hopening with
      ⟨der, hmem, hder⟩
    refine ⟨der, raw, ?_, hraw, ?_⟩
    · rw [hbefore]
      exact List.mem_append_left _ hmem
    · rw [hder, String.ofList_toList]
      exact hnormal

/-!
## A pinned peer
-/

section Pinned

/-- The certificate of the peer. -/
def pinnedDer : Bytes := [1, 2, 3]

def pinnedParams : Params where
  host := "amt"
  tlsFingerprint := some
    ("SHA256:03:90:58:c6:f2:c0:cb:49:2c:53:3b:0a:4d:14:ef:77:cc:0f:78:ab:" ++
      "cc:ce:d5:28:7d:84:a1:a2:01:1c:fb:81")
  cdrom := some "/iso"
  state := DesiredState.attached
  sessionId := some "s"
  runtimeDir := "/run"

def pinnedDisk : Ider.Filesystem where
  isSymlink _ := false
  resolve path := some [path]
  file _ := []
  openable _ _ := true
  shortReads _ := []

def pinnedSystem : (o : SystemOp) -> SystemAnswer o
  | SystemOp.readFile _ => Except.error FileError.notFound
  | SystemOp.unlink _ => Except.ok ()
  | SystemOp.createExclusive _ _ => CreateResult.created
  | SystemOp.kill _ _ => KillResult.delivered
  | SystemOp.files => pinnedDisk
  | SystemOp.fork _ => ForkResult.started 100
  | SystemOp.monotonic => 0
  | SystemOp.sleep _ => ()
  | SystemOp.now => "t"
  | SystemOp.uuid => "s"
  | SystemOp.warn _ => ()

def pinnedCalls : List (Exchange SystemAnswer) :=
  (Script.recorded (fun _ => pinnedSystem) 3 0 (main 1 pinnedParams)).1

def forkedConfig : Exchange SystemAnswer -> Option SessionConfig
  | ⟨SystemOp.fork config, _⟩ => some config
  | _ => none

def pinnedConfig : SessionConfig where
  sessionId := "s"
  host := "amt"
  port := 16995
  useTls := true
  tlsPinSha256 := some
    "039058c6f2c0cb492c533b0a4d14ef77cc0f78abccced5287d84a1a2011cfb81"
  connectTimeout := 10
  startMode := Ider.StartMode.onReboot
  allowedDirectory := none
  runtimeDir := "/run"
  devices :=
    [{ path := "/iso"
       deviceCode := Ider.DeviceCode.cdrom.code.toNat
       writable := false }]

theorem pinned_forks :
    exists forked, ⟨SystemOp.fork pinnedConfig, forked⟩ ∈ pinnedCalls := by
  have hforked : pinnedCalls.filterMap forkedConfig = [pinnedConfig] := by
    decide +kernel
  have hmem : pinnedConfig ∈ pinnedCalls.filterMap forkedConfig := by
    rw [hforked]
    exact List.mem_singleton_self _
  rcases List.mem_filterMap.mp hmem with ⟨⟨o, forked⟩, hexchange, hconfig⟩
  cases o with
  | fork config =>
      cases hconfig
      exact ⟨forked, hexchange⟩
  | _ => cases hconfig

def pinnedPeer (position : Nat) : (o : SocketOp) -> SocketAnswer o
  | SocketOp.getPeerCert => some pinnedDer
  | o => plainPeer
      ([[], [], [], []] ++ challengingPeer.drop 2) position o

def pinnedSession : RedirectionSession :=
  daemonSession pinnedConfig "admin" "secret"

theorem pinned_credentials_safe :
    exists log y, Script.After (connect hashlib pinnedSession) log y ∧
      (sentFrames log).length = 4 ∧
      CredentialsSafe hashlib pinnedParams pinnedSession log := by
  have hlength : (sentFrames
      (Script.recorded pinnedPeer 14 0
        (connect hashlib pinnedSession)).1).length = 4 := by
    decide +kernel
  have hafter := Script.after_recorded pinnedPeer 14 0
    (connect hashlib pinnedSession)
  rcases pinned_forks with ⟨forked, hfork⟩
  have hmain : Script.After (main 1 pinnedParams) pinnedCalls _ :=
    Script.after_recorded _ 3 0 _
  exact ⟨_, _, hafter, hlength, credentials_safe hmain hfork hafter⟩

end Pinned

end Redirection
end IntelAmt
