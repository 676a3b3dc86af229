import IntelAmt.AmtMedia.Ownership

/-!
# At most one daemon

As long as no call removes the record of a daemon that is leaving, a call
forks a daemon only when every earlier one is gone.
-/

namespace IntelAmt
namespace AmtMedia

open Foundation Ider MediaSession

section Session

variable {runtimeDir sessionId : String}

/-!
## The calls
-/

theorem keeps_claimed {alpha : Type} {x : MediaScript alpha}
    (hx : Script.Uses Looks x) :
    Keeps runtimeDir sessionId Claimed x fun _ => Claimed :=
  triple_of_looks hx claimed_steady

theorem buildSessionConfig_session {params : Params} {session : String}
    {port : Int} {specs : List MediaSpec} {config : SessionConfig}
    (h : buildSessionConfig params session port specs = Except.ok config) :
    config.runtimeDir = params.runtimeDir ∧ config.sessionId = session := by
  unfold buildSessionConfig at h
  rcases Json.bind_eq_ok.mp h with ⟨pin, _, h⟩
  rcases Json.bind_eq_ok.mp h with ⟨timeout, _, h⟩
  cases h
  exact ⟨rfl, rfl⟩

theorem keeps_startSession (looks : Nat) (params : Params)
    (endpoint : String) (port : Int) (specs : List MediaSpec)
    (existing : Option Members) (recoveredStale : Bool)
    (hdir : params.runtimeDir = runtimeDir) :
    Keeps runtimeDir sessionId Unclaimed
      (startSession looks params endpoint sessionId port specs existing
        recoveredStale) fun _ => Claimed := by
  unfold startSession
  cases hconfig : buildSessionConfig params sessionId port specs with
  | error e =>
      exact Machine.triple_raised unclaimed_steady fun _ h => h.claimed
  | ok config =>
      rcases buildSessionConfig_session hconfig with ⟨hdir', hsession⟩
      apply Machine.triple_bind
        (keeps_spawnSession (hdir'.trans hdir) hsession)
      intro _
      apply keeps_claimed
      apply Script.uses_bind (uses_ofResult _)
      intro timeout
      apply Script.uses_bind (uses_waitForState _ _ _ _ _ _)
      intro observed
      apply Script.uses_bind (uses_ofResult _)
      intro fields
      exact Script.uses_bind (uses_verdict _ _ _ _ _) fun _ => trivial

theorem keeps_unclaimed {alpha : Type} {x : MediaScript alpha}
    (hx : Script.Uses Looks x) :
    Keeps runtimeDir sessionId Unclaimed x fun _ => Unclaimed :=
  keeps_of_looks hx unclaimed_steady fun _ h => h.claimed

theorem keeps_attachFresh (looks : Nat) (params : Params) (endpoint : String)
    (port : Int) (existing : Option Members)
    (hdir : params.runtimeDir = runtimeDir) :
    Keeps runtimeDir sessionId Unclaimed
      (attachFresh looks params endpoint sessionId port existing)
      fun _ => Claimed := by
  apply Machine.triple_bind (keeps_unclaimed (uses_ofAmt _))
  intro specs
  apply Machine.triple_bind (keeps_unclaimed (uses_validateMediaSpecs _ _))
  intro _
  split
  · exact Machine.triple_returned unclaimed_steady fun _ h => h.claimed
  · exact keeps_startSession looks params endpoint port specs existing _ hdir

theorem keeps_liveSession (record : StateRecord) :
    Keeps runtimeDir sessionId (Read record)
      (liveSession (recordMembers record)) fun live w =>
        Claimed w ∧ (live = false -> Leaving w) := by
  have hsteady := @read_steady runtimeDir sessionId record
  rw [liveSession, get_pid, get_state]
  apply Machine.triple_bind (keeps_probe record)
  intro alive
  cases alive with
  | false =>
      intro w hw
      refine Machine.triple_returned (a := false) (dead_steady hsteady) ?_ w
        ⟨hw.1, hw.2 rfl⟩
      exact fun _ h => ⟨h.1.claimed, fun _ => read_leaving h.1 h.2⟩
  | true =>
      rw [if_pos rfl, inTerminalStates_name]
      intro w hw
      refine Machine.triple_returned (a := !record.state.terminal) hsteady ?_ w
        hw.1
      intro w' hread
      refine ⟨hread.claimed, fun hlive => ⟨hread.claimed, ?_⟩⟩
      intro daemon hmem halive
      have hterminal : record.state.terminal = true := by
        simpa using hlive
      exact Or.inl ((hread.tells daemon hmem halive).2 hterminal)

theorem keeps_attach (looks : Nat) (params : Params) (endpoint : String)
    (port : Int) (hdir : params.runtimeDir = runtimeDir)
    (hsession : given params.sessionId = some sessionId) :
    Keeps runtimeDir sessionId Claimed (attach looks params endpoint port)
      fun _ => Claimed := by
  rw [attach, attachSession, hsession, hdir]
  apply Machine.triple_bind (keeps_readState _)
  intro existing
  cases existing with
  | none => exact keeps_attachFresh looks params endpoint port none hdir
  | some members =>
      intro w hw
      rcases hw with ⟨record, hmembers, hread⟩
      rw [hmembers]
      refine Machine.triple_bind (keeps_liveSession record) ?_ w hread
      intro live
      cases live with
      | true =>
          intro w' hw'
          exact keeps_claimed (uses_attachedResult _ _ _) w' hw'.1
      | false =>
          intro w' hw'
          refine Machine.triple_bind keeps_removeState ?_ w' (hw'.2 rfl)
          intro _
          exact keeps_attachFresh looks params endpoint port _ hdir

theorem keeps_stopSession (looks : Nat) (params : Params)
    (endpoint : String) (record : StateRecord)
    (hdir : params.runtimeDir = runtimeDir) :
    Keeps runtimeDir sessionId (Read record)
      (stopSession looks params endpoint sessionId (recordMembers record))
      fun _ => Claimed := by
  have hleaving : forall {alpha : Type} {x : MediaScript alpha},
      Script.Uses Looks x ->
      Keeps runtimeDir sessionId Leaving x fun _ => Leaving :=
    fun hx => keeps_of_looks hx leaving_steady fun _ h => h.claimed
  rw [stopSession, get_pid, hdir]
  apply Machine.triple_bind (keeps_requestStop record)
  intro _
  apply Machine.triple_bind (hleaving (uses_ofResult _))
  intro timeout
  apply Machine.triple_bind (hleaving (uses_waitForExit _ _ _))
  intro exited
  apply Machine.triple_bind (hleaving (uses_readState _ _ _))
  intro last
  apply Machine.triple_bind keeps_removeState
  intro _ w hw
  refine keeps_claimed ?_ w hw.claimed
  apply Script.uses_bind
  · cases exited <;> first | trivial | exact Script.uses_ask trivial
  · exact fun _ => uses_reported _ _

theorem keeps_detach (looks : Nat) (params : Params) (endpoint : String)
    (hdir : params.runtimeDir = runtimeDir) :
    Keeps runtimeDir sessionId Claimed
      (detach looks params endpoint sessionId) fun _ => Claimed := by
  rw [detach, hdir]
  apply Machine.triple_bind (keeps_readState _)
  intro existing
  cases existing with
  | none =>
      intro w hw
      exact keeps_claimed (uses_reported _ _) w (Unclaimed.claimed hw)
  | some members =>
      intro w hw
      rcases hw with ⟨record, hmembers, hread⟩
      rw [hmembers]
      refine Machine.triple_bind (keeps_probe record) ?_ w hread
      intro live w' hw'
      split
      · exact keeps_claimed (uses_reported _ _) w' hw'.1.claimed
      · cases live with
        | true =>
            exact keeps_stopSession looks params endpoint record hdir w' hw'.1
        | false =>
            refine Machine.triple_bind keeps_removeState ?_ w'
              (read_leaving hw'.1 (hw'.2 rfl))
            intro _ w'' hw''
            exact keeps_claimed (uses_reported _ _) w''
              (Unclaimed.claimed hw'')

theorem given_eq_some {option : Option String} {text : String}
    (h : given option = some text) : option = some text :=
  (Option.filter_eq_some_iff.mp h).1

theorem keeps_main {x : MediaScript ModuleResult}
    (hx : calls runtimeDir sessionId x) :
    Keeps runtimeDir sessionId Claimed x fun _ => Claimed := by
  rcases hx with ⟨looks, params, hdir, hsession, rfl⟩
  apply Machine.triple_handle (E := fun _ => Claimed)
  · rw [operate]
    cases params.state with
    | attached =>
        apply Machine.triple_bind (keeps_claimed (uses_ofAmt _))
        intro _
        apply Machine.triple_bind (keeps_claimed (uses_ofAmt _))
        intro _
        exact keeps_attach looks params _ _ hdir hsession
    | detached =>
        rw [given_eq_some hsession]
        exact keeps_detach looks params _ hdir
  · intro e
    cases e with
    | amt error | failJson result | exception e | waiting =>
        exact Machine.triple_raised claimed_steady fun _ h => h

theorem start_claimed (file : Option StateRecord) :
    Claimed (World.start file) := by
  have hnone : forall daemon, daemon ∉ (World.start file).daemons :=
    fun _ h => nomatch h
  constructor
  · constructor
    · exact fun daemon h => absurd (List.dropLast_subset _ h) (hnone daemon)
    · exact fun daemon h => absurd h (hnone daemon)
    · exact fun _ _ daemon h => absurd h (hnone daemon)
  · exact fun daemon h => absurd h (hnone daemon)

/-- In every sequence of calls for one session that never removes the record
of a daemon that is leaving, a daemon is forked only when none that was forked
before is still alive. -/
theorem one_daemon_per_session {file : Option StateRecord}
    {config : SessionConfig} {next : ForkResult -> MediaScript ModuleResult}
    {w : World}
    (h : (careful runtimeDir sessionId).Serial Machine.AtEnd
      (calls runtimeDir sessionId) (World.start file)
      (Script.call (SystemOp.fork config) next, w)) :
    forall daemon, daemon ∈ w.daemons -> ¬ daemon.alive := by
  have hsafe := Machine.serial_safe (start_claimed file)
    (fun _ hx => keeps_main hx) (fun _ _ => Machine.safe_atEnd) h
  exact Machine.safe_guarded hsafe config rfl

end Session

/-!
## The parts of an attach
-/

/-- The end of an attach: the verdict on the record that the wait returned, and
the report of the module. -/
def confirmAttach (params : Params) (endpoint session : String)
    (observed : Option Members) (report : StatusFields -> ModuleResult) :
    MediaScript ModuleResult := do
  let fields ← ofResult (statusFields observed)
  verdict params endpoint session observed fields
  pure (report fields)

/-- The session that an attach has prepared is spawned. -/
def spawnFor (params : Params) (session : String) (port : Int)
    (specs : List MediaSpec) : MediaScript Nat := do
  let config ← ofRaised (buildSessionConfig params session port specs)
  spawnSession config

theorem startSession_eq (looks : Nat) (params : Params)
    (endpoint session : String) (port : Int) (specs : List MediaSpec)
    (existing : Option Members) (recoveredStale : Bool) :
    exists report : Option Members -> StatusFields -> ModuleResult,
      startSession looks params endpoint session port specs existing
          recoveredStale =
        (spawnFor params session port specs >>= fun _ =>
          ofResult (floatOf params.attachTimeout) >>= fun timeout =>
            waitForState params.interpreter params.runtimeDir session settled
                timeout looks >>= fun observed =>
              confirmAttach params endpoint session observed
                (report observed)) := by
  refine ⟨fun observed fields =>
    { receipt :=
        { action := "amt_media.attach"
          endpoint := endpoint
          changed := true
          previous := existing
          desired := some DesiredState.attached
          observed := observed
          tlsPeerFingerprint := fields.tlsPeerFingerprint }
      sessionId := session
      fields := fields
      recoveredStaleSession := some recoveredStale }, ?_⟩
  rw [spawnFor, Script.bind_assoc]
  rfl

/-!
## Two attaches of one session

The daemon of the first attach fails and writes its error.  The second attach
finds it dead, or still closing its image and its socket.
-/

section Attaches

def againParams : Params where
  host := "amt"
  useTls := false
  allowInsecureTransport := true
  floppy := some "/disk.img"
  state := DesiredState.attached
  sessionId := some "s"
  runtimeDir := "/run"

def emptyDisk : Filesystem where
  isSymlink _ := false
  resolve _ := some ["disk.img"]
  file _ := []
  openable _ _ := true
  shortReads _ := []

def againConfig : SessionConfig where
  sessionId := "s"
  host := "amt"
  port := 16994
  useTls := false
  tlsPinSha256 := none
  connectTimeout := 10
  startMode := StartMode.onReboot
  allowedDirectory := none
  runtimeDir := "/run"
  devices :=
    [{ path := "/disk.img"
       deviceCode := DeviceCode.floppy.code.toNat
       writable := false }]

theorem againConfig_built :
    buildSessionConfig againParams "s" 16994 againConfig.devices =
      Except.ok againConfig := by
  have hconnect : floatOf againParams.connectTimeout = Except.ok 10 :=
    floatOf_exact (by decide)
  rw [buildSessionConfig, hconnect]
  rfl

theorem startSession_again (looks : Nat) (existing : Option Members)
    (recoveredStale : Bool) :
    exists report : Option Members -> StatusFields -> ModuleResult,
      startSession looks againParams "amt:16994" "s" 16994
          againConfig.devices existing recoveredStale =
        (spawnSession againConfig >>= fun _ =>
          waitForState usualInterpreter "/run" "s" settled 10 looks >>=
            fun observed => confirmAttach againParams "amt:16994" "s" observed
              (report observed)) := by
  have hattach : floatOf againParams.attachTimeout = Except.ok 10 :=
    floatOf_exact (by decide)
  rcases startSession_eq looks againParams "amt:16994" "s" 16994
    againConfig.devices existing recoveredStale with ⟨report, hstart⟩
  refine ⟨report, ?_⟩
  rw [hstart, spawnFor, againConfig_built, hattach]
  rfl

/-- What the daemon writes when the connection is refused. -/
def refusedRecord : StateRecord :=
  { initialState "s" "amt:16994" 100 "t" with
    state := SessionState.error
    error := some "connection refused"
    errorClass := some ErrorClass.connection }

theorem refusedRecord_dumped : refusedRecord.Dumped where
  pid := by decide
  devices := fun entry h => by cases h

def failedWorld (phase : DaemonPhase) : World where
  file := some refusedRecord
  daemons := [{ pid := 100, phase := phase }]
  asked := []

def forgottenWorld (phase : DaemonPhase) : World :=
  { failedWorld phase with file := none }

theorem againParams_calls : calls "/run" "s" (main 1 againParams) :=
  ⟨1, againParams, rfl, rfl, rfl⟩

/-- A machine in which the session goes on as it can, and its state file may
stay. -/
structure Lively (M : Machine SystemOp SystemAnswer World) : Prop where
  background : forall w w', DaemonStep w w' -> M.background w w'
  perform : forall w o a w',
    o ≠ SystemOp.unlink (SessionFile.state "/run" "s") ->
    Perform "/run" "s" w o a w' -> M.perform w o a w'

theorem system_lively : Lively (system "/run" "s") :=
  ⟨fun _ _ h => h, fun _ _ _ _ _ h => h⟩

theorem careful_lively : Lively (careful "/run" "s") :=
  ⟨fun _ _ h => h, fun _ _ _ _ hkept h => ⟨fun hgone => absurd hgone hkept, h⟩⟩

variable {M : Machine SystemOp SystemAnswer World}

theorem Lively.unrelated (h : Lively M) (w : World) {o : SystemOp}
    (a : SystemAnswer o) (hforeign : foreign "/run" "s" o = true) :
    M.perform w o a w := by
  apply h.perform w o a w
  · intro hgone
    subst hgone
    simp [foreign] at hforeign
  · exact Perform.unrelated a hforeign

theorem Lively.read (h : Lively M) {w : World} {record : StateRecord}
    (hfile : w.file = some record) (hdumped : record.Dumped) :
    M.Reaches (readState usualInterpreter "/run" "s", w)
      (Script.returned (some (recordMembers record)), w) := by
  rw [readState_eq]
  apply Machine.reaches_call
    (h.perform w _ _ w SystemOp.noConfusion (Perform.read hfile hdumped))
  rw [parseRead_stateBytes hdumped]
  exact Relation.ReflTransGen.refl

theorem Lively.waitsForError (h : Lively M) {w : World}
    (hfile : w.file = some refusedRecord) :
    M.Reaches (waitForState usualInterpreter "/run" "s" settled 10 1, w)
      (Script.returned (some (recordMembers refusedRecord)), w) := by
  apply Machine.reaches_call (h.unrelated w (o := SystemOp.monotonic) 0 rfl)
  apply Machine.reaches_then (h.read hfile refusedRecord_dumped)
  exact Relation.ReflTransGen.refl

def servingWorld : World where
  file := some (initialState "s" "amt:16994" 100 "t")
  daemons := [{ pid := 100, phase := DaemonPhase.serving }]
  asked := []

theorem serving_fails :
    DaemonStep servingWorld (failedWorld DaemonPhase.closing) :=
  @DaemonStep.settles servingWorld [] []
    { pid := 100, phase := DaemonPhase.serving } refusedRecord rfl rfl rfl rfl

theorem closing_dies :
    DaemonStep (failedWorld DaemonPhase.closing)
      (failedWorld DaemonPhase.dead) :=
  @DaemonStep.dies (failedWorld DaemonPhase.closing) [] []
    { pid := 100, phase := DaemonPhase.closing } rfl

def refusedResult : FailResult where
  msg := reportedMessage (jsonText "connection refused")
  errorClass := jsonText ErrorClass.connection.name
  sessionId := some "s"
  fields := some
    { sessionState := jsonText SessionState.error.name
      pid := Json.int 100
      bytesRead := 0
      bytesWritten := 0
      devices := Json.obj []
      error := jsonText "connection refused"
      tlsPeerFingerprint := Json.null }

theorem Lively.firstAttach (h : Lively M) :
    M.Reaches (main 1 againParams, World.start none)
      (Script.raised (Raised.failJson refusedResult),
        failedWorld DaemonPhase.closing) := by
  apply Machine.reaches_handle
    (y := Script.raised (Raised.failJson refusedResult)) _ rfl
  apply Machine.reaches_call
    (h.perform _ _ _ _ SystemOp.noConfusion (Perform.readMissing rfl))
  apply Machine.reaches_call (h.unrelated _ (o := SystemOp.files) emptyDisk rfl)
  rcases startSession_again 1 none false with ⟨report, hstart⟩
  show M.Reaches (startSession 1 againParams "amt:16994" "s" 16994
    againConfig.devices none false, World.start none) _
  rw [hstart]
  have hfork : Perform "/run" "s" (World.start none)
      (SystemOp.fork againConfig) (ForkResult.started 100)
      { servingWorld with file := none } :=
    Perform.forks rfl rfl (by decide) fun _ hmem => nomatch hmem
  apply Machine.reaches_call (h.perform _ _ _ _ SystemOp.noConfusion hfork)
  apply Machine.reaches_call (h.unrelated _ (o := SystemOp.now) "t" rfl)
  apply Machine.reaches_call
    (h.perform _ _ _ _ SystemOp.noConfusion (Perform.creates rfl))
  apply Machine.reaches_background (h.background _ _ serving_fails)
  apply Machine.reaches_then (h.waitsForError rfl)
  exact Relation.ReflTransGen.refl

theorem Lively.secondAttach (h : Lively M) {phase : DaemonPhase}
    {probe : KillResult}
    (hprobe : Perform "/run" "s" (failedWorld phase)
      (SystemOp.kill 100 Signal.probe) probe (failedWorld phase))
    (hunlink : M.perform (failedWorld phase)
      (SystemOp.unlink (SessionFile.state "/run" "s")) (Except.ok ())
      (forgottenWorld phase)) :
    exists next, M.Reaches (main 1 againParams, failedWorld phase)
      (Script.call (SystemOp.fork againConfig) next,
        forgottenWorld phase) := by
  have hlive : M.Reaches
      (liveSession (recordMembers refusedRecord), failedWorld phase)
      (Script.returned false, failedWorld phase) := by
    apply Machine.reaches_call
      (h.perform _ _ _ _ SystemOp.noConfusion hprobe)
    cases probe <;> exact Relation.ReflTransGen.refl
  have hfork : exists next, startSession 1 againParams "amt:16994" "s" 16994
      againConfig.devices (some (recordMembers refusedRecord)) true =
        Script.call (SystemOp.fork againConfig) next := by
    rcases startSession_again 1 (some (recordMembers refusedRecord)) true with
      ⟨report, hstart⟩
    rw [hstart]
    exact ⟨_, rfl⟩
  rcases hfork with ⟨next, hfork⟩
  refine ⟨fun a => (next a).handle reportAmt, ?_⟩
  apply Machine.reaches_handle (y := Script.call _ next) _ rfl
  apply Machine.reaches_then (h.read rfl refusedRecord_dumped)
  apply Machine.reaches_then hlive
  apply Machine.reaches_call hunlink
  apply Machine.reaches_call
    (h.unrelated _ (o := SystemOp.unlink (SessionFile.log "/run" "s"))
      (Except.ok ()) rfl)
  apply Machine.reaches_call (h.unrelated _ (o := SystemOp.files) emptyDisk rfl)
  rw [← hfork]
  exact Relation.ReflTransGen.refl

/-- One session, one daemon after the other. -/
theorem one_daemon_per_session_again : exists next,
    (careful "/run" "s").Serial Machine.AtEnd (calls "/run" "s")
      (World.start none) (Script.call (SystemOp.fork againConfig) next,
        forgottenWorld DaemonPhase.dead) ∧
      forall daemon, daemon ∈ (forgottenWorld DaemonPhase.dead).daemons ->
        ¬ daemon.alive := by
  have hdead : forall daemon, daemon ∈ (failedWorld DaemonPhase.dead).daemons ->
      ¬ daemon.alive := by
    intro daemon hmem halive
    rw [List.mem_singleton.mp hmem] at halive
    exact halive rfl
  have hprobe : Perform "/run" "s" (failedWorld DaemonPhase.dead)
      (SystemOp.kill 100 Signal.probe) KillResult.noSuchProcess
      (failedWorld DaemonPhase.dead) :=
    Perform.probes _ fun daemon hmem halive =>
      absurd halive (hdead daemon hmem)
  rcases careful_lively.secondAttach hprobe
    ⟨fun _ daemon hmem halive => absurd halive (hdead daemon hmem),
      Perform.unlinks (Option.some_ne_none _)⟩ with ⟨next, hsecond⟩
  have hserial : (careful "/run" "s").Serial Machine.AtEnd (calls "/run" "s")
      (World.start none) (Script.call (SystemOp.fork againConfig) next,
        forgottenWorld DaemonPhase.dead) :=
    Machine.serial_reaches
      (Machine.Serial.next
        (Machine.Serial.step
          (Machine.serial_reaches (Machine.Serial.begins againParams_calls)
            careful_lively.firstAttach)
          (Machine.Step.background closing_dies))
        rfl againParams_calls)
      hsecond
  exact ⟨next, hserial, one_daemon_per_session hserial⟩

/-- A session whose daemon has written its error and is still closing gets a
second daemon. -/
theorem closing_daemon_doubled :
    ¬ forall (runtimeDir sessionId : String) (file : Option StateRecord)
      (config : SessionConfig) (next : ForkResult -> MediaScript ModuleResult)
      (w : World),
      (system runtimeDir sessionId).Serial Machine.AtEnd
        (calls runtimeDir sessionId) (World.start file)
        (Script.call (SystemOp.fork config) next, w) ->
      forall daemon, daemon ∈ w.daemons -> ¬ daemon.alive := by
  intro hclaim
  have hprobe : Perform "/run" "s" (failedWorld DaemonPhase.closing)
      (SystemOp.kill 100 Signal.probe) KillResult.delivered
      (failedWorld DaemonPhase.closing) :=
    Perform.probes _ fun _ _ _ _ h => nomatch h
  rcases system_lively.secondAttach hprobe
    (Perform.unlinks (Option.some_ne_none _)) with ⟨next, hsecond⟩
  have hfirst : (system "/run" "s").Serial Machine.AtEnd (calls "/run" "s")
      (World.start none) (Script.raised (Raised.failJson refusedResult),
        failedWorld DaemonPhase.closing) :=
    Machine.serial_reaches (Machine.Serial.begins againParams_calls)
      system_lively.firstAttach
  have hserial := Machine.serial_reaches
    (Machine.Serial.next hfirst rfl againParams_calls) hsecond
  exact hclaim "/run" "s" none againConfig next _ hserial
    { pid := 100, phase := DaemonPhase.closing } List.mem_cons_self
    (fun h => nomatch h)

end Attaches
end AmtMedia
end IntelAmt
