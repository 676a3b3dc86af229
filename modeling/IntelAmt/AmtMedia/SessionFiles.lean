import IntelAmt.AmtMedia.OneDaemon
import IntelAmt.Foundation.Paths

/-!
# Where the files of a session are

The id of a session is spliced into the paths of its two files.
-/

namespace IntelAmt

open Foundation

namespace MediaSession

/-!
## The paths
-/

def stateSuffix : List Char := ".json".toList

def logSuffix : List Char := ".log".toList

/-- `state_file_path`. -/
def stateFilePath (runtimeDir sessionId : String) : Path :=
  (Path.ofText runtimeDir.toList).join (sessionId.toList ++ stateSuffix)

/-- `log_file_path`. -/
def logFilePath (runtimeDir sessionId : String) : Path :=
  (Path.ofText runtimeDir.toList).join (sessionId.toList ++ logSuffix)

def SessionFile.path : SessionFile -> Path
  | SessionFile.state runtimeDir sessionId =>
      stateFilePath runtimeDir sessionId
  | SessionFile.log runtimeDir sessionId => logFilePath runtimeDir sessionId

end MediaSession

namespace AmtMedia

open Ider MediaSession

/-!
## The files that are changed
-/

/-- The files that an operation creates, replaces or deletes.  A daemon
replaces the state file that it was forked for, and creates the log. -/
def changedFiles : SystemOp -> List SessionFile
  | SystemOp.unlink file => [file]
  | SystemOp.createExclusive file _ => [file]
  | SystemOp.fork config =>
      [SessionFile.state config.runtimeDir config.sessionId,
        SessionFile.log config.runtimeDir config.sessionId]
  | _ => []

/-- The session that a call is given; an attach takes an empty id for none. -/
def sessionOf (params : Params) : Option String :=
  match params.state with
  | DesiredState.attached => given params.sessionId
  | DesiredState.detached => params.sessionId

/-- A call of the module for the session changes the file. -/
def ChangedFor (runtimeDir session : String) (file : SessionFile) : Prop :=
  exists looks params o, params.runtimeDir = runtimeDir ∧
    sessionOf params = some session ∧
    Script.Asks o (main looks params) ∧ file ∈ changedFiles o

/-- The operation changes the files of this session only. -/
def OwnFiles (runtimeDir session : String) (o : SystemOp) : Prop :=
  forall file, file ∈ changedFiles o ->
    file = SessionFile.state runtimeDir session ∨
      file = SessionFile.log runtimeDir session

section Own

variable {runtimeDir session : String}

theorem ownFiles_of_none {o : SystemOp} (h : changedFiles o = []) :
    OwnFiles runtimeDir session o := by
  intro file hfile
  rw [h] at hfile
  cases hfile

theorem ownFiles_of_looks {alpha : Type} {x : MediaScript alpha}
    (h : Script.Uses Looks x) :
    Script.Uses (OwnFiles runtimeDir session) x := by
  apply Script.uses_mono h
  intro o ho file hfile
  cases o with
  | unlink _ | createExclusive _ _ | fork _ => exact ho.elim
  | readFile _ | kill _ _ | files | monotonic | sleep _ | now | uuid | warn _ =>
      cases hfile

theorem own_removeState :
    Script.Uses (OwnFiles runtimeDir session)
      (removeState runtimeDir session) := by
  have hsuppress : forall result,
      Script.Uses (OwnFiles runtimeDir session) (suppressNotFound result) := by
    intro result
    rcases result with e | _
    · cases e <;> trivial
    · trivial
  apply Script.uses_bind
  · apply Script.uses_bind (Script.uses_ask _) hsuppress
    intro file hfile
    exact Or.inl (List.mem_singleton.mp hfile)
  · intro _
    apply Script.uses_bind (Script.uses_ask _) hsuppress
    intro file hfile
    exact Or.inr (List.mem_singleton.mp hfile)

theorem own_requestStop (pid : Json) :
    Script.Uses (OwnFiles runtimeDir session) (requestStop pid) := by
  have hnumber : forall n, Script.Uses (OwnFiles runtimeDir session)
      (requestStop.stopNumber n) := by
    intro n
    rw [requestStop.stopNumber]
    split
    · trivial
    · rw [osKill]
      split
      · apply Script.uses_bind (Script.uses_ask (ownFiles_of_none rfl))
        intro result
        cases result <;> trivial
      · trivial
  cases pid with
  | int n => exact hnumber n
  | bool value => exact hnumber _
  | float literal =>
      rw [requestStop]
      split <;> trivial
  | null | str _ | arr _ | obj _ => trivial

theorem own_spawnSession {config : SessionConfig}
    (hdir : config.runtimeDir = runtimeDir)
    (hsession : config.sessionId = session) :
    Script.Uses (OwnFiles runtimeDir session) (spawnSession config) := by
  subst hdir hsession
  constructor
  · intro file hfile
    rcases List.mem_cons.mp hfile with h | h
    · exact Or.inl h
    · exact Or.inr (List.mem_singleton.mp h)
  · intro forked
    cases forked with
    | unsupported | failed | silent => trivial
    | started pid =>
        apply Script.uses_bind (Script.uses_ask (ownFiles_of_none rfl))
        intro now
        apply Script.uses_bind (Script.uses_ask _)
        · intro result
          cases result <;> trivial
        · intro file hfile
          exact Or.inl (List.mem_singleton.mp hfile)

theorem own_attachFresh (looks : Nat) {params : Params} (endpoint : String)
    (port : Int) (existing : Option Members)
    (hdir : params.runtimeDir = runtimeDir) :
    Script.Uses (OwnFiles runtimeDir session)
      (attachFresh looks params endpoint session port existing) := by
  apply Script.uses_bind (ownFiles_of_looks (uses_ofAmt _))
  intro specs
  apply Script.uses_bind (ownFiles_of_looks (uses_validateMediaSpecs _ _))
  intro _
  split
  · trivial
  · rw [startSession]
    cases hconfig : buildSessionConfig params session port specs with
    | error e => trivial
    | ok config =>
        rcases buildSessionConfig_session hconfig with ⟨hconfigDir, hid⟩
        apply Script.uses_bind
          (own_spawnSession (hconfigDir.trans hdir) hid)
        intro _
        apply ownFiles_of_looks
        apply Script.uses_bind (uses_ofResult _)
        intro timeout
        apply Script.uses_bind (uses_waitForState _ _ _ _ _ _)
        intro observed
        apply Script.uses_bind (uses_ofResult _)
        intro fields
        exact Script.uses_bind (uses_verdict _ _ _ _ _) fun _ => trivial

theorem own_attach (looks : Nat) {params : Params} (endpoint : String)
    (port : Int) (hdir : params.runtimeDir = runtimeDir)
    (hsession : given params.sessionId = some session) :
    Script.Uses (OwnFiles runtimeDir session)
      (attach looks params endpoint port) := by
  rw [attach, attachSession, hsession]
  apply Script.uses_bind (ownFiles_of_looks (uses_readState _ _ _))
  intro existing
  cases existing with
  | none => exact own_attachFresh _ _ _ _ hdir
  | some record =>
      apply Script.uses_bind (ownFiles_of_looks
        (Script.uses_bind (uses_isPidAlive _) fun alive => by
          split
          · exact Script.uses_bind (uses_ofResult _) fun _ => trivial
          · trivial))
      intro live
      split
      · exact ownFiles_of_looks (uses_attachedResult _ _ _)
      · rw [hdir]
        exact Script.uses_bind own_removeState fun _ =>
          own_attachFresh _ _ _ _ hdir

theorem own_detach (looks : Nat) {params : Params} (endpoint : String)
    (hdir : params.runtimeDir = runtimeDir) :
    Script.Uses (OwnFiles runtimeDir session)
      (detach looks params endpoint session) := by
  have hreported := fun result report =>
    @ownFiles_of_looks runtimeDir session _ _ (uses_reported result report)
  rw [detach, hdir]
  apply Script.uses_bind (ownFiles_of_looks (uses_readState _ _ _))
  intro existing
  cases existing with
  | none => exact hreported _ _
  | some record =>
      apply Script.uses_bind (ownFiles_of_looks (uses_isPidAlive _))
      intro live
      split
      · exact hreported _ _
      · split
        · rw [stopSession, hdir]
          apply Script.uses_bind (own_requestStop _)
          intro _
          apply Script.uses_bind (ownFiles_of_looks (uses_ofResult _))
          intro timeout
          apply Script.uses_bind (ownFiles_of_looks (uses_waitForExit _ _ _))
          intro exited
          apply Script.uses_bind (ownFiles_of_looks (uses_readState _ _ _))
          intro last
          apply Script.uses_bind own_removeState
          intro _
          apply Script.uses_bind
          · apply ownFiles_of_looks
            cases exited with
            | true => trivial
            | false => exact Script.uses_ask trivial
          · exact fun _ => hreported _ _
        · exact Script.uses_bind own_removeState fun _ => hreported _ _

theorem own_main (looks : Nat) {params : Params}
    (hdir : params.runtimeDir = runtimeDir)
    (hsession : sessionOf params = some session) :
    Script.Uses (OwnFiles runtimeDir session) (main looks params) := by
  apply Script.uses_handle
  · unfold sessionOf at hsession
    unfold operate
    cases hstate : params.state with
    | attached =>
        rw [hstate] at hsession
        apply Script.uses_bind (ownFiles_of_looks (uses_ofAmt _))
        intro _
        apply Script.uses_bind (ownFiles_of_looks (uses_ofAmt _))
        exact fun _ => own_attach _ _ _ hdir hsession
    | detached =>
        rw [hstate] at hsession
        have hid : params.sessionId = some session := hsession
        rw [hid]
        exact own_detach _ _ hdir
  · intro raised
    cases raised <;> trivial

end Own

/-- A detach whose daemon is gone. -/
def staleDetach (runtimeDir session : String) : Params where
  host := "amt"
  state := DesiredState.detached
  sessionId := some session
  runtimeDir := runtimeDir

theorem asks_gone {o : SystemOp} {alpha : Type} {f : Bool -> MediaScript alpha}
    (h : Script.Asks o (f false)) :
    Script.Asks o (isPidAlive (Json.int (100 : Nat)) >>= f) :=
  Or.inr ⟨KillResult.noSuchProcess, h⟩

theorem asks_detach {params : Params} (hcheck : params.checkMode = false)
    (endpoint session : String) {record : StateRecord}
    (hdumped : record.Dumped) (hpid : record.pid = 100) {o : SystemOp}
    (h : Script.Asks o (removeState params.runtimeDir session)) :
    Script.Asks o (detach 0 params endpoint session) := by
  rw [detach, readState_eq, Script.call_bind]
  refine Or.inr ⟨Except.ok (stateBytes record), ?_⟩
  beta_reduce
  rw [parseRead_stateBytes hdumped, Script.returned_bind]
  dsimp only
  rw [get_pid, hpid]
  apply asks_gone
  rw [hcheck, if_neg Bool.false_ne_true, if_neg Bool.false_ne_true]
  exact Script.asks_bind h

theorem asks_staleDetach (runtimeDir session : String) {o : SystemOp}
    (h : Script.Asks o (removeState runtimeDir session)) :
    Script.Asks o (main 0 (staleDetach runtimeDir session)) :=
  Script.asks_handle
    (@asks_detach (staleDetach runtimeDir session) rfl _ session
      (initialState session "amt:16994" 100 "t")
      (initialState_dumped (by decide) _ _ _) rfl o h)

/-- A call changes the files of its session, and all of them can be changed. -/
theorem changedFor_iff (runtimeDir session : String) (file : SessionFile) :
    ChangedFor runtimeDir session file ↔
      file = SessionFile.state runtimeDir session ∨
        file = SessionFile.log runtimeDir session := by
  constructor
  · rintro ⟨looks, params, o, hdir, hsession, hasks, hfile⟩
    exact (own_main looks hdir hsession).asks hasks file hfile
  · intro hfile
    refine ⟨0, staleDetach runtimeDir session, SystemOp.unlink file, rfl, rfl,
      ?_, List.mem_singleton_self file⟩
    apply asks_staleDetach
    rcases hfile with rfl | rfl
    · exact Or.inl rfl
    · exact Or.inr ⟨Except.ok (), Or.inl rfl⟩

/-!
## Children of the runtime directory
-/

/-- The files of the session are directly inside the runtime directory. -/
def StaysInside (runtimeDir session : String) : Prop :=
  forall file, ChangedFor runtimeDir session file ->
    file.path.ChildOf (Path.ofText runtimeDir.toList)

/-- The sessions share no file. -/
def Apart (runtimeDir session other : String) : Prop :=
  forall file file', ChangedFor runtimeDir session file ->
    ChangedFor runtimeDir other file' -> file.path ≠ file'.path

/-- The id is a name, behind nothing or behind the runtime directory itself. -/
def IsNamed (runtimeDir session : String) : Prop :=
  (Path.ofText runtimeDir.toList).Names session.toList

instance (runtimeDir session : String) :
    Decidable (IsNamed runtimeDir session) :=
  inferInstanceAs (Decidable (Path.Names _ _))

theorem state_ne_log (name other : List Char) :
    name ++ stateSuffix ≠ other ++ logSuffix := by
  intro h
  have hlast := congrArg List.getLast? h
  have hstate : stateSuffix.getLast? = some 'n' := rfl
  have hlog : logSuffix.getLast? = some 'g' := rfl
  rw [List.getLast?_append, List.getLast?_append, hstate, hlog] at hlast
  exact absurd (Option.some.inj hlast) (by decide)

theorem long_ne_dots {tail : List Char} (h : 3 ≤ tail.length)
    (name : List Char) : name ++ tail ≠ ['.', '.'] := by
  intro hdots
  have hlength := congrArg List.length hdots
  rw [List.length_append] at hlength
  have htwo : ['.', '.'].length = 2 := rfl
  lia

theorem stateFile_childOf_iff (runtimeDir session : String) :
    (stateFilePath runtimeDir session).ChildOf
        (Path.ofText runtimeDir.toList) ↔ IsNamed runtimeDir session :=
  Path.childOf_join_iff (by decide) _ (by decide)
    (long_ne_dots (by decide) _) _

theorem logFile_childOf_iff (runtimeDir session : String) :
    (logFilePath runtimeDir session).ChildOf
        (Path.ofText runtimeDir.toList) ↔ IsNamed runtimeDir session :=
  Path.childOf_join_iff (by decide) _ (by decide)
    (long_ne_dots (by decide) _) _

theorem staysInside_iff (runtimeDir session : String) :
    StaysInside runtimeDir session ↔ IsNamed runtimeDir session := by
  constructor
  · intro h
    exact (stateFile_childOf_iff runtimeDir session).mp
      (h _ ((changedFor_iff _ _ _).mpr (Or.inl rfl)))
  · intro h file hfile
    rcases (changedFor_iff _ _ _).mp hfile with rfl | rfl
    · exact (stateFile_childOf_iff runtimeDir session).mpr h
    · exact (logFile_childOf_iff runtimeDir session).mpr h

theorem apart_iff {runtimeDir session other : String}
    (h : IsNamed runtimeDir session) (hother : IsNamed runtimeDir other) :
    Apart runtimeDir session other ↔
      Path.baseName session.toList ≠ Path.baseName other.toList := by
  have hstate : '/' ∉ stateSuffix ∧ 2 ≤ stateSuffix.length := by decide
  have hlog : '/' ∉ logSuffix ∧ 2 ≤ logSuffix.length := by decide
  constructor
  · intro hapart hname
    refine hapart _ _ ((changedFor_iff _ _ _).mpr (Or.inl rfl))
      ((changedFor_iff _ _ _).mpr (Or.inl rfl)) ?_
    apply (Path.join_eq_iff hstate.1 hstate.2 hstate.1 hstate.2 h hother).mpr
    rw [hname]
  · intro hname file file' hfile hfile' hpath
    rcases (changedFor_iff _ _ _).mp hfile with rfl | rfl
    · rcases (changedFor_iff _ _ _).mp hfile' with rfl | rfl
      · exact hname (List.append_cancel_right ((Path.join_eq_iff hstate.1
          hstate.2 hstate.1 hstate.2 h hother).mp hpath))
      · exact state_ne_log _ _ ((Path.join_eq_iff hstate.1 hstate.2 hlog.1
          hlog.2 h hother).mp hpath)
    · rcases (changedFor_iff _ _ _).mp hfile' with rfl | rfl
      · exact state_ne_log _ _ ((Path.join_eq_iff hlog.1 hlog.2 hstate.1
          hstate.2 h hother).mp hpath).symm
      · exact hname (List.append_cancel_right ((Path.join_eq_iff hlog.1
          hlog.2 hlog.1 hlog.2 h hother).mp hpath))

/-- Both sessions keep their files directly in the runtime directory, and share
none unless they are one session. -/
def KeptInDirectory (runtimeDir session other : String) : Prop :=
  StaysInside runtimeDir session ∧ StaysInside runtimeDir other ∧
    (session ≠ other -> Apart runtimeDir session other)

theorem keptInDirectory_iff (runtimeDir session other : String) :
    KeptInDirectory runtimeDir session other ↔
      IsNamed runtimeDir session ∧ IsNamed runtimeDir other ∧
        (session ≠ other ->
          Path.baseName session.toList ≠ Path.baseName other.toList) := by
  unfold KeptInDirectory
  rw [staysInside_iff, staysInside_iff]
  constructor
  · rintro ⟨h, hother, hapart⟩
    exact ⟨h, hother, fun hne => (apart_iff h hother).mp (hapart hne)⟩
  · rintro ⟨h, hother, hnames⟩
    exact ⟨h, hother, fun hne => (apart_iff h hother).mpr (hnames hne)⟩

/-- The id of a session leads out of the runtime directory. -/
theorem parent_id_leaves :
    ¬ forall runtimeDir session other,
      KeptInDirectory runtimeDir session other := by
  intro h
  have hnamed := (staysInside_iff _ _).mp (h "/run/amt" "../x" "s").1
  exact absurd hnamed (by decide)

end AmtMedia
end IntelAmt
