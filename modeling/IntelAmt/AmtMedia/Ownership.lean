import IntelAmt.AmtMedia.Endpoint
import IntelAmt.AmtMedia.Looking

/-!
# Whose record it is

The record of a session is the only thing that leads to its daemon.  What is
known of the two holds on while the daemons go on by themselves, and each
function that a call is made of changes it in one way.
-/

namespace IntelAmt
namespace AmtMedia

open Foundation Ider MediaSession

/-!
## Assertions
-/

/-- Only the last daemon can be alive, and a record in the state file is
its record. -/
structure Consistent (w : World) : Prop where
  past : forall daemon, daemon ∈ w.daemons.dropLast -> ¬ daemon.alive
  positive : forall daemon, daemon ∈ w.daemons -> daemon.alive ->
    0 < daemon.pid
  agrees : forall record, w.file = some record ->
    forall daemon, daemon ∈ w.daemons -> daemon.alive ->
      record.pid = daemon.pid ∧
        (record.state.terminal = true -> daemon.phase = DaemonPhase.closing)

/-- A live daemon has its record. -/
structure Claimed (w : World) : Prop where
  consistent : Consistent w
  present : forall daemon, daemon ∈ w.daemons -> daemon.alive ->
    w.file ≠ none

structure Unclaimed (w : World) : Prop where
  consistent : Consistent w
  dead : w.AllDead
  missing : w.file = none

/-- Every live daemon has this pid. -/
structure Forked (pid : Nat) (w : World) : Prop where
  consistent : Consistent w
  named : forall daemon, daemon ∈ w.daemons -> daemon.alive ->
    daemon.pid = pid

/-- A record that was read tells the pid of the daemon, and that it closes. -/
structure Read (record : StateRecord) (w : World) : Prop where
  claimed : Claimed w
  tells : forall daemon, daemon ∈ w.daemons -> daemon.alive ->
    record.pid = daemon.pid ∧
      (record.state.terminal = true -> daemon.phase = DaemonPhase.closing)

/-- A live daemon closes, or was asked to. -/
structure Leaving (w : World) : Prop where
  claimed : Claimed w
  leaves : forall daemon, daemon ∈ w.daemons -> daemon.alive ->
    daemon.phase = DaemonPhase.closing ∨ (daemon.pid : Int) ∈ w.asked

theorem Unclaimed.claimed {w : World} (h : Unclaimed w) : Claimed w where
  consistent := h.consistent
  present daemon hmem halive := absurd halive (h.dead daemon hmem)

/-!
## What the daemons do
-/

/-- A live daemon comes from a live daemon that was not further. -/
structure Follows (w w' : World) : Prop where
  asked : w'.asked = w.asked
  alive : forall daemon', daemon' ∈ w'.daemons -> daemon'.alive ->
    exists daemon, daemon ∈ w.daemons ∧ daemon.alive ∧
      daemon.pid = daemon'.pid ∧
      (daemon.phase = DaemonPhase.closing ->
        daemon'.phase = DaemonPhase.closing)
  file : w'.file = w.file ∨ w'.file ≠ none ∧ ¬ w.AllDead

theorem DaemonProcess.alive_of_serving {daemon : DaemonProcess}
    (h : daemon.phase = DaemonPhase.serving) : daemon.alive := by
  intro hdead
  rw [h] at hdead
  cases hdead

theorem mem_replaced {before after : List DaemonProcess}
    {new d : DaemonProcess} (old : DaemonProcess)
    (h : d ∈ before ++ new :: after) :
    d = new ∨ d ∈ before ++ old :: after := by
  rcases List.mem_append.mp h with hbefore | hafter
  · exact Or.inr (List.mem_append_left _ hbefore)
  · rcases List.mem_cons.mp hafter with hnew | hafter
    · exact Or.inl hnew
    · exact Or.inr (List.mem_append_right _ (List.mem_cons_of_mem _ hafter))

theorem follows_of_step {w w' : World} (h : DaemonStep w w') :
    Follows w w' := by
  cases h with
  | @persists before after daemon record hdaemons hserving _ _ =>
      have halive := DaemonProcess.alive_of_serving hserving
      constructor
      · rfl
      · exact fun d hd hdalive => ⟨d, hd, hdalive, rfl, id⟩
      · right
        refine ⟨Option.some_ne_none record, fun hdead => hdead daemon ?_ halive⟩
        rw [hdaemons]
        simp
  | @settles before after daemon record hdaemons hserving _ _ =>
      have hmem : daemon ∈ w.daemons := by
        rw [hdaemons]
        simp
      have halive := DaemonProcess.alive_of_serving hserving
      constructor
      · rfl
      · intro d hd hdalive
        rcases mem_replaced daemon hd with hnew | hold
        · exact ⟨daemon, hmem, halive, by rw [hnew], fun _ => by rw [hnew]⟩
        · exact ⟨d, hdaemons ▸ hold, hdalive, rfl, id⟩
      · right
        exact ⟨Option.some_ne_none record, fun hdead => hdead _ hmem halive⟩
  | @dies before after daemon hdaemons =>
      constructor
      · rfl
      · intro d hd hdalive
        rcases mem_replaced daemon hd with hnew | hold
        · exact absurd (by rw [hnew]) hdalive
        · exact ⟨d, hdaemons ▸ hold, hdalive, rfl, id⟩
      · left
        rfl

theorem Consistent.last {w : World} (h : Consistent w)
    {before after : List DaemonProcess} {daemon : DaemonProcess}
    (hdaemons : w.daemons = before ++ daemon :: after)
    (halive : daemon.alive) : after = [] := by
  cases after with
  | nil => rfl
  | cons next after =>
      refine absurd halive (h.past daemon ?_)
      rw [hdaemons, List.dropLast_append_of_ne_nil (by simp)]
      simp

theorem Consistent.alone {w : World} (h : Consistent w)
    {d daemon : DaemonProcess} (hd : d ∈ w.daemons) (hdalive : d.alive)
    (hdaemon : daemon ∈ w.daemons) (halive : daemon.alive) : d = daemon := by
  rcases List.append_of_mem hd with ⟨before, after, hsplit⟩
  rcases List.append_of_mem hdaemon with ⟨before', after', hsplit'⟩
  have hafter := h.last hsplit hdalive
  have hafter' := h.last hsplit' halive
  rw [hsplit, hafter, hafter'] at hsplit'
  exact List.singleton_inj.mp (List.append_inj' hsplit' rfl).2

theorem consistent_step {w w' : World} (hw : Consistent w)
    (h : DaemonStep w w') : Consistent w' := by
  cases h with
  | @persists before after daemon record hdaemons hserving hpid hlive =>
      have hmem : daemon ∈ w.daemons := by
        rw [hdaemons]
        simp
      have halive := DaemonProcess.alive_of_serving hserving
      constructor
      · exact hw.past
      · exact hw.positive
      · intro r hr d hd hdalive
        cases hr
        rw [hw.alone hd hdalive hmem halive]
        refine ⟨hpid, fun hterminal => ?_⟩
        rw [hlive] at hterminal
        cases hterminal
  | @settles before after daemon record hdaemons hserving hpid hterminal =>
      have halive := DaemonProcess.alive_of_serving hserving
      have hnil := hw.last hdaemons halive
      subst hnil
      have hpast : forall d, d ∈ before -> ¬ d.alive := by
        intro d hd
        refine hw.past d ?_
        rw [hdaemons, List.dropLast_concat]
        exact hd
      have hpositive := hw.positive daemon (by rw [hdaemons]; simp) halive
      constructor
      · intro d hd
        rw [List.dropLast_concat] at hd
        exact hpast d hd
      · intro d hd hdalive
        rcases List.mem_append.mp hd with hbefore | hnew
        · exact absurd hdalive (hpast d hbefore)
        · rw [List.mem_singleton.mp hnew]
          exact hpositive
      · intro r hr d hd hdalive
        cases hr
        rcases List.mem_append.mp hd with hbefore | hnew
        · exact absurd hdalive (hpast d hbefore)
        · rw [List.mem_singleton.mp hnew]
          exact ⟨hpid, fun _ => rfl⟩
  | @dies before after daemon hdaemons =>
      have hold : forall d,
          d ∈ before ++ { daemon with phase := DaemonPhase.dead } :: after ->
          d.alive -> d ∈ w.daemons := by
        intro d hd hdalive
        rcases mem_replaced daemon hd with hnew | hold
        · exact absurd (by rw [hnew]) hdalive
        · exact hdaemons ▸ hold
      constructor
      · intro d hd hdalive
        have hmem := hold d (List.dropLast_subset _ hd) hdalive
        refine hw.past d ?_ hdalive
        cases after with
        | nil =>
            rw [List.dropLast_concat] at hd
            rw [hdaemons, List.dropLast_concat]
            exact hd
        | cons next after =>
            rw [List.dropLast_append_of_ne_nil (by simp),
              List.dropLast_cons_of_ne_nil (by simp)] at hd
            rw [hdaemons, List.dropLast_append_of_ne_nil (by simp),
              List.dropLast_cons_of_ne_nil (by simp)]
            rcases mem_replaced daemon hd with hnew | hd
            · exact absurd (by rw [hnew]) hdalive
            · exact hd
      · exact fun d hd hdalive => hw.positive d (hold d hd hdalive) hdalive
      · exact fun r hr d hd hdalive =>
          hw.agrees r hr d (hold d hd hdalive) hdalive

theorem Follows.allDead {w w' : World} (h : Follows w w')
    (hdead : w.AllDead) : w'.AllDead := by
  intro d hd hdalive
  rcases h.alive d hd hdalive with ⟨daemon, hmem, halive, _⟩
  exact hdead daemon hmem halive

section Session

variable {runtimeDir sessionId : String}

/-- No call removes the state file while a daemon closes, or while one that
was asked to stop is still there. -/
def KeepsRecord (runtimeDir sessionId : String) (w : World) (o : SystemOp) :
    Prop :=
  o = SystemOp.unlink (SessionFile.state runtimeDir sessionId) ->
    forall daemon, daemon ∈ w.daemons -> daemon.alive ->
      daemon.phase ≠ DaemonPhase.closing ∧ (daemon.pid : Int) ∉ w.asked

/-- A daemon is forked when every earlier one is gone. -/
def ForksAlone (w : World) (o : SystemOp) : Prop :=
  forall config, o = SystemOp.fork config -> w.AllDead

/-- The runs in which the record of a leaving daemon is left alone. -/
abbrev careful (runtimeDir sessionId : String) :
    Machine SystemOp SystemAnswer World :=
  (system runtimeDir sessionId).restrict (KeepsRecord runtimeDir sessionId)

theorem claimed_steady : (careful runtimeDir sessionId).Steady Claimed := by
  intro w w' hstep hw
  have hfollows := follows_of_step hstep
  constructor
  · exact consistent_step hw.consistent hstep
  · intro d hd hdalive
    rcases hfollows.alive d hd hdalive with ⟨daemon, hmem, halive, _⟩
    rcases hfollows.file with hsame | ⟨hsome, _⟩
    · rw [hsame]
      exact hw.present daemon hmem halive
    · exact hsome

theorem unclaimed_steady :
    (careful runtimeDir sessionId).Steady Unclaimed := by
  intro w w' hstep hw
  have hfollows := follows_of_step hstep
  constructor
  · exact consistent_step hw.consistent hstep
  · exact hfollows.allDead hw.dead
  · rcases hfollows.file with hsame | ⟨_, hlive⟩
    · rw [hsame, hw.missing]
    · exact absurd hw.dead hlive

theorem forked_steady (pid : Nat) :
    (careful runtimeDir sessionId).Steady (Forked pid) := by
  intro w w' hstep hw
  constructor
  · exact consistent_step hw.consistent hstep
  · intro d hd hdalive
    rcases (follows_of_step hstep).alive d hd hdalive with
      ⟨daemon, hmem, halive, hpid, _⟩
    rw [← hpid]
    exact hw.named daemon hmem halive

theorem read_steady (record : StateRecord) :
    (careful runtimeDir sessionId).Steady (Read record) := by
  intro w w' hstep hw
  constructor
  · exact claimed_steady w w' hstep hw.claimed
  · intro d hd hdalive
    rcases (follows_of_step hstep).alive d hd hdalive with
      ⟨daemon, hmem, halive, hpid, hclosing⟩
    rcases hw.tells daemon hmem halive with ⟨hrecord, hterminal⟩
    exact ⟨hrecord.trans hpid, fun h => hclosing (hterminal h)⟩

theorem leaving_steady : (careful runtimeDir sessionId).Steady Leaving := by
  intro w w' hstep hw
  have hfollows := follows_of_step hstep
  constructor
  · exact claimed_steady w w' hstep hw.claimed
  · intro d hd hdalive
    rcases hfollows.alive d hd hdalive with
      ⟨daemon, hmem, halive, hpid, hclosing⟩
    rw [← hpid, hfollows.asked]
    exact (hw.leaves daemon hmem halive).imp hclosing id

theorem dead_steady {P : World -> Prop}
    (hP : (careful runtimeDir sessionId).Steady P) :
    (careful runtimeDir sessionId).Steady fun w => P w ∧ w.AllDead :=
  fun w w' hstep hw =>
    ⟨hP w w' hstep hw.1, (follows_of_step hstep).allDead hw.2⟩

/-!
## What a call does
-/

theorem looks_quiet (w : World) (o : SystemOp) (a : SystemAnswer o)
    (w' : World) (ho : Looks o)
    (hperform : (careful runtimeDir sessionId).perform w o a w') : w' = w := by
  cases hperform.2 <;> first | rfl | exact ho.elim | cases ho

theorem looks_forksAlone (w : World) (o : SystemOp) (ho : Looks o) :
    ForksAlone w o := by
  intro config hfork
  rw [hfork] at ho
  exact ho.elim

theorem triple_of_looks {alpha : Type} {P : World -> Prop}
    {x : MediaScript alpha} (hx : Script.Uses Looks x)
    (hP : (careful runtimeDir sessionId).Steady P) :
    (careful runtimeDir sessionId).Triple ForksAlone P x (fun _ => P)
      (fun _ => P) :=
  Machine.triple_of_uses hx hP (fun w o _ => looks_forksAlone w o) looks_quiet

theorem get_pid (record : StateRecord) :
    get (recordMembers record) "pid" = Json.int record.pid := rfl

theorem get_state (record : StateRecord) :
    get (recordMembers record) "state" = jsonText record.state.name := rfl

theorem inTerminalStates_name (state : SessionState) :
    inTerminalStates (jsonText state.name) = Except.ok state.terminal := by
  cases state <;> rfl

/-- A triple about the calls of the session, whose exceptions leave a claimed
session. -/
abbrev Keeps (runtimeDir sessionId : String) {alpha : Type}
    (P : World -> Prop) (x : MediaScript alpha)
    (Q : alpha -> World -> Prop) : Prop :=
  (careful runtimeDir sessionId).Triple ForksAlone P x Q fun _ => Claimed

theorem keeps_of_looks {alpha : Type} {P : World -> Prop}
    {x : MediaScript alpha} (hx : Script.Uses Looks x)
    (hP : (careful runtimeDir sessionId).Steady P)
    (hclaimed : forall w, P w -> Claimed w) :
    Keeps runtimeDir sessionId P x fun _ => P := by
  have htriple := triple_of_looks hx hP
  intro w hw
  exact Machine.safe_mono (fun _ _ h => h) (fun _ _ h => h)
    (fun _ w h => hclaimed w h) (htriple w hw)

/-- What a read of the state file tells. -/
def Known (existing : Option Members) (w : World) : Prop :=
  match existing with
  | none => Unclaimed w
  | some members => exists record, members = recordMembers record ∧
      Read record w

theorem keeps_readState (interpreter : Interpreter) :
    Keeps runtimeDir sessionId Claimed
      (readState interpreter runtimeDir sessionId) Known := by
  rw [readState_eq]
  apply Machine.triple_call
    (o := SystemOp.readFile (SessionFile.state runtimeDir sessionId))
    (R := fun raw w =>
      match raw with
      | Except.ok raw => exists record, raw = stateBytes record ∧
          record.Dumped ∧ Read record w
      | Except.error FileError.notFound => Unclaimed w
      | Except.error FileError.os => Claimed w)
    claimed_steady (fun w _ config h => nomatch h)
  · intro w raw w' hw hperform
    cases hperform.2 with
    | unrelated _ hforeign => simp [foreign] at hforeign
    | readMissing hfile =>
        constructor
        · exact hw.consistent
        · intro daemon hmem halive
          exact hw.present daemon hmem halive hfile
        · exact hfile
    | @read record hfile hdumped =>
        refine ⟨record, rfl, hdumped, hw, ?_⟩
        exact hw.consistent.agrees record hfile
    | readFails => exact hw
  · intro raw
    rcases raw with e | raw
    · cases e with
      | notFound => exact Machine.triple_returned unclaimed_steady fun _ h => h
      | os => exact Machine.triple_raised claimed_steady fun _ h => h
    · intro w hw
      rcases hw with ⟨record, hraw, hdumped, hread⟩
      rw [hraw, parseRead_stateBytes hdumped]
      intro w' hlater
      exact ⟨record, rfl, (read_steady record).later hlater hread⟩

theorem keeps_probe (record : StateRecord) :
    Keeps runtimeDir sessionId (Read record)
      (isPidAlive (Json.int record.pid)) fun alive w =>
        Read record w ∧ (alive = false -> w.AllDead) := by
  have hclaimed : forall w, Read record w -> Claimed w := fun _ h => h.claimed
  have hdead := dead_steady (@read_steady runtimeDir sessionId record)
  rw [isPidAlive, isNumberAlive]
  split
  · rename_i hpid
    refine Machine.triple_returned (a := false) (read_steady record) ?_
    intro w hw
    refine ⟨hw, fun _ daemon hmem halive => ?_⟩
    have htells := (hw.tells daemon hmem halive).1
    have hpositive := hw.claimed.consistent.positive daemon hmem halive
    lia
  · rw [osKill]
    split
    · apply Machine.triple_call
        (o := SystemOp.kill record.pid Signal.probe)
        (R := fun result w => Read record w ∧
          (result = KillResult.noSuchProcess -> w.AllDead))
        (read_steady record) (fun w _ config h => by cases h)
      · intro w result w' hw hperform
        cases hperform.2 with
        | unrelated _ hforeign => cases hforeign
        | probes _ hfound =>
            refine ⟨hw, fun hnone daemon hmem halive => ?_⟩
            apply hfound daemon hmem halive _ hnone
            rw [(hw.tells daemon hmem halive).1]
      · intro result
        cases result with
        | noSuchProcess =>
            intro w hw
            refine Machine.triple_returned hdead ?_ w ⟨hw.1, hw.2 rfl⟩
            exact fun _ h => ⟨h.1, fun _ => h.2⟩
        | notPermitted | delivered =>
            intro w hw
            refine Machine.triple_returned (read_steady record) ?_ w hw.1
            exact fun _ h => ⟨h, fun hfalse => by cases hfalse⟩
    · exact Machine.triple_raised (read_steady record) hclaimed

theorem keeps_removeState :
    Keeps runtimeDir sessionId Leaving (removeState runtimeDir sessionId)
      fun _ => Unclaimed := by
  apply Machine.triple_bind (Q := fun _ => Unclaimed)
  · apply Machine.triple_call
      (o := SystemOp.unlink (SessionFile.state runtimeDir sessionId))
      (R := fun result w =>
        match result with
        | Except.error FileError.os => Claimed w
        | _ => Unclaimed w)
      leaving_steady (fun w _ config h => nomatch h)
    · intro w result w' hw hperform
      have hdead : w.AllDead := by
        intro daemon hmem halive
        rcases hperform.1 rfl daemon hmem halive with ⟨hphase, hasked⟩
        exact (hw.leaves daemon hmem halive).elim hphase hasked
      cases hperform.2 with
      | unrelated _ hforeign => simp [foreign] at hforeign
      | unlinkMissing hfile => exact ⟨hw.claimed.consistent, hdead, hfile⟩
      | unlinks _ =>
          constructor
          · constructor
            · exact hw.claimed.consistent.past
            · exact hw.claimed.consistent.positive
            · exact fun _ h => nomatch h
          · exact hdead
          · rfl
      | unlinkFails => exact hw.claimed
    · intro result
      rcases result with e | done
      · cases e with
        | notFound =>
            exact Machine.triple_returned unclaimed_steady fun _ h => h
        | os => exact Machine.triple_raised claimed_steady fun _ h => h
      · exact Machine.triple_returned unclaimed_steady fun _ h => h
  · intro _
    apply Machine.triple_call
      (o := SystemOp.unlink (SessionFile.log runtimeDir sessionId))
      (R := fun _ => Unclaimed)
      unclaimed_steady (fun w _ config h => nomatch h)
    · intro w result w' hw hperform
      cases hperform.2 with
      | unrelated _ _ => exact hw
    · intro result
      rcases result with e | done
      · cases e with
        | notFound =>
            exact Machine.triple_returned unclaimed_steady fun _ h => h
        | os =>
            exact Machine.triple_raised unclaimed_steady fun _ h => h.claimed
      · exact Machine.triple_returned unclaimed_steady fun _ h => h

theorem read_leaving {record : StateRecord} {w : World}
    (h : Read record w) (hdead : w.AllDead) : Leaving w where
  claimed := h.claimed
  leaves daemon hmem halive := absurd halive (hdead daemon hmem)

theorem keeps_requestStop (record : StateRecord) :
    Keeps runtimeDir sessionId (Read record)
      (requestStop (Json.int record.pid)) fun _ => Leaving := by
  rw [requestStop, requestStop.stopNumber]
  split
  · rename_i hpid
    refine Machine.triple_returned (a := ()) (read_steady record) ?_
    intro w hw
    apply read_leaving hw
    intro daemon hmem halive
    have htells := (hw.tells daemon hmem halive).1
    have hpositive := hw.claimed.consistent.positive daemon hmem halive
    lia
  · rw [osKill]
    split
    · apply Machine.triple_call
        (o := SystemOp.kill record.pid Signal.sigterm)
        (R := fun _ => Leaving)
        (read_steady record) (fun w _ config h => nomatch h)
      · intro w result w' hw hperform
        cases hperform.2 with
        | unrelated _ hforeign => cases hforeign
        | signals _ _ =>
            constructor
            · constructor
              · constructor
                · exact hw.claimed.consistent.past
                · exact hw.claimed.consistent.positive
                · exact hw.claimed.consistent.agrees
              · exact hw.claimed.present
            · intro daemon hmem halive
              right
              rw [← (hw.tells daemon hmem halive).1]
              exact List.mem_cons_self
      · intro result
        cases result with
        | notPermitted =>
            exact Machine.triple_raised leaving_steady fun _ h => h.claimed
        | noSuchProcess | delivered =>
            exact Machine.triple_returned (a := ()) leaving_steady
              fun _ h => h
    · exact Machine.triple_raised (read_steady record) fun _ h => h.claimed

/-- The daemon has been forked, and the file is created if the daemon has not
created it. -/
theorem keeps_createExclusive (record : StateRecord)
    (hlive : record.state.terminal = false)
    {next : CreateResult -> MediaScript Nat}
    (hnext : forall result, Keeps runtimeDir sessionId Claimed (next result)
      fun _ => Claimed) :
    Keeps runtimeDir sessionId (Forked record.pid)
      (Script.call
        (SystemOp.createExclusive (SessionFile.state runtimeDir sessionId)
          record) next) fun _ => Claimed := by
  apply Machine.triple_call (R := fun _ => Claimed) (forked_steady record.pid)
    (fun w _ config h => nomatch h) _ hnext
  intro w result w' hw hperform
  cases hperform.2 with
  | unrelated _ hforeign => simp [foreign] at hforeign
  | creates hfile =>
      constructor
      · constructor
        · exact hw.consistent.past
        · exact hw.consistent.positive
        · intro r hr daemon hmem halive
          cases hr
          refine ⟨(hw.named daemon hmem halive).symm, fun hterminal => ?_⟩
          rw [hlive] at hterminal
          cases hterminal
      · exact fun _ _ _ => Option.some_ne_none record
  | «exists» hfile => exact ⟨hw.consistent, fun _ _ _ => hfile⟩

theorem forked_of_fork {w : World} (hw : Unclaimed w) {pid : Nat}
    (hpositive : 0 < pid) :
    Forked pid
      { w with
        daemons :=
          w.daemons ++ [{ pid := pid, phase := DaemonPhase.serving }] } := by
  have hnew : forall daemon,
      daemon ∈ w.daemons ++ [{ pid := pid, phase := DaemonPhase.serving }] ->
      daemon.alive -> daemon.pid = pid := by
    intro daemon hmem halive
    rcases List.mem_append.mp hmem with hold | hnew
    · exact absurd halive (hw.dead daemon hold)
    · rw [List.mem_singleton.mp hnew]
  constructor
  · constructor
    · intro daemon hmem
      rw [List.dropLast_concat] at hmem
      exact hw.dead daemon hmem
    · intro daemon hmem halive
      rw [hnew daemon hmem halive]
      exact hpositive
    · intro record hrecord
      rw [hw.missing] at hrecord
      cases hrecord
  · exact hnew

theorem keeps_spawnSession {config : SessionConfig}
    (hdir : config.runtimeDir = runtimeDir)
    (hsession : config.sessionId = sessionId) :
    Keeps runtimeDir sessionId Unclaimed (spawnSession config)
      fun _ => Claimed := by
  have hfailed : forall {e : Raised}, Keeps runtimeDir sessionId Unclaimed
      (Script.raised e : MediaScript Nat) fun _ => Claimed :=
    Machine.triple_raised unclaimed_steady fun _ h => h.claimed
  apply Machine.triple_call (o := SystemOp.fork config)
    (R := fun result w =>
      match result with
      | ForkResult.started pid => Forked pid w
      | _ => Unclaimed w)
    unclaimed_steady (fun w hw _ _ => hw.dead)
  · intro w result w' hw hperform
    cases hperform.2 with
    | unrelated _ hforeign => simp [foreign, hdir, hsession] at hforeign
    | forkFails hresult =>
        cases result with
        | started pid => exact absurd rfl (hresult pid)
        | unsupported | failed | silent => exact hw
    | forks _ _ hpositive _ => exact forked_of_fork hw hpositive
  · intro result
    cases result with
    | unsupported | failed | silent => exact hfailed
    | started pid =>
        apply Machine.triple_call (o := SystemOp.now)
          (R := fun _ => Forked pid) (forked_steady pid)
          (fun w _ config h => nomatch h)
        · intro w now w' hw hperform
          cases hperform.2 with
          | unrelated _ _ => exact hw
        · intro now
          subst hdir hsession
          apply keeps_createExclusive (initialState _ _ pid now) rfl
          intro outcome
          cases outcome with
          | failed => exact Machine.triple_raised claimed_steady fun _ h => h
          | created | «exists» =>
              exact Machine.triple_returned (a := pid) claimed_steady
                fun _ h => h

end Session
end AmtMedia
end IntelAmt
