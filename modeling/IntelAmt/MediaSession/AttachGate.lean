import IntelAmt.Ider.Verdicts
import IntelAmt.MediaSession.Daemon

/-!
# The attach gate

What the daemon writes over its whole life.  `Running` holds of the daemon
between any two of its actions until its last record, `Finished` from then on;
every action has a triple over these two.
-/

namespace IntelAmt
namespace MediaSession

open Foundation Ider

/-- How far a session has come. -/
def SessionState.rank : SessionState -> Nat
  | starting => 0
  | connecting => 1
  | attached => 2
  | detached => 3
  | error => 3

/-- The engine has accepted a reply, and the last verdict on the feature
toggle that it has processed is success. -/
def Confirmed (heard : List (Delivery DeviceCode)) : Prop :=
  (exists o, o ∈ heard ∧ AcceptsReply o) ∧ lastVerdict heard = some true

/-- The engine has accepted a reply and processed a verdict. -/
def Judged (heard : List (Delivery DeviceCode)) : Prop :=
  (exists o, o ∈ heard ∧ AcceptsReply o) ∧ lastVerdict heard ≠ none

theorem Judged.append {heard : List (Delivery DeviceCode)} (h : Judged heard)
    (more : List (Delivery DeviceCode)) : Judged (heard ++ more) := by
  rcases h with ⟨⟨o, hmem, haccepts⟩, hverdict⟩
  exact ⟨⟨o, List.mem_append_left _ hmem, haccepts⟩,
    lastVerdict_append_ne_none hverdict more⟩

/-!
## The invariant
-/

/-- The records of a daemon that is still at work. -/
structure Sound (log : List Persisted) : Prop where
  live : forall p, p ∈ log -> p.record.state.terminal = false
  confirmed : forall p, p ∈ log ->
    p.record.state = SessionState.attached -> Confirmed p.heard
  rising : log.Pairwise fun p q =>
    p.record.state.rank ≤ q.record.state.rank

structure Running (d : Daemon) : Prop where
  sound : Sound d.log
  behind : forall p, p ∈ d.log -> p.record.state.rank ≤ d.record.state.rank
  live : d.record.state.terminal = false
  judged : d.record.state = SessionState.attached -> Judged d.heard
  media : forall entry, entry ∈ d.images.entries -> entry.2.Fresh
  engine : forall e, d.engine = some e ->
    (exists images, Standing images e.state) ∧ Heard e.state d.heard

/-- The daemon has written its last record. -/
structure Finished (d : Daemon) : Prop where
  last : exists log p, d.log = log ++ [p] ∧ Sound log ∧
    p.record.state.terminal = true ∧
    (p.record.state = SessionState.error -> p.record.errorClass ≠ none)

/-- Running, in a given state, without an engine. -/
structure Opening (state : SessionState) (d : Daemon) : Prop where
  running : Running d
  state : d.record.state = state
  engine : d.engine = none
  heard : d.heard = []

theorem Running.congr {d d' : Daemon} (h : Running d) (hlog : d'.log = d.log)
    (hstate : d'.record.state = d.record.state)
    (hheard : d'.heard = d.heard) (himages : d'.images = d.images)
    (hengine : d'.engine = d.engine) : Running d' where
  sound := by
    rw [hlog]
    exact h.sound
  behind := by
    rw [hlog, hstate]
    exact h.behind
  live := by
    rw [hstate]
    exact h.live
  judged := by
    rw [hstate, hheard]
    exact h.judged
  media := by
    rw [himages]
    exact h.media
  engine := by
    rw [hengine, hheard]
    exact h.engine

theorem Sound.snoc {log : List Persisted} (h : Sound log) {p : Persisted}
    (hlive : p.record.state.terminal = false)
    (hconfirmed : p.record.state = SessionState.attached ->
      Confirmed p.heard)
    (hbehind : forall q, q ∈ log ->
      q.record.state.rank ≤ p.record.state.rank) : Sound (log ++ [p]) where
  live := by
    intro q hmem
    rcases List.mem_append.mp hmem with hold | hnew
    · exact h.live q hold
    · cases List.mem_singleton.mp hnew
      exact hlive
  confirmed := by
    intro q hmem
    rcases List.mem_append.mp hmem with hold | hnew
    · exact h.confirmed q hold
    · cases List.mem_singleton.mp hnew
      exact hconfirmed
  rising := by
    rw [List.pairwise_append]
    refine ⟨h.rising, List.pairwise_singleton _ _, ?_⟩
    intro q hmem p' hp
    cases List.mem_singleton.mp hp
    exact hbehind q hmem

/-!
## One triple for every action
-/

section Actions

variable (env : Environment)

theorem persist_running :
    Exec.Ensures
      (fun d => Running d ∧
        (d.record.state = SessionState.attached -> Confirmed d.heard))
      (persist env) (fun _ => Running) Running := by
  apply Exec.ensures_update
  rintro d ⟨h, hconfirmed⟩
  refine ⟨h.sound.snoc h.live hconfirmed h.behind, ?_, h.live, h.judged,
    h.media, h.engine⟩
  intro p hmem
  rcases List.mem_append.mp hmem with hold | hnew
  · exact h.behind p hold
  · cases List.mem_singleton.mp hnew
    exact Nat.le_refl _

theorem persist_finished {E : Daemon -> Prop} :
    Exec.Ensures
      (fun d => Sound d.log ∧ d.record.state.terminal = true ∧
        (d.record.state = SessionState.error -> d.record.errorClass ≠ none))
      (persist env) (fun _ => Finished) E := by
  apply Exec.ensures_update
  rintro d ⟨hsound, hterminal, hclass⟩
  exact ⟨d.log, _, rfl, hsound, hterminal, hclass⟩

theorem fail_finished {E : Daemon -> Prop} (message : String)
    (errorClass : ErrorClass) :
    Exec.Ensures Running (fail env message errorClass) (fun _ => Finished)
      E := by
  apply Exec.ensures_bind (Exec.ensures_update ?_)
    fun _ => persist_finished env
  intro d h
  exact ⟨h.sound, rfl, fun _ hnone => by cases hnone⟩

theorem ofExcept_running {alpha : Type} {P : Daemon -> Prop}
    (x : Except Failure alpha) (hP : forall d, P d -> Running d) :
    Exec.Ensures P (ofExcept x) (fun _ => P) Running := by
  cases x with
  | ok a => exact Exec.ensures_pure fun _ h => h
  | error failure => exact Exec.ensures_raise hP

theorem ofOption_running {P : Daemon -> Prop} (x : Option Failure)
    (hP : forall d, P d -> Running d) :
    Exec.Ensures P (ofOption x) (fun _ => P) Running := by
  cases x with
  | none => exact Exec.ensures_pure fun _ h => h
  | some failure => exact Exec.ensures_raise hP

theorem theEngine_running :
    Exec.Ensures Running theEngine
      (fun e d => Running d ∧ d.engine = some e) Running := by
  refine Exec.ensures_bind (Q := fun engine d => Running d ∧
    d.engine = engine) (Exec.ensures_reads fun d h => ⟨h, rfl⟩) ?_
  intro engine
  cases engine with
  | none => exact Exec.ensures_raise fun d h => h.1
  | some e => exact Exec.ensures_pure fun d h => h

theorem callEngine_running (sendFails : Option Failure)
    (call : Call DeviceCode) :
    Exec.Ensures Running (callEngine env sendFails call) (fun _ => Running)
      Running := by
  refine Exec.ensures_bind theEngine_running ?_
  intro e
  refine Exec.ensures_bind (ofOption_running sendFails fun d h => h.1) ?_
  intro _
  refine Exec.ensures_bind (Q := fun _ => Running)
    (Exec.ensures_update ?_) ?_
  · rintro d ⟨h, hengine⟩
    rcases h.engine e hengine with ⟨⟨images, hstanding⟩, hheard⟩
    have hkept := runCall_keeps heard_kept call hstanding hheard
    refine ⟨h.sound, h.behind, h.live, fun hattached =>
      (h.judged hattached).append _, h.media, ?_⟩
    intro e' he'
    cases he'
    exact ⟨⟨images, hkept.1⟩, hkept.2⟩
  · intro _
    cases ((runCall call).run e).1 with
    | ok value => exact Exec.ensures_pure fun _ h => h
    | error err => exact Exec.ensures_raise fun _ h => h

theorem openMedia_opening (config : SessionConfig) (specs : List MediaSpec) :
    Exec.Ensures (Opening SessionState.starting) (openMedia env config specs)
      (fun _ => Opening SessionState.starting) Running := by
  induction specs with
  | nil => exact Exec.ensures_pure fun _ h => h
  | cons spec specs ih =>
      unfold openMedia
      cases hopen : MediaImage.openImage env.fs spec.path spec.deviceCode
          spec.writable config.allowedDirectory with
      | error err => exact Exec.ensures_raise fun _ h => h.running
      | ok image =>
          refine Exec.ensures_bind
            (Q := fun _ => Opening SessionState.starting)
            (Exec.ensures_update ?_) fun _ => ih
          rintro d ⟨h, hstate, hengine, hheard⟩
          refine ⟨⟨h.sound, h.behind, h.live, h.judged, ?_, h.engine⟩, hstate,
            hengine, hheard⟩
          intro entry hmem
          rcases mem_assign hmem with rfl | hold
          · exact MediaImage.openImage_fresh hopen
          · exact h.media entry hold

theorem slotImages_fresh {images : Dict DeviceCode MediaImage}
    (h : forall entry, entry ∈ images.entries -> entry.2.Fresh)
    (slot : DeviceCode) : (slotImages images slot).Fresh := by
  unfold slotImages
  cases hlookup : images.lookup slot with
  | none => exact MediaImage.blank_fresh ..
  | some image => exact h (slot, image) (mem_of_lookup hlookup)

theorem attachDevices_running (slots : List DeviceCode) :
    Exec.Ensures Running (attachDevices env slots) (fun _ => Running)
      Running := by
  induction slots with
  | nil => exact Exec.ensures_pure fun _ h => h
  | cons slot slots ih =>
      exact Exec.ensures_bind (callEngine_running env none _) fun _ => ih

theorem connecting_opening :
    Exec.Ensures (Opening SessionState.starting)
      (setState SessionState.connecting)
      (fun _ => Opening SessionState.connecting) Running := by
  apply Exec.ensures_update
  rintro d ⟨h, hstate, hengine, hheard⟩
  refine ⟨⟨h.sound, ?_, rfl, nofun, h.media, h.engine⟩, rfl, hengine, hheard⟩
  intro p hmem
  have hbehind := h.behind p hmem
  rw [hstate] at hbehind
  exact Nat.le_succ_of_le hbehind

theorem persist_opening {state : SessionState}
    (hstate : state ≠ SessionState.attached) :
    Exec.Ensures (Opening state) (persist env) (fun _ => Opening state)
      Running := by
  intro d h
  have hrunning := persist_running env d
    ⟨h.running, fun hattached => absurd (h.state.symm.trans hattached) hstate⟩
  exact ⟨hrunning, h.state, h.engine, h.heard⟩

theorem connectSession_running (config : SessionConfig) :
    Exec.Ensures (Opening SessionState.connecting) (connectSession env config)
      (fun _ => Running) Running := by
  refine Exec.ensures_bind (ofExcept_running env.connect fun d h => h.running)
    fun leftover => ?_
  refine Exec.ensures_bind (ofExcept_running env.peerCertificate
    fun d h => h.running) fun fingerprint => ?_
  refine Exec.ensures_bind (Q := fun _ => Opening SessionState.connecting)
    (Exec.ensures_update ?_) fun _ => ?_
  · rintro d ⟨h, hstate, hengine, hheard⟩
    exact ⟨h.congr rfl rfl rfl rfl rfl, hstate, hengine, hheard⟩
  refine Exec.ensures_bind (Q := fun _ => Running) (Exec.ensures_update ?_)
    fun _ => ?_
  · rintro d ⟨h, hstate, _, hheard⟩
    refine ⟨h.sound, h.behind, h.live, h.judged, h.media, ?_⟩
    intro e he
    cases he
    refine ⟨⟨slotImages d.images,
      newEngine_standing (slotImages_fresh h.media) _ _ _ _⟩, ?_⟩
    rw [hheard]
    exact newEngine_heard _ _ _ _ _
  refine Exec.ensures_bind (Q := fun _ => Running)
    (Exec.ensures_reads fun d h => h) fun slots => ?_
  refine Exec.ensures_bind (attachDevices_running env slots) fun _ => ?_
  refine Exec.ensures_bind (callEngine_running env env.startFails Call.start)
    fun _ => ?_
  split
  · exact Exec.ensures_bind (callEngine_running env env.leftoverFails _)
      fun _ => ofOption_running env.recvTimeoutFails fun d h => h
  · exact ofOption_running env.recvTimeoutFails fun d h => h

/-!
## Serving
-/

/-- Running with an engine whose last verdict was not a refusal. -/
structure Serving (e : IderEngine DeviceCode) (d : Daemon) : Prop where
  running : Running d
  engine : d.engine = some e
  unrefused : e.state.featureToggleOk ≠ some false

/-- A daemon that says it is attached is, unless the last verdict was a
refusal. -/
theorem Serving.confirmed {e : IderEngine DeviceCode} {d : Daemon}
    (h : Serving e d) (hattached : d.record.state = SessionState.attached) :
    Confirmed d.heard := by
  rcases h.running.judged hattached with ⟨hopened, hverdict⟩
  have hlast := (h.running.engine e h.engine).2.verdict
  have hunrefused := h.unrefused
  rw [hlast] at hunrefused
  refine ⟨hopened, ?_⟩
  cases hvalue : lastVerdict d.heard with
  | none => exact absurd hvalue hverdict
  | some value =>
      cases value with
      | true => rfl
      | false => exact absurd hvalue hunrefused

theorem SessionState.rank_le_attached {state : SessionState}
    (h : state.terminal = false) :
    state.rank ≤ SessionState.attached.rank := by
  cases state with
  | starting => decide
  | connecting => decide
  | attached => decide
  | detached => cases h
  | error => cases h

theorem attached_serving {e : IderEngine DeviceCode}
    (hopen : e.state.sessionOpen = true)
    (hverdict : e.state.featureToggleOk = some true) :
    Exec.Ensures (Serving e) (setState SessionState.attached)
      (fun _ => Serving e) Running := by
  apply Exec.ensures_update
  rintro d ⟨h, hengine, hunrefused⟩
  have hheard := (h.engine e hengine).2
  refine ⟨⟨h.sound, ?_, rfl, ?_, h.media, h.engine⟩, hengine, hunrefused⟩
  · intro p hmem
    exact SessionState.rank_le_attached (h.sound.live p hmem)
  · intro _
    refine ⟨hheard.opened hopen, ?_⟩
    rw [← hheard.verdict, hverdict]
    nofun

theorem attachGate_serving (round : Round) {e : IderEngine DeviceCode} :
    Exec.Ensures (Serving e) (attachGate round e.state) (fun _ => Serving e)
      Running := by
  unfold attachGate
  split
  · rename_i hopen
    refine Exec.ensures_bind (Q := fun _ => Serving e)
      (Exec.ensures_update ?_) fun _ => ?_
    · rintro d ⟨h, hengine, hunrefused⟩
      exact ⟨h.congr rfl rfl rfl rfl rfl, hengine, hunrefused⟩
    split
    · rename_i hverdict
      exact Exec.ensures_bind (attached_serving hopen hverdict) fun _ =>
        Exec.ensures_pure fun _ h => h
    · exact Exec.ensures_bind (Q := fun _ => Serving e)
        (Exec.ensures_reads fun d h => h) fun deadline =>
          Exec.ensures_pure fun _ h => h
  · exact Exec.ensures_pure fun _ h => h

theorem refreshDevices_serving {e : IderEngine DeviceCode} :
    Exec.Ensures (Serving e) refreshDevices (fun _ => Serving e) Running := by
  intro d h
  unfold refreshDevices theEngine
  rw [Exec.run_bind, Exec.run_reads_bind, h.engine]
  exact ⟨h.running.congr rfl rfl rfl rfl rfl, h.engine, h.unrefused⟩

theorem refreshDevices_running :
    Exec.Ensures Running refreshDevices (fun _ => Running) Running := by
  refine Exec.ensures_bind theEngine_running fun e => ?_
  exact Exec.ensures_update fun d h => h.1.congr rfl rfl rfl rfl rfl

theorem receiveSignal_running (signalled : Bool) :
    Exec.Ensures Running (receiveSignal signalled) (fun _ => Running)
      Running :=
  Exec.ensures_update fun _ h => h.congr rfl rfl rfl rfl rfl

/-- What a pass of the loop leaves. -/
def AfterPass : Progress -> Daemon -> Prop
  | Progress.next => Running
  | Progress.leave => Running
  | Progress.returned => Finished

theorem receive_running (round : Round) :
    Exec.Ensures Running (receive env round) AfterPass Running := by
  unfold receive
  split
  · exact Exec.ensures_pure fun _ h => h
  · exact Exec.ensures_raise fun _ h => h
  · refine Exec.ensures_bind (Exec.ensures_update ?_) fun _ =>
      Exec.ensures_bind (persist_finished env) fun _ =>
        Exec.ensures_pure fun _ h => h
    intro d h
    exact ⟨h.sound, rfl, nofun⟩
  · exact Exec.ensures_bind (callEngine_running env round.sendFails _)
      fun _ => Exec.ensures_pure fun _ h => h

theorem servePass_running (round : Round) :
    Exec.Ensures Running (servePass env round) AfterPass Running := by
  refine Exec.ensures_bind theEngine_running fun e => ?_
  refine Exec.ensures_bind
    (Q := fun _ d => Running d ∧ d.engine = some e)
    (Exec.ensures_update fun d h =>
      ⟨h.1.congr rfl rfl rfl rfl rfl, h.2⟩) fun _ => ?_
  refine Exec.ensures_bind
    (Q := fun _ d => Running d ∧ d.engine = some e)
    (Exec.ensures_reads fun d h => h) fun stopFlag => ?_
  split
  · refine Exec.ensures_from ?_ fun d h => h.1
    exact Exec.ensures_bind (receiveSignal_running round.signalledLater)
      fun _ => Exec.ensures_pure fun _ h => h
  split
  · refine Exec.ensures_from ?_ fun d h => h.1
    exact Exec.ensures_bind (fail_finished env _ _) fun _ =>
      Exec.ensures_pure fun _ h => h
  · rename_i hunrefused
    refine Exec.ensures_from (R := Serving e) ?_
      fun d h => ⟨h.1, h.2, hunrefused⟩
    refine Exec.ensures_bind (attachGate_serving round) fun overdue => ?_
    split
    · refine Exec.ensures_from ?_ fun d h => h.running
      exact Exec.ensures_bind (fail_finished env _ _) fun _ =>
        Exec.ensures_pure fun _ h => h
    · refine Exec.ensures_bind refreshDevices_serving fun _ => ?_
      exact Exec.ensures_bind
        (Exec.ensures_from (persist_running env) fun d h =>
          ⟨h.running, h.confirmed⟩)
        fun _ => receive_running env round

theorem serve_running (rounds : List Round) :
    Exec.Ensures Running (serve env rounds) AfterPass Running := by
  induction rounds with
  | nil => exact Exec.ensures_pure fun _ h => h
  | cons round rounds ih =>
      refine Exec.ensures_bind (servePass_running env round) fun progress => ?_
      cases progress with
      | next => exact ih
      | leave => exact Exec.ensures_pure fun _ h => h
      | returned => exact Exec.ensures_pure fun _ h => h

theorem finish_finished :
    Exec.Ensures Running (finish env) (fun _ => Finished) Running := by
  refine Exec.ensures_bind refreshDevices_running fun _ => ?_
  refine Exec.ensures_bind (Exec.ensures_update ?_) fun _ =>
    persist_finished env
  intro d h
  by_cases hstop : d.stopFlag = true
  · rw [if_pos hstop]
    exact ⟨h.sound, rfl, nofun⟩
  · rw [if_neg hstop]
    exact ⟨h.sound, rfl, fun _ => nofun⟩

/-!
## The whole life
-/

/-- What the function leaves: its last record if it has returned. -/
def AfterRun : Bool -> Daemon -> Prop
  | true => Finished
  | false => Running

theorem serveSession_running (config : SessionConfig) (rounds : List Round) :
    Exec.Ensures (Opening SessionState.starting)
      (serveSession env config rounds) AfterRun Running := by
  refine Exec.ensures_bind (openMedia_opening env config _) fun _ => ?_
  refine Exec.ensures_bind connecting_opening fun _ => ?_
  refine Exec.ensures_bind (persist_opening env (by decide)) fun _ => ?_
  refine Exec.ensures_bind (connectSession_running env config) fun _ => ?_
  refine Exec.ensures_bind (serve_running env rounds) fun progress => ?_
  cases progress with
  | next => exact Exec.ensures_pure fun _ h => h
  | leave =>
      exact Exec.ensures_bind (finish_finished env) fun _ =>
        Exec.ensures_pure fun _ h => h
  | returned => exact Exec.ensures_pure fun _ h => h

theorem report_finished (failure : Failure) :
    Exec.Ensures Running (report env failure) AfterRun fun _ => False := by
  cases failure with
  | amt errorClass text =>
      exact Exec.ensures_bind (fail_finished env _ _) fun _ =>
        Exec.ensures_pure fun _ h => h
  | other text =>
      exact Exec.ensures_bind (fail_finished env _ _) fun _ =>
        Exec.ensures_pure fun _ h => h

theorem newDaemon_opening (config : SessionConfig) :
    Opening SessionState.starting (newDaemon env config) where
  running :=
    { sound := ⟨fun _ h => (List.not_mem_nil h).elim,
        fun _ h => (List.not_mem_nil h).elim, List.Pairwise.nil⟩
      behind := fun _ h => (List.not_mem_nil h).elim
      live := rfl
      judged := fun h => SessionState.noConfusion h
      media := fun _ h => (List.not_mem_nil h).elim
      engine := by
        intro e h
        cases h }
  state := rfl
  engine := rfl
  heard := rfl

/-- The daemon catches every failure. -/
theorem runDaemon_finished (config : SessionConfig) (rounds : List Round) :
    Exec.Ensures (Opening SessionState.starting)
      (runDaemon env config rounds) AfterRun fun _ => False :=
  Exec.ensures_handle
    (Exec.ensures_bind (persist_opening env (by decide)) fun _ =>
      serveSession_running env config rounds)
    (report_finished env)

end Actions

/-!
## The log of a run
-/

/-- The log of a daemon, whether it is still at work or not. -/
structure History (log : List Persisted) : Prop where
  confirmed : forall p, p ∈ log ->
    p.record.state = SessionState.attached -> Confirmed p.heard
  closed : forall before p after, log = before ++ p :: after ->
    p.record.state.terminal = true -> after = []
  rising : log.Pairwise fun p q =>
    p.record.state.rank ≤ q.record.state.rank
  classed : forall p, p ∈ log -> p.record.state = SessionState.error ->
    p.record.errorClass ≠ none

theorem Sound.not_terminal {log : List Persisted} (h : Sound log)
    {p : Persisted} (hmem : p ∈ log) :
    p.record.state.terminal ≠ true := by
  rw [h.live p hmem]
  decide

theorem Sound.history {log : List Persisted} (h : Sound log) :
    History log where
  confirmed := h.confirmed
  closed := by
    intro before p after hlog hterminal
    exact absurd hterminal (h.not_terminal (by rw [hlog]; simp))
  rising := h.rising
  classed := by
    intro p hmem herror
    exact absurd (by rw [herror]; rfl) (h.not_terminal hmem)

theorem SessionState.rank_le_terminal (state : SessionState)
    {last : SessionState} (h : last.terminal = true) :
    state.rank ≤ last.rank := by
  cases last with
  | detached => cases state <;> decide
  | error => cases state <;> decide
  | starting | connecting | attached => cases h

theorem Finished.history {d : Daemon} (h : Finished d) : History d.log := by
  rcases h.last with ⟨log, last, hlog, hsound, hterminal, hclass⟩
  rw [hlog]
  constructor
  · intro p hmem hattached
    rcases List.mem_append.mp hmem with hold | hnew
    · exact hsound.confirmed p hold hattached
    · cases List.mem_singleton.mp hnew
      rw [hattached] at hterminal
      cases hterminal
  · intro before p after hsplit hp
    rcases List.eq_nil_or_concat after with hnil | ⟨init, q, hafter⟩
    · exact hnil
    · -- then `p` stands before the last record
      rw [hafter, List.concat_eq_append, ← List.cons_append,
        ← List.append_assoc] at hsplit
      have hinit := (List.append_inj' hsplit rfl).1
      exact absurd hp (hsound.not_terminal (by rw [hinit]; simp))
  · rw [List.pairwise_append]
    refine ⟨hsound.rising, List.pairwise_singleton _ _, ?_⟩
    intro p _ q hq
    cases List.mem_singleton.mp hq
    exact SessionState.rank_le_terminal _ hterminal
  · intro p hmem herror
    rcases List.mem_append.mp hmem with hold | hnew
    · exact absurd (by rw [herror]; rfl) (hsound.not_terminal hold)
    · cases List.mem_singleton.mp hnew
      exact hclass herror

theorem History.stays_attached {log : List Persisted} (h : History log)
    {before after : List Persisted} {p : Persisted}
    (hlog : log = before ++ p :: after)
    (hattached : p.record.state = SessionState.attached) {q : Persisted}
    (hmem : q ∈ after) :
    q.record.state ≠ SessionState.starting ∧
      q.record.state ≠ SessionState.connecting := by
  have hrising := h.rising
  rw [hlog, List.pairwise_append, List.pairwise_cons] at hrising
  have hrank := hrising.2.1.1 q hmem
  rw [hattached] at hrank
  constructor
  · intro hq
    rw [hq] at hrank
    exact absurd hrank (by decide)
  · intro hq
    rw [hq] at hrank
    exact absurd hrank (by decide)

theorem AfterRun.history {returned : Bool} {d : Daemon}
    (h : AfterRun returned d) : History d.log := by
  cases returned with
  | false => exact Sound.history h.sound
  | true => exact Finished.history h

/-- In every run of the daemon a record that says attached is written when the
engine has accepted a reply and the last verdict that it has processed is
success; nothing is written after a terminal record; a session that was
attached is never starting or connecting again; an error has its class; and a
run that returns has written a terminal record last. -/
theorem attach_gate (env : Environment) (config : SessionConfig)
    (rounds : List Round) :
    let out := (runDaemon env config rounds).run (newDaemon env config)
    (forall p, p ∈ out.2.log ->
      p.record.state = SessionState.attached -> Confirmed p.heard) ∧
    (forall before p after, out.2.log = before ++ p :: after ->
      p.record.state.terminal = true -> after = []) ∧
    (forall before p after, out.2.log = before ++ p :: after ->
      p.record.state = SessionState.attached ->
      forall q, q ∈ after -> q.record.state ≠ SessionState.starting ∧
        q.record.state ≠ SessionState.connecting) ∧
    (forall p, p ∈ out.2.log -> p.record.state = SessionState.error ->
      p.record.errorClass ≠ none) ∧
    (exists returned, out.1 = Except.ok returned ∧
      (returned = true -> exists before p, out.2.log = before ++ [p] ∧
        p.record.state.terminal = true)) := by
  intro out
  have hrun := runDaemon_finished env config rounds (newDaemon env config)
    (newDaemon_opening env config)
  have hout : out = (runDaemon env config rounds).run (newDaemon env config) :=
    rfl
  rw [← hout] at hrun
  rcases out with ⟨result, d⟩
  cases result with
  | error failure => exact hrun.elim
  | ok returned =>
      have hhistory : History d.log := AfterRun.history hrun
      refine ⟨hhistory.confirmed, hhistory.closed, ?_, hhistory.classed,
        returned, rfl, ?_⟩
      · intro before p after hlog hattached q hmem
        exact hhistory.stays_attached hlog hattached hmem
      · intro hreturned
        subst hreturned
        rcases Finished.last hrun with ⟨log, p, hlog, _, hterminal, _⟩
        exact ⟨log, p, hlog, hterminal⟩

end MediaSession
end IntelAmt
