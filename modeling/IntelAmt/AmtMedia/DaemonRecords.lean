import IntelAmt.AmtMedia.Endpoint
import IntelAmt.MediaSession.AttachGate

/-!
# The records of a daemon

The records that a whole run of the daemon writes are steps of the process
that the calls of the module see: every one names the pid of the daemon, and
nothing follows a terminal one.
-/

namespace IntelAmt
namespace AmtMedia

open Foundation Ider MediaSession

/-- Every record, written or not yet, has the pid of the process. -/
def Signed (env : Environment) (d : Daemon) : Prop :=
  d.record.pid = env.pid ∧ forall p, p ∈ d.log -> p.record.pid = env.pid

section Signing

variable (env : Environment)

/-- The action keeps the pid in every record. -/
abbrev Signs {alpha : Type} (x : DaemonM alpha) : Prop :=
  Exec.Ensures (Signed env) x (fun _ => Signed env) (Signed env)

theorem signs_bind {alpha beta : Type} {x : DaemonM alpha}
    {f : alpha -> DaemonM beta} (hx : Signs env x)
    (hf : forall a, Signs env (f a)) : Signs env (x >>= f) :=
  Exec.ensures_bind hx hf

theorem signs_pure {alpha : Type} (a : alpha) :
    Signs env (pure a : DaemonM alpha) :=
  Exec.ensures_pure fun _ h => h

theorem signs_raise {alpha : Type} (failure : Failure) :
    Signs env (Exec.raise failure : DaemonM alpha) :=
  Exec.ensures_raise fun _ h => h

theorem signs_reads {alpha : Type} (f : Daemon -> alpha) :
    Signs env (Exec.reads f) :=
  Exec.ensures_reads fun _ h => h

theorem signs_update {f : Daemon -> Daemon}
    (hlog : forall d, (f d).log = d.log)
    (hpid : forall d, (f d).record.pid = d.record.pid) :
    Signs env (Exec.update f) := by
  apply Exec.ensures_update
  intro d h
  constructor
  · rw [hpid]
    exact h.1
  · rw [hlog]
    exact h.2

theorem signs_persist : Signs env (persist env) := by
  apply Exec.ensures_update
  intro d h
  constructor
  · exact h.1
  · intro p hmem
    rcases List.mem_append.mp hmem with hold | hnew
    · exact h.2 p hold
    · rw [List.mem_singleton.mp hnew]
      exact h.1

theorem signs_fail (message : String) (errorClass : ErrorClass) :
    Signs env (fail env message errorClass) :=
  signs_bind env (signs_update env (fun _ => rfl) fun _ => rfl) fun _ =>
    signs_persist env

theorem signs_ofExcept {alpha : Type} (x : Except Failure alpha) :
    Signs env (ofExcept x) := by
  cases x with
  | ok a => exact signs_pure env a
  | error failure => exact signs_raise env failure

theorem signs_ofOption (x : Option Failure) : Signs env (ofOption x) := by
  cases x with
  | none => exact signs_pure env ()
  | some failure => exact signs_raise env failure

theorem signs_theEngine : Signs env theEngine := by
  apply signs_bind env (signs_reads env _)
  intro engine
  cases engine with
  | none => exact signs_raise env _
  | some e => exact signs_pure env e

theorem signs_callEngine (sendFails : Option Failure)
    (call : Call DeviceCode) : Signs env (callEngine env sendFails call) := by
  apply signs_bind env (signs_theEngine env)
  intro e
  apply signs_bind env (signs_ofOption env sendFails)
  intro _
  refine signs_bind env (signs_update env (fun _ => rfl) fun _ => rfl) ?_
  intro _
  split
  · exact signs_pure env ()
  · exact signs_raise env _

theorem signs_openMedia (config : SessionConfig) (specs : List MediaSpec) :
    Signs env (openMedia env config specs) := by
  induction specs with
  | nil => exact signs_pure env ()
  | cons spec specs ih =>
      unfold openMedia
      split
      · exact signs_raise env _
      · exact signs_bind env (signs_update env (fun _ => rfl) fun _ => rfl)
          fun _ => ih

theorem signs_attachDevices (slots : List DeviceCode) :
    Signs env (attachDevices env slots) := by
  induction slots with
  | nil => exact signs_pure env ()
  | cons slot slots ih =>
      exact signs_bind env (signs_callEngine env none _) fun _ => ih

theorem signs_connectSession (config : SessionConfig) :
    Signs env (connectSession env config) := by
  apply signs_bind env (signs_ofExcept env _)
  intro leftover
  apply signs_bind env (signs_ofExcept env _)
  intro fingerprint
  refine signs_bind env (signs_update env (fun _ => rfl) fun _ => rfl) ?_
  intro _
  refine signs_bind env (signs_update env (fun _ => rfl) fun _ => rfl) ?_
  intro _
  apply signs_bind env (signs_reads env _)
  intro slots
  apply signs_bind env (signs_attachDevices env slots)
  intro _
  apply signs_bind env (signs_callEngine env _ _)
  intro _
  split
  · exact signs_bind env (signs_callEngine env _ _) fun _ =>
      signs_ofOption env _
  · exact signs_ofOption env _

theorem signs_setState (state : SessionState) : Signs env (setState state) :=
  signs_update env (fun _ => rfl) fun _ => rfl

theorem signs_receiveSignal (signalled : Bool) :
    Signs env (receiveSignal signalled) :=
  signs_update env (fun _ => rfl) fun _ => rfl

theorem signs_refreshDevices : Signs env refreshDevices :=
  signs_bind env (signs_theEngine env) fun _ =>
    signs_update env (fun _ => rfl) fun _ => rfl

theorem signs_attachGate (round : Round)
    (engine : HandlerState DeviceCode) :
    Signs env (attachGate round engine) := by
  unfold attachGate
  split
  · refine signs_bind env (signs_update env (fun _ => rfl) fun _ => rfl) ?_
    intro _
    split
    · exact signs_bind env (signs_setState env _) fun _ => signs_pure env _
    · exact signs_bind env (signs_reads env _) fun _ => signs_pure env _
  · exact signs_pure env _

theorem signs_receive (round : Round) : Signs env (receive env round) := by
  unfold receive
  split
  · exact signs_pure env _
  · exact signs_raise env _
  · refine signs_bind env (signs_update env (fun _ => rfl) fun _ => rfl) ?_
    intro _
    exact signs_bind env (signs_persist env) fun _ => signs_pure env _
  · exact signs_bind env (signs_callEngine env _ _) fun _ =>
      signs_pure env _

theorem signs_servePass (round : Round) : Signs env (servePass env round) := by
  apply signs_bind env (signs_theEngine env)
  intro e
  apply signs_bind env (signs_receiveSignal env _)
  intro _
  apply signs_bind env (signs_reads env _)
  intro stopFlag
  split
  · exact signs_bind env (signs_receiveSignal env _) fun _ => signs_pure env _
  · split
    · exact signs_bind env (signs_fail env _ _) fun _ => signs_pure env _
    · apply signs_bind env (signs_attachGate env round e.state)
      intro overdue
      split
      · exact signs_bind env (signs_fail env _ _) fun _ => signs_pure env _
      · exact signs_bind env (signs_refreshDevices env) fun _ =>
          signs_bind env (signs_persist env) fun _ => signs_receive env round

theorem signs_serve (rounds : List Round) : Signs env (serve env rounds) := by
  induction rounds with
  | nil => exact signs_pure env _
  | cons round rounds ih =>
      apply signs_bind env (signs_servePass env round)
      intro progress
      cases progress with
      | next => exact ih
      | leave | returned => exact signs_pure env _

theorem signs_finish : Signs env (finish env) := by
  apply signs_bind env (signs_refreshDevices env)
  intro _
  refine signs_bind env (signs_update env ?_ ?_) fun _ => signs_persist env
  · intro d
    split <;> rfl
  · intro d
    split <;> rfl

theorem signs_runDaemon (config : SessionConfig) (rounds : List Round) :
    Signs env (runDaemon env config rounds) := by
  apply signs_bind env (signs_persist env)
  intro _
  apply Exec.ensures_handle (E := Signed env)
  · apply signs_bind env (signs_openMedia env config _)
    intro _
    apply signs_bind env (signs_setState env _)
    intro _
    apply signs_bind env (signs_persist env)
    intro _
    apply signs_bind env (signs_connectSession env config)
    intro _
    apply signs_bind env (signs_serve env rounds)
    intro progress
    cases progress with
    | next | returned => exact signs_pure env _
    | leave => exact signs_bind env (signs_finish env) fun _ => signs_pure env _
  · intro failure
    cases failure <;>
      exact signs_bind env (signs_fail env _ _) fun _ => signs_pure env _

end Signing

/-!
## The process that writes them
-/

/-- The process behind records that were written in this order. -/
def processAfter (pid : Nat) (records : List StateRecord) : DaemonProcess where
  pid := pid
  phase :=
    if records.any fun record => record.state.terminal then
      DaemonPhase.closing
    else DaemonPhase.serving

theorem later_of_records {pid : Nat} {daemons : List DaemonProcess}
    {asked : List Int} {file : Option StateRecord}
    {records : List StateRecord}
    (hpid : forall record, record ∈ records -> record.pid = pid)
    (hclosed : forall before record after,
      records = before ++ record :: after -> record.state.terminal = true ->
        after = []) :
    Relation.ReflTransGen DaemonStep
      { file := file
        daemons :=
          daemons ++ [{ pid := pid, phase := DaemonPhase.serving }]
        asked := asked }
      { file := records.getLast?.or file
        daemons := daemons ++ [processAfter pid records]
        asked := asked } := by
  induction records generalizing file with
  | nil => exact Relation.ReflTransGen.refl
  | cons record records ih =>
      have hfirst := hpid record List.mem_cons_self
      cases hterminal : record.state.terminal with
      | true =>
          have hnil := hclosed [] record records rfl hterminal
          rw [hnil]
          apply Relation.ReflTransGen.single
          have hphase : processAfter pid [record] =
              { pid := pid, phase := DaemonPhase.closing } := by
            simp [processAfter, hterminal]
          rw [hphase]
          exact DaemonStep.settles (w := World.mk _ _ _) rfl rfl hfirst
            hterminal
      | false =>
          have hphase : processAfter pid (record :: records) =
              processAfter pid records := by
            simp [processAfter, hterminal]
          have hlast : (record :: records).getLast?.or file =
              records.getLast?.or (some record) := by
            cases records with
            | nil => rfl
            | cons next records => simp [List.getLast?_cons]
          rw [hphase, hlast]
          apply Relation.ReflTransGen.head
            (DaemonStep.persists (w := World.mk _ _ _) rfl rfl hfirst
              hterminal)
          apply ih
          · exact fun r hr => hpid r (List.mem_cons_of_mem _ hr)
          · intro before r after hsplit
            exact hclosed (record :: before) r after
              (by rw [hsplit, List.cons_append])

/-- A whole run of the daemon is a sequence of steps of its process. -/
theorem runDaemon_steps (env : Environment) (config : SessionConfig)
    (rounds : List Round) (daemons : List DaemonProcess) (asked : List Int)
    (file : Option StateRecord) :
    let log := ((runDaemon env config rounds).run
      (newDaemon env config)).2.log.map Persisted.record
    Relation.ReflTransGen DaemonStep
      { file := file
        daemons :=
          daemons ++ [{ pid := env.pid, phase := DaemonPhase.serving }]
        asked := asked }
      { file := log.getLast?.or file
        daemons := daemons ++ [processAfter env.pid log]
        asked := asked } := by
  intro log
  have hsigned := signs_runDaemon env config rounds (newDaemon env config)
    ⟨rfl, fun _ h => nomatch h⟩
  have hclosed := (attach_gate env config rounds).2.1
  rcases hrun : (runDaemon env config rounds).run (newDaemon env config) with
    ⟨result, d⟩
  have hlog : log = d.log.map Persisted.record := by
    show List.map _ ((runDaemon env config rounds).run _).2.log = _
    rw [hrun]
  rw [hrun] at hsigned hclosed
  have hpids : forall p, p ∈ d.log -> p.record.pid = env.pid := by
    cases result with
    | ok returned => exact hsigned.2
    | error failure => exact hsigned.2
  rw [hlog]
  apply later_of_records
  · intro record hmem
    rcases List.mem_map.mp hmem with ⟨p, hp, rfl⟩
    exact hpids p hp
  · intro before record after hsplit hterminal
    rcases List.map_eq_append_iff.mp hsplit with ⟨first, rest, hd, hb, hrest⟩
    rcases List.map_eq_cons_iff.mp hrest with ⟨p, last, hr, rfl, hlast⟩
    rw [← hlast, hclosed first p last (by rw [hd, hr]) hterminal]
    rfl

end AmtMedia
end IntelAmt
