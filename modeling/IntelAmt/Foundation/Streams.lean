import Mathlib.Data.List.Infix
import IntelAmt.Foundation.Transcript

/-!
# Readers of a stream

A script that reads a stream keeps what it has received and not yet used in a
buffer.  A talk is the same reader without the buffer: it works on the whole
string at once, and it says whether it has come to its end, has failed, or
wants more than there is.  A script that follows a talk behaves as the talk
does, however the string is cut into chunks.
-/

namespace IntelAmt
namespace Foundation

variable {byte event error alpha beta : Type}

inductive Outcome (byte error alpha : Type) where
  | done (a : alpha) (rest : List byte)
  | failed (e : error)
  | starved
deriving DecidableEq, Repr

/-- What a reader does with a whole string, and what becomes of it. -/
def Talk (byte event error alpha : Type) : Type :=
  List byte -> List event × Outcome byte error alpha

namespace Talk

def returned (a : alpha) : Talk byte event error alpha :=
  fun s => ([], Outcome.done a s)

def raised (e : error) : Talk byte event error alpha :=
  fun _ => ([], Outcome.failed e)

/-- Something that is done and reads nothing. -/
def say (e : event) (a : alpha) : Talk byte event error alpha :=
  fun s => ([e], Outcome.done a s)

/-- The next `n` bytes. -/
def take (n : Nat) : Talk byte event error (List byte) := fun s =>
  if s.length < n then ([], Outcome.starved)
  else ([], Outcome.done (s.take n) (s.drop n))

def bind (p : Talk byte event error alpha)
    (f : alpha -> Talk byte event error beta) :
    Talk byte event error beta := fun s =>
  match p s with
  | (events, Outcome.done a rest) => (events ++ (f a rest).1, (f a rest).2)
  | (events, Outcome.failed e) => (events, Outcome.failed e)
  | (events, Outcome.starved) => (events, Outcome.starved)

instance : Monad (Talk byte event error) where
  pure := returned
  bind := bind

section Bind

variable {p : Talk byte event error alpha}
variable {f : alpha -> Talk byte event error beta}
variable {s rest : List byte} {events : List event} {a : alpha}

theorem bind_done (h : p s = (events, Outcome.done a rest)) :
    (p >>= f) s = (events ++ (f a rest).1, (f a rest).2) := by
  show bind p f s = _
  rw [bind, h]

theorem bind_failed {e : error} (h : p s = (events, Outcome.failed e)) :
    (p >>= f) s = (events, Outcome.failed e) := by
  show bind p f s = _
  rw [bind, h]

theorem bind_starved (h : p s = (events, Outcome.starved)) :
    (p >>= f) s = (events, Outcome.starved) := by
  show bind p f s = _
  rw [bind, h]

theorem bind_prefix : (p s).1 <+: ((p >>= f) s).1 := by
  rcases hp : p s with ⟨events, outcome⟩
  cases outcome with
  | done a rest =>
      rw [bind_done hp]
      exact List.prefix_append _ _
  | failed e =>
      rw [bind_failed hp]
  | starved =>
      rw [bind_starved hp]

theorem bind_eq_done {b : beta}
    (h : (p >>= f) s = (events, Outcome.done b rest)) :
    exists first a middle later, p s = (first, Outcome.done a middle) ∧
      f a middle = (later, Outcome.done b rest) ∧
      events = first ++ later := by
  rcases hp : p s with ⟨first, outcome⟩
  cases outcome with
  | done a middle =>
      rw [bind_done hp] at h
      rcases hf : f a middle with ⟨later, outcome⟩
      rw [hf] at h
      cases h
      exact ⟨first, a, middle, later, rfl, hf, rfl⟩
  | failed e =>
      rw [bind_failed hp] at h
      cases h
  | starved =>
      rw [bind_starved hp] at h
      cases h

theorem bind_eq_failed {e : error}
    (h : (p >>= f) s = (events, Outcome.failed e)) :
    p s = (events, Outcome.failed e) ∨
      exists first a middle later, p s = (first, Outcome.done a middle) ∧
        f a middle = (later, Outcome.failed e) ∧
        events = first ++ later := by
  rcases hp : p s with ⟨first, outcome⟩
  cases outcome with
  | done a middle =>
      rw [bind_done hp] at h
      rcases hf : f a middle with ⟨later, outcome⟩
      rw [hf] at h
      cases h
      exact Or.inr ⟨first, a, middle, later, rfl, hf, rfl⟩
  | failed e =>
      rw [bind_failed hp] at h
      cases h
      exact Or.inl rfl
  | starved =>
      rw [bind_starved hp] at h
      cases h

end Bind

theorem bind_assoc {gamma : Type} (p : Talk byte event error alpha)
    (f : alpha -> Talk byte event error beta)
    (g : beta -> Talk byte event error gamma) :
    p >>= f >>= g = p >>= fun a => f a >>= g := by
  funext s
  rcases hp : p s with ⟨events, outcome⟩
  cases outcome with
  | done a middle =>
      rcases hf : f a middle with ⟨later, outcome⟩
      rw [bind_done hp]
      cases outcome with
      | done b rest =>
          have hboth : (p >>= f) s = (events ++ later, Outcome.done b rest) := by
            rw [bind_done hp, hf]
          rw [bind_done hboth, bind_done hf, List.append_assoc]
      | failed e =>
          have hboth : (p >>= f) s = (events ++ later, Outcome.failed e) := by
            rw [bind_done hp, hf]
          rw [bind_failed hboth, bind_failed hf]
      | starved =>
          have hboth : (p >>= f) s = (events ++ later, Outcome.starved) := by
            rw [bind_done hp, hf]
          rw [bind_starved hboth, bind_starved hf]
  | failed e => rw [bind_failed (bind_failed hp), bind_failed hp]
  | starved => rw [bind_starved (bind_starved hp), bind_starved hp]

/-- The talk only reads. -/
def Silent (p : Talk byte event error alpha) : Prop :=
  forall s, (p s).1 = []

theorem silent_returned (a : alpha) :
    Silent (returned a : Talk byte event error alpha) :=
  fun _ => rfl

theorem silent_raised (e : error) :
    Silent (raised e : Talk byte event error alpha) :=
  fun _ => rfl

theorem silent_take (n : Nat) :
    Silent (take n : Talk byte event error (List byte)) := by
  intro s
  unfold take
  split <;> rfl

theorem silent_bind {p : Talk byte event error alpha}
    {f : alpha -> Talk byte event error beta} (hp : Silent p)
    (hf : forall a, Silent (f a)) : Silent (p >>= f) := by
  intro s
  rcases h : p s with ⟨events, outcome⟩
  have hevents : events = [] := by
    rw [← hp s, h]
  cases outcome with
  | done a rest => rw [bind_done h, hevents, hf a rest]; rfl
  | failed e => rw [bind_failed h, hevents]
  | starved => rw [bind_starved h, hevents]

/-- What is said in front of a reader is all that is said. -/
theorem bind_silent {p : Talk byte event error alpha}
    {f : alpha -> Talk byte event error beta} (hf : forall a, Silent (f a))
    (s : List byte) : ((p >>= f) s).1 = (p s).1 := by
  rcases h : p s with ⟨events, outcome⟩
  cases outcome with
  | done a rest => rw [bind_done h, hf a rest, List.append_nil]
  | failed e => rw [bind_failed h]
  | starved => rw [bind_starved h]

/-- What is said behind a reader is said, or the reader has not come to its
end and nothing is. -/
theorem silent_then {p : Talk byte event error alpha}
    {f : alpha -> Talk byte event error beta} (hp : Silent p) (s : List byte) :
    (exists a rest, p s = ([], Outcome.done a rest) ∧
      ((p >>= f) s) = f a rest) ∨ ((p >>= f) s).1 = [] := by
  rcases h : p s with ⟨events, outcome⟩
  have hevents : events = [] := by
    rw [← hp s, h]
  rw [hevents] at h ⊢
  cases outcome with
  | done a rest =>
      refine Or.inl ⟨a, rest, rfl, ?_⟩
      rw [bind_done h]
      rfl
  | failed e =>
      apply Or.inr
      rw [bind_failed h]
  | starved =>
      apply Or.inr
      rw [bind_starved h]

/-- Every failure of the talk is `E`. -/
def FailsWith (E : error -> Prop) (p : Talk byte event error alpha) : Prop :=
  forall s events e, p s = (events, Outcome.failed e) -> E e

section Failing

variable {E : error -> Prop}

theorem failsWith_returned (a : alpha) :
    FailsWith E (returned a : Talk byte event error alpha) :=
  fun _ _ _ h => nomatch h

theorem failsWith_say (e : event) (a : alpha) :
    FailsWith E (say e a : Talk byte event error alpha) :=
  fun _ _ _ h => nomatch h

theorem failsWith_raised {e : error} (h : E e) :
    FailsWith E (raised e : Talk byte event error alpha) := by
  intro s events e' hraised
  cases hraised
  exact h

theorem failsWith_take (n : Nat) :
    FailsWith E (take n : Talk byte event error (List byte)) := by
  intro s events e h
  unfold take at h
  split at h <;> cases h

theorem failsWith_bind {p : Talk byte event error alpha}
    {f : alpha -> Talk byte event error beta} (hp : FailsWith E p)
    (hf : forall a, FailsWith E (f a)) : FailsWith E (p >>= f) := by
  intro s events e h
  rcases bind_eq_failed h with
    hfirst | ⟨first, a, middle, later, _, hlater, _⟩
  · exact hp s events e hfirst
  · exact hf a middle later e hlater

end Failing

theorem take_short {n : Nat} {s : List byte} (h : s.length < n) :
    (take n : Talk byte event error (List byte)) s =
      ([], Outcome.starved) :=
  if_pos h

theorem take_enough {n : Nat} {s : List byte} (h : n ≤ s.length) :
    (take n : Talk byte event error (List byte)) s =
      ([], Outcome.done (s.take n) (s.drop n)) :=
  if_neg (Nat.not_lt.mpr h)

end Talk

/-- A script with a buffer of bytes that were received and not yet used. -/
def Buffered (byte op : Type) (answer : op -> Type) (error alpha : Type) :
    Type :=
  List byte -> Script op answer error (alpha × List byte)

variable {op : Type} {answer : op -> Type}

namespace Buffered

def returned (a : alpha) : Buffered byte op answer error alpha :=
  fun buffer => Script.returned (a, buffer)

def raised (e : error) : Buffered byte op answer error alpha :=
  fun _ => Script.raised e

/-- A script that does not look at the buffer. -/
def lift (x : Script op answer error alpha) :
    Buffered byte op answer error alpha :=
  fun buffer => x >>= fun a => Script.returned (a, buffer)

def bind (x : Buffered byte op answer error alpha)
    (f : alpha -> Buffered byte op answer error beta) :
    Buffered byte op answer error beta :=
  fun buffer => x buffer >>= fun r => f r.1 r.2

instance : Monad (Buffered byte op answer error) where
  pure := returned
  bind := bind

end Buffered

/-!
## Channels
-/

/-- What an exchange means for a reader: bytes have come, something was done,
or something has gone wrong, maybe while it was done. -/
inductive Note (byte event : Type) where
  | received (chunk : List byte)
  | did (e : event)
  | fault (e : Option event)

/-- How the exchanges of a script are read, which operations wait for bytes,
and which exchanges are considered at all. -/
structure Channel (byte event op : Type) (answer : op -> Type) where
  note : Exchange answer -> Note byte event
  waits : op -> Bool
  allowed : Exchange answer -> Prop

namespace Channel

variable (channel : Channel byte event op answer)

def bytesIn (exchange : Exchange answer) : List byte :=
  match channel.note exchange with
  | Note.received chunk => chunk
  | _ => []

def eventIn (exchange : Exchange answer) : Option event :=
  match channel.note exchange with
  | Note.did e => some e
  | Note.fault e => e
  | _ => none

def faulty (exchange : Exchange answer) : Bool :=
  match channel.note exchange with
  | Note.fault _ => true
  | _ => false

/-- All bytes that have come. -/
def received (log : List (Exchange answer)) : List byte :=
  log.flatMap channel.bytesIn

def events (log : List (Exchange answer)) : List event :=
  log.filterMap channel.eventIn

/-- Nothing has gone wrong. -/
def Clean (log : List (Exchange answer)) : Prop :=
  forall exchange, exchange ∈ log -> channel.faulty exchange = false

def Allowed (log : List (Exchange answer)) : Prop :=
  forall exchange, exchange ∈ log -> channel.allowed exchange

variable {first rest log : List (Exchange answer)}
variable {exchange : Exchange answer}

@[simp] theorem received_nil : channel.received [] = [] := rfl

@[simp] theorem events_nil : channel.events [] = [] := rfl

theorem clean_nil : channel.Clean [] :=
  fun _ hmem => nomatch hmem

theorem received_append :
    channel.received (first ++ rest) =
      channel.received first ++ channel.received rest :=
  List.flatMap_append

theorem events_append :
    channel.events (first ++ rest) =
      channel.events first ++ channel.events rest :=
  List.filterMap_append

theorem received_cons :
    channel.received (exchange :: rest) =
      channel.bytesIn exchange ++ channel.received rest :=
  List.flatMap_cons

theorem events_cons :
    channel.events (exchange :: rest) =
      (channel.eventIn exchange).toList ++ channel.events rest := by
  rw [events, List.filterMap_cons, events]
  cases channel.eventIn exchange <;> rfl

theorem clean_append :
    channel.Clean (first ++ rest) ↔
      channel.Clean first ∧ channel.Clean rest := by
  simp only [Clean, List.mem_append]
  constructor
  · intro h
    exact ⟨fun x hx => h x (Or.inl hx), fun x hx => h x (Or.inr hx)⟩
  · rintro ⟨hfirst, hrest⟩ x (hx | hx)
    · exact hfirst x hx
    · exact hrest x hx

theorem clean_cons :
    channel.Clean (exchange :: rest) ↔
      channel.faulty exchange = false ∧ channel.Clean rest := by
  simp [Clean]

theorem allowed_append :
    channel.Allowed (first ++ rest) ↔
      channel.Allowed first ∧ channel.Allowed rest := by
  simp only [Allowed, List.mem_append]
  constructor
  · intro h
    exact ⟨fun x hx => h x (Or.inl hx), fun x hx => h x (Or.inr hx)⟩
  · rintro ⟨hfirst, hrest⟩ x (hx | hx)
    · exact hfirst x hx
    · exact hrest x hx

/-!
## Following a talk
-/

variable (expected : error -> Prop)

/-- Where a script stands behind a transcript, told by the talk that it
follows: it has returned or raised what the talk does, it is on its way, or
something has gone wrong and it has raised what is expected then.  Nothing of
this depends on the bytes that have not been received. -/
def Heard (p : Talk byte event error alpha) (buffer : List byte)
    (log : List (Exchange answer)) :
    Script op answer error (alpha × List byte) -> Prop
  | Script.returned r =>
      channel.Clean log ∧ forall more,
        p (buffer ++ channel.received log ++ more) =
          (channel.events log, Outcome.done r.1 (r.2 ++ more))
  | Script.raised e =>
      (channel.Clean log ∧ forall more,
          p (buffer ++ channel.received log ++ more) =
            (channel.events log, Outcome.failed e)) ∨
        (¬ channel.Clean log ∧ expected e ∧ forall more,
          channel.events log <+:
            (p (buffer ++ channel.received log ++ more)).1)
  | Script.call o _ =>
      channel.Clean log ∧
        (forall more,
          channel.events log <+:
            (p (buffer ++ channel.received log ++ more)).1) ∧
        (channel.waits o = true ->
          p (buffer ++ channel.received log) =
            (channel.events log, Outcome.starved))

theorem heard_begins {p : Talk byte event error alpha} {buffer : List byte}
    {y : Script op answer error (alpha × List byte)}
    (h : channel.Heard expected p buffer log y) (more : List byte) :
    channel.events log <+:
      (p (buffer ++ channel.received log ++ more)).1 := by
  cases y with
  | returned r =>
      rw [h.2 more]
  | raised e =>
      rcases h with ⟨_, hfailed⟩ | ⟨_, _, hbegins⟩
      · rw [hfailed more]
      · exact hbegins more
  | call o next => exact h.2.1 more

/-- The script with this buffer follows the talk. -/
def Follows (x : Buffered byte op answer error alpha)
    (p : Talk byte event error alpha) (buffer : List byte) : Prop :=
  forall log y, channel.Allowed log -> Script.After (x buffer) log y ->
    channel.Heard expected p buffer log y

variable {channel expected}
variable {p : Talk byte event error alpha} {buffer : List byte}
variable {x : Buffered byte op answer error alpha}

theorem follows_returned {a : alpha} {rest : List byte}
    (hx : x buffer = Script.returned (a, rest))
    (hp : forall more,
      p (buffer ++ more) = ([], Outcome.done a (rest ++ more))) :
    channel.Follows expected x p buffer := by
  intro log y _ h
  rw [hx] at h
  rcases Script.after_returned h with ⟨hlog, hy⟩
  rw [hlog, hy]
  refine ⟨channel.clean_nil, fun more => ?_⟩
  rw [received_nil, List.append_nil]
  exact hp more

theorem follows_raised {e : error} (hx : x buffer = Script.raised e)
    (hp : forall more, p (buffer ++ more) = ([], Outcome.failed e)) :
    channel.Follows expected x p buffer := by
  intro log y _ h
  rw [hx] at h
  rcases Script.after_raised h with ⟨hlog, hy⟩
  rw [hlog, hy]
  refine Or.inl ⟨channel.clean_nil, fun more => ?_⟩
  rw [received_nil, List.append_nil]
  exact hp more

theorem follows_congr {x' : Buffered byte op answer error alpha}
    (h : channel.Follows expected x' p buffer)
    (hx : x buffer = x' buffer) : channel.Follows expected x p buffer := by
  intro log y hallowed hafter
  rw [hx] at hafter
  exact h log y hallowed hafter

theorem heard_then {f : alpha -> Talk byte event error beta}
    {first rest : List (Exchange answer)} {a : alpha} {buffer' : List byte}
    {y : Script op answer error (beta × List byte)}
    (hfirst : channel.Heard expected p buffer first
      (Script.returned (a, buffer')))
    (hrest : channel.Heard expected (f a) buffer' rest y) :
    channel.Heard expected (p >>= f) buffer (first ++ rest) y := by
  rcases hfirst with ⟨hclean, hdone⟩
  have hwhole : forall more,
      (p >>= f) (buffer ++ channel.received (first ++ rest) ++ more) =
        (channel.events first ++
            (f a (buffer' ++ channel.received rest ++ more)).1,
          (f a (buffer' ++ channel.received rest ++ more)).2) := by
    intro more
    have hthis := hdone (channel.received rest ++ more)
    rw [received_append]
    simp only [List.append_assoc] at hthis ⊢
    exact Talk.bind_done hthis
  have hcleanAll : channel.Clean rest ->
      channel.Clean (first ++ rest) :=
    fun h => channel.clean_append.mpr ⟨hclean, h⟩
  have hbeginsAll : forall more,
      channel.events rest <+:
          (f a (buffer' ++ channel.received rest ++ more)).1 ->
        channel.events (first ++ rest) <+:
          ((p >>= f)
            (buffer ++ channel.received (first ++ rest) ++ more)).1 := by
    intro more h
    rw [hwhole, events_append]
    exact (List.prefix_append_right_inj _).mpr h
  cases y with
  | returned r =>
      refine ⟨hcleanAll hrest.1, fun more => ?_⟩
      rw [hwhole, hrest.2, events_append]
  | raised e =>
      rcases hrest with ⟨hrestClean, hfailed⟩ | ⟨hnot, hexpected, hbegins⟩
      · refine Or.inl ⟨hcleanAll hrestClean, fun more => ?_⟩
        rw [hwhole, hfailed, events_append]
      · refine Or.inr ⟨?_, hexpected, fun more =>
          hbeginsAll more (hbegins more)⟩
        exact fun hall => hnot (channel.clean_append.mp hall).2
  | call o next =>
      rcases hrest with ⟨hrestClean, hbegins, hstarved⟩
      refine ⟨hcleanAll hrestClean, fun more => hbeginsAll more (hbegins more),
        fun hwaits => ?_⟩
      have hthis := hwhole []
      rw [List.append_nil, List.append_nil, hstarved hwaits] at hthis
      rw [hthis, events_append]

theorem follows_bind {f : alpha -> Buffered byte op answer error beta}
    {g : alpha -> Talk byte event error beta}
    (hx : channel.Follows expected x p buffer)
    (hf : forall a buffer', channel.Follows expected (f a) (g a) buffer') :
    channel.Follows expected (x >>= f) (p >>= g) buffer := by
  intro log y hallowed h
  rcases Script.after_bind h with
    ⟨x', hx', hy⟩ | ⟨first, rest, r, hlog, hfirst, hrest⟩
  · have hheard := hx log x' hallowed hx'
    cases x' with
    | returned r =>
        have hhere : Script.After (f r.1 r.2) [] y := by
          rw [hy]
          exact Script.After.here _
        have hthen := heard_then hheard
          (hf r.1 r.2 [] y (fun _ hmem => nomatch hmem) hhere)
        rw [List.append_nil] at hthen
        exact hthen
    | raised e =>
        rw [hy]
        rcases hheard with ⟨hclean, hfailed⟩ | ⟨hnot, hexpected, hbegins⟩
        · exact Or.inl ⟨hclean, fun more => Talk.bind_failed (hfailed more)⟩
        · exact Or.inr ⟨hnot, hexpected, fun more =>
            (hbegins more).trans Talk.bind_prefix⟩
    | call o next =>
        rw [hy]
        rcases hheard with ⟨hclean, hbegins, hstarved⟩
        exact ⟨hclean, fun more => (hbegins more).trans Talk.bind_prefix,
          fun hwaits => Talk.bind_starved (hstarved hwaits)⟩
  · rw [hlog] at hallowed ⊢
    rcases channel.allowed_append.mp hallowed with ⟨hfirstAll, hrestAll⟩
    exact heard_then (hx first _ hfirstAll hfirst)
      (hf r.1 r.2 rest y hrestAll hrest)

/-!
## Operations and readers
-/

theorem follows_say {o : op} {e : event} {a : alpha}
    {next : answer o -> Script op answer error (alpha × List byte)}
    (hx : x buffer = Script.call o next) (hwaits : channel.waits o = false)
    (hnext : forall given, channel.allowed ⟨o, given⟩ ->
      (channel.note ⟨o, given⟩ = Note.did e ∧
          next given = Script.returned (a, buffer)) ∨
        exists err, channel.note ⟨o, given⟩ = Note.fault (some e) ∧
          next given = Script.raised err ∧ expected err) :
    channel.Follows expected x (Talk.say e a) buffer := by
  intro log y hallowed h
  rw [hx] at h
  rcases Script.after_call h with ⟨hlog, hy⟩ | ⟨given, rest, hlog, hrest⟩
  · rw [hlog, hy]
    refine ⟨channel.clean_nil, fun more => List.nil_prefix, fun hwait => ?_⟩
    rw [hwaits] at hwait
    cases hwait
  · rw [hlog] at hallowed ⊢
    have hended : (next given).ended = true := by
      rcases hnext given (hallowed _ List.mem_cons_self) with
        ⟨_, hthis⟩ | ⟨err, _, hthis, _⟩
      · rw [hthis]
        rfl
      · rw [hthis]
        rfl
    rcases Script.after_ended hended hrest with ⟨hnil, hy⟩
    rw [hnil, hy]
    rcases hnext given (hallowed _ List.mem_cons_self) with
      ⟨hnote, hthis⟩ | ⟨err, hnote, hthis, hexpected⟩
    · rw [hthis]
      refine ⟨?_, fun more => ?_⟩
      · rw [clean_cons, faulty, hnote]
        exact ⟨rfl, channel.clean_nil⟩
      · rw [received_cons, events_cons, bytesIn, eventIn, hnote]
        simp [Talk.say]
    · rw [hthis]
      refine Or.inr ⟨?_, hexpected, fun more => ?_⟩
      · rw [clean_cons, faulty, hnote]
        exact fun hclean => Bool.noConfusion hclean.1
      · rw [events_cons, eventIn, hnote]
        exact List.prefix_refl _

variable (channel expected) in
/-- The script receives until the buffer holds `n` bytes at least. -/
def Gathers (x : Buffered byte op answer error Unit) (n : Nat)
    (buffer : List byte) : Prop :=
  forall log y, Script.After (x buffer) log y ->
    channel.events log = [] ∧
    match y with
    | Script.returned r =>
        channel.Clean log ∧ r.2 = buffer ++ channel.received log ∧
          n ≤ r.2.length
    | Script.raised e => ¬ channel.Clean log ∧ expected e
    | Script.call _ _ =>
        channel.Clean log ∧ (buffer ++ channel.received log).length < n

theorem gathers_enough {x : Buffered byte op answer error Unit} {n : Nat}
    (hx : x buffer = Script.returned ((), buffer)) (h : n ≤ buffer.length) :
    channel.Gathers expected x n buffer := by
  intro log y hafter
  rw [hx] at hafter
  rcases Script.after_returned hafter with ⟨hlog, hy⟩
  rw [hlog, hy]
  exact ⟨rfl, channel.clean_nil, (List.append_nil _).symm, h⟩

theorem gathers_receive {x : Buffered byte op answer error Unit} {n : Nat}
    {o : op} {next : answer o -> Script op answer error (Unit × List byte)}
    (hx : x buffer = Script.call o next) (hshort : buffer.length < n)
    (hnext : forall given,
      (exists chunk x', channel.note ⟨o, given⟩ = Note.received chunk ∧
        next given = x' (buffer ++ chunk) ∧
        channel.Gathers expected x' n (buffer ++ chunk)) ∨
      exists e, channel.note ⟨o, given⟩ = Note.fault none ∧
        next given = Script.raised e ∧ expected e) :
    channel.Gathers expected x n buffer := by
  intro log y hafter
  rw [hx] at hafter
  rcases Script.after_call hafter with ⟨hlog, hy⟩ | ⟨given, rest, hlog, hrest⟩
  · rw [hlog, hy]
    refine ⟨rfl, channel.clean_nil, ?_⟩
    rw [received_nil, List.append_nil]
    exact hshort
  · rw [hlog]
    rcases hnext given with
      ⟨chunk, x', hnote, hgiven, hx'⟩ | ⟨e, hnote, hgiven, hexpected⟩
    · rw [hgiven] at hrest
      rcases hx' rest y hrest with ⟨hevents, hthis⟩
      have hbytes : channel.received (⟨o, given⟩ :: rest) =
          chunk ++ channel.received rest := by
        rw [received_cons, bytesIn, hnote]
      have hclean : channel.Clean (⟨o, given⟩ :: rest) ↔
          channel.Clean rest := by
        rw [clean_cons, faulty, hnote]
        exact and_iff_right rfl
      constructor
      · rw [events_cons, eventIn, hnote, hevents]
        rfl
      · rw [hbytes, ← List.append_assoc, hclean]
        exact hthis
    · rw [hgiven] at hrest
      rcases Script.after_raised hrest with ⟨hnil, hy⟩
      rw [hnil, hy]
      refine ⟨?_, ?_, hexpected⟩
      · rw [events_cons, eventIn, hnote]
        rfl
      · rw [clean_cons, faulty, hnote]
        exact fun hclean => Bool.noConfusion hclean.1

theorem heard_received {first rest : List (Exchange answer)}
    {y : Script op answer error (alpha × List byte)}
    (hevents : channel.events first = []) (hclean : channel.Clean first)
    (h : channel.Heard expected p (buffer ++ channel.received first) rest y) :
    channel.Heard expected p buffer (first ++ rest) y := by
  cases y with
  | returned r =>
      refine ⟨channel.clean_append.mpr ⟨hclean, h.1⟩, fun more => ?_⟩
      rw [events_append, hevents, received_append, ← List.append_assoc]
      exact h.2 more
  | raised e =>
      rcases h with ⟨hrest, hfailed⟩ | ⟨hnot, hexpected, hbegins⟩
      · refine Or.inl ⟨channel.clean_append.mpr ⟨hclean, hrest⟩,
          fun more => ?_⟩
        rw [events_append, hevents, received_append, ← List.append_assoc]
        exact hfailed more
      · refine Or.inr ⟨fun hall => hnot (channel.clean_append.mp hall).2,
          hexpected, fun more => ?_⟩
        rw [events_append, hevents, received_append, ← List.append_assoc]
        exact hbegins more
  | call o next =>
      rcases h with ⟨hrest, hbegins, hstarved⟩
      refine ⟨channel.clean_append.mpr ⟨hclean, hrest⟩, fun more => ?_,
        fun hwaits => ?_⟩
      · rw [events_append, hevents, received_append, ← List.append_assoc]
        exact hbegins more
      · rw [events_append, hevents, received_append, ← List.append_assoc]
        exact hstarved hwaits

/-- A reader that waits for `n` bytes first follows a talk that is starved by
fewer bytes, if it follows it from then on. -/
theorem follows_gather {x : Buffered byte op answer error Unit} {n : Nat}
    {f : Unit -> Buffered byte op answer error alpha}
    (hx : channel.Gathers expected x n buffer)
    (hstarved : forall more, (buffer ++ more).length < n ->
      p (buffer ++ more) = ([], Outcome.starved))
    (hf : forall more, n ≤ (buffer ++ more).length ->
      channel.Follows expected (f ()) p (buffer ++ more)) :
    channel.Follows expected (x >>= f) p buffer := by
  intro log y hallowed h
  rcases Script.after_bind h with
    ⟨x', hx', hy⟩ | ⟨first, rest, r, hlog, hfirst, hrest⟩
  · rcases hx log x' hx' with ⟨hevents, hthis⟩
    cases x' with
    | returned r =>
        rcases hthis with ⟨hclean, hbuffer, hlength⟩
        rw [hbuffer] at hlength
        have hhere : Script.After (f () (buffer ++ channel.received log))
            [] y := by
          rw [hy, ← hbuffer]
          exact Script.After.here _
        have hheard := heard_received hevents hclean
          (hf _ hlength [] y (fun _ hmem => nomatch hmem) hhere)
        rw [List.append_nil] at hheard
        exact hheard
    | raised e =>
        rw [hy]
        rcases hthis with ⟨hnot, hexpected⟩
        refine Or.inr ⟨hnot, hexpected, fun more => ?_⟩
        rw [hevents]
        exact List.nil_prefix
    | call o next =>
        rw [hy]
        rcases hthis with ⟨hclean, hshort⟩
        refine ⟨hclean, fun more => ?_, fun _ => ?_⟩
        · rw [hevents]
          exact List.nil_prefix
        · rw [hevents]
          exact hstarved _ hshort
  · rcases hx first _ hfirst with ⟨hevents, hclean, hbuffer, hlength⟩
    rw [hlog] at hallowed ⊢
    rw [hbuffer] at hlength hrest
    exact heard_received hevents hclean
      (hf _ hlength rest y (channel.allowed_append.mp hallowed).2 hrest)

end Channel
end Foundation
end IntelAmt
