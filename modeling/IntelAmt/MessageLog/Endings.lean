import IntelAmt.MessageLog.Answers
import IntelAmt.Wsman.Enumerations

/-!
# How long the event log is read

With the answers to all posts fixed, the read comes to its end when one of
the answers ends the iteration or enough records are delivered.
-/

namespace IntelAmt
namespace MessageLog

open Foundation Wsman Models AmtLogClear

/-!
## What the firmware answers
-/

section Answers

variable (client : Client) (results : Nat -> PostResult)

/-- The identifier that an answer to `GetRecords` goes on with. -/
def announced (result : PostResult) : Option Int :=
  (usableOutput client "GetRecords" result).bind nextIdentifier

/-- The identifier that an answer to `PositionToFirstRecord` begins with. -/
def firstAnnounced (result : PostResult) : Option Int :=
  (usableOutput client "PositionToFirstRecord" result).map firstIdentifier

/-- The records that an answer to `GetRecords` brings. -/
def delivered (result : PostResult) : List String :=
  ((usableOutput client "GetRecords" result).map recordArray).getD []

/-- How many records a number of answers bring. -/
def deliveredBy : Nat -> Nat
  | 0 => 0
  | n + 1 => deliveredBy n + (delivered client (results n)).length

/-- The identifier that a call is sent with. -/
def sentIdentifier (first : Int) : Nat -> Option Int
  | 0 => some first
  | n + 1 => announced client (results n)

/-- An answer says that there is no more or not where to go on, it repeats
the identifier that it was asked with, or enough records are delivered. -/
def EndsIteration (maxRecords first : Int) : Prop :=
  exists n, announced client (results n) = none ∨
    announced client (results n) = sentIdentifier client results first n ∨
      maxRecords ≤ deliveredBy client results (n + 1)

end Answers

/-!
## Rounds
-/

section Rounds

variable (client : Client) (results : Nat -> PostResult)
variable (properties : MessageLogProperties) (maxRecords batchSize : Int)

/-- What comes of the loop from a position of the answers on. -/
def readFrom (position rounds : Nat) (reading : Reading) :
    Except Failure MessageLogRead :=
  (Script.play (answersOf results) position
    (readUpTo client properties maxRecords batchSize rounds reading)).1

variable {maxRecords}

theorem readFrom_full {reading : Reading}
    (hfull : maxRecords ≤ reading.consumed) (position rounds : Nat) :
    readFrom client results properties maxRecords batchSize position rounds
      reading ≠ Except.error Failure.waiting := by
  rw [readFrom]
  unfold readUpTo
  rw [if_pos hfull]
  exact fun h => nomatch h

theorem readFrom_unfollowed {reading : Reading}
    (hroom : reading.consumed < maxRecords) (position : Nat) :
    readFrom client results properties maxRecords batchSize position 0
      reading = Except.error Failure.waiting := by
  rw [readFrom, readUpTo, if_neg (Int.not_le.mpr hroom)]
  rfl

theorem readFrom_call (rounds position : Nat) {reading : Reading}
    (hroom : reading.consumed < maxRecords) :
    readFrom client results properties maxRecords batchSize position
        (rounds + 1) reading =
      (Script.play (answersOf results) (position + 1)
        (judged client "GetRecords" [2, 3] (results position) >>= fun answer =>
          match takeBatch maxRecords reading answer.1 answer.2 with
          | Pass.stopped reason complete reading =>
              pure (readOf properties reason false complete reading)
          | Pass.next reading =>
              readUpTo client properties maxRecords batchSize rounds
                reading)).1 := by
  rw [readFrom, readUpTo, if_neg (Int.not_le.mpr hroom)]
  dsimp only
  rcases getRecords_call reading.identifier
      (min (min batchSize (maxRecords - reading.consumed)) maxReadRecords) with
    ⟨request, _, hcall⟩
  rw [hcall]
  rfl

/-- One call of the loop: the read ends behind it or goes on. -/
theorem readFrom_round (position : Nat) {reading : Reading}
    (hroom : reading.consumed < maxRecords) :
    ((announced client (results position) = none ∨
          announced client (results position) = some reading.identifier) ∧
        forall rounds,
          readFrom client results properties maxRecords batchSize position
            (rounds + 1) reading ≠ Except.error Failure.waiting) ∨
      exists output identifier,
        usableOutput client "GetRecords" (results position) = some output ∧
        announced client (results position) = some identifier ∧
        identifier ≠ reading.identifier ∧
        forall rounds,
          readFrom client results properties maxRecords batchSize position
              (rounds + 1) reading =
            readFrom client results properties maxRecords batchSize
              (position + 1) rounds
              (reading.advance maxRecords output identifier) := by
  have hcall := fun rounds =>
    readFrom_call client results properties batchSize rounds position hroom
  have hjudged : Judged client "GetRecords" [2, 3] (results position)
      (judged client "GetRecords" [2, 3] (results position)) :=
    judged_cases [2, 3] (results position)
  revert hcall hjudged
  generalize judged client "GetRecords" [2, 3] (results position) = x
  intro hcall hjudged
  cases hjudged with
  | failed e hreached hnone =>
      apply Or.inl
      constructor
      · rw [announced, hnone]
        exact Or.inl rfl
      · intro rounds
        rw [hcall]
        intro h
        cases h
        exact hreached rfl
  | tolerated output hgiven hnonzero hknown =>
      have hnone := usableOutput_none hgiven hnonzero
      apply Or.inl
      constructor
      · rw [announced, hnone]
        exact Or.inl rfl
      · intro rounds
        rcases takeBatch_tolerated hknown with ⟨reason, htake⟩
        rw [hcall, Script.returned_bind]
        dsimp only
        rw [htake]
        intro h
        cases h
  | usable output hgiven hzero =>
      have husable := usableOutput_some hgiven hzero
      have hannounced : announced client (results position) =
          nextIdentifier output := by
        rw [announced, husable]
        rfl
      rw [hannounced]
      rcases takeBatch_zero maxRecords reading output with
        ⟨reason, htake, hends⟩ |
          ⟨identifier, hnext, hne, htake⟩
      · refine Or.inl ⟨hends, ?_⟩
        intro rounds
        rw [hcall, Script.returned_bind]
        dsimp only
        rw [htake]
        intro h
        cases h
      · refine Or.inr ⟨output, identifier, husable, hnext, hne, ?_⟩
        intro rounds
        rw [hcall, Script.returned_bind]
        dsimp only
        rw [htake]
        rfl

/-- Where the loop stands behind a number of calls. -/
structure Reaches (client : Client) (results : Nat -> PostResult)
    (maxRecords first : Int) (n : Nat) (reading : Reading) : Prop where
  sent : sentIdentifier client results first n = some reading.identifier
  bound : reading.consumed ≤ deliveredBy client results n
  all : reading.consumed < maxRecords ->
    reading.consumed = deliveredBy client results n

theorem reaches_start (client : Client) (results : Nat -> PostResult)
    (maxRecords first : Int) :
    Reaches client results maxRecords first 0 { identifier := first } where
  sent := rfl
  bound := Nat.le_refl 0
  all := fun _ => rfl

theorem Reaches.next {first identifier : Int} {n : Nat} {reading : Reading}
    {output : Instance}
    (h : Reaches client results maxRecords first n reading)
    (hroom : reading.consumed < maxRecords)
    (husable : usableOutput client "GetRecords" (results n) = some output)
    (hannounced : announced client (results n) = some identifier) :
    Reaches client results maxRecords first (n + 1)
      (reading.advance maxRecords output identifier) := by
  have hdelivered : deliveredBy client results (n + 1) =
      deliveredBy client results n + (recordArray output).length := by
    rw [deliveredBy, delivered, husable]
    rfl
  have hconsumed :
      (reading.advance maxRecords output identifier).consumed =
        reading.consumed + min (maxRecords - reading.consumed).toNat
          (recordArray output).length :=
    take_consumed _ maxRecords output
  have hall := h.all hroom
  constructor
  · exact hannounced
  · rw [hdelivered, hconsumed]
    lia
  · rw [hdelivered, hconsumed]
    lia

section Iteration

variable {client results} {first : Int} {iteration : Nat -> PostResult}
variable {position : Nat}
variable (hiteration : forall n, iteration n = results (position + n))

include hiteration

theorem Reaches.round {n : Nat} {reading : Reading}
    (h : Reaches client iteration maxRecords first n reading)
    (hroom : reading.consumed < maxRecords) :
    ((announced client (iteration n) = none ∨
          announced client (iteration n) =
            sentIdentifier client iteration first n) ∧
        forall rounds,
          readFrom client results properties maxRecords batchSize
            (position + n) (rounds + 1) reading ≠
              Except.error Failure.waiting) ∨
      exists next, Reaches client iteration maxRecords first (n + 1) next ∧
        announced client (iteration n) ≠
          sentIdentifier client iteration first n ∧
        forall rounds,
          readFrom client results properties maxRecords batchSize
              (position + n) (rounds + 1) reading =
            readFrom client results properties maxRecords batchSize
              (position + (n + 1)) rounds next := by
  rw [h.sent, hiteration]
  rcases readFrom_round client results properties batchSize (position + n)
      hroom with
    hended | ⟨output, identifier, husable, hannounced, hne, hround⟩
  · exact Or.inl hended
  · refine Or.inr ⟨_, ?_, ?_, hround⟩
    · rw [← hiteration] at husable hannounced
      exact h.next client iteration hroom husable hannounced
    · rw [hannounced]
      exact fun heq => hne (Option.some.inj heq)

theorem readFrom_finishes {last : Nat}
    (hlast : announced client (iteration last) = none ∨
      announced client (iteration last) =
          sentIdentifier client iteration first last ∨
        maxRecords ≤ deliveredBy client iteration (last + 1)) (left n : Nat)
    {reading : Reading} (hn : n + left = last)
    (h : Reaches client iteration maxRecords first n reading) :
    exists rounds, readFrom client results properties maxRecords batchSize
      (position + n) rounds reading ≠ Except.error Failure.waiting := by
  have hfull : forall {n : Nat} {reading : Reading},
      ¬ reading.consumed < maxRecords ->
      readFrom client results properties maxRecords batchSize (position + n) 0
        reading ≠ Except.error Failure.waiting :=
    fun hroom => readFrom_full client results properties batchSize
      (Int.not_lt.mp hroom) _ 0
  induction left generalizing n reading with
  | zero =>
      by_cases hroom : reading.consumed < maxRecords
      · refine ⟨1, ?_⟩
        rcases h.round properties batchSize hiteration hroom with
          ⟨_, hended⟩ | ⟨next, hnext, hne, hround⟩
        · exact hended 0
        · rw [hround]
          apply hfull
          intro hlt
          have hsent := hnext.sent
          rw [← hn] at hlast
          rcases hlast with hnone | hsame | henough
          · rw [sentIdentifier] at hsent
            rw [Nat.add_zero, hsent] at hnone
            cases hnone
          · exact hne hsame
          · rw [hnext.all hlt] at hlt
            exact absurd henough (Int.not_le.mpr hlt)
      · exact ⟨0, hfull hroom⟩
  | succ left ih =>
      by_cases hroom : reading.consumed < maxRecords
      · rcases h.round properties batchSize hiteration hroom with
          ⟨_, hended⟩ | ⟨next, hnext, _, hround⟩
        · exact ⟨1, hended 0⟩
        · rcases ih (n + 1) (by lia) hnext with ⟨rounds, hended⟩
          refine ⟨rounds + 1, ?_⟩
          rw [hround]
          exact hended
      · exact ⟨0, hfull hroom⟩

theorem readFrom_waits
    (hends : ¬ EndsIteration client iteration maxRecords first)
    (rounds n : Nat) {reading : Reading}
    (h : Reaches client iteration maxRecords first n reading) :
    readFrom client results properties maxRecords batchSize (position + n)
      rounds reading = Except.error Failure.waiting := by
  have hroom : forall {n : Nat} {reading : Reading},
      Reaches client iteration maxRecords first n reading ->
      reading.consumed < maxRecords := by
    intro n reading h
    apply Int.not_le.mp
    intro hle
    have hbound := h.bound
    apply hends
    refine ⟨n, Or.inr (Or.inr ?_)⟩
    rw [deliveredBy]
    lia
  induction rounds generalizing n reading with
  | zero => exact readFrom_unfollowed _ _ _ _ (hroom h) _
  | succ rounds ih =>
      rcases h.round properties batchSize hiteration (hroom h) with
        ⟨hnone | hsame, _⟩ | ⟨next, hnext, _, hround⟩
      · exact absurd ⟨n, Or.inl hnone⟩ hends
      · exact absurd ⟨n, Or.inr (Or.inl hsame)⟩ hends
      · rw [hround]
        exact ih (n + 1) hnext

end Iteration
end Rounds

/-!
## The read
-/

section Read

variable (client : Client) (results : Nat -> PostResult)
variable {maxRecords batchSize : Int}

/-- The answer to `PositionToFirstRecord` fails or says that the log is
empty, or the iteration that it begins has an end. -/
def EndsRead (maxRecords : Int) (position : Nat) : Prop :=
  forall first, firstAnnounced client (results position) = some first ->
    EndsIteration client (fun n => results (position + 1 + n)) maxRecords first

variable {client results}

theorem play_readRecords {pulls position : Nat}
    {properties : MessageLogProperties}
    (hproperties : Script.play (answersOf results) 0
      (getLogProperties client pulls) = (Except.ok properties, position)) :
    (exists x, x ≠ Except.error Failure.waiting ∧
        firstAnnounced client (results position) = none ∧ forall rounds,
          (Script.play (answersOf results) 0
            (readRecords client pulls rounds maxRecords batchSize)).1 = x) ∨
      exists first, firstAnnounced client (results position) = some first ∧
        forall rounds,
          (Script.play (answersOf results) 0
              (readRecords client pulls rounds maxRecords batchSize)).1 =
            readFrom client results properties maxRecords batchSize
              (position + 1) rounds { identifier := first } := by
  have hcall : forall rounds,
      Script.play (answersOf results) 0
          (readRecords client pulls rounds maxRecords batchSize) =
        Script.play (answersOf results) position
          (positionToFirstRecord client >>= fun answer =>
            if answer.2 = 2 then
              pure
                (readOf properties StopReason.noRecordExists false true
                  { identifier := answer.1 })
            else
              readUpTo client properties maxRecords batchSize rounds
                { identifier := answer.1 }) :=
    fun _ => Script.play_bind_ok hproperties
  rcases positionToFirstRecord_call client with ⟨request, _, heq⟩
  have hjudged : Judged client "PositionToFirstRecord" [1, 2]
      (results position)
      (judged client "PositionToFirstRecord" [1, 2] (results position)) :=
    judged_cases [1, 2] (results position)
  rw [heq] at hcall
  simp only [Script.call_bind, Script.play, answersOf] at hcall
  revert hcall hjudged
  generalize judged client "PositionToFirstRecord" [1, 2]
    (results position) = x
  intro hjudged hcall
  cases hjudged with
  | failed e hreached hnone =>
      apply Or.inl
      refine ⟨Except.error e, ?_, ?_, fun rounds => ?_⟩
      · intro h
        cases h
        exact hreached rfl
      · rw [firstAnnounced, hnone]
        rfl
      · rw [hcall]
        rfl
  | tolerated output hgiven hnonzero hknown =>
      have hnone : firstAnnounced client (results position) = none := by
        rw [firstAnnounced, usableOutput_none hgiven hnonzero]
        rfl
      rcases List.mem_cons.mp hknown with hone | htwo
      · rw [hone] at hcall
        refine Or.inl ⟨Except.error (Failure.amt (noIteration client 1)), ?_,
          hnone, fun rounds => ?_⟩
        · intro h
          cases h
        · rw [hcall]
          rfl
      · rw [List.mem_singleton.mp htwo] at hcall
        refine Or.inl ⟨Except.ok
          (readOf properties StopReason.noRecordExists false true
            { identifier := firstIdentifier [] }), ?_, hnone,
          fun rounds => ?_⟩
        · intro h
          cases h
        · rw [hcall]
          rfl
  | usable output hgiven hzero =>
      apply Or.inr
      refine ⟨firstIdentifier output, ?_, fun rounds => ?_⟩
      · rw [firstAnnounced, usableOutput_some hgiven hzero]
        rfl
      · rw [hcall]
        rfl

theorem finishes_behind_failure {pulls position : Nat} {e : Failure}
    (hfailed : Script.play (answersOf results) 0
      (getLogProperties client pulls) = (Except.error e, position)) :
    Finishes (answersOf results) (fun rounds =>
        readRecords client pulls rounds maxRecords batchSize) ↔
      e ≠ Failure.waiting := by
  have hplay : forall rounds,
      Script.play (answersOf results) 0
          (readRecords client pulls rounds maxRecords batchSize) =
        (Except.error e, position) :=
    fun _ => Script.play_bind_error hfailed
  simp only [Finishes, hplay]
  constructor
  · rintro ⟨_, hended⟩ rfl
    exact hended rfl
  · intro hne
    refine ⟨0, fun h => ?_⟩
    cases h
    exact hne rfl

theorem finishes_behind_properties {pulls position : Nat}
    {properties : MessageLogProperties}
    (hproperties : Script.play (answersOf results) 0
      (getLogProperties client pulls) = (Except.ok properties, position)) :
    Finishes (answersOf results) (fun rounds =>
        readRecords client pulls rounds maxRecords batchSize) ↔
      EndsRead client results maxRecords position := by
  simp only [Finishes]
  rcases play_readRecords hproperties with
    ⟨x, hx, hnone, hread⟩ | ⟨first, hfirst, hread⟩
  · constructor
    · intro _ first hfirst
      rw [hnone] at hfirst
      cases hfirst
    · intro _
      refine ⟨0, ?_⟩
      rw [hread]
      exact hx
  · have hstart := reaches_start client
      (fun n => results (position + 1 + n)) maxRecords first
    constructor
    · rintro ⟨rounds, hended⟩ first' hfirst'
      rw [hfirst] at hfirst'
      cases hfirst'
      rw [hread] at hended
      by_contra hends
      exact hended (readFrom_waits properties batchSize (fun _ => rfl) hends
        rounds 0 hstart)
    · intro hends
      rcases hends first hfirst with ⟨last, hlast⟩
      rcases readFrom_finishes properties batchSize (fun _ => rfl) hlast
        last 0 (Nat.zero_add _) hstart with ⟨rounds, hrounds⟩
      refine ⟨rounds, ?_⟩
      rw [hread]
      exact hrounds

/-- The read comes to its end exactly when the read of the properties does
and the iteration behind it has an end. -/
theorem readRecords_finishes_iff (client : Client)
    (results : Nat -> PostResult) (maxRecords batchSize : Int) :
    (exists pulls, Finishes (answersOf results) (fun rounds =>
        readRecords client pulls rounds maxRecords batchSize)) ↔
      exists pulls,
        (Script.play (answersOf results) 0
            (getLogProperties client pulls)).1 ≠
          Except.error Failure.waiting ∧
        forall properties position,
          Script.play (answersOf results) 0 (getLogProperties client pulls) =
              (Except.ok properties, position) ->
            EndsRead client results maxRecords position := by
  apply exists_congr
  intro pulls
  cases hproperties : Script.play (answersOf results) 0
      (getLogProperties client pulls) with
  | mk outcome position =>
  cases outcome with
  | error e =>
      rw [finishes_behind_failure hproperties]
      constructor
      · intro hne
        constructor
        · intro h
          cases h
          exact hne rfl
        · intro _ _ h
          cases h
      · rintro ⟨hended, _⟩ rfl
        exact hended rfl
  | ok properties =>
      rw [finishes_behind_properties hproperties]
      constructor
      · intro hends
        constructor
        · intro h
          cases h
        · intro _ _ hsame
          cases hsame
          exact hends
      · rintro ⟨_, hends⟩
        exact hends properties position rfl

end Read

/-!
## A log that is never at its end
-/

def instanceElement (name : String) (properties : List (String × String)) :
    Element where
  tag := name
  children := properties.map fun property =>
    { tag := property.1, text := some property.2 }

/-- A response with one instance in its body. -/
def instanceResponse (name : String) (properties : List (String × String)) :
    PostResult :=
  PostResult.response (enveloped
    { tag := qualified soapNs "Body"
      children := [instanceElement name properties] })

/-- An answer to `GetRecords` that only says where to go on. -/
def onwards (identifier : String) : PostResult :=
  instanceResponse "GetRecords_OUTPUT"
    [("IterationIdentifier", identifier), ("NoMoreRecords", "false"),
      ("ReturnValue", "0")]

def turns (n : Nat) : PostResult :=
  if n % 2 = 0 then onwards "2" else onwards "1"

/-- The firmware goes on with identifiers that alternate, and delivers no
record. -/
def alternating : Nat -> PostResult
  | 0 => instanceResponse messageLogClass [("CurrentNumberOfRecords", "1")]
  | 1 =>
      instanceResponse "PositionToFirstRecord_OUTPUT"
        [("IterationIdentifier", "1"), ("ReturnValue", "0")]
  | n + 2 => turns n

theorem alternating_properties (pulls : Nat) :
    exists properties, Script.play (answersOf alternating) 0
        (getLogProperties { endpoint := "h:16993" } pulls) =
      (Except.ok properties, 1) := by
  have hget : Script.play (answersOf alternating) 0
      (get { endpoint := "h:16993" } messageLogClass) =
        (Except.ok [("CurrentNumberOfRecords", Value.text "1")], 1) := rfl
  refine ⟨MessageLogProperties.fromInstance
    [("CurrentNumberOfRecords", Value.text "1")], ?_⟩
  have hgot : Script.play (answersOf alternating) 0
      (degrading [] (get { endpoint := "h:16993" } messageLogClass)) =
        (Except.ok [("CurrentNumberOfRecords", Value.text "1")], 1) :=
    Script.play_handle_ok hget
  rw [getLogProperties, Script.play_bind_ok hgot]
  rfl

theorem turns_announced (n : Nat) :
    announced { endpoint := "h:16993" } (turns n) =
      if n % 2 = 0 then some 2 else some 1 := by
  have htwo :
      announced { endpoint := "h:16993" } (onwards "2") = some 2 := by
    decide +kernel
  have hone :
      announced { endpoint := "h:16993" } (onwards "1") = some 1 := by
    decide +kernel
  rw [turns]
  split
  · exact htwo
  · exact hone

theorem turns_delivered (n : Nat) :
    deliveredBy { endpoint := "h:16993" } turns n = 0 := by
  have htwo : delivered { endpoint := "h:16993" } (onwards "2") = [] := by
    decide +kernel
  have hone : delivered { endpoint := "h:16993" } (onwards "1") = [] := by
    decide +kernel
  induction n with
  | zero => rfl
  | succ n ih =>
      rw [deliveredBy, ih, turns]
      split
      · rw [htwo]
        rfl
      · rw [hone]
        rfl

theorem turns_endless :
    ¬ EndsIteration { endpoint := "h:16993" } turns 1 1 := by
  intro hends
  rcases hends with ⟨n, hnone | hsame | henough⟩
  · rw [turns_announced] at hnone
    split at hnone <;> cases hnone
  · cases n with
    | zero =>
        rw [turns_announced] at hsame
        cases hsame
    | succ n =>
        rw [sentIdentifier, turns_announced, turns_announced] at hsame
        split at hsame
        · rw [if_neg (by lia)] at hsame
          cases hsame
        · rw [if_pos (by lia)] at hsame
          cases hsame
  · rw [turns_delivered] at henough
    cases henough

theorem alternating_waits :
    ¬ exists pulls, Finishes (answersOf alternating) (fun rounds =>
      readRecords { endpoint := "h:16993" } pulls rounds 1 390) := by
  have hfirst :
      firstAnnounced { endpoint := "h:16993" } (alternating 1) = some 1 := by
    decide +kernel
  have hturns : forall n, turns n = alternating (1 + 1 + n) := by
    intro n
    rw [Nat.add_comm]
    rfl
  intro hfinishes
  rcases hfinishes with ⟨pulls, rounds, hended⟩
  rcases alternating_properties pulls with ⟨properties, hproperties⟩
  apply hended
  rcases play_readRecords hproperties with
    ⟨_, _, hnone, _⟩ | ⟨first, hsome, hread⟩
  · rw [hfirst] at hnone
    cases hnone
  · rw [hfirst] at hsome
    cases hsome
    dsimp only
    rw [hread]
    exact readFrom_waits properties 390 hturns turns_endless rounds 0
      (reaches_start _ _ 1 1)

end MessageLog
end IntelAmt
