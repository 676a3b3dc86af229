import IntelAmt.Foundation.Streams

/-!
# Deliveries

A string that nobody has cut into chunks yet can be delivered byte by byte.
What a talk does with the string is then what a script does that follows it.
-/

namespace IntelAmt
namespace Foundation
namespace Channel

variable {byte event error alpha op : Type} {answer : op -> Type}

/-- Every operation can be answered without a fault, with any byte when it
waits for bytes, and with none when it does not. -/
structure Serves (channel : Channel byte event op answer) : Prop where
  delivers : forall o b, channel.waits o = true -> exists a : answer o,
    channel.note ⟨o, a⟩ = Note.received [b] ∧ channel.allowed ⟨o, a⟩
  acts : forall o, channel.waits o = false -> exists a : answer o,
    channel.faulty ⟨o, a⟩ = false ∧ channel.bytesIn ⟨o, a⟩ = [] ∧
      channel.allowed ⟨o, a⟩

variable {channel : Channel byte event op answer}

theorem exists_delivery (hserves : channel.Serves)
    (x : Script op answer error alpha) (s : List byte) :
    exists log y unread, Script.After x log y ∧ channel.Clean log ∧
      channel.Allowed log ∧ channel.received log ++ unread = s ∧
      (y.ended = true ∨ exists o next, y = Script.call o next ∧
        channel.waits o = true ∧ unread = []) := by
  induction x generalizing s with
  | returned a =>
      exact ⟨[], _, s, Script.After.here _, channel.clean_nil,
        (fun _ hmem => nomatch hmem), rfl, Or.inl rfl⟩
  | raised e =>
      exact ⟨[], _, s, Script.After.here _, channel.clean_nil,
        (fun _ hmem => nomatch hmem), rfl, Or.inl rfl⟩
  | call o next ih =>
      cases hwaits : channel.waits o with
      | true =>
          cases s with
          | nil =>
              exact ⟨[], _, [], Script.After.here _, channel.clean_nil,
                (fun _ hmem => nomatch hmem), rfl,
                Or.inr ⟨o, next, rfl, hwaits, rfl⟩⟩
          | cons b s =>
              rcases hserves.delivers o b hwaits with ⟨a, hnote, hallowed⟩
              rcases ih a s with
                ⟨log, y, unread, hafter, hclean, hall, hwhole, hend⟩
              refine ⟨⟨o, a⟩ :: log, y, unread, Script.After.call hafter, ?_,
                ?_, ?_, hend⟩
              · rw [clean_cons, faulty, hnote]
                exact ⟨rfl, hclean⟩
              · exact List.forall_mem_cons.mpr ⟨hallowed, hall⟩
              · rw [received_cons, bytesIn, hnote, ← hwhole]
                rfl
      | false =>
          rcases hserves.acts o hwaits with ⟨a, hfault, hbytes, hallowed⟩
          rcases ih a s with
            ⟨log, y, unread, hafter, hclean, hall, hwhole, hend⟩
          refine ⟨⟨o, a⟩ :: log, y, unread, Script.After.call hafter, ?_, ?_,
            ?_, hend⟩
          · rw [clean_cons]
            exact ⟨hfault, hclean⟩
          · exact List.forall_mem_cons.mpr ⟨hallowed, hall⟩
          · rw [received_cons, hbytes]
            exact hwhole

/-- Whatever a talk does with a string, a script that follows it does in one
of its runs. -/
theorem follows_delivered (hserves : channel.Serves)
    {expected : error -> Prop} {p : Talk byte event error alpha}
    {x : Buffered byte op answer error alpha} {buffer : List byte}
    (h : channel.Follows expected x p buffer) (s : List byte) :
    exists log y, Script.After (x buffer) log y ∧ channel.Clean log ∧
      channel.Allowed log ∧ channel.received log <+: s ∧
      channel.events log = (p (buffer ++ s)).1 ∧
      forall e, (p (buffer ++ s)).2 = Outcome.failed e ->
        y = Script.raised e := by
  rcases exists_delivery hserves (x buffer) s with
    ⟨log, y, unread, hafter, hclean, hallowed, hwhole, hend⟩
  have hstring : buffer ++ channel.received log ++ unread = buffer ++ s := by
    rw [List.append_assoc, hwhole]
  have hheard := h log y hallowed hafter
  refine ⟨log, y, hafter, hclean, hallowed, ⟨unread, hwhole⟩, ?_⟩
  cases y with
  | returned r =>
      have hthis := hheard.2 unread
      rw [hstring] at hthis
      rw [hthis]
      exact ⟨rfl, fun e he => nomatch he⟩
  | raised e =>
      rcases hheard with ⟨_, hfailed⟩ | ⟨hnot, _⟩
      · have hthis := hfailed unread
        rw [hstring] at hthis
        rw [hthis]
        refine ⟨rfl, fun e' he => ?_⟩
        cases he
        rfl
      · exact absurd hclean hnot
  | call o next =>
      rcases hend with hended | ⟨o', next', hy, hwaits, hunread⟩
      · cases hended
      · cases hy
        have hthis := hheard.2.2 hwaits
        rw [hunread, List.append_nil] at hstring
        rw [← hstring, hthis]
        exact ⟨rfl, fun e he => nomatch he⟩

end Channel
end Foundation
end IntelAmt
