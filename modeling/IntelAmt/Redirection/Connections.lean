import IntelAmt.Redirection.Conversation

/-!
# Runs of `connect`

In front of the handshake nothing is sent and nothing is received.  From then
on a run is where the talk says, with the one cnonce that is drawn in it.
-/

namespace IntelAmt
namespace Redirection

open Foundation

variable {hashes : Hashes} {session : RedirectionSession}
variable {cnonce : List Char} {log opening : List (Exchange SocketAnswer)}

/-!
## The connection
-/

/-- What is done to a socket before the first byte of the protocol. -/
def Opens : SocketOp -> Prop
  | SocketOp.createConnection _ _ _ => True
  | SocketOp.wrapSocket _ => True
  | SocketOp.close => True
  | SocketOp.getPeerCert => True
  | SocketOp.sendAll _ => False
  | SocketOp.recv _ => False
  | SocketOp.tokenHex _ => False

theorem socketFactory_uses (session : RedirectionSession) :
    Script.Uses Opens (socketFactory session) := by
  refine ⟨trivial, fun connecting => ?_⟩
  cases connecting with
  | connected =>
      change Script.Uses Opens (ite _ _ _)
      split
      · refine ⟨trivial, fun wrapping => ?_⟩
        cases wrapping with
        | wrapped => trivial
        | sslError reason => exact ⟨trivial, fun _ => trivial⟩
        | failed => trivial
      · trivial
  | timeout => trivial
  | failed reason => trivial

theorem verifyTlsPin_uses (hashes : Hashes) (session : RedirectionSession)
    (pin : List Char) :
    Script.Uses Opens (verifyTlsPin hashes session pin) := by
  rw [verifyTlsPin, Script.ask_bind]
  refine ⟨trivial, fun der => ?_⟩
  dsimp only
  split
  · trivial
  · split <;> trivial

theorem openSocket_uses (hashes : Hashes) (session : RedirectionSession) :
    Script.Uses Opens (openSocket hashes session) := by
  refine Script.uses_bind (socketFactory_uses session) fun _ => ?_
  split
  · split
    · exact verifyTlsPin_uses hashes session _
    · trivial
  · trivial

theorem quiet_of_opens {exchange : Exchange SocketAnswer}
    (h : Opens exchange.1) :
    chunkOf exchange = [] ∧ frameOf exchange = none ∧
      isDraw exchange.1 = false := by
  rcases exchange with ⟨o, a⟩
  cases o with
  | createConnection _ _ _ => exact ⟨rfl, rfl, rfl⟩
  | wrapSocket _ => exact ⟨rfl, rfl, rfl⟩
  | close => exact ⟨rfl, rfl, rfl⟩
  | getPeerCert => exact ⟨rfl, rfl, rfl⟩
  | sendAll _ => exact h.elim
  | recv _ => exact h.elim
  | tokenHex _ => exact h.elim

theorem opening_quiet {x : SocketScript Unit}
    (h : Script.After (openSocket hashes session) opening x) :
    peerBytes opening = [] ∧ sentFrames opening = [] ∧
      ¬ HasDrawn opening := by
  have huses := Script.after_uses (openSocket_uses hashes session) h
  refine ⟨?_, ?_, ?_⟩
  · exact List.flatMap_eq_nil_iff.mpr fun exchange hmem =>
      (quiet_of_opens (huses exchange hmem)).1
  · exact List.filterMap_eq_nil_iff.mpr fun exchange hmem =>
      (quiet_of_opens (huses exchange hmem)).2.1
  · rintro ⟨exchange, hmem, hdraw⟩
    rw [(quiet_of_opens (huses exchange hmem)).2.2] at hdraw
    cases hdraw

/-!
## What a handshake asks for
-/

/-- The step asks for nothing else. -/
def OnlyAsks (allowed : SocketOp -> Prop) {alpha : Type} (x : SessionM alpha) :
    Prop :=
  forall buffer, Script.Uses allowed (x buffer)

/-- Frames may be sent and bytes received. -/
structure Converses (allowed : SocketOp -> Prop) : Prop where
  sends : forall frame, allowed (SocketOp.sendAll frame)
  receives : forall size, allowed (SocketOp.recv size)

section Steps

variable {alpha beta : Type} {x : SessionM alpha} {f : alpha -> SessionM beta}
variable {allowed : SocketOp -> Prop}

theorem onlyAsks_bind (hx : OnlyAsks allowed x)
    (hf : forall a, OnlyAsks allowed (f a)) : OnlyAsks allowed (x >>= f) :=
  fun buffer => Script.uses_bind (hx buffer) fun r => hf r.1 r.2

theorem ofExcept_asks (result : Except Failure alpha) :
    OnlyAsks allowed (ofExcept result) := by
  intro buffer
  cases result <;> trivial

theorem send_asks (h : Converses allowed) (frame : Bytes) :
    OnlyAsks allowed (send session frame) := by
  intro buffer
  refine ⟨h.sends frame, fun sending => ?_⟩
  cases sending <;> trivial

theorem fillUpTo_asks (h : Converses allowed) (minBytes rounds : Nat) :
    OnlyAsks allowed (fillUpTo session minBytes rounds) := by
  induction rounds with
  | zero =>
      intro buffer
      unfold fillUpTo
      split <;> trivial
  | succ rounds ih =>
      intro buffer
      unfold fillUpTo
      split
      · trivial
      · refine ⟨h.receives recvChunk, fun receiving => ?_⟩
        dsimp only
        split
        · trivial
        · exact ih _

theorem fill_asks (h : Converses allowed) (minBytes : Nat) :
    OnlyAsks allowed (fill session minBytes) :=
  fun buffer => fillUpTo_asks h minBytes _ buffer

theorem readStartSessionReply_asks (h : Converses allowed) :
    OnlyAsks allowed (readStartSessionReply session) := by
  refine onlyAsks_bind (fill_asks h 13) fun _ => ?_
  refine onlyAsks_bind (fun _ => trivial) fun buffer => ?_
  split
  · exact fun _ => trivial
  · split
    · exact fun _ => trivial
    · exact onlyAsks_bind (fill_asks h _) fun _ _ => trivial

theorem readAuthReply_asks (h : Converses allowed) :
    OnlyAsks allowed (readAuthReply session) := by
  refine onlyAsks_bind (fill_asks h 9) fun _ => ?_
  refine onlyAsks_bind (fun _ => trivial) fun buffer => ?_
  split
  · exact fun _ => trivial
  · refine onlyAsks_bind (fill_asks h _) fun _ => ?_
    refine onlyAsks_bind (fun _ => trivial) fun filled => ?_
    exact onlyAsks_bind (fun _ => trivial) fun _ _ => trivial

theorem decidingReply_asks (h : Converses allowed) (first : AuthReply) :
    OnlyAsks allowed (decidingReply session first) := by
  unfold decidingReply
  split
  · split
    · exact fun _ => trivial
    · refine onlyAsks_bind (ofExcept_asks _) fun query => ?_
      exact onlyAsks_bind (send_asks h query) fun _ => readAuthReply_asks h
  · exact fun _ => trivial

theorem handshake_asks (h : Converses allowed)
    (hdraws : forall size, allowed (SocketOp.tokenHex size)) :
    OnlyAsks allowed (handshake hashes session) := by
  have hsettle : forall reply,
      OnlyAsks allowed (settleReply hashes session reply) := by
    intro reply
    unfold settleReply
    split
    · exact fun _ => trivial
    · split
      · refine onlyAsks_bind (ofExcept_asks _) fun challenge => ?_
        refine onlyAsks_bind ?_ fun response => ?_
        · exact onlyAsks_bind (fun _ => ⟨hdraws 16, fun _ => trivial⟩)
            fun cnonce => ofExcept_asks _
        · exact onlyAsks_bind (send_asks h response) fun _ =>
            readAuthReply_asks h
      · exact fun _ => trivial
  refine onlyAsks_bind (send_asks h _) fun _ => ?_
  refine onlyAsks_bind (readStartSessionReply_asks h) fun _ => ?_
  refine onlyAsks_bind (send_asks h _) fun _ => ?_
  refine onlyAsks_bind (readAuthReply_asks h) fun first => ?_
  refine onlyAsks_bind (decidingReply_asks h first) fun reply => ?_
  refine onlyAsks_bind (hsettle reply) fun last => ?_
  split
  · exact fun _ => trivial
  · exact fun _ => trivial

end Steps

/-!
## One cnonce
-/

def DrawsNothing (o : SocketOp) : Prop := isDraw o = false

theorem converses_drawsNothing : Converses DrawsNothing :=
  ⟨fun _ => rfl, fun _ => rfl⟩

/-- The step draws once at most. -/
def DrawsOnce {alpha : Type} (x : SessionM alpha) : Prop :=
  forall buffer, Script.AsksAtMost isDraw 1 (x buffer)

section Draws

variable {alpha beta : Type} {x : SessionM alpha} {f : alpha -> SessionM beta}

theorem drawsOnce_then (hx : DrawsOnce x)
    (hf : forall a, OnlyAsks DrawsNothing (f a)) : DrawsOnce (x >>= f) :=
  fun buffer => Script.asksAtMost_bind (hx buffer) fun r =>
    Script.asksAtMost_of_uses (hf r.1 r.2)

theorem drawsOnce_bind (hx : OnlyAsks DrawsNothing x)
    (hf : forall a, DrawsOnce (f a)) : DrawsOnce (x >>= f) := by
  intro buffer
  have h := Script.asksAtMost_bind (Script.asksAtMost_of_uses (hx buffer))
    fun r => hf r.1 r.2
  rw [Nat.zero_add] at h
  exact h

end Draws

theorem answerChallenge_drawsOnce (authData : Bytes) :
    DrawsOnce (answerChallenge hashes session authData) := by
  have hsilent := converses_drawsNothing
  refine drawsOnce_bind (ofExcept_asks _) fun challenge => ?_
  refine drawsOnce_then ?_ fun response => ?_
  · refine drawsOnce_then ?_ fun cnonce => ofExcept_asks _
    exact fun _ => ⟨0, Nat.le_refl 1, fun _ => trivial⟩
  · exact onlyAsks_bind (send_asks hsilent response) fun _ =>
      readAuthReply_asks hsilent

theorem settleReply_drawsOnce (reply : AuthReply) :
    DrawsOnce (settleReply hashes session reply) := by
  unfold settleReply
  split
  · exact fun _ => trivial
  · split
    · exact answerChallenge_drawsOnce _
    · exact fun _ => trivial

theorem handshake_drawsOnce : DrawsOnce (handshake hashes session) := by
  have hsilent := converses_drawsNothing
  refine drawsOnce_bind (send_asks hsilent _) fun _ => ?_
  refine drawsOnce_bind (readStartSessionReply_asks hsilent) fun _ => ?_
  refine drawsOnce_bind (send_asks hsilent _) fun _ => ?_
  refine drawsOnce_bind (readAuthReply_asks hsilent) fun first => ?_
  refine drawsOnce_bind (decidingReply_asks hsilent first) fun reply => ?_
  refine drawsOnce_then (settleReply_drawsOnce reply) fun last => ?_
  split
  · exact fun _ => trivial
  · exact fun _ => trivial

theorem draws_of_not {exchange : Exchange SocketAnswer}
    (h : isDraw exchange.1 = false) : Draws cnonce exchange := by
  rcases exchange with ⟨o, a⟩
  cases o with
  | tokenHex size => cases h
  | _ => trivial

theorem exists_cnonce {x : SocketScript (Unit × Bytes)}
    (h : Script.After (handshake hashes session []) log x) :
    exists cnonce, (wire cnonce).Allowed log := by
  rcases Script.after_asksAtMost_one (handshake_drawsOnce []) h with
    hnone | ⟨before, ⟨o, a⟩, after, hlog, hdraw, hbefore, hafter⟩
  · exact ⟨[], fun exchange hmem => draws_of_not (hnone exchange hmem)⟩
  · cases o with
    | tokenHex size =>
        refine ⟨a, fun exchange hmem => ?_⟩
        rw [hlog, List.mem_append, List.mem_cons] at hmem
        rcases hmem with hmem | heq | hmem
        · exact draws_of_not (hbefore exchange hmem)
        · rw [heq]
          rfl
        · exact draws_of_not (hafter exchange hmem)
    | createConnection _ _ _ => cases hdraw
    | wrapSocket _ => cases hdraw
    | close => cases hdraw
    | getPeerCert => cases hdraw
    | sendAll _ => cases hdraw
    | recv _ => cases hdraw

/-!
## Where a run is
-/

/-- What `connect` makes of its handshake. -/
def ended (x : SocketScript (Unit × Bytes)) : SocketScript Bytes :=
  x >>= fun r => pure r.2

/-- A run is opening its socket, or it has begun with the handshake. -/
theorem connect_cases {y : SocketScript Bytes}
    (h : Script.After (connect hashes session) log y) :
    (exists x, Script.After (openSocket hashes session) log x ∧
      x ≠ Script.returned () ∧
      y = x >>= fun _ => ended (handshake hashes session [])) ∨
    exists opening rest x, log = opening ++ rest ∧
      Script.After (openSocket hashes session) opening (Script.returned ()) ∧
      Script.After (handshake hashes session []) rest x ∧ y = ended x := by
  have hinside : forall {rest : List (Exchange SocketAnswer)}
      {z : SocketScript Bytes},
      Script.After (ended (handshake hashes session [])) rest z ->
      exists x, Script.After (handshake hashes session []) rest x ∧
        z = ended x := by
    intro rest z hz
    rcases Script.after_bind hz with
      ⟨x, hx, hz⟩ | ⟨first, last, r, hrest, hfirst, hlast⟩
    · exact ⟨x, hx, hz⟩
    · rcases Script.after_returned hlast with ⟨hnil, hz⟩
      rw [hnil, List.append_nil] at hrest
      rw [hrest]
      exact ⟨Script.returned r, hfirst, hz⟩
  rcases Script.after_bind h with
    ⟨x, hx, hy⟩ | ⟨opening, rest, _, hlog, hopening, hrest⟩
  · by_cases hdone : x = Script.returned ()
    · rw [hdone] at hx hy
      refine Or.inr ⟨log, [], handshake hashes session [],
        (List.append_nil log).symm, hx, Script.After.here _, hy⟩
    · exact Or.inl ⟨x, hx, hdone, hy⟩
  · rcases hinside hrest with ⟨x, hx, hy⟩
    exact Or.inr ⟨opening, rest, x, hlog, hopening, hx, hy⟩

end Redirection
end IntelAmt
