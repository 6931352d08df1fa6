import PqsecDds.CycloneDDS.Integrity

/-!
# Assertions

`begin_handshake_request`, `begin_handshake_reply` and `process_handshake` assume more than they check. Of what they
assume, the store keeps most: the challenges, the certificate that a token was verified with, the numbers of tokens,
the kinds of the algorithms. It does not keep that the two identities were validated against each other, nor that a
handshake is new when a Request is answered.

| condition | where the source relies on it |
|---|---|
| the pair is linked | `assert(relation)`, authentication.c:1442-1453 and 2544-2553 |
| the own certificate can be written | `certData` is freed although it was never set, authentication.c:1405-1410 and 1606 |
| the handshake is not stale | `assert(binary_property_kem_public)`, authentication.c:2677 |
-/

namespace PqsecDds.CycloneDDS

open Lib

variable {κ ρ : Type} {env : Env κ ρ} {amb : Ambient ρ} {s : Authentication κ} {l r h : Handle} {inp : Token}
variable {pdata : Octets}

theorem Returns.of_stops {α : Type} {x : Call κ α} (h : Act.StopsWith (fun e => ∃ ex, e = .failed ex) x s) :
    Returns x s := by
  intro f hrun
  obtain ⟨ex, he⟩ := h _ hrun
  cases he

def RequestReady (env : Env κ ρ) (s : Authentication κ) (l r : Handle) : Prop :=
  ∀ identity, s.localIdentity l = some identity → (s.remoteIdentity r).isSome →
    (env.pemWriteX509 identity.identityCert).isSome ∧ (s.findIdentityRelation l r).isSome

def ReplyReady (env : Env κ ρ) (amb : Ambient ρ) (s : Authentication κ) (inp : Token) (l r : Handle) : Prop :=
  (s.localIdentity l).isSome → (s.remoteIdentity r).isSome →
    (s.findIdentityRelation l r).isSome ∧ ¬ StaleFor env amb s inp l r

/-! ## What happens without the conditions -/

section Faults

variable {identity : LocalIdentityInfo} {remote : RemoteIdentityInfo}

theorem onHandshake_unlinked {α : Type} {x : HandshakeCall κ α} {step : CreatedHandshakeStep} (hG : s.graph.Sound)
    (hlink : s.findIdentityRelation l r = none) : onHandshake amb l r step x s = (.error (.fault .assertion), s) := by
  have hfind := findHandshake_eq_none hG hlink
  simp [onHandshake, handshakeFor, bind, Act.bind, Act.read, Act.demand, hfind, hlink, need]

theorem beginHandshakeRequest_unwritten (hl : s.localIdentity l = some identity) (hr : s.remoteIdentity r = some remote)
    (hpem : env.pemWriteX509 identity.identityCert = none) :
    beginHandshakeRequest env amb l r pdata s = (.error (.fault .uninitialised), s) := by
  simp [beginHandshakeRequest, getCertificateContents, bind, Act.bind, Act.demand, Act.lift, hl, hr, hpem, need,
    Except.mapError]

theorem beginHandshakeRequest_unlinked (hG : s.graph.Sound) {certData : Octets}
    (hl : s.localIdentity l = some identity) (hr : s.remoteIdentity r = some remote)
    (hpem : env.pemWriteX509 identity.identityCert = some certData) (hlink : s.findIdentityRelation l r = none) :
    beginHandshakeRequest env amb l r pdata s = (.error (.fault .assertion), s) := by
  have hon : onHandshake amb l r .createdRequest (makeRequest env amb s.includeOptional certData pdata) s =
      (.error (.fault .assertion), s) := onHandshake_unlinked hG hlink
  simp [beginHandshakeRequest, getCertificateContents, bind, Act.bind, Act.demand, Act.lift, Act.read, hl, hr, hpem,
    need, Except.mapError, hon]

theorem beginHandshakeReply_eq (hpdata : pdata ≠ []) (hl : s.localIdentity l = some identity)
    (hr : s.remoteIdentity r = some remote) :
    beginHandshakeReply env amb inp r l pdata s =
      onHandshake amb l r .createdReply (makeReply env amb s.includeOptional s.trustedCaList inp pdata) s := by
  simp [beginHandshakeReply, bind, Act.bind, Act.demand, check, Act.lift, Act.read, require, hl, hr, hpdata, need,
    Except.mapError]

/-- The handshake that is found for a pair is the one whose objects are known. -/
theorem findHandshake_of_context {c : Context κ} (hG : s.graph.Sound) (hc : s.context h = some c) :
    s.findHandshake c.relation.localIdentity c.relation.remoteIdentity = some h := by
  obtain ⟨hh, hp⟩ := context_eq_some.1 hc
  have hlink : s.findIdentityRelation c.relation.localIdentity c.relation.remoteIdentity = some c.handshake.relation :=
    (hG.link _ _ _).2 (by simp [Authentication.graph, hp.relation])
  exact (findHandshake_iff hG hlink).2 (by simp [Authentication.graph, hh])

theorem beginHandshakeReply_stale (hG : s.graph.Sound) (hpdata : pdata ≠ []) (hstale : StaleFor env amb s inp l r) :
    (beginHandshakeReply env amb inp r l pdata s).1 = .error (.fault .uninitialised) := by
  obtain ⟨h, c, hc, rfl, rfl, hstale⟩ := hstale
  have hp := (context_eq_some.1 hc).2
  obtain ⟨c', hrun⟩ : ∃ c', makeReply env amb s.includeOptional s.trustedCaList inp pdata c =
      (.error (.fault .uninitialised), c') := makeReply_stale hstale
  rw [beginHandshakeReply_eq hpdata hp.localIdentity hp.remoteIdentity]
  simp [onHandshake, handshakeFor, bind, Act.bind, Act.read, pure, findHandshake_of_context hG hc, Act.onStop,
    withContext, Act.zoom, hc, need, hrun]

end Faults

/-! ## Every reachable state -/

theorem beginHandshakeRequest_returns_iff (ha : Allocates amb s) (hs : Referential s) :
    Returns (beginHandshakeRequest env amb l r pdata) s ↔ RequestReady env s l r := by
  constructor
  · intro hret identity hl hr
    obtain ⟨remote, hr⟩ := Option.isSome_iff_exists.1 hr
    rcases hpem : env.pemWriteX509 identity.identityCert with _ | certData
    · exact absurd (congrArg Prod.fst (beginHandshakeRequest_unwritten hl hr hpem)) (hret _)
    rcases hlink : s.findIdentityRelation l r with _ | a
    · exact absurd (congrArg Prod.fst (beginHandshakeRequest_unlinked hs.sound hl hr hpem hlink)) (hret _)
    exact ⟨rfl, rfl⟩
  · intro hready
    refine .of_stops (beginHandshakeRequest_stops (fun ex => ⟨ex, rfl⟩) ha hs ?_ ?_)
    · exact fun identity hl hr => .inr (hready identity hl hr).1
    · intro hl hr
      obtain ⟨identity, hl⟩ := Option.isSome_iff_exists.1 hl
      exact .inr (hready identity hl hr).2

theorem beginHandshakeReply_returns_iff (ha : Allocates amb s) (hs : Referential s) :
    Returns (beginHandshakeReply env amb inp r l pdata) s ↔ (pdata ≠ [] → ReplyReady env amb s inp l r) := by
  constructor
  · intro hret hpdata hl hr
    obtain ⟨identity, hl⟩ := Option.isSome_iff_exists.1 hl
    obtain ⟨remote, hr⟩ := Option.isSome_iff_exists.1 hr
    constructor
    · rcases hlink : s.findIdentityRelation l r with _ | a
      · have hrun : beginHandshakeReply env amb inp r l pdata s = (.error (.fault .assertion), s) := by
          rw [beginHandshakeReply_eq hpdata hl hr, onHandshake_unlinked hs.sound hlink]
        exact absurd (congrArg Prod.fst hrun) (hret _)
      · rfl
    · intro hstale
      exact hret _ (beginHandshakeReply_stale hs.sound hpdata hstale)
  · intro hready
    refine .of_stops (beginHandshakeReply_stops (fun ex => ⟨ex, rfl⟩) ha hs ?_ ?_)
    · exact fun hpdata hl hr => .inr (hready hpdata hl hr).1
    · intro hpdata
      by_cases hlive : (s.localIdentity l).isSome ∧ (s.remoteIdentity r).isSome
      · exact .inr (hready hpdata hlive.1 hlive.2).2
      · right
        rintro ⟨h, c, hc, rfl, rfl, -⟩
        have hp := (context_eq_some.1 hc).2
        exact hlive ⟨by rw [hp.localIdentity]; rfl, by rw [hp.remoteIdentity]; rfl⟩

/-- **Which handshake calls return.** In every reachable state, `process_handshake` always does; the other two do
exactly if the identities, where both are live, were validated against each other, the own certificate can be written,
and the handshake of the pair does not hold the answer to an earlier Request. -/
theorem handshake_calls_return {tr : Trace (Authentication κ) (Op × Ambient ρ)} (hr : Run (plugin env).solo tr s)
    (ha : Allocates amb s) :
    (∀ l r pdata, Returns (beginHandshakeRequest env amb l r pdata) s ↔ RequestReady env s l r) ∧
      (∀ inp l r pdata, Returns (beginHandshakeReply env amb inp r l pdata) s ↔
        (pdata ≠ [] → ReplyReady env amb s inp l r)) ∧
      ∀ inp h, Returns (processHandshake env amb inp h) s := by
  have hs := run_referential hr
  refine ⟨fun l r pdata => beginHandshakeRequest_returns_iff ha hs, fun inp l r pdata =>
    beginHandshakeReply_returns_iff ha hs, fun inp h => ?_⟩
  exact .of_stops (processHandshake_stops (fun ex => ⟨ex, rfl⟩) hs)

theorem handshake_calls_return_sample :
    Returns (beginHandshakeRequest Ideal.env (Ideal.ambient 10) 1 2 (Ideal.pdata 3)) (Ideal.after Ideal.start Ideal.aliceCalls) := by
  refine ((handshake_calls_return (Ideal.calls_run true .mlKem512 Ideal.aliceCalls) ?_).1 1 2 _).2 ?_
  · decide +kernel
  · intro identity hl hr
    refine ⟨rfl, ?_⟩
    decide +kernel

/-! ## A second local identity, and a second Request -/

namespace Ideal

/-- The participant 7 becomes the second local identity, with the handle 20; it was not validated against 5. -/
def strangerCalls : List SampleCall := aliceCalls ++ [(.validateLocalIdentity (qos 7) (candidate 7), ambient 20)]

end Ideal

/-- Both `assert`s are reached from live handles. -/
theorem handshake_calls_return_fails :
    (¬ ∀ tr s amb l r pdata, Run (plugin Ideal.env).solo tr s → Allocates amb s → (s.localIdentity l).isSome →
        (s.remoteIdentity r).isSome → Returns (beginHandshakeRequest Ideal.env amb l r pdata) s) ∧
      ¬ ∀ tr s amb inp l r pdata, Run (plugin Ideal.env).solo tr s → Allocates amb s → (s.localIdentity l).isSome →
        (s.remoteIdentity r).isSome → Returns (beginHandshakeReply Ideal.env amb inp r l pdata) s := by
  constructor
  · intro h
    have hrun := h _ _ (Ideal.ambient 21) 20 2 (Ideal.pdata 7) (Ideal.calls_run true .mlKem512 Ideal.strangerCalls)
    revert hrun
    decide +kernel
  · intro h
    have hrun := h _ _ (Ideal.ambient 21) Ideal.request 1 2 (Ideal.pdata 5)
      (Ideal.calls_run true .mlKem512 (Ideal.bobCalls ++ [Ideal.replyCall 10 Ideal.request 5]))
    revert hrun
    decide +kernel

end PqsecDds.CycloneDDS
