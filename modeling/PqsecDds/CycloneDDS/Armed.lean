import PqsecDds.Lib.Since
import PqsecDds.CycloneDDS.PeerCredentials
import PqsecDds.CycloneDDS.Revocation

/-!
# Which triggers are armed

A local identity is watched from the call that makes it. A remote identity is watched from the first accepted token that
brings a certificate which expires, and again from the first such token after its trigger has gone off. A trigger stays
as it was armed until it goes off or its identity is returned: no later token moves it, takes it away or arms another
one for the same identity (`trigger_armed_iff`).
-/

namespace PqsecDds.CycloneDDS

open Lib

variable {κ ρ : Type} {env : Env κ ρ} {amb : Ambient ρ} {s s' : Authentication κ} {x : Handle} {op : Op}
variable {t : Nat} {due : Int}

/-- The call arms the trigger `t` for the identity `x`. -/
inductive Arms (env : Env κ ρ) : Nat → Handle → Int → Authentication κ × Op × Ambient ρ → Prop
  | localMade {s s' : Authentication κ} {amb : Ambient ρ} {qos : Qos} {candidate guid : Guid} {identity : LocalIdentityInfo}
      (ha : Allocates amb s) (run : validateLocalIdentity env amb qos candidate s = (.ok (amb.object, guid), s'))
      (made : s'.localIdentity amb.object = some identity)
      (expires : getCertificateExpiry amb identity.identityCert ≠ ddsNever) :
      Arms env amb.timer amb.object (getCertificateExpiry amb identity.identityCert)
        (s, .validateLocalIdentity qos candidate, amb)
  | accepted {s s' : Authentication κ} {amb : Ambient ρ} {m : Token} {h : Handle} {result : HandshakeResult}
      {c : Context κ} {cert : X509} (ha : Allocates amb s) (run : processHandshake env amb m h s = (.ok result, s'))
      (context : s.context h = some c) (authenticated : c.peerCertificate env m = some cert)
      (expires : getCertificateExpiry amb cert ≠ ddsNever) (idle : s.Unwatched c.relation.remoteIdentity) :
      Arms env amb.timer c.relation.remoteIdentity (getCertificateExpiry amb cert) (s, .processHandshake m h, amb)

/-- The trigger `t` goes off, or the identity `x` is returned. -/
def Ends (t : Nat) (x : Handle) (e : Authentication κ × Op × Ambient ρ) : Prop :=
  Allocates e.2.2 e.1 ∧ (e.2.1 = .validityCallback t ∨ e.2.1 = .returnIdentityHandle x)

/-! ## Calls that arm a trigger -/

theorem armed_of_arms (hT : s.TimersMatch) (harms : Arms env t x due (s, op, amb)) :
    (exec env s (op, amb)).1.dispatcher.lookup t = some (x, due) := by
  cases harms with
  | @localMade _ s' _ qos candidate guid identity ha run made expires =>
    have hcall : Op.call env amb (.validateLocalIdentity qos candidate) s = (.ok [], s') := by
      simp only [Op.call, bind, Act.bind, run]
      rfl
    rw [exec_ok ha hcall]
    rcases validateLocalIdentity_cases ha run with ⟨e, he, -⟩ | ⟨identity', certExpiry, -, hmade⟩
    · cases he
    · have hid : identity' = identity := by
        have hput := hmade.put.localIdentity amb.object
        rw [if_pos rfl, made] at hput
        exact (Option.some.inj hput).symm
      subst hid
      have hd := hmade.dispatcher
      rw [identityOf_expiry hmade.loaded, if_neg expires] at hd
      rw [hd, AList.lookup_insert]
  | @accepted _ s' _ m h result c cert ha run context authenticated expires idle =>
    rw [exec_processHandshake ha run]
    rcases processHandshake_cases run (by simp) with ⟨⟨e, he⟩, -⟩ | ⟨c', c₁, rx, hres, hon⟩
    · cases he
    · obtain rfl := Option.some.inj (context.symm.trans (context_eq_some.2 ⟨hon.handshake, hon.points⟩))
      rcases rx with e | ⟨v, certExp⟩
      · cases hres
      · have hframe : c.Frame c₁ := processToken_frame.result hon.run
        obtain ⟨cert', hpeer, -, rfl⟩ := processToken_certificate hon.run
        obtain rfl := Option.some.inj (authenticated.symm.trans hpeer)
        have htimer : c₁.remoteIdentity.timer = 0 := by
          by_contra hne
          obtain ⟨due, harmed⟩ := (hT _ c.relation.remoteIdentity).2 ⟨hne, by
            rw [timerOf_remoteIdentity hon.points.remoteIdentity, (frame_timers hframe).2]⟩
          exact idle _ _ harmed
        have hd := (hon.ok _ _ rfl).2
        rw [watchedTriggers, if_pos ⟨expires, htimer⟩, hframe.remoteHandle] at hd
        rw [hd, AList.lookup_insert]

/-- Nothing else arms a trigger. -/
theorem arms_of_armed (hT : s.TimersMatch) (harmed : (exec env s (op, amb)).1.dispatcher.lookup t = some (x, due)) :
    s.dispatcher.lookup t = some (x, due) ∨ Arms env t x due (s, op, amb) := by
  rcases exec_call env s op amb with hsame | ⟨-, res, hrun, hok⟩
  · rw [hsame] at harmed
    exact .inl harmed
  have he : Effect env amb s op (exec env s (op, amb)).1 := exec_effect s op amb
  rcases he.trigger_new harmed with hold | ⟨rfl, hexpires, ha, ⟨qos, candidate, identity, rfl, rfl, hmade⟩ |
    ⟨m, h, c, c', v, rfl, rfl, htimer, hon⟩⟩
  · exact .inl hold
  · obtain ⟨rx, hx, -⟩ := Act.bind_pure_eq.1 hrun
    rcases validateLocalIdentity_cases ha hx with ⟨e, -, -, hs | ⟨cas, -, hs⟩⟩ | ⟨_, _, rfl, -⟩
    · rw [hs] at harmed
      exact .inl harmed
    · rw [hs] at harmed
      exact .inl harmed
    · right
      have hdue := identityOf_expiry hmade.loaded
      rw [hdue] at hexpires ⊢
      refine .localMade ha hx ?_ hexpires
      rw [hmade.put.localIdentity, if_pos rfl]
  · obtain ⟨rx, hx, rfl⟩ := Act.bind_pure_eq.1 hrun
    rcases processHandshake_cases hx (map_ne_fault hok) with ⟨-, hs, -⟩ | ⟨c₁, c₁', rx₁, rfl, hon₁⟩
    · rw [hs] at harmed
      exact .inl harmed
    · right
      have hc := context_eq_some.2 ⟨hon.handshake, hon.points⟩
      obtain rfl := Option.some.inj (hc.symm.trans (context_eq_some.2 ⟨hon₁.handshake, hon₁.points⟩))
      obtain ⟨rfl, -⟩ := Prod.mk.inj (hon₁.run.symm.trans hon.run)
      obtain ⟨cert, hpeer, -, rfl⟩ := processToken_certificate hon.run
      refine .accepted ha hx hc hpeer hexpires fun t due => hT.unarmed (.inr ?_)
      rw [timerOf_remoteIdentity hon.points.remoteIdentity, htimer]

/-! ## Calls that end one -/

theorem exec_returnIdentityHandle (env : Env κ ρ) (ha : Allocates amb s) (hs : Orderly s) (hx : s.timerOf x = some t) :
    (exec env s (.returnIdentityHandle x, amb)).1 = (returnIdentityHandle x s).2 := by
  obtain ⟨obj, hinfo⟩ := Option.isSome_iff_exists.1 (getIdentityInfo_isSome hx)
  obtain ⟨hobj, hid⟩ := Option.filter_eq_some_iff.1 hinfo
  have hne : x ≠ 0 := by
    rintro rfl
    rw [hs.nil] at hobj
    cases hobj
  have hrun := returnIdentityHandle_ok hne hobj (Option.isNone_iff_eq_none.1 hid)
  have hcall : Op.call env amb (.returnIdentityHandle x) s = (.ok [], s.returnIdentity x obj) := by
    simp only [Op.call, bind, Act.bind, hrun]
    rfl
  rw [exec_ok ha hcall, hrun]

theorem unarmed_of_ends (hs : Orderly s) (harmed : s.dispatcher.lookup t = some (x, due)) (hends : Ends t x (s, op, amb)) :
    (exec env s (op, amb)).1.dispatcher.lookup t ≠ some (x, due) := by
  obtain ⟨ha, rfl | rfl⟩ := hends
  · have hd : (exec env s (.validityCallback t, amb)).1.dispatcher = s.dispatcher.erase t := by
      rw [exec_validityCallback env ha harmed]
      unfold Authentication.clearTimer
      split <;> rfl
    rw [hd, AList.lookup_erase]
    exact nofun
  · obtain ⟨-, htimer⟩ := (hs.timers t x).1 ⟨due, harmed⟩
    rw [exec_returnIdentityHandle env ha hs htimer, (returnIdentityHandle_without hs x).1.dispatcher, harmed]
    simp

/-- One call. -/
theorem armed_step (hs : Orderly s) (ha : Allocates amb s) : (exec env s (op, amb)).1.dispatcher.lookup t = some (x, due) ↔
    Arms env t x due (s, op, amb) ∨ s.dispatcher.lookup t = some (x, due) ∧ ¬ Ends t x (s, op, amb) := by
  constructor
  · intro harmed
    rcases arms_of_armed hs.timers harmed with hold | harms
    · exact .inr ⟨hold, fun hends => unarmed_of_ends hs hold hends harmed⟩
    · exact .inl harms
  · rintro (harms | ⟨hold, hends⟩)
    · exact armed_of_arms hs.timers harms
    · have he : Effect env amb s op (exec env s (op, amb)).1 := exec_effect s op amb
      rcases he.trigger_kept hs hold with hkept | hop | ⟨hop, -⟩
      · exact hkept
      · exact absurd ⟨ha, .inl hop⟩ hends
      · exact absurd ⟨ha, .inr hop⟩ hends

/-- **Which triggers are armed.** In every reachable state a trigger is armed for an identity, and due then, exactly if a
call of the run armed it so and since then it has neither gone off nor was the identity returned. -/
theorem trigger_armed_iff (env : Env κ ρ) {tr : Trace (Authentication κ) (Op × Ambient ρ)} {s : Authentication κ}
    (hr : Run (plugin env).solo tr s) (t : Nat) (x : Handle) (due : Int) :
    s.dispatcher.lookup t = some (x, due) ↔ Since (Arms env t x due) (Ends t x) tr := by
  refine hr.iff_since (Q := fun s => s.dispatcher.lookup t = some (x, due)) ?_ ?_
  · rintro s ⟨optional, kem, rfl⟩
    exact nofun
  · rintro tr s ⟨op, amb⟩ s' hr ⟨⟨ha, -⟩, rfl⟩
    exact armed_step (run_orderly hr) ha

/-- Alice completes a second handshake with Bob: what is armed for him is still the trigger of the first. -/
theorem trigger_armed_sample : Since (Arms Ideal.env 11 2 1002000000000) (Ends 11 2) ((plugin Ideal.env).history []
    Ideal.start (Ideal.renewedCalls ++ [Ideal.processCall 13 (Ideal.replyWith 1 Ideal.secondRequest) 10])) :=
  (trigger_armed_iff Ideal.env (Ideal.calls_run true .mlKem512 _) 11 2 1002000000000).1 (by decide +kernel)

end PqsecDds.CycloneDDS
