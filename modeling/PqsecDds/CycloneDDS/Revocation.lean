import PqsecDds.CycloneDDS.Teardown

/-!
# Reports of expired identities

| here | there |
|---|---|
| `getIdentityInfo` | authentication.c:615-627 |
| `reported` | the call of `on_revoke_identity` in `validity_callback`, authentication.c:629-651 |

`reported` and `validityCallback` are the two halves of `validity_callback`: what it tells the listener, and what it
does to the tables. A local identity has its trigger from the start or not at all, so its end is reported once.
-/

namespace PqsecDds.CycloneDDS

open Lib ObjectGraph

variable {κ ρ : Type} {env : Env κ ρ} {amb : Ambient ρ} {s s' : Authentication κ} {h l r x : Handle} {op : Op}
variable {t : Nat} {due : Int} {tr : Trace (Authentication κ) (Op × Ambient ρ)}

namespace Authentication

def getIdentityInfo (s : Authentication κ) (h : Handle) : Option (SecurityObject κ) :=
  (s.objectHash.lookup h).filter (·.asHandshake.isNone)

/-- The identity that is reported when a trigger goes off. -/
def reported (s : Authentication κ) (timer : Nat) : Option Handle :=
  (s.dispatcher.lookup timer).bind fun e => (s.getIdentityInfo e.1).map fun _ => e.1

end Authentication

/-- What a call reports, with an allocator that hands out what is not in use. -/
def reportedBy (s : Authentication κ) (op : Op × Ambient ρ) : Option Handle :=
  if Allocates op.2 s then
    match op.1 with
    | .validityCallback timer => s.reported timer
    | _ => none
  else none

/-- How often an identity was reported. -/
def reports (l : Handle) (tr : Trace (Authentication κ) (Op × Ambient ρ)) : Nat :=
  tr.countP fun e => reportedBy e.1 e.2 = some l

/-! ## Armed triggers -/

theorem getIdentityInfo_isSome (ht : s.timerOf h = some t) : (s.getIdentityInfo h).isSome := by
  unfold Authentication.getIdentityInfo
  rcases hl : s.localIdentity h with _ | identity
  · rcases hr : s.remoteIdentity h with _ | remote
    · simp [Authentication.timerOf, hl, hr] at ht
    · rw [lookup_of_remoteIdentity hr]
      rfl
  · rw [lookup_of_localIdentity hl]
    rfl

/-- The identity of an armed trigger is there to be reported. -/
theorem reported_of_armed (hT : s.TimersMatch) (harmed : s.dispatcher.lookup t = some (x, due)) : s.reported t = some x := by
  obtain ⟨-, htimer⟩ := (hT t x).1 ⟨due, harmed⟩
  obtain ⟨obj, hobj⟩ := Option.isSome_iff_exists.1 (getIdentityInfo_isSome htimer)
  simp [Authentication.reported, harmed, hobj]

theorem armed_of_reported (h : s.reported t = some x) : ∃ due, s.dispatcher.lookup t = some (x, due) := by
  obtain ⟨e, he, hx⟩ := Option.bind_eq_some_iff.1 h
  obtain ⟨obj, -, rfl⟩ := Option.map_eq_some_iff.1 hx
  exact ⟨e.2, he⟩

/-- An identity has one trigger at most. -/
theorem armed_unique {t' : Nat} {due' : Int} (hT : s.TimersMatch) (harmed : s.dispatcher.lookup t = some (x, due))
    (harmed' : s.dispatcher.lookup t' = some (x, due')) : t = t' := by
  obtain ⟨-, htimer⟩ := (hT t x).1 ⟨due, harmed⟩
  obtain ⟨-, htimer'⟩ := (hT t' x).1 ⟨due', harmed'⟩
  exact Option.some.inj (htimer.symm.trans htimer')

/-- `watchExpiry` arms a trigger of the remote identity, and takes none away. -/
theorem watchedTriggers_lookup {certExp : Int} {c : Context κ} (hfree : amb.timer ∉ s.dispatcher)
    (harmed : s.dispatcher.lookup t = some (x, due)) :
    (watchedTriggers amb certExp c s.dispatcher).lookup t = some (x, due) := by
  have hne : t ≠ amb.timer := by
    rintro rfl
    rw [AList.lookup_eq_none.2 hfree] at harmed
    cases harmed
  unfold watchedTriggers
  split
  · rw [AList.lookup_insert_ne hne]
    exact harmed
  · exact harmed

/-- A trigger stays armed until it goes off or its identity goes. -/
theorem Effect.trigger_kept (he : Effect env amb s op s') (hs : Orderly s)
    (harmed : s.dispatcher.lookup t = some (x, due)) :
    s'.dispatcher.lookup t = some (x, due) ∨ op = .validityCallback t ∨
      op = .returnIdentityHandle x ∧ s'.timerOf x = none := by
  cases he with
  | same => exact .inl harmed
  | trustedCas named => exact .inl harmed
  | @localMade _ _ _ certExpiry _ ha made =>
    rw [made.dispatcher]
    by_cases hnever : certExpiry = ddsNever
    · rw [if_pos hnever]
      exact .inl harmed
    · have hne : t ≠ amb.timer := by
        rintro rfl
        rw [AList.lookup_eq_none.2 ha.timer] at harmed
        cases harmed
      rw [if_neg hnever, AList.lookup_insert_ne hne]
      exact .inl harmed
  | permissionsSet set =>
    rw [set.dispatcher]
    exact .inl harmed
  | remoteSeen ha seen =>
    rw [seen.dispatcher]
    exact .inl harmed
  | request ha hrx on =>
    rw [on.dispatcher]
    exact .inl harmed
  | reply ha hrx on =>
    rw [on.dispatcher]
    exact .inl harmed
  | @process _ _ _ _ rx _ ha hrx on =>
    cases rx with
    | error e =>
      rw [(on.failed e rfl).2]
      exact .inl harmed
    | ok v =>
      rw [(on.ok v.1 v.2 rfl).2]
      exact .inl (watchedTriggers_lookup ha.timer harmed)
  | handshakeReturned handshake => exact .inl harmed
  | @identityReturned h obj lookup identity =>
    have hw := returnIdentity_without hs lookup identity
    by_cases hx : x = h
    · rw [hx]
      exact .inr (.inr ⟨rfl, timerOf_gone hw.graph⟩)
    · rw [hw.dispatcher, harmed]
      simp [Option.filter_some, hx]
  | @callback timer h expiry armed =>
    by_cases ht : t = timer
    · exact .inr (.inl (by rw [ht]))
    · have hd : ({ s with dispatcher := s.dispatcher.erase timer }.clearTimer h).dispatcher = s.dispatcher.erase timer := by
        unfold Authentication.clearTimer
        split <;> rfl
      rw [hd, AList.lookup_erase_ne ht]
      exact .inl harmed

/-- Only `validate_local_identity` and `process_handshake` arm a trigger. -/
theorem Effect.trigger_new (he : Effect env amb s op s') (harmed : s'.dispatcher.lookup t = some (x, due)) :
    s.dispatcher.lookup t = some (x, due) ∨ t = amb.timer ∧ due ≠ ddsNever ∧ Allocates amb s ∧
      ((∃ qos candidate identity, op = .validateLocalIdentity qos candidate ∧ x = amb.object ∧
          LocalMade env amb s qos candidate identity due s') ∨
        ∃ inp h c c' v, op = .processHandshake inp h ∧ x = c.relation.remoteIdentity ∧ c.remoteIdentity.timer = 0 ∧
          OnProcess env amb s inp h c c' (.ok (v, due)) s') := by
  cases he with
  | same => exact .inl harmed
  | trustedCas named => exact .inl harmed
  | @localMade qos candidate identity certExpiry _ ha made =>
    have hd := made.dispatcher
    by_cases hnever : certExpiry = ddsNever
    · rw [if_pos hnever] at hd
      exact .inl (hd ▸ harmed)
    · rw [if_neg hnever] at hd
      by_cases ht : t = amb.timer
      · rw [hd, ht, AList.lookup_insert] at harmed
        obtain ⟨rfl, rfl⟩ := Prod.mk.inj (Option.some.inj harmed)
        exact .inr ⟨ht, hnever, ha, .inl ⟨qos, candidate, identity, rfl, rfl, made⟩⟩
      · rw [hd, AList.lookup_insert_ne ht] at harmed
        exact .inl harmed
  | permissionsSet set => exact .inl (set.dispatcher ▸ harmed)
  | remoteSeen ha seen => exact .inl (seen.dispatcher ▸ harmed)
  | request ha hrx on => exact .inl (on.dispatcher ▸ harmed)
  | reply ha hrx on => exact .inl (on.dispatcher ▸ harmed)
  | @process inp h c c' rx _ ha hrx on =>
    rcases rx with e | ⟨v, certExp⟩
    · exact .inl ((on.failed e rfl).2 ▸ harmed)
    · have hframe : c.Frame c' := processToken_frame.result on.run
      have hd := (on.ok v certExp rfl).2
      unfold watchedTriggers at hd
      by_cases harms : certExp ≠ ddsNever ∧ c'.remoteIdentity.timer = 0
      · rw [if_pos harms] at hd
        by_cases ht : t = amb.timer
        · rw [hd, ht, AList.lookup_insert, hframe.remoteHandle] at harmed
          obtain ⟨rfl, rfl⟩ := Prod.mk.inj (Option.some.inj harmed)
          refine .inr ⟨ht, harms.1, ha, .inr ⟨inp, h, c, c', v, rfl, rfl, ?_, on⟩⟩
          rw [← (frame_timers hframe).2, harms.2]
        · rw [hd, AList.lookup_insert_ne ht] at harmed
          exact .inl harmed
      · rw [if_neg harms] at hd
        exact .inl (hd ▸ harmed)
  | handshakeReturned handshake => exact .inl harmed
  | identityReturned lookup identity => exact .inl ((Shrunk.returnIdentity s _ _).dispatcher t _ harmed)
  | @callback timer h expiry armed =>
    have hd : ({ s with dispatcher := s.dispatcher.erase timer }.clearTimer h).dispatcher = s.dispatcher.erase timer := by
      unfold Authentication.clearTimer
      split <;> rfl
    rw [hd] at harmed
    exact .inl ((Shrunk.eraseTrigger s timer).dispatcher t _ harmed)

/-- No call arms a trigger for a local identity that is there already. -/
theorem Effect.trigger_old (he : Effect env amb s op s') (hl : (s.localIdentity x).isSome)
    (harmed : s'.dispatcher.lookup t = some (x, due)) : s.dispatcher.lookup t = some (x, due) := by
  obtain ⟨identity, hl⟩ := Option.isSome_iff_exists.1 hl
  rcases he.trigger_new harmed with hold | ⟨-, -, ha, ⟨_, _, _, -, rfl, -⟩ | ⟨_, _, c, _, _, -, rfl, -, on⟩⟩
  · exact hold
  · rw [localIdentity_fresh ha] at hl
    cases hl
  · have hremote := on.points.remoteIdentity
    rw [remoteIdentity_of_localIdentity hl] at hremote
    cases hremote

/-! ## A local identity -/

/-- The identity `l`, made before the calls `since`, is watched until its certificate expires. -/
inductive LocalWatched (l : Handle) (expiry : Int) (since : Trace (Authentication κ) (Op × Ambient ρ))
    (s : Authentication κ) : Prop
  | never (expiry_eq : expiry = ddsNever) (unwatched : s.Unwatched l) (unreported : reports l since = 0)
  | armed {timer : Nat} (expiry_ne : expiry ≠ ddsNever) (trigger : s.dispatcher.lookup timer = some (l, expiry))
      (unreported : reports l since = 0)
  | reported (expiry_ne : expiry ≠ ddsNever) (unwatched : s.Unwatched l) (once : reports l since = 1)

theorem reports_cons (e : Authentication κ × Op × Ambient ρ) (since : Trace (Authentication κ) (Op × Ambient ρ)) :
    reports l (e :: since) = reports l since + if reportedBy e.1 e.2 = some l then 1 else 0 := by
  unfold reports
  rw [List.countP_cons]
  simp only [decide_eq_true_eq]

theorem armed_of_reportedBy (h : reportedBy s (op, amb) = some l) :
    Allocates amb s ∧ ∃ timer due, op = .validityCallback timer ∧ s.dispatcher.lookup timer = some (l, due) := by
  unfold reportedBy at h
  split at h
  · rename_i ha
    split at h
    · rename_i timer hop
      obtain ⟨due, harmed⟩ := armed_of_reported h
      exact ⟨ha, timer, due, hop, harmed⟩
    · cases h
  · cases h

theorem exec_validityCallback (env : Env κ ρ) (ha : Allocates amb s) (harmed : s.dispatcher.lookup t = some (x, due)) :
    (exec env s (.validityCallback t, amb)).1 = { s with dispatcher := s.dispatcher.erase t }.clearTimer x := by
  have hcallback : validityCallback t s = (.ok ⟨⟩, { s with dispatcher := s.dispatcher.erase t }.clearTimer x) := by
    simp only [validityCallback, Act.write, harmed]
  have hcall : Op.call env amb (.validityCallback t) s = (.ok [], (validityCallback t s).2) := rfl
  rw [exec_ok ha hcall, hcallback]

/-- A call reports another identity or none if no trigger of this one is armed. -/
theorem reports_of_unwatched {since : Trace (Authentication κ) (Op × Ambient ρ)} (hu : s.Unwatched l) :
    reports l ((s, op, amb) :: since) = reports l since := by
  rw [reports_cons, if_neg, Nat.add_zero]
  intro hreported
  obtain ⟨-, timer, due, -, harmed⟩ := armed_of_reportedBy hreported
  exact hu timer due harmed

theorem LocalWatched.step {expiry : Int} {since : Trace (Authentication κ) (Op × Ambient ρ)} (hs : Orderly s)
    (hw : LocalWatched l expiry since s) (hl : (s.localIdentity l).isSome)
    (hl' : ((exec env s (op, amb)).1.localIdentity l).isSome) :
    LocalWatched l expiry ((s, op, amb) :: since) (exec env s (op, amb)).1 := by
  have he : Effect env amb s op (exec env s (op, amb)).1 := exec_effect s op amb
  have hunwatched : s.Unwatched l → (exec env s (op, amb)).1.Unwatched l := fun hu timer due harmed =>
    hu timer due (he.trigger_old hl harmed)
  cases hw with
  | never expiry_eq unwatched unreported =>
    exact .never expiry_eq (hunwatched unwatched) ((reports_of_unwatched unwatched).trans unreported)
  | reported expiry_ne unwatched once =>
    exact .reported expiry_ne (hunwatched unwatched) ((reports_of_unwatched unwatched).trans once)
  | @armed timer expiry_ne trigger unreported =>
    by_cases hgoes : Allocates amb s ∧ op = .validityCallback timer
    · obtain ⟨ha, rfl⟩ := hgoes
      have hreported : reportedBy s (.validityCallback timer, amb) = some l := by
        simp only [reportedBy, if_pos ha]
        exact reported_of_armed hs.timers trigger
      refine .reported expiry_ne (fun t due harmed => ?_) ?_
      · obtain rfl := armed_unique hs.timers (he.trigger_old hl harmed) trigger
        have hd : (exec env s (.validityCallback t, amb)).1.dispatcher = s.dispatcher.erase t := by
          rw [exec_validityCallback env ha trigger]
          unfold Authentication.clearTimer
          split <;> rfl
        rw [hd, AList.lookup_erase] at harmed
        cases harmed
      · rw [reports_cons, if_pos hreported, unreported]
    · have hunreported : reports l ((s, op, amb) :: since) = 0 := by
        rw [reports_cons, if_neg, unreported]
        intro hreported
        obtain ⟨ha, timer', due, hop, harmed⟩ := armed_of_reportedBy hreported
        exact hgoes ⟨ha, by rw [hop, armed_unique hs.timers harmed trigger]⟩
      by_cases ha : Allocates amb s
      · rcases he.trigger_kept hs trigger with hkept | hop | ⟨-, hgone⟩
        · exact .armed expiry_ne hkept hunreported
        · exact absurd ⟨ha, hop⟩ hgoes
        · obtain ⟨identity, hidentity⟩ := Option.isSome_iff_exists.1 hl'
          rw [timerOf_localIdentity hidentity] at hgone
          cases hgone
      · have hsame : (exec env s (op, amb)).1 = s := by simp only [exec, if_neg ha]
        rw [hsame]
        exact .armed expiry_ne trigger hunreported

theorem identityOf_expiry {trusted : List X509} {qos : Qos} {candidate adjusted : Guid} {cert ca : X509} {key : EvpPkey}
    {crl : Option X509Crl} {certExpiry : Int}
    (h : identityOf env amb trusted qos candidate = .ok (cert, ca, key, crl, certExpiry, adjusted)) :
    certExpiry = getCertificateExpiry amb cert := by
  obtain ⟨certPem, -, h₁⟩ := bind_ok.1 h
  obtain ⟨caPem, -, h₂⟩ := bind_ok.1 h₁
  obtain ⟨keyPem, -, h₃⟩ := bind_ok.1 h₂
  obtain ⟨cas, -, hload⟩ := bind_ok.1 h₃
  simp only [loadIdentity, bind_ok, pure_ok, Prod.mk.injEq] at hload
  obtain ⟨_, -, _, -, _, -, _, -, _, -, _, -, _, -, _, -, _, -, rfl, -, -, -, rfl, -⟩ := hload
  rfl

/-- A new local identity is watched from its first moment. -/
theorem LocalMade.watched {qos : Qos} {candidate : Guid} {identity : LocalIdentityInfo} {certExpiry : Int}
    (hmade : LocalMade env amb s qos candidate identity certExpiry s') (hT : s'.TimersMatch) :
    LocalWatched (ρ := ρ) amb.object (getCertificateExpiry amb identity.identityCert) [] s' := by
  rw [← identityOf_expiry hmade.loaded]
  have hl : s'.localIdentity amb.object = some identity := by rw [hmade.put.localIdentity, if_pos rfl]
  by_cases hnever : certExpiry = ddsNever
  · have htimer : identity.timer = 0 := by
      have h := congrArg LocalIdentityInfo.timer hmade.made
      simpa only [if_pos hnever] using h
    refine .never hnever (fun t due => hT.unarmed (.inr ?_)) rfl
    rw [timerOf_localIdentity hl, htimer]
  · have hd := hmade.dispatcher
    rw [if_neg hnever] at hd
    exact .armed hnever (by rw [hd, AList.lookup_insert]) rfl

end PqsecDds.CycloneDDS
