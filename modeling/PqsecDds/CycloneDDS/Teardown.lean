import PqsecDds.CycloneDDS.Integrity
import PqsecDds.CycloneDDS.Triggers

/-!
# Returned identities, and the end of the plugin

| here | there |
|---|---|
| `returnAll` | calls of `return_identity_handle`, authentication.c:3681-3765 |
| `finalizeAuthentication` | authentication.c:3854-3901 |

The cascades of `return_identity_handle` go over the tables in whatever order these have. `Without` says what they come
to: the objects are those of `ObjectGraph.without`, and what is left is as it was. So the order in which identities are
returned makes no difference. `finalize_authentication` frees the objects of `objectHash`; a relation is not one of them.
-/

namespace PqsecDds.CycloneDDS

open Lib ObjectGraph

variable {κ ρ : Type} {env : Env κ ρ} {amb : Ambient ρ} {s s₁ s' : Authentication κ} {h l r a : Handle}
variable {c c' : Context κ} {hs : HandshakeInfo κ} {obj : SecurityObject κ}

/-- The handles are returned one after the other. -/
def Authentication.returnAll (s : Authentication κ) (handles : List Handle) : Authentication κ :=
  handles.foldl (fun s h => (returnIdentityHandle h s).2) s

/-- The objects are freed, those of a remote identity with its `linkHash`, and the tables. -/
def finalizeAuthentication (s : Authentication κ) : Authentication κ :=
  { s with objectHash := ∅, remoteGuidHash := ∅, dispatcher := ∅, trustedCaList := [] }

/-- Nothing is allocated any more. -/
def Authentication.Freed (s : Authentication κ) : Prop :=
  s.objectHash = ∅ ∧ s.remoteGuidHash = ∅ ∧ (∀ a, s.relation a = none) ∧ s.dispatcher = ∅ ∧ s.trustedCaList = []

/-- Identities have gone, with all that depends on them and nothing else. -/
structure Without (gone : List Handle) (s s' : Authentication κ) : Prop where
  graph : s'.graph = s.graph.without gone
  dispatcher : ∀ t, s'.dispatcher.lookup t = (s.dispatcher.lookup t).filter (·.1 ∉ gone)
  /-- what is left is as it was -/
  shrunk : Shrunk s s'

namespace Without

variable {xs ys : List Handle}

theorem refl (hG : s.graph.Sound) : Without [] s s := by
  refine ⟨hG.without_nil.symm, fun t => ?_, .refl s⟩
  simp only [List.not_mem_nil, not_false_eq_true, decide_true, filter_all]

theorem trans (h₁ : Without xs s s₁) (h₂ : Without ys s₁ s') : Without (xs ++ ys) s s' := by
  refine ⟨?_, fun t => ?_, h₁.shrunk.trans h₂.shrunk⟩
  · rw [h₂.graph, h₁.graph, without_without]
  · rw [h₂.dispatcher, h₁.dispatcher, Option.filter_filter]
    congr 1
    funext e
    simp only [List.mem_append]
    grind

/-- A relation is left, as it was, if neither of its identities has gone. -/
theorem relation (hw : Without xs s s') (a : Handle) :
    s'.relation a = (s.relation a).filter fun x => spares xs (x.localIdentity, x.remoteIdentity) := by
  have hpair : s'.graph.pair a = (s.graph.pair a).filter (spares xs) := by rw [hw.graph]; rfl
  simp only [Authentication.graph] at hpair
  rcases hrel' : s'.relation a with _ | x
  · rcases hrel : s.relation a with _ | x
    · rfl
    · rw [hrel', hrel] at hpair
      simp only [Option.map_none, Option.map_some, Option.filter_some] at hpair ⊢
      grind
  · have hrel := hw.shrunk.relation a x hrel'
    rw [hrel', hrel] at hpair
    rw [hrel]
    simp only [Option.map_some, Option.filter_some] at hpair ⊢
    grind

end Without

/-! ## No object at the nil handle -/

theorem lookup_eq_none (hl : s.localIdentity h = none) (hr : s.remoteIdentity h = none) (hh : s.handshake h = none) :
    s.objectHash.lookup h = none := by
  rcases hobj : s.objectHash.lookup h with _ | obj
  · rfl
  · cases obj with
    | localIdentity identity => simp [Authentication.localIdentity, hobj, SecurityObject.asLocal] at hl
    | remoteIdentity remote => simp [Authentication.remoteIdentity, hobj, SecurityObject.asRemote] at hr
    | handshake hs => simp [Authentication.handshake, hobj, SecurityObject.asHandshake] at hh

theorem Touches.handle {op : Op} (ht : Touches env amb s s' op h c c') : (s.handshake h).isSome ∨ h = amb.object := by
  cases ht with
  | request ha hrx on =>
    cases on.source with
    | found handshake localHandle remoteHandle => exact .inl (by rw [handshake]; rfl)
    | made none linked handshake => exact .inr rfl
  | reply ha hrx on =>
    cases on.source with
    | found handshake localHandle remoteHandle => exact .inl (by rw [handshake]; rfl)
    | made none linked handshake => exact .inr rfl
  | process ha hrx on => exact .inl (by rw [on.handshake]; rfl)

theorem Effect.lookup_nil {op : Op} (he : Effect env amb s op s') (ha : amb.object ≠ 0)
    (hnil : s.objectHash.lookup 0 = none) : s'.objectHash.lookup 0 = none := by
  have hl : s.localIdentity 0 = none := by simp [Authentication.localIdentity, hnil]
  have hr : s.remoteIdentity 0 = none := by simp [Authentication.remoteIdentity, hnil]
  have hh : s.handshake 0 = none := by simp [Authentication.handshake, hnil]
  refine lookup_eq_none ?_ ?_ ?_
  · rcases hl' : s'.localIdentity 0 with _ | identity
    · rfl
    · rcases he.localIdentity_cases hl' with ⟨old, _, _, _, hold, -⟩ | ⟨_, _, _, -, hzero, -, -⟩
      · rw [hl] at hold
        cases hold
      · exact absurd hzero.symm ha
  · rcases hr' : s'.remoteIdentity 0 with _ | remote
    · rfl
    · rcases he.remoteIdentity_cases hr' with ⟨old, _, _, hold, -⟩ | ⟨_, _, _, _, _, rfl, -, -⟩ | ⟨_, c, c', _, ht, hzero, -⟩
      · rw [hr] at hold
        cases hold
      · cases he with
        | same =>
          rw [hr] at hr'
          cases hr'
        | remoteSeen _ seen =>
          rw [seen.remoteIdentity] at hr'
          split at hr'
          · rename_i hzero
            obtain ⟨_, -, hsight⟩ := seen.sighting
            cases hsight with
            | made new => exact absurd hzero.symm ha
            | linked known object unlinked =>
              rw [← hzero, hr] at object
              cases object
            | known known object linked pointer =>
              rw [← hzero, hr] at object
              cases object
          · rw [hr] at hr'
            cases hr'
      · have hremote := ht.points.remoteIdentity
        rw [hzero, hr] at hremote
        cases hremote
  · rcases hh' : s'.handshake 0 with _ | hs
    · rfl
    · rcases he.handshake_cases hh' with hold | ⟨c, c', ht, -⟩
      · rw [hh] at hold
        cases hold
      · rcases ht.handle with hsome | hzero
        · rw [hh] at hsome
          cases hsome
        · exact absurd hzero.symm ha

/-! ## Returning one identity -/

/-- What `return_identity_handle` relies on. -/
structure Orderly (s : Authentication κ) : Prop where
  sound : s.graph.Sound
  timers : s.TimersMatch
  nil : s.objectHash.lookup 0 = none

theorem run_orderly {tr : Trace (Authentication κ) (Op × Ambient ρ)} (hr : Run (plugin env).solo tr s) : Orderly s := by
  refine ⟨run_sound hr, run_timersMatch hr, ?_⟩
  refine hr.state_inv (I := fun s => s.objectHash.lookup 0 = none) ?_ ?_
  · rintro s ⟨optional, kem, rfl⟩
    rfl
  · rintro s ⟨op, amb⟩ s' hnil ⟨-, rfl⟩
    by_cases ha : Allocates amb s
    · exact (exec_effect s op amb).lookup_nil ha.object_ne_zero hnil
    · change (exec env s (op, amb)).1.objectHash.lookup 0 = none
      simp only [exec, if_neg ha]
      exact hnil

/-- The pairs of the cascade are those that the identity is in. -/
theorem without_of_unlinked {pairs : List (Handle × Handle)} (hG : s.graph.Sound) (hmem : ∀ p ∈ pairs, p.1 = h ∨ p.2 = h)
    (hnone : ∀ l r a, s.graph.pair a = some (l, r) → l = h ∨ r = h → (s.graph.unlinkAll pairs).link r l = none) :
    s.graph.unlinkAll pairs = { s.graph with
      link := (s.graph.without [h]).link
      pair := (s.graph.without [h]).pair
      relationOf := (s.graph.without [h]).relationOf } := by
  refine hG.unlinkAll_eq fun l r a hp => ⟨fun hlr => hmem (l, r) hlr, fun hends => ?_⟩
  have hlink := hnone l r a hp hends
  rw [unlinkAll_link] at hlink
  by_contra hlr
  rw [if_neg hlr, (hG.link l r a).2 hp] at hlink
  cases hlink

theorem returnIdentity_graph (hG : s.graph.Sound) (hobj : s.objectHash.lookup h = some obj) (hid : obj.asHandshake = none) :
    (s.returnIdentity h obj).graph = s.graph.without [h] := by
  cases obj with
  | localIdentity identity =>
    obtain ⟨pairs, hmem, hnone, hgraph⟩ := returnIdentity_local_graph hG hobj
    have hl : s.localIdentity h = some identity := by simp [Authentication.localIdentity, hobj, SecurityObject.asLocal]
    have hguid : s.graph.guid h = none := by simp [Authentication.graph, remoteIdentity_of_localIdentity hl]
    have hends : ∀ l r a, s.graph.pair a = some (l, r) → l = h ∨ r = h → l = h := by
      rintro l r a hp (hl | rfl)
      · exact hl
      · have hsome := (hG.ends l r a hp).2
        rw [hguid] at hsome
        cases hsome
    have hunlinked := without_of_unlinked hG (fun p hp => .inl (hmem p hp)) fun l r a hp hlr => by
      rw [hends l r a hp hlr]
      exact hnone r
    rw [hgraph, hunlinked]
    ext x y z
    · simp only [removeLocal, without, List.mem_singleton]
    · simp only [removeLocal, without, List.mem_singleton]
      grind
    · simp only [removeLocal, without, List.mem_singleton]
      have hguids := hG.guid x
      rcases hx : s.graph.remoteOf x with _ | r
      · rfl
      · have hr := (hguids r).1 hx
        simp only [Option.filter_some]
        grind
    all_goals rfl
  | remoteIdentity remote =>
    obtain ⟨pairs, hmem, hnone, hgraph⟩ := returnIdentity_remote_graph hG hobj
    have hr : s.remoteIdentity h = some remote := by simp [Authentication.remoteIdentity, hobj, SecurityObject.asRemote]
    have hlocal : ¬ s.graph.isLocal h := by simp [Authentication.graph, localIdentity_of_remoteIdentity hr]
    have hguid : s.graph.guid h = some remote.guid := by simp [Authentication.graph, hr]
    have hends : ∀ l r a, s.graph.pair a = some (l, r) → l = h ∨ r = h → r = h := by
      rintro l r a hp (rfl | hr)
      · exact absurd (hG.ends l r a hp).1 hlocal
      · exact hr
    have hunlinked := without_of_unlinked hG (fun p hp => .inr (hmem p hp)) fun l r a hp hlr => by
      rw [hends l r a hp hlr]
      exact hnone l
    rw [hgraph, hunlinked]
    ext x y z
    · simp only [removeRemote, without, List.mem_singleton]
      grind
    · simp only [removeRemote, without, List.mem_singleton, Function.update_apply]
    · simp only [removeRemote, without, List.mem_singleton, Function.update_apply]
      have hguids := hG.guid x
      have hown := (hG.guid remote.guid h).2 hguid
      rcases hx : s.graph.remoteOf x with _ | r
      · grind
      · have hr := (hguids r).1 hx
        simp only [Option.filter_some]
        grind
    all_goals rfl
  | handshake hs => cases hid

/-- Without an identity at the handle, nothing depends on it. -/
theorem graph_without_absent (hG : s.graph.Sound) (hl : ¬ s.graph.isLocal h) (hr : s.graph.guid h = none) :
    s.graph.without [h] = s.graph := by
  have hspares : ∀ a, (s.graph.pair a).filter (spares [h]) = s.graph.pair a := by
    intro a
    rcases hp : s.graph.pair a with _ | p
    · rfl
    · obtain ⟨h₁, h₂⟩ := hG.ends p.1 p.2 a hp
      have hne₁ : p.1 ≠ h := fun heq => hl (heq ▸ h₁)
      have hne₂ : p.2 ≠ h := fun heq => by
        rw [heq, hr] at h₂
        cases h₂
      simp [Option.filter_some, spares, hne₁, hne₂]
  ext x y z
  · simp only [without, List.mem_singleton]
    grind
  · simp only [without, List.mem_singleton]
    grind
  · have hguids := hG.guid x
    simp only [without, List.mem_singleton]
    rcases hx : s.graph.remoteOf x with _ | r
    · rfl
    · have hr' := (hguids r).1 hx
      simp only [Option.filter_some]
      grind
  · have hlink := hG.link y x
    simp only [without]
    rcases hxy : s.graph.link x y with _ | a
    · simp
    · have hp := (hlink a).1 hxy
      have h' := hspares a
      rw [hp, Option.filter_some] at h'
      grind
  · simp only [without, hspares]
  · simp only [without, hspares]
    rcases hx : s.graph.relationOf x with _ | a
    · rfl
    · rw [Option.filter_some, if_pos (hG.handshake x a hx)]

theorem Shrunk.lookup_none (hsub : Shrunk s s') (hnone : s.objectHash.lookup h = none) : s'.objectHash.lookup h = none := by
  refine lookup_eq_none ?_ ?_ ?_
  · rcases hl : s'.localIdentity h with _ | identity
    · rfl
    · have hold := lookup_of_localIdentity (hsub.localIdentity h identity hl)
      rw [hnone] at hold
      cases hold
  · rcases hr : s'.remoteIdentity h with _ | remote
    · rfl
    · obtain ⟨linkHash, hold⟩ := hsub.remoteIdentity h remote hr
      have hold' := lookup_of_remoteIdentity hold
      rw [hnone] at hold'
      cases hold'
  · rcases hh : s'.handshake h with _ | hs
    · rfl
    · have hold := lookup_of_handshake (hsub.handshake h hs hh)
      rw [hnone] at hold
      cases hold

/-- An identity that is left keeps its timer. -/
theorem timerOf_left {x : Handle} (hgraph : s'.graph = s.graph.without [h]) (hsub : Shrunk s s') (hx : x ≠ h) :
    s'.timerOf x = s.timerOf x := by
  have hlocal : (s'.localIdentity x).isSome ↔ (s.localIdentity x).isSome := by
    change s'.graph.isLocal x ↔ s.graph.isLocal x
    rw [hgraph]
    simp [without, hx]
  have hremote : (s'.remoteIdentity x).isSome = (s.remoteIdentity x).isSome := by
    have hguid : (s'.graph.guid x).isSome = (s.graph.guid x).isSome := by
      rw [hgraph]
      simp [without, hx]
    simpa [Authentication.graph] using hguid
  have hl : (s'.localIdentity x).map (·.timer) = (s.localIdentity x).map (·.timer) := by
    rcases hl' : s'.localIdentity x with _ | identity
    · rcases hl : s.localIdentity x with _ | identity
      · rfl
      · rw [hl', hl] at hlocal
        cases hlocal.2 rfl
    · rw [hsub.localIdentity x identity hl']
  have hr : (s'.remoteIdentity x).map (·.timer) = (s.remoteIdentity x).map (·.timer) := by
    rcases hr' : s'.remoteIdentity x with _ | remote
    · rcases hr : s.remoteIdentity x with _ | remote
      · rfl
      · rw [hr', hr] at hremote
        cases hremote
    · obtain ⟨linkHash, hold⟩ := hsub.remoteIdentity x remote hr'
      rw [hold]
      rfl
  simp only [Authentication.timerOf, hl, hr]

/-- No identity is left at the handle. -/
theorem timerOf_gone (hgraph : s'.graph = s.graph.without [h]) : s'.timerOf h = none := by
  have hlocal : ¬ s'.graph.isLocal h := by
    rw [hgraph]
    simp [without]
  have hguid : s'.graph.guid h = none := by
    rw [hgraph]
    simp [without]
  have hl : s'.localIdentity h = none := by simpa [Authentication.graph] using hlocal
  have hr : s'.remoteIdentity h = none := by simpa [Authentication.graph] using hguid
  simp [Authentication.timerOf, hl, hr]

theorem returnIdentityHandle_ok (hne : h ≠ 0) (hobj : s.objectHash.lookup h = some obj) (hid : obj.asHandshake = none) :
    (returnIdentityHandle h : Call κ PUnit) s = (.ok ⟨⟩, s.returnIdentity h obj) := by
  refine Act.bind_ok.2 ⟨⟨⟩, s, check_ok.2 ⟨require_ok.2 (decide_eq_true hne), rfl⟩, ?_⟩
  refine Act.bind_ok.2 ⟨obj, s, Act.demand_ok.2 ⟨hobj, rfl⟩, ?_⟩
  exact Act.bind_ok.2 ⟨⟨⟩, s, check_ok.2 ⟨require_ok.2 (by rw [hid]; rfl), rfl⟩, rfl⟩

/-- No trigger is left of an identity that is not there, and none of the others has gone. -/
theorem dispatcher_without (hT : s'.TimersMatch) (hgone : s'.timerOf h = none)
    (hkept : ∀ t e, s.dispatcher.lookup t = some e → e.1 ≠ h → s'.dispatcher.lookup t = some e) (hsub : Shrunk s s') (t : Nat) :
    s'.dispatcher.lookup t = (s.dispatcher.lookup t).filter (·.1 ∉ [h]) := by
  rcases htrigger : s.dispatcher.lookup t with _ | e
  · rcases htrigger' : s'.dispatcher.lookup t with _ | e'
    · rfl
    · rw [hsub.dispatcher t e' htrigger'] at htrigger
      cases htrigger
  · by_cases he : e.1 = h
    · rcases htrigger' : s'.dispatcher.lookup t with _ | e'
      · simp [Option.filter_some, he]
      · obtain rfl := Option.some.inj (htrigger.symm.trans (hsub.dispatcher t e' htrigger'))
        subst he
        exact absurd htrigger' (hT.unarmed (.inl hgone))
    · rw [hkept t e htrigger he]
      simp [Option.filter_some, he]

theorem returnIdentity_without (hs : Orderly s) (hobj : s.objectHash.lookup h = some obj) (hid : obj.asHandshake = none) :
    Without [h] s (s.returnIdentity h obj) := by
  have hgraph := returnIdentity_graph hs.sound hobj hid
  have hT := returnIdentity_timersMatch hs.timers hobj hid
  have hsub := Shrunk.returnIdentity s h obj
  refine ⟨hgraph, dispatcher_without hT (timerOf_gone hgraph) (fun t e htrigger hne => ?_) hsub, hsub⟩
  obtain ⟨ht, htimer⟩ := (hs.timers t e.1).1 ⟨e.2, htrigger⟩
  obtain ⟨due, hleft⟩ := (hT t e.1).2 ⟨ht, (timerOf_left hgraph hsub hne).trans htimer⟩
  rw [hleft, ← hsub.dispatcher t _ hleft, htrigger]

theorem returnIdentityHandle_without (hs : Orderly s) (h : Handle) :
    Without [h] s (returnIdentityHandle h s).2 ∧ Orderly (returnIdentityHandle h s).2 := by
  rcases hrun : (returnIdentityHandle h : Call κ PUnit) s with ⟨res, s'⟩
  change Without [h] s s' ∧ Orderly s'
  by_cases hident : ∃ obj, s.objectHash.lookup h = some obj ∧ obj.asHandshake = none
  · obtain ⟨obj, hobj, hid⟩ := hident
    have hne : h ≠ 0 := by
      rintro rfl
      rw [hs.nil] at hobj
      cases hobj
    obtain ⟨-, rfl⟩ := Prod.mk.inj ((returnIdentityHandle_ok hne hobj hid).symm.trans hrun)
    have hw := returnIdentity_without hs hobj hid
    exact ⟨hw, returnIdentity_sound hs.sound hobj, returnIdentity_timersMatch hs.timers hobj hid, hw.shrunk.lookup_none hs.nil⟩
  · have hsame : s' = s := by
      rcases returnIdentityHandle_cases hrun with rfl | ⟨obj, hobj, hid, -⟩
      · rfl
      · exact absurd ⟨obj, hobj, hid⟩ hident
    subst hsame
    have hl : s'.localIdentity h = none := by
      rcases hl : s'.localIdentity h with _ | identity
      · rfl
      · exact absurd ⟨_, lookup_of_localIdentity hl, rfl⟩ hident
    have hr : s'.remoteIdentity h = none := by
      rcases hr : s'.remoteIdentity h with _ | remote
      · rfl
      · exact absurd ⟨_, lookup_of_remoteIdentity hr, rfl⟩ hident
    have htimer : s'.timerOf h = none := by simp [Authentication.timerOf, hl, hr]
    refine ⟨⟨?_, dispatcher_without hs.timers htimer (fun _ _ ht _ => ht) (.refl s'), .refl s'⟩, hs⟩
    refine (graph_without_absent hs.sound ?_ ?_).symm
    · simp [Authentication.graph, hl]
    · simp [Authentication.graph, hr]

theorem returnAll_without (hs : Orderly s) (handles : List Handle) : Without handles s (s.returnAll handles) := by
  induction handles generalizing s with
  | nil => exact .refl hs.sound
  | cons h handles ih =>
    obtain ⟨hw, hs'⟩ := returnIdentityHandle_without hs h
    exact hw.trans (ih hs')

/-! ## Any number of them -/

/-- **Returning identities** comes to the same whatever the order: after any run they are gone, with their triggers, their
relations and the handshakes on these, and everything else is as it was. -/
theorem identities_returned (env : Env κ ρ) {tr : Trace (Authentication κ) (Op × Ambient ρ)} {s : Authentication κ}
    (hr : Run (plugin env).solo tr s) (handles : List Handle) : Without handles s (s.returnAll handles) := by
  exact returnAll_without (run_orderly hr) handles

/-- **The end of the plugin**: after any run and any identities returned, `finalize_authentication` frees everything exactly
if of every two related identities one was returned. Each other relation stays allocated, as it was. -/
theorem finalize_frees_iff (env : Env κ ρ) {tr : Trace (Authentication κ) (Op × Ambient ρ)} {s : Authentication κ}
    (hr : Run (plugin env).solo tr s) (handles : List Handle) :
    ((finalizeAuthentication (s.returnAll handles)).Freed ↔
      ∀ l r, (s.findIdentityRelation l r).isSome → l ∈ handles ∨ r ∈ handles) ∧
    ∀ a relation, s.relation a = some relation → relation.localIdentity ∉ handles → relation.remoteIdentity ∉ handles →
      (finalizeAuthentication (s.returnAll handles)).relation a = some relation := by
  have hs := run_orderly hr
  have hleft := (returnAll_without hs handles).relation
  have hspared : ∀ a relation, s.relation a = some relation → relation.localIdentity ∉ handles →
      relation.remoteIdentity ∉ handles → (s.returnAll handles).relation a = some relation := by
    intro a relation hrel hl hr
    rw [hleft, hrel, Option.filter_some, if_pos (by simp [spares, hl, hr])]
  refine ⟨⟨?_, ?_⟩, hspared⟩
  · rintro ⟨-, -, hnone, -, -⟩ l r hlink
    obtain ⟨a, ha⟩ := Option.isSome_iff_exists.1 hlink
    obtain ⟨relation, hrel, hends⟩ := Option.map_eq_some_iff.1 ((hs.sound.link l r a).1 ha)
    obtain ⟨rfl, rfl⟩ := Prod.mk.inj hends
    by_contra hkept
    obtain ⟨hl, hr⟩ := not_or.1 hkept
    cases (hnone a).symm.trans (hspared a relation hrel hl hr)
  · intro hall
    refine ⟨rfl, rfl, fun a => ?_, rfl, rfl⟩
    change (s.returnAll handles).relation a = none
    rw [hleft]
    rcases hrel : s.relation a with _ | relation
    · rfl
    · have hlink : s.findIdentityRelation relation.localIdentity relation.remoteIdentity = some a :=
        (hs.sound.link _ _ a).2 (by simp [Authentication.graph, hrel])
      have hends := hall _ _ (by rw [hlink]; rfl)
      rw [Option.filter_some, if_neg]
      simp only [spares]
      grind

/-! ## Two related identities -/

/-- After the participant 3 has sent a Request to 5, one of the two is returned. -/
theorem identities_returned_sample : Without [2] (Ideal.after Ideal.start (Ideal.aliceCalls ++ [Ideal.requestCall 10 3]))
    ((Ideal.after Ideal.start (Ideal.aliceCalls ++ [Ideal.requestCall 10 3])).returnAll [2]) :=
  identities_returned Ideal.env (Ideal.calls_run true .mlKem512 _) [2]

theorem finalize_frees_sample :
    ¬ (finalizeAuthentication ((Ideal.after Ideal.start Ideal.aliceCalls).returnAll [])).Freed := by
  intro hfreed
  have hall := (finalize_frees_iff Ideal.env (Ideal.calls_run true .mlKem512 Ideal.aliceCalls) []).1.1 hfreed
  have hnone := hall 1 2 (by decide +kernel)
  simp at hnone

end PqsecDds.CycloneDDS
