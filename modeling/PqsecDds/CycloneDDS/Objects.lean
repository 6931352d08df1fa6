import PqsecDds.CycloneDDS.Specs

/-!
# Objects and operations on a handshake

| here | meaning |
|---|---|
| `Points s c` | the pointers of the context `c` lead to its objects |
| `Moved s h c c' hs s'` | the objects of the handshake `h` went from `c` to `c'`, the others stayed |
| `Source` | where a handshake operation takes its handshake from |
| `OnHandshake` | a run of an operation on the handshake of a pair |
-/

namespace PqsecDds.CycloneDDS

open Lib

variable {κ ρ : Type} {env : Env κ ρ} {amb : Ambient ρ} {s s' : Authentication κ} {h h' l r a : Handle}
variable {s₁ : Authentication κ} {c c' : Context κ} {hs : HandshakeInfo κ}

/-! ## An address holds one object -/

theorem lookup_of_localIdentity {identity : LocalIdentityInfo} (hl : s.localIdentity h = some identity) :
    s.objectHash.lookup h = some (.localIdentity identity) := by
  simp only [Authentication.localIdentity, Option.bind_eq_some_iff] at hl
  obtain ⟨obj, hobj, hl⟩ := hl
  cases obj <;> simp_all [SecurityObject.asLocal]

theorem lookup_of_remoteIdentity {identity : RemoteIdentityInfo} (hr : s.remoteIdentity h = some identity) :
    s.objectHash.lookup h = some (.remoteIdentity identity) := by
  simp only [Authentication.remoteIdentity, Option.bind_eq_some_iff] at hr
  obtain ⟨obj, hobj, hr⟩ := hr
  cases obj <;> simp_all [SecurityObject.asRemote]

theorem lookup_of_handshake (hh : s.handshake h = some hs) : s.objectHash.lookup h = some (.handshake hs) := by
  simp only [Authentication.handshake, Option.bind_eq_some_iff] at hh
  obtain ⟨obj, hobj, hh⟩ := hh
  cases obj <;> simp_all [SecurityObject.asHandshake]

theorem remoteIdentity_of_localIdentity {identity : LocalIdentityInfo} (hl : s.localIdentity h = some identity) :
    s.remoteIdentity h = none := by
  simp [Authentication.remoteIdentity, lookup_of_localIdentity hl, SecurityObject.asRemote]

theorem handshake_of_localIdentity {identity : LocalIdentityInfo} (hl : s.localIdentity h = some identity) :
    s.handshake h = none := by
  simp [Authentication.handshake, lookup_of_localIdentity hl, SecurityObject.asHandshake]

theorem localIdentity_of_remoteIdentity {identity : RemoteIdentityInfo} (hr : s.remoteIdentity h = some identity) :
    s.localIdentity h = none := by
  simp [Authentication.localIdentity, lookup_of_remoteIdentity hr, SecurityObject.asLocal]

theorem handshake_of_remoteIdentity {identity : RemoteIdentityInfo} (hr : s.remoteIdentity h = some identity) :
    s.handshake h = none := by
  simp [Authentication.handshake, lookup_of_remoteIdentity hr, SecurityObject.asHandshake]

theorem localIdentity_of_handshake (hh : s.handshake h = some hs) : s.localIdentity h = none := by
  simp [Authentication.localIdentity, lookup_of_handshake hh, SecurityObject.asLocal]

theorem remoteIdentity_of_handshake (hh : s.handshake h = some hs) : s.remoteIdentity h = none := by
  simp [Authentication.remoteIdentity, lookup_of_handshake hh, SecurityObject.asRemote]

section Fresh

variable (ha : Allocates amb s)

include ha

theorem localIdentity_fresh : s.localIdentity amb.object = none := by
  simp [Authentication.localIdentity, AList.lookup_eq_none.2 ha.object]

theorem remoteIdentity_fresh : s.remoteIdentity amb.object = none := by
  simp [Authentication.remoteIdentity, AList.lookup_eq_none.2 ha.object]

theorem handshake_fresh : s.handshake amb.object = none := by
  simp [Authentication.handshake, AList.lookup_eq_none.2 ha.object]

theorem relation_fresh : s.relation amb.relation = none := AList.lookup_eq_none.2 ha.relation

end Fresh

/-! ## Handshakes by their pair -/

theorem isHandshakeOf_iff {obj : SecurityObject κ} :
    s.isHandshakeOf l r ⟨h, obj⟩ = true ↔ ∃ hs, obj = .handshake hs ∧ s.pairOf hs = some (l, r) := by
  cases obj with
  | localIdentity _ => simp [Authentication.isHandshakeOf, SecurityObject.asHandshake]
  | remoteIdentity _ => simp [Authentication.isHandshakeOf, SecurityObject.asHandshake]
  | handshake hs =>
    simp only [Authentication.isHandshakeOf, SecurityObject.asHandshake, Option.bind_some, SecurityObject.handshake.injEq,
      exists_eq_left']
    exact decide_eq_true_iff

theorem findHandshake_some (hf : s.findHandshake l r = some h) :
    ∃ hs, s.handshake h = some hs ∧ s.pairOf hs = some (l, r) := by
  simp only [Authentication.findHandshake, Option.map_eq_some_iff] at hf
  obtain ⟨⟨h', obj⟩, hfind, rfl⟩ := hf
  obtain ⟨hs, rfl, hpair⟩ := isHandshakeOf_iff.1 (List.find?_some hfind)
  refine ⟨hs, ?_, hpair⟩
  have hlookup := AList.mem_lookup_iff.2 (List.mem_of_find?_eq_some hfind)
  simp [Authentication.handshake, Option.mem_def.1 hlookup, SecurityObject.asHandshake]

theorem findHandshake_none (hf : s.findHandshake l r = none) (hh : s.handshake h = some hs) :
    s.pairOf hs ≠ some (l, r) := by
  simp only [Authentication.findHandshake, Option.map_eq_none_iff, List.find?_eq_none] at hf
  intro hpair
  have hmem := AList.mem_lookup_iff.1 (Option.mem_def.2 (lookup_of_handshake hh))
  exact hf _ hmem (isHandshakeOf_iff.2 ⟨hs, rfl, hpair⟩)

/-! ## A handshake and what it points to -/

/-- The pointers of `c` lead to its objects. -/
structure Points (s : Authentication κ) (c : Context κ) : Prop where
  relation : s.relation c.handshake.relation = some c.relation
  localIdentity : s.localIdentity c.relation.localIdentity = some c.localIdentity
  remoteIdentity : s.remoteIdentity c.relation.remoteIdentity = some c.remoteIdentity

theorem context_eq_some : s.context h = some c ↔ s.handshake h = some c.handshake ∧ Points s c := by
  simp only [Authentication.context, Option.bind_eq_bind, Option.bind_eq_some_iff, Option.pure_def, Option.some.injEq]
  constructor
  · rintro ⟨hs, hhs, rel, hrel, l, hl, r, hr, rfl⟩
    exact ⟨hhs, hrel, hl, hr⟩
  · rintro ⟨hhs, hrel, hl, hr⟩
    exact ⟨_, hhs, _, hrel, _, hl, _, hr, rfl⟩

/-- The fields that no handshake operation changes. -/
structure SameSettings (s s' : Authentication κ) : Prop where
  remoteGuidHash : s'.remoteGuidHash = s.remoteGuidHash
  trustedCaList : s'.trustedCaList = s.trustedCaList
  includeOptional : s'.includeOptional = s.includeOptional
  kem : s'.kem = s.kem

/-- The objects of the handshake `h` went from `c` to `c'`, and `h` holds `left` then. -/
structure Moved (s : Authentication κ) (h : Handle) (c c' : Context κ) (left : Option (HandshakeInfo κ))
    (s' : Authentication κ) : Prop where
  localIdentity : ∀ l, s'.localIdentity l = if l = c.relation.localIdentity then some c'.localIdentity
    else s.localIdentity l
  remoteIdentity : ∀ r, s'.remoteIdentity r = if r = c.relation.remoteIdentity then some c'.remoteIdentity
    else s.remoteIdentity r
  relation : ∀ a, s'.relation a = if a = c.handshake.relation then some c'.relation else s.relation a
  handshake : ∀ h', s'.handshake h' = if h' = h then left else s.handshake h'
  settings : SameSettings s s'

theorem setContext_moved (hc : s.context h = some c) (hframe : c.Frame c') :
    Moved s h c c' (some c'.handshake) (s.setContext h c') := by
  obtain ⟨hh, hrel, hl, hr⟩ := context_eq_some.1 hc
  have hlh := localIdentity_of_handshake hh
  have hrh := remoteIdentity_of_handshake hh
  have hlr := localIdentity_of_remoteIdentity hr
  have hrl := remoteIdentity_of_localIdentity hl
  have hhl := handshake_of_localIdentity hl
  have hhr := handshake_of_remoteIdentity hr
  refine ⟨fun x => ?_, fun x => ?_, fun x => ?_, fun x => ?_, rfl, rfl, rfl, rfl⟩
  all_goals
    simp only [Authentication.setContext, hframe.localHandle, hframe.remoteHandle, hframe.relation,
      localIdentity_putRelation, remoteIdentity_putRelation, handshake_putRelation, relation_putRelation,
      localIdentity_putObject, remoteIdentity_putObject, handshake_putObject, relation_putObject,
      SecurityObject.asLocal, SecurityObject.asRemote, SecurityObject.asHandshake]
  · grind
  · grind
  · grind

/-- Where a handshake operation on the pair takes its handshake from: it is found, or made. -/
inductive Source (amb : Ambient ρ) (s : Authentication κ) (l r : Handle) (step : CreatedHandshakeStep) :
    Handle → Context κ → Prop
  | found {h : Handle} {c : Context κ} (handshake : s.handshake h = some c.handshake)
      (localHandle : c.relation.localIdentity = l) (remoteHandle : c.relation.remoteIdentity = r) :
      Source amb s l r step h c
  | made {c : Context κ} {a : Handle} (none : ∀ h hs, s.handshake h = some hs → s.pairOf hs ≠ some (l, r))
      (linked : s.findIdentityRelation l r = some a) (handshake : c.handshake = .new a step) :
      Source amb s l r step amb.object c

/-- What is at the handle of a handshake after an operation on it: one that was made for it goes again if it
fails. -/
def remaining {α : Type} (before : Option (HandshakeInfo κ)) (result : Except Stop α) (after : HandshakeInfo κ) :
    Option (HandshakeInfo κ) :=
  if before.isSome || result.isOk then some after else none

/-- A run of `x` on the handshake of a pair. -/
structure OnHandshake (amb : Ambient ρ) (s : Authentication κ) (l r : Handle) (step : CreatedHandshakeStep)
    {α : Type} (x : HandshakeCall κ α) (h : Handle) (c c' : Context κ) (result : Except Stop α)
    (s' : Authentication κ) : Prop where
  source : Source amb s l r step h c
  points : Points s c
  run : x c = (result, c')
  moved : Moved s h c c' (remaining (s.handshake h) result c'.handshake) s'
  dispatcher : s'.dispatcher = s.dispatcher

theorem withContext_eq {α : Type} {x : HandshakeCall κ α} {res : Except Stop α}
    (hrun : withContext h x s = (res, s')) :
    (res = .error (.fault .nullPointer) ∧ s.context h = none ∧ s' = s) ∨
      ∃ c c', s.context h = some c ∧ x c = (res, c') ∧ s' = s.setContext h c' := by
  rcases hc : s.context h with _ | c
  · left
    simp only [withContext, Act.zoom, hc, need, Option.elim_none, Prod.mk.injEq] at hrun
    exact ⟨hrun.1.symm, rfl, hrun.2.symm⟩
  · right
    simp only [withContext, Act.zoom, hc, need, Option.elim_some, Prod.mk.injEq] at hrun
    exact ⟨c, (x c).2, rfl, Prod.ext hrun.1 rfl, hrun.2.symm⟩

theorem points_putObject_handshake (hs : HandshakeInfo κ)
    (hp : Points (s.putObject h (.handshake hs)) c) : Points s c := by
  obtain ⟨hrel, hl, hr⟩ := hp
  refine ⟨hrel, ?_, ?_⟩
  · simp only [localIdentity_putObject, SecurityObject.asLocal] at hl
    split at hl
    · cases hl
    · exact hl
  · simp only [remoteIdentity_putObject, SecurityObject.asRemote] at hr
    split at hr
    · cases hr
    · exact hr

theorem handshakeFor_ok {step : CreatedHandshakeStep} {created : Bool}
    (hrun : handshakeFor amb l r step s = (.ok (h, created), s')) :
    (created = false ∧ s' = s ∧ s.findHandshake l r = some h) ∨
      ∃ a, created = true ∧ h = amb.object ∧ s' = s.putObject amb.object (.handshake (.new a step)) ∧
        s.findHandshake l r = none ∧ s.findIdentityRelation l r = some a := by
  simp only [handshakeFor, Act.bind_ok, Act.read_ok, and_assoc, exists_and_left, exists_eq_left'] at hrun
  rcases hfind : s.findHandshake l r with _ | h'
  · simp only [hfind, Act.bind_ok, Act.demand_ok, Act.write_ok, Act.pure_ok, Prod.mk.injEq] at hrun
    obtain ⟨a, _, ⟨hrel, rfl⟩, _, _, rfl, ⟨rfl, rfl⟩, rfl⟩ := hrun
    exact .inr ⟨a, rfl, rfl, rfl, rfl, hrel⟩
  · simp only [hfind, Act.pure_ok, Prod.mk.injEq] at hrun
    obtain ⟨⟨rfl, rfl⟩, rfl⟩ := hrun
    exact .inl ⟨rfl, rfl, rfl⟩

theorem handshakeFor_error {step : CreatedHandshakeStep} {e : Stop}
    (hrun : handshakeFor amb l r step s = (.error e, s')) : e = .fault .assertion := by
  rcases Act.bind_eq.1 hrun with ⟨_, hr, -⟩ | ⟨o, s₁, hr, hrun⟩
  · cases hr
  obtain ⟨rfl, rfl⟩ := Act.read_ok.1 hr
  rcases hfind : s.findHandshake l r with _ | h'
  · simp only [hfind] at hrun
    rcases Act.bind_eq.1 hrun with ⟨_, hr, he⟩ | ⟨a, s₁, -, hrun⟩
    · obtain rfl := Except.error.inj he
      simp only [Act.demand, Prod.mk.injEq] at hr
      rcases hrel : s.findIdentityRelation l r with _ | a
      · simp only [hrel, need, Option.elim_none, Except.error.injEq] at hr
        exact hr.1.symm
      · simp [hrel, need] at hr
    · cases hrun
  · simp only [hfind] at hrun
    cases hrun

/-- The parts of `onHandshake`: the handshake is found or made, and `x` runs on what it points to. -/
theorem onHandshake_eq {α : Type} {x : HandshakeCall κ α} {step : CreatedHandshakeStep}
    {res : Except Stop (Handle × α)} (hrun : onHandshake amb l r step x s = (res, s'))
    (hok : ∀ f, res ≠ .error (.fault f)) :
    ∃ h created s₁ c c' rx, handshakeFor amb l r step s = (.ok (h, created), s₁) ∧ s₁.context h = some c ∧
      x c = (rx, c') ∧ res = rx.map (h, ·) ∧
      s' = if rx.isOk then s₁.setContext h c'
        else if created then (s₁.setContext h c').removeObject h else s₁.setContext h c' := by
  rcases Act.bind_eq.1 hrun with ⟨e, hfor, rfl⟩ | ⟨⟨h, created⟩, s₁, hfor, hbody⟩
  · obtain rfl := handshakeFor_error hfor
    exact absurd rfl (hok _)
  have hres : ∃ rx, Act.onStop (withContext h x) (fun s => if created then s.removeObject h else s) s₁ = (rx, s') ∧
      res = rx.map (h, ·) := by
    rcases Act.bind_eq.1 hbody with ⟨e, hx, rfl⟩ | ⟨v, s₂, hx, hpure⟩
    · exact ⟨.error e, hx, rfl⟩
    · obtain ⟨rfl, rfl⟩ := Prod.mk.inj hpure
      exact ⟨.ok v, hx, rfl⟩
  obtain ⟨rx, hstop, rfl⟩ := hres
  obtain ⟨s₂, hwith, rfl⟩ := Act.onStop_eq.1 hstop
  rcases withContext_eq hwith with ⟨rfl, -, -⟩ | ⟨c, c', hc, hxc, rfl⟩
  · exact absurd rfl (hok .nullPointer)
  · exact ⟨h, created, s₁, c, c', rx, hfor, hc, hxc, rfl, rfl⟩

/-- A handshake that was made leaves the other objects as they were before. -/
theorem moved_putObject (ha : Allocates amb s) {left : Option (HandshakeInfo κ)}
    (hm : Moved (s.putObject amb.object (.handshake hs)) amb.object c c' left s') :
    Moved s amb.object c c' left s' := by
  refine ⟨fun x => ?_, fun x => ?_, hm.relation, fun x => ?_, hm.settings.1, hm.settings.2, hm.settings.3, hm.settings.4⟩
  · rw [hm.localIdentity, localIdentity_putObject]
    have hfresh := localIdentity_fresh ha
    grind [SecurityObject.asLocal]
  · rw [hm.remoteIdentity, remoteIdentity_putObject]
    have hfresh := remoteIdentity_fresh ha
    grind [SecurityObject.asRemote]
  · rw [hm.handshake, handshake_putObject]
    grind

theorem moved_removeObject {left : Option (HandshakeInfo κ)} (hm : Moved s h c c' left s') (hp : Points s c)
    (hl : s.localIdentity h = none) (hr : s.remoteIdentity h = none) : Moved s h c c' none (s'.removeObject h) := by
  have hlocal := hp.localIdentity
  have hremote := hp.remoteIdentity
  refine ⟨fun x => ?_, fun x => ?_, hm.relation, fun x => ?_, hm.settings.1, hm.settings.2, hm.settings.3, hm.settings.4⟩
  · rw [localIdentity_removeObject, hm.localIdentity]
    grind
  · rw [remoteIdentity_removeObject, hm.remoteIdentity]
    grind
  · rw [handshake_removeObject, hm.handshake]
    grind

theorem onHandshake_cases {α : Type} {x : HandshakeCall κ α} {step : CreatedHandshakeStep}
    {res : Except Stop (Handle × α)} (ha : Allocates amb s) (hx : Act.Keeps Context.Frame x)
    (hrun : onHandshake amb l r step x s = (res, s')) (hok : ∀ f, res ≠ .error (.fault f)) :
    ∃ h c c' rx, res = rx.map (h, ·) ∧ OnHandshake amb s l r step x h c c' rx s' := by
  obtain ⟨h, created, s₁, c, c', rx, hfor, hc, hxc, rfl, rfl⟩ := onHandshake_eq hrun hok
  refine ⟨h, c, c', rx, rfl, ?_⟩
  have hmoved := setContext_moved hc (hx.result hxc)
  obtain ⟨hh, hpoints⟩ := context_eq_some.1 hc
  rcases handshakeFor_ok hfor with ⟨rfl, rfl, hfind⟩ | ⟨a, rfl, rfl, rfl, hfind, hrel⟩
  · obtain ⟨hs, hhs, hpair⟩ := findHandshake_some hfind
    obtain rfl := Option.some.inj (hh.symm.trans hhs)
    simp only [Authentication.pairOf, hpoints.relation, Option.map_some, Option.some.injEq, Prod.mk.injEq] at hpair
    refine ⟨.found hhs hpair.1 hpair.2, hpoints, hxc, ?_, ?_⟩
    · simpa [remaining, hh] using hmoved
    · split <;> rfl
  · have hnew : c.handshake = .new a step := by
      simp only [handshake_putObject, if_true, SecurityObject.asHandshake, Option.some.injEq] at hh
      exact hh.symm
    have hold := points_putObject_handshake _ hpoints
    refine ⟨.made (fun h' hs' hh' => findHandshake_none hfind hh') hrel hnew, hold, hxc, ?_, ?_⟩
    · have hm := moved_putObject ha hmoved
      rcases rx with e | v
      · simp only [remaining, handshake_fresh ha, Except.isOk, Except.toBool]
        exact moved_removeObject hm hold (localIdentity_fresh ha) (remoteIdentity_fresh ha)
      · simpa [remaining, Except.isOk, Except.toBool] using hm
    · split
      · rfl
      · split <;> rfl

end PqsecDds.CycloneDDS
