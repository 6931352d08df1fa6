import PqsecDds.CycloneDDS.Faults
import PqsecDds.CycloneDDS.Ideal
import PqsecDds.CycloneDDS.ObjectGraph

/-!
# Referential integrity of the object store

Each call acts on the graph of the objects by operations of `ObjectGraph` whose conditions hold, so the graph is
sound in every reachable state. The cascades of `return_identity_handle` find one handshake for each pair, which is
enough because there is at most one.
-/

namespace PqsecDds.CycloneDDS

open Lib ObjectGraph

variable {κ ρ : Type} {env : Env κ ρ} {amb : Ambient ρ} {s s' : Authentication κ} {h l r a : Handle}
variable {c c' : Context κ} {hs : HandshakeInfo κ}

namespace Authentication

/-- The references between the objects. -/
def graph (s : Authentication κ) : ObjectGraph where
  isLocal l := (s.localIdentity l).isSome
  guid r := (s.remoteIdentity r).map (·.guid)
  remoteOf g := s.remoteGuidHash.lookup g
  link r l := s.findIdentityRelation l r
  pair a := (s.relation a).map fun relation => (relation.localIdentity, relation.remoteIdentity)
  relationOf h := (s.handshake h).map (·.relation)

end Authentication

/-! ## What the calls do to the graph -/

theorem LocalPut.graph {identity : LocalIdentityInfo} (hput : LocalPut s l identity s')
    (hguids : s'.remoteGuidHash = s.remoteGuidHash) : s'.graph = s.graph.addLocal l := by
  ext x y z
  · simp only [Authentication.graph, addLocal, hput.localIdentity]
    grind
  · simp only [Authentication.graph, addLocal, hput.remoteIdentity]
  · simp only [Authentication.graph, addLocal, hguids]
  · simp only [Authentication.graph, addLocal, Authentication.findIdentityRelation, hput.remoteIdentity]
  · simp only [Authentication.graph, addLocal, hput.relation]
  · simp only [Authentication.graph, addLocal, hput.handshake]

/-- The references between the objects of a context stay. -/
structure Context.SameReferences (c c' : Context κ) : Prop where
  localHandle : c'.relation.localIdentity = c.relation.localIdentity
  remoteHandle : c'.relation.remoteIdentity = c.relation.remoteIdentity
  guid : c'.remoteIdentity.guid = c.remoteIdentity.guid
  linkHash : c'.remoteIdentity.linkHash = c.remoteIdentity.linkHash

theorem Context.Frame.references (hframe : c.Frame c') : c.SameReferences c' :=
  ⟨hframe.localHandle, hframe.remoteHandle, hframe.guid, hframe.linkHash⟩

theorem Context.Frame.watched_references (hframe : c.Frame c') {certExp : Int} :
    c.SameReferences (c'.watched amb certExp) := by
  unfold Context.watched
  split
  · exact ⟨hframe.localHandle, hframe.remoteHandle, hframe.guid, hframe.linkHash⟩
  · exact hframe.references

/-- The graph sees of a handshake operation only what is at the handshake's handle. -/
theorem Moved.graph {left : Option (HandshakeInfo κ)} (hm : Moved s h c c' left s') (hp : Points s c)
    (hframe : c.SameReferences c') :
    s'.graph = { s.graph with relationOf := Function.update s.graph.relationOf h (left.map (·.relation)) } := by
  have hlocal := hp.localIdentity
  have hremote := hp.remoteIdentity
  have hrelation := hp.relation
  ext x y z
  · simp only [Authentication.graph, hm.localIdentity]
    grind
  · simp only [Authentication.graph, hm.remoteIdentity]
    have hguid := hframe.guid
    grind
  · simp only [Authentication.graph, hm.settings.remoteGuidHash]
  · simp only [Authentication.graph, Authentication.findIdentityRelation, hm.remoteIdentity]
    have hlink := hframe.linkHash
    grind
  · simp only [Authentication.graph, hm.relation]
    have hl := hframe.localHandle
    have hr := hframe.remoteHandle
    grind
  · simp only [Authentication.graph, hm.handshake, Function.update_apply]
    grind

theorem graph_update_self (s : Authentication κ) (h : Handle) :
    { s.graph with relationOf := Function.update s.graph.relationOf h ((s.handshake h).map (·.relation)) } = s.graph := by
  ext x y z
  · rfl
  · rfl
  · rfl
  · rfl
  · rfl
  · simp only [Function.update_apply]
    split
    · rename_i hx
      rw [hx]
      rfl
    · rfl

section RemoteSeen

variable {request : Option Token} {token : Token} {guid : Guid} {remote : RemoteIdentityInfo}
variable {relation : IdentityRelation} {rchallenge : Option Challenge}

theorem RemoteSeen.sound (ha : Allocates amb s) (hG : s.graph.Sound)
    (hseen : RemoteSeen env amb s request l token guid r a remote relation rchallenge s') : s'.graph.Sound := by
  obtain ⟨lchallenge, -, hsight⟩ := hseen.sighting
  have hl : s.graph.isLocal l := hseen.local_isSome
  have hpair : s.graph.pair amb.relation = none := by simp [Authentication.graph, relation_fresh ha]
  cases hsight with
  | made new =>
    have hguid : s.graph.guid amb.object = none := by simp [Authentication.graph, remoteIdentity_fresh ha]
    have hlink : s.graph.link amb.object l = none := by
      simp [Authentication.graph, Authentication.findIdentityRelation, remoteIdentity_fresh ha]
    have heq : s'.graph = (s.graph.addRemote amb.object guid).addLink l amb.object amb.relation := by
      ext x y z
      · simp only [Authentication.graph, addLink, addRemote, hseen.localIdentity]
      · simp only [Authentication.graph, addLink, addRemote, hseen.remoteIdentity, Function.update_apply]
        grind
      · simp only [Authentication.graph, addLink, addRemote, hseen.remoteGuidHash, Function.update_apply]
      · simp only [Authentication.graph, addLink, addRemote, Authentication.findIdentityRelation, hseen.remoteIdentity,
          Function.update_apply]
        by_cases hx : x = amb.object
        · subst hx
          by_cases hy : y = l
          · subst hy
            simp only [if_true, Option.bind_some, AList.lookup_insert, Function.update_self]
          · simp only [if_true, Option.bind_some, Function.update_of_ne hy, AList.lookup_insert_ne hy,
              remoteIdentity_fresh ha]
            rfl
        · simp only [if_neg hx]
      · simp only [Authentication.graph, addLink, addRemote, hseen.relation, Function.update_apply]
        grind
      · simp only [Authentication.graph, addLink, addRemote, hseen.handshake]
    rw [heq]
    refine (hG.addRemote hguid new).addLink hl ?_ hlink hpair
    simp [addRemote]
  | @linked _ old known object unlinked =>
    have hguid : (s.graph.guid r).isSome := by simp [Authentication.graph, object]
    have hlink : s.graph.link r l = none := by
      simp [Authentication.graph, Authentication.findIdentityRelation, object, unlinked]
    have heq : s'.graph = s.graph.addLink l r amb.relation := by
      ext x y z
      · simp only [Authentication.graph, addLink, hseen.localIdentity]
      · simp only [Authentication.graph, addLink, hseen.remoteIdentity]
        grind
      · simp only [Authentication.graph, addLink, hseen.remoteGuidHash]
        grind
      · simp only [Authentication.graph, addLink, Authentication.findIdentityRelation, hseen.remoteIdentity,
          Function.update_apply]
        by_cases hx : x = r
        · subst hx
          by_cases hy : y = l
          · subst hy
            simp only [if_true, Option.bind_some, AList.lookup_insert, Function.update_self]
          · simp only [if_true, Option.bind_some, Function.update_of_ne hy, AList.lookup_insert_ne hy, object]
        · simp only [if_neg hx]
      · simp only [Authentication.graph, addLink, hseen.relation, Function.update_apply]
        grind
      · simp only [Authentication.graph, addLink, hseen.handshake]
    rw [heq]
    exact hG.addLink hl hguid hlink hpair
  | @known _ _ _ old known object linked pointer =>
    have heq : s'.graph = s.graph := by
      ext x y z
      · simp only [Authentication.graph, hseen.localIdentity]
      · simp only [Authentication.graph, hseen.remoteIdentity]
        grind
      · simp only [Authentication.graph, hseen.remoteGuidHash]
        grind
      · simp only [Authentication.graph, Authentication.findIdentityRelation, hseen.remoteIdentity]
        grind
      · simp only [Authentication.graph, hseen.relation]
        grind
      · simp only [Authentication.graph, hseen.handshake]
    rw [heq]
    exact hG

end RemoteSeen

theorem OnHandshake.sound {α : Type} {x : HandshakeCall κ α} {step : CreatedHandshakeStep} {rx : Except Stop α}
    (ha : Allocates amb s) (hG : s.graph.Sound) (hon : OnHandshake amb s l r step x h c c' rx s')
    (hframe : c.Frame c') : s'.graph.Sound := by
  rw [hon.moved.graph hon.points hframe.references]
  have hsource := hon.source
  cases hsource with
  | found handshake localHandle remoteHandle =>
    have hsame : (remaining (s.handshake h) rx c'.handshake).map (·.relation) = (s.handshake h).map (·.relation) := by
      simp [remaining, handshake, hframe.relation]
    rw [hsame, graph_update_self]
    exact hG
  | made none linked handshake =>
    rename_i a
    have hnone := handshake_fresh ha
    have hpair : s.graph.pair a = some (l, r) := (hG.link l r a).1 linked
    have hfree : ∀ h', s.graph.relationOf h' ≠ some a := by
      intro h' hh'
      simp only [Authentication.graph, Option.map_eq_some_iff] at hh' hpair
      obtain ⟨hs, hhs, rfl⟩ := hh'
      obtain ⟨relation, hrelation, hends⟩ := hpair
      refine none h' hs hhs ?_
      simp [Authentication.pairOf, hrelation, hends]
    cases rx with
    | error e =>
      have hsame : (remaining (s.handshake amb.object) (.error e : Except Stop α) c'.handshake).map (·.relation) =
          (s.handshake amb.object).map (·.relation) := by
        simp [remaining, hnone, Except.isOk, Except.toBool]
      rw [hsame, graph_update_self]
      exact hG
    | ok v =>
      have hnew : (remaining (s.handshake amb.object) (.ok v : Except Stop α) c'.handshake).map (·.relation) = some a := by
        simp [remaining, hnone, Except.isOk, Except.toBool, hframe.relation, handshake, HandshakeInfo.new]
      rw [hnew]
      exact hG.addHandshake (by rw [hpair]; rfl) hfree

theorem Moved.sound_of_kept (hm : Moved s h c c' (some hs) s') (hh : s.handshake h = some c.handshake) (hp : Points s c)
    (hframe : c.SameReferences c') (hrel : hs.relation = c.handshake.relation) (hG : s.graph.Sound) : s'.graph.Sound := by
  rw [hm.graph hp hframe]
  have hsame : (some hs).map (·.relation) = (s.handshake h).map (·.relation) := by simp [hh, hrel]
  rw [hsame, graph_update_self]
  exact hG

theorem OnProcess.sound {inp : Token} {rx : Except Stop (HandshakeResult × Int)} (hG : s.graph.Sound)
    (hon : OnProcess env amb s inp h c c' rx s') : s'.graph.Sound := by
  have hframe : c.Frame c' := processToken_frame.result hon.run
  cases rx with
  | error e => exact (hon.failed e rfl).1.sound_of_kept hon.handshake hon.points hframe.references hframe.relation hG
  | ok v =>
    have hmoved := (hon.ok v.1 v.2 rfl).1
    exact hmoved.sound_of_kept hon.handshake hon.points hframe.watched_references hframe.relation hG

theorem removeObject_handshake_graph (hh : s.handshake h = some hs) : (s.removeObject h).graph = s.graph.removeHandshake h := by
  have hl := localIdentity_of_handshake hh
  have hr := remoteIdentity_of_handshake hh
  ext x y z
  · simp only [Authentication.graph, removeHandshake, localIdentity_removeObject]
    grind
  · simp only [Authentication.graph, removeHandshake, remoteIdentity_removeObject]
    grind
  · rfl
  · simp only [Authentication.graph, removeHandshake, Authentication.findIdentityRelation, remoteIdentity_removeObject]
    grind
  · rfl
  · simp only [Authentication.graph, removeHandshake, handshake_removeObject, Function.update_apply]
    grind

/-! ## The cascades -/

theorem pairOf_eq_some_iff : s.pairOf hs = some (l, r) ↔ s.graph.pair hs.relation = some (l, r) := Iff.rfl

/-- Without the relation of a pair there is no handshake of the pair. -/
theorem findHandshake_eq_none (hG : s.graph.Sound) (hlink : s.findIdentityRelation l r = none) :
    s.findHandshake l r = none := by
  rcases hfind : s.findHandshake l r with _ | h
  · rfl
  · obtain ⟨hs, -, hpair⟩ := findHandshake_some hfind
    have h := (hG.link l r _).2 (pairOf_eq_some_iff.1 hpair)
    rw [show s.graph.link r l = none from hlink] at h
    cases h

/-- The handshake that is found is the one on the relation of the pair. -/
theorem findHandshake_iff (hG : s.graph.Sound) (hlink : s.findIdentityRelation l r = some a) :
    s.findHandshake l r = some h ↔ s.graph.relationOf h = some a := by
  have hpair : s.graph.pair a = some (l, r) := (hG.link l r a).1 hlink
  constructor
  · intro hfind
    obtain ⟨hs, hh, hp⟩ := findHandshake_some hfind
    have hrel := (hG.link l r _).2 (pairOf_eq_some_iff.1 hp)
    rw [show s.graph.link r l = some a from hlink] at hrel
    simp [Authentication.graph, hh, ← Option.some.inj hrel]
  · intro hrel
    obtain ⟨hs, hh, ha⟩ := Option.map_eq_some_iff.1 hrel
    subst ha
    rcases hfind : s.findHandshake l r with _ | h'
    · exact absurd hpair (findHandshake_none hfind hh)
    · obtain ⟨hs', hh', hp⟩ := findHandshake_some hfind
      have hrel' := (hG.link l r _).2 (pairOf_eq_some_iff.1 hp)
      rw [show s.graph.link r l = some hs.relation from hlink] at hrel'
      have heq := Option.some.inj hrel'
      congr 1
      refine hG.unique h' h hs.relation ?_ hrel
      simp [Authentication.graph, hh', heq]

theorem invalidatePair_of_unlinked (hG : s.graph.Sound) (hlink : s.findIdentityRelation l r = none) :
    s.invalidatePair l r = s := by
  have hfind := findHandshake_eq_none hG hlink
  simp only [Authentication.findIdentityRelation] at hlink
  rw [invalidatePair_eq, Authentication.withoutHandshake]
  simp only [hfind]
  unfold Authentication.withoutRelation
  split
  · rfl
  · rename_i remote hremote
    rw [hremote, Option.bind_some] at hlink
    rw [hlink]

/-- Removing the handshake of a pair, if there is one, clears the handshakes on the relation of the pair. -/
theorem graph_without_handshake (hG : s.graph.Sound) (hlink : s.findIdentityRelation l r = some a) :
    (s.withoutHandshake l r).graph =
      { s.graph with relationOf := fun h => if s.graph.relationOf h = some a then none else s.graph.relationOf h } := by
  unfold Authentication.withoutHandshake
  rcases hfind : s.findHandshake l r with _ | h
  · ext x y z
    · rfl
    · rfl
    · rfl
    · rfl
    · rfl
    · have hx : s.graph.relationOf x ≠ some a := by
        intro hx
        rw [(findHandshake_iff hG hlink).2 hx] at hfind
        cases hfind
      simp only [if_neg hx]
  · have hrel := (findHandshake_iff hG hlink).1 hfind
    obtain ⟨hs, hh, -⟩ := findHandshake_some hfind
    simp only [removeObject_handshake_graph hh]
    ext x y z
    · rfl
    · rfl
    · rfl
    · rfl
    · rfl
    · simp only [removeHandshake, Function.update_apply]
      have hunique := hG.unique x h a
      grind

theorem graph_erase_link {remote : RemoteIdentityInfo} (hr : s.remoteIdentity r = some remote) :
    { s.putObject r (.remoteIdentity { remote with linkHash := remote.linkHash.erase l }) with
      relations := s.relations.erase a }.graph =
      { s.graph with
        link := Function.update s.graph.link r (Function.update (s.graph.link r) l none)
        pair := Function.update s.graph.pair a none } := by
  have hnl := localIdentity_of_remoteIdentity hr
  have hnh := handshake_of_remoteIdentity hr
  ext x y z
  · change ((s.putObject r _).localIdentity x).isSome ↔ _
    rw [localIdentity_putObject]
    simp only [Authentication.graph, SecurityObject.asLocal]
    grind
  · change ((s.putObject r _).remoteIdentity x).map _ = _ ↔ _
    rw [remoteIdentity_putObject]
    simp only [Authentication.graph, SecurityObject.asRemote]
    grind
  · rfl
  · change ((s.putObject r _).remoteIdentity x).bind _ = _ ↔ _
    rw [remoteIdentity_putObject]
    simp only [Authentication.graph, SecurityObject.asRemote, Function.update_apply, Authentication.findIdentityRelation]
    by_cases hx : x = r
    · subst hx
      by_cases hy : y = l
      · subst hy
        simp only [if_true, Option.bind_some, AList.lookup_erase, Function.update_self]
      · simp only [if_true, Option.bind_some, Function.update_of_ne hy, AList.lookup_erase_ne hy, hr]
    · simp only [if_neg hx]
  · change ((s.relations.erase a).lookup x).map _ = _ ↔ _
    by_cases hx : x = a
    · subst hx
      simp only [AList.lookup_erase, Function.update_self, Option.map_none]
    · simp only [AList.lookup_erase_ne hx, Function.update_of_ne hx]
      rfl
  · change ((s.putObject r _).handshake x).map _ = _ ↔ _
    rw [handshake_putObject]
    simp only [Authentication.graph, SecurityObject.asHandshake]
    grind

theorem invalidatePair_graph (hG : s.graph.Sound) : (s.invalidatePair l r).graph = s.graph.unlink l r := by
  rcases hlink : s.findIdentityRelation l r with _ | a
  · rw [invalidatePair_of_unlinked hG hlink, ObjectGraph.unlink, show s.graph.link r l = none from hlink]
  · have hwithout := graph_without_handshake hG hlink
    rw [ObjectGraph.unlink, show s.graph.link r l = some a from hlink]
    have hlink₁ : (s.withoutHandshake l r).findIdentityRelation l r = some a := by
      change (s.withoutHandshake l r).graph.link r l = some a
      rw [hwithout]
      exact hlink
    obtain ⟨remote, hr, ha⟩ := Option.bind_eq_some_iff.1 hlink₁
    rw [invalidatePair_eq, Authentication.withoutRelation]
    simp only [hr, ha]
    rw [graph_erase_link hr, hwithout]

def Authentication.invalidateAll (s : Authentication κ) (pairs : List (Handle × Handle)) : Authentication κ :=
  pairs.foldl (fun s p => s.invalidatePair p.1 p.2) s

theorem invalidateAll_graph (pairs : List (Handle × Handle)) (hG : s.graph.Sound) :
    (s.invalidateAll pairs).graph = s.graph.unlinkAll pairs := by
  induction pairs generalizing s with
  | nil => rfl
  | cons p pairs ih =>
    have hpair : (s.invalidatePair p.1 p.2).graph = s.graph.unlink p.1 p.2 := invalidatePair_graph hG
    have hsound : (s.invalidatePair p.1 p.2).graph.Sound := by
      rw [hpair]
      exact hG.unlink
    calc ((s.invalidatePair p.1 p.2).invalidateAll pairs).graph
        = (s.invalidatePair p.1 p.2).graph.unlinkAll pairs := ih hsound
      _ = (s.graph.unlink p.1 p.2).unlinkAll pairs := by rw [hpair]

/-- The pairs of a local identity with all remote identities. -/
def Authentication.pairsOfLocal (s : Authentication κ) (l : Handle) : List (Handle × Handle) :=
  (s.objectHash.entries.filter (·.2.asRemote.isSome)).map fun e => (l, e.1)

theorem invalidateLocal_eq (s : Authentication κ) (l : Handle) : s.invalidateLocal l = s.invalidateAll (s.pairsOfLocal l) := by
  unfold Authentication.invalidateLocal Authentication.invalidateAll Authentication.pairsOfLocal
  rw [List.foldl_map, List.foldl_filter]

/-- The pairs of a remote identity with the local identities it is related to. -/
def RemoteIdentityInfo.pairs (remote : RemoteIdentityInfo) (r : Handle) : List (Handle × Handle) :=
  remote.linkHash.entries.map fun e => (e.1, r)

theorem invalidateRemote_eq (s : Authentication κ) (r : Handle) (remote : RemoteIdentityInfo) :
    s.invalidateRemote r remote = s.invalidateAll (remote.pairs r) := by
  unfold Authentication.invalidateRemote Authentication.invalidateAll RemoteIdentityInfo.pairs
  rw [List.foldl_map]

theorem mem_pairsOfLocal {identity : RemoteIdentityInfo} (hr : s.remoteIdentity r = some identity) :
    (l, r) ∈ s.pairsOfLocal l := by
  refine List.mem_map.2 ⟨⟨r, .remoteIdentity identity⟩, List.mem_filter.2 ⟨?_, rfl⟩, rfl⟩
  exact AList.mem_lookup_iff.1 (Option.mem_def.2 (lookup_of_remoteIdentity hr))

theorem mem_pairs {remote : RemoteIdentityInfo} (hl : remote.linkHash.lookup l = some a) : (l, r) ∈ remote.pairs r :=
  List.mem_map.2 ⟨⟨l, a⟩, AList.mem_lookup_iff.1 (Option.mem_def.2 hl), rfl⟩

theorem removeObject_local_graph {identity : LocalIdentityInfo} (hl : s.localIdentity l = some identity) :
    (s.removeObject l).graph = s.graph.removeLocal l := by
  have hr := remoteIdentity_of_localIdentity hl
  have hh := handshake_of_localIdentity hl
  ext x y z
  · simp only [Authentication.graph, removeLocal, localIdentity_removeObject]
    grind
  · simp only [Authentication.graph, removeLocal, remoteIdentity_removeObject]
    grind
  · rfl
  · simp only [Authentication.graph, removeLocal, Authentication.findIdentityRelation, remoteIdentity_removeObject]
    grind
  · rfl
  · simp only [Authentication.graph, removeLocal, handshake_removeObject]
    grind

theorem removeObject_remote_graph {identity : RemoteIdentityInfo} {guid : Guid} {guids : AList fun _ : Guid => Handle}
    (hr : s.remoteIdentity r = some identity) (hguids : ∀ g, s.remoteGuidHash.lookup g = guids.lookup g)
    (hnone : ∀ l, s.graph.link r l = none) :
    { s.removeObject r with remoteGuidHash := guids.erase guid }.graph = s.graph.removeRemote r guid := by
  have hl := localIdentity_of_remoteIdentity hr
  have hh := handshake_of_remoteIdentity hr
  ext x y z
  · change ((s.removeObject r).localIdentity x).isSome ↔ _
    rw [localIdentity_removeObject]
    simp only [Authentication.graph, removeRemote]
    grind
  · change ((s.removeObject r).remoteIdentity x).map _ = _ ↔ _
    rw [remoteIdentity_removeObject]
    simp only [Authentication.graph, removeRemote, Function.update_apply]
    grind
  · change (guids.erase guid).lookup x = _ ↔ _
    simp only [removeRemote]
    by_cases hx : x = guid
    · subst hx
      rw [AList.lookup_erase, Function.update_self]
    · rw [AList.lookup_erase_ne hx, Function.update_of_ne hx, ← hguids]
      rfl
  · change ((s.removeObject r).remoteIdentity x).bind _ = _ ↔ _
    rw [remoteIdentity_removeObject]
    simp only [removeRemote]
    by_cases hx : x = r
    · subst hx
      rw [if_pos rfl, hnone]
      rfl
    · rw [if_neg hx]
      rfl
  · rfl
  · change ((s.removeObject r).handshake x).map _ = _ ↔ _
    rw [handshake_removeObject]
    simp only [Authentication.graph, removeRemote]
    grind

theorem graph_removeTimer (s : Authentication κ) (timer : Nat) : (s.removeTimer timer).graph = s.graph := by
  unfold Authentication.removeTimer
  split <;> rfl

theorem returnIdentity_local_graph {identity : LocalIdentityInfo} (hG : s.graph.Sound)
    (hobj : s.objectHash.lookup h = some (.localIdentity identity)) :
    ∃ pairs : List (Handle × Handle), (∀ p ∈ pairs, p.1 = h) ∧ (∀ r, (s.graph.unlinkAll pairs).link r h = none) ∧
      (s.returnIdentity h (.localIdentity identity)).graph = (s.graph.unlinkAll pairs).removeLocal h := by
  simp only [Authentication.returnIdentity, invalidateLocal_eq]
  have hG₀ : (s.removeTimer identity.timer).graph = s.graph := graph_removeTimer s _
  generalize s.removeTimer identity.timer = s₀ at hG₀ ⊢
  have hall := invalidateAll_graph (s₀.pairsOfLocal h) (by rw [hG₀]; exact hG)
  rw [hG₀] at hall
  have hlocal : (s₀.invalidateAll (s₀.pairsOfLocal h)).graph.isLocal h := by
    rw [hall, unlinkAll_isLocal]
    simp [Authentication.graph, Authentication.localIdentity, hobj, SecurityObject.asLocal]
  obtain ⟨identity', hidentity⟩ := Option.isSome_iff_exists.1 hlocal
  refine ⟨s₀.pairsOfLocal h, fun p hp => ?_, fun r => ?_, ?_⟩
  · obtain ⟨e, -, rfl⟩ := List.mem_map.1 hp
    rfl
  · rw [unlinkAll_link]
    split
    · rfl
    · rename_i hmem
      rcases hr : s₀.remoteIdentity r with _ | remote
      · rw [← hG₀]
        simp [Authentication.graph, Authentication.findIdentityRelation, hr]
      · exact absurd (mem_pairsOfLocal hr) hmem
  · rw [removeObject_local_graph hidentity, hall]

theorem returnIdentity_remote_graph {identity : RemoteIdentityInfo} (hG : s.graph.Sound)
    (hobj : s.objectHash.lookup h = some (.remoteIdentity identity)) :
    ∃ pairs : List (Handle × Handle), (∀ p ∈ pairs, p.2 = h) ∧ (∀ l, (s.graph.unlinkAll pairs).link h l = none) ∧
      (s.returnIdentity h (.remoteIdentity identity)).graph = (s.graph.unlinkAll pairs).removeRemote h identity.guid := by
  simp only [Authentication.returnIdentity, invalidateRemote_eq]
  have hremote : s.remoteIdentity h = some identity := by
    simp [Authentication.remoteIdentity, hobj, SecurityObject.asRemote]
  have hG₀ : (s.removeTimer identity.timer).graph = s.graph := graph_removeTimer s _
  generalize s.removeTimer identity.timer = s₀ at hG₀ ⊢
  have hall := invalidateAll_graph (identity.pairs h) (by rw [hG₀]; exact hG)
  rw [hG₀] at hall
  have hguid : (s₀.invalidateAll (identity.pairs h)).graph.guid h = some identity.guid := by
    rw [hall, unlinkAll_guid]
    simp [Authentication.graph, hremote]
  have hnone : ∀ l, (s.graph.unlinkAll (identity.pairs h)).link h l = none := by
    intro l
    rw [unlinkAll_link]
    split
    · rfl
    · rename_i hmem
      simp only [Authentication.graph, Authentication.findIdentityRelation, hremote, Option.bind_some]
      rcases hlink : identity.linkHash.lookup l with _ | a
      · rfl
      · exact absurd (mem_pairs hlink) hmem
  refine ⟨identity.pairs h, fun p hp => ?_, hnone, ?_⟩
  · obtain ⟨e, -, rfl⟩ := List.mem_map.1 hp
    rfl
  · obtain ⟨identity', hidentity, -⟩ := Option.map_eq_some_iff.1 hguid
    rw [removeObject_remote_graph hidentity ?_ (by rw [hall]; exact hnone), hall]
    intro g
    change (s₀.invalidateAll (identity.pairs h)).graph.remoteOf g = s.graph.remoteOf g
    rw [hall, unlinkAll_remoteOf]

theorem returnIdentity_sound {obj : SecurityObject κ} (hG : s.graph.Sound) (hobj : s.objectHash.lookup h = some obj) :
    (s.returnIdentity h obj).graph.Sound := by
  cases obj with
  | localIdentity identity =>
    obtain ⟨pairs, -, hnone, hgraph⟩ := returnIdentity_local_graph hG hobj
    rw [hgraph]
    exact hG.unlinkAll.removeLocal hnone
  | remoteIdentity identity =>
    obtain ⟨pairs, -, hnone, hgraph⟩ := returnIdentity_remote_graph hG hobj
    have hremote : s.remoteIdentity h = some identity := by
      simp [Authentication.remoteIdentity, hobj, SecurityObject.asRemote]
    rw [hgraph]
    refine hG.unlinkAll.removeRemote ?_ hnone
    rw [unlinkAll_guid]
    simp [Authentication.graph, hremote]
  | handshake hs => exact hG

/-- Returning another identity leaves a relation and its handshake. -/
theorem returnIdentity_kept {obj : SecurityObject κ} {x : Handle} (hG : s.graph.Sound)
    (hobj : s.objectHash.lookup x = some obj) (hp : s.graph.pair a = some (l, r)) (hl : x ≠ l) (hr : x ≠ r) :
    (s.returnIdentity x obj).graph.pair a = some (l, r) ∧
      ∀ h, s.graph.relationOf h = some a → (s.returnIdentity x obj).graph.relationOf h = some a := by
  cases obj with
  | localIdentity identity =>
    obtain ⟨pairs, hpairs, -, hgraph⟩ := returnIdentity_local_graph hG hobj
    rw [hgraph]
    exact hG.unlinkAll_kept hp fun hmem => hl (hpairs _ hmem).symm
  | remoteIdentity identity =>
    obtain ⟨pairs, hpairs, -, hgraph⟩ := returnIdentity_remote_graph hG hobj
    rw [hgraph]
    exact hG.unlinkAll_kept hp fun hmem => hr (hpairs _ hmem).symm
  | handshake hs => exact ⟨hp, fun _ hh => hh⟩

theorem clearTimer_graph (s : Authentication κ) (h : Handle) : (s.clearTimer h).graph = s.graph := by
  unfold Authentication.clearTimer
  split
  · rename_i identity hobj
    have hl : s.localIdentity h = some identity := by simp [Authentication.localIdentity, hobj, SecurityObject.asLocal]
    have hput : LocalPut s h { identity with timer := 0 } _ :=
      localPut_putObject rfl rfl (remoteIdentity_of_localIdentity hl) (handshake_of_localIdentity hl)
    rw [hput.graph rfl]
    ext x y z
    · simp only [addLocal, Authentication.graph]
      grind
    all_goals rfl
  · rename_i identity hobj
    have hr : s.remoteIdentity h = some identity := by
      simp [Authentication.remoteIdentity, hobj, SecurityObject.asRemote]
    have hl := localIdentity_of_remoteIdentity hr
    have hh := handshake_of_remoteIdentity hr
    ext x y z
    · simp only [Authentication.graph, localIdentity_putObject, SecurityObject.asLocal]
      grind
    · simp only [Authentication.graph, remoteIdentity_putObject, SecurityObject.asRemote]
      grind
    · rfl
    · simp only [Authentication.graph, Authentication.findIdentityRelation, remoteIdentity_putObject,
        SecurityObject.asRemote]
      grind
    · rfl
    · simp only [Authentication.graph, handshake_putObject, SecurityObject.asHandshake]
      grind
  · rfl

/-! ## Every reachable state -/

/-- Every call keeps the graph sound. -/
theorem Effect.sound {op : Op} (heffect : Effect env amb s op s') (hG : s.graph.Sound) : s'.graph.Sound := by
  cases heffect with
  | same => exact hG
  | trustedCas named => exact hG
  | localMade ha made =>
    rw [made.put.graph made.remoteGuidHash]
    exact hG.addLocal
  | permissionsSet set =>
    obtain ⟨identity, -, hput⟩ := set.put
    rw [hput.graph set.settings.remoteGuidHash]
    exact hG.addLocal
  | remoteSeen ha seen => exact seen.sound ha hG
  | request ha hrx on => exact on.sound ha hG (makeRequest_frame.result on.run)
  | reply ha hrx on => exact on.sound ha hG (makeReply_frame.result on.run)
  | process ha hrx on => exact on.sound hG
  | handshakeReturned handshake =>
    obtain ⟨hs, hh⟩ := Option.isSome_iff_exists.1 handshake
    rw [removeObject_handshake_graph hh]
    exact hG.removeHandshake
  | identityReturned lookup identity => exact returnIdentity_sound hG lookup
  | callback armed =>
    rw [clearTimer_graph]
    exact hG

theorem start_graph (env : Env κ ρ) (hstart : (plugin env).start s) : s.graph = ObjectGraph.empty := by
  obtain ⟨includeOptional, kem, rfl⟩ := hstart
  ext x y z <;>
    simp [Authentication.graph, ObjectGraph.empty, Authentication.localIdentity, Authentication.remoteIdentity,
      Authentication.handshake, Authentication.relation, Authentication.findIdentityRelation]

theorem run_sound {tr : Trace (Authentication κ) (Op × Ambient ρ)} (hr : Run (plugin env).solo tr s) : s.graph.Sound := by
  refine hr.state_inv (I := fun s => s.graph.Sound) ?_ ?_
  · intro s hstart
    rw [start_graph env hstart]
    exact empty_sound
  · rintro s ⟨op, amb⟩ s' hG ⟨-, rfl⟩
    exact (exec_effect s op amb).sound hG

/-! ## Calls do not follow dangling references -/

/-- A null pointer, or one to an object that is gone, was followed. -/
abbrev dangling : Stop := .fault .nullPointer

/-! ## Challenges are there when they are read -/

/-- Every relation has a challenge of the local side, and one of the remote side once a Request was answered on it. -/
structure Challenged (s : Authentication κ) : Prop where
  lchallenge : ∀ a relation, s.relation a = some relation → relation.lchallenge.isSome
  rchallenge : ∀ h hs relation, s.handshake h = some hs → hs.createdIn = .createdReply →
    s.relation hs.relation = some relation → relation.rchallenge.isSome

/-- A Reply is made for a relation that has both challenges. -/
theorem makeReply_rchallenge {optional : Bool} {trusted : List X509} {inp : Token} {pdata : Octets} {v : Token × Signed}
    (hrun : makeReply env amb optional trusted inp pdata c = (.ok v, c')) : c'.relation.rchallenge.isSome := by
  obtain ⟨_, c₁, hv, ha⟩ := Act.bind_ok.1 hrun
  obtain ⟨cert, hacc⟩ := validateRequest_ok hv
  have hframe : c₁.Frame c' := answerRequest_frame.result ha
  refine hframe.rchallenge_isSome ?_
  obtain ⟨x, -, rfl⟩ := hacc.state
  rw [accepted_relation]
  rfl

/-- The handshake that an operation works on, if it was made for a Request and is left. -/
theorem Touches.rchallenge {op : Op} (ht : Touches env amb s s' op h c c') (hs' : s'.handshake h = some c'.handshake)
    (hstep : c'.handshake.createdIn = .createdReply)
    (hold : s.handshake h = some c.handshake → c.relation.rchallenge.isSome) : c'.relation.rchallenge.isSome := by
  have hframe := ht.frame
  rw [hframe.createdIn] at hstep
  cases ht with
  | request ha hrx on =>
    have hsource := on.source
    cases hsource with
    | found handshake => exact hframe.rchallenge_isSome (hold handshake)
    | made none linked handshake =>
      rw [handshake] at hstep
      cases hstep
  | @reply _ _ _ _ _ _ _ rx ha hrx on =>
    have hsource := on.source
    cases hsource with
    | found handshake => exact hframe.rchallenge_isSome (hold handshake)
    | made none linked handshake =>
      rw [on.moved.handshake, if_pos rfl, remaining, handshake_fresh ha] at hs'
      cases rx with
      | error e =>
        simp [Except.isOk, Except.toBool] at hs'
      | ok v => exact makeReply_rchallenge on.run
  | process ha hrx on => exact hframe.rchallenge_isSome (hold on.handshake)

theorem Effect.challenged {op : Op} (he : Effect env amb s op s') (hG : s.graph.Sound) (hC : Challenged s) :
    Challenged s' := by
  constructor
  · intro a relation hrel
    rcases he.relation_cases hrel with hold | ⟨_, _, _, _, _, x, y, -, -, rfl⟩ | ⟨_, _, _, _, _, x, old, -, -, -, hold, -, rfl⟩ |
      ⟨h, c, c', ht, -, rfl⟩
    · exact hC.lchallenge a relation hold
    · rfl
    · exact hC.lchallenge a old hold
    · rw [ht.frame.lchallenge]
      exact hC.lchallenge _ _ ht.points.relation
  · intro h hs relation hh hstep hrel
    rcases he.handshake_cases hh with hold | ⟨c, c', ht, rfl⟩
    · rcases he.relation_cases hrel with hsame | ⟨_, _, _, _, _, x, y, -, hnone, -⟩ |
        ⟨_, _, _, _, _, x, old, -, -, -, -, -, rfl⟩ | ⟨h₂, c, c', ht, hrel', rfl⟩
      · exact hC.rchallenge h hs relation hold hstep hsame
      · have hsome := hG.handshake h hs.relation (by simp [Authentication.graph, hold])
        simp [Authentication.graph, hnone] at hsome
      · rfl
      · refine ht.frame.rchallenge_isSome (hC.rchallenge h hs c.relation hold hstep ?_)
        rw [← hrel']
        exact ht.points.relation
    · obtain ⟨timer, left, -, hm⟩ := ht.moved
      rw [hm.relation, if_pos ht.frame.relation] at hrel
      obtain rfl := Option.some.inj hrel
      refine ht.rchallenge hh hstep fun hold => hC.rchallenge h c.handshake c.relation hold ?_ ht.points.relation
      rw [← ht.frame.createdIn]
      exact hstep

theorem start_challenged (env : Env κ ρ) (hstart : (plugin env).start s) : Challenged s := by
  obtain ⟨includeOptional, kem, rfl⟩ := hstart
  constructor
  · intro a relation hrel
    simp [Authentication.relation] at hrel
  · intro h hs relation hh
    simp [Authentication.handshake] at hh

/-- Every pointer of an object leads to a live object, and every challenge that is needed is there. -/
structure Referential (s : Authentication κ) : Prop where
  sound : s.graph.Sound
  challenged : Challenged s

theorem Effect.referential {op : Op} (he : Effect env amb s op s') (hs : Referential s) : Referential s' :=
  ⟨he.sound hs.sound, he.challenged hs.sound hs.challenged⟩

theorem run_referential {tr : Trace (Authentication κ) (Op × Ambient ρ)} (hr : Run (plugin env).solo tr s) :
    Referential s := by
  refine hr.state_inv (I := Referential) ?_ ?_
  · intro s hstart
    refine ⟨?_, start_challenged env hstart⟩
    rw [start_graph env hstart]
    exact empty_sound
  · rintro s ⟨op, amb⟩ s' hs ⟨-, rfl⟩
    exact (exec_effect s op amb).referential hs

/-- The objects a handshake points to are there. -/
theorem context_isSome (hG : s.graph.Sound) (hh : s.handshake h = some hs) : (s.context h).isSome := by
  have hpair := hG.handshake h hs.relation (by simp [Authentication.graph, hh])
  obtain ⟨⟨l, r⟩, hpair⟩ := Option.isSome_iff_exists.1 hpair
  obtain ⟨hl, hr⟩ := hG.ends l r hs.relation hpair
  obtain ⟨relation, hrel, hends⟩ := Option.map_eq_some_iff.1 hpair
  obtain ⟨rfl, rfl⟩ := Prod.mk.inj hends
  obtain ⟨identity, hidentity⟩ := Option.isSome_iff_exists.1 hl
  obtain ⟨guid, hguid⟩ := Option.isSome_iff_exists.1 hr
  obtain ⟨remote, hremote, -⟩ := Option.map_eq_some_iff.1 hguid
  have hcontext : s.context h = some ⟨identity, remote, relation, hs⟩ := context_eq_some.2 ⟨hh, hrel, hidentity, hremote⟩
  rw [hcontext]
  rfl

theorem Points.unique (hp : Points s c) (hp' : Points s c') (hh : c.handshake = c'.handshake) : c = c' := by
  obtain ⟨local₁, remote₁, relation₁, handshake₁⟩ := c
  obtain ⟨local₂, remote₂, relation₂, handshake₂⟩ := c'
  simp only at hh
  subst hh
  obtain rfl : relation₁ = relation₂ := Option.some.inj (hp.relation.symm.trans hp'.relation)
  obtain rfl : local₁ = local₂ := Option.some.inj (hp.localIdentity.symm.trans hp'.localIdentity)
  obtain rfl : remote₁ = remote₂ := Option.some.inj (hp.remoteIdentity.symm.trans hp'.remoteIdentity)
  rfl

theorem Source.ends {step : CreatedHandshakeStep} (hG : s.graph.Sound) (hsrc : Source amb s l r step h c)
    (hp : Points s c) : c.relation.localIdentity = l ∧ c.relation.remoteIdentity = r := by
  cases hsrc with
  | found handshake localHandle remoteHandle => exact ⟨localHandle, remoteHandle⟩
  | @made _ a none linked handshake =>
    have hpair : s.graph.pair a = some (l, r) := (hG.link l r a).1 linked
    have hrel := hp.relation
    rw [handshake] at hrel
    simp only [Authentication.graph, show s.relation a = some c.relation from hrel, Option.map_some, Option.some.injEq,
      Prod.mk.injEq] at hpair
    exact hpair

/-- There is one handshake for a pair. -/
theorem Source.unique {step : CreatedHandshakeStep} {h' : Handle} (hG : s.graph.Sound) (hsrc : Source amb s l r step h c)
    (hsrc' : Source amb s l r step h' c') (hp : Points s c) (hp' : Points s c') : h = h' ∧ c = c' := by
  have hpair : s.graph.pair c.handshake.relation = some (l, r) := by
    obtain ⟨hl, hr⟩ := hsrc.ends hG hp
    simp [Authentication.graph, hp.relation, hl, hr]
  have hpair' : s.graph.pair c'.handshake.relation = some (l, r) := by
    obtain ⟨hl, hr⟩ := hsrc'.ends hG hp'
    simp [Authentication.graph, hp'.relation, hl, hr]
  have hrel : c.handshake.relation = c'.handshake.relation :=
    Option.some.inj (((hG.link l r _).2 hpair).symm.trans ((hG.link l r _).2 hpair'))
  cases hsrc with
  | found handshake localHandle remoteHandle =>
    cases hsrc' with
    | found handshake' localHandle' remoteHandle' =>
      obtain rfl : h = h' := by
        refine hG.unique h h' c.handshake.relation (by simp [Authentication.graph, handshake]) ?_
        simp [Authentication.graph, handshake', hrel]
      exact ⟨rfl, hp.unique hp' (Option.some.inj (handshake.symm.trans handshake'))⟩
    | made none' linked' handshake' => exact absurd (pairOf_eq_some_iff.2 hpair) (none' h _ handshake)
  | made none linked handshake =>
    cases hsrc' with
    | found handshake' localHandle' remoteHandle' => exact absurd (pairOf_eq_some_iff.2 hpair') (none h' _ handshake')
    | made none' linked' handshake' =>
      refine ⟨rfl, hp.unique hp' ?_⟩
      rw [handshake, handshake'] at hrel ⊢
      exact congrArg (HandshakeInfo.new · step) hrel

/-- The context of a handshake that was made for a linked pair. -/
theorem context_made (ha : Allocates amb s) (hs : Referential s) (step : CreatedHandshakeStep)
    (hlink : s.findIdentityRelation l r = some a) :
    ∃ c, (s.putObject amb.object (.handshake (.new a step))).context amb.object = some c ∧
      s.relation a = some c.relation := by
  have hpair : s.graph.pair a = some (l, r) := (hs.sound.link l r a).1 hlink
  obtain ⟨hl, hr⟩ := hs.sound.ends l r a hpair
  obtain ⟨relation, hrel, hends⟩ := Option.map_eq_some_iff.1 hpair
  obtain ⟨rfl, rfl⟩ := Prod.mk.inj hends
  obtain ⟨identity, hidentity⟩ := Option.isSome_iff_exists.1 hl
  obtain ⟨guid, hguid⟩ := Option.isSome_iff_exists.1 hr
  obtain ⟨remote, hremote, -⟩ := Option.map_eq_some_iff.1 hguid
  have hl₀ := localIdentity_fresh ha
  have hr₀ := remoteIdentity_fresh ha
  refine ⟨⟨identity, remote, relation, .new a step⟩, context_eq_some.2 ⟨?_, ?_, ?_, ?_⟩, hrel⟩
  · rw [handshake_putObject, if_pos rfl]
    rfl
  · exact hrel
  · rw [localIdentity_putObject]
    grind
  · rw [remoteIdentity_putObject]
    grind

/-- The remote identity for a GUID is there, with the links it had. -/
theorem remoteFor_remote {token : Token} {guid : Guid} {s₁ : Authentication κ}
    (hfor : remoteFor env amb token guid s = (.ok r, s₁)) :
    (s₁.remoteIdentity r).isSome ∧ (s₁ = s ∨ s₁.findIdentityRelation l r = none) := by
  rcases remoteFor_cases hfor with ⟨⟨_, he⟩, -⟩ | ⟨r', remote, hr, -, hremote, rfl⟩ | ⟨hr, -, rfl⟩
  · cases he
  · obtain rfl := Except.ok.inj hr
    exact ⟨by rw [hremote]; rfl, .inl rfl⟩
  · obtain rfl := Except.ok.inj hr
    have hnew : (s.putObject amb.object (.remoteIdentity { guid, remoteIdentityToken := token })).remoteIdentity amb.object =
        some { guid, remoteIdentityToken := token } := by
      rw [remoteIdentity_putObject, if_pos rfl]
      rfl
    refine ⟨?_, .inr ?_⟩
    · change ((s.putObject amb.object _).remoteIdentity amb.object).isSome
      rw [hnew]
      rfl
    · change ((s.putObject amb.object _).remoteIdentity amb.object).bind _ = none
      rw [hnew]
      rfl

theorem relate_relation {token : Token} {guid : Guid} {lchallenge : Challenge} {rchallenge : Option Challenge}
    {s₁ : Authentication κ} (hs : Referential s) (hfor : remoteFor env amb token guid s = (.ok r, s₁))
    (hrelate : relate amb l r lchallenge rchallenge s₁ = (.ok a, s')) :
    ∃ relation, s'.relation a = some relation ∧ relation.lchallenge.isSome := by
  rcases relate_ok hrelate with ⟨hlink, rfl⟩ | ⟨remote, -, -, rfl, rfl⟩
  · rcases (remoteFor_remote hfor (l := l)).2 with rfl | hnone
    · have hpair := (hs.sound.link l r a).1 hlink
      obtain ⟨relation, hrel, -⟩ := Option.map_eq_some_iff.1 hpair
      exact ⟨_, (relation_refresh hrel a).trans (if_pos rfl), hs.challenged.lchallenge a relation hrel⟩
    · rw [hnone] at hlink
      cases hlink
  · exact ⟨⟨l, r, some lchallenge, rchallenge⟩, by rw [relation_putObject, relation_putRelation, if_pos rfl], rfl⟩

section Stops

variable {P : Stop → Prop} (hP : ∀ ex, P (.failed ex))

theorem withContext_stops {α : Type} {x : HandshakeCall κ α} (hc : s.context h = some c) (hx : Act.StopsWith P x c) :
    Act.StopsWith P (withContext h x) s :=
  .zoom (t := c) (by rw [hc]; rfl) hx

theorem onHandshake_stops {α : Type} {x : HandshakeCall κ α} {step : CreatedHandshakeStep} (ha : Allocates amb s)
    (hs : Referential s) (hlink : P (.fault .assertion) ∨ (s.findIdentityRelation l r).isSome)
    (hx : ∀ h c, Source amb s l r step h c → Points s c → c.relation.lchallenge.isSome → Act.StopsWith P x c) :
    Act.StopsWith P (onHandshake amb l r step x) s := by
  refine .bind ?_ fun v s₁ hfor => ?_
  · unfold handshakeFor
    refine .bind (.read _) fun found s₁ h₁ => ?_
    obtain ⟨-, rfl⟩ := Act.read_ok.1 h₁
    cases found with
    | some h => exact .pure _
    | none => exact .bind (.demand hlink) fun _ _ _ => .bind (.write _) fun _ _ _ => .pure _
  · obtain ⟨h, created⟩ := v
    refine .bind (.onStop ?_) fun _ _ _ => .pure _
    rcases handshakeFor_ok hfor with ⟨-, rfl, hfind⟩ | ⟨a, -, rfl, rfl, hfind, hlink⟩
    · obtain ⟨hs', hh, hpair⟩ := findHandshake_some hfind
      obtain ⟨c, hc⟩ := Option.isSome_iff_exists.1 (context_isSome hs.sound hh)
      obtain ⟨hh', hp⟩ := context_eq_some.1 hc
      obtain rfl := Option.some.inj (hh.symm.trans hh')
      simp only [Authentication.pairOf, hp.relation, Option.map_some, Option.some.injEq, Prod.mk.injEq] at hpair
      exact withContext_stops hc (hx h c (.found hh hpair.1 hpair.2) hp (hs.challenged.lchallenge _ _ hp.relation))
    · obtain ⟨c, hc, hrel⟩ := context_made ha hs step hlink
      obtain ⟨hh, hp⟩ := context_eq_some.1 hc
      have hnew : c.handshake = .new a step := by
        rw [handshake_putObject, if_pos rfl] at hh
        exact (Option.some.inj hh).symm
      exact withContext_stops hc (hx _ c (.made (fun h' hs' hh' => findHandshake_none hfind hh') hlink hnew)
        (points_putObject_handshake _ hp) (hs.challenged.lchallenge _ _ hrel))

theorem relate_stops {lchallenge : Challenge} {rchallenge : Option Challenge} (hr : (s.remoteIdentity r).isSome) :
    Act.StopsWith P (relate amb l r lchallenge rchallenge) s := by
  unfold relate
  refine .bind (.read _) fun found s₁ h₁ => ?_
  obtain ⟨rfl, rfl⟩ := Act.read_ok.1 h₁
  rcases s.findIdentityRelation l r with _ | a
  · exact .bind (.demand (.inr hr)) fun _ _ _ => .bind (.write _) fun _ _ _ => .pure _
  · exact .bind (.write _) fun _ _ _ => .pure _

include hP

/-- A Request is made for a linked pair. -/
theorem beginHandshakeRequest_stops {pdata : Octets} (ha : Allocates amb s) (hs : Referential s)
    (hpem : ∀ identity, s.localIdentity l = some identity → (s.remoteIdentity r).isSome →
      P (.fault .uninitialised) ∨ (env.pemWriteX509 identity.identityCert).isSome)
    (hlink : (s.localIdentity l).isSome → (s.remoteIdentity r).isSome →
      P (.fault .assertion) ∨ (s.findIdentityRelation l r).isSome) :
    Act.StopsWith P (beginHandshakeRequest env amb l r pdata) s := by
  unfold beginHandshakeRequest
  refine .bind (.demand (.inl (hP _))) fun identity s₁ h₁ => .bind (.demand (.inl (hP _))) fun remote s₂ h₂ => ?_
  obtain ⟨hl, rfl⟩ := Act.demand_ok.1 h₁
  obtain ⟨hr, rfl⟩ := Act.demand_ok.1 h₂
  have hl' : (s.localIdentity l).isSome := by rw [hl]; rfl
  have hr' : (s.remoteIdentity r).isSome := by rw [hr]; rfl
  refine .bind (.lift fun e he => ?_) fun certData s₃ h₃ => .bind (.read _) fun optional s₄ h₄ => ?_
  · rcases hpem identity hl hr' with h | h
    · unfold getCertificateContents at he
      rcases hcert : env.pemWriteX509 identity.identityCert with _ | data
      · rw [hcert] at he
        obtain rfl := Except.error.inj he
        exact h
      · rw [hcert] at he
        cases he
    · obtain ⟨data, hdata⟩ := Option.isSome_iff_exists.1 h
      simp [getCertificateContents, hdata, need, Except.mapError] at he
  · obtain ⟨-, rfl⟩ := Act.lift_ok.1 h₃
    obtain ⟨-, rfl⟩ := Act.read_ok.1 h₄
    exact onHandshake_stops ha hs (hlink hl' hr') fun h c _ _ hlch => makeRequest_stops hP hlch

/-- A Reply is made for a linked pair whose handshake is not stale. -/
theorem beginHandshakeReply_stops {inp : Token} {pdata : Octets} (ha : Allocates amb s) (hs : Referential s)
    (hlink : pdata ≠ [] → (s.localIdentity l).isSome → (s.remoteIdentity r).isSome →
      P (.fault .assertion) ∨ (s.findIdentityRelation l r).isSome)
    (hstale : pdata ≠ [] → P (.fault .uninitialised) ∨ ¬ StaleFor env amb s inp l r) :
    Act.StopsWith P (beginHandshakeReply env amb inp r l pdata) s := by
  unfold beginHandshakeReply
  refine .bind (check_stops hP) fun _ s₁ h₁ => .bind (.demand (.inl (hP _))) fun identity s₂ h₂ =>
    .bind (.demand (.inl (hP _))) fun remote s₃ h₃ => .bind (.read _) fun t s₄ h₄ => ?_
  obtain ⟨hpdata, rfl⟩ := check_ok.1 h₁
  obtain ⟨hl, rfl⟩ := Act.demand_ok.1 h₂
  obtain ⟨hr, rfl⟩ := Act.demand_ok.1 h₃
  obtain ⟨rfl, rfl⟩ := Act.read_ok.1 h₄
  have hne : pdata ≠ [] := by
    rintro rfl
    simp [require] at hpdata
  refine onHandshake_stops ha hs (hlink hne (by rw [hl]; rfl) (by rw [hr]; rfl)) fun h c hsource hp hlch =>
    makeReply_stops hP hlch ?_
  rcases hstale hne with h | hstale
  · exact .inl h
  · right
    intro hc
    cases hsource with
    | found handshake localHandle remoteHandle =>
      exact hstale ⟨h, c, context_eq_some.2 ⟨handshake, hp⟩, localHandle, remoteHandle, hc⟩
    | made none linked handshake =>
      refine hc.kemCt ?_
      rw [handshake]
      rfl

/-- A token is processed whatever it holds. -/
theorem processHandshake_stops {inp : Token} (hs : Referential s) :
    Act.StopsWith P (processHandshake env amb inp h) s := by
  unfold processHandshake
  refine .bind (check_stops hP) fun _ s₁ h₁ => .bind (.demand (.inl (hP _))) fun hs' s₂ h₂ => .bind (.read _) fun s₃ s₄ h₃ => ?_
  obtain ⟨-, rfl⟩ := check_ok.1 h₁
  obtain ⟨hh, rfl⟩ := Act.demand_ok.1 h₂
  obtain ⟨rfl, rfl⟩ := Act.read_ok.1 h₃
  obtain ⟨c, hc⟩ := Option.isSome_iff_exists.1 (context_isSome hs.sound hh)
  obtain ⟨hh', hp⟩ := context_eq_some.1 hc
  have hl := hs.challenged.lchallenge _ _ hp.relation
  refine .bind (withContext_stops hc (processToken_stops hP hl fun hstep => ?_)) fun v s₅ hwith => ?_
  · exact hs.challenged.rchallenge h c.handshake c.relation hh' hstep hp.relation
  · rcases withContext_eq hwith with ⟨he, -, -⟩ | ⟨c₁, c', hc₁, hx, rfl⟩
    · cases he
    have hframe : c₁.Frame c' := processToken_frame.result hx
    have hwatch : Act.StopsWith P (watchExpiry amb h v.2) (s.setContext h c') := by
      intro e hrun
      have heq := (watchExpiry_eq (setContext_moved hc₁ hframe) hframe (Prod.ext hrun rfl)).1
      cases heq
    exact .bind hwatch fun _ _ _ => .pure _

theorem remoteFor_stops {token : Token} {guid : Guid} (hG : s.graph.Sound) :
    Act.StopsWith P (remoteFor env amb token guid) s := by
  unfold remoteFor
  refine .bind (.read _) fun found s₁ h₁ => ?_
  obtain ⟨rfl, rfl⟩ := Act.read_ok.1 h₁
  rcases hfound : s.remoteGuidHash.lookup guid with _ | r
  · exact .bind (.write _) fun _ _ _ => .pure _
  · obtain ⟨remote, hremote, -⟩ := Option.map_eq_some_iff.1 ((hG.guid guid r).1 hfound)
    exact .bind (.demand (.inr (by rw [hremote]; rfl))) fun _ _ _ => .bind (check_stops hP) fun _ _ _ => .pure _

theorem validateRemoteIdentity_stops {request : Option Token} {token : Token} {guid : Guid} (hs : Referential s) :
    Act.StopsWith P (validateRemoteIdentity env amb request l token guid) s := by
  unfold validateRemoteIdentity
  refine .bind (.demand (.inl (hP _))) fun localIdent s₁ h₁ => .bind (check_stops hP) fun _ s₂ h₂ =>
    .bind (check_stops hP) fun rchallenge s₃ h₃ => .bind (check_stops hP) fun lchallenge s₄ h₄ => ?_
  obtain ⟨hl, rfl⟩ := Act.demand_ok.1 h₁
  obtain ⟨-, rfl⟩ := check_ok.1 h₂
  obtain ⟨hrequest, rfl⟩ := check_ok.1 h₃
  obtain ⟨hchallenge, rfl⟩ := check_ok.1 h₄
  refine .bind (remoteFor_stops hP hs.sound) fun r s₅ hfor => .bind (relate_stops (P := P) (remoteFor_remote hfor (l := l)).1)
    fun a s₆ hrelate => ?_
  obtain ⟨relation, hrel, hlch⟩ := relate_relation hs hfor hrelate
  refine .bind (.demand (.inr (by rw [hrel]; rfl))) fun relation' s₇ h₇ => ?_
  obtain ⟨hrel', rfl⟩ := Act.demand_ok.1 h₇
  obtain rfl := Option.some.inj (hrel.symm.trans hrel')
  cases request with
  | some _ => exact .bind (.pure _) fun _ _ _ => .pure _
  | none =>
    have hneed : Act.StopsWith P (Act.lift (need relation.lchallenge (.fault .nullPointer))) s₆ := deref_stops hlch
    exact .bind hneed fun _ _ _ => .bind (.pure _) fun _ _ _ => .pure _

theorem getAuthenticatedPeerCredentialToken_stops (hs : Referential s) :
    Act.StopsWith P (getAuthenticatedPeerCredentialToken env amb h) s := by
  unfold getAuthenticatedPeerCredentialToken
  refine .bind (check_stops hP) fun _ s₁ h₁ => .bind (.demand (.inl (hP _))) fun hs' s₂ h₂ => ?_
  obtain ⟨-, rfl⟩ := check_ok.1 h₁
  obtain ⟨hh, rfl⟩ := Act.demand_ok.1 h₂
  refine .bind (.demand (.inr (context_isSome hs.sound hh))) fun _ _ _ => ?_
  exact .bind (check_stops hP) fun _ _ _ => .bind (check_stops hP) fun _ _ _ => .bind (check_stops hP) fun _ _ _ => .pure _

theorem validateLocalIdentity_stops {qos : Qos} {candidate : Guid} (ha : Allocates amb s) :
    Act.StopsWith P (validateLocalIdentity env amb qos candidate) s := by
  intro e hrun
  rcases validateLocalIdentity_cases ha (Prod.ext hrun rfl) with ⟨ex, he, -⟩ | ⟨_, _, he, -⟩
  · obtain rfl := Except.error.inj he
    exact hP ex
  · cases he

end Stops

/-- No call follows a reference that dangles. -/
theorem call_avoids {op : Op} (ha : Allocates amb s) (hs : Referential s) :
    Act.Avoids dangling (op.call env amb) s := by
  have hP : ∀ ex, (Stop.failed ex : Stop) ≠ dangling := by simp
  refine Act.StopsWith.avoids ?_
  cases op with
  | validateLocalIdentity qos candidate => exact .bind (validateLocalIdentity_stops hP ha) fun _ _ _ => .pure _
  | getIdentityToken h =>
    refine .bind (.bind (.demand (.inl (hP _))) fun _ _ _ => ?_) fun _ _ _ => .pure _
    exact .bind (check_stops hP) fun _ _ _ => .bind (check_stops hP) fun _ _ _ => .pure _
  | setPermissionsCredentialAndToken h credential =>
    refine .bind ?_ fun _ _ _ => .pure _
    refine .bind (check_stops hP) fun _ _ _ => .bind (check_stops hP) fun _ _ _ => .bind (check_stops hP) fun _ _ _ => ?_
    exact .bind (check_stops hP) fun _ _ _ => .bind (.demand (.inl (hP _))) fun _ _ _ => .write _
  | validateRemoteIdentity request l token guid =>
    exact .bind (validateRemoteIdentity_stops hP hs) fun _ _ _ => .pure _
  | beginHandshakeRequest initiator replier pdata =>
    refine .bind ?_ fun _ _ _ => .pure _
    exact beginHandshakeRequest_stops hP ha hs (fun _ _ _ => .inl (by simp)) fun _ _ => .inl (by simp)
  | beginHandshakeReply inp initiator replier pdata =>
    refine .bind ?_ fun _ _ _ => .pure _
    exact beginHandshakeReply_stops hP ha hs (fun _ _ _ => .inl (by simp)) fun _ => .inl (by simp)
  | processHandshake inp h => exact .bind (processHandshake_stops hP hs) fun _ _ _ => .pure _
  | getSharedSecret h =>
    refine .bind (.bind (check_stops hP) fun _ _ _ => ?_) fun _ _ _ => .pure _
    exact .bind (.demand (.inl (hP _))) fun _ _ _ => .pure _
  | getAuthenticatedPeerCredentialToken h =>
    exact .bind (getAuthenticatedPeerCredentialToken_stops hP hs) fun _ _ _ => .pure _
  | returnHandshakeHandle h =>
    refine .bind (.bind (check_stops hP) fun _ _ _ => ?_) fun _ _ _ => .pure _
    exact .bind (.demand (.inl (hP _))) fun _ _ _ => .write _
  | returnIdentityHandle h =>
    refine .bind (.bind (check_stops hP) fun _ _ _ => ?_) fun _ _ _ => .pure _
    exact .bind (.demand (.inl (hP _))) fun _ _ _ => .bind (check_stops hP) fun _ _ _ => .write _
  | validityCallback timer => exact .bind (.write _) fun _ _ _ => .pure _

/-! ## The store -/

/-- What the tables of the plugin promise each other. -/
structure Integrity (env : Env κ ρ) (s : Authentication κ) : Prop where
  /-- the remote identities are those in the GUID table -/
  remotes : ∀ guid r, s.remoteGuidHash.lookup guid = some r ↔
    ∃ remote, s.remoteIdentity r = some remote ∧ remote.guid = guid
  one_remote : ∀ r r' remote remote', s.remoteIdentity r = some remote → s.remoteIdentity r' = some remote' →
    remote.guid = remote'.guid → r = r'
  /-- a link leads to a relation of that remote identity and of a live local identity -/
  links : ∀ r remote l a, s.remoteIdentity r = some remote → remote.linkHash.lookup l = some a →
    ∃ relation, s.relation a = some relation ∧ relation.remoteIdentity = r ∧ relation.localIdentity = l ∧
      (s.localIdentity l).isSome
  one_relation : ∀ r remote l l' a a' relation relation', s.remoteIdentity r = some remote →
    remote.linkHash.lookup l = some a → remote.linkHash.lookup l' = some a' → s.relation a = some relation →
    s.relation a' = some relation' → relation.localIdentity = relation'.localIdentity → a = a'
  /-- the relation of a handshake is linked in a live remote identity -/
  handshakes : ∀ h hs, s.handshake h = some hs → ∃ relation remote, s.relation hs.relation = some relation ∧
    s.remoteIdentity relation.remoteIdentity = some remote ∧
    remote.linkHash.lookup relation.localIdentity = some hs.relation
  one_handshake : ∀ h h' hs hs', s.handshake h = some hs → s.handshake h' = some hs' →
    s.pairOf hs = s.pairOf hs' → h = h'
  /-- no call follows a pointer to nothing -/
  no_dangling : ∀ (op : Op) (amb : Ambient ρ), Allocates amb s →
    (op.call env amb s).1 ≠ .error (.fault .nullPointer)

theorem Referential.integrity (hs : Referential s) : Integrity env s := by
  have hG := hs.sound
  have hlink : ∀ {r remote l a}, s.remoteIdentity r = some remote → remote.linkHash.lookup l = some a →
      s.graph.pair a = some (l, r) := by
    intro r remote l a hr hl
    refine (hG.link l r a).1 ?_
    simp [Authentication.graph, Authentication.findIdentityRelation, hr, hl]
  refine ⟨fun guid r => ?_, fun r r' remote remote' hr hr' hguid => ?_, fun r remote l a hr hl => ?_, ?_, fun h hs' hh => ?_,
    fun h h' hs₁ hs₂ hh hh' hpair => ?_, fun op amb ha => call_avoids ha hs⟩
  · refine (hG.guid guid r).trans ?_
    simp [Authentication.graph]
  · have h₁ := (hG.guid remote.guid r).2 (by simp [Authentication.graph, hr])
    have h₂ := (hG.guid remote'.guid r').2 (by simp [Authentication.graph, hr'])
    rw [hguid, h₂] at h₁
    exact (Option.some.inj h₁).symm
  · have hpair := hlink hr hl
    obtain ⟨relation, hrel, hends⟩ := Option.map_eq_some_iff.1 hpair
    obtain ⟨h₁, h₂⟩ := Prod.mk.inj hends
    exact ⟨relation, hrel, h₂, h₁, (hG.ends l r a hpair).1⟩
  · intro r remote l l' a a' relation relation' hr hl hl' hrel hrel' hsame
    have h₁ := hlink hr hl
    have h₂ := hlink hr hl'
    simp only [Authentication.graph, hrel, hrel', Option.map_some, Option.some.injEq, Prod.mk.injEq] at h₁ h₂
    have hll : l = l' := by rw [← h₁.1, ← h₂.1, hsame]
    subst hll
    rw [hl] at hl'
    exact Option.some.inj hl'
  · obtain ⟨c, hc⟩ := Option.isSome_iff_exists.1 (context_isSome hG hh)
    obtain ⟨hh', hp⟩ := context_eq_some.1 hc
    obtain rfl := Option.some.inj (hh.symm.trans hh')
    have hlinked := (hG.link c.relation.localIdentity c.relation.remoteIdentity c.handshake.relation).2
      (by simp [Authentication.graph, hp.relation])
    simp only [Authentication.graph, Authentication.findIdentityRelation, hp.remoteIdentity, Option.bind_some] at hlinked
    exact ⟨c.relation, c.remoteIdentity, hp.relation, hp.remoteIdentity, hlinked⟩
  · obtain ⟨c, hc⟩ := Option.isSome_iff_exists.1 (context_isSome hG hh)
    obtain ⟨hh₁, hp⟩ := context_eq_some.1 hc
    obtain rfl := Option.some.inj (hh.symm.trans hh₁)
    have hpair₁ : s.pairOf c.handshake = some (c.relation.localIdentity, c.relation.remoteIdentity) := by
      simp [Authentication.pairOf, hp.relation]
    have hpair₂ := hpair.symm.trans hpair₁
    have hrel := (hG.link _ _ _).2 (pairOf_eq_some_iff.1 hpair₁)
    have hrel' := (hG.link _ _ _).2 (pairOf_eq_some_iff.1 hpair₂)
    refine hG.unique h h' c.handshake.relation (by simp [Authentication.graph, hh]) ?_
    rw [hrel] at hrel'
    simp [Authentication.graph, hh', Option.some.inj hrel']

/-- In every reachable state the tables of the plugin keep what they promise each other. -/
theorem object_store_integrity {tr : Trace (Authentication κ) (Op × Ambient ρ)} (hr : Run (plugin env).solo tr s) :
    Integrity env s :=
  (run_referential hr).integrity

theorem object_store_integrity_sample : Integrity Ideal.env (Ideal.after Ideal.start Ideal.replierCalls) :=
  object_store_integrity (Ideal.calls_run true .mlKem512 Ideal.replierCalls)

end PqsecDds.CycloneDDS
