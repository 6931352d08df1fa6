import PqsecDds.CycloneDDS.Tokens
import PqsecDds.CycloneDDS.OpenSSL
import Mathlib.Logic.Function.Basic

/-!
# The graph of the security objects

What the tables of the plugin are for: local identities, one remote identity for a GUID, at most one relation
between a local and a remote identity, at most one handshake on a relation. `ObjectGraph` holds the references
between the objects and nothing else of them, `Sound` says that none of them dangles.

| operation | what it is for |
|---|---|
| `addLocal`, `addRemote`, `addLink`, `addHandshake` | a new object, or a new reference |
| `unlink` | the relation of a pair goes, with its handshake |
| `removeHandshake`, `removeLocal`, `removeRemote` | an object goes |
| `without` | identities go, with what they are part of |
-/

namespace PqsecDds.CycloneDDS

open Function

@[ext] structure ObjectGraph where
  isLocal : Handle → Prop
  /-- the GUID of a remote identity -/
  guid : Handle → Option Guid
  remoteOf : Guid → Option Handle
  /-- `link r l`, the relation that the remote identity `r` holds for `l` -/
  link : Handle → Handle → Option Handle
  /-- the local and the remote identity of a relation -/
  pair : Handle → Option (Handle × Handle)
  /-- the relation of a handshake -/
  relationOf : Handle → Option Handle

namespace ObjectGraph

variable {G : ObjectGraph} {l r a h : Handle} {g : Guid}

/-- No reference dangles, and there is one remote identity for a GUID, one relation for a pair and one handshake
for a relation. -/
structure Sound (G : ObjectGraph) : Prop where
  guid : ∀ g r, G.remoteOf g = some r ↔ G.guid r = some g
  link : ∀ l r a, G.link r l = some a ↔ G.pair a = some (l, r)
  ends : ∀ l r a, G.pair a = some (l, r) → G.isLocal l ∧ (G.guid r).isSome
  handshake : ∀ h a, G.relationOf h = some a → (G.pair a).isSome
  unique : ∀ h h' a, G.relationOf h = some a → G.relationOf h' = some a → h = h'

def empty : ObjectGraph where
  isLocal _ := False
  guid _ := none
  remoteOf _ := none
  link _ _ := none
  pair _ := none
  relationOf _ := none

theorem empty_sound : empty.Sound := by
  constructor <;> simp [empty]

/-! ## New objects -/

def addLocal (G : ObjectGraph) (l : Handle) : ObjectGraph := { G with isLocal := fun x => x = l ∨ G.isLocal x }

def addRemote (G : ObjectGraph) (r : Handle) (g : Guid) : ObjectGraph :=
  { G with guid := update G.guid r (some g), remoteOf := update G.remoteOf g (some r) }

def addLink (G : ObjectGraph) (l r a : Handle) : ObjectGraph :=
  { G with link := update G.link r (update (G.link r) l (some a)), pair := update G.pair a (some (l, r)) }

def addHandshake (G : ObjectGraph) (h a : Handle) : ObjectGraph :=
  { G with relationOf := update G.relationOf h (some a) }

theorem Sound.addLocal (hG : G.Sound) : (G.addLocal l).Sound :=
  ⟨hG.guid, hG.link, fun l' r a hp => ⟨.inr (hG.ends l' r a hp).1, (hG.ends l' r a hp).2⟩, hG.handshake, hG.unique⟩

theorem Sound.addRemote (hG : G.Sound) (hr : G.guid r = none) (hg : G.remoteOf g = none) :
    (G.addRemote r g).Sound := by
  refine ⟨fun g' r' => ?_, hG.link, fun l' r' a hp => ⟨(hG.ends l' r' a hp).1, ?_⟩, hG.handshake, hG.unique⟩
  · have h := hG.guid
    simp only [ObjectGraph.addRemote, update_apply]
    grind
  · simp only [ObjectGraph.addRemote, update_apply]
    split
    · rfl
    · exact (hG.ends l' r' a hp).2

theorem Sound.addLink (hG : G.Sound) (hl : G.isLocal l) (hr : (G.guid r).isSome) (hnone : G.link r l = none)
    (ha : G.pair a = none) : (G.addLink l r a).Sound := by
  have hlink := hG.link
  refine ⟨hG.guid, fun l' r' a' => ?_, fun l' r' a' hp => ?_, fun h a' hh => ?_, hG.unique⟩
  · simp only [ObjectGraph.addLink, update_apply]
    grind
  · have hends := hG.ends l' r' a'
    simp only [ObjectGraph.addLink, update_apply] at hp ⊢
    grind
  · have hsome := hG.handshake h a' hh
    simp only [ObjectGraph.addLink, update_apply]
    grind

theorem Sound.addHandshake (hG : G.Sound) (ha : (G.pair a).isSome) (hnone : ∀ h', G.relationOf h' ≠ some a) :
    (G.addHandshake h a).Sound := by
  refine ⟨hG.guid, hG.link, hG.ends, fun h' a' hh => ?_, fun h₁ h₂ a' h₁' h₂' => ?_⟩
  · have hsome := hG.handshake h' a'
    simp only [ObjectGraph.addHandshake, update_apply] at hh ⊢
    grind
  · have hunique := hG.unique h₁ h₂ a'
    simp only [ObjectGraph.addHandshake, update_apply] at h₁' h₂'
    grind

/-! ## Objects that go -/

def removeHandshake (G : ObjectGraph) (h : Handle) : ObjectGraph := { G with relationOf := update G.relationOf h none }

def removeLocal (G : ObjectGraph) (l : Handle) : ObjectGraph := { G with isLocal := fun x => x ≠ l ∧ G.isLocal x }

def removeRemote (G : ObjectGraph) (r : Handle) (g : Guid) : ObjectGraph :=
  { G with guid := update G.guid r none, remoteOf := update G.remoteOf g none }

/-- The relation of a pair goes, and the handshake on it. -/
def unlink (G : ObjectGraph) (l r : Handle) : ObjectGraph :=
  match G.link r l with
  | none => G
  | some a =>
    { G with
      link := update G.link r (update (G.link r) l none)
      pair := update G.pair a none
      relationOf := fun h => if G.relationOf h = some a then none else G.relationOf h }

def unlinkAll (G : ObjectGraph) (pairs : List (Handle × Handle)) : ObjectGraph :=
  pairs.foldl (fun G p => G.unlink p.1 p.2) G

theorem Sound.removeHandshake (hG : G.Sound) : (G.removeHandshake h).Sound := by
  refine ⟨hG.guid, hG.link, hG.ends, fun h' a' hh => ?_, fun h₁ h₂ a' h₁' h₂' => ?_⟩
  · have hsome := hG.handshake h' a'
    simp only [ObjectGraph.removeHandshake, update_apply] at hh ⊢
    grind
  · have hunique := hG.unique h₁ h₂ a'
    simp only [ObjectGraph.removeHandshake, update_apply] at h₁' h₂'
    grind

theorem Sound.removeLocal (hG : G.Sound) (hnone : ∀ r, G.link r l = none) : (G.removeLocal l).Sound := by
  refine ⟨hG.guid, hG.link, fun l' r a hp => ⟨⟨?_, (hG.ends l' r a hp).1⟩, (hG.ends l' r a hp).2⟩, hG.handshake,
    hG.unique⟩
  rintro rfl
  have h := (hG.link _ _ _).2 hp
  rw [hnone] at h
  cases h

theorem Sound.removeRemote (hG : G.Sound) (hr : G.guid r = some g) (hnone : ∀ l, G.link r l = none) :
    (G.removeRemote r g).Sound := by
  refine ⟨fun g' r' => ?_, hG.link, fun l' r' a hp => ⟨(hG.ends l' r' a hp).1, ?_⟩, hG.handshake, hG.unique⟩
  · have h₁ := hG.guid g' r'
    have hr' := (hG.guid g r).2 hr
    simp only [ObjectGraph.removeRemote, update_apply]
    grind
  · have hne : r' ≠ r := by
      rintro rfl
      have h := (hG.link _ _ _).2 hp
      rw [hnone] at h
      cases h
    simp only [ObjectGraph.removeRemote, update_apply, if_neg hne]
    exact (hG.ends l' r' a hp).2

theorem Sound.unlink (hG : G.Sound) : (G.unlink l r).Sound := by
  unfold ObjectGraph.unlink
  split
  · exact hG
  rename_i a ha
  have hlink := hG.link
  refine ⟨hG.guid, fun l' r' a' => ?_, fun l' r' a' hp => ?_, fun h a' hh => ?_, fun h₁ h₂ a' h₁' h₂' => ?_⟩
  · simp only [update_apply]
    grind
  · have hends := hG.ends l' r' a'
    simp only [update_apply] at hp
    grind
  · have hsome := hG.handshake h a'
    simp only [update_apply] at hh ⊢
    grind
  · have hunique := hG.unique h₁ h₂ a'
    simp only at h₁' h₂'
    grind

theorem unlink_link (l' r' : Handle) :
    (G.unlink l r).link r' l' = if l' = l ∧ r' = r then none else G.link r' l' := by
  unfold ObjectGraph.unlink
  split
  · grind
  · simp only [update_apply]
    grind

theorem unlink_isLocal (x : Handle) : (G.unlink l r).isLocal x = G.isLocal x := by
  unfold ObjectGraph.unlink
  split <;> rfl

theorem unlink_remoteOf (g : Guid) : (G.unlink l r).remoteOf g = G.remoteOf g := by
  unfold ObjectGraph.unlink
  split <;> rfl

theorem unlink_guid (x : Handle) : (G.unlink l r).guid x = G.guid x := by
  unfold ObjectGraph.unlink
  split <;> rfl

/-- A relation and its handshake stay while other pairs go. -/
theorem Sound.unlink_kept (l' r' : Handle) (hG : G.Sound) (hp : G.pair a = some (l, r)) (hne : (l', r') ≠ (l, r)) :
    (G.unlink l' r').pair a = some (l, r) ∧
      ∀ h, G.relationOf h = some a → (G.unlink l' r').relationOf h = some a := by
  unfold ObjectGraph.unlink
  split
  · exact ⟨hp, fun _ hh => hh⟩
  rename_i a' ha'
  have hp' := (hG.link l' r' a').1 ha'
  have haa : a ≠ a' := by
    rintro rfl
    exact hne (Option.some.inj (hp'.symm.trans hp))
  refine ⟨?_, fun h hh => ?_⟩
  · simp only [update_of_ne haa]
    exact hp
  · have hh' : ¬ G.relationOf h = some a' := by
      rw [hh]
      exact fun heq => haa (Option.some.inj heq)
    simp only [if_neg hh']
    exact hh

section UnlinkAll

variable {pairs : List (Handle × Handle)}

theorem Sound.unlinkAll (hG : G.Sound) : (G.unlinkAll pairs).Sound := by
  induction pairs generalizing G with
  | nil => exact hG
  | cons p pairs ih => exact ih hG.unlink

theorem Sound.unlinkAll_kept (hG : G.Sound) (hp : G.pair a = some (l, r)) (hmem : (l, r) ∉ pairs) :
    (G.unlinkAll pairs).pair a = some (l, r) ∧
      ∀ h, G.relationOf h = some a → (G.unlinkAll pairs).relationOf h = some a := by
  induction pairs generalizing G with
  | nil => exact ⟨hp, fun _ hh => hh⟩
  | cons p pairs ih =>
    obtain ⟨hne, hmem⟩ := not_or.1 (List.mem_cons.not.1 hmem)
    obtain ⟨hp', hkept⟩ := Sound.unlink_kept p.1 p.2 hG hp fun heq => hne heq.symm
    obtain ⟨hp'', hkept'⟩ := ih hG.unlink hp' hmem
    exact ⟨hp'', fun h hh => hkept' h (hkept h hh)⟩

/-- No pair that was unlinked is linked any more. -/
theorem unlinkAll_link (l r : Handle) :
    (G.unlinkAll pairs).link r l = if (l, r) ∈ pairs then none else G.link r l := by
  induction pairs generalizing G with
  | nil => rfl
  | cons p pairs ih =>
    obtain ⟨l', r'⟩ := p
    change ((G.unlink l' r').unlinkAll pairs).link r l = _
    rw [ih, unlink_link]
    grind

theorem unlinkAll_isLocal (x : Handle) : (G.unlinkAll pairs).isLocal x = G.isLocal x := by
  induction pairs generalizing G with
  | nil => rfl
  | cons p pairs ih =>
    change ((G.unlink p.1 p.2).unlinkAll pairs).isLocal x = _
    rw [ih, unlink_isLocal]

theorem unlinkAll_remoteOf (g : Guid) : (G.unlinkAll pairs).remoteOf g = G.remoteOf g := by
  induction pairs generalizing G with
  | nil => rfl
  | cons p pairs ih =>
    change ((G.unlink p.1 p.2).unlinkAll pairs).remoteOf g = _
    rw [ih, unlink_remoteOf]

theorem unlinkAll_guid (x : Handle) : (G.unlinkAll pairs).guid x = G.guid x := by
  induction pairs generalizing G with
  | nil => rfl
  | cons p pairs ih =>
    change ((G.unlink p.1 p.2).unlinkAll pairs).guid x = _
    rw [ih, unlink_guid]

end UnlinkAll

/-! ## Identities that go -/

/-- Neither identity of a pair is among these. -/
def spares (gone : List Handle) (p : Handle × Handle) : Bool := p.1 ∉ gone && p.2 ∉ gone

/-- What is left when identities go: they take their relations and the handshakes on these with them. -/
def without (G : ObjectGraph) (gone : List Handle) : ObjectGraph where
  isLocal l := l ∉ gone ∧ G.isLocal l
  guid r := if r ∈ gone then none else G.guid r
  remoteOf g := (G.remoteOf g).filter (· ∉ gone)
  link r l := if spares gone (l, r) then G.link r l else none
  pair a := (G.pair a).filter (spares gone)
  relationOf h := (G.relationOf h).filter fun a => ((G.pair a).filter (spares gone)).isSome

theorem filter_spares_append (xs ys : List Handle) (o : Option (Handle × Handle)) :
    o.filter (spares (xs ++ ys)) = (o.filter (spares xs)).filter (spares ys) := by
  rw [Option.filter_filter]
  congr 1
  funext p
  simp only [spares, List.mem_append]
  grind

theorem filter_all {α : Type} (o : Option α) : o.filter (fun _ => true) = o := by
  cases o <;> rfl

theorem Sound.without_nil (hG : G.Sound) : G.without [] = G := by
  have hall : spares [] = fun _ => true := by
    funext p
    simp [spares]
  ext x y z
  · simp [without]
  · simp [without]
  · simp [without]
  · simp [without, hall]
  · simp only [without, hall, filter_all]
  · simp only [without, hall, filter_all]
    rcases ha : G.relationOf x with _ | a
    · rfl
    · rw [Option.filter_some, if_pos (hG.handshake x a ha)]

theorem without_without (xs ys : List Handle) : (G.without xs).without ys = G.without (xs ++ ys) := by
  ext x y z
  · simp only [without, List.mem_append]
    grind
  · simp only [without, List.mem_append]
    grind
  · simp only [without, List.mem_append, Option.filter_filter]
    rcases G.remoteOf x with _ | r
    · rfl
    · simp only [Option.filter_some]
      grind
  · simp only [without, spares, List.mem_append]
    grind
  · simp only [without, filter_spares_append]
  · have hsub : ∀ a, (((G.pair a).filter (spares xs)).isSome && (((G.pair a).filter (spares xs)).filter (spares ys)).isSome) =
        (((G.pair a).filter (spares xs)).filter (spares ys)).isSome := by
      intro a
      cases (G.pair a).filter (spares xs) <;> simp
    simp only [without, filter_spares_append]
    rw [Option.filter_filter]
    simp only [hsub]

section Unlinked

variable {pairs : List (Handle × Handle)}

theorem Sound.unlink_pair (hG : G.Sound) (l r a : Handle) :
    (G.unlink l r).pair a = if G.pair a = some (l, r) then none else G.pair a := by
  have hlink := hG.link l r a
  unfold ObjectGraph.unlink
  split
  · grind
  · rename_i a' ha'
    have hp := (hG.link l r a').1 ha'
    simp only [update_apply]
    grind

theorem Sound.unlink_relationOf (hG : G.Sound) (l r h : Handle) :
    (G.unlink l r).relationOf h = if (G.relationOf h).bind G.pair = some (l, r) then none else G.relationOf h := by
  unfold ObjectGraph.unlink
  rcases ha : G.relationOf h with _ | a
  · split
    · simp [ha]
    · simp [ha]
  · have hlink := hG.link l r a
    split
    · grind
    · rename_i a' ha'
      have hp := (hG.link l r a').1 ha'
      grind

/-- A relation goes exactly if its pair is unlinked. -/
theorem Sound.unlinkAll_pair (hG : G.Sound) (a : Handle) :
    (G.unlinkAll pairs).pair a = (G.pair a).filter (· ∉ pairs) := by
  induction pairs generalizing G with
  | nil => simp only [ObjectGraph.unlinkAll, List.foldl_nil, List.not_mem_nil, not_false_eq_true, decide_true, filter_all]
  | cons p pairs ih =>
    change ((G.unlink p.1 p.2).unlinkAll pairs).pair a = _
    rw [ih hG.unlink, hG.unlink_pair]
    rcases G.pair a with _ | q
    · rfl
    · simp only [Option.filter_some, List.mem_cons]
      grind

/-- A handshake goes exactly if the pair of its relation is unlinked. -/
theorem Sound.unlinkAll_relationOf (hG : G.Sound) (h : Handle) :
    (G.unlinkAll pairs).relationOf h = (G.relationOf h).filter fun a => ((G.pair a).filter (· ∉ pairs)).isSome := by
  induction pairs generalizing G with
  | nil =>
    rcases ha : G.relationOf h with _ | a
    · exact ha
    · have hsome := hG.handshake h a ha
      simp only [ObjectGraph.unlinkAll, List.foldl_nil, ha, List.not_mem_nil, not_false_eq_true, decide_true, filter_all,
        Option.filter_some, hsome, if_true]
  | cons p pairs ih =>
    change ((G.unlink p.1 p.2).unlinkAll pairs).relationOf h = _
    rw [ih hG.unlink, hG.unlink_relationOf]
    rcases ha : G.relationOf h with _ | a
    · rfl
    · have hsome := hG.handshake h a ha
      obtain ⟨q, hq⟩ := Option.isSome_iff_exists.1 hsome
      simp only [Option.bind_some, hq, Option.filter_some]
      by_cases hpq : q = (p.1, p.2)
      · simp [hpq]
      · have hpq' : ¬ some q = some (p.1, p.2) := fun heq => hpq (Option.some.inj heq)
        simp only [if_neg hpq', Option.filter_some, hG.unlink_pair, hq]
        simp only [List.mem_cons]
        grind

/-- If the pairs that are unlinked are those that `h` is in, what is left is what spares `h`. -/
theorem filter_unlinked
    (hpairs : ∀ l r a, G.pair a = some (l, r) → ((l, r) ∈ pairs ↔ l = h ∨ r = h)) (a : Handle) :
    (G.pair a).filter (· ∉ pairs) = (G.pair a).filter (spares [h]) := by
  rcases hp : G.pair a with _ | p
  · rfl
  · have hmem := hpairs p.1 p.2 a hp
    simp only [Option.filter_some, spares, List.mem_singleton]
    grind

/-- If those are unlinked and `h` has no links any more, its relations and their handshakes have gone. -/
theorem Sound.unlinkAll_eq (hG : G.Sound)
    (hpairs : ∀ l r a, G.pair a = some (l, r) → ((l, r) ∈ pairs ↔ l = h ∨ r = h)) :
    G.unlinkAll pairs = { G with
      link := (G.without [h]).link
      pair := (G.without [h]).pair
      relationOf := (G.without [h]).relationOf } := by
  ext x y z
  · rw [unlinkAll_isLocal]
  · rw [unlinkAll_guid]
  · rw [unlinkAll_remoteOf]
  · have hlink := hG.link y x
    have hmem := hpairs y x
    rw [unlinkAll_link]
    simp only [without, spares, List.mem_singleton]
    rcases hxy : G.link x y with _ | a
    · grind
    · have ha := hmem a ((hlink a).1 hxy)
      grind
  · rw [hG.unlinkAll_pair, filter_unlinked hpairs]
    rfl
  · simp only [hG.unlinkAll_relationOf, filter_unlinked hpairs]
    rfl

end Unlinked

end ObjectGraph

end PqsecDds.CycloneDDS
