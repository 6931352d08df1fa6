import Mathlib.Data.List.AList

/-!
# Leases

The users of shared resources take references and give them back. Each user has at most one, for as long as it is there.
The references that are out are a list, with a resource once for each reference to it. `Balanced` says that they are
those of the users.
-/

namespace PqsecDds.Lib

variable {ι β ν : Type} [DecidableEq ι] {lease : β → Option ν} {users : AList fun _ : ι => β} {i : ι} {b b' : β}
variable {refs : List ν} {q : ν}

/-- The references of the users. -/
def leased (lease : β → Option ν) (users : AList fun _ : ι => β) : List ν := users.entries.filterMap fun e => lease e.2

def acquire (o : Option ν) (refs : List ν) : List ν := o.toList ++ refs

def release [DecidableEq ν] : Option ν → List ν → List ν
  | none, refs => refs
  | some q, refs => refs.erase q

def Balanced (lease : β → Option ν) (refs : List ν) (users : AList fun _ : ι => β) : Prop := refs.Perm (leased lease users)

theorem mem_leased_iff : q ∈ leased lease users ↔ ∃ i b, users.lookup i = some b ∧ lease b = some q := by
  unfold leased
  rw [List.mem_filterMap]
  constructor
  · rintro ⟨⟨i, b⟩, hmem, hq⟩
    exact ⟨i, b, AList.mem_lookup_iff.2 hmem, hq⟩
  · rintro ⟨i, b, hlookup, hq⟩
    exact ⟨⟨i, b⟩, AList.mem_lookup_iff.1 (Option.mem_def.2 hlookup), hq⟩

/-- One user's part. -/
theorem leased_split (hi : users.lookup i = some b) :
    (leased lease users).Perm (acquire (lease b) (leased lease (users.erase i))) := by
  have hkeys : i ∈ users.entries.keys := AList.lookup_isSome.1 (by rw [hi]; rfl)
  obtain ⟨b₁, before, after, -, hentries, herase⟩ := List.exists_of_kerase hkeys
  have hb : b₁ = b := by
    have hmem : (⟨i, b₁⟩ : Σ _ : ι, β) ∈ users.entries := by
      rw [hentries]
      simp
    have hlookup : users.lookup i = some b₁ := AList.mem_lookup_iff.2 hmem
    rw [hi] at hlookup
    exact (Option.some.inj hlookup).symm
  subst hb
  have hleft : leased lease (users.erase i) = (before ++ after).filterMap fun e => lease e.2 := by
    rw [← herase]
    rfl
  rw [hleft, leased, hentries, acquire]
  rw [List.filterMap_append, List.filterMap_append, List.filterMap_cons]
  rcases lease b₁ with _ | q
  · simp
  · exact List.perm_middle

theorem leased_insert (i : ι) (b : β) (users : AList fun _ : ι => β) :
    leased lease (users.insert i b) = acquire (lease b) (leased lease (users.erase i)) := by
  unfold leased acquire
  rw [AList.entries_insert, List.filterMap_cons]
  cases lease b <;> rfl

theorem erase_of_lookup_none (hi : users.lookup i = none) : users.erase i = users := by
  have hkeys : i ∉ users.entries.keys := AList.lookup_eq_none.1 hi
  exact AList.ext (List.kerase_of_notMem_keys hkeys)

theorem Perm_acquire {o : Option ν} {refs refs' : List ν} (h : refs.Perm refs') : (acquire o refs).Perm (acquire o refs') :=
  h.append_left o.toList

namespace Balanced

omit [DecidableEq ι] in
theorem empty : Balanced lease [] (∅ : AList fun _ : ι => β) := List.Perm.refl _

/-- A user that comes takes its reference. -/
theorem opened (h : Balanced lease refs users) (hi : users.lookup i = none) :
    Balanced lease (acquire (lease b) refs) (users.insert i b) := by
  unfold Balanced
  rw [leased_insert, erase_of_lookup_none hi]
  exact Perm_acquire h

/-- A user that stays keeps its reference, whatever else of it changes. -/
theorem changed (h : Balanced lease refs users) (hi : users.lookup i = some b) (hb : lease b' = lease b) :
    Balanced lease refs (users.insert i b') := by
  unfold Balanced
  rw [leased_insert, hb]
  exact h.trans (leased_split hi)

/-- A user that goes gives its reference back. -/
theorem closed [DecidableEq ν] (h : Balanced lease refs users) (hi : users.lookup i = some b) :
    Balanced lease (release (lease b) refs) (users.erase i) := by
  have hperm : refs.Perm (acquire (lease b) (leased lease (users.erase i))) := h.trans (leased_split hi)
  rcases hb : lease b with _ | q
  · rw [hb] at hperm
    exact hperm
  · rw [hb] at hperm
    have herase := hperm.erase q
    rwa [acquire, Option.toList_some, List.singleton_append, List.erase_cons_head] at herase

/-- A resource has a reference exactly if some user holds one. -/
theorem mem_iff (h : Balanced lease refs users) : q ∈ refs ↔ ∃ i b, users.lookup i = some b ∧ lease b = some q :=
  (List.Perm.mem_iff h).trans mem_leased_iff

end Balanced

end PqsecDds.Lib
