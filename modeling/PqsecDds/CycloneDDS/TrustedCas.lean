import PqsecDds.CycloneDDS.Ideal

/-!
# The directory of trusted CAs

`get_trusted_ca_list` (auth_utils.c:1360-1415) compares the count with `MAX_TRUSTED_CA` for every entry that it would
try to load, before it tries. A full list followed by anything but `.` and `..` is an overrun, whether or not what
follows is a certificate.
-/

namespace PqsecDds.CycloneDDS

open Lib

variable {κ ρ : Type} (env : Env κ ρ) (amb : Ambient ρ)

/-- The loop tries to load the entry. -/
def DirEntry.eligible (entry : DirEntry) : Bool :=
  entry.normalized.isSome && entry.stat && entry.name ≠ str "." && entry.name ≠ str ".."

/-- The certificate that the entry is loaded as. -/
def loadedCa (entry : DirEntry) : Option X509 :=
  if entry.eligible then entry.normalized.bind fun fname => (loadX509CertificateFromFile env amb fname).toOption
  else none

def loadedCas (entries : List DirEntry) : List X509 := entries.filterMap (loadedCa env amb)

/-- With `count` certificates loaded already, some entry is tried when the list is full. -/
def Overrun (count : Nat) (entries : List DirEntry) : Prop :=
  ∃ before entry rest, entries = before ++ entry :: rest ∧ entry.eligible ∧
    maxTrustedCa ≤ count + (loadedCas env amb before).length

/-- Exactly as many certificates as are allowed, and something is tried after the last of them. -/
def Surplus (entries : List DirEntry) : Prop :=
  (loadedCas env amb entries).length = maxTrustedCa ∧ ∃ before entry rest, entries = before ++ entry :: rest ∧
    entry.eligible ∧ (loadedCas env amb before).length = maxTrustedCa

variable {env amb}

theorem eligible_of_loaded {entry : DirEntry} {ca : X509} (h : loadedCa env amb entry = some ca) : entry.eligible := by
  unfold loadedCa at h
  split at h
  · assumption
  · cases h

theorem loadedCas_cons (entry : DirEntry) (entries : List DirEntry) :
    loadedCas env amb (entry :: entries) = (loadedCa env amb entry).toList ++ loadedCas env amb entries := by
  unfold loadedCas
  cases h : loadedCa env amb entry <;> simp [h]

theorem not_overrun_nil (count : Nat) : ¬ Overrun env amb count [] := by
  rintro ⟨before, entry, rest, heq, -⟩
  simp at heq

theorem overrun_cons {count : Nat} {entry : DirEntry} {entries : List DirEntry} :
    Overrun env amb count (entry :: entries) ↔ (entry.eligible ∧ maxTrustedCa ≤ count) ∨
      Overrun env amb (count + (loadedCa env amb entry).toList.length) entries := by
  constructor
  · rintro ⟨before, e, rest, heq, he, hcount⟩
    cases before with
    | nil =>
      obtain ⟨rfl, rfl⟩ := List.cons.inj heq
      exact .inl ⟨he, hcount⟩
    | cons b before =>
      obtain ⟨rfl, rfl⟩ := List.cons.inj heq
      rw [loadedCas_cons, List.length_append] at hcount
      exact .inr ⟨before, e, rest, rfl, he, by omega⟩
  · rintro (⟨he, hcount⟩ | ⟨before, e, rest, rfl, he, hcount⟩)
    · exact ⟨[], entry, entries, rfl, he, hcount⟩
    · refine ⟨entry :: before, e, rest, rfl, he, ?_⟩
      rw [loadedCas_cons, List.length_append]
      omega

/-- One round of the loop. -/
theorem readTrustedCas_cons (entry : DirEntry) (entries : List DirEntry) (caBuf : List X509) :
    readTrustedCas env amb (entry :: entries) caBuf =
      if entry.eligible ∧ maxTrustedCa ≤ caBuf.length then .error .trustedCaDirMaxExceeded
      else readTrustedCas env amb entries (caBuf ++ (loadedCa env amb entry).toList) := by
  rw [readTrustedCas]
  rcases hnorm : entry.normalized with _ | fname
  · have he : entry.eligible = false := by simp [DirEntry.eligible, hnorm]
    simp [he, loadedCa]
  · by_cases he : entry.stat && entry.name ≠ str "." && entry.name ≠ str ".."
    · have heligible : entry.eligible = true := by
        simp only [DirEntry.eligible, hnorm, Option.isSome_some, Bool.true_and]
        exact he
      simp only [he, heligible, if_true, true_and]
      by_cases hfull : maxTrustedCa ≤ caBuf.length
      · rw [if_pos hfull, if_pos hfull]
      · rw [if_neg hfull, if_neg hfull]
        cases hload : loadX509CertificateFromFile env amb fname with
        | ok ca => simp [loadedCa, heligible, hnorm, hload, Except.toOption]
        | error e => simp [loadedCa, heligible, hnorm, hload, Except.toOption]
    · have heligible : entry.eligible = false := by
        simp only [DirEntry.eligible, hnorm, Option.isSome_some, Bool.true_and]
        exact Bool.not_eq_true _ ▸ he
      simp only [heligible, loadedCa, if_neg he]
      simp

/-- The whole loop: it stops at an overrun, and else loads every certificate once, in order. -/
theorem readTrustedCas_ok {entries : List DirEntry} {caBuf cas : List X509} :
    readTrustedCas env amb entries caBuf = .ok cas ↔
      ¬ Overrun env amb caBuf.length entries ∧ cas = caBuf ++ loadedCas env amb entries := by
  induction entries generalizing caBuf with
  | nil =>
    simp only [readTrustedCas, Except.ok.injEq, not_overrun_nil, not_false_eq_true, true_and, loadedCas,
      List.filterMap_nil, List.append_nil]
    exact eq_comm
  | cons entry entries ih =>
    rw [readTrustedCas_cons, overrun_cons, loadedCas_cons]
    by_cases hfull : entry.eligible ∧ maxTrustedCa ≤ caBuf.length
    · simp [hfull]
    · rw [if_neg hfull, ih, List.length_append, List.append_assoc]
      simp [hfull]

/-- More certificates than are allowed are an overrun. -/
theorem overrun_of_lt {entries : List DirEntry} : ∀ {count : Nat}, count ≤ maxTrustedCa →
    maxTrustedCa < count + (loadedCas env amb entries).length → Overrun env amb count entries := by
  induction entries with
  | nil =>
    intro count hle hlt
    simp [loadedCas] at hlt
    omega
  | cons entry entries ih =>
    intro count hle hlt
    rw [loadedCas_cons, List.length_append] at hlt
    rw [overrun_cons]
    rcases hload : loadedCa env amb entry with _ | ca
    · rw [hload] at hlt
      refine .inr (ih hle ?_)
      simpa using hlt
    · rw [hload] at hlt
      have helig := eligible_of_loaded hload
      by_cases hfull : maxTrustedCa ≤ count
      · exact .inl ⟨helig, hfull⟩
      · refine .inr (ih ?_ ?_)
        · simp only [Option.toList_some, List.length_singleton]
          omega
        · simp only [Option.toList_some, List.length_singleton] at hlt ⊢
          omega

theorem surplus_iff {entries : List DirEntry} :
    Surplus env amb entries ↔ (loadedCas env amb entries).length ≤ maxTrustedCa ∧ Overrun env amb 0 entries := by
  constructor
  · rintro ⟨hlen, before, entry, rest, rfl, he, hbefore⟩
    exact ⟨by omega, before, entry, rest, rfl, he, by omega⟩
  · rintro ⟨hle, before, entry, rest, rfl, he, hbefore⟩
    have hsplit : (loadedCas env amb before).length ≤ (loadedCas env amb (before ++ entry :: rest)).length := by
      unfold loadedCas
      rw [List.filterMap_append, List.length_append]
      omega
    exact ⟨by omega, before, entry, rest, rfl, he, by omega⟩

/-- The loop succeeds as often as it should unless there is a surplus. -/
theorem readTrustedCas_isOk_iff {entries : List DirEntry} :
    ((readTrustedCas env amb entries []).isOk ↔ (loadedCas env amb entries).length ≤ maxTrustedCa) ↔
      ¬ Surplus env amb entries := by
  have hok : (readTrustedCas env amb entries []).isOk ↔ ¬ Overrun env amb 0 entries := by
    constructor
    · intro h
      rcases hrun : readTrustedCas env amb entries [] with e | cas
      · rw [hrun] at h
        cases h
      · exact (readTrustedCas_ok.1 hrun).1
    · intro h
      have hrun : readTrustedCas env amb entries [] = .ok (loadedCas env amb entries) := readTrustedCas_ok.2 ⟨h, rfl⟩
      rw [hrun]
      rfl
  have hmany : ¬ (loadedCas env amb entries).length ≤ maxTrustedCa → Overrun env amb 0 entries := by
    intro h
    refine overrun_of_lt (Nat.zero_le _) ?_
    omega
  rw [hok, surplus_iff]
  tauto

/-! ## The list in force -/

theorem getTrustedCaList_eq {dir : CStr} {entries : List DirEntry} (hdir : env.readDirectory dir = some entries) :
    getTrustedCaList env amb dir = readTrustedCas env amb entries [] := by
  simp only [getTrustedCaList, hdir, need, Option.elim_some, bind, Except.bind]

theorem loadTrustedCas_eq_getTrustedCaList {dir : CStr} (hne : dir ≠ []) (s : Authentication κ) :
    loadTrustedCas env amb (some dir) s =
      match getTrustedCaList env amb dir with
      | .ok cas => (.ok ⟨⟩, { s with trustedCaList := cas })
      | .error e => (.error (.failed e), s) := by
  obtain ⟨x, xs, rfl⟩ := List.exists_cons_of_ne_nil hne
  simp only [loadTrustedCas, nonEmpty]
  cases getTrustedCaList env amb (x :: xs) <;> rfl

/-- What is promised of a directory with these entries. -/
structure LoadsCas (env : Env κ ρ) (amb : Ambient ρ) (dir : CStr) (entries : List DirEntry) : Prop where
  succeeds_iff : (getTrustedCaList env amb dir).isOk ↔ (loadedCas env amb entries).length ≤ maxTrustedCa
  success : ∀ s u s', loadTrustedCas env amb (some dir) s = (.ok u, s') →
    s' = { s with trustedCaList := loadedCas env amb entries }
  /-- in any other order of the entries, the same certificates -/
  reordered : ∀ entries' cas, entries'.Perm entries → readTrustedCas env amb entries' [] = .ok cas →
    cas.Perm (loadedCas env amb entries)
  failure : ∀ s e s', loadTrustedCas env amb (some dir) s = (.error e, s') → s' = s

/-- **Loading the trusted CAs** works as promised exactly if there is no surplus in the directory. -/
theorem trusted_cas_loaded {dir : CStr} {entries : List DirEntry} (hne : dir ≠ [])
    (hdir : env.readDirectory dir = some entries) : LoadsCas env amb dir entries ↔ ¬ Surplus env amb entries := by
  rw [← readTrustedCas_isOk_iff, ← getTrustedCaList_eq hdir]
  constructor
  · exact LoadsCas.succeeds_iff
  · intro hiff
    refine ⟨hiff, fun s u s' hrun => ?_, fun entries' cas hperm hrun => ?_, fun s e s' hrun => ?_⟩
    · rw [loadTrustedCas_eq_getTrustedCaList hne, getTrustedCaList_eq hdir] at hrun
      rcases hread : readTrustedCas env amb entries [] with e | cas
      · rw [hread] at hrun
        cases hrun
      · rw [hread] at hrun
        obtain ⟨-, rfl⟩ := readTrustedCas_ok.1 hread
        exact (Prod.mk.inj hrun).2.symm
    · obtain ⟨-, rfl⟩ := readTrustedCas_ok.1 hrun
      exact hperm.filterMap _
    · rw [loadTrustedCas_eq_getTrustedCaList hne] at hrun
      rcases hget : getTrustedCaList env amb dir with e' | cas
      · rw [hget] at hrun
        exact (Prod.mk.inj hrun).2.symm
      · rw [hget] at hrun
        cases hrun

/-! ## A full directory with one more file -/

namespace Ideal

def caFile : DirEntry := ⟨str "ca.pem", true, some [9, 0, 9, 1]⟩

def readme : DirEntry := ⟨str "README", true, some (str "README")⟩

def withDirectory (entries : List DirEntry) : Env UInt8 UInt8 := { Ideal.env with readDirectory := fun _ => some entries }

end Ideal

theorem trusted_cas_loaded_sample :
    LoadsCas (Ideal.withDirectory [Ideal.readme, Ideal.caFile]) (Ideal.ambient 1) (str "cas") [Ideal.readme, Ideal.caFile] := by
  refine (trusted_cas_loaded (by decide) rfl).2 ?_
  rintro ⟨hlen, -⟩
  revert hlen
  decide +kernel

/-- A hundred certificates and a `README` after them: only the certificates count, but nothing is loaded. -/
theorem trusted_cas_loaded_fails :
    ¬ LoadsCas (Ideal.withDirectory (List.replicate 100 Ideal.caFile ++ [Ideal.readme])) (Ideal.ambient 1) (str "cas")
      (List.replicate 100 Ideal.caFile ++ [Ideal.readme]) := by
  intro h
  have hiff := h.succeeds_iff
  revert hiff
  decide +kernel

end PqsecDds.CycloneDDS
