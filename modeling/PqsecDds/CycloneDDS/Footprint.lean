import PqsecDds.CycloneDDS.Ideal
import PqsecDds.CycloneDDS.Integrity
import PqsecDds.CycloneDDS.Triggers
import PqsecDds.CycloneDDS.Trust
import PqsecDds.CycloneDDS.TrustedCas
import Mathlib.Combinatorics.Enumerative.DoubleCounting

/-!
# How large the tables can get

The handshake operations take tokens from the network, and each of them may allocate. `store_bounded` says that they
cannot fill the memory: in every state of every run the size of the tables is bounded by the number of local identities
and of participant GUIDs that were validated, however many tokens were processed and whatever was in them. There is at
most one relation and one handshake for a local identity and a GUID, and at most one trigger for an identity.
-/

namespace PqsecDds.CycloneDDS

open Lib ObjectGraph

/-! ## Counting in a graph -/

namespace ObjectGraph

variable {G : ObjectGraph} {locals : Finset Handle} {guids : Finset Guid}

/-- The local identities and the GUIDs of the remote ones are among these. -/
structure Within (G : ObjectGraph) (locals : Finset Handle) (guids : Finset Guid) : Prop where
  locals : ∀ l, G.isLocal l → l ∈ locals
  guids : ∀ r g, G.guid r = some g → g ∈ guids

/-- One remote identity for a GUID. -/
theorem Sound.card_remotes_le (hG : G.Sound) (hw : G.Within locals guids) (remotes : Finset Handle)
    (hr : ∀ r ∈ remotes, (G.guid r).isSome) : remotes.card ≤ guids.card := by
  refine Finset.card_le_card_of_forall_subsingleton (fun r g => G.guid r = some g) (fun r hmem => ?_) ?_
  · obtain ⟨g, hg⟩ := Option.isSome_iff_exists.1 (hr r hmem)
    exact ⟨g, hw.guids r g hg, hg⟩
  · rintro g - r ⟨-, hr⟩ r' ⟨-, hr'⟩
    have h := (hG.guid g r).2 hr
    rw [(hG.guid g r').2 hr'] at h
    exact (Option.some.inj h).symm

/-- The local identity and the GUID that a relation is between. -/
def between (G : ObjectGraph) (a : Handle) (q : Handle × Guid) : Prop :=
  ∃ r, G.pair a = some (q.1, r) ∧ G.guid r = some q.2

theorem Sound.exists_between (hG : G.Sound) (hw : G.Within locals guids) {a : Handle} (ha : (G.pair a).isSome) :
    ∃ q ∈ locals ×ˢ guids, G.between a q := by
  obtain ⟨⟨l, r⟩, hp⟩ := Option.isSome_iff_exists.1 ha
  obtain ⟨hl, hsome⟩ := hG.ends l r a hp
  obtain ⟨g, hg⟩ := Option.isSome_iff_exists.1 hsome
  exact ⟨(l, g), Finset.mem_product.2 ⟨hw.locals l hl, hw.guids r g hg⟩, r, hp, hg⟩

theorem Sound.between_unique (hG : G.Sound) {a a' : Handle} {q : Handle × Guid} (h : G.between a q)
    (h' : G.between a' q) : a = a' := by
  obtain ⟨r, hp, hg⟩ := h
  obtain ⟨r', hp', hg'⟩ := h'
  have hr := (hG.guid q.2 r).2 hg
  rw [(hG.guid q.2 r').2 hg'] at hr
  obtain rfl := Option.some.inj hr
  have ha := (hG.link q.1 r' a).2 hp
  rw [(hG.link q.1 r' a').2 hp'] at ha
  exact (Option.some.inj ha).symm

/-- One relation for a local identity and a GUID. -/
theorem Sound.card_relations_le (hG : G.Sound) (hw : G.Within locals guids) (relations : Finset Handle)
    (ha : ∀ a ∈ relations, (G.pair a).isSome) : relations.card ≤ locals.card * guids.card := by
  rw [← Finset.card_product]
  refine Finset.card_le_card_of_forall_subsingleton G.between (fun a hmem => hG.exists_between hw (ha a hmem)) ?_
  rintro q - a ⟨-, h⟩ a' ⟨-, h'⟩
  exact hG.between_unique h h'

/-- One handshake for a local identity and a GUID. -/
theorem Sound.card_handshakes_le (hG : G.Sound) (hw : G.Within locals guids) (handshakes : Finset Handle)
    (hh : ∀ h ∈ handshakes, (G.relationOf h).isSome) : handshakes.card ≤ locals.card * guids.card := by
  rw [← Finset.card_product]
  refine Finset.card_le_card_of_forall_subsingleton (fun h q => ∃ a, G.relationOf h = some a ∧ G.between a q)
    (fun h hmem => ?_) ?_
  · obtain ⟨a, ha⟩ := Option.isSome_iff_exists.1 (hh h hmem)
    obtain ⟨q, hq, hbetween⟩ := hG.exists_between hw (hG.handshake h a ha)
    exact ⟨q, hq, a, ha, hbetween⟩
  · rintro q - h ⟨-, a, ha, hq⟩ h' ⟨-, a', ha', hq'⟩
    obtain rfl := hG.between_unique hq hq'
    exact hG.unique h h' a ha ha'

end ObjectGraph

/-! ## What a run validated -/

variable {κ ρ : Type} {env : Env κ ρ} {amb : Ambient ρ} {s s' : Authentication κ} {op : Op}
variable {tr : Trace (Authentication κ) (Op × Ambient ρ)}

/-- The local identity that a successful call returns. -/
def localValidated (env : Env κ ρ) : Authentication κ × Op × Ambient ρ → Option Handle
  | (s, .validateLocalIdentity qos candidate, amb) => (validateLocalIdentity env amb qos candidate s).1.toOption.map (·.1)
  | _ => none

/-- The GUID that a successful call was given. -/
def guidValidated (env : Env κ ρ) : Authentication κ × Op × Ambient ρ → Option Guid
  | (s, .validateRemoteIdentity request l token guid, amb) =>
    (validateRemoteIdentity env amb request l token guid s).1.toOption.map fun _ => guid
  | _ => none

/-- The addresses of the local identities that the run validated. -/
def validatedLocals (env : Env κ ρ) (tr : Trace (Authentication κ) (Op × Ambient ρ)) : Finset Handle :=
  (tr.filterMap (localValidated env)).toFinset

/-- The GUIDs of the remote participants that the run validated. -/
def validatedGuids (env : Env κ ρ) (tr : Trace (Authentication κ) (Op × Ambient ρ)) : Finset Guid :=
  (tr.filterMap (guidValidated env)).toFinset

theorem validatedLocals_cons (e : Authentication κ × Op × Ambient ρ) :
    validatedLocals env (e :: tr) = (localValidated env e).toFinset ∪ validatedLocals env tr := by
  unfold validatedLocals
  rw [List.filterMap_cons]
  cases localValidated env e <;> simp

theorem validatedGuids_cons (e : Authentication κ × Op × Ambient ρ) :
    validatedGuids env (e :: tr) = (guidValidated env e).toFinset ∪ validatedGuids env tr := by
  unfold validatedGuids
  rw [List.filterMap_cons]
  cases guidValidated env e <;> simp

theorem exec_guid {r : Handle} {guid : Guid} (hg : (exec env s (op, amb)).1.graph.guid r = some guid) :
    s.graph.guid r = some guid ∨ guidValidated env (s, op, amb) = some guid := by
  rcases exec_call env s op amb with hsame | ⟨ha, res, hcall, hok⟩
  · rw [hsame] at hg
    exact .inl hg
  obtain ⟨remote, hr, rfl⟩ := Option.map_eq_some_iff.1 hg
  have he : Effect env amb s op (exec env s (op, amb)).1 := exec_effect s op amb
  rcases he.remoteIdentity_cases hr with ⟨old, linkHash, timer, hold, rfl⟩ | ⟨_, _, _, guid, _, rfl, hnone, rfl⟩ |
    ⟨h, c, c', timer, ht, rfl, rfl⟩
  · exact .inl (by simp [Authentication.graph, hold])
  · obtain ⟨rx, hrun, rfl⟩ := Act.bind_pure_eq.1 hcall
    rcases validateRemoteIdentity_cases ha hrun (map_ne_fault hok) with ⟨-, hs⟩ | ⟨_, _, _, _, _, _, -, -, rfl⟩
    · rw [hs, hnone] at hr
      cases hr
    · exact .inr (by simp [guidValidated, hrun, Except.toOption])
  · exact .inl (by simp [Authentication.graph, ht.points.remoteIdentity, ht.frame.guid])

theorem exec_local {l : Handle} (hl : (exec env s (op, amb)).1.graph.isLocal l) :
    s.graph.isLocal l ∨ localValidated env (s, op, amb) = some l := by
  rcases exec_call env s op amb with hsame | ⟨ha, res, hcall, -⟩
  · rw [hsame] at hl
    exact .inl hl
  obtain ⟨identity, hl⟩ := Option.isSome_iff_exists.1 hl
  have he : Effect env amb s op (exec env s (op, amb)).1 := exec_effect s op amb
  rcases he.localIdentity_cases hl with ⟨old, _, _, _, hold, -⟩ | ⟨qos, candidate, _, rfl, rfl, hnone, -⟩
  · exact .inl (by simp [Authentication.graph, hold])
  · obtain ⟨rx, hrun, -⟩ := Act.bind_pure_eq.1 hcall
    rcases validateLocalIdentity_cases ha hrun with ⟨_, -, -, hs | ⟨_, -, hs⟩⟩ | ⟨_, _, rfl, -⟩
    · rw [hs, hnone] at hl
      cases hl
    · rw [hs] at hl
      cases hnone.symm.trans hl
    · exact .inr (by simp [localValidated, hrun, Except.toOption])

theorem run_within (hr : Run (plugin env).solo tr s) :
    s.graph.Within (validatedLocals env tr) (validatedGuids env tr) := by
  refine hr.inv (I := fun tr s => s.graph.Within (validatedLocals env tr) (validatedGuids env tr)) ?_ ?_
  · intro s hstart
    rw [start_graph env hstart]
    exact ⟨fun _ h => h.elim, nofun⟩
  · rintro tr s ⟨op, amb⟩ s' - ih ⟨-, rfl⟩
    refine ⟨fun l hl => ?_, fun r g hg => ?_⟩
    · rw [validatedLocals_cons, Finset.mem_union, Option.mem_toFinset]
      exact (exec_local hl).symm.imp id (ih.locals l)
    · rw [validatedGuids_cons, Finset.mem_union, Option.mem_toFinset]
      exact (exec_guid hg).symm.imp id (ih.guids r g)

/-! ## The tables -/

/-- The size of the tables, in the number of local identities and of GUIDs. -/
structure Footprint (locals guids : Nat) (s : Authentication κ) : Prop where
  objects : s.objectHash.keys.length ≤ locals + guids + locals * guids
  remotes : s.remoteGuidHash.keys.length ≤ guids
  relations : s.relations.keys.length ≤ locals * guids
  triggers : s.dispatcher.keys.length ≤ locals + guids
  trustedCas : s.trustedCaList.length ≤ maxTrustedCa

theorem card_keys {α : Type} [DecidableEq α] {β : α → Type} (t : AList β) : t.keys.length = t.keys.toFinset.card :=
  (List.toFinset_card_of_nodup t.keys_nodup).symm

theorem mem_keys_iff {α : Type} [DecidableEq α] {β : α → Type} {t : AList β} {x : α} :
    x ∈ t.keys.toFinset ↔ (t.lookup x).isSome := by
  rw [List.mem_toFinset, ← AList.mem_keys, AList.lookup_isSome]

/-- The handles of the objects of a kind. -/
def Authentication.holding {γ : Type} (s : Authentication κ) (kind : SecurityObject κ → Option γ) : Finset Handle :=
  s.objectHash.keys.toFinset.filter fun h => ((s.objectHash.lookup h).bind kind).isSome

theorem mem_holding {γ : Type} {kind : SecurityObject κ → Option γ} {h : Handle} :
    h ∈ s.holding kind ↔ ((s.objectHash.lookup h).bind kind).isSome := by
  rw [Authentication.holding, Finset.mem_filter, mem_keys_iff]
  cases s.objectHash.lookup h <;> simp

/-- Every object is of one of the three kinds. -/
theorem objects_card_le (s : Authentication κ) : s.objectHash.keys.length ≤
    (s.holding (·.asLocal)).card + (s.holding (·.asRemote)).card + (s.holding (·.asHandshake)).card := by
  rw [card_keys]
  refine le_trans (Finset.card_le_card ?_)
    (le_trans (Finset.card_union_le _ _) (Nat.add_le_add_right (Finset.card_union_le _ _) _))
  intro h hmem
  obtain ⟨obj, hobj⟩ := Option.isSome_iff_exists.1 (mem_keys_iff.1 hmem)
  simp only [Finset.mem_union, mem_holding, hobj, Option.bind_some]
  cases obj with
  | localIdentity _ => exact .inl (.inl rfl)
  | remoteIdentity _ => exact .inl (.inr rfl)
  | handshake _ => exact .inr rfl

section Sizes

variable {locals : Finset Handle} {guids : Finset Guid}

theorem card_locals_le (hw : s.graph.Within locals guids) : (s.holding (·.asLocal)).card ≤ locals.card :=
  Finset.card_le_card fun l hl => hw.locals l (mem_holding.1 hl)

theorem card_remotes_le (hG : s.graph.Sound) (hw : s.graph.Within locals guids) :
    (s.holding (·.asRemote)).card ≤ guids.card := by
  refine hG.card_remotes_le hw _ fun r hr => ?_
  have hremote : (s.remoteIdentity r).isSome := mem_holding.1 hr
  simpa [Authentication.graph] using hremote

theorem card_handshakes_le (hG : s.graph.Sound) (hw : s.graph.Within locals guids) :
    (s.holding (·.asHandshake)).card ≤ locals.card * guids.card := by
  refine hG.card_handshakes_le hw _ fun h hh => ?_
  have hhandshake : (s.handshake h).isSome := mem_holding.1 hh
  simpa [Authentication.graph] using hhandshake

/-- A trigger belongs to an identity, which has no other. -/
theorem card_triggers_le (hT : s.TimersMatch) :
    s.dispatcher.keys.length ≤ (s.holding (·.asLocal)).card + (s.holding (·.asRemote)).card := by
  rw [card_keys]
  refine le_trans ?_ (Finset.card_union_le _ _)
  refine Finset.card_le_card_of_forall_subsingleton (fun t x => s.timerOf x = some t) (fun t ht => ?_) ?_
  · obtain ⟨⟨x, due⟩, hlookup⟩ := Option.isSome_iff_exists.1 (mem_keys_iff.1 ht)
    obtain ⟨-, htimer⟩ := (hT t x).1 ⟨due, hlookup⟩
    refine ⟨x, ?_, htimer⟩
    rw [Finset.mem_union, mem_holding, mem_holding]
    change (s.localIdentity x).isSome ∨ (s.remoteIdentity x).isSome
    rcases hl : s.localIdentity x with _ | identity
    · rcases hr : s.remoteIdentity x with _ | remote
      · simp [Authentication.timerOf, hl, hr] at htimer
      · exact .inr rfl
    · exact .inl rfl
  · rintro x - t ⟨-, ht⟩ t' ⟨-, ht'⟩
    have h : s.timerOf x = some t := ht
    rw [show s.timerOf x = some t' from ht'] at h
    exact (Option.some.inj h).symm

theorem card_relations_le (hG : s.graph.Sound) (hw : s.graph.Within locals guids) :
    s.relations.keys.length ≤ locals.card * guids.card := by
  rw [card_keys]
  refine hG.card_relations_le hw _ fun a ha => ?_
  have hrelation : (s.relation a).isSome := mem_keys_iff.1 ha
  simpa [Authentication.graph] using hrelation

/-- The table of the GUIDs has those of the remote identities. -/
theorem card_guids_le (hG : s.graph.Sound) (hw : s.graph.Within locals guids) :
    s.remoteGuidHash.keys.length ≤ guids.card := by
  rw [card_keys]
  refine Finset.card_le_card fun g hg => ?_
  obtain ⟨r, hr⟩ := Option.isSome_iff_exists.1 (mem_keys_iff.1 hg)
  exact hw.guids r g ((hG.guid g r).1 hr)

end Sizes

/-! ## Every run -/

theorem getTrustedCaList_length {dir : CStr} {cas : List X509} (h : getTrustedCaList env amb dir = .ok cas) :
    cas.length ≤ maxTrustedCa := by
  simp only [getTrustedCaList, bind_ok, need_ok] at h
  obtain ⟨entries, -, hread⟩ := h
  obtain ⟨hfits, rfl⟩ := readTrustedCas_ok.1 hread
  by_contra hlong
  refine hfits (overrun_of_lt (Nat.zero_le _) ?_)
  simpa using hlong

theorem run_trustedCas (hr : Run (plugin env).solo tr s) : s.trustedCaList.length ≤ maxTrustedCa := by
  refine hr.state_inv (I := fun s => s.trustedCaList.length ≤ maxTrustedCa) ?_ ?_
  · rintro s ⟨includeOptional, kem, rfl⟩
    exact Nat.zero_le _
  · rintro s ⟨op, amb⟩ s' ih ⟨-, rfl⟩
    rcases (exec_effect s op amb).trusted_cases with hsame | ⟨qos, candidate, -, hload⟩
    · exact hsame ▸ ih
    · unfold trustedCasAfter at hload
      split at hload
      · exact Except.ok.inj hload ▸ ih
      · exact getTrustedCaList_length hload

/-- No sequence of tokens makes the tables grow: what bounds them is the number of local identities and of participant
GUIDs that the run validated. -/
theorem store_bounded (env : Env κ ρ) (hr : Run (plugin env).solo tr s) :
    Footprint (validatedLocals env tr).card (validatedGuids env tr).card s := by
  have hG := run_sound hr
  have hw := run_within hr
  have hl := card_locals_le hw
  have hrem := card_remotes_le hG hw
  have hhs := card_handshakes_le hG hw
  refine ⟨?_, card_guids_le hG hw, card_relations_le hG hw, ?_, run_trustedCas hr⟩
  · have hobjects := objects_card_le s
    omega
  · have htriggers := card_triggers_le (run_timersMatch hr)
    omega

/-! ## A participant that sends Request after Request -/

def requestTwice : List Ideal.SampleCall := Ideal.aliceCalls ++ [Ideal.requestCall 10 3, Ideal.requestCall 11 3]

def requestHistory : Trace Ideal.State Ideal.SampleCall :=
  (plugin Ideal.env).history [] Ideal.start requestTwice

/-- Two identities, and one handshake for both Requests. -/
theorem store_bounded_sample : (Ideal.after Ideal.start requestTwice).objectHash.keys.length ≤ 3 := by
  have hbound : Footprint (validatedLocals Ideal.env requestHistory).card (validatedGuids Ideal.env requestHistory).card
      (Ideal.after Ideal.start requestTwice) :=
    store_bounded Ideal.env (Ideal.calls_run true .mlKem512 requestTwice)
  have hlocals : (validatedLocals Ideal.env requestHistory).card = 1 := by decide +kernel
  have hguids : (validatedGuids Ideal.env requestHistory).card = 1 := by decide +kernel
  have hobjects := hbound.objects
  rw [hlocals, hguids] at hobjects
  exact hobjects

end PqsecDds.CycloneDDS
