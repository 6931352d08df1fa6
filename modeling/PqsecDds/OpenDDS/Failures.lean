import PqsecDds.OpenDDS.Challenges

/-!
# What a failed call leaves behind

`begin_handshake_request` and `begin_handshake_reply` build their handshake first and enter it into the map at the
end (Authentication.cpp:403-405, 525-528). `validate_remote_identity` enters the remote identity first and stores the
AuthRequest in it before it looks at it (Authentication.cpp:321-325).
-/

namespace PqsecDds.OpenDDS

open Lib Authentication

variable {α κ π ρ : Type} [Octet α] [DecidableEq α]
variable {env : Env α κ π ρ} {amb : Ambient α ρ} {s s' : Authentication α κ π}

/-- The maps hold the same objects and the next handle is the same. -/
structure Untouched (s s' : Authentication α κ π) : Prop where
  locals : ∀ h, s'.findLocal h = s.findLocal h
  remotes : ∀ h, s'.findRemote h = s.findRemote h
  handshakes : ∀ h, s'.findHandshake h = s.findHandshake h
  nextHandle : s'.nextHandle = s.nextHandle

/-- A call that is given `handle` and fails changes neither the state nor the handle. -/
def KeepsOnFailure (s : Authentication α κ π) (handle : Handle) (result : Outcome α π × Authentication α κ π) :
    Prop :=
  result.1.result = .failed → Untouched s result.2 ∧ result.1.handle = handle

omit [Octet α] [DecidableEq α] in
theorem Untouched.refl (s : Authentication α κ π) : Untouched s s :=
  ⟨fun _ => rfl, fun _ => rfl, fun _ => rfl, rfl⟩

omit [Octet α] [DecidableEq α] in
theorem keepsOnFailure_fail (s : Authentication α κ π) (handle : Handle) (token : Token α) (message : Str α) :
    KeepsOnFailure s handle (fail handle token message, s) :=
  fun _ => ⟨.refl s, rfl⟩

/-! ## The handshake builders -/

omit [DecidableEq α] in
theorem beginHandshakeRequest_keeps (handle : Handle) (m : Token α) (ih rh : Handle) (pd : OctetSeq α) :
    KeepsOnFailure s handle (beginHandshakeRequest env amb s handle m ih rh pd) := by
  rw [beginHandshakeRequest]
  split
  · exact keepsOnFailure_fail s handle m _
  split
  · exact keepsOnFailure_fail s handle m _
  · intro h
    cases h

theorem beginHandshakeReply_keeps (handle : Handle) (m : Token α) (ih rh : Handle) (pd : OctetSeq α) :
    KeepsOnFailure s handle (beginHandshakeReply env amb s handle m ih rh pd) := by
  rw [beginHandshakeReply]
  split
  · exact keepsOnFailure_fail s handle m _
  split
  · exact keepsOnFailure_fail s handle {} _
  · intro h
    cases h

/-! ## `validate_remote_identity` -/

/-- An AuthRequest that is rejected. -/
def Malformed (rt : Token α) : Prop :=
  rt.isNil = false ∧
    (rt.classIs "pqsec-dds.auth:1.0+AuthReq" = true → (futureChallenge rt).length ≠ 32)

/-- The remote identity has nothing to learn from the AuthRequest: it holds the token, and the challenge if that would
be read. -/
def Holds (r : RemoteIdentity α) (rt : Token α) : Prop :=
  r.remoteAuthRequest = rt ∧
    (rt.classIs "pqsec-dds.auth:1.0+AuthReq" = true → r.remoteChallenge = futureChallenge rt)

theorem Received.failed_iff {r r' : RemoteIdentity α} {rt : Token α} {g : Guid} {result : ValidationResult}
    (h : Received r rt g result r') : result = .failed ↔ Malformed rt := by
  cases h with
  | foreign hnil hclass => simp [Malformed, hnil, hclass]
  | badLength hnil hclass hlen => simp [Malformed, hnil, hclass, hlen]
  | nil hnil => simp [Malformed, hnil, role_ne_failed]
  | genuine hnil hclass hlen => simp [Malformed, hnil, hclass, hlen, role_ne_failed]

/-- A rejected AuthRequest leaves the remote identity as it was exactly if it was there before. -/
theorem Received.eq_iff {r r' : RemoteIdentity α} {rt : Token α} {g : Guid} (h : Received r rt g .failed r') :
    r' = r ↔ Holds r rt := by
  have heq : ∀ {t : Token α} {c : OctetSeq α}, { r with remoteAuthRequest := t, remoteChallenge := c } = r ↔
      r.remoteAuthRequest = t ∧ r.remoteChallenge = c := by
    intro t c
    constructor
    · intro h
      exact ⟨(congrArg RemoteIdentity.remoteAuthRequest h).symm, (congrArg RemoteIdentity.remoteChallenge h).symm⟩
    · rintro ⟨rfl, rfl⟩
      rfl
  generalize hres : ValidationResult.failed = result at h
  cases h with
  | foreign hnil hclass =>
    have := heq (t := rt) (c := r.remoteChallenge)
    simpa [Holds, hclass] using this
  | badLength hnil hclass hlen => simpa [Holds, hclass] using heq (t := rt) (c := futureChallenge rt)
  | nil _ => exact absurd hres.symm (role_ne_failed _ _)
  | genuine _ _ _ => exact absurd hres.symm (role_ne_failed _ _)

omit [Octet α] [DecidableEq α] in
theorem setRemote_untouched {p : Nat} {r r' : RemoteIdentity α} {h : Handle} (hr : s.findRemote h = some (p, r)) :
    Untouched s (s.setRemote p r') ↔ r' = r := by
  obtain ⟨hp, hget⟩ := findRemote_eq_some.1 hr
  obtain ⟨hlt, hgetElem⟩ := List.getElem?_eq_some_iff.1 hget
  constructor
  · intro hun
    have hfind : (s.setRemote p r').findRemote h = some (p, r') :=
      findRemote_eq_some.2 ⟨hp, List.getElem?_set_self hlt⟩
    have hsame := (hun.remotes h).symm.trans hfind
    rw [hr] at hsame
    exact (congrArg Prod.snd (Option.some.inj hsame)).symm
  · rintro rfl
    have hst : s.setRemote p r' = s := by
      rw [setRemote, ← hgetElem, List.set_getElem_self]
    rw [hst]
    exact .refl s

omit [Octet α] [DecidableEq α] in
theorem addRemote_touches (s : Authentication α κ π) (r : RemoteIdentity α) : ¬ Untouched s (s.addRemote r) := by
  intro h
  have hnext : s.nextHandle + 1 = s.nextHandle := h.nextHandle
  omega

/-- A rejected AuthRequest is stored before it is rejected, in a remote identity that may have been made for it. -/
theorem validateRemoteIdentity_keeps_iff {rh lh : Handle} {lt rt it : Token α} {g : Guid} :
    KeepsOnFailure s rh (validateRemoteIdentity env amb s rh lt rt lh it g) ↔
      (Malformed rt → (∀ l c, ¬ Introduces env amb s rh lh it l c) ∧
        ∀ p l r, Addresses s rh lh it g p l r → Holds r rt) := by
  by_cases hold : ∃ p l r, Addresses s rh lh it g p l r
  · obtain ⟨p, l, r, haddr⟩ := hold
    have hnone : ∀ l' c, ¬ Introduces env amb s rh lh it l' c := by
      intro l' c hintro
      have hfind := hintro.unknown haddr.handle
      rw [haddr.remote] at hfind
      cases hfind
    have honly : (∀ p' l' r', Addresses s rh lh it g p' l' r' → Holds r' rt) ↔ Holds r rt := by
      constructor
      · intro h
        exact h p l r haddr
      · intro h p' l' r' haddr'
        obtain ⟨-, rfl⟩ := Prod.mk.inj (Option.some.inj (haddr.remote.symm.trans haddr'.remote))
        exact h
    obtain ⟨r', hst, hhandle, hrec⟩ := receiveAuthRequest_received s p r rh lt rt l.guid
    rw [validateRemoteIdentity_known haddr, KeepsOnFailure, hrec.failed_iff, honly, hst, hhandle]
    refine forall_congr' fun hbad => ?_
    have hfailed := hrec.failed_iff.2 hbad
    rw [hfailed] at hrec
    rw [setRemote_untouched haddr.remote, hrec.eq_iff]
    exact ⟨fun h => ⟨hnone, h.1⟩, fun h => ⟨h.2, rfl⟩⟩
  by_cases hnew : ∃ l c, Introduces env amb s rh lh it l c
  · obtain ⟨l, challenge, hintro⟩ := hnew
    obtain ⟨r', hst, hhandle, hrec⟩ := receiveAuthRequest_received (s.addRemote (newRemote lh g challenge))
      s.remoteHeap.length (newRemote lh g challenge) s.nextHandle lt rt l.guid
    rw [setRemote_addRemote] at hst
    rw [validateRemoteIdentity_new hintro, KeepsOnFailure, hrec.failed_iff, hst]
    refine forall_congr' fun _ => ?_
    exact ⟨fun h => absurd h.1 (addRemote_touches s r'), fun h => absurd hintro (h.1 l challenge)⟩
  · have hnone : ∀ p l r, ¬ Addresses s rh lh it g p l r := fun p l r h => hold ⟨p, l, r, h⟩
    have hnone' : ∀ l c, ¬ Introduces env amb s rh lh it l c := fun l c h => hnew ⟨l, c, h⟩
    obtain ⟨msg, hmsg⟩ : ∃ msg, validateRemoteIdentity env amb s rh lt rt lh it g = (fail rh lt msg, s) :=
      validateRemoteIdentity_early hnone hnone'
    rw [hmsg]
    exact ⟨fun _ _ => ⟨hnone', fun p l r h => absurd h (hnone p l r)⟩, fun _ => keepsOnFailure_fail s rh lt msg⟩

/-- **Failed calls.** The calls that begin a handshake change nothing when they fail. `validate_remote_identity` changes
nothing unless it rejects the AuthRequest for a new remote identity, or for a known one that does not hold it yet. -/
theorem failed_calls_change_nothing (env : Env α κ π ρ) (amb : Ambient α ρ) (s : Authentication α κ π) :
    (∀ handle m ih rh pd, KeepsOnFailure s handle (beginHandshakeRequest env amb s handle m ih rh pd)) ∧
    (∀ handle m ih rh pd, KeepsOnFailure s handle (beginHandshakeReply env amb s handle m ih rh pd)) ∧
    ∀ rh lt rt lh it g, KeepsOnFailure s rh (validateRemoteIdentity env amb s rh lt rt lh it g) ↔
      (Malformed rt → (∀ l c, ¬ Introduces env amb s rh lh it l c) ∧
        ∀ p l r, Addresses s rh lh it g p l r → Holds r rt) :=
  ⟨beginHandshakeRequest_keeps, beginHandshakeReply_keeps, fun _ _ _ _ _ _ => validateRemoteIdentity_keeps_iff⟩

/-- An AuthRequest of another class, for a participant nobody knows: the remote identity is entered all the same. -/
theorem failed_calls_change_nothing_fails : ¬ ∀ tr s, Run (plugin sampleEnv).solo tr s →
    ∀ amb rh lt rt lh it g, KeepsOnFailure s rh (validateRemoteIdentity sampleEnv amb s rh lt rt lh it g) := by
  intro h
  have hkeeps := h _ _ (run_after (.init rfl) (localCall 1) (by decide)) (sampleAmbient 12) 0 {} (Token.writer {} "foreign") 1
    (Token.writer {} "pqsec-dds.auth:1.0") (sampleGuid 2)
  have hstep : (validateRemoteIdentity sampleEnv (sampleAmbient 12) (after (.new sampleEnv) (localCall 1)) 0 {}
        (Token.writer {} "foreign") 1 (Token.writer {} "pqsec-dds.auth:1.0") (sampleGuid 2)).1.result = .failed ∧
      (validateRemoteIdentity sampleEnv (sampleAmbient 12) (after (.new sampleEnv) (localCall 1)) 0 {}
        (Token.writer {} "foreign") 1 (Token.writer {} "pqsec-dds.auth:1.0") (sampleGuid 2)).1.handle = 2 := by
    decide +kernel
  have hhandle := (hkeeps hstep.1).2
  rw [hstep.2] at hhandle
  exact absurd hhandle (by decide)

end PqsecDds.OpenDDS
