import PqsecDds.OpenDDS.Lifecycle

/-!
# The challenges of the AuthRequests

`validate_remote_identity` notes the challenge of the AuthRequest it is given and advertises one of its own. Both are used
later: the noted one to check a Request or a Reply, the advertised one as challenge of the own Request or Reply.

| here | there |
|---|---|
| `Received` | what becomes of a remote identity that is given an AuthRequest (Authentication.cpp:325-341) |
| `Addresses` | the checks before that (Authentication.cpp:301-315) |
| `AcceptsOnly` | the challenge checks of Authentication.cpp:469-480 and 552-562 |
-/

namespace PqsecDds.OpenDDS

open Lib Authentication

variable {α κ π ρ : Type} [Octet α] [DecidableEq α]
variable {env : Env α κ π ρ} {amb : Ambient α ρ} {s s' : Authentication α κ π} {op : Op α}
variable {tr : Calls α κ π ρ}

/-! ## Receiving an AuthRequest -/

def role (ours theirs : Guid) : ValidationResult :=
  if initiator ours theirs then .pendingHandshakeRequest else .pendingHandshakeMessage

theorem role_ne_failed (ours theirs : Guid) : role ours theirs ≠ .failed := by
  rw [role]
  split <;> decide

/-- The challenge of an AuthRequest. -/
def futureChallenge (t : Token α) : OctetSeq α := t.getBinPropertyValue "future_challenge"

theorem futureChallenge_nil {t : Token α} (h : t.isNil = true) : futureChallenge t = [] := by
  simp only [Token.isNil, Bool.and_eq_true, List.isEmpty_iff] at h
  simp [futureChallenge, Token.getBinPropertyValue, h.2]

/-- What the AuthRequest `rt` makes of the remote identity `r`, and the result. -/
inductive Received (r : RemoteIdentity α) (rt : Token α) (localGuid : Guid) :
    ValidationResult → RemoteIdentity α → Prop
  | foreign (hnil : rt.isNil = false) (hclass : rt.classIs "pqsec-dds.auth:1.0+AuthReq" = false) :
      Received r rt localGuid .failed { r with remoteAuthRequest := rt }
  | badLength (hnil : rt.isNil = false) (hclass : rt.classIs "pqsec-dds.auth:1.0+AuthReq" = true)
      (hlen : (futureChallenge rt).length ≠ 32) :
      Received r rt localGuid .failed
        { r with remoteAuthRequest := rt, remoteChallenge := futureChallenge rt }
  | nil (hnil : rt.isNil = true) :
      Received r rt localGuid (role localGuid r.guid)
        { r with remoteAuthRequest := rt, remoteChallenge := [], localAuthRequestSent := true }
  | genuine (hnil : rt.isNil = false) (hclass : rt.classIs "pqsec-dds.auth:1.0+AuthReq" = true)
      (hlen : (futureChallenge rt).length = 32) :
      Received r rt localGuid (role localGuid r.guid)
        { r with remoteAuthRequest := rt, remoteChallenge := futureChallenge rt }

theorem receiveAuthRequest_received (s : Authentication α κ π) (p : Nat) (r : RemoteIdentity α) (rh : Handle)
    (lt rt : Token α) (g : Guid) :
    ∃ r', (receiveAuthRequest s p r rh lt rt g).2 = s.setRemote p r' ∧
      (receiveAuthRequest s p r rh lt rt g).1.handle = rh ∧
      Received r rt g (receiveAuthRequest s p r rh lt rt g).1.result r' := by
  cases hnil : rt.isNil
  · cases hclass : rt.classIs "pqsec-dds.auth:1.0+AuthReq"
    · simp only [receiveAuthRequest, hnil, hclass, Bool.not_false, Bool.and_self, if_true]
      exact ⟨_, rfl, rfl, .foreign hnil hclass⟩
    · by_cases hlen : (futureChallenge rt).length = 32
      · have hlen₁ : (rt.getBinPropertyValue "future_challenge").length = 32 := hlen
        simp only [receiveAuthRequest, hnil, hclass, hlen₁, Bool.not_true, Bool.and_false, ne_eq, not_true_eq_false,
          decide_false, Bool.false_eq_true, if_false]
        exact ⟨_, rfl, trivial, .genuine hnil hclass hlen⟩
      · have hlen₁ : (rt.getBinPropertyValue "future_challenge").length ≠ 32 := hlen
        simp only [receiveAuthRequest, hnil, hclass, hlen₁, Bool.not_true, Bool.not_false, Bool.and_false, Bool.and_true,
          Bool.false_eq_true, if_false, ne_eq, not_false_eq_true, decide_true, if_true]
        exact ⟨_, rfl, rfl, .badLength hnil hclass hlen⟩
  · have hchallenge : rt.getBinPropertyValue "future_challenge" = [] := futureChallenge_nil hnil
    simp only [receiveAuthRequest, hnil, hchallenge, Bool.not_true, Bool.false_and, Bool.false_eq_true, if_false, if_true]
    exact ⟨_, rfl, trivial, .nil hnil⟩

theorem Received.frame {r r' : RemoteIdentity α} {rt : Token α} {g : Guid} {result : ValidationResult}
    (h : Received r rt g result r') : AuthRequestFrame r r' := by
  cases h <;> constructor <;> rfl

/-- The call of `validate_remote_identity` gets to the known remote identity `r` at `p`. -/
structure Addresses (s : Authentication α κ π) (rh lh : Handle) (it : Token α) (g : Guid) (p : Nat)
    (l : LocalIdentity α π) (r : RemoteIdentity α) : Prop where
  localIdentity : ∃ q, s.findLocal lh = some (q, l)
  classId : it.classIs "pqsec-dds.auth:1.0" = true
  handle : rh ≠ 0
  remote : s.findRemote rh = some (p, r)
  localHandle : r.localHandle = lh
  guid : r.guid = g

/-- A remote identity nobody has heard of yet. -/
def newRemote (lh : Handle) (g : Guid) (challenge : OctetSeq α) : RemoteIdentity α where
  localHandle := lh
  guid := g
  localAuthRequest := (Token.writer {} "pqsec-dds.auth:1.0+AuthReq").addBinProperty "future_challenge" challenge
  remoteAuthRequest := {}
  localChallenge := challenge
  remoteChallenge := []
  localAuthRequestSent := false

/-- The call makes a remote identity with this challenge. -/
structure Introduces (env : Env α κ π ρ) (amb : Ambient α ρ) (s : Authentication α κ π) (rh lh : Handle) (it : Token α)
    (l : LocalIdentity α π) (challenge : OctetSeq α) : Prop where
  localIdentity : ∃ q, s.findLocal lh = some (q, l)
  classId : it.classIs "pqsec-dds.auth:1.0" = true
  unknown : rh ≠ 0 → s.findRemote rh = none
  nonce : env.makeNonce256 amb.nonceSeed = some challenge

theorem validateRemoteIdentity_known {rh lh : Handle} {lt rt it : Token α} {g : Guid} {p : Nat} {l : LocalIdentity α π}
    {r : RemoteIdentity α} (h : Addresses s rh lh it g p l r) :
    validateRemoteIdentity env amb s rh lt rt lh it g = receiveAuthRequest s p r rh lt rt l.guid := by
  obtain ⟨q, hl⟩ := h.localIdentity
  simp only [validateRemoteIdentity, hl, h.classId, h.handle, h.remote, h.localHandle, h.guid, Bool.not_true,
    Bool.false_eq_true, if_false, ne_eq, not_false_eq_true, if_true, not_true_eq_false, decide_false, Bool.or_self]

theorem validateRemoteIdentity_new {rh lh : Handle} {lt rt it : Token α} {g : Guid} {l : LocalIdentity α π}
    {challenge : OctetSeq α} (h : Introduces env amb s rh lh it l challenge) :
    validateRemoteIdentity env amb s rh lt rt lh it g =
      receiveAuthRequest (s.addRemote (newRemote lh g challenge)) s.remoteHeap.length (newRemote lh g challenge)
        s.nextHandle lt rt l.guid := by
  obtain ⟨q, hl⟩ := h.localIdentity
  have hnone : (if rh ≠ 0 then s.findRemote rh else none) = none := by
    by_cases hrh : rh ≠ 0
    · rw [if_pos hrh, h.unknown hrh]
    · rw [if_neg hrh]
  simp only [validateRemoteIdentity, hl, h.classId, hnone, h.nonce, Bool.not_true, Bool.false_eq_true, if_false]
  rfl

theorem validateRemoteIdentity_early {rh lh : Handle} {lt rt it : Token α} {g : Guid}
    (hold : ∀ p l r, ¬ Addresses s rh lh it g p l r) (hnew : ∀ l c, ¬ Introduces env amb s rh lh it l c) :
    ∃ msg, validateRemoteIdentity env amb s rh lt rt lh it g = (fail rh lt msg, s) := by
  simp only [validateRemoteIdentity]
  split
  · exact ⟨_, rfl⟩
  rename_i q l hl
  split
  · exact ⟨_, rfl⟩
  rename_i hclass
  have hclass₁ : it.classIs "pqsec-dds.auth:1.0" = true := by simpa using hclass
  split
  · rename_i p r hfind
    split at hfind
    · rename_i hne
      split
      · exact ⟨_, rfl⟩
      · rename_i hsame
        simp only [Bool.or_eq_true, decide_eq_true_eq, not_or, ne_eq, not_not] at hsame
        exact absurd ⟨⟨q, hl⟩, hclass₁, hne, hfind, hsame.1, hsame.2⟩ (hold p l r)
    · cases hfind
  · rename_i hfind
    split
    · exact ⟨_, rfl⟩
    · rename_i challenge hnonce
      refine absurd ⟨⟨q, hl⟩, hclass₁, fun hne => ?_, hnonce⟩ (hnew l challenge)
      rw [if_pos hne] at hfind
      exact hfind

variable (env amb s) in
/-- `validate_remote_identity` stops early, or passes the AuthRequest on to a known or to a new remote identity. -/
theorem validateRemoteIdentity_cases (rh : Handle) (lt rt : Token α) (lh : Handle) (it : Token α) (g : Guid) :
    ((∃ msg, (validateRemoteIdentity env amb s rh lt rt lh it g).1 = fail rh lt msg) ∧
      (validateRemoteIdentity env amb s rh lt rt lh it g).2 = s) ∨
    (∃ p l r r', Addresses s rh lh it g p l r ∧
      Received r rt l.guid (validateRemoteIdentity env amb s rh lt rt lh it g).1.result r' ∧
      (validateRemoteIdentity env amb s rh lt rt lh it g).1.handle = rh ∧
      (validateRemoteIdentity env amb s rh lt rt lh it g).2 = s.setRemote p r') ∨
    (∃ q l challenge r', s.findLocal lh = some (q, l) ∧ (rh ≠ 0 → s.findRemote rh = none) ∧
      env.makeNonce256 amb.nonceSeed = some challenge ∧
      Received (newRemote lh g challenge) rt l.guid (validateRemoteIdentity env amb s rh lt rt lh it g).1.result r' ∧
      (validateRemoteIdentity env amb s rh lt rt lh it g).1.handle = s.nextHandle ∧
      (validateRemoteIdentity env amb s rh lt rt lh it g).2 = s.addRemote r') := by
  by_cases hold : ∃ p l r, Addresses s rh lh it g p l r
  · obtain ⟨p, l, r, haddr⟩ := hold
    rw [validateRemoteIdentity_known haddr]
    obtain ⟨r', hst, hhandle, hrec⟩ := receiveAuthRequest_received s p r rh lt rt l.guid
    exact .inr (.inl ⟨p, l, r, r', haddr, hrec, hhandle, hst⟩)
  by_cases hnew : ∃ l c, Introduces env amb s rh lh it l c
  · obtain ⟨l, challenge, hintro⟩ := hnew
    obtain ⟨q, hl⟩ := hintro.localIdentity
    rw [validateRemoteIdentity_new hintro]
    obtain ⟨r', hst, hhandle, hrec⟩ := receiveAuthRequest_received (s.addRemote (newRemote lh g challenge))
      s.remoteHeap.length (newRemote lh g challenge) s.nextHandle lt rt l.guid
    rw [setRemote_addRemote] at hst
    exact .inr (.inr ⟨q, l, challenge, r', hl, hintro.unknown, hintro.nonce, hrec, hhandle, hst⟩)
  obtain ⟨msg, hmsg⟩ : ∃ msg, validateRemoteIdentity env amb s rh lt rt lh it g = (fail rh lt msg, s) :=
    validateRemoteIdentity_early (fun p l r h => hold ⟨p, l, r, h⟩) fun l c h => hnew ⟨l, c, h⟩
  rw [hmsg]
  exact .inl ⟨⟨msg, rfl⟩, rfl⟩

/-! ## Pinned challenges -/

/-- Only `validate_remote_identity` works on remote identities. -/
theorem exec_remoteHeap (hop : ∀ rh lt rt lh it g, op ≠ .validateRemoteIdentity rh lt rt lh it g) :
    (exec env s (op, amb)).1.remoteHeap = s.remoteHeap := by
  have he : Effect env amb s op _ _ := exec_effect op
  generalize exec env s (op, amb) = x at he ⊢
  obtain ⟨s', ev⟩ := x
  cases he with
  | remoteKnown _ _ _ => exact absurd rfl (hop _ _ _ _ _ _)
  | remoteNew _ _ _ _ _ _ => exact absurd rfl (hop _ _ _ _ _ _)
  | _ => rfl

variable (env amb op) in
/-- A remote identity stays as it is unless it is given an AuthRequest. -/
theorem remoteHeap_later {p : Nat} {r : RemoteIdentity α} (hget : s.remoteHeap[p]? = some r) :
    ∃ r', (exec env s (op, amb)).1.remoteHeap[p]? = some r' ∧
      (r' = r ∨ ∃ rh lt rt lh it g l, op = .validateRemoteIdentity rh lt rt lh it g ∧ Addresses s rh lh it g p l r ∧
        Received r rt l.guid (validateRemoteIdentity env amb s rh lt rt lh it g).1.result r') := by
  by_cases hop : ∀ rh lt rt lh it g, op ≠ .validateRemoteIdentity rh lt rt lh it g
  · exact ⟨r, by rw [exec_remoteHeap hop, hget], .inl rfl⟩
  · simp only [not_forall, not_not] at hop
    obtain ⟨rh, lt, rt, lh, it, g, rfl⟩ := hop
    have hp : p < s.remoteHeap.length := (List.getElem?_eq_some_iff.1 hget).1
    simp only [exec]
    rcases validateRemoteIdentity_cases env amb s rh lt rt lh it g with
      ⟨-, hst⟩ | ⟨q, l, r₁, r', haddr, hrec, -, hst⟩ | ⟨q, l, challenge, r', -, -, -, -, -, hst⟩
    · exact ⟨r, by rw [hst, hget], .inl rfl⟩
    · by_cases hq : q = p
      · subst hq
        have hsame : r₁ = r := by
          have hget₁ := (findRemote_eq_some.1 haddr.remote).2
          rw [hget] at hget₁
          exact (Option.some.inj hget₁).symm
        subst hsame
        refine ⟨r', ?_, .inr ⟨rh, lt, rt, lh, it, g, l, rfl, haddr, hrec⟩⟩
        rw [hst, setRemote, List.getElem?_set_self hp]
      · exact ⟨r, by rw [hst, setRemote, List.getElem?_set_ne hq, hget], .inl rfl⟩
    · exact ⟨r, by rw [hst, addRemote, List.getElem?_append_left hp, hget], .inl rfl⟩

/-- A successful call of `validate_remote_identity` gives a non-nil AuthRequest with challenge `c` to the remote identity
at `p`. -/
def Pins (env : Env α κ π ρ) (p : Nat) (c : OctetSeq α) (e : Authentication α κ π × Op α × Ambient α ρ) : Prop :=
  ∃ rh lt rt lh it g, e.2.1 = .validateRemoteIdentity rh lt rt lh it g ∧
    rt.isNil = false ∧ futureChallenge rt = c ∧
    (validateRemoteIdentity env e.2.2 e.1 rh lt rt lh it g).1.result ≠ .failed ∧
    (validateRemoteIdentity env e.2.2 e.1 rh lt rt lh it g).2.remotes
      (validateRemoteIdentity env e.2.2 e.1 rh lt rt lh it g).1.handle = some p

/-- A call of `validate_remote_identity` gives the remote identity at `p` an AuthRequest without a challenge: a nil
token, or a token of the right class that has none. -/
def Unpins (p : Nat) (e : Authentication α κ π × Op α × Ambient α ρ) : Prop :=
  ∃ rh lt rt lh it g l r, e.2.1 = .validateRemoteIdentity rh lt rt lh it g ∧ Addresses e.1 rh lh it g p l r ∧
    (rt.isNil = true ∨ rt.classIs "pqsec-dds.auth:1.0+AuthReq" = true) ∧ futureChallenge rt = []

/-- Handshakes with the remote identity at `p` accept no challenge but `c`. -/
def AcceptsOnly (env : Env α κ π ρ) (s : Authentication α κ π) (p : Nat) (c : OctetSeq α) : Prop :=
  (∀ amb h m ih rh pd, s.remotes ih = some p →
    (beginHandshakeReply env amb s h m ih rh pd).1.result ≠ .failed → m.getBinPropertyValue "challenge1" = c) ∧
  (∀ amb out inp h q hs, s.findHandshake h = some (q, hs) → hs.initiator = true → hs.remotePtr = p →
    (processHandshake env amb s out inp h).1.result ≠ .failed → inp.getBinPropertyValue "challenge2" = c)

/-- The stored challenge is `c`, or one that no Request and no Reply can have. -/
def StoresOnly (s : Authentication α κ π) (p : Nat) (c : OctetSeq α) : Prop :=
  ∃ r, s.remoteHeap[p]? = some r ∧
    (r.remoteChallenge = c ∨ r.remoteChallenge ≠ [] ∧ r.remoteChallenge.length ≠ 32)

theorem beginHandshakeReply_accepts {h ih rh : Handle} {m : Token α} {pd : OctetSeq α}
    (hok : (beginHandshakeReply env amb s h m ih rh pd).1.result ≠ .failed) :
    ∃ p r, s.findRemote ih = some (p, r) ∧ (m.getBinPropertyValue "challenge1").length = 32 ∧
      (r.remoteChallenge = [] ∨ m.getBinPropertyValue "challenge1" = r.remoteChallenge) := by
  simp only [beginHandshakeReply] at hok
  split at hok
  · exact absurd rfl hok
  split at hok
  · exact absurd rfl hok
  rename_i hs reply key data hmake
  obtain ⟨l, r, sig, -, hr, hrep, -, -, -, hlen, hpin, -⟩ := makeReply_ok hmake
  rw [hrep.challenge1] at hlen hpin
  exact ⟨_, r, hr, hlen, hpin⟩

theorem processReply_accepts {l : LocalIdentity α π} {r : RemoteIdentity α} {hs : Handshake α κ π} {h : Handle}
    {inp : Token α} (hok : (processReply env amb l r hs h inp).1.result ≠ .failed) :
    (inp.getBinPropertyValue "challenge2").length = 32 ∧
      (r.remoteChallenge = [] ∨ inp.getBinPropertyValue "challenge2" = r.remoteChallenge) := by
  simp only [processReply] at hok
  split at hok
  · exact absurd rfl hok
  split at hok
  · exact absurd rfl hok
  rename_i hchallenge
  simp only [Bool.or_eq_true, Bool.and_eq_true, decide_eq_true_eq, not_or, not_and, ne_eq, not_not] at hchallenge
  obtain ⟨⟨hlen, -⟩, hpin⟩ := hchallenge
  refine ⟨hlen, ?_⟩
  by_cases hnone : r.remoteChallenge = []
  · exact .inl hnone
  · exact .inr (hpin hnone)

theorem processHandshake_accepts {out inp : Token α} {h : Handle} {q : Nat} {hs : Handshake α κ π}
    (hf : s.findHandshake h = some (q, hs)) (hi : hs.initiator = true)
    (hok : (processHandshake env amb s out inp h).1.result ≠ .failed) :
    ∃ r, s.remoteHeap[hs.remotePtr]? = some r ∧ (inp.getBinPropertyValue "challenge2").length = 32 ∧
      (r.remoteChallenge = [] ∨ inp.getBinPropertyValue "challenge2" = r.remoteChallenge) := by
  simp only [processHandshake, hf] at hok
  split at hok
  · exact absurd rfl hok
  rename_i l r hident
  simp only [processMessage, hi, Bool.not_true, Bool.false_and, Bool.true_and, Bool.false_eq_true, if_false] at hok
  split at hok
  · exact absurd rfl hok
  split at hok
  · exact ⟨r, (identities_eq_some.1 hident).2, processReply_accepts hok⟩
  · exact absurd rfl hok

theorem StoresOnly.acceptsOnly {p : Nat} {c : OctetSeq α} (h : StoresOnly s p c) (hc : c ≠ []) :
    AcceptsOnly env s p c := by
  obtain ⟨r, hget, hstored⟩ := h
  have haccepts : ∀ challenge, challenge.length = 32 → (r.remoteChallenge = [] ∨ challenge = r.remoteChallenge) →
      challenge = c := by
    intro challenge hlen hpin
    rcases hstored with hstored | ⟨hne, hlen'⟩
    · rcases hpin with hpin | hpin
      · rw [hstored] at hpin
        exact absurd hpin hc
      · rw [hpin, hstored]
    · rcases hpin with hpin | hpin
      · exact absurd hpin hne
      · rw [hpin] at hlen
        exact absurd hlen hlen'
  constructor
  · intro amb h m ih rh pd hp hok
    obtain ⟨q, r', hr', hlen, hpin⟩ := beginHandshakeReply_accepts hok
    obtain ⟨hq, hget'⟩ := findRemote_eq_some.1 hr'
    rw [hp] at hq
    rw [← Option.some.inj hq, hget] at hget'
    rw [← Option.some.inj hget'] at hpin
    exact haccepts _ hlen hpin
  · intro amb out inp h q hs hf hi hp hok
    obtain ⟨r', hget', hlen, hpin⟩ := processHandshake_accepts hf hi hok
    rw [hp, hget] at hget'
    rw [← Option.some.inj hget'] at hpin
    exact haccepts _ hlen hpin

theorem Pins.storesOnly {p : Nat} {c : OctetSeq α} (h : Pins env p c (s, op, amb)) :
    c.length = 32 ∧ StoresOnly (exec env s (op, amb)).1 p c := by
  obtain ⟨rh, lt, rt, lh, it, g, rfl, hnil, rfl, hok, hp⟩ := h
  dsimp only at hok hp
  simp only [exec]
  have hgenuine : ∀ {r r' : RemoteIdentity α} {g' : Guid},
      Received r rt g' (validateRemoteIdentity env amb s rh lt rt lh it g).1.result r' →
      (futureChallenge rt).length = 32 ∧ r'.remoteChallenge = futureChallenge rt := by
    intro r r' g' hrec
    generalize (validateRemoteIdentity env amb s rh lt rt lh it g).1.result = result at hrec hok
    cases hrec with
    | foreign _ _ => exact absurd rfl hok
    | badLength _ _ _ => exact absurd rfl hok
    | nil hnil' =>
      rw [hnil] at hnil'
      cases hnil'
    | genuine _ _ hlen => exact ⟨hlen, rfl⟩
  rcases validateRemoteIdentity_cases env amb s rh lt rt lh it g with
    ⟨⟨msg, hfail⟩, -⟩ | ⟨q, l, r, r', haddr, hrec, hhandle, hst⟩ | ⟨q, l, challenge, r', -, -, -, hrec, hhandle, hst⟩
  · rw [hfail] at hok
    exact absurd rfl hok
  · obtain ⟨hlen, hstored⟩ := hgenuine hrec
    obtain ⟨hq, hget⟩ := findRemote_eq_some.1 haddr.remote
    have hlt : q < s.remoteHeap.length := (List.getElem?_eq_some_iff.1 hget).1
    rw [hst, hhandle, setRemote] at hp
    dsimp only at hp
    rw [hq] at hp
    obtain rfl := Option.some.inj hp
    exact ⟨hlen, r', by rw [hst, setRemote, List.getElem?_set_self hlt], .inl hstored⟩
  · obtain ⟨hlen, hstored⟩ := hgenuine hrec
    rw [hst, hhandle, addRemote] at hp
    dsimp only at hp
    rw [Function.update_self] at hp
    obtain rfl := Option.some.inj hp
    exact ⟨hlen, r', by rw [hst, addRemote, List.getElem?_concat_length], .inl hstored⟩

/-- A call keeps a pinned challenge unless it pins another one or gives the remote identity an AuthRequest without one. -/
theorem StoresOnly.step {p : Nat} {c : OctetSeq α} (h : StoresOnly s p c) (hpin : ∀ c', ¬ Pins env p c' (s, op, amb))
    (hunpin : ¬ Unpins p (s, op, amb)) : StoresOnly (exec env s (op, amb)).1 p c := by
  obtain ⟨r, hget, hstored⟩ := h
  obtain ⟨r', hget', rfl | ⟨rh, lt, rt, lh, it, g, l, rfl, haddr, hrec⟩⟩ :=
    remoteHeap_later env amb op hget
  · exact ⟨_, hget', hstored⟩
  refine ⟨r', hget', ?_⟩
  have hnone : (rt.isNil = true ∨ rt.classIs "pqsec-dds.auth:1.0+AuthReq" = true) → futureChallenge rt ≠ [] :=
    fun hread hempty => hunpin ⟨rh, lt, rt, lh, it, g, l, r, rfl, haddr, hread, hempty⟩
  generalize hres : (validateRemoteIdentity env amb s rh lt rt lh it g).1.result = result at hrec
  cases hrec with
  | foreign _ _ => exact hstored
  | badLength _ hclass hlen => exact .inr ⟨hnone (.inr hclass), hlen⟩
  | nil hnil => exact absurd (futureChallenge_nil hnil) (hnone (.inl hnil))
  | genuine hnil hclass hlen =>
    refine absurd ?_ (hpin (futureChallenge rt))
    have hok : (validateRemoteIdentity env amb s rh lt rt lh it g).1.result ≠ .failed := by
      rw [hres]
      exact role_ne_failed _ _
    refine ⟨rh, lt, rt, lh, it, g, rfl, hnil, rfl, hok, ?_⟩
    obtain ⟨hp, -⟩ := findRemote_eq_some.1 haddr.remote
    rcases validateRemoteIdentity_cases env amb s rh lt rt lh it g with
      ⟨⟨msg, hfail⟩, -⟩ | ⟨q, l', r₁, r₂, haddr', -, hhandle, hst⟩ | ⟨q, l', challenge, r₂, -, hno, -⟩
    · rw [hfail] at hok
      exact absurd rfl hok
    · dsimp only
      rw [hhandle, hst]
      exact hp
    · have hfind := haddr.remote
      rw [hno haddr.handle] at hfind
      cases hfind

/-- **Pinned challenges.** Once a non-nil AuthRequest with challenge `c` was accepted for a remote identity, and until
another one is, handshakes with it accept no other challenge, provided no call gives it an AuthRequest without a
challenge in the meantime. -/
theorem challenge_pinned (env : Env α κ π ρ) {tr : Calls α κ π ρ} {s₀ s : Authentication α κ π}
    {call : Op α × Ambient α ρ} {p : Nat} {c : OctetSeq α}
    (hpin : Pins env p c (s₀, call)) (hs : Steps (plugin env).solo (exec env s₀ call).1 tr s)
    (huntil : ∀ e ∈ tr, ∀ c', ¬ Pins env p c' e) (hcond : ∀ e ∈ tr, ¬ Unpins p e) : AcceptsOnly env s p c := by
  obtain ⟨hlen, hstored⟩ := hpin.storesOnly
  have hstores : StoresOnly s p c := by
    refine hs.inv_of (I := fun s => StoresOnly s p c)
      (P := fun e => (∀ c', ¬ Pins env p c' e) ∧ ¬ Unpins p e) ?_ ?_ hstored
    · exact fun e he => ⟨huntil e he, hcond e he⟩
    · rintro tr s ⟨op, amb⟩ s' - hI ⟨h₁, h₂⟩ ⟨-, rfl⟩
      exact hI.step h₁ h₂
  refine hstores.acceptsOnly ?_
  rintro rfl
  cases hlen

/-! Participant 2 has accepted an AuthRequest of participant 1 with the challenge `nonce 40`. -/

section Sample

def authRequest (challenge : OctetSeq Sym) : Token Sym :=
  (Token.writer {} "pqsec-dds.auth:1.0+AuthReq").addBinProperty "future_challenge" challenge

/-- Participant 2 is given the AuthRequest `t` of participant 1. -/
def authRequestCall (t : Token Sym) : SampleCall :=
  (.validateRemoteIdentity 2 {} t 1 (Token.writer {} "pqsec-dds.auth:1.0") (sampleGuid 1), sampleAmbient 30)

theorem pins_of {s : Authentication Sym KemKey Nat} {t : Token Sym} {p : Nat} (hnil : t.isNil = false)
    (hok : (validateRemoteIdentity sampleEnv (sampleAmbient 30) s 2 {} t 1
      (Token.writer {} "pqsec-dds.auth:1.0") (sampleGuid 1)).1.result ≠ .failed)
    (hp : (validateRemoteIdentity sampleEnv (sampleAmbient 30) s 2 {} t 1
      (Token.writer {} "pqsec-dds.auth:1.0") (sampleGuid 1)).2.remotes
      (validateRemoteIdentity sampleEnv (sampleAmbient 30) s 2 {} t 1
        (Token.writer {} "pqsec-dds.auth:1.0") (sampleGuid 1)).1.handle = some p) :
    Pins sampleEnv p (futureChallenge t) (s, authRequestCall t) :=
  ⟨2, {}, t, 1, _, _, rfl, hnil, rfl, hok, hp⟩

theorem not_pins {s : Authentication Sym KemKey Nat} {t : Token Sym} (p : Nat)
    (h : t.isNil = true ∨ (validateRemoteIdentity sampleEnv (sampleAmbient 30) s 2 {} t 1
      (Token.writer {} "pqsec-dds.auth:1.0") (sampleGuid 1)).1.result = .failed) :
    ∀ e ∈ [(s, authRequestCall t)], ∀ c, ¬ Pins sampleEnv p c e := by
  intro e he c hpins
  obtain rfl := List.mem_singleton.1 he
  obtain ⟨rh, lt, rt, lh, it, g, heq, hnil, -, hok, -⟩ := hpins
  obtain ⟨rfl, rfl, rfl, rfl, rfl, rfl⟩ := Op.validateRemoteIdentity.inj heq
  rcases h with h | h
  · rw [hnil] at h
    cases h
  · exact hok h

theorem not_unpins {s : Authentication Sym KemKey Nat} {t : Token Sym} (p : Nat)
    (h : ¬ (t.isNil = true ∨ t.classIs "pqsec-dds.auth:1.0+AuthReq" = true)) :
    ∀ e ∈ [(s, authRequestCall t)], ¬ Unpins p e := by
  intro e he hunpins
  obtain rfl := List.mem_singleton.1 he
  obtain ⟨rh, lt, rt, lh, it, g, l, r, heq, -, hread, -⟩ := hunpins
  obtain ⟨-, -, rfl, -, -, -⟩ := Op.validateRemoteIdentity.inj heq
  exact h hread

theorem steps_one {s : Authentication Sym KemKey Nat} {call : SampleCall} (hdef : Defined sampleEnv s call) :
    Steps (plugin sampleEnv).solo s [(s, call)] (after s call) :=
  .step .refl ⟨hdef, rfl⟩

theorem AcceptsOnly.request {s : Authentication Sym KemKey Nat} {p : Nat} {c : OctetSeq Sym} {m : Token Sym}
    (h : AcceptsOnly sampleEnv s p c) (hp : s.remotes 2 = some p)
    (hok : (beginHandshakeReply sampleEnv (sampleAmbient 22) s 0 m 2 1 [.base 2]).1.result ≠ .failed) :
    m.getBinPropertyValue "challenge1" = c :=
  h.1 _ _ _ _ _ _ hp hok

/-- The AuthRequest that participant 2 accepts. -/
def genuineCall : SampleCall := authRequestCall (authRequest (nonce 40))

theorem genuineCall_pins : Pins sampleEnv 0 (futureChallenge (authRequest (nonce 40))) (acquainted 2 1, genuineCall) :=
  pins_of (by decide +kernel) (by decide +kernel) (by decide +kernel)

/-- An AuthRequest of another plugin changes nothing. -/
theorem challenge_pinned_sample :
    AcceptsOnly sampleEnv
      (after (after (acquainted 2 1) genuineCall) (authRequestCall (Token.writer {} "other.auth+AuthReq")))
      0 (futureChallenge (authRequest (nonce 40))) := by
  have hr := run_after (acquainted_run 2 1) genuineCall (by decide)
  have hfailed : (validateRemoteIdentity sampleEnv (sampleAmbient 30) (after (acquainted 2 1) genuineCall) 2 {}
      (Token.writer {} "other.auth+AuthReq") 1 (Token.writer {} "pqsec-dds.auth:1.0") (sampleGuid 1)).1.result = .failed := by
    decide +kernel
  have hs := steps_one (defined_of_short hr (by decide) (authRequestCall (Token.writer {} "other.auth+AuthReq")))
  exact challenge_pinned sampleEnv genuineCall_pins hs
    (not_pins 0 (.inr hfailed)) (not_unpins 0 (by decide +kernel))

/-- After a nil token, and after an AuthRequest without a challenge, which is rejected, participant 2 accepts the Request
of participant 1 with another challenge. -/
theorem challenge_unpinned : ∃ tr₀ s₀ call c, Run (plugin sampleEnv).solo tr₀ s₀ ∧ Pins sampleEnv 0 c (s₀, call) ∧
    ∀ t ∈ [{}, Token.writer {} "pqsec-dds.auth:1.0+AuthReq"], ∃ tr s,
      Steps (plugin sampleEnv).solo (after s₀ call) tr s ∧ (∀ e ∈ tr, ∀ c, ¬ Pins sampleEnv 0 c e) ∧
      tr = [(after s₀ call, authRequestCall t)] ∧ ¬ AcceptsOnly sampleEnv s 0 c := by
  have hr := run_after (acquainted_run 2 1) genuineCall (by decide)
  have hfacts : ∀ t ∈ [{}, Token.writer {} "pqsec-dds.auth:1.0+AuthReq"],
      (t.isNil = true ∨ (validateRemoteIdentity sampleEnv (sampleAmbient 30) (after (acquainted 2 1) genuineCall) 2 {} t 1
        (Token.writer {} "pqsec-dds.auth:1.0") (sampleGuid 1)).1.result = .failed) ∧
      (after (after (acquainted 2 1) genuineCall) (authRequestCall t)).remotes 2 = some 0 ∧
      (beginHandshakeReply sampleEnv (sampleAmbient 22) (after (after (acquainted 2 1) genuineCall) (authRequestCall t)) 0
        (sentBy (acquainted 1 2) requestCall) 2 1 [.base 2]).1.result ≠ .failed ∧
      (sentBy (acquainted 1 2) requestCall).getBinPropertyValue "challenge1" ≠
        futureChallenge (authRequest (nonce 40)) := by
    decide +kernel
  refine ⟨_, acquainted 2 1, genuineCall, _, acquainted_run 2 1, genuineCall_pins, fun t ht => ?_⟩
  obtain ⟨hpins, hremote, hok, hother⟩ := hfacts t ht
  exact ⟨_, _, steps_one (defined_of_short hr (by decide) (authRequestCall t)), not_pins 0 hpins, rfl,
    fun honly => hother (honly.request hremote hok)⟩

end Sample

/-! ## Pairs of identities -/

/-- Where a remote identity of the successor state comes from. -/
theorem Effect.remote_origin {ev : List (Event α π)} (e : Effect env amb s op s' ev) {q : Nat} {r' : RemoteIdentity α}
    (h : s'.remoteHeap[q]? = some r') :
    (∃ r, s.remoteHeap[q]? = some r ∧ AuthRequestFrame r r') ∨
    (q = s.remoteHeap.length ∧ env.makeNonce256 amb.nonceSeed = some r'.localChallenge) := by
  have hrefl : AuthRequestFrame r' r' := by
    constructor <;> rfl
  cases e with
  | @remoteKnown rh lt rt lh it g p r r₁ ev hr hf _ =>
    simp only [setRemote, List.getElem?_set] at h
    split at h
    · rename_i hp
      subst hp
      split at h
      · obtain rfl := Option.some.inj h
        exact .inl ⟨r, (findRemote_eq_some.1 hr).2, hf⟩
      · cases h
    · exact .inl ⟨r', h, hrefl⟩
  | remoteNew hn hc _ _ _ _ =>
    rcases Nat.lt_or_ge q s.remoteHeap.length with hq | hq
    · rw [addRemote, List.getElem?_append_left hq] at h
      exact .inl ⟨r', h, hrefl⟩
    · rw [addRemote, List.getElem?_append_right hq, List.getElem?_singleton] at h
      split at h
      · obtain rfl := Option.some.inj h
        exact .inr ⟨by omega, by rw [hn, hc]⟩
      · cases h
  | _ => exact .inl ⟨r', h, hrefl⟩

variable (env amb op) in
theorem remote_frame {q : Nat} {r : RemoteIdentity α} (hget : s.remoteHeap[q]? = some r) :
    ∃ r', (exec env s (op, amb)).1.remoteHeap[q]? = some r' ∧ AuthRequestFrame r r' := by
  obtain ⟨r', hget', rfl | ⟨_, _, _, _, _, _, _, -, -, hrec⟩⟩ := remoteHeap_later env amb op hget
  · exact ⟨_, hget', by constructor <;> rfl⟩
  · exact ⟨r', hget', hrec.frame⟩

/-- The identities of a handshake belong together. -/
def Paired (s : Authentication α κ π) (hs : Handshake α κ π) : Prop :=
  ∃ r, s.remoteHeap[hs.remotePtr]? = some r ∧ r.localHandle = hs.localHandle

/-- The two handles that a handshake is begun with belong together. -/
def Matching (e : Authentication α κ π × Op α × Ambient α ρ) : Prop :=
  match e.2.1 with
  | .beginHandshakeRequest _ _ initiatorHandle replierHandle _ =>
    ∀ p r, e.1.findRemote replierHandle = some (p, r) → r.localHandle = initiatorHandle
  | .beginHandshakeReply _ _ initiatorHandle replierHandle _ =>
    ∀ p r, e.1.findRemote initiatorHandle = some (p, r) → r.localHandle = replierHandle
  | _ => True

omit [Octet α] [DecidableEq α] in
theorem Evolves.pointers {hs hs' : Handshake α κ π} (h : Evolves hs hs') :
    hs'.remotePtr = hs.remotePtr ∧ hs'.localHandle = hs.localHandle := by
  rcases h with rfl | ⟨-, -, hfr, -⟩
  · exact ⟨rfl, rfl⟩
  · exact ⟨hfr.remotePtr, hfr.localHandle⟩

theorem Paired.step {hs hs' : Handshake α κ π} (h : Paired s hs) (he : Evolves hs hs') :
    Paired (exec env s (op, amb)).1 hs' := by
  obtain ⟨r, hget, hlocal⟩ := h
  obtain ⟨r', hget', hfr⟩ := remote_frame env amb op hget
  obtain ⟨hremote, hhandle⟩ := he.pointers
  refine ⟨r', by rw [hremote, hget'], ?_⟩
  rw [hfr.localHandle, hlocal, hhandle]

/-- A handshake of the successor state was there before, or is made for the two identities the call names. -/
theorem handshake_step {p : Nat} {hs' : Handshake α κ π}
    (h : (exec env s (op, amb)).1.handshakeHeap[p]? = some hs') :
    (∃ hs, s.handshakeHeap[p]? = some hs ∧ Evolves hs hs') ∨
    (∃ m ih rh pd t, op = .beginHandshakeRequest 0 m ih rh pd ∧ makeRequest env amb s m ih rh pd = .ok (hs', t)) ∨
    (∃ m ih rh pd t key data, op = .beginHandshakeReply 0 m ih rh pd ∧
      makeReply env amb s m ih rh pd = .ok (hs', t, key, data)) := by
  rcases (exec_effect op).handshake_origin h with hget | ⟨m, ih, rh, pd, t, hop, -, hmake⟩ |
    ⟨m, ih, rh, pd, t, key, data, hop, -, hmake⟩ | ⟨out, inp, hd, hs, l, r, -, hf, -, hhs⟩
  · exact .inl ⟨hs', hget, .inl rfl⟩
  · exact .inr (.inl ⟨m, ih, rh, pd, t, hop, hmake⟩)
  · exact .inr (.inr ⟨m, ih, rh, pd, t, key, data, hop, hmake⟩)
  · refine .inl ⟨hs, (findHandshake_eq_some.1 hf).2, ?_⟩
    rw [hhs]
    exact processMessage_evolves

theorem paired_step (h : ∀ (p : Nat) hs, s.handshakeHeap[p]? = some hs → Paired s hs) (hm : Matching (s, op, amb)) :
    ∀ (p : Nat) hs, (exec env s (op, amb)).1.handshakeHeap[p]? = some hs → Paired (exec env s (op, amb)).1 hs := by
  intro p hs' hget
  have hnew : ∀ {hd r}, s.findRemote hd = some (hs'.remotePtr, r) → r.localHandle = hs'.localHandle →
      Paired (exec env s (op, amb)).1 hs' := by
    intro hd r hr hlocal
    have hpair : Paired s hs' := ⟨r, (findRemote_eq_some.1 hr).2, hlocal⟩
    exact hpair.step (.inl rfl)
  rcases handshake_step hget with ⟨hs, hold, hev⟩ | ⟨m, ih, rh, pd, t, rfl, hmake⟩ |
    ⟨m, ih, rh, pd, t, key, data, rfl, hmake⟩
  · exact (h p hs hold).step hev
  · obtain ⟨l, r, -, hr, -, hlocal, -⟩ := makeRequest_ok hmake
    exact hnew hr (by rw [hlocal, hm _ r hr])
  · obtain ⟨l, r, sig, -, hr, -, hlocal, -⟩ := makeReply_ok hmake
    exact hnew hr (by rw [hlocal, hm _ r hr])

/-! ### Own challenges -/

/-- The challenge of our own side. -/
def Handshake.ownChallenge (hs : Handshake α κ π) : OctetSeq α := if hs.initiator then hs.challenge1 else hs.challenge2

/-- The nonces that the calls of a run can have drawn. -/
def nonces (env : Env α κ π ρ) (tr : Calls α κ π ρ) : List (OctetSeq α) :=
  tr.filterMap fun e => env.makeNonce256 e.2.2.nonceSeed

omit [Octet α] [DecidableEq α] in
theorem Evolves.ownChallenge {hs hs' : Handshake α κ π} (h : Evolves hs hs') : hs'.ownChallenge = hs.ownChallenge := by
  rcases h with rfl | ⟨-, -, hfr, hrep⟩
  · rfl
  · cases hi : hs.initiator
    · rw [hrep hi]
      rfl
    · simp only [Handshake.ownChallenge, hfr.initiator, hi, if_true, hfr.challenge1]

/-- The challenges advertised in AuthRequests differ, and a handshake uses the one advertised to its own remote identity
or one that is not advertised at all. -/
structure Drawn (env : Env α κ π ρ) (tr : Calls α κ π ρ) (s : Authentication α κ π) : Prop where
  advertised : ∀ (q : Nat) r, s.remoteHeap[q]? = some r → r.localChallenge ∈ nonces env tr
  distinct : ∀ (q q' : Nat) r r', s.remoteHeap[q]? = some r → s.remoteHeap[q']? = some r' →
    r.localChallenge = r'.localChallenge → q = q'
  own : ∀ (p : Nat) hs, s.handshakeHeap[p]? = some hs → hs.ownChallenge ∈ nonces env tr ∧
    ∀ (q : Nat) r, s.remoteHeap[q]? = some r → r.localChallenge = hs.ownChallenge → q = hs.remotePtr

omit [Octet α] [DecidableEq α] in
theorem ownChallenge_drawn {r : RemoteIdentity α} {c : OctetSeq α} (h : ownChallenge env amb r = some c) :
    c = r.localChallenge ∨ env.makeNonce256 amb.nonceSeed = some c := by
  rw [ownChallenge] at h
  split at h
  · exact .inl (Option.some.inj h).symm
  · exact .inr h

omit [Octet α] [DecidableEq α] in
/-- The challenge of a new handshake. -/
theorem Drawn.begin {q : Nat} {r : RemoteIdentity α} {c : OctetSeq α} (h : Drawn env tr s)
    (hfresh : ∀ n, env.makeNonce256 amb.nonceSeed = some n → n ∉ nonces env tr) (hget : s.remoteHeap[q]? = some r)
    (hc : ownChallenge env amb r = some c) :
    c ∈ nonces env ((s, op, amb) :: tr) ∧ ∀ (q' : Nat) r', s.remoteHeap[q']? = some r' → r'.localChallenge = c → q' = q := by
  rcases ownChallenge_drawn hc with rfl | hdraw
  · refine ⟨?_, fun q' r' hget' hsame => h.distinct q' q r' r hget' hget hsame⟩
    have hmem := h.advertised q r hget
    simp only [nonces, List.mem_filterMap] at hmem ⊢
    obtain ⟨e, he, hn⟩ := hmem
    exact ⟨e, List.mem_cons_of_mem _ he, hn⟩
  · refine ⟨?_, fun q' r' hget' hsame => ?_⟩
    · simp only [nonces, List.mem_filterMap]
      exact ⟨_, List.mem_cons_self, hdraw⟩
    · refine absurd ?_ (hfresh c hdraw)
      rw [← hsame]
      exact h.advertised q' r' hget'

omit [Octet α] [DecidableEq α] in
theorem mem_nonces_cons {c : OctetSeq α} (h : c ∈ nonces env tr) : c ∈ nonces env ((s, op, amb) :: tr) := by
  simp only [nonces, List.mem_filterMap] at h ⊢
  obtain ⟨e, he, hn⟩ := h
  exact ⟨e, List.mem_cons_of_mem _ he, hn⟩

theorem Drawn.step (h : Drawn env tr s)
    (hfresh : ∀ n, env.makeNonce256 amb.nonceSeed = some n → n ∉ nonces env tr) :
    Drawn env ((s, op, amb) :: tr) (exec env s (op, amb)).1 := by
  have horigin := fun {q : Nat} {r' : RemoteIdentity α}
      (hget : (exec env s (op, amb)).1.remoteHeap[q]? = some r') => (exec_effect op).remote_origin hget
  refine ⟨fun q r' hget => ?_, fun q q' r₁ r₂ hget₁ hget₂ hsame => ?_, fun p hs' hget => ?_⟩
  · rcases horigin hget with ⟨r, hold, hfr⟩ | ⟨-, hdraw⟩
    · rw [hfr.localChallenge]
      exact mem_nonces_cons (h.advertised q r hold)
    · simp only [nonces, List.mem_filterMap]
      exact ⟨_, List.mem_cons_self, hdraw⟩
  · rcases horigin hget₁ with ⟨r, hold, hfr⟩ | ⟨hq, hdraw⟩ <;>
      rcases horigin hget₂ with ⟨r', hold', hfr'⟩ | ⟨hq', hdraw'⟩
    · rw [hfr.localChallenge, hfr'.localChallenge] at hsame
      exact h.distinct q q' r r' hold hold' hsame
    · refine absurd (h.advertised q r hold) ?_
      rw [← hfr.localChallenge, hsame]
      exact hfresh _ hdraw'
    · refine absurd (h.advertised q' r' hold') ?_
      rw [← hfr'.localChallenge, ← hsame]
      exact hfresh _ hdraw
    · rw [hq, hq']
  · rcases handshake_step hget with ⟨hs, hold, hev⟩ | ⟨m, ih, rh, pd, t, rfl, hmake⟩ |
      ⟨m, ih, rh, pd, t, key, data, rfl, hmake⟩
    · obtain ⟨hmem, hown⟩ := h.own p hs hold
      rw [hev.ownChallenge, hev.pointers.1]
      refine ⟨mem_nonces_cons hmem, fun q r' hget' hsame => ?_⟩
      rcases horigin hget' with ⟨r, hold', hfr⟩ | ⟨-, hdraw⟩
      · rw [hfr.localChallenge] at hsame
        exact hown q r hold' hsame
      · rw [hsame] at hdraw
        exact absurd hmem (hfresh _ hdraw)
    · obtain ⟨l, r, -, hr, hreq, -, -, -, hc, -⟩ := makeRequest_ok hmake
      rw [exec_remoteHeap (fun _ _ _ _ _ _ hop => by cases hop), Handshake.ownChallenge, hreq.initiator, if_pos rfl]
      exact h.begin hfresh (findRemote_eq_some.1 hr).2 hc
    · obtain ⟨l, r, sig, -, hr, hrep, -, -, -, -, -, hc, -⟩ := makeReply_ok hmake
      rw [exec_remoteHeap (fun _ _ _ _ _ _ hop => by cases hop), Handshake.ownChallenge, hrep.initiator, if_neg (by decide)]
      exact h.begin hfresh (findRemote_eq_some.1 hr).2 hc

theorem drawn (hr : Run (plugin env).solo tr s) (hfresh : (nonces env tr).Nodup) : Drawn env tr s := by
  have hinv : (nonces env tr).Nodup → Drawn env tr s := by
    refine hr.inv (I := fun tr s => (nonces env tr).Nodup → Drawn env tr s) ?_ ?_
    · rintro s rfl -
      exact ⟨nofun, nofun, nofun⟩
    · rintro tr s ⟨op, amb⟩ s' - ih ⟨-, rfl⟩ hnodup
      rcases hn : env.makeNonce256 amb.nonceSeed with _ | n
      · have hsame : nonces env ((s, op, amb) :: tr) = nonces env tr := by simp [nonces, hn]
        rw [hsame] at hnodup
        exact (ih hnodup).step (fun n hn' => by rw [hn] at hn'; cases hn')
      · have hcons : nonces env ((s, op, amb) :: tr) = n :: nonces env tr := by simp [nonces, hn]
        rw [hcons, List.nodup_cons] at hnodup
        refine (ih hnodup.2).step (fun n' hn' => ?_)
        rw [hn] at hn'
        rw [← Option.some.inj hn']
        exact hnodup.1
  exact hinv hfresh

/-- **Pairs of identities.** In a run whose handshakes are begun with matching handles, every handshake pairs a local
identity with a remote identity validated for it, and, nonces being drawn once, its own challenge is not one that was
advertised for another local identity. -/
theorem identities_paired (env : Env α κ π ρ) {tr : Calls α κ π ρ} {s : Authentication α κ π}
    (hr : Run (plugin env).solo tr s) (hcond : ∀ e ∈ tr, Matching e) :
    (∀ (p : Nat) hs, s.handshakeHeap[p]? = some hs → Paired s hs) ∧
    ((nonces env tr).Nodup → ∀ (p q : Nat) hs r, s.handshakeHeap[p]? = some hs → s.remoteHeap[q]? = some r →
      r.localChallenge = hs.ownChallenge → r.localHandle = hs.localHandle) := by
  have hpaired : ∀ (p : Nat) hs, s.handshakeHeap[p]? = some hs → Paired s hs := by
    have hinv : (∀ e ∈ tr, Matching e) → ∀ (p : Nat) hs, s.handshakeHeap[p]? = some hs → Paired s hs := by
      refine hr.inv (I := fun tr s => (∀ e ∈ tr, Matching e) →
        ∀ (p : Nat) hs, s.handshakeHeap[p]? = some hs → Paired s hs) ?_ ?_
      · rintro s rfl - p hs hget
        simp [Authentication.new] at hget
      · rintro tr s ⟨op, amb⟩ s' - ih ⟨-, rfl⟩ hm
        exact paired_step (ih fun e he => hm e (List.mem_cons_of_mem _ he)) (hm _ List.mem_cons_self)
    exact hinv hcond
  refine ⟨hpaired, fun hfresh p q hs r hget hgetr hsame => ?_⟩
  obtain ⟨r', hget', hlocal⟩ := hpaired p hs hget
  have hq := ((drawn hr hfresh).own p hs hget).2 q r hgetr hsame
  rw [hq, hget'] at hgetr
  rw [← Option.some.inj hgetr]
  exact hlocal

/-! Participants 1 and 2 share a plugin. Participant 3 was validated for 1. -/

section Sample

/-- Local identity `n` begins a handshake with participant 3. -/
def beginCall (n : UInt8) : SampleCall :=
  (.beginHandshakeRequest 0 {} n.toNat 3 [.base n], sampleAmbient 21)

def shared : Authentication Sym KemKey Nat :=
  after (after (after (.new sampleEnv) (localCall 1)) (localCall 2)) (remoteCall 3)

def sharedTrace (call : SampleCall) : Calls Sym KemKey Nat Nat :=
  [(shared, call), (after (after (.new sampleEnv) (localCall 1)) (localCall 2), remoteCall 3),
    (after (.new sampleEnv) (localCall 1), localCall 2), (.new sampleEnv, localCall 1)]

theorem shared_run (call : SampleCall) : Run (plugin sampleEnv).solo (sharedTrace call) (after shared call) :=
  run_after (run_after (run_after (run_after (.init rfl) (localCall 1) (by decide)) (localCall 2) (by decide))
    (remoteCall 3) (by decide)) call (by simp)

/-- The first handshake uses a challenge advertised for another local identity. -/
def borrows (s : Authentication Sym KemKey Nat) : Bool :=
  s.handshakeHeap[0]?.any fun hs => s.remoteHeap[hs.remotePtr]?.any fun r =>
    r.localHandle ≠ hs.localHandle && r.localAuthRequestSent && r.localChallenge = hs.ownChallenge

theorem shared_matching {call : SampleCall} (h : Matching (shared, call)) : ∀ e ∈ sharedTrace call, Matching e := by
  intro e he
  simp only [sharedTrace, List.mem_cons, List.not_mem_nil, or_false] at he
  rcases he with rfl | rfl | rfl | rfl
  · exact h
  · exact trivial
  · exact trivial
  · exact trivial

theorem beginCall_matching {s : Authentication Sym KemKey Nat} {n : UInt8}
    (h : (s.findRemote 3).all (fun x => x.2.localHandle = (n.toNat : Int))) : Matching (s, beginCall n) := by
  intro p r hr
  rw [hr] at h
  exact of_decide_eq_true h

/-- Local identity 1 begins a handshake with its own remote identity. -/
theorem identities_paired_sample : ∃ hs, (after shared (beginCall 1)).handshakeHeap[0]? = some hs ∧
    Paired (after shared (beginCall 1)) hs := by
  have hfacts : (shared.findRemote 3).all (fun x => x.2.localHandle = ((1 : UInt8).toNat : Int)) ∧
      (after shared (beginCall 1)).handshakeHeap[0]?.isSome := by
    decide +kernel
  obtain ⟨hall, hsome⟩ := hfacts
  obtain ⟨hs, hget⟩ := Option.isSome_iff_exists.1 hsome
  have hmatching := shared_matching (beginCall_matching hall)
  exact ⟨hs, hget, (identities_paired sampleEnv (shared_run (beginCall 1)) hmatching).1 0 hs hget⟩

/-- Local identity 2 begins a handshake with the remote identity of 1, and uses the challenge advertised for 1. -/
theorem unpaired_identities : ∃ tr s hs r, Run (plugin sampleEnv).solo tr s ∧ (nonces sampleEnv tr).Nodup ∧
    s.findHandshake 4 = some (0, hs) ∧ s.remoteHeap[hs.remotePtr]? = some r ∧ r.localHandle ≠ hs.localHandle ∧
    r.localAuthRequestSent ∧ r.localChallenge = hs.ownChallenge := by
  have hfacts : (nonces sampleEnv (sharedTrace (beginCall 2))).Nodup ∧
      (after shared (beginCall 2)).handshakes 4 = some 0 ∧ borrows (after shared (beginCall 2)) := by
    decide +kernel
  obtain ⟨hnodup, hlive, hborrows⟩ := hfacts
  obtain ⟨hs, hget, hborrows⟩ := (Option.any_eq_true _ _).1 hborrows
  obtain ⟨r, hgetr, hborrows⟩ := (Option.any_eq_true _ _).1 hborrows
  simp only [Bool.and_eq_true, decide_eq_true_eq] at hborrows
  obtain ⟨⟨hother, hsent⟩, hsame⟩ := hborrows
  exact ⟨_, _, hs, r, shared_run (beginCall 2), hnodup, findHandshake_eq_some.2 ⟨hlive, hget⟩, hgetr, hother, hsent, hsame⟩

end Sample

end PqsecDds.OpenDDS
