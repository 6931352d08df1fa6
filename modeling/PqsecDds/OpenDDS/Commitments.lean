import PqsecDds.OpenDDS.Challenges
import PqsecDds.OpenDDS.Exchange

/-!
# An announced challenge is used

A call of `validate_remote_identity` with a nil token hands out an AuthRequest, which announces the challenge that this
side is going to use; `local_auth_request_sent` remembers it. From then on every AuthRequest, every Request and every
Reply for that remote identity has this challenge, in however many handshakes and whatever AuthRequests come in
(`announced_challenge_used`). It is what the other side has noted: a message with another challenge is refused there
(`challenge_pinned`).
-/

namespace PqsecDds.OpenDDS

open Lib Authentication

variable {α κ π ρ : Type} [Octet α] [DecidableEq α]
variable {env : Env α κ π ρ} {amb : Ambient α ρ} {s s' : Authentication α κ π} {op : Op α}
variable {tr tr₀ : Calls α κ π ρ} {p : Nat} {c : OctetSeq α} {rh lh : Handle} {lt rt it : Token α} {g : Guid}

/-- All that goes out for the remote identity at `p` has the challenge `c`. `message` is the token of the caller that
the Request is written to. -/
structure UsesOnly (env : Env α κ π ρ) (s : Authentication α κ π) (p : Nat) (c : OctetSeq α) : Prop where
  authRequest : ∀ amb rh lt rt lh it g l r, Addresses s rh lh it g p l r → rt.isNil = true →
    futureChallenge (validateRemoteIdentity env amb s rh lt rt lh it g).1.token = c
  request : ∀ amb h message ih rh pd, s.remotes rh = some p → message.binaryProperties = [] →
    (beginHandshakeRequest env amb s h message ih rh pd).1.result ≠ .failed →
    (beginHandshakeRequest env amb s h message ih rh pd).1.token.getBinPropertyValue "challenge1" = c
  reply : ∀ amb h message ih rh pd, s.remotes ih = some p →
    (beginHandshakeReply env amb s h message ih rh pd).1.result ≠ .failed →
    (beginHandshakeReply env amb s h message ih rh pd).1.token.getBinPropertyValue "challenge2" = c

/-- The remote identity at `p` has handed out its AuthRequest, with the challenge `c`. -/
def Announced (s : Authentication α κ π) (p : Nat) (c : OctetSeq α) : Prop :=
  ∃ r, s.remoteHeap[p]? = some r ∧ r.localAuthRequestSent = true ∧ r.localChallenge = c ∧
    r.localAuthRequest = advertisement c

/-! ## What an announcement settles -/

omit [Octet α] [DecidableEq α] in
theorem findRemote_at {h : Handle} {q : Nat} {r r' : RemoteIdentity α} (hp : s.remotes h = some p)
    (hget : s.remoteHeap[p]? = some r) (hr : s.findRemote h = some (q, r')) : r' = r := by
  obtain ⟨hq, hget'⟩ := findRemote_eq_some.1 hr
  rw [hp] at hq
  rw [← Option.some.inj hq, hget] at hget'
  exact (Option.some.inj hget').symm

theorem receiveAuthRequest_token (s : Authentication α κ π) (p : Nat) (r : RemoteIdentity α) (rh : Handle) (lt : Token α)
    (g : Guid) (hnil : rt.isNil = true) :
    (receiveAuthRequest (π := π) s p r rh lt rt g).1.token = r.localAuthRequest := by
  simp only [receiveAuthRequest, hnil, Bool.not_true, Bool.false_and, Bool.false_eq_true, if_false, if_true]

theorem futureChallenge_advertisement (c : OctetSeq α) : futureChallenge (advertisement c) = c :=
  (advertisement_facts c).2.2

/-- The Request is written after what the token of the caller holds, and the Reply to a token of its own. -/
theorem Announced.usesOnly (h : Announced s p c) : UsesOnly env s p c := by
  obtain ⟨r, hget, hsent, hlocal, hadvertised⟩ := h
  have hown : ∀ amb : Ambient α ρ, ownChallenge env amb r = some c := by
    intro amb
    rw [ownChallenge, if_pos hsent, hlocal]
  constructor
  · intro amb rh lt rt lh it g l r' haddr hnil
    have hr' := (findRemote_eq_some.1 haddr.remote).2
    rw [hget] at hr'
    rw [validateRemoteIdentity_known haddr, receiveAuthRequest_token _ _ _ _ _ _ hnil, ← Option.some.inj hr',
      hadvertised, futureChallenge_advertisement]
  · intro amb h message ih rh pd hp hempty hok
    simp only [beginHandshakeRequest] at hok ⊢
    split
    · rename_i hhandle
      rw [if_pos hhandle] at hok
      exact absurd rfl hok
    rename_i hhandle
    rw [if_neg hhandle] at hok
    split
    · rename_i hmake
      rw [hmake] at hok
      exact absurd rfl hok
    rename_i hs request hmake
    obtain ⟨l, r', -, hr', -, -, -, -, hchallenge, -, htoken⟩ := makeRequest_ok hmake
    rw [findRemote_at hp hget hr', hown] at hchallenge
    have hcarries := ((((Carries.writer hempty "pqsec-dds.auth:1.0+Req").credentials l pd).add "pqsec-dds.kem_public"
      hs.publicKey).add "challenge1" hs.challenge1)
    rw [← htoken] at hcarries
    rw [hcarries.get, Option.some.inj hchallenge]
    exact (requestValues_lookup l.credentials.participantCert l.credentials.accessPermissions pd l.kemAlgorithm
      hs.publicKey hs.challenge1).2
  · intro amb h message ih rh pd hp hok
    simp only [beginHandshakeReply] at hok ⊢
    split
    · rename_i hhandle
      rw [if_pos hhandle] at hok
      exact absurd rfl hok
    rename_i hhandle
    rw [if_neg hhandle] at hok
    split
    · rename_i hmake
      rw [hmake] at hok
      exact absurd rfl hok
    rename_i hs reply key data hmake
    obtain ⟨l, r', signature, -, hr', -, -, -, -, -, -, hchallenge, -, -, -, -, htoken⟩ := makeReply_ok hmake
    rw [findRemote_at hp hget hr', hown] at hchallenge
    have hcarries := (((((Carries.writer (t := ({} : Token α)) rfl "pqsec-dds.auth:1.0+Reply").credentials l pd).add
      "pqsec-dds.kem_ciphertext" hs.ciphertext).add "challenge1" hs.challenge1).add "challenge2" hs.challenge2).add
      "signature" signature
    rw [← htoken] at hcarries
    rw [hcarries.get, Option.some.inj hchallenge]
    exact (replyValues_lookup l.credentials.participantCert l.credentials.accessPermissions pd l.kemAlgorithm
      hs.ciphertext hs.challenge1 hs.challenge2 signature).2.2.1

/-! ## Runs -/

/-- A nil token sets `local_auth_request_sent`, and nothing clears it. -/
theorem Received.sent {r r' : RemoteIdentity α} {result : ValidationResult} (h : Received r rt g result r')
    (hsent : r.localAuthRequestSent = true ∨ rt.isNil = true ∧ result ≠ .failed) : r'.localAuthRequestSent = true := by
  cases h with
  | nil _ => rfl
  | foreign hnil _ | badLength hnil _ _ | genuine hnil _ _ =>
    rcases hsent with hsent | ⟨hnil', -⟩
    · exact hsent
    · rw [hnil] at hnil'
      cases hnil'

theorem Announced.step (h : Announced s p c) : Announced (exec env s (op, amb)).1 p c := by
  obtain ⟨r, hget, hsent, hlocal, hadvertised⟩ := h
  obtain ⟨r', hget', rfl | ⟨rh, lt, rt, lh, it, g, l, -, -, hrec⟩⟩ := remoteHeap_later env amb op hget
  · exact ⟨_, hget', hsent, hlocal, hadvertised⟩
  · have hframe := hrec.frame
    exact ⟨r', hget', hrec.sent (.inl hsent), by rw [hframe.localChallenge, hlocal],
      by rw [hframe.localAuthRequest, hadvertised]⟩

/-- What a remote identity hands out is the announcement of its challenge. -/
theorem remotes_advertise (hr : Run (plugin env).solo tr s) :
    ∀ r ∈ s.remoteHeap, r.localAuthRequest = advertisement r.localChallenge := by
  refine hr.state_inv (I := fun s => ∀ r ∈ s.remoteHeap, r.localAuthRequest = advertisement r.localChallenge) ?_ ?_
  · rintro s rfl r hmem
    cases hmem
  · rintro s ⟨op, amb⟩ s' hall ⟨-, rfl⟩
    have he : Effect env amb s op _ _ := exec_effect op
    simp only [plugin]
    generalize exec env s (op, amb) = x at he ⊢
    obtain ⟨s', ev⟩ := x
    cases he with
    | remoteKnown hr hf _ =>
      intro r hmem
      rcases List.mem_or_eq_of_mem_set hmem with hmem | rfl
      · exact hall r hmem
      · rw [hf.localAuthRequest, hf.localChallenge]
        exact hall _ (List.mem_of_getElem? (findRemote_eq_some.1 hr).2)
    | remoteNew _ hc _ _ ha _ =>
      intro r hmem
      rcases List.mem_append.1 hmem with hmem | hmem
      · exact hall r hmem
      · rw [List.mem_singleton.1 hmem, ha, hc]
        rfl
    | _ => exact hall

/-- A successful call with a nil token announces the challenge of the token it returns. -/
theorem announces (hr : Run (plugin env).solo tr s) (hnil : rt.isNil = true)
    (hok : (validateRemoteIdentity env amb s rh lt rt lh it g).1.result ≠ .failed)
    (hp : (validateRemoteIdentity env amb s rh lt rt lh it g).2.remotes
      (validateRemoteIdentity env amb s rh lt rt lh it g).1.handle = some p) :
    Announced (validateRemoteIdentity env amb s rh lt rt lh it g).2 p
      (futureChallenge (validateRemoteIdentity env amb s rh lt rt lh it g).1.token) := by
  by_cases hold : ∃ q l r, Addresses s rh lh it g q l r
  · obtain ⟨q, l, r, haddr⟩ := hold
    obtain ⟨hq, hget⟩ := findRemote_eq_some.1 haddr.remote
    have hadvertised := remotes_advertise hr r (List.mem_of_getElem? hget)
    rw [validateRemoteIdentity_known haddr] at hok hp ⊢
    obtain ⟨r', hst, hhandle, hrec⟩ := receiveAuthRequest_received s q r rh lt rt l.guid
    rw [receiveAuthRequest_token _ _ _ _ _ _ hnil, hadvertised, futureChallenge_advertisement]
    rw [hst, hhandle, setRemote] at hp
    dsimp only at hp
    rw [hq] at hp
    obtain rfl := Option.some.inj hp
    have hlt : q < s.remoteHeap.length := (List.getElem?_eq_some_iff.1 hget).1
    exact ⟨r', by rw [hst, setRemote, List.getElem?_set_self hlt], hrec.sent (.inr ⟨hnil, hok⟩), hrec.frame.localChallenge,
      by rw [hrec.frame.localAuthRequest, hadvertised]⟩
  by_cases hnew : ∃ l challenge, Introduces env amb s rh lh it l challenge
  · obtain ⟨l, challenge, hintro⟩ := hnew
    rw [validateRemoteIdentity_new hintro] at hok hp ⊢
    obtain ⟨r', hst, hhandle, hrec⟩ := receiveAuthRequest_received (s.addRemote (newRemote lh g challenge))
      s.remoteHeap.length (newRemote lh g challenge) s.nextHandle lt rt l.guid
    rw [setRemote_addRemote] at hst
    rw [receiveAuthRequest_token _ _ _ _ _ _ hnil]
    have hchallenge : futureChallenge (newRemote lh g challenge).localAuthRequest = challenge :=
      futureChallenge_advertisement challenge
    rw [hchallenge]
    rw [hst, hhandle, addRemote] at hp
    dsimp only at hp
    rw [Function.update_self] at hp
    obtain rfl := Option.some.inj hp
    exact ⟨r', by rw [hst, addRemote, List.getElem?_concat_length], hrec.sent (.inr ⟨hnil, hok⟩),
      hrec.frame.localChallenge, hrec.frame.localAuthRequest⟩
  obtain ⟨msg, hfail⟩ : ∃ msg, validateRemoteIdentity env amb s rh lt rt lh it g = (fail rh lt msg, s) :=
    validateRemoteIdentity_early (fun q l r h => hold ⟨q, l, r, h⟩) fun l challenge h => hnew ⟨l, challenge, h⟩
  rw [hfail] at hok
  exact absurd rfl hok

/-- **An announced challenge is used.** Once a successful call of `validate_remote_identity` with a nil token has handed
out an AuthRequest for the remote identity at `p`, every AuthRequest, Request and Reply that the plugin makes for it has
the challenge announced there, after any further calls. -/
theorem announced_challenge_used (env : Env α κ π ρ) {tr₀ tr : Calls α κ π ρ} {s₀ s : Authentication α κ π}
    (hr : Run (plugin env).solo tr₀ s₀) (hnil : rt.isNil = true)
    (hok : (validateRemoteIdentity env amb s₀ rh lt rt lh it g).1.result ≠ .failed)
    (hp : (validateRemoteIdentity env amb s₀ rh lt rt lh it g).2.remotes
      (validateRemoteIdentity env amb s₀ rh lt rt lh it g).1.handle = some p)
    (hs : Steps (plugin env).solo (validateRemoteIdentity env amb s₀ rh lt rt lh it g).2 tr s) :
    UsesOnly env s p (futureChallenge (validateRemoteIdentity env amb s₀ rh lt rt lh it g).1.token) := by
  refine Announced.usesOnly (hs.inv (I := fun s => Announced s p _) ?_ (announces hr hnil hok hp))
  rintro s ⟨op, amb⟩ s' h ⟨-, rfl⟩
  exact h.step

section Sample

/-- Participant 2 announces its challenge to participant 1 and then answers the Request of participant 1. -/
theorem announced_challenge_used_sample :
    UsesOnly sampleEnv (after (acquainted 2 1) replyCall) 0
      (futureChallenge (validateRemoteIdentity sampleEnv (sampleAmbient 11) (after (.new sampleEnv) (localCall 2)) 0 {} {} 1
        (Token.writer {} "pqsec-dds.auth:1.0") (sampleGuid 1)).1.token) := by
  have hstart : acquainted 2 1 = (validateRemoteIdentity sampleEnv (sampleAmbient 11)
      (after (.new sampleEnv) (localCall 2)) 0 {} {} 1 (Token.writer {} "pqsec-dds.auth:1.0") (sampleGuid 1)).2 := by
    have hseed : 10 + UInt8.toNat 1 = 11 := rfl
    simp only [acquainted, after, exec, remoteCall, hseed]
  have hs := steps_one (defined_of_short (acquainted_run 2 1) (by decide) replyCall)
  rw [hstart] at hs ⊢
  refine announced_challenge_used sampleEnv (run_after (.init rfl) (localCall 2) (by decide)) rfl ?_ ?_ hs
  · decide +kernel
  · decide +kernel

/-- Two Replies of different seeds have one challenge. -/
example : ∀ n ∈ [22, 33],
    (beginHandshakeReply sampleEnv (sampleAmbient n) (acquainted 2 1) 0 (sentBy (acquainted 1 2) requestCall) 2 1
      [.base 2]).1.token.getBinPropertyValue "challenge2" = nonce 11 := by
  decide +kernel

end Sample

end PqsecDds.OpenDDS
