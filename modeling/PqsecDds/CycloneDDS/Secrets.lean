import PqsecDds.CycloneDDS.Ideal

/-!
# What a handshake hands out

`get_shared_secret` reads a field that one operation fills: `process_handshake`, once the signature of its token
verified. `Completion` is such a call, and `no_key_before_authentication` finds it in the past of every secret.
-/

namespace PqsecDds.CycloneDDS

open Lib Context

variable {κ ρ : Type} {env : Env κ ρ} {amb : Ambient ρ} {s s' : Authentication κ} {h l r a : Handle}
variable {c c' : Context κ} {hs : HandshakeInfo κ} {inp : Token} {optional : Bool}

/-! ## What a signature is checked against -/

/-- The signed contents of a token for the handshake: those of a Reply if it sent a Request, else those of a Final. -/
def Context.transcript (optional : Bool) (inp : Token) (c : Context κ) : List BinaryProperty :=
  (match c.handshake.createdIn with
    | .createdRequest => replyTranscript
    | .createdReply => finalTranscript) optional c.handshake.hashC1 c.handshake.hashC2 (inp.value "challenge1")
      (inp.value "challenge2") (inp.value "pqsec-dds.kem_public") (inp.value "pqsec-dds.kem_ciphertext")

theorem findBinaryProperty_of_value {t : Token} {name : String} {value : Octets} (h : t.value name = value)
    (hne : value ≠ []) : t.findBinaryProperty name = some (binaryProperty name value) := by
  rcases hp : t.findBinaryProperty name with _ | p
  · have hnil : t.value name = [] := by simp [Token.value, hp]
    exact absurd (h.symm.trans hnil) hne
  · rw [findBinaryProperty_value hp, h]

theorem findBinaryProperty_challenge {t : Token} {name : String} {x : Challenge} (h : x.1 = t.value name) :
    t.findBinaryProperty name = some (binaryProperty name x.1) := by
  refine findBinaryProperty_of_value h.symm fun hnil => ?_
  have hlen := x.2
  rw [hnil] at hlen
  cases hlen

/-! ## One call -/

/-- A handshake accepted `inp`, went to `c'` and holds the secret `x`. -/
structure Accepted (env : Env κ ρ) (optional : Bool) (inp : Token) (c c' : Context κ) (x : SharedSecret) : Prop where
  secret : c'.handshake.sharedSecret = some x
  derived : ∃ ss, c'.handshake.kemSs = some ss ∧ x.sharedSecret = env.sha256 ss
  verified : ∃ cert key, Verified env c' (c'.transcript optional inp) (inp.value "signature") cert key
  challenge1 : x.challenge1.1 = inp.value "challenge1"
  challenge2 : x.challenge2.1 = inp.value "challenge2"

theorem processToken_accepted {trusted : List X509} {v : HandshakeResult × Int}
    (hrun : processToken env amb optional trusted inp c = (.ok v, c')) :
    ∃ x, Accepted env optional inp c c' x := by
  obtain ⟨result, certExp⟩ := v
  rcases processToken_ok hrun with
    ⟨out, signed, cert, key, keypair, ss, -, hstep, c₁, hacc, c₂, hfin, hdone⟩ | ⟨-, cert, key, hstep, hacc, hdone⟩
  · obtain ⟨x, hx, rfl⟩ := hacc.state
    obtain ⟨y, hy, hych⟩ := hacc.lchallenge
    obtain ⟨⟨ss', challenge1, challenge2, hss, h₁, h₂, rfl⟩, -⟩ := hdone
    obtain rfl := hfin.state
    have hcreated : (c.accepted env inp .reply cert x).handshake.createdIn = .createdRequest := by
      rw [accepted_handshake_reply]
      exact hstep
    simp only [challenges, setKemSs, hcreated, accepted_relation] at h₁ h₂
    obtain rfl := Option.some.inj (hy.symm.trans h₁)
    obtain rfl := Option.some.inj h₂
    refine ⟨_, rfl, ⟨ss', hss, rfl⟩, ⟨cert, key, ?_⟩, hych, hx⟩
    have hv := hacc.verified
    refine ⟨hv.stored, hv.pubkey, hv.canSign, ?_⟩
    simp only [transcript, setSharedSecret, setKemSs, hcreated]
    exact hv.verify
  · obtain ⟨y, hy, hych⟩ := hacc.lchallenge
    obtain ⟨⟨ss, challenge1, challenge2, hss, h₁, h₂, rfl⟩, -⟩ := hdone
    simp only [challenges, hstep] at h₁ h₂
    obtain rfl := Option.some.inj (hy.symm.trans h₂)
    refine ⟨_, rfl, ⟨ss, hss, rfl⟩, ⟨cert, key, ?_⟩, hacc.rchallenge _ h₁, hych⟩
    have hv := hacc.verified
    refine ⟨hv.stored, hv.pubkey, hv.canSign, ?_⟩
    simp only [transcript, setSharedSecret, hstep]
    exact hv.verify

/-- Completing a handshake changes nothing, or stores a secret, which goes again if the expiry cannot be read. -/
theorem completeHandshake_cases {res : Except Stop Int} (hrun : completeHandshake env amb c = (res, c'))
    (hok : ∀ f, res ≠ .error (.fault f)) :
    c' = c ∨ ∃ ss challenge1 challenge2 cert, c.handshake.kemSs = some ss ∧ c.challenges.1 = some challenge1 ∧
      c.challenges.2 = some challenge2 ∧ c.remoteIdentity.identityCert = some cert ∧
      c' = c.setSharedSecret (if getCertificateExpiry amb cert = ddsTimeInvalid then none
        else some ⟨challenge1, challenge2, env.sha256 ss⟩) ∧
      (getCertificateExpiry amb cert = ddsTimeInvalid ∨ ∃ certExp, res = .ok certExp) := by
  rcases Act.bind_eq.1 hrun with ⟨e, h₁, -⟩ | ⟨c₁, c₂, h₁, hrun₁⟩
  · cases h₁
  obtain ⟨rfl, rfl⟩ := Act.read_ok.1 h₁
  rcases Act.bind_eq.1 hrun₁ with ⟨e, h₂, -⟩ | ⟨hash, c₂, h₂, hrun₂⟩
  · exact .inl (check_eq h₂).1
  obtain ⟨hsecret, rfl⟩ := check_ok.1 h₂
  simp only [generateSharedSecret, bind_ok, need_ok, require_ok, pure_ok] at hsecret
  obtain ⟨ss, hss, -, -, rfl⟩ := hsecret
  rcases Act.bind_eq.1 hrun₂ with ⟨e, h₃, rfl⟩ | ⟨challenge1, c₂, h₃, hrun₃⟩
  · obtain rfl := need_error_fault h₃
    exact absurd rfl (hok _)
  obtain ⟨hch₁, rfl⟩ := Act.lift_ok.1 h₃
  rcases Act.bind_eq.1 hrun₃ with ⟨e, h₄, rfl⟩ | ⟨challenge2, c₂, h₄, hrun₄⟩
  · obtain rfl := need_error_fault h₄
    exact absurd rfl (hok _)
  obtain ⟨hch₂, rfl⟩ := Act.lift_ok.1 h₄
  rcases Act.bind_eq.1 hrun₄ with ⟨e, h₅, -⟩ | ⟨_, c₃, h₅, hrun₅⟩
  · cases h₅
  obtain rfl := Act.write_ok.1 h₅
  rcases Act.bind_eq.1 hrun₅ with ⟨e, h₆, rfl⟩ | ⟨cert, c₄, h₆, hrun₆⟩
  · obtain rfl := need_error_fault h₆
    exact absurd rfl (hok _)
  obtain ⟨hcert, rfl⟩ := Act.lift_ok.1 h₆
  refine .inr ⟨ss, challenge1, challenge2, cert, hss, need_ok.1 hch₁, need_ok.1 hch₂, need_ok.1 hcert, ?_⟩
  by_cases hinvalid : getCertificateExpiry amb cert = ddsTimeInvalid
  · rw [if_pos hinvalid]
    refine ⟨?_, .inl hinvalid⟩
    rcases Act.bind_eq.1 hrun₆ with ⟨e, h₇, -⟩ | ⟨_, c₅, h₇, -⟩
    · obtain ⟨c₅, h₈, rfl⟩ := Act.onStop_eq.1 h₇
      obtain ⟨rfl, -⟩ := check_eq h₈
      rfl
    · obtain ⟨hvalid, -⟩ := check_ok.1 (Act.onStop_ok.1 h₇)
      rw [require_ok, decide_eq_true_eq] at hvalid
      exact absurd hinvalid hvalid
  · rw [if_neg hinvalid]
    rcases Act.bind_eq.1 hrun₆ with ⟨e, h₇, -⟩ | ⟨_, c₅, h₇, hpure⟩
    · obtain ⟨c₅, h₈, -⟩ := Act.onStop_eq.1 h₇
      obtain ⟨-, he⟩ := check_eq h₈
      rw [require, decide_eq_true hinvalid] at he
      cases he
    · obtain ⟨-, rfl⟩ := check_ok.1 (Act.onStop_ok.1 h₇)
      obtain ⟨rfl, rfl⟩ := Prod.mk.inj hpure
      exact ⟨rfl, .inr ⟨_, rfl⟩⟩

/-- Completing a handshake may take its secret back, but an attempt that fails makes none. -/
theorem completeHandshake_error {ex : SecurityException} (hrun : completeHandshake env amb c = (.error (.failed ex), c')) :
    c'.handshake.sharedSecret = c.handshake.sharedSecret ∨ c'.handshake.sharedSecret = none := by
  rcases completeHandshake_cases hrun (by simp) with rfl | ⟨ss, challenge1, challenge2, cert, -, -, -, -, rfl, hres⟩
  · exact .inl rfl
  · rcases hres with hinvalid | ⟨certExp, he⟩
    · rw [if_pos hinvalid]
      exact .inr rfl
    · cases he

theorem validateHandshakeToken_secret {trusted : List X509} {tokenType : HandshakeTokenType} {r : Except Stop PUnit}
    (hrun : validateHandshakeToken env amb optional trusted inp tokenType c = (r, c')) :
    c'.handshake.sharedSecret = c.handshake.sharedSecret := by
  have h := congrArg HandshakeInfo.sharedSecret ((validateHandshakeToken_material tokenType).result hrun)
  exact h

theorem answerReply_secret {r : Except Stop (Token × Signed)} (hrun : answerReply env amb optional inp c = (r, c')) :
    c'.handshake.sharedSecret = c.handshake.sharedSecret := by
  have h := congrArg (fun c : Context κ => c.handshake.sharedSecret) (answerReply_same.result hrun)
  exact h

theorem processToken_error {trusted : List X509} {ex : SecurityException}
    (hrun : processToken env amb optional trusted inp c = (.error (.failed ex), c')) :
    c'.handshake.sharedSecret = c.handshake.sharedSecret ∨ c'.handshake.sharedSecret = none := by
  simp only [processToken] at hrun
  rcases Act.bind_eq.1 hrun with ⟨e, h₁, -⟩ | ⟨hs, c₁, h₁, hrun₁⟩
  · cases h₁
  obtain ⟨rfl, rfl⟩ := Act.read_ok.1 h₁
  rcases hstep : c.handshake.createdIn with _ | _
  · simp only [hstep] at hrun₁
    rcases Act.bind_eq.1 hrun₁ with ⟨e, hv, -⟩ | ⟨_, c₁, hv, hrun₂⟩
    · exact .inl (validateHandshakeToken_secret hv)
    rw [← validateHandshakeToken_secret hv]
    rcases Act.bind_eq.1 hrun₂ with ⟨e, ha, -⟩ | ⟨_, c₂, ha, hrun₃⟩
    · exact .inl (answerReply_secret ha)
    rw [← answerReply_secret ha]
    rcases Act.bind_eq.1 hrun₃ with ⟨e, hc, he⟩ | ⟨_, c₃, -, hpure⟩
    · obtain rfl := Except.error.inj he
      exact completeHandshake_error hc
    · cases hpure
  · simp only [hstep] at hrun₁
    rcases Act.bind_eq.1 hrun₁ with ⟨e, hv, -⟩ | ⟨_, c₁, hv, hrun₂⟩
    · exact .inl (validateHandshakeToken_secret hv)
    rw [← validateHandshakeToken_secret hv]
    rcases Act.bind_eq.1 hrun₂ with ⟨e, hc, he⟩ | ⟨_, c₃, -, hpure⟩
    · obtain rfl := Except.error.inj he
      exact completeHandshake_error hc
    · cases hpure

theorem makeRequest_secret {certData pdata : Octets} {r : Except Stop Token}
    (hrun : makeRequest env amb optional certData pdata c = (r, c')) :
    c'.handshake.sharedSecret = c.handshake.sharedSecret := by
  have h := congrArg (fun x : _ × _ × HandshakeInfo κ => x.2.2.sharedSecret) (makeRequest_same.result hrun)
  exact h

theorem makeReply_secret {trusted : List X509} {pdata : Octets} {r : Except Stop (Token × Signed)}
    (hrun : makeReply env amb optional trusted inp pdata c = (r, c')) :
    c'.handshake.sharedSecret = c.handshake.sharedSecret := by
  rcases Act.bind_eq.1 hrun with ⟨e, hv, -⟩ | ⟨_, c₁, hv, ha⟩
  · exact validateHandshakeToken_secret hv
  · rw [← validateHandshakeToken_secret hv]
    have h := congrArg (fun x : _ × _ × HandshakeInfo κ => x.2.2.sharedSecret) (answerRequest_same.result ha)
    exact h

theorem Source.sharedSecret {step : CreatedHandshakeStep} (h₀ : Source amb s l r step h c) :
    s.handshake h = some c.handshake ∨ c.handshake.sharedSecret = none := by
  cases h₀ with
  | found handshake localHandle remoteHandle => exact .inl handshake
  | made none linked handshake =>
    rw [handshake]
    exact .inr rfl

/-- Only `process_handshake` gives a handshake a secret it did not hold. -/
theorem Effect.secret_cases {op : Op} {x : SharedSecret} (he : Effect env amb s op s') (hh : s'.handshake h = some hs)
    (hx : hs.sharedSecret = some x) :
    (∃ old, s.handshake h = some old ∧ old.sharedSecret = some x) ∨ ∃ m, op = .processHandshake m h := by
  rcases he.handshake_cases hh with hold | ⟨c, c', ht, rfl⟩
  · exact .inl ⟨hs, hold, hx⟩
  cases ht with
  | request ha hrx on =>
    rw [makeRequest_secret on.run] at hx
    rcases on.source.sharedSecret with hold | hnone
    · exact .inl ⟨_, hold, hx⟩
    · rw [hnone] at hx
      cases hx
  | reply ha hrx on =>
    rw [makeReply_secret on.run] at hx
    rcases on.source.sharedSecret with hold | hnone
    · exact .inl ⟨_, hold, hx⟩
    · rw [hnone] at hx
      cases hx
  | process ha hrx on => exact .inr ⟨_, rfl⟩

theorem OnProcess.context {v : HandshakeResult × Int} (on : OnProcess env amb s inp h c c' (.ok v) s') :
    ∃ timer, s'.context h = some { c' with remoteIdentity.timer := timer } := by
  have hframe : c.Frame c' := processToken_frame.result on.run
  obtain ⟨hm, -⟩ := on.ok v.1 v.2 rfl
  obtain ⟨timer, heq⟩ := Touches.watched_eq amb v.2 c'
  rw [heq] at hm
  refine ⟨timer, context_eq_some.2 ⟨?_, ?_, ?_, ?_⟩⟩
  · rw [hm.handshake, if_pos rfl]
  · rw [hm.relation, if_pos hframe.relation]
  · rw [hm.localIdentity, if_pos hframe.localHandle]
  · rw [hm.remoteIdentity, if_pos hframe.remoteHandle]

/-! ## Runs -/

/-- In the state `s₀`, `process_handshake` accepted `m` for the handshake `h`; since then the secret is `x`. -/
structure Completion (env : Env κ ρ) (amb : Ambient ρ) (s₀ : Authentication κ) (m : Token) (h : Handle)
    (x : SharedSecret) (s₁ : Authentication κ) : Prop where
  allocates : Allocates amb s₀
  accepted : ∃ result, processHandshake env amb m h s₀ = (.ok result, s₁)
  /-- the signature of `m` verifies over the transcript, with the key of the stored certificate -/
  verified : ∃ c cert key, s₁.context h = some c ∧
    Verified env c (c.transcript s₀.includeOptional m) (m.value "signature") cert key
  /-- the secret is the hash of the KEM secret the handshake then holds -/
  derived : ∃ hs ss, s₁.handshake h = some hs ∧ hs.kemSs = some ss ∧ x.sharedSecret = env.sha256 ss
  challenge1 : m.findBinaryProperty "challenge1" = some (binaryProperty "challenge1" x.challenge1.1)
  challenge2 : m.findBinaryProperty "challenge2" = some (binaryProperty "challenge2" x.challenge2.1)

/-- A call of `process_handshake` gives a handshake the secret it held before, or completes it. -/
theorem processHandshake_secret {m : Token} {res : Except Stop HandshakeResult} {x : SharedSecret}
    (ha : Allocates amb s) (hrun : processHandshake env amb m h s = (res, s')) (hok : ∀ f, res ≠ .error (.fault f))
    (hh : s'.handshake h = some hs) (hx : hs.sharedSecret = some x) :
    (∃ old, s.handshake h = some old ∧ old.sharedSecret = some x) ∨
      (∃ result, res = .ok result) ∧ Completion env amb s m h x s' := by
  rcases processHandshake_cases hrun hok with ⟨-, rfl, -⟩ | ⟨c, c', rx, rfl, hon⟩
  · exact .inl ⟨hs, hh, hx⟩
  rcases rx with (ex | f) | v
  · obtain ⟨hm, -⟩ := hon.failed _ rfl
    rw [hm.handshake, if_pos rfl] at hh
    obtain rfl := Option.some.inj hh
    rcases processToken_error hon.run with hsame | hnone
    · exact .inl ⟨c.handshake, hon.handshake, hsame.symm.trans hx⟩
    · rw [hnone] at hx
      cases hx
  · exact absurd rfl (hok f)
  · obtain ⟨timer, hcontext⟩ := hon.context
    obtain ⟨y, hacc⟩ := processToken_accepted hon.run
    obtain ⟨hh', -⟩ := context_eq_some.1 hcontext
    obtain rfl := Option.some.inj (hh.symm.trans hh')
    obtain rfl := Option.some.inj (hacc.secret.symm.trans hx)
    obtain ⟨ss, hss, hderived⟩ := hacc.derived
    obtain ⟨cert, key, hv⟩ := hacc.verified
    exact .inr ⟨⟨v.1, rfl⟩, ha, ⟨v.1, hrun⟩, ⟨_, cert, key, hcontext, hv.stored, hv.pubkey, hv.canSign, hv.verify⟩,
      ⟨_, ss, hh', hss, hderived⟩, findBinaryProperty_challenge hacc.challenge1,
      findBinaryProperty_challenge hacc.challenge2⟩

/-- The secret `x` of `h` was made by a call in the past, and `h` has been live ever since. -/
def Authenticated (env : Env κ ρ) (tr : Trace (Authentication κ) (Op × Ambient ρ)) (h : Handle) (x : SharedSecret) : Prop :=
  ∃ later s₀ m amb earlier s₁, tr = later ++ (s₀, .processHandshake m h, amb) :: earlier ∧
    (∀ e ∈ later, (e.1.handshake h).isSome) ∧ Completion env amb s₀ m h x s₁

theorem run_authenticated {tr : Trace (Authentication κ) (Op × Ambient ρ)} (hr : Run (plugin env).solo tr s) :
    ∀ h hs x, s.handshake h = some hs → hs.sharedSecret = some x → Authenticated env tr h x := by
  refine hr.inv (I := fun tr s => ∀ h hs x, s.handshake h = some hs → hs.sharedSecret = some x →
    Authenticated env tr h x) ?_ ?_
  · rintro s ⟨optional, kem, rfl⟩ h hs x hh
    cases hh
  · rintro tr s ⟨op, amb⟩ s' - ih ⟨-, rfl⟩ h hs x hh hx
    have hkept : (∃ old, s.handshake h = some old ∧ old.sharedSecret = some x) →
        Authenticated env ((s, op, amb) :: tr) h x := by
      rintro ⟨old, hold, hx⟩
      obtain ⟨later, s₀, m, amb₀, earlier, s₁, rfl, hlive, hdone⟩ := ih h old x hold hx
      refine ⟨(s, op, amb) :: later, s₀, m, amb₀, earlier, s₁, rfl, fun e he => ?_, hdone⟩
      rcases List.mem_cons.1 he with rfl | he
      · simp [hold]
      · exact hlive e he
    have he : Effect env amb s op _ := exec_effect s op amb
    rcases he.secret_cases hh hx with hold | ⟨m, rfl⟩
    · exact hkept hold
    change (exec env s (.processHandshake m h, amb)).1.handshake h = some hs at hh
    rcases exec_call env s (.processHandshake m h) amb with hsame | ⟨ha, res, hcall, hok⟩
    · rw [hsame] at hh
      exact hkept ⟨hs, hh, hx⟩
    · obtain ⟨rx, hrun, rfl⟩ := Act.bind_pure_eq.1 hcall
      rcases processHandshake_secret ha hrun (map_ne_fault hok) hh hx with hold | ⟨-, hdone⟩
      · exact hkept hold
      · exact ⟨[], s, m, amb, tr, _, rfl, by simp, hdone⟩

theorem getSharedSecret_some {x : SharedSecret} :
    getSharedSecret h s = (.ok (some x), s') ↔ s' = s ∧ h ≠ 0 ∧ ∃ hs, s.handshake h = some hs ∧ hs.sharedSecret = some x := by
  simp only [getSharedSecret, Act.bind_ok, check_ok, Act.demand_ok, Act.pure_ok, require_ok, decide_eq_true_eq, and_assoc,
    exists_and_left, exists_eq_left', exists_const]
  constructor
  · rintro ⟨hne, hs, hh, hx, rfl⟩
    exact ⟨rfl, hne, hs, hh, hx⟩
  · rintro ⟨rfl, hne, hs, hh, hx⟩
    exact ⟨hne, hs, hh, hx, rfl⟩

/-- A failed call hands out no secret that was not there before. -/
theorem failed_secret {op : Op} {ex : SecurityException} {x : SharedSecret} (ha : Allocates amb s)
    (hrun : op.call env amb s = (.error (.failed ex), s')) (hx : getSharedSecret h s' = (.ok (some x), s')) :
    getSharedSecret h s = (.ok (some x), s) := by
  obtain ⟨-, hne, hs, hh, hx⟩ := getSharedSecret_some.1 hx
  refine getSharedSecret_some.2 ⟨rfl, hne, ?_⟩
  rcases (call_effect ha hrun (by simp)).secret_cases hh hx with hold | ⟨m, rfl⟩
  · exact hold
  · obtain ⟨rx, hprocess, hres⟩ := Act.bind_pure_eq.1 hrun
    rcases rx with e | v
    · obtain rfl := Except.error.inj hres
      rcases processHandshake_secret ha hprocess (by simp) hh hx with hold | ⟨⟨v, hv⟩, -⟩
      · exact hold
      · cases hv
    · cases hres

/-- **No key before authentication.** A handshake hands out a secret only after `process_handshake` accepted a token
for it, whose signature verified in that call; the secret and the challenges are those of that call. A call that fails
makes no secret available, and leaves the caller's message as it was, or empty. -/
theorem no_key_before_authentication (env : Env κ ρ) {tr : Trace (Authentication κ) (Op × Ambient ρ)}
    {s : Authentication κ} (hr : Run (plugin env).solo tr s) :
    (∀ h x, getSharedSecret h s = (.ok (some x), s) → Authenticated env tr h x) ∧
    ∀ op amb ex s' out out', Allocates amb s → op.callOut env amb (s, out) = (.error (.failed ex), s', out') →
      (out' = out ∨ out' = {}) ∧ (plugin env).exec s (op, amb) = (s', []) ∧
      ∀ h x, getSharedSecret h s' = (.ok (some x), s') → getSharedSecret h s = (.ok (some x), s) := by
  refine ⟨fun h x hx => ?_, fun op amb ex s' out out' ha hrun => ?_⟩
  · obtain ⟨-, -, hs, hh, hx⟩ := getSharedSecret_some.1 hx
    exact run_authenticated hr h hs x hh hx
  · have hcall := (callOut_extends op).result hrun
    exact ⟨callOut_failed hrun, exec_failed ha hcall, fun h x => failed_secret ha hcall⟩

theorem initiator_secret : ∃ x, getSharedSecret 10 (Ideal.after Ideal.start Ideal.initiatorCalls) =
    (.ok (some x), Ideal.after Ideal.start Ideal.initiatorCalls) := by
  have h : (((Ideal.after Ideal.start Ideal.initiatorCalls).handshake 10).bind (·.sharedSecret)).isSome := by
    decide +kernel
  obtain ⟨x, hx⟩ := Option.isSome_iff_exists.1 h
  obtain ⟨hs, hh, hx⟩ := Option.bind_eq_some_iff.1 hx
  exact ⟨x, getSharedSecret_some.2 ⟨rfl, by decide, hs, hh, hx⟩⟩

theorem no_key_before_authentication_sample : ∃ x, Authenticated Ideal.env
    ((plugin Ideal.env).history [] Ideal.start Ideal.initiatorCalls) 10 x := by
  obtain ⟨x, hx⟩ := initiator_secret
  exact ⟨x, (no_key_before_authentication Ideal.env (Ideal.calls_run true .mlKem512 Ideal.initiatorCalls)).1 10 x hx⟩

end PqsecDds.CycloneDDS
