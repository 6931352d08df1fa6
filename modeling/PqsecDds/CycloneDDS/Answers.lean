import PqsecDds.CycloneDDS.Assertions
import PqsecDds.CycloneDDS.Signatures

/-!
# A Reply answers its own Request

A Reply that is made has the public key of its Request, the ciphertext of the encapsulation to it, and the handshake
keeps the secret of that encapsulation: a handshake that still holds an older ciphertext makes none. The signature
covers the key and the ciphertext, and the credentials of the Request if the optional properties are included.
-/

namespace PqsecDds.CycloneDDS

open Lib

variable {κ ρ : Type} {env : Env κ ρ} {amb : Ambient ρ} {s s' : Authentication κ} {l r h : Handle} {inp out : Token}
variable {pdata : Octets} {signed : Signed} {c c' : Context κ} {optional : Bool} {trusted : List X509}

/-- The KEM material of the Reply `out` and of the handshake is that of the Request `inp`. -/
structure KemAnswered (env : Env κ ρ) (amb : Ambient ρ) (inp out : Token) (l : LocalIdentityInfo)
    (hs : HandshakeInfo κ) : Prop where
  requested : inp.findBinaryProperty "pqsec-dds.kem_public" =
    some (binaryProperty "pqsec-dds.kem_public" (inp.value "pqsec-dds.kem_public"))
  kemPublic : out.findBinaryProperty "pqsec-dds.kem_public" = inp.findBinaryProperty "pqsec-dds.kem_public"
  encapsulated : ∃ ct ss, out.findBinaryProperty "pqsec-dds.kem_ciphertext" =
      some (binaryProperty "pqsec-dds.kem_ciphertext" ct) ∧ hs.kemCt = some ct ∧ hs.kemSs = some ss ∧
    (env.kem l.kagreeAlgoKind).Encapsulated (inp.value "pqsec-dds.kem_public") amb.encapSeed ct ss

/-- What is signed. -/
def answeredProperties (env : Env κ ρ) (inp out : Token) : List BinaryProperty :=
  [binaryProperty "pqsec-dds.kem_public" (inp.value "pqsec-dds.kem_public"),
   binaryProperty "pqsec-dds.kem_ciphertext" (out.value "pqsec-dds.kem_ciphertext"),
   binaryProperty "hash_c1" (credentialHash env inp).1]

/-- The signature of the Reply is the local identity's over a transcript. -/
structure SignedOver (env : Env κ ρ) (amb : Ambient ρ) (out : Token) (l : LocalIdentityInfo) (signed : Signed)
    (transcript : List BinaryProperty) : Prop where
  key : signed.key = l.privateKey
  data : signed.data = env.serializeArray transcript
  signature : ∃ signature, env.digestSign signed.key signed.data amb.signSeed = some signature ∧
    out.findBinaryProperty "signature" = some (binaryProperty "signature" signature)

/-- The signature covers the public key and the ciphertext, and the credentials of the Request. -/
def Covers (env : Env κ ρ) (amb : Ambient ρ) (inp out : Token) (l : LocalIdentityInfo) (signed : Signed) : Prop :=
  ∃ transcript, SignedOver env amb out l signed transcript ∧ answeredProperties env inp out ⊆ transcript

/-! ## The Reply -/

section ReplyToken

variable {credentials : List BinaryProperty} {hashC1 hashC2 : HashValue} {kemCt kemPublic signature : Octets}
variable {challenge1 challenge2 : Challenge} {identity : LocalIdentityInfo} {certData : Octets} {kagree : AuthAlgoKind}

theorem replyToken_kemPublic :
    (replyToken optional (identity.credentials certData pdata kagree) hashC1 hashC2 kemCt kemPublic challenge1 challenge2
      signature).findBinaryProperty "pqsec-dds.kem_public" = some (binaryProperty "pqsec-dds.kem_public" kemPublic) := by
  cases optional <;> rfl

theorem replyToken_kemCiphertext :
    (replyToken optional (identity.credentials certData pdata kagree) hashC1 hashC2 kemCt kemPublic challenge1 challenge2
      signature).findBinaryProperty "pqsec-dds.kem_ciphertext" = some (binaryProperty "pqsec-dds.kem_ciphertext" kemCt) := by
  cases optional <;> rfl

theorem replyToken_signature :
    (replyToken optional (identity.credentials certData pdata kagree) hashC1 hashC2 kemCt kemPublic challenge1 challenge2
      signature).findBinaryProperty "signature" = some (binaryProperty "signature" signature) := by
  cases optional <;> rfl

end ReplyToken

theorem Token.value_eq {t : Token} {name : String} {value : Octets}
    (h : t.findBinaryProperty name = some (binaryProperty name value)) : t.value name = value := by
  simp [Token.value, h, binaryProperty]

/-- The hash of the Request is signed only if the optional properties are included. -/
theorem hash_c1_mem_replyTranscript {hashC1 hashC2 : HashValue} {challenge1 challenge2 kemPublic kemCt : Octets}
    {x : Octets} :
    binaryProperty "hash_c1" x ∈ replyTranscript optional hashC1 hashC2 challenge1 challenge2 kemPublic kemCt ↔
      optional = true ∧ x = hashC1.1 := by
  have h₁ : str "hash_c1" ≠ str "hash_c2" := by decide
  have h₂ : str "hash_c1" ≠ str "challenge2" := by decide
  have h₃ : str "hash_c1" ≠ str "pqsec-dds.kem_ciphertext" := by decide
  have h₄ : str "hash_c1" ≠ str "challenge1" := by decide
  have h₅ : str "hash_c1" ≠ str "pqsec-dds.kem_public" := by decide
  cases optional <;> simp [replyTranscript, binaryProperty, h₁, h₂, h₃, h₄, h₅]

theorem kem_mem_replyTranscript (hashC1 hashC2 : HashValue) (challenge1 challenge2 kemPublic kemCt : Octets) :
    binaryProperty "pqsec-dds.kem_public" kemPublic ∈
        replyTranscript optional hashC1 hashC2 challenge1 challenge2 kemPublic kemCt ∧
      binaryProperty "pqsec-dds.kem_ciphertext" kemCt ∈
        replyTranscript optional hashC1 hashC2 challenge1 challenge2 kemPublic kemCt := by
  cases optional <;> simp [replyTranscript]

/-- What is known of the Reply and the handshake once the Request was answered. -/
structure Reply (env : Env κ ρ) (amb : Ambient ρ) (optional : Bool) (inp out : Token) (l : LocalIdentityInfo)
    (signed : Signed) (hs : HandshakeInfo κ) : Prop where
  kem : KemAnswered env amb inp out l hs
  signed : ∃ hashC2 challenge1 challenge2, SignedOver env amb out l signed
    (replyTranscript optional (credentialHash env inp) hashC2 challenge1 challenge2 (inp.value "pqsec-dds.kem_public")
      (out.value "pqsec-dds.kem_ciphertext"))

theorem makeReply_reply (hrun : makeReply env amb optional trusted inp pdata c = (.ok (out, signed), c')) :
    Reply env amb optional inp out c.localIdentity signed c'.handshake := by
  obtain ⟨cert, c₁, ct, ss, hacc, hans⟩ := makeReply_ok hrun
  obtain ⟨x, -, rfl⟩ := hacc.state
  obtain ⟨certData, -, hc'⟩ := hans.state
  obtain ⟨_, challenge1, challenge2, signature, -, -, -, rfl, hdata, hsign⟩ := hans.token
  have hkind : (c.accepted env inp .req cert x).remoteIdentity.kagreeAlgoKind = c.localIdentity.kagreeAlgoKind := by
    rw [accepted_remoteIdentity]
    rfl
  have hlocal : (c.accepted env inp .req cert x).localIdentity = c.localIdentity := accepted_localIdentity
  have henc := hans.encapsulated
  rw [hkind] at henc
  have hrequested := findBinaryProperty_of_value rfl hacc.kemPublic_ne_nil
  have hhandshake : c'.handshake.kemCt = some ct ∧ c'.handshake.kemSs = some ss ∧
      c'.handshake.hashC1 = credentialHash env inp := by
    rw [hc', setPdata_eq]
    refine ⟨rfl, rfl, ?_⟩
    change (c.accepted env inp .req cert x).handshake.hashC1 = _
    rw [accepted_handshake_req]
  obtain ⟨hct, hss, hhash⟩ := hhandshake
  constructor
  · exact ⟨hrequested, replyToken_kemPublic.trans hrequested.symm, ct, ss, replyToken_kemCiphertext, hct, hss, henc⟩
  · refine ⟨c'.handshake.hashC2, challenge1.1, challenge2.1, hans.key.trans (by rw [hlocal]), ?_, signature, ?_,
      replyToken_signature⟩
    · rw [hdata, hhash, Token.value_eq replyToken_kemCiphertext]
    · rw [hans.key]
      exact hsign

theorem Reply.covers_iff {identity : LocalIdentityInfo} {hs : HandshakeInfo κ}
    (hinj : Function.Injective env.serializeArray) (hreply : Reply env amb optional inp out identity signed hs) :
    Covers env amb inp out identity signed ↔ optional = true := by
  obtain ⟨hashC2, challenge1, challenge2, hover⟩ := hreply.signed
  constructor
  · rintro ⟨transcript, hover', hsub⟩
    obtain rfl := hinj (hover'.data.symm.trans hover.data)
    have hmem := hsub (List.mem_cons_of_mem _ (List.mem_cons_of_mem _ List.mem_cons_self))
    exact (hash_c1_mem_replyTranscript.1 hmem).1
  · rintro rfl
    refine ⟨_, hover, ?_⟩
    intro p hp
    obtain ⟨hpublic, hct⟩ := kem_mem_replyTranscript (credentialHash env inp) hashC2 challenge1 challenge2
      (inp.value "pqsec-dds.kem_public") (out.value "pqsec-dds.kem_ciphertext")
    simp only [answeredProperties, List.mem_cons, List.not_mem_nil, or_false] at hp
    rcases hp with rfl | rfl | rfl
    · exact hpublic
    · exact hct
    · exact hash_c1_mem_replyTranscript.2 ⟨rfl, rfl⟩

/-! ## Every reachable state -/

theorem beginHandshakeReply_reply (ha : Allocates amb s) (hs : Referential s)
    (hrun : beginHandshakeReply env amb inp r l pdata s = (.ok (h, out, signed), s')) :
    ∃ identity handshake, s.localIdentity l = some identity ∧ s'.handshake h = some handshake ∧
      Reply env amb s.includeOptional inp out identity signed handshake := by
  rcases beginHandshakeReply_cases ha hrun (by simp) with ⟨⟨e, he⟩, -⟩ | ⟨h', c, c', rx, hres, hon⟩
  · cases he
  cases rx with
  | error e => cases hres
  | ok v =>
    obtain ⟨rfl, rfl⟩ := Prod.mk.inj (Except.ok.inj hres)
    refine ⟨c.localIdentity, c'.handshake, ?_, ?_, makeReply_reply hon.run⟩
    · rw [← (hon.source.ends hs.sound hon.points).1]
      exact hon.points.localIdentity
    · rw [hon.moved.handshake, if_pos rfl]
      simp [remaining, Except.isOk, Except.toBool]

/-- **A Reply answers its own Request.** In every reachable state the KEM material of a Reply is that of its Request;
its signature covers the credentials of the Request exactly if the optional properties are included; and something is
read that was never set exactly if the handshake of the pair is stale. -/
theorem reply_answers_request (hinj : Function.Injective env.serializeArray)
    {tr : Trace (Authentication κ) (Op × Ambient ρ)} (hr : Run (plugin env).solo tr s) (ha : Allocates amb s)
    (inp : Token) (l r : Handle) (pdata : Octets) :
    (∀ h out signed s', beginHandshakeReply env amb inp r l pdata s = (.ok (h, out, signed), s') →
      ∃ identity handshake, s.localIdentity l = some identity ∧ s'.handshake h = some handshake ∧
        KemAnswered env amb inp out identity handshake ∧
        (Covers env amb inp out identity signed ↔ s.includeOptional = true)) ∧
      ((beginHandshakeReply env amb inp r l pdata s).1 = .error (.fault .uninitialised) ↔
        pdata ≠ [] ∧ StaleFor env amb s inp l r) := by
  have hs := run_referential hr
  constructor
  · intro h out signed s' hrun
    obtain ⟨identity, handshake, hl, hh, hreply⟩ := beginHandshakeReply_reply ha hs hrun
    exact ⟨identity, handshake, hl, hh, hreply.kem, hreply.covers_iff hinj⟩
  · constructor
    · intro hrun
      by_contra hnot
      have hstops : Act.StopsWith (· ≠ .fault .uninitialised) (beginHandshakeReply env amb inp r l pdata) s :=
        beginHandshakeReply_stops (by simp) ha hs (fun _ _ _ => .inl (by simp)) fun hpdata => .inr fun hstale =>
          hnot ⟨hpdata, hstale⟩
      exact hstops _ hrun rfl
    · rintro ⟨hpdata, hstale⟩
      exact beginHandshakeReply_stale hs.sound hpdata hstale

theorem reply_answers_request_sample :
    ∃ identity handshake out signed, KemAnswered Ideal.env (Ideal.ambient 10) Ideal.request out identity handshake ∧
      Covers Ideal.env (Ideal.ambient 10) Ideal.request out identity signed := by
  have ha : Allocates (Ideal.ambient 10) (Ideal.after Ideal.start Ideal.bobCalls) := by decide +kernel
  rcases hrun : beginHandshakeReply Ideal.env (Ideal.ambient 10) Ideal.request 2 1 (Ideal.pdata 5)
    (Ideal.after Ideal.start Ideal.bobCalls) with ⟨_ | ⟨h, out, signed⟩, s'⟩
  · have hok : (beginHandshakeReply Ideal.env (Ideal.ambient 10) Ideal.request 2 1 (Ideal.pdata 5)
        (Ideal.after Ideal.start Ideal.bobCalls)).1.isOk := by decide +kernel
    rw [hrun] at hok
    cases hok
  · obtain ⟨identity, handshake, -, -, hkem, hcovers⟩ := (reply_answers_request Ideal.serialize_injective
      (Ideal.calls_run true .mlKem512 Ideal.bobCalls) ha Ideal.request 1 2 (Ideal.pdata 5)).1 h out signed s' hrun
    exact ⟨identity, handshake, out, signed, hkem, hcovers.2 (by decide +kernel)⟩

/-- A second Request stops at a pointer that was never set; without the optional properties the signature leaves the
credentials of the Request out. -/
theorem reply_answers_request_fails :
    (¬ ∀ tr s amb inp l r pdata, Run (plugin Ideal.env).solo tr s → Allocates amb s →
        (beginHandshakeReply Ideal.env amb inp r l pdata s).1 ≠ .error (.fault .uninitialised)) ∧
      ¬ ∀ tr s amb inp l r pdata h out signed s' identity, Run (plugin Ideal.env).solo tr s → Allocates amb s →
        beginHandshakeReply Ideal.env amb inp r l pdata s = (.ok (h, out, signed), s') →
        s.localIdentity l = some identity → Covers Ideal.env amb inp out identity signed := by
  constructor
  · intro h
    refine h _ _ (Ideal.ambient 21) Ideal.request 1 2 (Ideal.pdata 5)
      (Ideal.calls_run true .mlKem512 (Ideal.bobCalls ++ [Ideal.replyCall 10 Ideal.request 5])) ?_ (faultOf_eq_some.1 ?_)
    · decide +kernel
    · decide +kernel
  · intro hall
    have ha : Allocates (Ideal.ambient 10) (Ideal.after Ideal.plainStart Ideal.bobCalls) := by decide +kernel
    have hreach := Ideal.calls_run false .mlKem512 Ideal.bobCalls
    rcases hrun : beginHandshakeReply Ideal.env (Ideal.ambient 10) Ideal.plainRequest 2 1 (Ideal.pdata 5)
      (Ideal.after Ideal.plainStart Ideal.bobCalls) with ⟨_ | ⟨h, out, signed⟩, s'⟩
    · have hok : (beginHandshakeReply Ideal.env (Ideal.ambient 10) Ideal.plainRequest 2 1 (Ideal.pdata 5)
          (Ideal.after Ideal.plainStart Ideal.bobCalls)).1.isOk := by decide +kernel
      rw [hrun] at hok
      cases hok
    · obtain ⟨identity, handshake, hl, -, hreply⟩ := beginHandshakeReply_reply ha (run_referential hreach) hrun
      have hoptional := (hreply.covers_iff Ideal.serialize_injective).1
        (hall _ _ _ _ _ _ _ _ _ _ _ _ hreach ha hrun hl)
      revert hoptional
      decide +kernel

end PqsecDds.CycloneDDS
