import PqsecDds.CycloneDDS.Stability

/-!
# What a rejected token leaves behind

`validate_handshake_token_impl` writes into the remote identity, the relation and the handshake while it checks, and
`validate_handshake_token` takes back the certificate only. The `read` functions are the checks without the writes;
`Leaves` says which writes a rejected token gets to, and `Harmless` when none of them shows.
-/

namespace PqsecDds.CycloneDDS

open Lib Context

variable {κ ρ : Type} {env : Env κ ρ} {amb : Ambient ρ} {s s' : Authentication κ} {h l r a : Handle} {op : Op}
variable {c c' : Context κ} {m : Token} {t : HandshakeTokenType} {optional : Bool}
variable {trusted : List X509}

/-! ## The checks of the validator -/

section Read

variable (env : Env κ ρ) (amb : Ambient ρ) (trusted : List X509) (m : Token) (t : HandshakeTokenType) (c : Context κ)

/-- The certificate of a Request or a Reply. -/
def Context.readCertificate : Except SecurityException X509 := do
  checkClassId m t
  let cId ← findRequiredNonemptyBinprop m "c.id"
  loadX509CertificateFromBinprop env amb cId c.localIdentity.identityCa c.localIdentity.crl trusted

/-- The certificate, if all credentials are in order. -/
def Context.readCredentials : Except SecurityException X509 := do
  let identityCert ← c.readCertificate env amb trusted m t
  let _ ← findRequiredBinprop m "c.perm"
  let cPdata ← findRequiredBinprop m "c.pdata"
  validatePdata env amb cPdata.value identityCert
  let cDsignAlgo ← findRequiredNonemptyBinprop m "c.dsign_algo"
  let dsignAlgoKind := getDsignAlgoFromOctseq cDsignAlgo.value
  require (dsignAlgoKind ≠ .unknown) (propertyFailure "c.dsign_algo" " not supported")
  require (dsignAlgoKind = getAuthenticationAlgoKind identityCert)
    (propertyFailure "c.dsign_algo" " does not match the certificate public key")
  let cKagreeAlgo ← findRequiredNonemptyBinprop m "c.kagree_algo"
  let kagreeAlgoKind := getKagreeAlgoFromOctseq cKagreeAlgo.value
  require (kagreeAlgoKind ≠ .unknown) (propertyFailure "c.kagree_algo" " not supported")
  require (kagreeAlgoKind = c.localIdentity.kagreeAlgoKind)
    (propertyFailure "c.kagree_algo" " does not match the locally configured KEM")
  return identityCert

/-- The challenge of the remote side, if all before it is in order. -/
def Context.readRchallenge : Except SecurityException Octets := do
  let _ ← c.readCredentials env amb trusted m t
  match t with
  | .req => do
    let _ ← findKemPublic m c.localIdentity.kagreeAlgoKind
    let challenge1 ← findRequiredBinpropExactsize m "challenge1" 32
    return challenge1.value
  | _ => do
    let parts ← findSignedParts m c.localIdentity.kagreeAlgoKind
    return parts.challenge2

/-- All of a Reply but its signature. -/
def Context.readUnsigned : Except SecurityException Unit := do
  let challenge2 ← c.readRchallenge env amb trusted m .reply
  require (c.relation.rchallenge.all fun x => x.1 = challenge2)
    (propertyFailure "challenge2" " does not match future_challenge")
  checkHash m "hash_c1" c.handshake.hashC1
  checkHash m "hash_c2" (credentialHash env m)
  checkLchallenge c (m.value "challenge1")

end Read

/-- What a rejected Request or Reply leaves behind. -/
inductive Leaves (env : Env κ ρ) (amb : Ambient ρ) (trusted : List X509) (m : Token) (t : HandshakeTokenType)
    (c : Context κ) : Context κ → Prop
  | nothing (unread : ∀ cert, c.readCertificate env amb trusted m t ≠ .ok cert) :
      Leaves env amb trusted m t c (c.setIdentityCert none)
  | certificate {cert : X509} (read : c.readCertificate env amb trusted m t = .ok cert)
      (missing : ∀ p, findRequiredBinprop m "c.perm" ≠ .ok p) :
      Leaves env amb trusted m t c (c.setIdentityCert none)
  | permissions {cert : X509} {p : BinaryProperty} (read : c.readCertificate env amb trusted m t = .ok cert)
      (found : findRequiredBinprop m "c.perm" = .ok p)
      (rejected : ∀ cert, c.readCredentials env amb trusted m t ≠ .ok cert) :
      Leaves env amb trusted m t c ((c.setPermissionsDocument p.value).setIdentityCert none)
  | credentials {cert : X509} (read : c.readCredentials env amb trusted m t = .ok cert)
      (rejected : ∀ value, c.readRchallenge env amb trusted m t = .ok value →
        ∃ x, c.relation.rchallenge = some x ∧ x.1 ≠ value) :
      Leaves env amb trusted m t c ((c.withCredentials env m t cert).setIdentityCert none)
  | challenge {cert : X509} {value : Octets} {x : Challenge} (read : c.readCredentials env amb trusted m t = .ok cert)
      (readRchallenge : c.readRchallenge env amb trusted m t = .ok value) (pinned : ∀ y, c.relation.rchallenge = some y → y = x)
      (rejected : t = .reply → c.readUnsigned env amb trusted m ≠ .ok ()) :
      Leaves env amb trusted m t c (((c.withCredentials env m t cert).setRchallenge x).setIdentityCert none)
  | algorithms {cert : X509} {value : Octets} {x : Challenge} (reply : t = .reply)
      (read : c.readCredentials env amb trusted m t = .ok cert)
      (readRchallenge : c.readRchallenge env amb trusted m t = .ok value) (pinned : ∀ y, c.relation.rchallenge = some y → y = x)
      (readUnsigned : c.readUnsigned env amb trusted m = .ok ()) :
      Leaves env amb trusted m t c ((c.accepted env m t cert x).setIdentityCert none)

/-- Either a check fails and the run ends with the state it had, or the run goes on with its value. -/
theorem check_bind {σ α β : Type} {x : Except SecurityException α} {f : α → Act σ Stop β} {u u' : σ}
    {res : Except Stop β} (hrun : (check x >>= f) u = (res, u')) :
    (∃ e, x = .error e ∧ res = .error (.failed e) ∧ u' = u) ∨ ∃ v, x = .ok v ∧ f v u = (res, u') := by
  rcases x with e | v
  · obtain ⟨rfl, rfl⟩ := Prod.mk.inj hrun
    exact .inl ⟨e, rfl, rfl, rfl⟩
  · exact .inr ⟨v, rfl, hrun⟩

theorem checkIn_eq {α : Type} {x : Context κ → Except SecurityException α} {res : Except Stop α}
    (hrun : checkIn x c = (res, c')) : c' = c ∧ res = (x c).mapError .failed := by
  rcases Act.bind_eq.1 hrun with ⟨e, h₁, -⟩ | ⟨c₁, c₂, h₁, h₂⟩
  · cases h₁
  · obtain ⟨rfl, rfl⟩ := Act.read_ok.1 h₁
    exact check_eq h₂

theorem checkIn_bind {α β : Type} {x : Context κ → Except SecurityException α} {f : α → HandshakeCall κ β}
    {res : Except Stop β} (hrun : (checkIn x >>= f) c = (res, c')) :
    (∃ e, x c = .error e ∧ res = .error (.failed e) ∧ c' = c) ∨ ∃ v, x c = .ok v ∧ f v c = (res, c') := by
  rcases hx : x c with e | v
  · rcases Act.bind_eq.1 hrun with ⟨e', h₁, rfl⟩ | ⟨v, c₁, h₁, -⟩
    · obtain ⟨rfl, he⟩ := checkIn_eq h₁
      rw [hx] at he
      obtain rfl := Except.error.inj he
      exact .inl ⟨e, rfl, rfl, rfl⟩
    · obtain ⟨-, he⟩ := checkIn_eq h₁
      rw [hx] at he
      cases he
  · rcases Act.bind_eq.1 hrun with ⟨e', h₁, rfl⟩ | ⟨v', c₁, h₁, hf⟩
    · obtain ⟨-, he⟩ := checkIn_eq h₁
      rw [hx] at he
      cases he
    · obtain ⟨rfl, he⟩ := checkIn_eq h₁
      rw [hx] at he
      obtain rfl := Except.ok.inj he
      exact .inr ⟨v', rfl, hf⟩

/-- `acceptCredentials` makes the checks of `readCredentials`. -/
theorem acceptCredentials_cases {res : Except Stop CredentialsInfo} {u : Unit}
    (hclass : checkClassId m t = .ok u) (hrun : acceptCredentials env amb trusted m t c = (res, c')) :
    ((∃ e, res = .error e) ∧ Leaves env amb trusted m t c (c'.setIdentityCert none)) ∨
      ∃ cert info, c.readCredentials env amb trusted m t = .ok cert ∧ res = .ok info ∧
        c' = c.withCredentials env m t cert ∧ info = ⟨getAuthenticationAlgoKind cert, c.localIdentity.kagreeAlgoKind,
          binaryProperty "c.pdata" (m.value "c.pdata")⟩ := by
  rcases check_bind hrun with ⟨e, hid, rfl, rfl⟩ | ⟨cId, hid, hrun₁⟩
  · refine .inl ⟨⟨_, rfl⟩, .nothing fun cert hread => ?_⟩
    simp only [readCertificate, hclass, hid, bind, Except.bind, reduceCtorEq] at hread
  rcases Act.bind_eq.1 hrun₁ with ⟨e, h₁, -⟩ | ⟨localIdentity, c₁, h₁, hrun₂⟩
  · cases h₁
  obtain ⟨rfl, rfl⟩ := Act.read_ok.1 h₁
  rcases check_bind hrun₂ with ⟨e, hload, rfl, rfl⟩ | ⟨cert, hload, hrun₃⟩
  · refine .inl ⟨⟨_, rfl⟩, .nothing fun cert hread => ?_⟩
    simp only [readCertificate, hclass, hid, hload, bind, Except.bind, reduceCtorEq] at hread
  have hread : c.readCertificate env amb trusted m t = .ok cert := by
    simp [readCertificate, hclass, hid, hload, bind, Except.bind]
  rcases Act.bind_eq.1 hrun₃ with ⟨e, h₂, -⟩ | ⟨_, c₂, h₂, hrun₄⟩
  · cases h₂
  obtain rfl := Act.write_ok.1 h₂
  rcases check_bind hrun₄ with ⟨e, hperm, rfl, rfl⟩ | ⟨cPerm, hperm, hrun₅⟩
  · refine .inl ⟨⟨_, rfl⟩, .certificate hread fun p hp => ?_⟩
    rw [hperm] at hp
    cases hp
  rcases Act.bind_eq.1 hrun₅ with ⟨e, h₃, -⟩ | ⟨_, c₃, h₃, hrun₆⟩
  · cases h₃
  obtain rfl := Act.write_ok.1 h₃
  have hleaves : (∀ cert, c.readCredentials env amb trusted m t ≠ .ok cert) → Leaves env amb trusted m t c
      (((c.setIdentityCert (some cert)).setPermissionsDocument cPerm.value).setIdentityCert none) := by
    intro hrejected
    have heq : ((c.setIdentityCert (some cert)).setPermissionsDocument cPerm.value).setIdentityCert none =
        (c.setPermissionsDocument cPerm.value).setIdentityCert none := by
      unfold setPermissionsDocument
      split <;> rfl
    rw [heq]
    exact .permissions hread hperm hrejected
  rcases check_bind hrun₆ with ⟨e, hpdata, rfl, rfl⟩ | ⟨cPdata, hpdata, hrun₇⟩
  · refine .inl ⟨⟨_, rfl⟩, hleaves fun cert hcred => ?_⟩
    simp only [readCredentials, hread, hperm, hpdata, bind, Except.bind, reduceCtorEq] at hcred
  rcases check_bind hrun₇ with ⟨e, hvalid, rfl, rfl⟩ | ⟨_, hvalid, hrun₈⟩
  · refine .inl ⟨⟨_, rfl⟩, hleaves fun cert hcred => ?_⟩
    simp only [readCredentials, hread, hperm, hpdata, hvalid, bind, Except.bind, reduceCtorEq] at hcred
  rcases check_bind hrun₈ with ⟨e, hdsign, rfl, rfl⟩ | ⟨cDsign, hdsign, hrun₉⟩
  · refine .inl ⟨⟨_, rfl⟩, hleaves fun cert hcred => ?_⟩
    simp only [readCredentials, hread, hperm, hpdata, hvalid, hdsign, bind, Except.bind, reduceCtorEq] at hcred
  rcases check_bind hrun₉ with ⟨e, hknown, rfl, rfl⟩ | ⟨_, hknown, hrun₁₀⟩
  · refine .inl ⟨⟨_, rfl⟩, hleaves fun cert hcred => ?_⟩
    simp only [readCredentials, hread, hperm, hpdata, hvalid, hdsign, hknown, bind, Except.bind, reduceCtorEq] at hcred
  rcases check_bind hrun₁₀ with ⟨e, hmatch, rfl, rfl⟩ | ⟨_, hmatch, hrun₁₁⟩
  · refine .inl ⟨⟨_, rfl⟩, hleaves fun cert hcred => ?_⟩
    simp only [readCredentials, hread, hperm, hpdata, hvalid, hdsign, hknown, hmatch, bind, Except.bind,
      reduceCtorEq] at hcred
  rcases check_bind hrun₁₁ with ⟨e, hkagree, rfl, rfl⟩ | ⟨cKagree, hkagree, hrun₁₂⟩
  · refine .inl ⟨⟨_, rfl⟩, hleaves fun cert hcred => ?_⟩
    simp only [readCredentials, hread, hperm, hpdata, hvalid, hdsign, hknown, hmatch, hkagree, bind, Except.bind,
      reduceCtorEq] at hcred
  rcases check_bind hrun₁₂ with ⟨e, hkem, rfl, rfl⟩ | ⟨_, hkem, hrun₁₃⟩
  · refine .inl ⟨⟨_, rfl⟩, hleaves fun cert hcred => ?_⟩
    simp only [readCredentials, hread, hperm, hpdata, hvalid, hdsign, hknown, hmatch, hkagree, hkem, bind,
      Except.bind, reduceCtorEq] at hcred
  rcases check_bind hrun₁₃ with ⟨e, hlocal, rfl, rfl⟩ | ⟨_, hlocal, hrun₁₄⟩
  · refine .inl ⟨⟨_, rfl⟩, hleaves fun cert hcred => ?_⟩
    simp only [readCredentials, hread, hperm, hpdata, hvalid, hdsign, hknown, hmatch, hkagree, hkem, hlocal, bind,
      Except.bind, reduceCtorEq] at hcred
  rcases res with e | info
  · cases hrun₁₄
  obtain ⟨cert', hacc, hstate, hinfo⟩ := acceptCredentials_ok hrun
  have hcert : cert' = cert := by
    obtain ⟨rfl, -⟩ := findRequiredNonemptyBinprop_ok hid
    exact Except.ok.inj (hacc.loaded.symm.trans hload)
  subst hcert
  refine .inr ⟨cert', info, ?_, rfl, hstate, hinfo⟩
  simp only [readCredentials, hread, hperm, hpdata, hvalid, hdsign, hknown, hmatch, hkagree, hkem, hlocal, bind, Except.bind,
    pure, Except.pure]

theorem checkRchallenge_cases {value : Octets} {res : Except Stop PUnit} (htype : t ≠ .final)
    (hrun : checkRchallenge value t c = (res, c')) :
    ((∃ e, res = .error e) ∧ c' = c ∧ ∃ x, c.relation.rchallenge = some x ∧ x.1 ≠ value) ∨
      ∃ x, res = .ok ⟨⟩ ∧ c' = c.setRchallenge x ∧ (∀ y, c.relation.rchallenge = some y → y = x) ∧
        (c.relation.rchallenge.all fun x => x.1 = value) = true := by
  rcases Act.bind_eq.1 hrun with ⟨e, h₁, -⟩ | ⟨rchallenge, c₁, h₁, hrun₁⟩
  · cases h₁
  obtain ⟨rfl, rfl⟩ := Act.read_ok.1 h₁
  rcases hr : c.relation.rchallenge with _ | x
  · simp only [hr, htype, if_false] at hrun₁
    obtain ⟨rfl, rfl⟩ := Prod.mk.inj hrun₁
    exact .inr ⟨toChallenge value, rfl, rfl, by simp, rfl⟩
  · simp only [hr] at hrun₁
    obtain ⟨rfl, hres⟩ := check_eq hrun₁
    by_cases hx : x.1 = value
    · rw [require, if_pos (decide_eq_true hx)] at hres
      refine .inr ⟨x, hres, ?_, fun y hy => (Option.some.inj hy).symm, decide_eq_true hx⟩
      rw [setRchallenge, ← hr]
    · rw [require, if_neg (by simpa using hx)] at hres
      exact .inl ⟨⟨_, hres⟩, rfl, x, rfl, hx⟩

theorem validateRequest_leaves {e : Stop} (hrun : validateRequest env amb trusted m c = (.error e, c')) :
    Leaves env amb trusted m .req c (c'.setIdentityCert none) := by
  rcases check_bind hrun with ⟨e', hclass, -, rfl⟩ | ⟨_, hclass, hrun₁⟩
  · refine .nothing fun cert hread => ?_
    simp only [readCertificate, hclass, bind, Except.bind, reduceCtorEq] at hread
  rcases Act.bind_eq.1 hrun₁ with ⟨e', hcred, -⟩ | ⟨info, c₁, hcred, hrun₂⟩
  · rcases acceptCredentials_cases hclass hcred with ⟨-, hleaves⟩ | ⟨_, _, -, he, -⟩
    · exact hleaves
    · cases he
  rcases acceptCredentials_cases hclass hcred with ⟨⟨_, he⟩, -⟩ | ⟨cert, info', hread, he, rfl, rfl⟩
  · cases he
  obtain rfl := Except.ok.inj he
  rcases check_bind hrun₂ with ⟨e', hkem, -, rfl⟩ | ⟨kemPublic, hkem, hrun₃⟩
  · refine .credentials hread fun value hvalue => ?_
    simp only [readRchallenge, hread, hkem, bind, Except.bind, reduceCtorEq] at hvalue
  rcases check_bind hrun₃ with ⟨e', hch, -, rfl⟩ | ⟨challenge1, hch, hrun₄⟩
  · refine .credentials hread fun value hvalue => ?_
    simp only [readRchallenge, hread, hkem, hch, bind, Except.bind, reduceCtorEq] at hvalue
  have hvalue : c.readRchallenge env amb trusted m .req = .ok challenge1.value := by
    simp only [readRchallenge, hread, hkem, hch, bind, Except.bind, pure, Except.pure]
  rcases Act.bind_eq.1 hrun₄ with ⟨e', hr, -⟩ | ⟨_, c₂, hr, hrun₅⟩
  · rcases checkRchallenge_cases (by decide) hr with ⟨-, rfl, x, hx, hne⟩ | ⟨_, he, -⟩
    · rw [withCredentials_relation] at hx
      refine .credentials hread fun value hvalue' => ⟨x, hx, ?_⟩
      rwa [← Except.ok.inj (hvalue.symm.trans hvalue')]
    · cases he
  rcases checkRchallenge_cases (by decide) hr with ⟨⟨_, he⟩, -⟩ | ⟨x, -, rfl, hpinned, -⟩
  · cases he
  rw [withCredentials_relation] at hpinned
  rcases checkIn_bind hrun₅ with ⟨e', -, -, rfl⟩ | ⟨_, -, hrun₆⟩
  · exact .challenge hread hvalue hpinned (by simp)
  · obtain ⟨hdsign, hkagree⟩ := acceptCredentials_known hcred
    rw [updateRemote_ok (u := ⟨⟩) |>.2 ⟨hdsign, hkagree, rfl⟩] at hrun₆
    cases hrun₆

theorem withCredentials_hashes (env : Env κ ρ) (c : Context κ) (m : Token) (cert : X509) :
    (c.withCredentials env m .reply cert).handshake.hashC1 = c.handshake.hashC1 ∧
    (c.withCredentials env m .reply cert).handshake.hashC2 = credentialHash env m := by
  simp only [withCredentials, setHash, setPermissionsDocument_handshake, setIdentityCert, and_self]

theorem validateReply_leaves {e : Stop} (hrun : validateReply env amb optional trusted m c = (.error e, c')) :
    Leaves env amb trusted m .reply c (c'.setIdentityCert none) := by
  rcases check_bind hrun with ⟨e', hclass, -, rfl⟩ | ⟨_, hclass, hrun₁⟩
  · refine .nothing fun cert hread => ?_
    simp only [readCertificate, hclass, bind, Except.bind, reduceCtorEq] at hread
  rcases Act.bind_eq.1 hrun₁ with ⟨e', hcred, -⟩ | ⟨info, c₁, hcred, hrun₂⟩
  · rcases acceptCredentials_cases hclass hcred with ⟨-, hleaves⟩ | ⟨_, _, -, he, -⟩
    · exact hleaves
    · cases he
  rcases acceptCredentials_cases hclass hcred with ⟨⟨_, he⟩, -⟩ | ⟨cert, info', hread, he, rfl, rfl⟩
  · cases he
  obtain rfl := Except.ok.inj he
  rcases check_bind hrun₂ with ⟨e', hparts, -, rfl⟩ | ⟨parts, hparts, hrun₃⟩
  · refine .credentials hread fun value hvalue => ?_
    simp only [readRchallenge, hread, hparts, bind, Except.bind, reduceCtorEq] at hvalue
  have hvalue : c.readRchallenge env amb trusted m .reply = .ok parts.challenge2 := by
    simp only [readRchallenge, hread, hparts, bind, Except.bind, pure, Except.pure]
  obtain ⟨rfl, -, -, h1, h2⟩ := findSignedParts_ok hparts
  rcases Act.bind_eq.1 hrun₃ with ⟨e', hr, -⟩ | ⟨_, c₂, hr, hrun₄⟩
  · rcases checkRchallenge_cases (by decide) hr with ⟨-, rfl, x, hx, hne⟩ | ⟨_, he, -⟩
    · rw [withCredentials_relation] at hx
      refine .credentials hread fun value hvalue' => ⟨x, hx, ?_⟩
      rwa [← Except.ok.inj (hvalue.symm.trans hvalue')]
    · cases he
  rcases checkRchallenge_cases (by decide) hr with ⟨⟨_, he⟩, -⟩ | ⟨x, -, rfl, hpinned, hall⟩
  · cases he
  rw [withCredentials_relation] at hpinned hall
  obtain ⟨hhash₁, hhash₂⟩ := withCredentials_hashes env c m cert
  have hleaves : c.readUnsigned env amb trusted m ≠ .ok () → Leaves env amb trusted m .reply c
      (((c.withCredentials env m .reply cert).setRchallenge x).setIdentityCert none) :=
    fun hrejected => .challenge hread hvalue hpinned fun _ => hrejected
  rcases checkIn_bind hrun₄ with ⟨e', hc1, -, rfl⟩ | ⟨_, hc1, hrun₅⟩
  · refine hleaves fun hunsigned => ?_
    have hc1' : checkHash m "hash_c1" c.handshake.hashC1 = .error e' := by
      rw [← hhash₁]
      exact hc1
    simp only [readUnsigned, hvalue, require, if_pos hall, hc1', bind, Except.bind, reduceCtorEq] at hunsigned
  have hc1' : checkHash m "hash_c1" c.handshake.hashC1 = .ok () := by
    rw [← hhash₁]
    exact hc1
  rcases checkIn_bind hrun₅ with ⟨e', hc2, -, rfl⟩ | ⟨_, hc2, hrun₆⟩
  · refine hleaves fun hunsigned => ?_
    have hc2' : checkHash m "hash_c2" (credentialHash env m) = .error e' := by
      rw [← hhash₂]
      exact hc2
    simp only [readUnsigned, hvalue, require, if_pos hall, hc1', hc2', bind, Except.bind, reduceCtorEq] at hunsigned
  have hc2' : checkHash m "hash_c2" (credentialHash env m) = .ok () := by
    rw [← hhash₂]
    exact hc2
  have hlch : checkLchallenge ((c.withCredentials env m .reply cert).setRchallenge x) m.parts.challenge1 =
      checkLchallenge c (m.value "challenge1") := by
    have hrel : ((c.withCredentials env m .reply cert).setRchallenge x).relation.lchallenge = c.relation.lchallenge := by
      have hrelation : (c.withCredentials env m .reply cert).relation = c.relation := withCredentials_relation
      rw [← hrelation]
      rfl
    rw [checkLchallenge, hrel]
    rfl
  rcases checkIn_bind hrun₆ with ⟨e', hl, -, rfl⟩ | ⟨_, hl, hrun₇⟩
  · refine hleaves fun hunsigned => ?_
    rw [hlch] at hl
    simp only [readUnsigned, hvalue, require, if_pos hall, hc1', hc2', hl, bind, Except.bind, reduceCtorEq] at hunsigned
  rw [hlch] at hl
  obtain ⟨hdsign, hkagree⟩ := acceptCredentials_known hcred
  rcases Act.bind_eq.1 hrun₇ with ⟨e', h₂, -⟩ | ⟨_, c₃, h₂, hsig⟩
  · rw [updateRemote_ok (u := ⟨⟩) |>.2 ⟨hdsign, hkagree, rfl⟩] at h₂
    cases h₂
  obtain ⟨-, -, rfl⟩ := updateRemote_ok.1 h₂
  obtain ⟨rfl, -⟩ := checkIn_eq hsig
  refine .algorithms rfl hread hvalue hpinned ?_
  simp only [readUnsigned, hvalue, require, if_pos hall, hc1', hc2', hl, bind, Except.bind]

/-- A Request or Reply that does not validate. -/
theorem validateHandshakeToken_leaves {e : Stop} (htype : t ≠ .final)
    (hrun : validateHandshakeToken env amb optional trusted m t c = (.error e, c')) :
    Leaves env amb trusted m t c c' := by
  obtain ⟨c₁, hrun₁, rfl⟩ := Act.onStop_eq.1 hrun
  cases t with
  | req => exact validateRequest_leaves hrun₁
  | reply => exact validateReply_leaves hrun₁
  | final => exact absurd rfl htype

/-! ## When nothing of it shows -/

/-- The challenges, what is kept of the remote identity's credentials, and of a handshake that was there before the
hashes and the secret, are the same. -/
structure Context.SameTrace (live : Bool) (c c' : Context κ) : Prop where
  lchallenge : c'.relation.lchallenge = c.relation.lchallenge
  rchallenge : c'.relation.rchallenge = c.relation.rchallenge
  identityCert : c'.remoteIdentity.identityCert = c.remoteIdentity.identityCert
  permissionsDocument : c'.remoteIdentity.permissionsDocument = c.remoteIdentity.permissionsDocument
  pdata : c'.remoteIdentity.pdata = c.remoteIdentity.pdata
  dsignAlgoKind : c'.remoteIdentity.dsignAlgoKind = c.remoteIdentity.dsignAlgoKind
  kagreeAlgoKind : c'.remoteIdentity.kagreeAlgoKind = c.remoteIdentity.kagreeAlgoKind
  hashC1 : live = true → c'.handshake.hashC1 = c.handshake.hashC1
  hashC2 : live = true → c'.handshake.hashC2 = c.handshake.hashC2
  sharedSecret : live = true → c'.handshake.sharedSecret = c.handshake.sharedSecret

/-- The hash that the credentials of the token go into. -/
def Context.hashFor (t : HandshakeTokenType) (c : Context κ) : HashValue :=
  if t = .req then c.handshake.hashC1 else c.handshake.hashC2

/-- No certificate is stored, and what the checks before the one that fails store is stored already. -/
structure Context.Harmless (env : Env κ ρ) (amb : Ambient ρ) (trusted : List X509) (m : Token) (t : HandshakeTokenType)
    (live : Bool) (c : Context κ) : Prop where
  identityCert : c.remoteIdentity.identityCert = none
  permissionsDocument : ∀ cert p, c.readCertificate env amb trusted m t = .ok cert →
    findRequiredBinprop m "c.perm" = .ok p → p.value = [] ∨ stringFromData p.value = c.remoteIdentity.permissionsDocument
  hash : live = true → ∀ cert, c.readCredentials env amb trusted m t = .ok cert →
    c.hashFor t = credentialHash env m
  rchallenge : ∀ value, c.readRchallenge env amb trusted m t = .ok value → c.relation.rchallenge ≠ none
  algorithms : t = .reply → c.readUnsigned env amb trusted m = .ok () →
    ∀ cert, c.readCertificate env amb trusted m t = .ok cert →
      c.remoteIdentity.dsignAlgoKind = getAuthenticationAlgoKind cert ∧
      c.remoteIdentity.kagreeAlgoKind = c.localIdentity.kagreeAlgoKind ∧ c.remoteIdentity.pdata = m.value "c.pdata"

theorem readCredentials_ok {cert : X509} (hread : c.readCredentials env amb trusted m t = .ok cert) :
    c.readCertificate env amb trusted m t = .ok cert ∧
      findRequiredBinprop m "c.perm" = .ok (binaryProperty "c.perm" (m.value "c.perm")) := by
  simp only [readCredentials, bind_ok, pure_ok] at hread
  obtain ⟨cert', hcert, p, hp, -, -, -, -, -, -, -, -, -, -, -, -, -, -, -, -, rfl⟩ := hread
  obtain ⟨rfl, -⟩ := findRequiredBinprop_ok hp
  exact ⟨hcert, hp⟩

theorem setPermissionsDocument_eq (value : Octets) (c : Context κ) : c.setPermissionsDocument value =
    { c with remoteIdentity.permissionsDocument :=
        if value.isEmpty then c.remoteIdentity.permissionsDocument else stringFromData value } := by
  unfold setPermissionsDocument
  split <;> rfl

theorem document_same {value : Octets} {document : Option CStr} :
    (if value.isEmpty then document else stringFromData value) = document ↔ value = [] ∨ stringFromData value = document := by
  cases value <;> simp

theorem sameTrace_nothing {live : Bool} :
    c.SameTrace live (c.setIdentityCert none) ↔ c.remoteIdentity.identityCert = none := by
  constructor
  · intro hsame
    exact hsame.identityCert.symm
  · intro hnone
    exact ⟨rfl, rfl, hnone.symm, rfl, rfl, rfl, rfl, fun _ => rfl, fun _ => rfl, fun _ => rfl⟩

theorem sameTrace_permissions {live : Bool} {value : Octets} :
    c.SameTrace live ((c.setPermissionsDocument value).setIdentityCert none) ↔ c.remoteIdentity.identityCert = none ∧
      (value = [] ∨ stringFromData value = c.remoteIdentity.permissionsDocument) := by
  rw [setPermissionsDocument_eq, ← document_same]
  constructor
  · intro hsame
    exact ⟨hsame.identityCert.symm, hsame.permissionsDocument⟩
  · rintro ⟨hnone, hdocument⟩
    exact ⟨rfl, rfl, hnone.symm, hdocument, rfl, rfl, rfl, fun _ => rfl, fun _ => rfl, fun _ => rfl⟩

theorem sameTrace_credentials {live : Bool} {cert : X509} :
    c.SameTrace live ((c.withCredentials env m t cert).setIdentityCert none) ↔ c.remoteIdentity.identityCert = none ∧
      (m.value "c.perm" = [] ∨ stringFromData (m.value "c.perm") = c.remoteIdentity.permissionsDocument) ∧
      (live = true → c.hashFor t = credentialHash env m) := by
  rw [withCredentials, setPermissionsDocument_eq, ← document_same]
  constructor
  · intro hsame
    refine ⟨?_, ?_, fun hlive => ?_⟩
    · have h := hsame.identityCert
      cases t <;> exact h.symm
    · have h := hsame.permissionsDocument
      cases t <;> exact h
    · have h₁ := hsame.hashC1 hlive
      have h₂ := hsame.hashC2 hlive
      cases t
      · exact h₁.symm
      · exact h₂.symm
      · exact h₂.symm
  · rintro ⟨hnone, hdocument, hhash⟩
    cases t
    · exact ⟨rfl, rfl, hnone.symm, hdocument, rfl, rfl, rfl, fun hlive => (hhash hlive).symm, fun _ => rfl, fun _ => rfl⟩
    · exact ⟨rfl, rfl, hnone.symm, hdocument, rfl, rfl, rfl, fun _ => rfl, fun hlive => (hhash hlive).symm, fun _ => rfl⟩
    · exact ⟨rfl, rfl, hnone.symm, hdocument, rfl, rfl, rfl, fun _ => rfl, fun hlive => (hhash hlive).symm, fun _ => rfl⟩

theorem sameTrace_challenge {live : Bool} {c₁ : Context κ} {x : Challenge}
    (hpinned : ∀ y, c.relation.rchallenge = some y → y = x) (hrel : c₁.relation = c.relation) :
    c.SameTrace live ((c₁.setRchallenge x).setIdentityCert none) ↔
      c.SameTrace live (c₁.setIdentityCert none) ∧ c.relation.rchallenge ≠ none := by
  constructor
  · intro hsame
    have hr : some x = c.relation.rchallenge := hsame.rchallenge
    refine ⟨⟨hsame.lchallenge, ?_, hsame.identityCert, hsame.permissionsDocument, hsame.pdata, hsame.dsignAlgoKind,
      hsame.kagreeAlgoKind, hsame.hashC1, hsame.hashC2, hsame.sharedSecret⟩, ?_⟩
    · change c₁.relation.rchallenge = _
      rw [hrel]
    · rw [← hr]
      simp
  · rintro ⟨hsame, hne⟩
    obtain ⟨y, hy⟩ := Option.ne_none_iff_exists'.1 hne
    refine ⟨hsame.lchallenge, ?_, hsame.identityCert, hsame.permissionsDocument, hsame.pdata, hsame.dsignAlgoKind,
      hsame.kagreeAlgoKind, hsame.hashC1, hsame.hashC2, hsame.sharedSecret⟩
    rw [hy, hpinned y hy]
    rfl

theorem sameTrace_algorithms {live : Bool} {c₁ : Context κ} {d k : AuthAlgoKind} {pdata : Octets}
    (hr : c₁.remoteIdentity.dsignAlgoKind = c.remoteIdentity.dsignAlgoKind ∧
      c₁.remoteIdentity.kagreeAlgoKind = c.remoteIdentity.kagreeAlgoKind ∧
      c₁.remoteIdentity.pdata = c.remoteIdentity.pdata) :
    c.SameTrace live ((c₁.setAlgorithms d k pdata).setIdentityCert none) ↔
      c.SameTrace live (c₁.setIdentityCert none) ∧ c.remoteIdentity.dsignAlgoKind = d ∧
        c.remoteIdentity.kagreeAlgoKind = k ∧ c.remoteIdentity.pdata = pdata := by
  obtain ⟨hd, hk, hp⟩ := hr
  constructor
  · intro hsame
    exact ⟨⟨hsame.lchallenge, hsame.rchallenge, hsame.identityCert, hsame.permissionsDocument, hp, hd, hk, hsame.hashC1,
      hsame.hashC2, hsame.sharedSecret⟩, hsame.dsignAlgoKind.symm, hsame.kagreeAlgoKind.symm, hsame.pdata.symm⟩
  · rintro ⟨hsame, hd', hk', hp'⟩
    exact ⟨hsame.lchallenge, hsame.rchallenge, hsame.identityCert, hsame.permissionsDocument, hp'.symm, hd'.symm, hk'.symm,
      hsame.hashC1, hsame.hashC2, hsame.sharedSecret⟩

theorem readRchallenge_ok {value : Octets} (hread : c.readRchallenge env amb trusted m t = .ok value) :
    ∃ cert, c.readCredentials env amb trusted m t = .ok cert := by
  obtain ⟨cert, hcert, -⟩ := bind_ok.1 hread
  exact ⟨cert, hcert⟩

theorem readUnsigned_ok {u : Unit} (hread : c.readUnsigned env amb trusted m = .ok u) :
    ∃ value, c.readRchallenge env amb trusted m .reply = .ok value ∧
      ∀ x, c.relation.rchallenge = some x → x.1 = value := by
  obtain ⟨value, hvalue, hread⟩ := bind_ok.1 hread
  obtain ⟨_, hall, -⟩ := bind_ok.1 hread
  refine ⟨value, hvalue, fun x hx => ?_⟩
  rw [require_ok, hx] at hall
  exact of_decide_eq_true hall

/-- What a rejected token leaves behind does not show exactly if it is harmless. -/
theorem Leaves.sameTrace_iff {live : Bool} (hleaves : Leaves env amb trusted m t c c') :
    c.SameTrace live c' ↔ c.Harmless env amb trusted m t live := by
  have hcredentials : ∀ {cert}, c.readCredentials env amb trusted m t = .ok cert →
      (c.SameTrace live ((c.withCredentials env m t cert).setIdentityCert none) ↔ c.remoteIdentity.identityCert = none ∧
        (∀ cert p, c.readCertificate env amb trusted m t = .ok cert → findRequiredBinprop m "c.perm" = .ok p →
          p.value = [] ∨ stringFromData p.value = c.remoteIdentity.permissionsDocument) ∧
        (live = true → ∀ cert, c.readCredentials env amb trusted m t = .ok cert →
          c.hashFor t = credentialHash env m)) := by
    intro cert hread
    obtain ⟨hcert, hperm⟩ := readCredentials_ok hread
    rw [sameTrace_credentials]
    refine and_congr_right fun _ => and_congr ⟨fun hdocument cert' p _ hp => ?_, fun hdocument => ?_⟩
      ⟨fun hhash hlive _ _ => hhash hlive, fun hhash hlive => hhash hlive cert hread⟩
    · obtain rfl := Except.ok.inj (hperm.symm.trans hp)
      exact hdocument
    · exact hdocument cert _ hcert hperm
  cases hleaves with
  | nothing unread =>
    rw [sameTrace_nothing]
    constructor
    · intro hnone
      refine ⟨hnone, fun cert p hcert _ => absurd hcert (unread cert), fun _ cert hcred => ?_, fun value hvalue => ?_,
        fun _ _ cert hcert => absurd hcert (unread cert)⟩
      · exact absurd (readCredentials_ok hcred).1 (unread cert)
      · obtain ⟨cert, hcred⟩ := readRchallenge_ok hvalue
        exact absurd (readCredentials_ok hcred).1 (unread cert)
    · exact fun hharmless => hharmless.identityCert
  | certificate read missing =>
    rw [sameTrace_nothing]
    constructor
    · intro hnone
      have hcred : ∀ cert, c.readCredentials env amb trusted m t ≠ .ok cert :=
        fun cert hcred => missing _ (readCredentials_ok hcred).2
      refine ⟨hnone, fun cert p _ hp => absurd hp (missing p), fun _ cert h => absurd h (hcred cert), fun value hvalue => ?_,
        fun ht hunsigned => ?_⟩
      · obtain ⟨cert, h⟩ := readRchallenge_ok hvalue
        exact absurd h (hcred cert)
      · subst ht
        obtain ⟨value, hvalue, -⟩ := readUnsigned_ok hunsigned
        obtain ⟨cert, h⟩ := readRchallenge_ok hvalue
        exact absurd h (hcred cert)
    · exact fun hharmless => hharmless.identityCert
  | permissions read found rejected =>
    rw [sameTrace_permissions]
    constructor
    · rintro ⟨hnone, hdocument⟩
      refine ⟨hnone, fun cert p _ hp => ?_, fun _ cert h => absurd h (rejected cert), fun value hvalue => ?_,
        fun ht hunsigned => ?_⟩
      · obtain rfl := Except.ok.inj (found.symm.trans hp)
        exact hdocument
      · obtain ⟨cert, h⟩ := readRchallenge_ok hvalue
        exact absurd h (rejected cert)
      · subst ht
        obtain ⟨value, hvalue, -⟩ := readUnsigned_ok hunsigned
        obtain ⟨cert, h⟩ := readRchallenge_ok hvalue
        exact absurd h (rejected cert)
    · exact fun hharmless => ⟨hharmless.identityCert, hharmless.permissionsDocument _ _ read found⟩
  | credentials read rejected =>
    rw [hcredentials read]
    constructor
    · rintro ⟨hnone, hdocument, hhash⟩
      refine ⟨hnone, hdocument, hhash, fun value hvalue => ?_, fun ht hunsigned => ?_⟩
      · obtain ⟨x, hx, -⟩ := rejected value hvalue
        rw [hx]
        simp
      · subst ht
        obtain ⟨value, hvalue, hall⟩ := readUnsigned_ok hunsigned
        obtain ⟨x, hx, hne⟩ := rejected value hvalue
        exact absurd (hall x hx) hne
    · exact fun hharmless => ⟨hharmless.identityCert, hharmless.permissionsDocument, hharmless.hash⟩
  | challenge read readRchallenge pinned rejected =>
    rw [sameTrace_challenge pinned withCredentials_relation, hcredentials read]
    constructor
    · rintro ⟨⟨hnone, hdocument, hhash⟩, hne⟩
      exact ⟨hnone, hdocument, hhash, fun _ _ => hne, fun ht hunsigned => absurd hunsigned (rejected ht)⟩
    · exact fun hharmless => ⟨⟨hharmless.identityCert, hharmless.permissionsDocument, hharmless.hash⟩,
        hharmless.rchallenge _ readRchallenge⟩
  | @algorithms cert value x reply read readRchallenge pinned readUnsigned =>
    obtain ⟨hcert, -⟩ := readCredentials_ok read
    have hr : ((c.withCredentials env m t cert).setRchallenge x).remoteIdentity.dsignAlgoKind =
          c.remoteIdentity.dsignAlgoKind ∧
        ((c.withCredentials env m t cert).setRchallenge x).remoteIdentity.kagreeAlgoKind =
          c.remoteIdentity.kagreeAlgoKind ∧
        ((c.withCredentials env m t cert).setRchallenge x).remoteIdentity.pdata = c.remoteIdentity.pdata := by
      rw [withCredentials, setPermissionsDocument_eq]
      cases t <;> exact ⟨rfl, rfl, rfl⟩
    rw [Context.accepted, sameTrace_algorithms hr, sameTrace_challenge pinned withCredentials_relation, hcredentials read]
    constructor
    · rintro ⟨⟨⟨hnone, hdocument, hhash⟩, hne⟩, hkinds⟩
      refine ⟨hnone, hdocument, hhash, fun _ _ => hne, fun _ _ cert' hcert' => ?_⟩
      obtain rfl := Except.ok.inj (hcert.symm.trans hcert')
      exact hkinds
    · exact fun hharmless => ⟨⟨⟨hharmless.identityCert, hharmless.permissionsDocument, hharmless.hash⟩,
        hharmless.rchallenge _ readRchallenge⟩, hharmless.algorithms reply readUnsigned cert hcert⟩

/-! ## Calls with a token -/

/-- The call hands `m` to `validate_handshake_token`, as a token of the type `t`, for the handshake `h`. -/
inductive Presents (amb : Ambient ρ) (s : Authentication κ) :
    Op → Token → HandshakeTokenType → Handle → Context κ → Prop
  | begin {m : Token} {l r h : Handle} {pdata : Octets} {c : Context κ} (pdata_ne_nil : pdata ≠ [])
      (source : Source amb s l r .createdReply h c) (points : Points s c) :
      Presents amb s (.beginHandshakeReply m r l pdata) m .req h c
  | process {m : Token} {h : Handle} {c : Context κ} (handle_ne_zero : h ≠ 0)
      (handshake : s.handshake h = some c.handshake) (points : Points s c) :
      Presents amb s (.processHandshake m h) m c.handshake.createdIn.awaits h c

/-- The token of a call does not validate, and the call fails with the error of `validate_handshake_token`. -/
structure Refused (env : Env κ ρ) (amb : Ambient ρ) (s : Authentication κ) (m : Token) (t : HandshakeTokenType)
    (h : Handle) (c c' : Context κ) (ex : SecurityException) (s' : Authentication κ) : Prop where
  run : validateHandshakeToken env amb s.includeOptional s.trustedCaList m t c = (.error (.failed ex), c')
  points : Points s c
  handshake : ∀ hs, s.handshake h = some hs → hs = c.handshake
  moved : Moved s h c c' (if (s.handshake h).isSome then some c'.handshake else none) s'

theorem map_eq_error {α β : Type} {rx : Except Stop α} {f : α → β} {e : Stop} (h : .error e = rx.map f) : rx = .error e := by
  cases rx with
  | error e' => exact congrArg Except.error (Except.error.inj h).symm
  | ok v => cases h

theorem Presents.refused {ex : SecurityException} (hG : s.graph.Sound) (ha : Allocates amb s)
    (hp : Presents amb s op m t h c) (hrun : op.call env amb s = (.error (.failed ex), s'))
    (hinvalid : ∀ c', validateHandshakeToken env amb s.includeOptional s.trustedCaList m t c ≠ (.ok ⟨⟩, c')) :
    ∃ c', Refused env amb s m t h c c' ex s' := by
  cases hp with
  | @begin _ l r _ pdata _ pdata_ne_nil source points =>
    obtain ⟨rx, hcall, hres⟩ := Act.bind_pure_eq.1 hrun
    obtain rfl := map_eq_error hres
    obtain ⟨hl, hr⟩ := source.ends hG points
    rcases beginHandshakeReply_cases ha hcall (by simp) with ⟨-, -, hnone⟩ | ⟨h', c₁, c', rx, hrx, hon⟩
    · rcases hnone with hnil | hnone | hnone
      · exact absurd hnil pdata_ne_nil
      · rw [← hl, points.localIdentity] at hnone
        cases hnone
      · rw [← hr, points.remoteIdentity] at hnone
        cases hnone
    obtain ⟨rfl, rfl⟩ := source.unique hG hon.source points hon.points
    obtain rfl := map_eq_error hrx
    refine ⟨c', ?_, points, fun hs hh => ?_, ?_⟩
    · rcases Act.bind_eq.1 hon.run with ⟨e, hv, he⟩ | ⟨_, c₁, hv, -⟩
      · obtain rfl := Except.error.inj he
        exact hv
      · exact absurd hv (hinvalid c₁)
    · exact (source.handshake_eq ha hh).symm
    · have hm := hon.moved
      simp only [remaining, Except.isOk, Except.toBool, Bool.or_false] at hm
      exact hm
  | process handle_ne_zero handshake points =>
    obtain ⟨rx, hcall, hres⟩ := Act.bind_pure_eq.1 hrun
    obtain rfl := map_eq_error hres
    rcases processHandshake_cases hcall (by simp) with ⟨-, -, hnone⟩ | ⟨c₁, c', rx, hrx, hon⟩
    · rcases hnone with hzero | hnone
      · exact absurd hzero handle_ne_zero
      · rw [handshake] at hnone
        cases hnone
    obtain rfl : c = c₁ := points.unique hon.points (Option.some.inj (handshake.symm.trans hon.handshake))
    obtain rfl := map_eq_error hrx
    refine ⟨c', ?_, points, fun hs hh => Option.some.inj (hh.symm.trans handshake), ?_⟩
    · have hx := hon.run
      simp only [processToken] at hx
      rcases Act.bind_eq.1 hx with ⟨e, h₁, -⟩ | ⟨hs, c₁, h₁, hx₁⟩
      · cases h₁
      obtain ⟨rfl, rfl⟩ := Act.read_ok.1 h₁
      rcases hstep : c.handshake.createdIn with _ | _
      · simp only [hstep] at hx₁ hinvalid
        rcases Act.bind_eq.1 hx₁ with ⟨e, hv, he⟩ | ⟨_, c₁, hv, -⟩
        · obtain rfl := Except.error.inj he
          exact hv
        · exact absurd hv (hinvalid c₁)
      · simp only [hstep] at hx₁ hinvalid
        rcases Act.bind_eq.1 hx₁ with ⟨e, hv, he⟩ | ⟨_, c₁, hv, -⟩
        · obtain rfl := Except.error.inj he
          exact hv
        · exact absurd hv (hinvalid c₁)
    · rw [handshake]
      exact (hon.failed _ rfl).1

/-! ## No trace -/

/-- `validate_handshake_token` accepts the token of the call. -/
def Authentication.Accepts (env : Env κ ρ) (s : Authentication κ) (op : Op) (amb : Ambient ρ) : Prop :=
  ∃ m t h c c', Presents amb s op m t h c ∧
    validateHandshakeToken env amb s.includeOptional s.trustedCaList m t c = (.ok ⟨⟩, c')

/-- Nothing of what the handshakes depend on is lost or replaced, and every token that was acceptable still is. -/
structure Authentication.NoTrace (env : Env κ ρ) (s s' : Authentication κ) : Prop where
  relation : ∀ a x, s.relation a = some x → ∃ x', s'.relation a = some x' ∧ x'.lchallenge = x.lchallenge ∧
    x'.rchallenge = x.rchallenge
  remoteIdentity : ∀ r x, s.remoteIdentity r = some x → ∃ x', s'.remoteIdentity r = some x' ∧
    x'.identityCert = x.identityCert ∧ x'.permissionsDocument = x.permissionsDocument ∧ x'.pdata = x.pdata ∧
    x'.dsignAlgoKind = x.dsignAlgoKind ∧ x'.kagreeAlgoKind = x.kagreeAlgoKind
  handshake : ∀ h x, s.handshake h = some x → ∃ x', s'.handshake h = some x' ∧ x'.hashC1 = x.hashC1 ∧
    x'.hashC2 = x.hashC2 ∧ x'.sharedSecret = x.sharedSecret
  accepted : ∀ op amb, s.Accepts env op amb → s'.Accepts env op amb

/-- The objects are the same. -/
structure SameObjects (s s' : Authentication κ) : Prop where
  localIdentity : ∀ l, s'.localIdentity l = s.localIdentity l
  remoteIdentity : ∀ r, s'.remoteIdentity r = s.remoteIdentity r
  relation : ∀ a, s'.relation a = s.relation a
  handshake : ∀ h, s'.handshake h = s.handshake h
  settings : SameSettings s s'

namespace SameObjects

variable (same : SameObjects s s')

include same

theorem points (hp : Points s c) : Points s' c :=
  ⟨by rw [same.relation]; exact hp.relation, by rw [same.localIdentity]; exact hp.localIdentity,
    by rw [same.remoteIdentity]; exact hp.remoteIdentity⟩

theorem source {step : CreatedHandshakeStep} (hsrc : Source amb s l r step h c) : Source amb s' l r step h c := by
  cases hsrc with
  | found handshake localHandle remoteHandle =>
    exact .found (by rw [same.handshake]; exact handshake) localHandle remoteHandle
  | made none linked handshake =>
    refine .made (fun h' x hh hpair => ?_) ?_ handshake
    · rw [same.handshake] at hh
      rw [Authentication.pairOf, same.relation] at hpair
      exact none h' x hh hpair
    · rw [Authentication.findIdentityRelation, same.remoteIdentity]
      exact linked

theorem presents (hp : Presents amb s op m t h c) : Presents amb s' op m t h c := by
  cases hp with
  | begin pdata_ne_nil source points => exact .begin pdata_ne_nil (same.source source) (same.points points)
  | process handle_ne_zero handshake points =>
    exact .process handle_ne_zero (by rw [same.handshake]; exact handshake) (same.points points)

theorem noTrace : s.NoTrace env s' where
  relation a x hx := ⟨x, by rw [same.relation]; exact hx, rfl, rfl⟩
  remoteIdentity r x hx := ⟨x, by rw [same.remoteIdentity]; exact hx, rfl, rfl, rfl, rfl, rfl⟩
  handshake h x hx := ⟨x, by rw [same.handshake]; exact hx, rfl, rfl, rfl⟩
  accepted := by
    rintro op amb ⟨m, t, h, c, c', hp, hv⟩
    refine ⟨m, t, h, c, c', same.presents hp, ?_⟩
    rw [same.settings.includeOptional, same.settings.trustedCaList]
    exact hv

end SameObjects

theorem Leaves.localIdentity (hleaves : Leaves env amb trusted m t c c') : c'.localIdentity = c.localIdentity := by
  cases hleaves with
  | nothing unread => rfl
  | certificate read missing => rfl
  | permissions read found rejected =>
    rw [setPermissionsDocument_eq]
    rfl
  | credentials read rejected =>
    rw [withCredentials, setPermissionsDocument_eq]
    cases t <;> rfl
  | challenge read readRchallenge pinned rejected =>
    rw [withCredentials, setPermissionsDocument_eq]
    cases t <;> rfl
  | algorithms reply read readRchallenge pinned readUnsigned =>
    rw [Context.accepted, withCredentials, setPermissionsDocument_eq]
    cases t <;> rfl

attribute [ext] RemoteIdentityInfo IdentityRelation HandshakeInfo

theorem Context.SameTrace.objects {live : Bool} (hsame : c.SameTrace live c') (hframe : c.Frame c')
    (hmaterial : c'.material = c.material) : c'.remoteIdentity = c.remoteIdentity ∧ c'.relation = c.relation ∧
      (live = true → c'.handshake = c.handshake) := by
  refine ⟨?_, ?_, fun hlive => ?_⟩
  · exact RemoteIdentityInfo.ext hframe.guid hsame.identityCert hsame.dsignAlgoKind hsame.kagreeAlgoKind
      hframe.remoteIdentityToken hsame.pdata hsame.permissionsDocument hframe.linkHash hframe.timer
  · exact IdentityRelation.ext hframe.localHandle hframe.remoteHandle hsame.lchallenge hsame.rchallenge
  · have hkeypair := congrArg HandshakeInfo.kemKeypair hmaterial
    have hct := congrArg HandshakeInfo.kemCt hmaterial
    have hss := congrArg HandshakeInfo.kemSs hmaterial
    have hsecret := congrArg HandshakeInfo.sharedSecret hmaterial
    exact HandshakeInfo.ext hframe.relation (hsame.hashC1 hlive) (hsame.hashC2 hlive) hkeypair hct hss hsecret
      hframe.createdIn

theorem Refused.localIdentity {ex : SecurityException} (href : Refused env amb s m t h c c' ex s') :
    c'.localIdentity = c.localIdentity := by
  by_cases ht : t = .final
  · subst ht
    have hsame : c' = c := validateFinal_same.result href.run
    rw [hsame]
  · exact (validateHandshakeToken_leaves ht href.run).localIdentity

/-- The state shows what the objects of the handshake show. -/
theorem Refused.noTrace_iff {ex : SecurityException} (href : Refused env amb s m t h c c' ex s') :
    s.NoTrace env s' ↔ c.SameTrace (s.handshake h).isSome c' := by
  have hframe : c.Frame c' := (validateHandshakeToken_frame t).result href.run
  have hmaterial : c'.material = c.material := (validateHandshakeToken_material t).result href.run
  have hp := href.points
  have hm := href.moved
  constructor
  · intro hno
    obtain ⟨relation, hrel, hl, hr⟩ := hno.relation _ _ hp.relation
    rw [hm.relation, if_pos rfl] at hrel
    obtain rfl := Option.some.inj hrel
    obtain ⟨remote, hremote, hcert, hdocument, hpdata, hdsign, hkagree⟩ := hno.remoteIdentity _ _ hp.remoteIdentity
    rw [hm.remoteIdentity, if_pos rfl] at hremote
    obtain rfl := Option.some.inj hremote
    have hhandshake : (s.handshake h).isSome = true → c'.handshake.hashC1 = c.handshake.hashC1 ∧
        c'.handshake.hashC2 = c.handshake.hashC2 ∧ c'.handshake.sharedSecret = c.handshake.sharedSecret := by
      intro hlive
      obtain ⟨hs, hh⟩ := Option.isSome_iff_exists.1 hlive
      obtain ⟨hs', hh', h₁, h₂, h₃⟩ := hno.handshake _ _ hh
      rw [hm.handshake, if_pos rfl, if_pos hlive] at hh'
      obtain rfl := Option.some.inj hh'
      rw [← href.handshake hs hh]
      exact ⟨h₁, h₂, h₃⟩
    exact ⟨hl, hr, hcert, hdocument, hpdata, hdsign, hkagree, fun hlive => (hhandshake hlive).1,
      fun hlive => (hhandshake hlive).2.1, fun hlive => (hhandshake hlive).2.2⟩
  · intro hsame
    obtain ⟨hremote, hrelation, hhandshake⟩ := hsame.objects hframe hmaterial
    have hobjects : SameObjects s s' := by
      refine ⟨fun x => ?_, fun x => ?_, fun x => ?_, fun x => ?_, hm.settings⟩
      · rw [hm.localIdentity]
        split
        · rename_i hx
          rw [hx, href.localIdentity, hp.localIdentity]
        · rfl
      · rw [hm.remoteIdentity]
        split
        · rename_i hx
          rw [hx, hremote, hp.remoteIdentity]
        · rfl
      · rw [hm.relation]
        split
        · rename_i hx
          rw [hx, hrelation, hp.relation]
        · rfl
      · rw [hm.handshake]
        split
        · rename_i hx
          rw [hx]
          rcases hh : s.handshake h with _ | hs
          · rfl
          · rw [hh] at hhandshake
            rw [href.handshake hs hh, Option.isSome_some, if_pos rfl, hhandshake rfl]
        · rfl
    exact hobjects.noTrace

/-- **A rejected token.** In a reachable state `begin_handshake_reply` or `process_handshake` fails because the token does
not validate. It leaves no trace exactly if the token is a Final, or no certificate was stored for the remote identity
and what the token gets to write was stored already. -/
theorem rejected_token_traceless (env : Env κ ρ) {tr : Trace (Authentication κ) (Op × Ambient ρ)}
    {s s' : Authentication κ} (hr : Run (plugin env).solo tr s) {op : Op} {m : Token} {t : HandshakeTokenType}
    {h : Handle} {c : Context κ} {amb : Ambient ρ} {ex : SecurityException} (ha : Allocates amb s)
    (hp : Presents amb s op m t h c)
    (hinvalid : ∀ c', validateHandshakeToken env amb s.includeOptional s.trustedCaList m t c ≠ (.ok ⟨⟩, c'))
    (hrun : op.call env amb s = (.error (.failed ex), s')) :
    s.NoTrace env s' ↔ t = .final ∨ c.Harmless env amb s.trustedCaList m t (s.handshake h).isSome := by
  obtain ⟨c', href⟩ := hp.refused (run_referential hr).sound ha hrun hinvalid
  rw [href.noTrace_iff]
  by_cases ht : t = .final
  · subst ht
    obtain rfl : c' = c := validateFinal_same.result href.run
    refine ⟨fun _ => .inl rfl, fun _ => ?_⟩
    exact ⟨rfl, rfl, rfl, rfl, rfl, rfl, rfl, fun _ => rfl, fun _ => rfl, fun _ => rfl⟩
  · rw [(validateHandshakeToken_leaves ht href.run).sameTrace_iff]
    constructor
    · exact .inr
    · rintro (hfinal | hharmless)
      · exact absurd hfinal ht
      · exact hharmless

/-! ## A Request without a class

Bob has answered Alice's Request and waits for her Final. Anyone sends him an empty Request. -/

theorem validateRequest_empty (c c' : Context κ) :
    validateHandshakeToken env amb optional trusted {} .req c ≠ (.ok ⟨⟩, c') := by
  intro hrun
  have hrun₁ : validateRequest env amb trusted {} c = (.ok ⟨⟩, c') := Act.onStop_ok.1 hrun
  obtain ⟨_, c₁, hclass, -⟩ := Act.bind_ok.1 hrun₁
  obtain ⟨hclass, -⟩ := check_ok.1 hclass
  rw [checkClassId, require_ok] at hclass
  cases of_decide_eq_true hclass

theorem validateReply_empty (c c' : Context κ) :
    validateHandshakeToken env amb optional trusted {} .reply c ≠ (.ok ⟨⟩, c') := by
  intro hrun
  have hrun₁ : validateReply env amb optional trusted {} c = (.ok ⟨⟩, c') := Act.onStop_ok.1 hrun
  obtain ⟨_, c₁, hclass, -⟩ := Act.bind_ok.1 hrun₁
  obtain ⟨hclass, -⟩ := check_ok.1 hclass
  rw [checkClassId, require_ok] at hclass
  cases of_decide_eq_true hclass

namespace Ideal

def answered : State := after start (bobCalls ++ [replyCall 10 request 5])

def emptyRequest : SampleCall := replyCall 11 {} 5

def disturbed : State := (emptyRequest.1.call Ideal.env emptyRequest.2 answered).2

def isFailed {α : Type} : Except Stop α → Bool
  | .error (.failed _) => true
  | _ => false

theorem failed_of (op : Op) (amb : Ambient UInt8) (s : State) (h : isFailed (op.call Ideal.env amb s).1 = true) :
    ∃ ex, op.call Ideal.env amb s = (.error (.failed ex), (op.call Ideal.env amb s).2) := by
  rcases hrun : op.call Ideal.env amb s with ⟨res, s'⟩
  rw [hrun] at h
  rcases res with (ex | f) | v
  · exact ⟨ex, rfl⟩
  · cases h
  · cases h

def certificateOf (s : State) : Option X509 := (s.remoteIdentity 2).bind (·.identityCert)

/-- The ends of the handshake 10. -/
def endsOf (s : State) : Option (Handle × Handle) :=
  (s.context 10).map fun c => (c.relation.localIdentity, c.relation.remoteIdentity)

theorem disturbed_facts : Allocates (ambient 11) answered ∧ isFailed (emptyRequest.1.call Ideal.env (ambient 11) answered).1 ∧
    endsOf answered = some (1, 2) ∧ (certificateOf answered).isSome ∧ certificateOf disturbed = none ∧
    (processHandshake Ideal.env (ambient 12) final 10 answered).1.isOk ∧
    isFailed (processHandshake Ideal.env (ambient 12) final 10 disturbed).1 := by
  decide +kernel

theorem answered_presents : ∃ c, Presents (ambient 11) answered emptyRequest.1 {} .req 10 c := by
  obtain ⟨-, -, hends, -⟩ := disturbed_facts
  obtain ⟨c, hc, hends⟩ := Option.map_eq_some_iff.1 hends
  obtain ⟨hl, hr⟩ := Prod.mk.inj hends
  obtain ⟨hh, hp⟩ := context_eq_some.1 hc
  exact ⟨c, .begin (by decide) (.found hh hl hr) hp⟩

end Ideal

/-- The empty Request is rejected, but Alice's certificate is gone, and her Final, which Bob would have accepted, is rejected
as well. -/
theorem rejected_token_trace_remains : ∃ tr s op m t h c amb ex s', Run (plugin Ideal.env).solo tr s ∧
    Presents amb s op m t h c ∧
    (∀ c', validateHandshakeToken Ideal.env amb s.includeOptional s.trustedCaList m t c ≠ (.ok ⟨⟩, c')) ∧
    op.call Ideal.env amb s = (.error (.failed ex), s') ∧ ¬ s.NoTrace Ideal.env s' ∧
    (processHandshake Ideal.env (Ideal.ambient 12) Ideal.final 10 s).1.isOk ∧
    ¬ (processHandshake Ideal.env (Ideal.ambient 12) Ideal.final 10 s').1.isOk := by
  obtain ⟨c, hp⟩ := Ideal.answered_presents
  obtain ⟨-, hfailed, -, hsome, hnone, hbefore, hafter⟩ := Ideal.disturbed_facts
  obtain ⟨ex, hrun⟩ := Ideal.failed_of Ideal.emptyRequest.1 (Ideal.ambient 11) Ideal.answered hfailed
  refine ⟨_, Ideal.answered, _, _, _, _, c, _, ex, Ideal.disturbed,
    Ideal.calls_run true .mlKem512 (Ideal.bobCalls ++ [Ideal.replyCall 10 Ideal.request 5]), hp,
    validateRequest_empty c, hrun, fun hno => ?_, hbefore, fun hok => ?_⟩
  · obtain ⟨cert, hcert⟩ := Option.isSome_iff_exists.1 hsome
    obtain ⟨remote, hremote, hcert⟩ := Option.bind_eq_some_iff.1 hcert
    obtain ⟨remote', hremote', hsame, -⟩ := hno.remoteIdentity 2 remote hremote
    rw [Ideal.certificateOf, hremote', Option.bind_some, hsame, hcert] at hnone
    cases hnone
  · rcases hres : (processHandshake Ideal.env (Ideal.ambient 12) Ideal.final 10 Ideal.disturbed).1 with e | v
    · rw [hres] at hok
      cases hok
    · rw [hres] at hafter
      cases hafter

/-- Alice waits for a Reply and gets an empty one. -/
theorem rejected_token_traceless_sample : ∃ s', Ideal.awaiting.NoTrace Ideal.env s' := by
  have hfacts : Allocates (Ideal.ambient 11) Ideal.awaiting ∧
      Ideal.isFailed ((Ideal.processCall 11 {} 10).1.call Ideal.env (Ideal.ambient 11) Ideal.awaiting).1 ∧
      Ideal.awaiting.includeOptional = true ∧
      (Ideal.awaiting.context 10).map (fun c => (c.handshake.createdIn, c.remoteIdentity.identityCert)) =
        some (.createdRequest, none) := by
    decide +kernel
  obtain ⟨ha, hfailed, -, hcontext⟩ := hfacts
  obtain ⟨ex, hrun⟩ := Ideal.failed_of (Ideal.processCall 11 {} 10).1 (Ideal.ambient 11) Ideal.awaiting hfailed
  obtain ⟨c, hc, hmap⟩ := Option.map_eq_some_iff.1 hcontext
  obtain ⟨hstep, hcert⟩ := Prod.mk.inj hmap
  obtain ⟨hh, hpoints⟩ := context_eq_some.1 hc
  have hp : Presents (Ideal.ambient 11) Ideal.awaiting (Ideal.processCall 11 {} 10).1 {} .reply 10 c := by
    have h : Presents (Ideal.ambient 11) _ (.processHandshake {} 10) {} c.handshake.createdIn.awaits 10 c :=
      .process (by decide) hh hpoints
    rw [hstep] at h
    exact h
  refine ⟨_, (rejected_token_traceless Ideal.env (Ideal.calls_run true .mlKem512 Ideal.initiatorCalls.dropLast) ha hp
    (validateReply_empty c) hrun).2 (.inr ?_)⟩
  have hunread : ∀ cert, c.readCertificate Ideal.env (Ideal.ambient 11) Ideal.awaiting.trustedCaList {} .reply ≠ .ok cert := by
    intro cert hread
    obtain ⟨_, hclass, -⟩ := bind_ok.1 hread
    rw [checkClassId, require_ok] at hclass
    cases of_decide_eq_true hclass
  have hleaves := Leaves.nothing (c := c) hunread
  exact hleaves.sameTrace_iff.1 (sameTrace_nothing.2 hcert)

end PqsecDds.CycloneDDS
