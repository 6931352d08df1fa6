import PqsecDds.OpenDDS.Agreement
import PqsecDds.OpenDDS.Challenges

/-!
# What an honest participant can rely on

What a caller needs of its platform (`Works`, `KemWorks`), what `validate_local_identity` has established of every local
identity (`localIdentities_valid`), which values the tokens of the adapter carry (`Carries`), and that the steps of the
handshake succeed on such tokens (`makeRequest_works`, `makeReply_works`, `processReply_works`).
-/

namespace PqsecDds.OpenDDS

open Lib Authentication

variable {α κ π ρ : Type} [Octet α] [DecidableEq α]
variable {env : Env α κ π ρ} {amb : Ambient α ρ} {s s' : Authentication α κ π} {op : Op α}
variable {tr : Calls α κ π ρ} {k : Str α}

/-! ## Tokens -/

/-- The value of a name in a list of named values, as a token reader looks it up. -/
def lookup (ps : List (String × OctetSeq α)) (name : String) : OctetSeq α :=
  ((ps.find? fun p => latin1 p.1 = latin1 name).map (·.2)).getD []

omit [Octet α] [DecidableEq α] in
theorem lookup_cons_self (name : String) (value : OctetSeq α) (ps : List (String × OctetSeq α)) :
    lookup ((name, value) :: ps) name = value := by
  simp [lookup]

omit [Octet α] [DecidableEq α] in
theorem lookup_cons_ne {n name : String} (h : latin1 n ≠ latin1 name) (value : OctetSeq α)
    (ps : List (String × OctetSeq α)) : lookup ((n, value) :: ps) name = lookup ps name := by
  simp [lookup, h]

theorem getBinPropertyValue_eq_lookup {t : Token α} {ps : List (String × OctetSeq α)}
    (h : t.binaryProperties = ps.map fun p => ⟨str p.1, p.2⟩) (name : String) :
    t.getBinPropertyValue name = lookup ps name := by
  rw [Token.getBinPropertyValue, h, lookup]
  congr 1
  induction ps generalizing t with
  | nil => rfl
  | cons p ps ih =>
    simp only [List.map_cons, List.find?_cons, str_inj]
    by_cases hname : latin1 p.1 = latin1 name
    · simp [hname]
    · simp only [hname, decide_false]
      exact ih (t := { t with binaryProperties := ps.map fun p => ⟨str p.1, p.2⟩ }) rfl

/-- The credentials and the rest of a Request or a Reply. -/
def namedValues (certificate : Certificate α π) (permissions participantData : OctetSeq α) (kem : Str α)
    (rest : List (String × OctetSeq α)) : List (String × OctetSeq α) :=
  [("c.id", certificate.originalBytes), ("c.perm", permissions), ("c.pdata", participantData),
    ("c.dsign_algo", cStr certificate.dsignAlgo), ("c.kagree_algo", cStr kem)] ++ rest

omit [DecidableEq α] in
theorem mem_str_zero {t : String} (h : 0 ∉ latin1 t) : (Octet.byte 0 : α) ∉ str t := by
  intro hmem
  obtain ⟨b, hb, heq⟩ := List.mem_map.1 hmem
  rw [Octet.byte_injective heq] at hb
  exact h hb

/-- A C string reads back as it was written unless it has a NUL of its own. -/
theorem stringValue_cStr {t : Str α} (h : Octet.byte 0 ∉ t) : stringValue (cStr t) = t := by
  have hlast : (t ++ [Octet.byte 0]).getLast? = some (Octet.byte 0) := by simp
  have hall : ∀ a ∈ t, decide (a ≠ Octet.byte 0) = true := by
    intro a ha
    rw [decide_eq_true_eq]
    rintro rfl
    exact h ha
  rw [stringValue, cStr, if_pos hlast, List.takeWhile_append_of_pos hall]
  simp

theorem mldsaAlgorithm_zero {t : Str α} (h : mldsaAlgorithm t = true) : Octet.byte 0 ∉ t := by
  simp only [mldsaAlgorithm, Bool.or_eq_true, decide_eq_true_eq] at h
  rcases h with (rfl | rfl) | rfl <;> exact mem_str_zero (by decide)

theorem kemAlgorithm_zero {t : Str α} (h : kemAlgorithm t = true) : Octet.byte 0 ∉ t := by
  simp only [kemAlgorithm, Bool.or_eq_true, decide_eq_true_eq] at h
  rcases h with ((((((rfl | rfl) | rfl) | rfl) | rfl) | rfl) | rfl) | rfl <;> exact mem_str_zero (by decide)

/-! ## Local identities -/

omit [Octet α] [DecidableEq α] in
theorem opensslSupports_mono {loaded loaded' : List (Str α)} {algorithm : Str α} (hsub : loaded ⊆ loaded')
    (h : opensslSupports env loaded algorithm = true) : opensslSupports env loaded' algorithm = true := by
  simp only [opensslSupports, List.any_eq_true] at h ⊢
  obtain ⟨provider, hmem, hexposes⟩ := h
  exact ⟨provider, hsub hmem, hexposes⟩

omit [DecidableEq α] in
variable (env amb) in
/-- The fallback unloads nothing, and what it calls available is. -/
theorem ensureAlgorithm_spec (f : ProviderFallback α) (algorithm provider : Str α) :
    f.loaded ⊆ (f.ensureAlgorithm env amb algorithm provider).2.loaded ∧
    ((f.ensureAlgorithm env amb algorithm provider).1 = .ok () →
      opensslSupports env (f.ensureAlgorithm env amb algorithm provider).2.loaded algorithm = true) := by
  have hload : f.loaded ⊆ (if f.provider.isNone && env.loadable provider then
      { loaded := f.loaded ++ [provider], provider := some provider } else f).loaded := by
    split
    · exact List.subset_append_left _ _
    · exact List.Subset.refl _
  simp only [ProviderFallback.ensureAlgorithm]
  generalize (if f.provider.isNone && env.loadable provider then
    { loaded := f.loaded ++ [provider], provider := some provider } else f) = f' at hload ⊢
  split
  · rename_i hsupports
    exact ⟨List.Subset.refl _, fun _ => hsupports⟩
  split
  · exact ⟨List.Subset.refl _, nofun⟩
  split
  · exact ⟨hload, nofun⟩
  split
  · exact ⟨hload, nofun⟩
  · rename_i hsupports
    exact ⟨hload, fun _ => by simpa using hsupports⟩

/-- What `validate_local_identity` establishes about the identity it adds. -/
structure ValidIdentity (env : Env α κ π ρ) (loaded : List (Str α)) (l : LocalIdentity α π) : Prop where
  certificate : mldsaAlgorithm l.credentials.participantCert.dsignAlgo = true
  algorithm : kemAlgorithm l.kemAlgorithm = true
  supported : opensslSupports env loaded l.kemAlgorithm = true
  adjusted : ∃ candidate, env.makeAdjustedGuid candidate l.credentials.participantCert = some l.guid

theorem ValidIdentity.mono {loaded loaded' : List (Str α)} {l : LocalIdentity α π} (hsub : loaded ⊆ loaded')
    (h : ValidIdentity env loaded l) : ValidIdentity env loaded' l :=
  { h with supported := opensslSupports_mono hsub h.supported }

theorem validateLocalIdentity_valid (h : Handle) (props : List (Property α)) (candidate : Guid)
    (hall : ∀ l ∈ s.localHeap, ValidIdentity env s.fallbackProvider.loaded l) :
    ∀ l ∈ (validateLocalIdentity env amb s h props candidate).2.localHeap,
      ValidIdentity env (validateLocalIdentity env amb s h props candidate).2.fallbackProvider.loaded l := by
  simp only [validateLocalIdentity]
  split
  · exact hall
  rename_i credentials hcred
  split
  · exact hall
  rename_i hsign
  split
  · exact hall
  rename_i hkem
  have hspec := ensureAlgorithm_spec env amb s.fallbackProvider (selectKem amb props).1
    (selectKem amb props).2
  split
  · rename_i hensure
    rw [hensure] at hspec
    exact fun l hl => (hall l hl).mono hspec.1
  rename_i fallbackProvider hensure
  rw [hensure] at hspec
  split
  · exact fun l hl => (hall l hl).mono hspec.1
  rename_i adjusted hadjusted
  intro l hl
  rcases List.mem_append.1 hl with hl | hl
  · exact (hall l hl).mono hspec.1
  · obtain rfl := List.mem_singleton.1 hl
    exact ⟨by simpa using hsign, by simpa using hkem, hspec.2 rfl, candidate, hadjusted⟩

theorem localIdentities_valid (hr : Run (plugin env).solo tr s) :
    ∀ l ∈ s.localHeap, ValidIdentity env s.fallbackProvider.loaded l := by
  refine hr.state_inv (I := fun s => ∀ l ∈ s.localHeap, ValidIdentity env s.fallbackProvider.loaded l) ?_ ?_
  · rintro s rfl l hl
    cases hl
  · rintro s ⟨op, amb⟩ s' hall ⟨-, rfl⟩
    by_cases hop : ∃ h props candidate, op = .validateLocalIdentity h props candidate
    · obtain ⟨h, props, candidate, rfl⟩ := hop
      exact validateLocalIdentity_valid h props candidate hall
    have he : Effect env amb s op _ _ := exec_effect op
    simp only [plugin]
    generalize exec env s (op, amb) = x at he ⊢
    obtain ⟨s', ev⟩ := x
    cases he with
    | provider _ => exact absurd ⟨_, _, _, rfl⟩ hop
    | localIdentity _ _ _ _ _ _ => exact absurd ⟨_, _, _, rfl⟩ hop
    | permissions hl _ =>
      intro l hmem
      rcases List.mem_or_eq_of_mem_set hmem with hmem | rfl
      · exact hall l hmem
      · obtain ⟨h₁, h₂, h₃, h₄⟩ := hall _ (List.mem_of_getElem? (findLocal_eq_some.1 hl).2)
        exact ⟨h₁, h₂, h₃, h₄⟩
    | _ => exact hall

/-! ## Calls that work -/

/-- Nonces, hashes and signatures. -/
structure Works (env : Env α κ π ρ) : Prop where
  nonce : ∀ seed, ∃ n, env.makeNonce256 seed = some n ∧ n.length = 32
  serialize : ∀ properties, ∃ data, env.serialize properties = some data
  sha256 : ∀ data, ∃ digest, env.sha256 data = some digest
  signature : ∀ key data seed, ∃ signature, env.sign key data seed = some signature ∧ env.verify key data signature = true

/-- `pk` is the public half of a generated key. -/
def Exported (env : Env α κ π ρ) (k : Str α) (key : κ) (pk : OctetSeq α) : Prop :=
  (∃ seed, env.generate k seed = some key) ∧ Kem.exportPublic env key = some pk

/-- The KEM `k`. -/
structure KemWorks (env : Env α κ π ρ) (k : Str α) : Prop where
  correct : (env.kem k).Correct
  generates : ∀ seed, ∃ key, env.generate k seed = some key
  exports : ∀ {seed key}, env.generate k seed = some key →
    (env.encodedPublicKey key = [] → (env.rawPublicKeySize key).getD 0 ≠ 0) ∧
    ∃ pk, Kem.exportPublic env key = some pk ∧ pk ≠ []
  imports : ∀ {key pk}, Exported env k key pk → ∃ pub, (env.fromData k pk).or (env.newRawPublicKey k pk) = some pub
  encapsulates : ∀ {key pk pub}, Exported env k key pk → (env.kem k).imports pk pub →
    (∃ m n, env.encapsulateSizes pub = some (m, n) ∧ m ≠ 0 ∧ n ≠ 0) ∧
    ∀ seed, ∃ ct ss, env.encapsulate pub seed = some (ct, ss)
  decapsulates : ∀ {key pk pub seed ct ss}, Exported env k key pk → (env.kem k).imports pk pub →
    env.encapsulate pub seed = some (ct, ss) → ct ≠ [] ∧ (env.decapsulateSize key ct).getD 0 ≠ 0

omit [Octet α] [DecidableEq α] in
theorem ownChallenge_works (hw : Works env) (amb : Ambient α ρ) {r : RemoteIdentity α} (hlen : r.localChallenge.length = 32) :
    ∃ c, ownChallenge env amb r = some c ∧ c.length = 32 := by
  rw [ownChallenge]
  split
  · exact ⟨r.localChallenge, rfl, hlen⟩
  · exact hw.nonce amb.nonceSeed

omit [DecidableEq α] in
theorem credentialHash_works (hw : Works env) (c p d : OctetSeq α) (sa ka : Str α) :
    ∃ h, credentialHash env c p d sa ka = some h := by
  obtain ⟨data, hdata⟩ := hw.serialize (credentialProperties c p d sa ka)
  obtain ⟨h, hh⟩ := hw.sha256 data
  exact ⟨h, by rw [credentialHash, hashSerialized, hdata, Option.bind_some, hh]⟩

omit [Octet α] [DecidableEq α] in
theorem signSerialized_works (hw : Works env) (amb : Ambient α ρ) (properties : BinaryPropertySeq α) (key : π) :
    ∃ data signature, signSerialized env amb properties key = some (data, signature) ∧
      ∀ certificate : Certificate α π, certificate.publicKey = key →
        verifySerialized env properties certificate signature = true := by
  obtain ⟨data, hdata⟩ := hw.serialize properties
  obtain ⟨signature, hsign, hverify⟩ := hw.signature key data amb.signSeed
  refine ⟨data, signature, signSerialized_eq_some.2 ⟨hdata, hsign⟩, ?_⟩
  rintro certificate rfl
  rw [verifySerialized, hdata]
  exact hverify

omit [DecidableEq α] in
theorem Kem.generate_works (hk : KemWorks env k) (amb : Ambient α ρ) {loaded : List (Str α)}
    (hsup : opensslSupports env loaded k = true) :
    ∃ kem pk, Kem.generate env amb loaded { algorithm := k } = .ok kem ∧ kem.publicKey env amb = .ok pk := by
  obtain ⟨key, hkey⟩ := hk.generates amb.keySeed
  obtain ⟨hsize, pk, hpk, -⟩ := hk.exports hkey
  refine ⟨{ algorithm := k, key := some key }, pk, ?_, ?_⟩
  · simp only [Kem.generate, hsup, hkey, Bool.not_true, Bool.false_eq_true, if_false]
  · by_cases hencoded : env.encodedPublicKey key = []
    · simp only [Kem.publicKey, hpk, hencoded, hsize hencoded, decide_true, decide_false, Bool.and_false,
        Bool.false_eq_true, if_false]
    · simp only [Kem.publicKey, hpk, hencoded, decide_false, Bool.false_and, Bool.false_eq_true, if_false]

omit [DecidableEq α] in
theorem Kem.encapsulate_works (hk : KemWorks env k) (amb : Ambient α ρ) {loaded : List (Str α)} {key : κ}
    {pk : OctetSeq α} (hsup : opensslSupports env loaded k = true) (hexp : Exported env k key pk) :
    ∃ kem ct ss, Kem.importPublic env amb loaded { algorithm := k } pk = .ok kem ∧
      kem.encapsulate env amb = .ok (ct, ss) := by
  obtain ⟨pub, hpub⟩ := hk.imports hexp
  have himports : (env.kem k).imports pk pub := by
    rcases Option.or_eq_some_iff.1 hpub with h | ⟨-, h⟩
    · exact .inl h
    · exact .inr h
  obtain ⟨⟨m, n, hsizes, hm, hn⟩, henc⟩ := hk.encapsulates hexp himports
  obtain ⟨ct, ss, hct⟩ := henc amb.encapSeed
  have hne : pk ≠ [] := by
    obtain ⟨⟨seed, hgen⟩, hpk⟩ := hexp
    obtain ⟨-, pk', hpk', hne⟩ := hk.exports hgen
    rw [hpk] at hpk'
    rw [Option.some.inj hpk']
    exact hne
  refine ⟨{ algorithm := k, key := some pub }, ct, ss, ?_, ?_⟩
  · simp only [Kem.importPublic, hne, hsup, hpub, if_false, if_true]
  · simp only [Kem.encapsulate, hsizes, Option.getD_some, hm, hn, hct, decide_false, Bool.or_self, Bool.false_eq_true,
      if_false]

omit [DecidableEq α] in
theorem Kem.decapsulate_works (hk : KemWorks env k) (amb : Ambient α ρ) {key : κ} {pk ct ss : OctetSeq α} {seed : ρ}
    (hexp : Exported env k key pk) (henc : (env.kem k).Encapsulated pk seed ct ss) :
    Kem.decapsulate env amb { algorithm := k, key := some key } ct = .ok ss := by
  obtain ⟨pub, himports, henc⟩ := henc
  obtain ⟨hne, hsize⟩ := hk.decapsulates hexp himports henc
  obtain ⟨⟨seed', hgen⟩, hpk⟩ := hexp
  have hdec : env.decapsulate key ct = some ss := hk.correct hgen hpk himports henc
  simp only [Kem.decapsulate, hne, hsize, hdec, if_false]

/-! ## The tokens on the wire -/

/-- The token has this class and these binary properties. -/
def Carries (t : Token α) (classId : String) (ps : List (String × OctetSeq α)) : Prop :=
  t.classId = str classId ∧ t.binaryProperties = ps.map fun p => ⟨str p.1, p.2⟩

namespace Carries

variable {t : Token α} {classId : String} {ps : List (String × OctetSeq α)}

theorem get (h : Carries t classId ps) (name : String) : t.getBinPropertyValue name = lookup ps name :=
  getBinPropertyValue_eq_lookup h.2 name

theorem classIs (h : Carries t classId ps) : t.classIs classId = true :=
  decide_eq_true h.1

omit [DecidableEq α] in
theorem add (h : Carries t classId ps) (name : String) (value : OctetSeq α) :
    Carries (t.addBinProperty name value) classId (ps ++ [(name, value)]) := by
  refine ⟨h.1, ?_⟩
  rw [Token.addBinProperty, h.2, List.map_append]
  rfl

omit [DecidableEq α] in
theorem writer (hempty : t.binaryProperties = []) (classId : String) : Carries (t.writer classId) classId [] :=
  ⟨rfl, hempty⟩

omit [DecidableEq α] in
theorem credentials (h : Carries t classId []) (l : LocalIdentity α π) (pd : OctetSeq α) :
    Carries (writeCredentials t l pd) classId
      (namedValues l.credentials.participantCert l.credentials.accessPermissions pd l.kemAlgorithm []) :=
  ((((h.add _ _).add _ _).add _ _).add _ _).add _ _

end Carries

/-- The values of a Request. -/
def requestValues (certificate : Certificate α π) (permissions pd : OctetSeq α) (kem : Str α) (pk c1 : OctetSeq α) :
    List (String × OctetSeq α) :=
  namedValues certificate permissions pd kem [("pqsec-dds.kem_public", pk), ("challenge1", c1)]

/-- The values of a Reply. -/
def replyValues (certificate : Certificate α π) (permissions pd : OctetSeq α) (kem : Str α)
    (ct c1 c2 signature : OctetSeq α) : List (String × OctetSeq α) :=
  namedValues certificate permissions pd kem
    [("pqsec-dds.kem_ciphertext", ct), ("challenge1", c1), ("challenge2", c2), ("signature", signature)]

omit [DecidableEq α] in
theorem namedValues_lookup (certificate : Certificate α π) (permissions pd : OctetSeq α) (kem : Str α)
    (rest : List (String × OctetSeq α)) :
    lookup (namedValues certificate permissions pd kem rest) "c.id" = certificate.originalBytes ∧
    lookup (namedValues certificate permissions pd kem rest) "c.perm" = permissions ∧
    lookup (namedValues certificate permissions pd kem rest) "c.pdata" = pd ∧
    lookup (namedValues certificate permissions pd kem rest) "c.dsign_algo" = cStr certificate.dsignAlgo ∧
    lookup (namedValues certificate permissions pd kem rest) "c.kagree_algo" = cStr kem := by
  refine ⟨?_, ?_, ?_, ?_, ?_⟩ <;>
    simp (disch := decide) only [namedValues, List.cons_append, lookup_cons_ne, lookup_cons_self]

omit [DecidableEq α] in
theorem requestValues_lookup (certificate : Certificate α π) (permissions pd : OctetSeq α) (kem : Str α)
    (pk c1 : OctetSeq α) :
    lookup (requestValues certificate permissions pd kem pk c1) "pqsec-dds.kem_public" = pk ∧
    lookup (requestValues certificate permissions pd kem pk c1) "challenge1" = c1 := by
  refine ⟨?_, ?_⟩ <;>
    simp (disch := decide) only [requestValues, namedValues, List.cons_append, List.nil_append, lookup_cons_ne,
      lookup_cons_self]

omit [DecidableEq α] in
theorem replyValues_lookup (certificate : Certificate α π) (permissions pd : OctetSeq α) (kem : Str α)
    (ct c1 c2 signature : OctetSeq α) :
    lookup (replyValues certificate permissions pd kem ct c1 c2 signature) "pqsec-dds.kem_ciphertext" = ct ∧
    lookup (replyValues certificate permissions pd kem ct c1 c2 signature) "challenge1" = c1 ∧
    lookup (replyValues certificate permissions pd kem ct c1 c2 signature) "challenge2" = c2 ∧
    lookup (replyValues certificate permissions pd kem ct c1 c2 signature) "signature" = signature := by
  refine ⟨?_, ?_, ?_, ?_⟩ <;>
    simp (disch := decide) only [replyValues, namedValues, List.cons_append, List.nil_append, lookup_cons_ne,
      lookup_cons_self]

/-- The credentials of an honest participant are accepted. -/
theorem validateRemoteCredentials_works (hw : Works env) {l : LocalIdentity α π} {r : RemoteIdentity α}
    {certificate : Certificate α π} {permissions pd : OctetSeq α} {t : Token α} {classId : String}
    {rest : List (String × OctetSeq α)} (hcarries : Carries t classId (namedValues certificate permissions pd k rest))
    (hsign : mldsaAlgorithm certificate.dsignAlgo = true) (hkem : kemAlgorithm k = true) (halg : l.kemAlgorithm = k)
    (hread : env.deserializeCertificate certificate.originalBytes = some certificate)
    (hvalid : env.validateCertificate amb.now certificate l.credentials.caCert = true)
    (hguid : certMatchesGuid certificate r.guid = true) (hpd : participantDataHasGuid env pd r.guid = true) :
    ∃ hash, credentialHash env certificate.originalBytes permissions pd certificate.dsignAlgo k = some hash ∧
      validateRemoteCredentials env amb l r t = .ok { certificate, permissions, hash } := by
  obtain ⟨hash, hhash⟩ := credentialHash_works hw certificate.originalBytes permissions pd certificate.dsignAlgo k
  obtain ⟨h₁, h₂, h₃, h₄, h₅⟩ := namedValues_lookup certificate permissions pd k rest
  rw [← hcarries.get] at h₁ h₂ h₃ h₄ h₅
  refine ⟨hash, hhash, ?_⟩
  simp only [validateRemoteCredentials, h₁, h₂, h₃, h₄, h₅, stringValue_cStr (mldsaAlgorithm_zero hsign),
    stringValue_cStr (kemAlgorithm_zero hkem), halg, bind_ok, need_ok, require_ok, pure_ok, Bool.and_eq_true,
    decide_eq_true_eq]
  exact ⟨(), ⟨hsign, trivial⟩, certificate, hread, (), hvalid, (), rfl, (), hguid, (), hpd, hash, hhash, rfl⟩

omit [DecidableEq α] in
theorem makeRequest_works (hw : Works env) (hk : KemWorks env k) (amb : Ambient α ρ) {ih rh : Handle} {q p : Nat}
    {l : LocalIdentity α π} {r : RemoteIdentity α} {m : Token α} {pd : OctetSeq α} (hl : s.findLocal ih = some (q, l))
    (hr : s.findRemote rh = some (p, r)) (halg : l.kemAlgorithm = k)
    (hsup : opensslSupports env s.fallbackProvider.loaded k = true) (hlen : r.localChallenge.length = 32) (hpd : pd ≠ []) :
    ∃ hs t, makeRequest env amb s m ih rh pd = .ok (hs, t) := by
  subst halg
  obtain ⟨kem, pk, hgen, hpk⟩ := Kem.generate_works hk amb hsup
  obtain ⟨c1, hc1, -⟩ := ownChallenge_works hw amb hlen
  obtain ⟨hash1, hhash1⟩ := credentialHash_works hw l.credentials.participantCert.originalBytes
    l.credentials.accessPermissions pd l.credentials.participantCert.dsignAlgo l.kemAlgorithm
  simp only [makeRequest, bind_ok, need_ok, require_ok, pure_ok]
  exact ⟨_, _, (q, l), hl, (p, r), hr, (), decide_eq_true hpd, kem, hgen, pk, hpk, c1, hc1, hash1, hhash1, rfl⟩

/-- A Request whose credentials, challenge and public key are in order is answered. -/
theorem makeReply_works (hw : Works env) (hk : KemWorks env k) (amb : Ambient α ρ) (pd : OctetSeq α) {ih rh : Handle} {q p : Nat}
    {l : LocalIdentity α π} {r : RemoteIdentity α} {request : Token α} {key : κ}
    {v : ValidatedCredentials α π} (hl : s.findLocal rh = some (q, l)) (hr : s.findRemote ih = some (p, r))
    (halg : l.kemAlgorithm = k) (hsup : opensslSupports env s.fallbackProvider.loaded k = true)
    (hlen : r.localChallenge.length = 32) (hclass : request.classIs "pqsec-dds.auth:1.0+Req" = true)
    (hv : validateRemoteCredentials env amb l r request = .ok v)
    (hc1 : (request.getBinPropertyValue "challenge1").length = 32)
    (hpin : r.remoteChallenge = [] ∨ request.getBinPropertyValue "challenge1" = r.remoteChallenge)
    (hexp : Exported env k key (request.getBinPropertyValue "pqsec-dds.kem_public")) :
    ∃ hs t d, makeReply env amb s request ih rh pd = .ok (hs, t, d) := by
  subst halg
  obtain ⟨kem, ct, ss, himport, henc⟩ := Kem.encapsulate_works hk amb hsup hexp
  obtain ⟨c2, hc2, -⟩ := ownChallenge_works hw amb hlen
  obtain ⟨hash2, hhash2⟩ := credentialHash_works hw l.credentials.participantCert.originalBytes
    l.credentials.accessPermissions pd l.credentials.participantCert.dsignAlgo l.kemAlgorithm
  obtain ⟨data, signature, hsign, -⟩ := signSerialized_works hw amb (replyTranscript hash2 c2 ct
    (request.getBinPropertyValue "challenge1") (request.getBinPropertyValue "pqsec-dds.kem_public") v.hash)
    l.credentials.participantPrivateKey
  have hpinned : (decide (r.remoteChallenge = []) ||
      decide (request.getBinPropertyValue "challenge1" = r.remoteChallenge)) = true := by
    simpa using hpin
  simp only [makeReply, bind_ok, need_ok, require_ok, pure_ok]
  exact ⟨_, _, _, (q, l), hl, (p, r), hr, (), hclass, v, hv, (), decide_eq_true hc1, (), hpinned, kem, himport, (ct, ss),
    henc, c2, hc2, hash2, hhash2, (data, signature), hsign, rfl⟩

/-- A Reply whose credentials, challenges, signature and ciphertext are in order is accepted. -/
theorem processReply_works (hw : Works env) (hk : KemWorks env k) (amb : Ambient α ρ) {l : LocalIdentity α π}
    {r : RemoteIdentity α} {hs : Handshake α κ π} {h : Handle} {input : Token α} {key : κ} {ss : OctetSeq α} {seed : ρ}
    {v : ValidatedCredentials α π} (hv : validateRemoteCredentials env amb l r input = .ok v)
    (hc2 : (input.getBinPropertyValue "challenge2").length = 32)
    (hc1 : input.getBinPropertyValue "challenge1" = hs.challenge1)
    (hpin : r.remoteChallenge = [] ∨ input.getBinPropertyValue "challenge2" = r.remoteChallenge)
    (hver : verifySerialized env (replyTranscript v.hash (input.getBinPropertyValue "challenge2")
      (input.getBinPropertyValue "pqsec-dds.kem_ciphertext") hs.challenge1 hs.publicKey hs.hash1) v.certificate
      (input.getBinPropertyValue "signature") = true)
    (hkem : hs.kem = { algorithm := k, key := some key }) (hexp : Exported env k key hs.publicKey)
    (henc : (env.kem k).Encapsulated hs.publicKey seed (input.getBinPropertyValue "pqsec-dds.kem_ciphertext") ss) :
    (processReply env amb l r hs h input).1.result = .okFinalMessage := by
  have hdec := Kem.decapsulate_works hk amb hexp henc
  rw [← hkem] at hdec
  have hpinned : r.remoteChallenge ≠ [] → input.getBinPropertyValue "challenge2" = r.remoteChallenge := by
    intro hne
    rcases hpin with hpin | hpin
    · exact absurd hpin hne
    · exact hpin
  obtain ⟨data, signature, hsign, -⟩ := signSerialized_works hw amb (finalTranscript hs.hash1 hs.challenge1 hs.publicKey
    (input.getBinPropertyValue "challenge2") (input.getBinPropertyValue "pqsec-dds.kem_ciphertext") v.hash)
    l.credentials.participantPrivateKey
  simp only [processReply, hv]
  split
  · rename_i hbad
    simp only [Bool.or_eq_true, Bool.and_eq_true, decide_eq_true_eq] at hbad
    rcases hbad with (hlen | hfirst) | ⟨hsome, hsecond⟩
    · exact absurd hc2 hlen
    · exact absurd hc1 hfirst
    · exact absurd (hpinned hsome) hsecond
  split
  · rename_i hbad
    simp only [Handshake.replyProperties, hver, Bool.not_true, Bool.false_eq_true] at hbad
  · simp only [hdec, Handshake.finalProperties, hsign]

end PqsecDds.OpenDDS
