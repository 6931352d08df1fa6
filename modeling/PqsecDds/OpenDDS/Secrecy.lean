import PqsecDds.OpenDDS.Agreement

/-!
# Secrecy of the established key

The attacker hears every token that is sent, and whatever a participant is given is something the attacker
can derive (`Attackable`). It can run every function of the symbolic environment with the signature keys
and the random draws it owns: so it has participants of its own, with certificates of its own. What it
cannot do is in the rules it does not have: it signs with no key of a participant and decapsulates with no
key a participant generated. Unforgeability is not assumed here, it is derived (`attackable_admissible`).

`Safe` is the invariant: a set that contains everything sent, is closed under the attacker's rules
(`derives_safe`), and contains no secret encapsulated by a participant to a participant's key.
-/

namespace PqsecDds.OpenDDS

open Lib Authentication

variable {Pid : Type} [DecidableEq Pid]

/-! ## Letters -/

section Letters

variable {α π : Type}

def Token.letters (t : Token α) : List α :=
  t.classId ++ (t.properties.flatMap fun p => p.name ++ p.value) ++
    t.binaryProperties.flatMap fun p => p.name ++ p.value

theorem Token.letters_empty : ({} : Token α).letters = [] := rfl

def Credentials.letters (c : Credentials α π) : List α :=
  c.participantCert.originalBytes ++ c.participantCert.subjectName ++ c.participantCert.keypairAlgo ++
    c.participantCert.dsignAlgo ++ c.caCert.subjectName ++ c.caCert.keypairAlgo ++ c.accessPermissions

/-- The octets that come into a call from outside. -/
def Op.letters : Op α → List α
  | .getIdentityToken token _ => token.letters
  | .setPermissionsCredentialAndToken _ credential => credential.letters
  | .validateRemoteIdentity _ localRequest remoteRequest _ identityToken _ =>
    localRequest.letters ++ remoteRequest.letters ++ identityToken.letters
  | .beginHandshakeRequest _ message _ _ participantData => message.letters ++ participantData
  | .beginHandshakeReply _ message _ _ participantData => message.letters ++ participantData
  | .processHandshake output input _ => output.letters ++ input.letters
  | .getAuthenticatedPeerCredentialToken token _ => token.letters
  | _ => []

/-- The fields of a handshake that go into transcripts. -/
def Handshake.letters {κ : Type} (hs : Handshake α κ π) : List α :=
  hs.hash1 ++ hs.hash2 ++ hs.challenge1 ++ hs.challenge2 ++ hs.publicKey ++ hs.ciphertext

end Letters

/-- Every octet of the word is in `S`. -/
def AllIn (S : Set Sym) (word : List Sym) : Prop := ∀ x ∈ word, x ∈ S

theorem AllIn.mono {S S' : Set Sym} {word : List Sym} (h : AllIn S word) (hS : S ⊆ S') : AllIn S' word :=
  fun x hx => hS (h x hx)

@[simp] theorem allIn_nil {S : Set Sym} : AllIn S [] := fun _ h => by cases h

@[simp] theorem allIn_append {S : Set Sym} {u v : List Sym} : AllIn S (u ++ v) ↔ AllIn S u ∧ AllIn S v :=
  List.forall_mem_append

section Words

variable {S : Set Sym} (hS : ∀ b, Letter.base b ∈ S)

include hS

theorem allIn_str (name : String) : AllIn S (str name) := by
  intro x hx
  obtain ⟨b, -, rfl⟩ := List.mem_map.1 hx
  exact hS b

theorem allIn_cStr {word : Str Sym} (h : AllIn S word) : AllIn S (cStr word) := by
  refine allIn_append.2 ⟨h, ?_⟩
  intro x hx
  obtain rfl := List.mem_singleton.1 hx
  exact hS 0

theorem allIn_writer {t : Token Sym} (h : AllIn S t.letters) (classId : String) :
    AllIn S (t.writer classId).letters := by
  simp only [Token.letters, Token.writer, allIn_append] at h ⊢
  exact ⟨⟨allIn_str hS classId, h.1.2⟩, h.2⟩

theorem allIn_addProperty {t : Token Sym} (h : AllIn S t.letters) (name : String) {value : Str Sym}
    (hv : AllIn S value) : AllIn S (t.addProperty name value).letters := by
  simp only [Token.letters, Token.addProperty, allIn_append, List.flatMap_append, List.flatMap_cons,
    List.flatMap_nil, List.append_nil] at h ⊢
  exact ⟨⟨h.1.1, h.1.2, allIn_str hS name, hv⟩, h.2⟩

theorem allIn_addBinProperty {t : Token Sym} (h : AllIn S t.letters) (name : String) {value : OctetSeq Sym}
    (hv : AllIn S value) : AllIn S (t.addBinProperty name value).letters := by
  simp only [Token.letters, Token.addBinProperty, allIn_append, List.flatMap_append, List.flatMap_cons,
    List.flatMap_nil, List.append_nil] at h ⊢
  exact ⟨h.1, h.2, allIn_str hS name, hv⟩

theorem allIn_emptyToken (classId : String) : AllIn S (Token.writer ({} : Token Sym) classId).letters :=
  allIn_writer hS (by simp [Token.letters]) classId

/-- Framing a transcript adds plain octets only. -/
theorem allIn_propertyFrames {properties : BinaryPropertySeq Sym}
    (h : ∀ p ∈ properties, AllIn S p.name ∧ AllIn S p.value) : AllIn S (propertyFrames properties) := by
  intro x hx
  rcases mem_frames hx with rfl | rfl | ⟨word, hword, hx⟩
  · exact hS 1
  · exact hS 0
  · obtain ⟨p, hp, hword⟩ := List.mem_flatMap.1 hword
    simp only [List.mem_cons, List.not_mem_nil, or_false] at hword
    rcases hword with rfl | rfl
    · exact (h p hp).1 x hx
    · exact (h p hp).2 x hx

theorem allIn_transcripts {hs : Handshake Sym KemKey Nat} (h : AllIn S hs.letters) :
    AllIn S (propertyFrames hs.replyProperties) ∧ AllIn S (propertyFrames hs.finalProperties) := by
  simp only [Handshake.letters, allIn_append] at h
  obtain ⟨⟨⟨⟨⟨h1, h2⟩, hc1⟩, hc2⟩, hpk⟩, hct⟩ := h
  constructor <;> refine allIn_propertyFrames hS fun p hp => ?_ <;>
    simp only [Handshake.replyProperties, replyTranscript, Handshake.finalProperties, finalTranscript,
      appendDomain, append, List.nil_append, List.cons_append, List.mem_cons, List.not_mem_nil,
      or_false] at hp <;>
    rcases hp with rfl | rfl | rfl | rfl | rfl | rfl | rfl | rfl <;>
    refine ⟨allIn_str hS _, ?_⟩ <;>
    first | assumption | exact allIn_cStr hS (allIn_str hS _)

theorem allIn_writeCredentials {t : Token Sym} (h : AllIn S t.letters) {l : LocalIdentity Sym Nat}
    (hl : AllIn S l.credentials.letters) (hk : AllIn S l.kemAlgorithm) {pd : OctetSeq Sym} (hpd : AllIn S pd) :
    AllIn S (writeCredentials t l pd).letters := by
  simp only [Credentials.letters, allIn_append] at hl
  obtain ⟨⟨⟨⟨⟨⟨hid, -⟩, -⟩, hds⟩, -⟩, -⟩, hperm⟩ := hl
  refine allIn_addBinProperty hS (allIn_addBinProperty hS (allIn_addBinProperty hS (allIn_addBinProperty hS
    (allIn_addBinProperty hS h _ hid) _ hperm) _ hpd) _ ?_) _ ?_
  · exact allIn_cStr hS hds
  · exact allIn_cStr hS hk

theorem allIn_kemAlgorithm {name : Str Sym} (h : kemAlgorithm name = true) : AllIn S name := by
  simp only [kemAlgorithm, Bool.or_eq_true, decide_eq_true_eq] at h
  rcases h with ((((((rfl | rfl) | rfl) | rfl) | rfl) | rfl) | rfl) | rfl <;> exact allIn_str hS _

end Words

theorem allIn_getBinPropertyValue {S : Set Sym} {t : Token Sym} (h : AllIn S t.letters) (name : String) :
    AllIn S (t.getBinPropertyValue name) := by
  simp only [Token.getBinPropertyValue]
  cases hf : t.binaryProperties.find? (·.name = str name) with
  | none => exact allIn_nil
  | some p =>
    have hp : AllIn S (p.name ++ p.value) := fun x hx =>
      h x (List.mem_append_right _ (List.mem_flatMap.2 ⟨p, List.mem_of_find?_eq_some hf, hx⟩))
    exact (allIn_append.1 hp).2

/-! ## The attacker -/

/-- One thing more the attacker can work out: from the octets of the list, the octet. -/
inductive Deduction (env : Env Sym KemKey Nat Nat) (owner : Nat → Option Pid) (attacker : Nat → Prop) :
    List Sym → Sym → Prop
  | octet (b) : Deduction env owner attacker [] (.base b)
  | nonce {r n x} (hr : attacker r) (hn : env.makeNonce256 r = some n) (hx : x ∈ n) :
      Deduction env owner attacker [] x
  | digest {data d x} (hd : env.sha256 data = some d) (hx : x ∈ d) : Deduction env owner attacker data x
  | sign {key data r sig x} (hk : owner key = none) (hs : env.sign key data r = some sig) (hx : x ∈ sig) :
      Deduction env owner attacker data x
  | text {key data sig x} (hv : env.verify key data sig = true) (hx : x ∈ data) :
      Deduction env owner attacker sig x
  | publicKey {algorithm r key pk x} (hr : attacker r) (hg : env.generate algorithm r = some key)
      (hp : Kem.exportPublic env key = some pk) (hx : x ∈ pk) : Deduction env owner attacker algorithm x
  | encapsulate {algorithm r pk ct ss x} (hr : attacker r)
      (he : (env.kem algorithm).Encapsulated pk r ct ss) (hx : x ∈ ct ∨ x ∈ ss) :
      Deduction env owner attacker pk x
  | decapsulate {algorithm r key ct ss x} (hr : attacker r) (hg : env.generate algorithm r = some key)
      (hd : env.decapsulate key ct = some ss) (hx : x ∈ ss) : Deduction env owner attacker ct x

abbrev SymNet (Pid : Type) := Net Sym KemKey Nat Pid

/-- The octets of all tokens sent so far. -/
def heard (w : SymNet Pid) : Set Sym := {x | ∃ p t, (p, .sent t) ∈ w.log ∧ x ∈ t.letters}

/-- The attacker can derive the octet from all tokens sent so far. -/
def Derivable (env : Env Sym KemKey Nat Nat) (owner : Nat → Option Pid) (attacker : Nat → Prop)
    (w : SymNet Pid) (x : Sym) : Prop :=
  Derives (Deduction env owner attacker) (heard w) x

/-- What a call may be given: words the attacker can derive; public credentials; for a participant's own
key only that participant; draws that are not the attacker's. -/
structure Attackable (env : Env Sym KemKey Nat Nat) (owner : Nat → Option Pid) (attacker : Nat → Prop)
    (w : SymNet Pid) (p : Pid) (call : Op Sym × Ambient Sym Nat) : Prop where
  input : ∀ x ∈ call.1.letters, Derivable env owner attacker w x
  own : ∀ h props cand credentials, call.1 = .validateLocalIdentity h props cand →
    env.loadCredentials props = some credentials →
    (∀ q, owner credentials.participantPrivateKey = some q → q = p) ∧
    ∀ x ∈ credentials.letters, Derivable env owner attacker w x
  permissions : ∀ h credential accessPermissions,
    call.1 = .setPermissionsCredentialAndToken h credential →
    env.loadAccessPermissions credential = .ok accessPermissions →
    ∀ x ∈ accessPermissions, Derivable env owner attacker w x
  draws : ¬ attacker call.2.nonceSeed ∧ ¬ attacker call.2.keySeed ∧ ¬ attacker call.2.encapSeed ∧
    ¬ attacker call.2.signSeed

def attackedNetwork (env : Env Sym KemKey Nat Nat) (owner : Nat → Option Pid) (attacker : Nat → Prop) :
    System (SymNet Pid) (Pid × Op Sym × Ambient Sym Nat) :=
  (plugin env).net (Attackable env owner attacker)

/-! ## The invariant -/

/-- Octets that may become known: every nonce, digest, public key and ciphertext; of the signatures, those
that were made or can be made by the attacker; of the secrets, those in which the attacker has a hand. -/
inductive Safe (owner : Nat → Option Pid) (attacker : Nat → Prop) (signed : Nat → List Sym → Prop) :
    Sym → Prop
  | base (b) : Safe owner attacker signed (.base b)
  | nonce (r args i) : Safe owner attacker signed (.cell (.nonce r) args i)
  | digest (args i) : Safe owner attacker signed (.cell .digest args i)
  | publicKey (r args i) : Safe owner attacker signed (.cell (.publicKey r) args i)
  | ciphertext (r args i) : Safe owner attacker signed (.cell (.ciphertext r) args i)
  | rejected (r args i) : Safe owner attacker signed (.cell (.rejected r) args i)
  | signature {key data} (i) (h : owner key = none ∨ signed key data)
      (hd : ∀ x ∈ data, Safe owner attacker signed x) : Safe owner attacker signed (.cell (.signature key) data i)
  | secret {r pk} (i) (h : attacker r ∨ ∀ r' algorithm, pk = term (.publicKey r') algorithm → attacker r') :
      Safe owner attacker signed (.cell (.secret r) pk i)

/-- The safe octets of a world: what was signed is what its log says. -/
def safe (owner : Nat → Option Pid) (attacker : Nat → Prop) (log : List (Pid × Event Sym Nat)) : Set Sym :=
  {x | Safe owner attacker (fun key data => ∃ q, (q, .signed key data) ∈ log) x}

variable {base : Platform Sym Nat} {owner : Nat → Option Pid} {attacker : Nat → Prop}
variable {log log' : List (Pid × Event Sym Nat)}

omit [DecidableEq Pid] in
theorem safe_mono (h : log ⊆ log') : safe owner attacker log ⊆ safe owner attacker log' := by
  intro x hx
  induction hx with
  | base b => exact .base b
  | nonce r args i => exact .nonce r args i
  | digest args i => exact .digest args i
  | publicKey r args i => exact .publicKey r args i
  | ciphertext r args i => exact .ciphertext r args i
  | rejected r args i => exact .rejected r args i
  | signature i hk _ ih =>
    refine .signature i ?_ ih
    rcases hk with hk | ⟨q, hq⟩
    · exact .inl hk
    · exact .inr ⟨q, h hq⟩
  | secret i hk => exact .secret i hk

omit [DecidableEq Pid] in
theorem allIn_term {f : Fn} {args : List Sym} (h : .cell f args 0 ∈ safe owner attacker log) :
    AllIn (safe owner attacker log) (term f args) := by
  intro x hx
  obtain rfl := List.mem_singleton.1 hx
  exact h

omit [DecidableEq Pid] in
/-- The attacker's rules lead from safe octets to safe octets only. -/
theorem safe_closed (ps : List Sym) (x : Sym) (h : Deduction (symbolic base) owner attacker ps x)
    (hps : ∀ p ∈ ps, p ∈ safe owner attacker log) : x ∈ safe owner attacker log := by
  cases h with
  | octet b => exact .base b
  | nonce hr hn hx =>
    obtain rfl := Option.some.inj hn
    obtain ⟨i, -, rfl⟩ := List.mem_map.1 hx
    exact .nonce _ _ i
  | digest hd hx =>
    obtain rfl := Option.some.inj hd
    exact allIn_term (.digest _ _) _ hx
  | sign hk hs hx =>
    obtain rfl := Option.some.inj hs
    exact allIn_term (.signature _ (.inl hk) hps) _ hx
  | text hv hx =>
    obtain rfl := (symbolic_verify base).1 hv
    have hsig := hps _ (List.mem_singleton.2 rfl)
    cases hsig with
    | signature _ _ hd => exact hd _ hx
  | publicKey hr hg hp hx =>
    obtain rfl := Option.some.inj hg
    rw [exportPublic_symbolic] at hp
    obtain rfl := Option.some.inj hp
    exact allIn_term (.publicKey _ _ _) _ hx
  | encapsulate hr he hx =>
    obtain ⟨rfl, rfl⟩ := symbolic_encapsulated base he
    rcases hx with hx | hx
    · exact allIn_term (.ciphertext _ _ _) _ hx
    · exact allIn_term (.secret _ (.inl hr)) _ hx
  | @decapsulate algorithm r key ct ss _ hr hg hd hx =>
    obtain rfl := Option.some.inj hg
    simp only [symbolic, KemKey.decapsulate] at hd
    split at hd
    · split at hd
      · rename_i heq
        obtain rfl := Option.some.inj hd
        refine allIn_term (.secret _ (.inr fun r' algorithm' hpk => ?_)) _ hx
        rw [heq] at hpk
        obtain rfl := Fn.publicKey.inj (term_inj.1 hpk).1
        exact hr
      · obtain rfl := Option.some.inj hd
        exact allIn_term (.rejected _ _ _) _ hx
    · obtain rfl := Option.some.inj hd
      exact allIn_term (.rejected _ _ _) _ hx

omit [DecidableEq Pid] in
theorem derives_safe {w : SymNet Pid}
    (hsent : ∀ p t, (p, .sent t) ∈ w.log → AllIn (safe owner attacker w.log) t.letters) {x : Sym}
    (h : Derivable (symbolic base) owner attacker w x) : x ∈ safe owner attacker w.log := by
  refine Derives.mem_of_closed ?_ safe_closed h
  rintro x ⟨p, t, hlog, hx⟩
  exact hsent p t hlog x hx

/-- The words a participant may send are safe. A handshake that has failed sends nothing. -/
structure SafeState (S : Set Sym) (s : Authentication Sym KemKey Nat) : Prop where
  locals : ∀ l ∈ s.localHeap, AllIn S l.credentials.letters ∧ AllIn S l.kemAlgorithm
  remotes : ∀ r ∈ s.remoteHeap, AllIn S r.localAuthRequest.letters ∧ AllIn S r.localChallenge
  handshakes : ∀ hs ∈ s.handshakeHeap, hs.state ≠ .failed → AllIn S hs.letters

theorem SafeState.mono {S S' : Set Sym} {s : Authentication Sym KemKey Nat} (h : SafeState S s)
    (hS : S ⊆ S') : SafeState S' s where
  locals l hl := ⟨(h.locals l hl).1.mono hS, (h.locals l hl).2.mono hS⟩
  remotes r hr := ⟨(h.remotes r hr).1.mono hS, (h.remotes r hr).2.mono hS⟩
  handshakes hs hm hst := (h.handshakes hs hm hst).mono hS

/-! ## One call keeps the invariant -/

section Step

variable {amb : Ambient Sym Nat} {s s' : Authentication Sym KemKey Nat}

omit [DecidableEq Pid]

theorem safe_base (b : UInt8) : Letter.base b ∈ safe owner attacker log := .base b

theorem credentialHash_safe {c p d h : OctetSeq Sym} {sa ka : Str Sym}
    (hh : credentialHash (symbolic base) c p d sa ka = some h) : AllIn (safe owner attacker log) h := by
  obtain rfl := Option.some.inj hh
  exact allIn_term (.digest _ _)

theorem nonce_safe {r : Nat} {n : OctetSeq Sym} (h : (symbolic base).makeNonce256 r = some n) :
    AllIn (safe owner attacker log) n := by
  obtain rfl := Option.some.inj h
  intro x hx
  obtain ⟨i, -, rfl⟩ := List.mem_map.1 hx
  exact .nonce _ _ i

theorem ownChallenge_safe {r : RemoteIdentity Sym} {c : OctetSeq Sym}
    (hr : AllIn (safe owner attacker log) r.localChallenge)
    (h : ownChallenge (symbolic base) amb r = some c) : AllIn (safe owner attacker log) c := by
  simp only [ownChallenge] at h
  split at h
  · obtain rfl := Option.some.inj h
    exact hr
  · exact nonce_safe h

theorem makeRequest_safe {m t : Token Sym} {ih rh : Handle} {pd : OctetSeq Sym}
    {hs : Handshake Sym KemKey Nat} (hst : SafeState (safe owner attacker log) s)
    (hm : AllIn (safe owner attacker log) m.letters) (hpd : AllIn (safe owner attacker log) pd)
    (h : makeRequest (symbolic base) amb s m ih rh pd = .ok (hs, t)) :
    AllIn (safe owner attacker log) hs.letters ∧ AllIn (safe owner attacker log) t.letters := by
  obtain ⟨l, r, hl, hr, hreq, -, -, -, hc1, hh1, rfl⟩ := makeRequest_ok h
  obtain ⟨key, hgen, -, hexp⟩ := hreq.key
  obtain ⟨h2, hc2, hct⟩ := hreq.unset
  have hl := hst.locals l (List.mem_of_getElem? (findLocal_eq_some.1 hl).2)
  have hr := hst.remotes r (List.mem_of_getElem? (findRemote_eq_some.1 hr).2)
  have hc1 := ownChallenge_safe hr.2 hc1
  have hh1 : AllIn (safe owner attacker log) hs.hash1 := credentialHash_safe hh1
  have hpk : AllIn (safe owner attacker log) hs.publicKey := by
    obtain rfl := Option.some.inj hgen
    rw [exportPublic_symbolic] at hexp
    obtain hexp := Option.some.inj hexp
    rw [← hexp]
    exact allIn_term (.publicKey _ _ _)
  constructor
  · simp only [Handshake.letters, h2, hc2, hct, allIn_append, allIn_nil, hh1, hc1, hpk, and_self]
  · exact allIn_addBinProperty safe_base (allIn_addBinProperty safe_base
      (allIn_writeCredentials safe_base (allIn_writer safe_base hm _) hl.1 hl.2 hpd) _ hpk) _ hc1

/-- A Reply is safe once its signature is. -/
theorem makeReply_safe {m t : Token Sym} {ih rh : Handle} {pd data : OctetSeq Sym} {key : Nat}
    {hs : Handshake Sym KemKey Nat} (hst : SafeState (safe owner attacker log) s)
    (hm : AllIn (safe owner attacker log) m.letters) (hpd : AllIn (safe owner attacker log) pd)
    (h : makeReply (symbolic base) amb s m ih rh pd = .ok (hs, t, key, data)) :
    AllIn (safe owner attacker log) hs.letters ∧ AllIn (safe owner attacker log) data ∧
      ∀ {S : Set Sym}, safe owner attacker log ⊆ S → .cell (.signature key) data 0 ∈ S → AllIn S t.letters := by
  obtain ⟨l, r, sig, hl, hr, hrep, -, -, -, -, -, hc2, hh2, -, hser, hsig, rfl⟩ := makeReply_ok h
  have hl := hst.locals l (List.mem_of_getElem? (findLocal_eq_some.1 hl).2)
  have hr := hst.remotes r (List.mem_of_getElem? (findRemote_eq_some.1 hr).2)
  have hc2 := ownChallenge_safe hr.2 hc2
  have hh2 : AllIn (safe owner attacker log) hs.hash2 := credentialHash_safe hh2
  have hh1 : AllIn (safe owner attacker log) hs.hash1 := by
    obtain ⟨v, hv, -, -, hvh⟩ := hrep.validated
    obtain ⟨-, -, -, -, -, -, -, -, hhash⟩ := validateRemoteCredentials_ok hv
    rw [hvh]
    exact credentialHash_safe hhash
  have hc1 : AllIn (safe owner attacker log) hs.challenge1 := by
    rw [hrep.challenge1]
    exact allIn_getBinPropertyValue hm _
  have hpk : AllIn (safe owner attacker log) hs.publicKey := by
    rw [hrep.publicKey]
    exact allIn_getBinPropertyValue hm _
  have hct : AllIn (safe owner attacker log) hs.ciphertext := by
    rw [(symbolic_encapsulated base hrep.encapsulated).1]
    exact allIn_term (.ciphertext _ _ _)
  have hletters : AllIn (safe owner attacker log) hs.letters := by
    simp only [Handshake.letters, allIn_append, hh1, hh2, hc1, hc2, hpk, hct, and_self]
  refine ⟨hletters, ?_, fun {S} hS hcell => ?_⟩
  · obtain rfl := Option.some.inj hser
    exact (allIn_transcripts safe_base hletters).1
  · have hbase : ∀ b, Letter.base b ∈ S := fun b => hS (safe_base b)
    have hsigS : AllIn S sig := by
      obtain rfl := Option.some.inj hsig
      intro x hx
      obtain rfl := List.mem_singleton.1 hx
      exact hcell
    exact allIn_addBinProperty hbase (allIn_addBinProperty hbase (allIn_addBinProperty hbase
      (allIn_addBinProperty hbase (allIn_writeCredentials hbase (allIn_emptyToken hbase _) (hl.1.mono hS)
        (hl.2.mono hS) (hpd.mono hS)) _ (hct.mono hS)) _ (hc1.mono hS)) _ (hc2.mono hS)) _ hsigS

/-- An accepted Reply leaves safe words, and a safe transcript to sign. -/
theorem replyAccepted_safe {l : LocalIdentity Sym Nat} {r : RemoteIdentity Sym}
    {hs hs' : Handshake Sym KemKey Nat} {inp : Token Sym} {data sig : OctetSeq Sym}
    (hin : AllIn (safe owner attacker log) inp.letters) (hhs : AllIn (safe owner attacker log) hs.letters)
    (h : ReplyAccepted (symbolic base) amb l r hs inp hs' data sig) :
    AllIn (safe owner attacker log) hs'.letters ∧ AllIn (safe owner attacker log) data ∧
      sig = term (.signature l.credentials.participantPrivateKey) data := by
  obtain ⟨v, hv, -, -, hvh, -⟩ := h.validated
  obtain ⟨-, -, -, -, -, -, -, -, hhash⟩ := validateRemoteCredentials_ok hv
  have hh2 : AllIn (safe owner attacker log) hs'.hash2 := by
    rw [hvh]
    exact credentialHash_safe hhash
  have hletters : AllIn (safe owner attacker log) hs'.letters := by
    simp only [Handshake.letters, allIn_append] at hhs ⊢
    rw [h.frame.hash1, h.frame.challenge1, h.frame.publicKey, h.challenge2, h.ciphertext]
    exact ⟨⟨⟨⟨⟨hhs.1.1.1.1.1, hh2⟩, hhs.1.1.1.2⟩, allIn_getBinPropertyValue hin _⟩, hhs.1.2⟩,
      allIn_getBinPropertyValue hin _⟩
  obtain ⟨hser, hsig⟩ := h.signed
  obtain rfl := Option.some.inj hser
  exact ⟨hletters, (allIn_transcripts safe_base hletters).2, (Option.some.inj hsig).symm⟩

/-- The log after party `p` has set `ev` free. -/
def logged (p : Pid) (ev : List (Event Sym Nat)) (log : List (Pid × Event Sym Nat)) :
    List (Pid × Event Sym Nat) := ev.map (p, ·) ++ log

theorem safe_logged (p : Pid) (ev : List (Event Sym Nat)) :
    safe owner attacker log ⊆ safe owner attacker (logged p ev log) :=
  safe_mono fun _ h => List.mem_append_right _ h

theorem signature_logged {p : Pid} {ev : List (Event Sym Nat)} {key : Nat} {data : OctetSeq Sym}
    (hmem : .signed key data ∈ ev) (hd : AllIn (safe owner attacker log) data) :
    .cell (.signature key) data 0 ∈ safe owner attacker (logged p ev log) :=
  .signature 0 (.inr ⟨p, List.mem_append_left _ (List.mem_map.2 ⟨_, hmem, rfl⟩)⟩)
    (hd.mono (safe_logged p ev))

theorem SafeState.addHandshake {S : Set Sym} (h : SafeState S s) {hs : Handshake Sym KemKey Nat}
    (hhs : AllIn S hs.letters) : SafeState S (s.addHandshake hs) where
  locals := h.locals
  remotes := h.remotes
  handshakes hs' hmem hst := by
    rcases List.mem_append.1 hmem with hmem | hmem
    · exact h.handshakes hs' hmem hst
    · obtain rfl := List.mem_singleton.1 hmem
      exact hhs

theorem SafeState.setHandshake {S : Set Sym} (h : SafeState S s) (p : Nat) {hs : Handshake Sym KemKey Nat}
    (hhs : hs.state ≠ .failed → AllIn S hs.letters) : SafeState S (s.setHandshake p hs) where
  locals := h.locals
  remotes := h.remotes
  handshakes hs' hmem hst := by
    rcases List.mem_or_eq_of_mem_set hmem with hmem | rfl
    · exact h.handshakes hs' hmem hst
    · exact hhs hst

/-- Processing a message keeps the state safe and sends safe words. -/
theorem process_safe {p : Pid} {inp : Token Sym} {h : Handle} {i : Nat}
    {hs : Handshake Sym KemKey Nat} {l : LocalIdentity Sym Nat} {r : RemoteIdentity Sym}
    (hst : SafeState (safe owner attacker log) s) (hin : AllIn (safe owner attacker log) inp.letters)
    (hf : s.findHandshake h = some (i, hs)) {o : Outcome Sym Nat} {hs' : Handshake Sym KemKey Nat}
    (hpm : processMessage (symbolic base) amb l r hs h inp = (o, hs')) :
    SafeState (safe owner attacker (logged p o.events log)) (s.setHandshake i hs') ∧
      ∀ t, .sent t ∈ o.events → AllIn (safe owner attacker (logged p o.events log)) t.letters := by
  have hold := hst.handshakes hs (List.mem_of_getElem? (findHandshake_eq_some.1 hf).2)
  have hst' := hst.mono (safe_logged p o.events)
  rcases processMessage_cases hpm with ⟨-, ⟨msg, ho⟩, rfl⟩ | ⟨hp, ⟨⟨msg, ho⟩, hfail, -⟩ |
    ⟨data, sig, hacc, ho⟩ | ⟨hacc, ho⟩⟩
  · refine ⟨hst'.setHandshake i fun hne => (hold hne).mono (safe_logged p _), fun t ht => ?_⟩
    simp [ho, Outcome.events, fail] at ht
  · refine ⟨hst'.setHandshake i fun hne => absurd hfail hne, fun t ht => ?_⟩
    simp [ho, Outcome.events, fail] at ht
  · obtain ⟨hletters, hdata, rfl⟩ := replyAccepted_safe hin (hold (by rw [hp]; decide)) hacc
    have hsig : .signed l.credentials.participantPrivateKey data ∈ o.events := by simp [ho, Outcome.events]
    refine ⟨hst'.setHandshake i fun _ => hletters.mono (safe_logged p _), fun t ht => ?_⟩
    have ht : t = (Token.writer {} "pqsec-dds.auth:1.0+Final").addBinProperty "signature"
        (term (.signature l.credentials.participantPrivateKey) data) := by
      simpa [ho, Outcome.events] using ht
    rw [ht]
    exact allIn_addBinProperty safe_base (allIn_emptyToken safe_base _) _
      (allIn_term (signature_logged hsig hdata))
  · have hletters : AllIn (safe owner attacker log) hs'.letters := by
      rw [hacc.updated]
      exact hold (by rw [hp]; decide)
    refine ⟨hst'.setHandshake i fun _ => hletters.mono (safe_logged p _), fun t ht => ?_⟩
    obtain rfl : t = {} := by simpa [ho, Outcome.events] using ht
    simp [Token.letters]

theorem getIdentityToken_safe {S : Set Sym} (hS : ∀ b, Letter.base b ∈ S) {token t : Token Sym} {h : Handle}
    (hst : SafeState S s) (hin : AllIn S token.letters) (ht : getIdentityToken s token h = .ok t) :
    AllIn S t.letters := by
  simp only [getIdentityToken, bind_ok, need_ok, pure_ok, Prod.exists] at ht
  obtain ⟨p, l, hl, rfl⟩ := ht
  have hl := (hst.locals l (List.mem_of_getElem? (findLocal_eq_some.1 hl).2)).1
  simp only [Credentials.letters, allIn_append] at hl
  obtain ⟨⟨⟨⟨⟨⟨-, hsn⟩, halgo⟩, -⟩, hca⟩, hcalgo⟩, -⟩ := hl
  exact allIn_addProperty hS (allIn_addProperty hS (allIn_addProperty hS (allIn_addProperty hS
    (allIn_writer hS hin _) _ hsn) _ halgo) _ hca) _ hcalgo

theorem SafeState.step {p : Pid} {op : Op Sym} {ev : List (Event Sym Nat)}
    (hst : SafeState (safe owner attacker log) s) (e : Effect (symbolic base) amb s op s' ev)
    (hin : AllIn (safe owner attacker log) op.letters)
    (hcred : ∀ h props cand credentials, op = .validateLocalIdentity h props cand →
      (symbolic base).loadCredentials props = some credentials →
      AllIn (safe owner attacker log) credentials.letters)
    (hperm : ∀ h credential accessPermissions, op = .setPermissionsCredentialAndToken h credential →
      (symbolic base).loadAccessPermissions credential = .ok accessPermissions →
      AllIn (safe owner attacker log) accessPermissions) :
    SafeState (safe owner attacker (logged p ev log)) s' ∧
      ∀ t, .sent t ∈ ev → AllIn (safe owner attacker (logged p ev log)) t.letters := by
  have hst' := hst.mono (safe_logged p ev)
  have hempty : AllIn (safe owner attacker (logged p ev log)) (Token.letters {}) := by simp [Token.letters]
  have hauth : ∀ {r : RemoteIdentity Sym}, AllIn (safe owner attacker (logged p ev log)) r.localAuthRequest.letters →
      (ev = [] ∨ ev = [.sent r.localAuthRequest] ∨ ev = [.sent {}]) →
      ∀ t, .sent t ∈ ev → AllIn (safe owner attacker (logged p ev log)) t.letters := by
    rintro r hr (hev | hev | hev) t ht <;> rw [hev] at ht
    · cases ht
    · obtain rfl := Event.sent.inj (List.mem_singleton.1 ht)
      exact hr
    · obtain rfl := Event.sent.inj (List.mem_singleton.1 ht)
      exact hempty
  cases e with
  | nothing => exact ⟨hst', fun t ht => by cases ht⟩
  | provider f => exact ⟨⟨hst'.locals, hst'.remotes, hst'.handshakes⟩, fun t ht => by cases ht⟩
  | @localIdentity _ _ _ credentials f g k hload _ hkem =>
    refine ⟨⟨fun l hl => ?_, hst'.remotes, hst'.handshakes⟩, fun t ht => ?_⟩
    · rcases List.mem_append.1 hl with hl | hl
      · exact hst'.locals l hl
      · obtain rfl := List.mem_singleton.1 hl
        exact ⟨(hcred _ _ _ _ rfl hload).mono (safe_logged p _), allIn_kemAlgorithm safe_base hkem⟩
    · obtain rfl := Event.sent.inj (List.mem_singleton.1 ht)
      exact hempty
  | identityToken ht =>
    refine ⟨hst', fun t h => ?_⟩
    obtain rfl := Event.sent.inj (List.mem_singleton.1 h)
    exact getIdentityToken_safe safe_base hst' (hin.mono (safe_logged p _)) ht
  | @permissions _ _ i l perms hl hp =>
    refine ⟨⟨fun l' hl' => ?_, hst'.remotes, hst'.handshakes⟩, fun t ht => by cases ht⟩
    rcases List.mem_or_eq_of_mem_set hl' with hl' | rfl
    · exact hst'.locals l' hl'
    · have hold := hst'.locals l (List.mem_of_getElem? (findLocal_eq_some.1 hl).2)
      have hnew : AllIn (safe owner attacker (logged p [] log)) perms :=
        (hperm _ _ _ rfl hp).mono (safe_logged p _)
      simp only [Credentials.letters, allIn_append] at hold ⊢
      exact ⟨⟨hold.1.1, hnew⟩, hold.2⟩
  | @remoteKnown _ _ _ _ _ _ i r r' _ hr hfr hev =>
    have hold := hst'.remotes r (List.mem_of_getElem? (findRemote_eq_some.1 hr).2)
    refine ⟨⟨hst'.locals, fun r'' hr'' => ?_, hst'.handshakes⟩, hauth hold.1 hev⟩
    rcases List.mem_or_eq_of_mem_set hr'' with hr'' | rfl
    · exact hst'.remotes r'' hr''
    · rw [hfr.localAuthRequest, hfr.localChallenge]
      exact hold
  | @remoteNew _ _ _ _ _ _ challenge r _ hn hc _ _ ha hev =>
    have hnonce : AllIn (safe owner attacker (logged p ev log)) challenge := nonce_safe hn
    have hreq : AllIn (safe owner attacker (logged p ev log)) r.localAuthRequest.letters := by
      rw [ha]
      exact allIn_addBinProperty safe_base (allIn_emptyToken safe_base _) _ hnonce
    refine ⟨⟨hst'.locals, fun r' hr' => ?_, hst'.handshakes⟩, hauth hreq hev⟩
    rcases List.mem_append.1 hr' with hr' | hr'
    · exact hst'.remotes r' hr'
    · obtain rfl := List.mem_singleton.1 hr'
      rw [hc]
      exact ⟨hreq, hnonce⟩
  | request h =>
    obtain ⟨hm, hpd⟩ := allIn_append.1 hin
    obtain ⟨hletters, ht⟩ := makeRequest_safe hst hm hpd h
    refine ⟨hst'.addHandshake (hletters.mono (safe_logged p _)), fun t' ht' => ?_⟩
    obtain rfl := Event.sent.inj (List.mem_singleton.1 ht')
    exact ht.mono (safe_logged p _)
  | @reply m ih rh pd hs t key data h =>
    obtain ⟨hm, hpd⟩ := allIn_append.1 hin
    obtain ⟨hletters, hdata, ht⟩ := makeReply_safe hst hm hpd h
    refine ⟨hst'.addHandshake (hletters.mono (safe_logged p _)), fun t' ht' => ?_⟩
    obtain rfl : t' = t := by simpa using ht'
    exact ht (safe_logged p _) (signature_logged (by simp) hdata)
  | @process out inp h i hs l r hf hi =>
    exact process_safe hst (allIn_append.1 hin).2 hf rfl
  | forgetHandshake => exact ⟨⟨hst'.locals, hst'.remotes, hst'.handshakes⟩, fun t ht => by cases ht⟩
  | forgetLocal => exact ⟨⟨hst'.locals, hst'.remotes, hst'.handshakes⟩, fun t ht => by cases ht⟩
  | forgetRemote => exact ⟨⟨hst'.locals, hst'.remotes, hst'.handshakes⟩, fun t ht => by cases ht⟩

end Step

/-! ## Runs -/

/-- Everything that is or may be sent in the world is safe. -/
structure SafeWorld (owner : Nat → Option Pid) (attacker : Nat → Prop) (w : SymNet Pid) : Prop where
  node : ∀ p, SafeState (safe owner attacker w.log) (w.node p)
  sent : ∀ p t, (p, .sent t) ∈ w.log → AllIn (safe owner attacker w.log) t.letters

variable {w w' : SymNet Pid} {tr tr' : Trace (SymNet Pid) (Pid × Op Sym × Ambient Sym Nat)}

theorem safeWorld (hr : Run (attackedNetwork (symbolic base) owner attacker) tr w) :
    SafeWorld owner attacker w := by
  refine hr.state_inv (I := SafeWorld owner attacker) ?_ ?_
  · rintro w ⟨hstart, hlog⟩
    refine ⟨fun p => ?_, ?_⟩
    · rw [hstart p]
      exact ⟨nofun, nofun, nofun⟩
    · rw [hlog]
      exact nofun
  · rintro w ⟨p, op, amb⟩ w' hw ⟨hok, -, rfl⟩
    have hknown : ∀ {x}, Derivable (symbolic base) owner attacker w x → x ∈ safe owner attacker w.log :=
      fun h => derives_safe hw.sent h
    obtain ⟨hnode, hsent⟩ := (hw.node p).step (p := p) (exec_effect op) (fun x hx => hknown (hok.input x hx))
      (fun h props cand credentials heq hload x hx =>
        hknown ((hok.own h props cand credentials heq hload).2 x hx))
      (fun h credential perms heq hload x hx => hknown (hok.permissions h credential perms heq hload x hx))
    constructor
    · intro q
      by_cases hq : q = p
      · subst hq
        rw [Machine.act_node_self]
        exact hnode
      · rw [Machine.act_node_of_ne w _ hq]
        exact (hw.node q).mono (safe_mono (Machine.log_subset_act w p _))
    · intro q t hlog
      rcases Machine.mem_act_log.1 hlog with ⟨rfl, ht⟩ | hlog
      · exact hsent t ht
      · exact (hw.sent q t hlog).mono (safe_mono (Machine.log_subset_act w p _))

omit [DecidableEq Pid] in
/-- What an attacker can feed into a call forges no signature. -/
theorem attackable_admissible {p : Pid} {call : Op Sym × Ambient Sym Nat} (hw : SafeWorld owner attacker w)
    (h : Attackable (symbolic base) owner attacker w p call) : Admissible (symbolic base) owner w p call where
  own h' props cand credentials q heq hload hq := (h.own h' props cand credentials heq hload).1 q hq
  unforged out inp h' heq key data hkey hver := by
    have hin : AllIn (safe owner attacker w.log) (inp.getBinPropertyValue "signature") := by
      refine allIn_getBinPropertyValue (fun x hx => ?_) _
      refine derives_safe hw.sent (h.input x ?_)
      rw [heq]
      exact List.mem_append_right _ hx
    have hsig : .cell (.signature key) data 0 ∈ safe owner attacker w.log := by
      refine hin _ ?_
      rw [(symbolic_verify base).1 hver]
      exact List.mem_singleton.2 rfl
    cases hsig with
    | signature _ hcase _ =>
      rcases hcase with hnone | hlog
      · simp [hnone] at hkey
      · exact hlog

theorem attacked_run (hr : Run (attackedNetwork (symbolic base) owner attacker) tr w) :
    Run (network (symbolic base) owner) tr w := by
  refine hr.weaken (J := fun _ w => SafeWorld owner attacker w) (fun _ h => h) (fun hr => safeWorld hr) ?_
  rintro tr w ⟨p, call⟩ w' hw ⟨hok, hact⟩
  exact ⟨attackable_admissible hw hok, hact⟩

/-- The draws of every call of a run are the participants' own. -/
theorem honest_draws (hr : Run (attackedNetwork (symbolic base) owner attacker) tr w) {p : Pid}
    {s : Authentication Sym KemKey Nat} {op : Op Sym} {amb : Ambient Sym Nat}
    (hmem : (s, op, amb) ∈ Machine.calls p tr) : ¬ attacker amb.keySeed ∧ ¬ attacker amb.encapSeed := by
  obtain ⟨w₀, hmem, -⟩ := Machine.mem_calls.1 hmem
  obtain ⟨hok, -⟩ := Machine.log_subset_of_mem hr hmem
  exact ⟨hok.draws.2.1, hok.draws.2.2.1⟩

omit [DecidableEq Pid] in
/-- A Request has the public key of a key that was generated for it. -/
theorem requested_publicKey {tr : Calls Sym KemKey Nat Nat} {i : Nat} {hs₀ : Handshake Sym KemKey Nat}
    (hq : RequestedIn (symbolic base) tr i hs₀) :
    ∃ s amb m ih rh pd algorithm, (s, .beginHandshakeRequest 0 m ih rh pd, amb) ∈ tr ∧
      i = s.handshakeHeap.length ∧ hs₀.publicKey = term (.publicKey amb.keySeed) algorithm := by
  obtain ⟨s, amb, m, ih, rh, pd, t, hmem, hi, hq⟩ := hq
  obtain ⟨l, r, -, -, hreq, -⟩ := makeRequest_ok hq
  obtain ⟨key, hgen, -, hexp⟩ := hreq.key
  obtain rfl := Option.some.inj hgen
  rw [exportPublic_symbolic] at hexp
  exact ⟨s, amb, m, ih, rh, pd, l.kemAlgorithm, hmem, hi, (Option.some.inj hexp).symm⟩

omit [DecidableEq Pid] in
/-- A Reply has a secret that was encapsulated for it. -/
theorem replied_secret {tr : Calls Sym KemKey Nat Nat} {j : Nat} {hs₁ : Handshake Sym KemKey Nat}
    (hq : RepliedIn (symbolic base) tr j hs₁) :
    ∃ s amb m ih rh pd, (s, .beginHandshakeReply 0 m ih rh pd, amb) ∈ tr ∧ j = s.handshakeHeap.length ∧
      hs₁.secret = term (.secret amb.encapSeed) hs₁.publicKey := by
  obtain ⟨s, amb, m, ih, rh, pd, t, key, data, hmem, hj, hq⟩ := hq
  obtain ⟨l, r, sig, -, -, hrep, -⟩ := makeReply_ok hq
  exact ⟨s, amb, m, ih, rh, pd, hmem, hj, (symbolic_encapsulated base hrep.encapsulated).2⟩

/-- The secret of a completed handshake with a participant's key is one participant's encapsulation to
another one's public key. -/
theorem completed_secret (hr : Run (attackedNetwork (symbolic base) owner attacker) tr w) {p q : Pid} {i : Nat}
    {hs : Handshake Sym KemKey Nat} {certificate : Certificate Sym Nat}
    (hget : (w.node p).handshakeHeap[i]? = some hs) (hst : hs.state = .ok ∨ hs.state = .okFinalMessage)
    (hcert : hs.remoteCertificate = some certificate) (hq : owner certificate.publicKey = some q) :
    ∃ r r' algorithm, ¬ attacker r ∧ ¬ attacker r' ∧
      hs.secret = term (.secret r) (term (.publicKey r') algorithm) := by
  obtain ⟨A, B, i', j', hs₀, hs₁, hreq, hpk₀, hrep, hpk₁, hsecret⟩ :=
    completed_origin (symbolic_ideal base) (attacked_run hr) hget hst hcert hq
  obtain ⟨s₀, amb₀, _, _, _, _, algorithm, hmem₀, -, hpk⟩ := requested_publicKey hreq
  obtain ⟨s₁, amb₁, _, _, _, _, hmem₁, -, hss⟩ := replied_secret hrep
  refine ⟨amb₁.encapSeed, amb₀.keySeed, algorithm, (honest_draws hr hmem₁).2, (honest_draws hr hmem₀).1, ?_⟩
  rw [hsecret, hss, ← hpk₁, hpk₀, hpk]

omit [DecidableEq Pid] in
/-- Handing out a secret means handing out that of a completed handshake. -/
theorem getSharedSecret_ok {s : Authentication Sym KemKey Nat} {h : Handle} {secret : SharedSecret Sym} {i : Nat}
    {hs : Handshake Sym KemKey Nat} (hsec : getSharedSecret s h = .ok secret)
    (hf : s.findHandshake h = some (i, hs)) :
    (hs.state = .ok ∨ hs.state = .okFinalMessage) ∧ secret.sharedSecret = hs.secret := by
  simp only [getSharedSecret, hf] at hsec
  split at hsec
  · rename_i hc
    obtain rfl := Except.ok.inj hsec
    exact ⟨by simpa [Handshake.completed] using hc, rfl⟩
  · cases hsec

/-- **Secrecy.** A secret that `get_shared_secret` hands out for a handshake whose peer key belongs to a
participant is not derivable from the tokens sent so far, nor from those sent at any later time. -/
theorem secrecy (base : Platform Sym Nat) (owner : Nat → Option Pid) (attacker : Nat → Prop)
    (hr : Run (attackedNetwork (symbolic base) owner attacker) tr w)
    (hs : Steps (attackedNetwork (symbolic base) owner attacker) w tr' w')
    {p q : Pid} {h : Handle} {i : Nat} {handshake : Handshake Sym KemKey Nat}
    {certificate : Certificate Sym Nat} {secret : SharedSecret Sym}
    (hf : (w.node p).findHandshake h = some (i, handshake))
    (hcert : handshake.remoteCertificate = some certificate) (hq : owner certificate.publicKey = some q)
    (hsec : getSharedSecret (w.node p) h = .ok secret) :
    ¬ ∀ x ∈ secret.sharedSecret, Derivable (symbolic base) owner attacker w' x := by
  intro hderiv
  obtain ⟨hst, hsecret⟩ := getSharedSecret_ok hsec hf
  obtain ⟨r, r', algorithm, hr₀, hr₁, hterm⟩ :=
    completed_secret hr (findHandshake_eq_some.1 hf).2 hst hcert hq
  rw [hsecret, hterm] at hderiv
  have hsafe : .cell (.secret r) (term (.publicKey r') algorithm) 0 ∈ safe owner attacker w'.log :=
    derives_safe (safeWorld (hr.append hs)).sent (hderiv _ (List.mem_singleton.2 rfl))
  cases hsafe with
  | secret _ hcase =>
    rcases hcase with hattacker | hattacker
    · exact hr₀ hattacker
    · exact hr₁ (hattacker r' algorithm rfl)

/-! ## The complete session under attack

The attacker owns every draw from 100 on and every signature key pair but 1 and 2. -/

section Sample

def sampleAttacker (r : Nat) : Prop := 100 ≤ r

abbrev attackedSample : System SampleNet (Bool × SampleCall) :=
  attackedNetwork sampleEnv sampleOwner sampleAttacker

/-- A call whose words are plain octets or were sent before. -/
theorem attackable_call {w : SampleNet} {p : Bool} {call : SampleCall}
    (hin : ∀ x ∈ call.1.letters, (∃ b, x = .base b) ∨ x ∈ heard w)
    (hlocal : ∀ h props cand, call.1 ≠ .validateLocalIdentity h props cand)
    (hperm : ∀ h credential, call.1 ≠ .setPermissionsCredentialAndToken h credential)
    (hdraws : call.2.nonceSeed < 100 ∧ call.2.keySeed < 100 ∧ call.2.encapSeed < 100 ∧ call.2.signSeed < 100) :
    Attackable sampleEnv sampleOwner sampleAttacker w p call where
  input x hx := by
    rcases hin x hx with ⟨b, rfl⟩ | hheard
    · exact .infer (.octet b) nofun
    · exact .known hheard
  own h props cand _ heq := absurd heq (hlocal h props cand)
  permissions h credential _ heq := absurd heq (hperm h credential)
  draws := by
    simp only [sampleAttacker]
    omega

theorem attackable_local (w : SampleNet) {p : Bool} {n : UInt8} (h : sampleOwner n.toNat = some p)
    (hn : n.toNat < 100) : Attackable sampleEnv sampleOwner sampleAttacker w p (localCall n) where
  input := nofun
  own := by
    rintro _ _ _ credentials heq hload
    obtain ⟨-, rfl, -⟩ := Op.validateLocalIdentity.inj heq
    obtain rfl := Option.some.inj hload
    refine ⟨fun q hq => Option.some.inj (hq.symm.trans h), fun x hx => ?_⟩
    have hbase : ∃ b, x = .base b := by
      simp only [Credentials.letters, sampleCertificate, str, List.mem_append, List.mem_map, List.mem_cons,
        List.not_mem_nil, or_false] at hx
      rcases hx with (((((( rfl | rfl) | rfl) | ⟨b, -, rfl⟩) | ⟨b, -, rfl⟩) | rfl) | ⟨b, -, rfl⟩) <;>
        exact ⟨_, rfl⟩
    obtain ⟨b, rfl⟩ := hbase
    exact .infer (.octet b) nofun
  permissions := nofun
  draws := by
    simp only [sampleAttacker, localCall, sampleAmbient]
    omega

theorem attacked_step {tr : Trace SampleNet (Bool × SampleCall)} {w : SampleNet} {p : Bool} {call : SampleCall}
    (hr : Run attackedSample tr w) (hlen : tr.length < 2 ^ 31 - 2)
    (hok : Attackable sampleEnv sampleOwner sampleAttacker w p call) : Run attackedSample ((w, p, call) :: tr) (step w p call) := by
  have hcalls : (Machine.calls p tr).length ≤ tr.length := List.length_filterMap_le _ _
  exact .step hr ⟨hok, defined_of_short (Machine.net_solo hr p) (lt_of_le_of_lt hcalls hlen) call, rfl⟩

/-- A token that was sent is heard. -/
theorem heard_step {w : SampleNet} {p : Bool} {call : SampleCall} {s : Authentication Sym KemKey Nat}
    (hs : w.node p = s) (hsent : .sent (sentBy s call) ∈ (exec sampleEnv s call).2) {x : Sym}
    (hx : x ∈ (sentBy s call).letters) : x ∈ heard (step w p call) := by
  refine ⟨p, sentBy s call, Machine.mem_act_log.2 (.inl ⟨rfl, ?_⟩), hx⟩
  rw [hs]
  exact hsent

theorem request_sent : .sent (sentBy (acquainted 1 2) requestCall) ∈ (exec sampleEnv (acquainted 1 2) requestCall).2 := by
  decide +kernel

theorem reply_sent : .sent (sentBy (acquainted 2 1) replyCall) ∈ (exec sampleEnv (acquainted 2 1) replyCall).2 := by
  decide +kernel

theorem final_sent : .sent (sentBy (after (acquainted 1 2) requestCall) replyProcessed) ∈
    (exec sampleEnv (after (acquainted 1 2) requestCall) replyProcessed).2 := by
  decide +kernel

/-- The participants are acquainted; the Request is not out yet. -/
def acquaintedNet : SampleNet :=
  step (step (step (step sampleStart false (localCall 1)) true (localCall 2)) false (remoteCall 2)) true
    (remoteCall 1)

theorem acquainted_node : acquaintedNet.node false = acquainted 1 2 := by
  simp [acquaintedNet, step_node, acquainted, sampleStart]

theorem attacked_session : ∃ tr, Run attackedSample tr sessionDone := by
  have hremote : ∀ n : UInt8, ∀ x ∈ (remoteCall n).1.letters, ∃ b, x = .base b := by
    intro n x hx
    simp only [remoteCall, Op.letters, Token.letters, Token.writer, str, List.flatMap_nil, List.append_nil,
      List.nil_append, List.mem_map] at hx
    obtain ⟨b, -, rfl⟩ := hx
    exact ⟨b, rfl⟩
  have hbase : ∀ x ∈ requestCall.1.letters, ∃ b, x = .base b := by
    simp [requestCall, Op.letters, Token.letters]
  have h1 := attacked_step (.init (s := sampleStart) ⟨fun _ => rfl, rfl⟩) (by decide)
    (attackable_local sampleStart (n := 1) rfl (by decide))
  have h2 := attacked_step h1 (by decide) (attackable_local _ (n := 2) rfl (by decide))
  have h3 := attacked_step h2 (by decide) (attackable_call (p := false) (fun x hx => .inl (hremote 2 x hx)) nofun nofun
    (by decide))
  have h4 : Run attackedSample _ acquaintedNet := attacked_step h3 (by decide)
    (attackable_call (p := true) (fun x hx => .inl (hremote 1 x hx)) nofun nofun (by decide))
  have h5 : Run attackedSample _ requested :=
    attacked_step h4 (by decide) (attackable_call (fun x hx => .inl (hbase x hx)) nofun nofun (by decide))
  have hrequest : ∀ x ∈ replyCall.1.letters, (∃ b, x = .base b) ∨ x ∈ heard requested := by
    intro x hx
    simp only [replyCall, Op.letters] at hx
    rcases List.mem_append.1 hx with hx | hx
    · exact .inr (heard_step acquainted_node request_sent hx)
    · exact .inl ⟨2, List.mem_singleton.1 hx⟩
  have h6 : Run attackedSample _ replied := attacked_step h5 (by decide) (attackable_call hrequest nofun nofun (by decide))
  have hreply : ∀ x ∈ replyProcessed.1.letters, (∃ b, x = .base b) ∨ x ∈ heard replied := by
    intro x hx
    simp only [replyProcessed, Op.letters, Token.letters_empty, List.nil_append] at hx
    exact .inr (heard_step requested_node.2 reply_sent hx)
  have h7 : Run attackedSample _ finalSent := attacked_step h6 (by decide) (attackable_call hreply nofun nofun (by decide))
  have hfinal : ∀ x ∈ finalProcessed.1.letters, (∃ b, x = .base b) ∨ x ∈ heard finalSent := by
    intro x hx
    simp only [finalProcessed, Op.letters, Token.letters_empty, List.nil_append] at hx
    exact .inr (heard_step replied_node.1 final_sent hx)
  exact ⟨_, attacked_step h7 (by decide) (attackable_call hfinal nofun nofun (by decide))⟩

theorem initiatorDone_secret : ∃ (i : Nat) (handshake : Handshake Sym KemKey Nat) (secret : SharedSecret Sym),
    initiatorDone.findHandshake 3 = some (i, handshake) ∧
    handshake.remoteCertificate = some (sampleCertificate 2) ∧
    getSharedSecret initiatorDone 3 = .ok secret ∧ secret.sharedSecret ≠ [] := by
  have hhandshake : ((initiatorDone.findHandshake 3).any fun x =>
      decide (x.2.remoteCertificate = some (sampleCertificate 2))) = true := by decide +kernel
  have hsecret : ((getSharedSecret initiatorDone 3).toOption.any fun x => decide (x.sharedSecret ≠ [])) = true := by
    decide +kernel
  obtain ⟨⟨i, handshake⟩, hf, hcert⟩ := (Option.any_eq_true _ _).1 hhandshake
  obtain ⟨secret, hsec, hne⟩ := (Option.any_eq_true _ _).1 hsecret
  refine ⟨i, handshake, secret, hf, of_decide_eq_true hcert, ?_, of_decide_eq_true hne⟩
  rcases hget : getSharedSecret initiatorDone 3 with e | secret'
  · rw [hget] at hsec
    cases hsec
  · rw [hget] at hsec
    rw [Option.some.inj hsec]

/-- The secret of the complete session stays with its two ends. -/
theorem secrecy_sample : ∃ (secret : SharedSecret Sym), getSharedSecret (sessionDone.node false) 3 = .ok secret ∧
    secret.sharedSecret ≠ [] ∧
    ¬ ∀ x ∈ secret.sharedSecret, Derivable sampleEnv sampleOwner sampleAttacker sessionDone x := by
  obtain ⟨tr, hr⟩ := attacked_session
  obtain ⟨i, handshake, secret, hf, hcert, hsec, hne⟩ := initiatorDone_secret
  rw [← sessionDone_node.1] at hf hsec
  exact ⟨secret, hsec, hne, secrecy samplePlatform sampleOwner sampleAttacker hr .refl hf hcert rfl hsec⟩

end Sample

end PqsecDds.OpenDDS
