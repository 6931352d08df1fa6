import PqsecDds.CycloneDDS.Observation
import PqsecDds.CycloneDDS.Ideal
import PqsecDds.Lib.Maps

/-!
# Where the KEM secret goes

`blind` replaces the secrets of a state by values that say no more than whether they are empty. Every operation does on
the blinded state what it does on the state (`Act.Maps`, one lemma for each function from `validate_handshake_token` up),
so nothing the plugin does depends on a secret. `secrets_confined`: only `get_shared_secret` reports anything of it.
-/

namespace PqsecDds.CycloneDDS

open Lib

variable {κ ρ : Type}

/-! ## Blinding -/

/-- Whether a secret is empty is all that is left of it. -/
def blindSecret (ss : Octets) : Octets := if ss.isEmpty then [] else [0]

def SharedSecret.blind (z : HashValue) (x : SharedSecret) : SharedSecret := { x with sharedSecret := z }

def HandshakeInfo.blind (z : HashValue) (hs : HandshakeInfo κ) : HandshakeInfo κ :=
  { hs with kemSs := hs.kemSs.map blindSecret, sharedSecret := hs.sharedSecret.map (SharedSecret.blind z) }

def SecurityObject.blind (z : HashValue) : SecurityObject κ → SecurityObject κ
  | .handshake hs => .handshake (hs.blind z)
  | obj => obj

def Authentication.blind (z : HashValue) (s : Authentication κ) : Authentication κ :=
  { s with objectHash := mapValues (SecurityObject.blind z) s.objectHash }

def Context.blind (z : HashValue) (c : Context κ) : Context κ := { c with handshake := c.handshake.blind z }

def Answer.blind (z : HashValue) : Answer → Answer
  | .sharedSecret secret => .sharedSecret (secret.map (SharedSecret.blind z))
  | a => a

/-- The same environment, with a KEM that gives blinded secrets. -/
def Env.blind (env : Env κ ρ) : Env κ ρ :=
  { env with
    encapsulate := fun key r => (env.encapsulate key r).map fun e => (e.1, blindSecret e.2)
    decapsulate := fun key ct => (env.decapsulate key ct).map blindSecret }

@[simp] theorem asLocal_blind {z : HashValue} (obj : SecurityObject κ) : (obj.blind z).asLocal = obj.asLocal := by
  cases obj <;> rfl

@[simp] theorem asRemote_blind {z : HashValue} (obj : SecurityObject κ) : (obj.blind z).asRemote = obj.asRemote := by
  cases obj <;> rfl

@[simp] theorem asHandshake_blind {z : HashValue} (obj : SecurityObject κ) :
    (obj.blind z).asHandshake = obj.asHandshake.map (.blind z) := by
  cases obj <;> rfl

variable {z : HashValue}

/-! ## The tables -/

section Tables

variable (s : Authentication κ) (c : Context κ) (obj : SecurityObject κ) (hs : HandshakeInfo κ)
variable (relation : IdentityRelation) (h a l r : Handle)

@[simp] theorem localIdentity_blind : (s.blind z).localIdentity h = s.localIdentity h := by
  simp only [Authentication.localIdentity, Authentication.blind, lookup_mapValues]
  cases s.objectHash.lookup h <;> simp

@[simp] theorem remoteIdentity_blind : (s.blind z).remoteIdentity h = s.remoteIdentity h := by
  simp only [Authentication.remoteIdentity, Authentication.blind, lookup_mapValues]
  cases s.objectHash.lookup h <;> simp

@[simp] theorem handshake_blind : (s.blind z).handshake h = (s.handshake h).map (.blind z) := by
  simp only [Authentication.handshake, Authentication.blind, lookup_mapValues]
  cases s.objectHash.lookup h <;> simp

@[simp] theorem relation_blind : (s.blind z).relation a = s.relation a := rfl

@[simp] theorem putObject_blind : (s.blind z).putObject h (obj.blind z) = (s.putObject h obj).blind z := by
  simp only [Authentication.putObject, Authentication.blind, insert_mapValues]

theorem putLocal_blind (identity : LocalIdentityInfo) :
    (s.blind z).putObject h (.localIdentity identity) = (s.putObject h (.localIdentity identity)).blind z :=
  putObject_blind s (.localIdentity identity) h

theorem putRemote_blind (identity : RemoteIdentityInfo) :
    (s.blind z).putObject h (.remoteIdentity identity) = (s.putObject h (.remoteIdentity identity)).blind z :=
  putObject_blind s (.remoteIdentity identity) h

@[simp] theorem removeObject_blind : (s.blind z).removeObject h = (s.removeObject h).blind z := by
  simp only [Authentication.removeObject, Authentication.blind, erase_mapValues]

@[simp] theorem putRelation_blind : (s.blind z).putRelation a relation = (s.putRelation a relation).blind z := rfl

theorem isHandshakeOf_blind (e : Σ _ : Handle, SecurityObject κ) :
    (s.blind z).isHandshakeOf l r (e.map id fun _ => SecurityObject.blind z) = s.isHandshakeOf l r e := by
  obtain ⟨h, obj⟩ := e
  cases obj <;> rfl

@[simp] theorem findHandshake_blind : (s.blind z).findHandshake l r = s.findHandshake l r := by
  have hcomp : ((s.blind z).isHandshakeOf l r ∘ Sigma.map id fun _ => SecurityObject.blind z) = s.isHandshakeOf l r :=
    funext (isHandshakeOf_blind s l r)
  have hentries : (s.blind z).objectHash.entries = s.objectHash.entries.map (.map id fun _ => SecurityObject.blind z) := rfl
  simp only [Authentication.findHandshake, hentries, List.find?_map, hcomp, Option.map_map]
  rfl

@[simp] theorem findIdentityRelation_blind : (s.blind z).findIdentityRelation l r = s.findIdentityRelation l r := by
  simp only [Authentication.findIdentityRelation, remoteIdentity_blind]

theorem context_blind : (s.blind z).context h = (s.context h).map (.blind z) := by
  simp only [Authentication.context, handshake_blind]
  rcases s.handshake h with _ | hs
  · rfl
  simp only [Option.map_some, Option.bind_eq_bind, Option.bind_some, HandshakeInfo.blind, relation_blind,
    localIdentity_blind, remoteIdentity_blind]
  rcases s.relation hs.relation with _ | relation
  · rfl
  simp only [Option.bind_some]
  rcases s.localIdentity relation.localIdentity with _ | l
  · rfl
  rcases s.remoteIdentity relation.remoteIdentity with _ | r <;> rfl

theorem setContext_blind : (s.blind z).setContext h (c.blind z) = (s.setContext h c).blind z := by
  simp only [Authentication.setContext, ← putRelation_blind, ← putObject_blind]
  rfl

end Tables

/-! ## Computations -/

section Calls

variable {σ τ α : Type} {f : σ → τ}

theorem maps_check (x : Except SecurityException α) : Act.Maps f id (check x : Act σ Stop α) (check x) := .lift_id _

theorem maps_read {r : σ → α} {r' : τ → α} (h : ∀ s, r' (f s) = r s) :
    Act.Maps f id (Act.read r : Act σ Stop α) (Act.read r') := .read h

theorem maps_demand {r : σ → Option α} {r' : τ → Option α} {e : Stop} (h : ∀ s, r' (f s) = r s) :
    Act.Maps f id (Act.demand r e : Act σ Stop α) (Act.demand r' e) :=
  .demand fun s => by rw [h, Option.map_id]; rfl

theorem maps_deref {o : Option α} : Act.Maps f id (deref o : Act σ Stop α) (deref o) := .lift_id _

theorem maps_checkIn {x : Context κ → Except SecurityException α} (h : ∀ c, x (c.blind z) = x c) :
    Act.Maps (Context.blind z) id (checkIn x) (checkIn x) :=
  .bind (.read fun _ => rfl) fun c => by
    rw [h]
    exact maps_check _

end Calls

/-! ## Validation reads no secret -/

section Validate

variable (env : Env κ ρ) (amb : Ambient ρ) (includeOptional : Bool) (trustedCaList : List X509) (token : Token)

theorem verifyWithTrusted_env (cert : X509) :
    verifyWithTrusted env.blind amb cert trustedCaList = verifyWithTrusted env amb cert trustedCaList := by
  induction trustedCaList with
  | nil => rfl
  | cons ca cas ih =>
    cases cas with
    | nil => rfl
    | cons ca' cas =>
      simp only [verifyWithTrusted, ih]
      rfl

theorem loadX509CertificateFromBinprop_env (prop : BinaryProperty) (ownCa : X509) (ownCrl : Option X509Crl) :
    loadX509CertificateFromBinprop env.blind amb prop ownCa ownCrl trustedCaList =
      loadX509CertificateFromBinprop env amb prop ownCa ownCrl trustedCaList := by
  simp only [loadX509CertificateFromBinprop, verifyWithTrusted_env]
  rfl

theorem acceptCredentials_env (tokenType : HandshakeTokenType) :
    acceptCredentials env.blind amb trustedCaList token tokenType =
      acceptCredentials env amb trustedCaList token tokenType := by
  simp only [acceptCredentials, loadX509CertificateFromBinprop_env]
  rfl

theorem validateHandshakeToken_env (tokenType : HandshakeTokenType) :
    validateHandshakeToken env.blind amb includeOptional trustedCaList token tokenType =
      validateHandshakeToken env amb includeOptional trustedCaList token tokenType := by
  cases tokenType with
  | req => simp only [validateHandshakeToken, validateHandshakeTokenImpl, validateRequest, acceptCredentials_env]
  | reply =>
    simp only [validateHandshakeToken, validateHandshakeTokenImpl, validateReply, acceptCredentials_env]
    rfl
  | final => rfl

theorem setPermissionsDocument_blind (value : Octets) (c : Context κ) :
    (c.blind z).setPermissionsDocument value = (c.setPermissionsDocument value).blind z := by
  by_cases h : value.isEmpty
  · simp only [Context.setPermissionsDocument, if_pos h]
  · simp only [Context.setPermissionsDocument, if_neg h]
    rfl

theorem acceptCredentials_maps (tokenType : HandshakeTokenType) :
    Act.Maps (Context.blind z) id (acceptCredentials env amb trustedCaList token tokenType)
      (acceptCredentials env amb trustedCaList token tokenType) := by
  refine .bind (maps_check _) fun cId => ?_
  refine .bind (maps_read fun _ => rfl) fun localIdentity => ?_
  refine .bind (maps_check _) fun identityCert => ?_
  refine .bind (.write fun _ => rfl) fun _ => ?_
  refine .bind (maps_check _) fun cPerm => ?_
  refine .bind (.write (setPermissionsDocument_blind _)) fun _ => ?_
  refine .bind (maps_check _) fun cPdata => ?_
  refine .bind (maps_check _) fun _ => ?_
  refine .bind (maps_check _) fun cDsignAlgo => ?_
  refine .bind (maps_check _) fun _ => ?_
  refine .bind (maps_check _) fun _ => ?_
  refine .bind (maps_check _) fun cKagreeAlgo => ?_
  refine .bind (maps_check _) fun _ => ?_
  refine .bind (maps_check _) fun _ => ?_
  refine .bind (.write fun c => ?_) fun _ => .pure _
  cases tokenType <;> rfl

theorem checkRchallenge_maps (value : Octets) (tokenType : HandshakeTokenType) :
    Act.Maps (Context.blind z) id (checkRchallenge value tokenType : HandshakeCall κ PUnit)
      (checkRchallenge value tokenType) := by
  refine .bind (maps_read fun _ => rfl) fun rchallenge => ?_
  cases rchallenge with
  | some challenge => exact maps_check _
  | none =>
    refine .write fun c => ?_
    cases tokenType <;> rfl

theorem updateRemote_maps (info : CredentialsInfo) :
    Act.Maps (Context.blind z) id (updateRemote info : HandshakeCall κ PUnit) (updateRemote info) :=
  .bind (.lift_id _) fun _ => .bind (.lift_id _) fun _ => .write fun _ => rfl

theorem validateRequest_maps : Act.Maps (Context.blind z) id (validateRequest env amb trustedCaList token)
    (validateRequest env amb trustedCaList token) := by
  refine .bind (maps_check _) fun _ => ?_
  refine .bind (acceptCredentials_maps env amb trustedCaList token .req) fun info => ?_
  refine .bind (maps_check _) fun _ => ?_
  refine .bind (maps_check _) fun challenge1 => ?_
  refine .bind (checkRchallenge_maps _ _) fun _ => ?_
  refine .bind (maps_checkIn fun _ => rfl) fun _ => ?_
  exact updateRemote_maps info

theorem validateReply_maps : Act.Maps (Context.blind z) id (validateReply env amb includeOptional trustedCaList token)
    (validateReply env amb includeOptional trustedCaList token) := by
  refine .bind (maps_check _) fun _ => ?_
  refine .bind (acceptCredentials_maps env amb trustedCaList token .reply) fun info => ?_
  refine .bind (maps_check _) fun parts => ?_
  refine .bind (checkRchallenge_maps _ _) fun _ => ?_
  refine .bind (maps_checkIn fun _ => rfl) fun _ => ?_
  refine .bind (maps_checkIn fun _ => rfl) fun _ => ?_
  refine .bind (maps_checkIn fun _ => rfl) fun _ => ?_
  refine .bind (updateRemote_maps info) fun _ => ?_
  exact maps_checkIn fun _ => rfl

theorem validateFinal_maps : Act.Maps (Context.blind z) id (validateFinal env includeOptional token)
    (validateFinal env includeOptional token) := by
  refine .bind (maps_check _) fun _ => ?_
  refine .bind (maps_read fun _ => rfl) fun kagreeAlgoKind => ?_
  refine .bind (maps_check _) fun parts => ?_
  refine .bind (checkRchallenge_maps _ _) fun _ => ?_
  refine .bind (maps_checkIn fun _ => rfl) fun _ => ?_
  refine .bind (maps_checkIn fun _ => rfl) fun _ => ?_
  refine .bind (maps_checkIn fun _ => rfl) fun _ => ?_
  exact maps_checkIn fun _ => rfl

theorem validateHandshakeToken_maps (tokenType : HandshakeTokenType) :
    Act.Maps (Context.blind z) id (validateHandshakeToken env amb includeOptional trustedCaList token tokenType)
      (validateHandshakeToken env.blind amb includeOptional trustedCaList token tokenType) := by
  rw [validateHandshakeToken_env]
  refine .onStop ?_ fun c => ?_
  · cases tokenType with
    | req => exact validateRequest_maps env amb trustedCaList token
    | reply => exact validateReply_maps env amb includeOptional trustedCaList token
    | final => exact validateFinal_maps env includeOptional token
  · cases tokenType <;> rfl

end Validate

/-! ## The KEM wrapper -/

section Kem

variable (env : Env κ ρ) (kind : AuthAlgoKind)

theorem pqsecKemEncapsulate_blind (publicKey : Octets) (seed : ρ) (ct ss : Option Octets) :
    pqsecKemEncapsulate env.blind kind publicKey seed (ct, ss.map blindSecret) =
      ((pqsecKemEncapsulate env kind publicKey seed (ct, ss)).1,
        (pqsecKemEncapsulate env kind publicKey seed (ct, ss)).2.1,
        (pqsecKemEncapsulate env kind publicKey seed (ct, ss)).2.2.map blindSecret) := by
  have himport : importPublicKey env.blind = importPublicKey env := rfl
  simp only [pqsecKemEncapsulate, himport]
  rcases getKemOpensslNameByKind kind with _ | name
  · rfl
  by_cases hpk : publicKey.isEmpty
  · simp only [if_pos hpk]
  simp only [if_neg hpk]
  rcases importPublicKey env (str name) publicKey with _ | key
  · rfl
  have hsizes : env.blind.encapsulateSizes key = env.encapsulateSizes key := rfl
  simp only [hsizes]
  split
  · rfl
  have henc : env.blind.encapsulate key seed = (env.encapsulate key seed).map fun e => (e.1, blindSecret e.2) := rfl
  rw [henc]
  rcases env.encapsulate key seed with _ | ⟨ct', ss'⟩ <;> rfl

theorem pqsecKemDecapsulate_blind (keypair : Option (KemKeypair κ)) (ct : Octets) (ss : Option Octets) :
    pqsecKemDecapsulate env.blind keypair ct (ss.map blindSecret) =
      ((pqsecKemDecapsulate env keypair ct ss).1, (pqsecKemDecapsulate env keypair ct ss).2.map blindSecret) := by
  rcases keypair with _ | keypair
  · rfl
  simp only [pqsecKemDecapsulate]
  by_cases hct : ct.isEmpty
  · simp only [if_pos hct]
  simp only [if_neg hct]
  have hsize : env.blind.decapsulateSize keypair.key ct = env.decapsulateSize keypair.key ct := rfl
  rw [hsize]
  split
  · rfl
  have hdec : env.blind.decapsulate keypair.key ct = (env.decapsulate keypair.key ct).map blindSecret := rfl
  rw [hdec]
  rcases env.decapsulate keypair.key ct with _ | ss' <;> rfl

end Kem

/-! ## Handshake operations -/

section Handshakes

variable (env : Env κ ρ) (amb : Ambient ρ) (includeOptional : Bool) (trustedCaList : List X509)
variable (certData pdata : Octets) (inp : Token)

theorem setPdata_blind (c : Context κ) : (c.blind z).setPdata pdata = (c.setPdata pdata).blind z := by
  by_cases h : c.localIdentity.pdata.isEmpty
  · have h' : (c.blind z).localIdentity.pdata.isEmpty := h
    simp only [Context.setPdata, if_pos h, if_pos h']
    rfl
  · have h' : ¬ (c.blind z).localIdentity.pdata.isEmpty := h
    simp only [Context.setPdata, if_neg h, if_neg h']

theorem makeRequest_maps : Act.Maps (Context.blind z) id (makeRequest env amb includeOptional certData pdata)
    (makeRequest env.blind amb includeOptional certData pdata) := by
  have hgen : Act.Maps (Context.blind z) id (generateKeypair env amb) (generateKeypair env.blind amb) := by
    refine .bind (.write fun _ => rfl) fun _ => ?_
    refine .bind (maps_read fun _ => rfl) fun localIdent => ?_
    refine .bind (maps_check _) fun keypair => ?_
    exact .bind (.write fun _ => rfl) fun _ => .pure _
  refine .bind hgen fun keypair => ?_
  refine .bind (maps_read fun _ => rfl) fun localIdent => ?_
  refine .bind (maps_check _) fun _ => ?_
  refine .bind (.write (setPdata_blind pdata)) fun _ => ?_
  refine .bind (.write fun _ => rfl) fun _ => ?_
  refine .bind (.lift_id _) fun _ => ?_
  refine .bind (maps_read fun _ => rfl) fun relation => ?_
  refine .bind maps_deref fun lchallenge => ?_
  exact .bind (.lift_id _) fun _ => .pure _

theorem encapsulateTo_maps : Act.Maps (Context.blind z) id (encapsulateTo env amb inp) (encapsulateTo env.blind amb inp) := by
  refine .bind (.read fun _ => rfl) fun c => ?_
  have hnone : ((c.blind z).handshake.kemCt.isNone || (c.blind z).handshake.kemSs.isNone) =
      (c.handshake.kemCt.isNone || c.handshake.kemSs.isNone) := by
    simp [Context.blind, HandshakeInfo.blind]
  simp only [hnone]
  split
  · refine .bind (maps_check _) fun kemPublic => ?_
    have henc := pqsecKemEncapsulate_blind env c.remoteIdentity.kagreeAlgoKind kemPublic.value amb.encapSeed
      c.handshake.kemCt c.handshake.kemSs
    have hargs : ((c.blind z).handshake.kemCt, (c.blind z).handshake.kemSs) =
        (c.handshake.kemCt, c.handshake.kemSs.map blindSecret) := rfl
    have hkind : (c.blind z).remoteIdentity.kagreeAlgoKind = c.remoteIdentity.kagreeAlgoKind := rfl
    simp only [id_eq, hargs, hkind, henc]
    rcases pqsecKemEncapsulate env c.remoteIdentity.kagreeAlgoKind kemPublic.value amb.encapSeed
      (c.handshake.kemCt, c.handshake.kemSs) with ⟨ok, ct, ss⟩
    refine .bind (.write fun _ => rfl) fun _ => ?_
    exact .bind (maps_check _) fun _ => .pure _
  · exact .stop _

theorem makeReply_maps : Act.Maps (Context.blind z) id (makeReply env amb includeOptional trustedCaList inp pdata)
    (makeReply env.blind amb includeOptional trustedCaList inp pdata) := by
  refine .bind (validateHandshakeToken_maps env amb includeOptional trustedCaList inp .req) fun _ => ?_
  refine .bind (maps_read fun _ => rfl) fun localIdent => ?_
  refine .bind (maps_check _) fun certData => ?_
  refine .bind (encapsulateTo_maps env amb inp) fun kemPublic => ?_
  refine .bind (.write (setPdata_blind pdata)) fun _ => ?_
  refine .bind (maps_read fun _ => rfl) fun remoteIdent => ?_
  refine .bind (.write fun _ => rfl) fun _ => ?_
  refine .bind (.read fun _ => rfl) fun c => ?_
  refine .bind maps_deref fun kemCt => ?_
  refine .bind (.lift_id _) fun challenge1 => ?_
  refine .bind (.lift_id _) fun challenge2 => ?_
  refine .bind (maps_check _) fun _ => ?_
  refine .bind (maps_check _) fun ⟨data, signature⟩ => ?_
  exact .bind (.lift_id _) fun _ => .pure _

theorem answerReply_maps : Act.Maps (Context.blind z) id (answerReply env amb includeOptional inp)
    (answerReply env.blind amb includeOptional inp) := by
  refine .bind (maps_check _) fun kemCiphertext => ?_
  refine .bind (maps_check _) fun kemPublic => ?_
  refine .bind (.read fun _ => rfl) fun c => ?_
  have hdec := pqsecKemDecapsulate_blind env c.handshake.kemKeypair kemCiphertext.value c.handshake.kemSs
  have hkey : (c.blind z).handshake.kemKeypair = c.handshake.kemKeypair := rfl
  have hss : (c.blind z).handshake.kemSs = c.handshake.kemSs.map blindSecret := rfl
  simp only [id_eq, hkey, hss, hdec]
  rcases pqsecKemDecapsulate env c.handshake.kemKeypair kemCiphertext.value c.handshake.kemSs with ⟨ok, ss⟩
  refine .bind (.write fun _ => rfl) fun _ => ?_
  refine .bind (maps_check _) fun _ => ?_
  refine .bind (.lift_id _) fun challenge1 => ?_
  refine .bind (.lift_id _) fun challenge2 => ?_
  exact .bind (maps_check _) fun ⟨data, signature⟩ => .pure _

/-- Any secret that is not empty becomes one and the same digest. -/
theorem generateSharedSecret_blind (hs : HandshakeInfo κ) :
    generateSharedSecret env.blind (hs.blind z) = (generateSharedSecret env hs).map fun _ => env.sha256 [0] := by
  rcases hss : hs.kemSs with _ | ss
  · simp only [generateSharedSecret, HandshakeInfo.blind, hss]
    rfl
  · cases ss with
    | nil =>
      simp only [generateSharedSecret, HandshakeInfo.blind, hss]
      rfl
    | cons x ss =>
      simp only [generateSharedSecret, HandshakeInfo.blind, hss]
      rfl

theorem completeHandshake_maps (hz : z = env.sha256 [0]) :
    Act.Maps (Context.blind z) id (completeHandshake env amb) (completeHandshake env.blind amb) := by
  refine .bind (.read fun _ => rfl) fun c => ?_
  have hblind : generateSharedSecret env.blind (c.blind z).handshake =
      (generateSharedSecret env c.handshake).map fun _ => z := by
    rw [hz]
    exact generateSharedSecret_blind env c.handshake
  have hcheck : Act.Maps (Context.blind z : Context κ → _) (fun _ => z) (check (generateSharedSecret env c.handshake))
      (check (generateSharedSecret env.blind (c.blind z).handshake)) := by
    intro c'
    rw [hblind]
    cases generateSharedSecret env c.handshake <;> rfl
  refine .bind hcheck fun sharedSecret => ?_
  refine .bind maps_deref fun challenge1 => ?_
  refine .bind maps_deref fun challenge2 => ?_
  refine .bind (.write fun _ => rfl) fun _ => ?_
  refine .bind (.lift_id _) fun cert => ?_
  exact .bind (.onStop (maps_check _) fun _ => rfl) fun _ => .pure _

theorem processToken_maps (hz : z = env.sha256 [0]) :
    Act.Maps (Context.blind z) id (processToken env amb includeOptional trustedCaList inp)
      (processToken env.blind amb includeOptional trustedCaList inp) := by
  have hread : Act.Maps (Context.blind z : Context κ → _) (HandshakeInfo.blind z) (Act.read (·.handshake) : HandshakeCall κ _)
      (Act.read (·.handshake)) := .read fun _ => rfl
  refine .bind hread fun hs => ?_
  have hstep : (hs.blind z).createdIn = hs.createdIn := rfl
  simp only [hstep]
  cases hs.createdIn with
  | createdRequest =>
    refine .bind (validateHandshakeToken_maps env amb includeOptional trustedCaList inp .reply) fun _ => ?_
    refine .bind (answerReply_maps env amb includeOptional inp) fun ⟨out, signed⟩ => ?_
    exact .bind (completeHandshake_maps env amb hz) fun _ => .pure _
  | createdReply =>
    refine .bind (validateHandshakeToken_maps env amb includeOptional [] inp .final) fun _ => ?_
    exact .bind (completeHandshake_maps env amb hz) fun _ => .pure _

end Handshakes

/-! ## The calls -/

section Plugin

variable (env : Env κ ρ) (amb : Ambient ρ)

theorem withContext_maps {α : Type} {h : Handle} {x y : HandshakeCall κ α} (hx : Act.Maps (Context.blind z) id x y) :
    Act.Maps (Authentication.blind z) id (withContext h x) (withContext h y) := by
  refine .zoom hx (fun s => ?_) fun s c => setContext_blind s c h
  rw [context_blind]
  cases s.context h <;> rfl

theorem onHandshake_maps {α : Type} {l r : Handle} {step : CreatedHandshakeStep} {x y : HandshakeCall κ α}
    (hx : Act.Maps (Context.blind z) id x y) :
    Act.Maps (Authentication.blind z) id (onHandshake amb l r step x) (onHandshake amb l r step y) := by
  have hfor : Act.Maps (Authentication.blind z) id (handshakeFor amb l r step : Call κ (Handle × Bool))
      (handshakeFor amb l r step) := by
    refine .bind (maps_read fun s => findHandshake_blind s l r) fun o => ?_
    cases o with
    | some h => exact .pure _
    | none =>
      refine .bind (maps_demand fun s => findIdentityRelation_blind s l r) fun relation => ?_
      refine .bind (.write fun s => ?_) fun _ => .pure _
      exact putObject_blind s (.handshake (.new relation step)) amb.object
  refine .bind hfor fun ⟨h, created⟩ => ?_
  refine .bind (.onStop (withContext_maps hx) fun s => ?_) fun a => .pure _
  cases created with
  | false => rfl
  | true => exact removeObject_blind s h

theorem beginHandshakeRequest_maps (initiator replier : Handle) (pdata : Octets) :
    Act.Maps (Authentication.blind z) id (beginHandshakeRequest env amb initiator replier pdata)
      (beginHandshakeRequest env.blind amb initiator replier pdata) := by
  refine .bind (maps_demand fun s => localIdentity_blind s initiator) fun localIdent => ?_
  refine .bind (maps_demand fun s => remoteIdentity_blind s replier) fun _ => ?_
  refine .bind (.lift_id _) fun certData => ?_
  refine .bind (maps_read fun _ => rfl) fun includeOptional => ?_
  exact onHandshake_maps amb (makeRequest_maps env amb includeOptional certData pdata)

theorem beginHandshakeReply_maps (inp : Token) (initiator replier : Handle) (pdata : Octets) :
    Act.Maps (Authentication.blind z) id (beginHandshakeReply env amb inp initiator replier pdata)
      (beginHandshakeReply env.blind amb inp initiator replier pdata) := by
  refine .bind (maps_check _) fun _ => ?_
  refine .bind (maps_demand fun s => localIdentity_blind s replier) fun _ => ?_
  refine .bind (maps_demand fun s => remoteIdentity_blind s initiator) fun _ => ?_
  refine .bind (.read fun _ => rfl) fun s => ?_
  exact onHandshake_maps amb (makeReply_maps env amb s.includeOptional s.trustedCaList pdata inp)

theorem watchExpiry_maps (h : Handle) (certExp : Int) :
    Act.Maps (Authentication.blind z) id (watchExpiry amb h certExp : Call κ PUnit) (watchExpiry amb h certExp) := by
  refine .bind (.demand fun s => context_blind s h) fun c => ?_
  have hremote : (c.blind z).remoteIdentity = c.remoteIdentity := rfl
  simp only [hremote]
  split
  · refine .bind (.write fun _ => rfl) fun _ => ?_
    exact .write fun s => putRemote_blind s c.relation.remoteIdentity { c.remoteIdentity with timer := amb.timer }
  · exact .pure _

theorem processHandshake_maps (hz : z = env.sha256 [0]) (inp : Token) (h : Handle) :
    Act.Maps (Authentication.blind z) id (processHandshake env amb inp h) (processHandshake env.blind amb inp h) := by
  refine .bind (maps_check _) fun _ => ?_
  refine .bind (.demand fun s => handshake_blind s h) fun _ => ?_
  refine .bind (.read fun _ => rfl) fun s => ?_
  refine .bind (withContext_maps (processToken_maps env amb s.includeOptional s.trustedCaList inp hz))
    fun ⟨result, certExp⟩ => ?_
  exact .bind (watchExpiry_maps amb h certExp) fun _ => .pure _

theorem validateLocalIdentity_maps (qos : Qos) (candidate : Guid) :
    Act.Maps (Authentication.blind z) id (validateLocalIdentity env amb qos candidate)
      (validateLocalIdentity env.blind amb qos candidate) := by
  have hdir : ∀ entries caBuf, readTrustedCas env.blind amb entries caBuf = readTrustedCas env amb entries caBuf := by
    intro entries
    induction entries with
    | nil => exact fun _ => rfl
    | cons entry entries ih =>
      intro caBuf
      simp only [readTrustedCas, ih]
      rfl
  have hload : Act.Maps (Authentication.blind z : Authentication κ → _) id (loadTrustedCas env amb qos.trustedCaDir)
      (loadTrustedCas env.blind amb qos.trustedCaDir) := by
    simp only [loadTrustedCas, getTrustedCaList, hdir]
    rcases nonEmpty qos.trustedCaDir with _ | dir
    · exact .pure _
    · exact .bind (maps_check _) fun _ => .write fun _ => rfl
  refine .bind (maps_check _) fun identityCertPem => ?_
  refine .bind (maps_check _) fun identityCaPem => ?_
  refine .bind (maps_check _) fun privateKeyPem => ?_
  refine .bind hload fun _ => ?_
  refine .bind (.read fun _ => rfl) fun s => ?_
  refine .bind (maps_check _) fun identity => ?_
  simp only [id_eq]
  split
  · refine .bind (.write fun _ => rfl) fun _ => ?_
    exact .bind (.write fun s => putLocal_blind s amb.object _) fun _ => .pure _
  · exact .bind (.write fun s => putLocal_blind s amb.object _) fun _ => .pure _

theorem setPermissionsCredentialAndToken_maps (h : Handle) (credential : Token) :
    Act.Maps (Authentication.blind z : Authentication κ → _) id (setPermissionsCredentialAndToken h credential)
      (setPermissionsCredentialAndToken h credential) := by
  refine .bind (maps_check _) fun _ => ?_
  refine .bind (maps_check _) fun _ => ?_
  refine .bind (maps_check _) fun document => ?_
  refine .bind (maps_check _) fun _ => ?_
  refine .bind (maps_demand fun s => localIdentity_blind s h) fun identity => ?_
  exact .write fun s => putLocal_blind s h _

theorem validateRemoteIdentity_maps (request : Option Token) (l : Handle) (token : Token) (guid : Guid) :
    Act.Maps (Authentication.blind z) id (validateRemoteIdentity env amb request l token guid)
      (validateRemoteIdentity env.blind amb request l token guid) := by
  have hremote : Act.Maps (Authentication.blind z) id (remoteFor env amb token guid) (remoteFor env.blind amb token guid) := by
    refine .bind (maps_read fun _ => rfl) fun o => ?_
    cases o with
    | some r =>
      refine .bind (maps_demand fun s => remoteIdentity_blind s r) fun remote => ?_
      exact .bind (maps_check _) fun _ => .pure _
    | none =>
      refine .bind (.write fun s => ?_) fun _ => .pure _
      rw [putRemote_blind]
      rfl
  have hrelate : ∀ r lchallenge rchallenge, Act.Maps (Authentication.blind z : Authentication κ → _) id
      (relate amb l r lchallenge rchallenge) (relate amb l r lchallenge rchallenge) := by
    intro r lchallenge rchallenge
    refine .bind (maps_read fun s => findIdentityRelation_blind s l r) fun o => ?_
    cases o with
    | some a =>
      refine .bind (.write fun s => ?_) fun _ => .pure _
      rw [relation_blind]
      rcases hrel : s.relation a with _ | relation
      · rfl
      · cases rchallenge <;> rfl
    | none =>
      refine .bind (maps_demand fun s => remoteIdentity_blind s r) fun remote => ?_
      refine .bind (.write fun s => ?_) fun _ => .pure _
      rw [putRelation_blind, putRemote_blind]
      rfl
  refine .bind (maps_demand fun s => localIdentity_blind s l) fun localIdent => ?_
  refine .bind (maps_check _) fun _ => ?_
  refine .bind (maps_check _) fun rchallenge => ?_
  refine .bind (maps_check _) fun lchallenge => ?_
  refine .bind hremote fun r => ?_
  refine .bind (hrelate r lchallenge rchallenge) fun a => ?_
  refine .bind (maps_demand fun s => relation_blind s a) fun relation => ?_
  cases request with
  | some t => exact .bind (.pure _) fun _ => .pure _
  | none => exact .bind (.lift_id _) fun _ => .bind (.pure _) fun _ => .pure _

theorem getAuthenticatedPeerCredentialToken_maps (h : Handle) :
    Act.Maps (Authentication.blind z) id (getAuthenticatedPeerCredentialToken env amb h)
      (getAuthenticatedPeerCredentialToken env.blind amb h) := by
  refine .bind (maps_check _) fun _ => ?_
  refine .bind (.demand fun s => handshake_blind s h) fun _ => ?_
  refine .bind (.demand fun s => context_blind s h) fun c => ?_
  refine .bind (maps_check _) fun identityCert => ?_
  refine .bind (maps_check _) fun permissionsDoc => ?_
  exact .bind (maps_check _) fun certData => .pure _

theorem returnHandshakeHandle_maps (h : Handle) :
    Act.Maps (Authentication.blind z : Authentication κ → _) id (returnHandshakeHandle h) (returnHandshakeHandle h) := by
  refine .bind (maps_check _) fun _ => ?_
  exact .bind (.demand fun s => handshake_blind s h) fun _ => .write fun s => removeObject_blind s h

theorem invalidatePair_blind (s : Authentication κ) (l r : Handle) :
    (s.blind z).invalidatePair l r = (s.invalidatePair l r).blind z := by
  simp only [Authentication.invalidatePair, findHandshake_blind]
  rcases s.findHandshake l r with _ | h
  all_goals
    simp only [removeObject_blind, remoteIdentity_blind]
    split
    · rfl
    · split
      · rfl
      · rw [putRemote_blind]
        rfl

theorem invalidateLocal_blind (s : Authentication κ) (l : Handle) :
    (s.blind z).invalidateLocal l = (s.invalidateLocal l).blind z := by
  have hentries : (s.blind z).objectHash.entries = s.objectHash.entries.map (.map id fun _ => SecurityObject.blind z) := rfl
  simp only [Authentication.invalidateLocal, hentries, List.foldl_map]
  refine List.foldl_hom (Authentication.blind z) fun s e => ?_
  simp only [Sigma.map, asRemote_blind, id_eq, invalidatePair_blind]
  split <;> rfl

theorem invalidateRemote_blind (s : Authentication κ) (r : Handle) (remote : RemoteIdentityInfo) :
    (s.blind z).invalidateRemote r remote = (s.invalidateRemote r remote).blind z := by
  simp only [Authentication.invalidateRemote]
  exact List.foldl_hom (Authentication.blind z) fun s e => invalidatePair_blind s e.1 r

theorem removeTimer_blind (s : Authentication κ) (timer : Nat) :
    (s.blind z).removeTimer timer = (s.removeTimer timer).blind z := by
  by_cases ht : timer = 0
  · simp only [Authentication.removeTimer, if_pos ht]
  · simp only [Authentication.removeTimer, if_neg ht]
    rfl

theorem returnIdentity_blind (s : Authentication κ) (h : Handle) (obj : SecurityObject κ) :
    (s.blind z).returnIdentity h (obj.blind z) = (s.returnIdentity h obj).blind z := by
  cases obj with
  | localIdentity identity =>
    simp only [SecurityObject.blind, Authentication.returnIdentity, removeTimer_blind, invalidateLocal_blind,
      removeObject_blind]
  | remoteIdentity identity =>
    simp only [SecurityObject.blind, Authentication.returnIdentity, removeTimer_blind, invalidateRemote_blind,
      removeObject_blind]
    rfl
  | handshake hs => rfl

theorem returnIdentityHandle_maps (h : Handle) :
    Act.Maps (Authentication.blind z : Authentication κ → _) id (returnIdentityHandle h) (returnIdentityHandle h) := by
  refine .bind (maps_check _) fun _ => ?_
  refine .bind (.demand fun s => lookup_mapValues _ s.objectHash h) fun obj => ?_
  rw [asHandshake_blind, Option.isNone_map]
  exact .bind (maps_check _) fun _ => .write fun s => returnIdentity_blind s h obj

theorem validityCallback_maps (timer : Nat) :
    Act.Maps (Authentication.blind z : Authentication κ → _) id (validityCallback timer) (validityCallback timer) := by
  have hclear : ∀ (s : Authentication κ) (h : Handle), (s.blind z).clearTimer h = (s.clearTimer h).blind z := by
    intro s h
    have hlookup : (s.blind z).objectHash.lookup h = (s.objectHash.lookup h).map (SecurityObject.blind z) :=
      lookup_mapValues _ s.objectHash h
    simp only [Authentication.clearTimer, hlookup]
    rcases s.objectHash.lookup h with _ | (identity | identity | hs)
    · rfl
    · exact putLocal_blind s h _
    · exact putRemote_blind s h _
    · rfl
  refine .write fun s => ?_
  have hdispatcher : (s.blind z).dispatcher = s.dispatcher := rfl
  simp only [hdispatcher]
  rcases s.dispatcher.lookup timer with _ | ⟨h, expiry⟩
  · rfl
  · exact hclear { s with dispatcher := s.dispatcher.erase timer } h

/-- Whatever the call, it does on the blinded state what it does on the state. -/
theorem Op.answer_maps (hz : z = env.sha256 [0]) (op : Op) :
    Act.Maps (Authentication.blind z) (Answer.blind z) (op.answer env amb) (op.answer env.blind amb) := by
  cases op with
  | validateLocalIdentity qos candidate => exact .bind (validateLocalIdentity_maps env amb qos candidate) fun _ => .pure _
  | getIdentityToken h =>
    refine .bind (.bind (maps_demand fun s => localIdentity_blind s h) fun _ => ?_) fun _ => .pure _
    exact .bind (maps_check _) fun _ => .bind (maps_check _) fun _ => .pure _
  | setPermissionsCredentialAndToken h credential =>
    exact .bind (setPermissionsCredentialAndToken_maps h credential) fun _ => .pure _
  | validateRemoteIdentity request l token guid =>
    exact .bind (validateRemoteIdentity_maps env amb request l token guid) fun _ => .pure _
  | beginHandshakeRequest initiator replier pdata =>
    exact .bind (beginHandshakeRequest_maps env amb initiator replier pdata) fun _ => .pure _
  | beginHandshakeReply inp initiator replier pdata =>
    exact .bind (beginHandshakeReply_maps env amb inp initiator replier pdata) fun _ => .pure _
  | processHandshake inp h => exact .bind (processHandshake_maps env amb hz inp h) fun _ => .pure _
  | getSharedSecret h =>
    refine .bind (.bind (maps_check _) fun _ => ?_) fun _ => .pure (Answer.sharedSecret _)
    exact .bind (.demand fun s => handshake_blind s h) fun hs => .pure hs.sharedSecret
  | getAuthenticatedPeerCredentialToken h =>
    exact .bind (getAuthenticatedPeerCredentialToken_maps env amb h) fun _ => .pure _
  | returnHandshakeHandle h => exact .bind (returnHandshakeHandle_maps h) fun _ => .pure _
  | returnIdentityHandle h => exact .bind (returnIdentityHandle_maps h) fun _ => .pure _
  | validityCallback timer => exact .bind (validityCallback_maps timer) fun _ => .pure _

theorem allocates_blind (s : Authentication κ) : Allocates amb (s.blind z) ↔ Allocates amb s := by
  have hmem : amb.object ∈ (s.blind z).objectHash ↔ amb.object ∈ s.objectHash := mem_mapValues _ _ _
  constructor
  · exact fun h => ⟨h.object_ne_zero, fun hm => h.object (hmem.2 hm), h.relation, h.timer_ne_zero, h.timer⟩
  · exact fun h => ⟨h.object_ne_zero, fun hm => h.object (hmem.1 hm), h.relation, h.timer_ne_zero, h.timer⟩

end Plugin

/-! ## Runs -/

section Runs

variable {env env' : Env κ ρ}

/-- What a call reports, blinded. -/
def blindReport (z : HashValue) : Option (Except SecurityException Answer) → Option (Except SecurityException Answer) :=
  Option.map (Except.map (Answer.blind z))

theorem respond_blind (hz : z = env.sha256 [0]) (s : Authentication κ) (call : Op × Ambient ρ) :
    respond env.blind (s.blind z) call = blindReport z (respond env s call) := by
  obtain ⟨op, amb⟩ := call
  by_cases ha : Allocates amb s
  · have hrun := Op.answer_maps env amb hz op s
    simp only [respond, if_pos ha, if_pos ((allocates_blind amb s).2 ha), hrun]
    rcases (op.answer env amb s).1 with (ex | f) | a <;> rfl
  · simp only [respond, if_neg ha, if_neg fun h => ha ((allocates_blind amb s).1 h)]
    rfl

theorem exec_blind (hz : z = env.sha256 [0]) (s : Authentication κ) (call : Op × Ambient ρ) :
    (exec env.blind (s.blind z) call).1 = (exec env s call).1.blind z := by
  obtain ⟨op, amb⟩ := call
  by_cases ha : Allocates amb s
  · have hblind := Op.answer_maps env amb hz op s
    rcases hrun : op.answer env amb s with ⟨(ex | f) | a, s'⟩
    all_goals
      rw [hrun] at hblind
      rw [exec_eq _ _ op amb ((allocates_blind amb s).2 ha), exec_eq env s op amb ha, Op.call_run hrun, Op.call_run hblind]
      rfl
  · simp only [exec, if_neg ha, if_neg fun h => ha ((allocates_blind amb s).1 h)]

theorem observe_blind (hz : z = env.sha256 [0]) (s : Authentication κ) (calls : List (Op × Ambient ρ)) :
    observe env.blind (s.blind z) calls = (observe env s calls).map (blindReport z) := by
  induction calls generalizing s with
  | nil => rfl
  | cons call calls ih =>
    simp only [observe, respond_blind hz]
    rcases respond env s call with _ | report
    · rfl
    · rw [exec_blind hz, ih]
      rfl

/-- The two KEMs give the same ciphertexts, and succeed on the same inputs; the secrets are independent of each other. -/
structure SameButSecrets (env env' : Env κ ρ) : Prop where
  others : env' = { env with encapsulate := env'.encapsulate, decapsulate := env'.decapsulate }
  encapsulate : ∀ key r, (env'.encapsulate key r).map (fun e => (e.1, e.2.isEmpty)) =
    (env.encapsulate key r).map fun e => (e.1, e.2.isEmpty)
  decapsulate : ∀ key ct, (env'.decapsulate key ct).map (·.isEmpty) = (env.decapsulate key ct).map (·.isEmpty)

theorem SameButSecrets.blind_eq (h : SameButSecrets env env') : env'.blind = env.blind := by
  have henc : (fun key r => (env'.encapsulate key r).map fun e => (e.1, blindSecret e.2)) =
      fun key r => (env.encapsulate key r).map fun e => (e.1, blindSecret e.2) := by
    funext key r
    have heq := congrArg (Option.map fun e => (e.1, if e.2 = true then ([] : Octets) else [0])) (h.encapsulate key r)
    rw [Option.map_map, Option.map_map] at heq
    exact heq
  have hdec : (fun key ct => (env'.decapsulate key ct).map blindSecret) =
      fun key ct => (env.decapsulate key ct).map blindSecret := by
    funext key ct
    have heq := congrArg (Option.map fun e => if e = true then ([] : Octets) else [0]) (h.decapsulate key ct)
    rw [Option.map_map, Option.map_map] at heq
    exact heq
  unfold Env.blind
  rw [henc, hdec, h.others]

theorem HandshakeInfo.blind_blind (y : HashValue) (hs : HandshakeInfo κ) : (hs.blind y).blind z = hs.blind z := by
  have hss : ∀ ss, blindSecret (blindSecret ss) = blindSecret ss := by
    intro ss
    cases ss <;> rfl
  simp only [HandshakeInfo.blind, Option.map_map, Function.comp_def, hss]
  rfl

theorem Authentication.blind_blind (y : HashValue) (s : Authentication κ) : (s.blind y).blind z = s.blind z := by
  have hobj : ∀ obj : SecurityObject κ, (obj.blind y).blind z = obj.blind z := by
    intro obj
    cases obj with
    | handshake hs => exact congrArg SecurityObject.handshake (hs.blind_blind y)
    | _ => rfl
  have htable : mapValues (SecurityObject.blind z) (mapValues (SecurityObject.blind y) s.objectHash) =
      mapValues (SecurityObject.blind z) s.objectHash := by
    apply AList.ext
    simp only [entries_mapValues, List.map_map]
    refine List.map_congr_left fun e _ => ?_
    exact congrArg (Sigma.mk e.1) (hobj e.2)
  simp only [Authentication.blind, htable]

/-- **Secrets stay inside.** Take two plugins whose KEMs give unrelated secrets, in states that differ in secrets only, and
give both the same calls, in any number and order and with any tokens. They report the same handles, results, tokens,
signatures and exceptions throughout. Where `get_shared_secret` reports a secret it does so in both, with the same
challenges, and the digest is all that differs. -/
theorem secrets_confined (h : SameButSecrets env env') {s s' : Authentication κ}
    (hs : s'.blind (zeroBytes 32) = s.blind (zeroBytes 32)) (calls : List (Op × Ambient ρ)) :
    (observe env' s' calls).map (blindReport (zeroBytes 32)) = (observe env s calls).map (blindReport (zeroBytes 32)) := by
  have hsha : env'.sha256 [0] = env.sha256 [0] := by rw [h.others]
  have hstate : s'.blind (env.sha256 [0]) = s.blind (env.sha256 [0]) := by
    rw [← s'.blind_blind (zeroBytes 32), hs, s.blind_blind]
  have hobs : (observe env' s' calls).map (blindReport (env.sha256 [0])) =
      (observe env s calls).map (blindReport (env.sha256 [0])) := by
    rw [← observe_blind rfl, ← observe_blind hsha.symm, h.blind_eq, hstate]
  have htwice : ∀ r, blindReport (zeroBytes 32) (blindReport (env.sha256 [0]) r) = blindReport (zeroBytes 32) r := by
    rintro (_ | _ | a)
    · rfl
    · rfl
    · cases a with
      | sharedSecret secret => cases secret <;> rfl
      | _ => rfl
  have hmap := congrArg (List.map (blindReport (zeroBytes 32))) hobs
  simpa only [List.map_map, Function.comp_def, htwice] using hmap

end Runs

section Sample

/-- The sample KEM with other secrets. -/
def otherSecrets : Env UInt8 UInt8 :=
  { Ideal.env with
    encapsulate := fun key r => (Ideal.env.encapsulate key r).map fun e => (e.1, 7 :: e.2)
    decapsulate := fun key ct => (Ideal.env.decapsulate key ct).map (8 :: ·) }

theorem otherSecrets_same : SameButSecrets Ideal.env otherSecrets := by
  refine ⟨rfl, fun key r => rfl, fun key ct => ?_⟩
  match ct with
  | [] => rfl
  | [_] => rfl
  | pk :: seed :: ct =>
    simp only [otherSecrets, Ideal.env, Option.map_some]
    split <;> rfl

/-- The initiator of the sample session: its secret is another one, and nothing else differs. -/
theorem secrets_confined_sample :
    (observe otherSecrets Ideal.start (Ideal.initiatorCalls ++ [(.getSharedSecret 10, Ideal.ambient 12)])).map
        (blindReport (zeroBytes 32)) =
      (observe Ideal.env Ideal.start (Ideal.initiatorCalls ++ [(.getSharedSecret 10, Ideal.ambient 12)])).map
        (blindReport (zeroBytes 32)) :=
  secrets_confined otherSecrets_same rfl _

end Sample

end PqsecDds.CycloneDDS
