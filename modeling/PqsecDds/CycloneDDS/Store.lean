import PqsecDds.CycloneDDS.AuthUtils
import PqsecDds.Lib.Act
import Mathlib.Data.List.AList

/-!
# The security objects of the plugin

| here | there |
|---|---|
| `LocalIdentityInfo`, `RemoteIdentityInfo`, `IdentityRelation`, `HandshakeInfo` | authentication.c:96-151 |
| `Authentication` | `dds_security_authentication_impl`, authentication.c:153-164 |
| `objectHash`, `remoteGuidHash`, `linkHash` | `ddsrt_hh` tables: finite sets keyed by their equality |
| `findHandshake`, `findIdentityRelation` | authentication.c:513-533 |
| `addValidityEndTrigger` | authentication.c:647-654 |

A handle is the address of its object, so `objectHash` is the heap of identities and handshakes and a pointer
to one of them is its handle. An `IdentityRelation` has the handle of its local identity and an address of its
own; `relations` is their heap. To follow a pointer to a freed object is a fault.

The candidate GUID and the domain id are left out: nothing reads them after `validate_local_identity`.
-/

namespace PqsecDds.CycloneDDS

open Lib

structure LocalIdentityInfo where
  adjustedGuid : Guid
  identityCert : X509
  identityCa : X509
  privateKey : EvpPkey
  crl : Option X509Crl
  pdata : Octets := []
  dsignAlgoKind : AuthAlgoKind
  kagreeAlgoKind : AuthAlgoKind
  permissionsDocument : Option CStr := none
  /-- 0 when no trigger is armed -/
  timer : Nat := 0

structure RemoteIdentityInfo where
  guid : Guid
  identityCert : Option X509 := none
  dsignAlgoKind : AuthAlgoKind := .unknown
  kagreeAlgoKind : AuthAlgoKind := .unknown
  remoteIdentityToken : Token
  pdata : Octets := []
  permissionsDocument : Option CStr := some []
  /-- the relations of this remote identity, by the handle of the local one -/
  linkHash : AList fun _ : Handle => Handle := ∅
  timer : Nat := 0

structure IdentityRelation where
  localIdentity : Handle
  remoteIdentity : Handle
  lchallenge : Option Challenge
  rchallenge : Option Challenge

/-- `DDS_Security_SharedSecretHandleImpl` -/
structure SharedSecret where
  challenge1 : Challenge
  challenge2 : Challenge
  sharedSecret : HashValue
  deriving DecidableEq

inductive CreatedHandshakeStep where
  | createdRequest
  | createdReply
  deriving DecidableEq

structure HandshakeInfo (κ : Type) where
  relation : Handle
  hashC1 : HashValue := zeroBytes 32
  hashC2 : HashValue := zeroBytes 32
  kemKeypair : Option (KemKeypair κ) := none
  kemCt : Option Octets := none
  kemSs : Option Octets := none
  sharedSecret : Option SharedSecret := none
  createdIn : CreatedHandshakeStep

/-- A signature that was handed out. -/
structure Signed where
  key : EvpPkey
  data : Octets
  deriving DecidableEq

inductive SecurityObject (κ : Type) where
  | localIdentity (identity : LocalIdentityInfo)
  | remoteIdentity (identity : RemoteIdentityInfo)
  | handshake (handshake : HandshakeInfo κ)

structure Authentication (κ : Type) where
  objectHash : AList fun _ : Handle => SecurityObject κ := ∅
  remoteGuidHash : AList fun _ : Guid => Handle := ∅
  relations : AList fun _ : Handle => IdentityRelation := ∅
  /-- the armed triggers: whose, and when they are due -/
  dispatcher : AList fun _ : Nat => Handle × Int := ∅
  trustedCaList : List X509 := []
  includeOptional : Bool
  /-- the KEM selected at compile time -/
  kem : AuthAlgoKind

variable {κ ρ : Type}

/-! ## Objects and their kinds -/

def SecurityObject.asLocal : SecurityObject κ → Option LocalIdentityInfo
  | .localIdentity identity => some identity
  | _ => none

def SecurityObject.asRemote : SecurityObject κ → Option RemoteIdentityInfo
  | .remoteIdentity identity => some identity
  | _ => none

def SecurityObject.asHandshake : SecurityObject κ → Option (HandshakeInfo κ)
  | .handshake hs => some hs
  | _ => none

namespace Authentication

/-- `security_object_find` with `security_object_valid`. -/
def localIdentity (s : Authentication κ) (h : Handle) : Option LocalIdentityInfo :=
  (s.objectHash.lookup h).bind (·.asLocal)

def remoteIdentity (s : Authentication κ) (h : Handle) : Option RemoteIdentityInfo :=
  (s.objectHash.lookup h).bind (·.asRemote)

def handshake (s : Authentication κ) (h : Handle) : Option (HandshakeInfo κ) :=
  (s.objectHash.lookup h).bind (·.asHandshake)

def relation (s : Authentication κ) (a : Handle) : Option IdentityRelation := s.relations.lookup a

def putObject (s : Authentication κ) (h : Handle) (obj : SecurityObject κ) : Authentication κ :=
  { s with objectHash := s.objectHash.insert h obj }

/-- `ddsrt_hh_remove` and `security_object_free`. -/
def removeObject (s : Authentication κ) (h : Handle) : Authentication κ :=
  { s with objectHash := s.objectHash.erase h }

def putRelation (s : Authentication κ) (a : Handle) (relation : IdentityRelation) : Authentication κ :=
  { s with relations := s.relations.insert a relation }

/-- The pair of identities a handshake is between. -/
def pairOf (s : Authentication κ) (handshake : HandshakeInfo κ) : Option (Handle × Handle) :=
  (s.relation handshake.relation).map fun r => (r.localIdentity, r.remoteIdentity)

def isHandshakeOf (s : Authentication κ) (l r : Handle) (e : Σ _ : Handle, SecurityObject κ) : Bool :=
  (e.2.asHandshake.bind s.pairOf) = some (l, r)

/-- The first in the order of the table. -/
def findHandshake (s : Authentication κ) (l r : Handle) : Option Handle :=
  (s.objectHash.entries.find? (s.isHandshakeOf l r)).map (·.1)

def findIdentityRelation (s : Authentication κ) (l r : Handle) : Option Handle :=
  (s.remoteIdentity r).bind (·.linkHash.lookup l)

end Authentication

/-! ## A handshake and what it points to -/

/-- The objects that a handshake operation works on. -/
structure Context (κ : Type) where
  localIdentity : LocalIdentityInfo
  remoteIdentity : RemoteIdentityInfo
  relation : IdentityRelation
  handshake : HandshakeInfo κ

namespace Authentication

def context (s : Authentication κ) (h : Handle) : Option (Context κ) := do
  let handshake ← s.handshake h
  let relation ← s.relation handshake.relation
  let localIdentity ← s.localIdentity relation.localIdentity
  let remoteIdentity ← s.remoteIdentity relation.remoteIdentity
  return ⟨localIdentity, remoteIdentity, relation, handshake⟩

def setContext (s : Authentication κ) (h : Handle) (c : Context κ) : Authentication κ :=
  (((s.putObject c.relation.localIdentity (.localIdentity c.localIdentity)).putObject
    c.relation.remoteIdentity (.remoteIdentity c.remoteIdentity)).putObject h (.handshake c.handshake)).putRelation
      c.handshake.relation c.relation

end Authentication

/-- An operation on the plugin. -/
abbrev Call (κ α : Type) := Act (Authentication κ) Stop α

/-- The fault that a call runs into, if any. -/
def faultOf {α : Type} : Except Stop α → Option Fault
  | .error (.fault f) => some f
  | _ => none

theorem faultOf_eq_some {α : Type} {res : Except Stop α} {f : Fault} : faultOf res = some f ↔ res = .error (.fault f) := by
  unfold faultOf
  split
  · simp
  · rename_i hne
    constructor
    · intro h
      cases h
    · intro h
      exact absurd h (hne f)

/-- No assertion fails, no null pointer is followed, and nothing is used that was never set. -/
def Returns {α : Type} (x : Call κ α) (s : Authentication κ) : Prop := ∀ f, (x s).1 ≠ .error (.fault f)

theorem returns_iff {α : Type} {x : Call κ α} : Returns x s ↔ faultOf (x s).1 = none := by
  rw [Option.eq_none_iff_forall_ne_some]
  exact forall_congr' fun f => (not_congr faultOf_eq_some).symm

instance {α : Type} (x : Call κ α) (s : Authentication κ) : Decidable (Returns x s) := decidable_of_iff _ returns_iff.symm

/-- An operation on a handshake and what it points to. -/
abbrev HandshakeCall (κ α : Type) := Act (Context κ) Stop α

/-- Run on the objects of a handshake. -/
def withContext {α : Type} (h : Handle) (x : HandshakeCall κ α) : Call κ α :=
  Act.zoom (fun s => need (s.context h) (.fault .nullPointer)) (fun s c => s.setContext h c) x

/-- A check that reports an exception. -/
def check {σ α : Type} (x : Except SecurityException α) : Act σ Stop α := Act.lift (x.mapError .failed)

/-- `assert` -/
def assertThat {σ : Type} (b : Bool) : Act σ Stop Unit := Act.lift (require b (.fault .assertion))

theorem check_ok {σ α : Type} {x : Except SecurityException α} {a : α} {s s' : σ} :
    check x s = (.ok a, s') ↔ x = .ok a ∧ s = s' := by
  cases x <;> simp [check, Act.lift, Except.mapError]

theorem assertThat_ok {σ : Type} {b : Bool} {u : Unit} {s s' : σ} :
    assertThat b s = (.ok u, s') ↔ b = true ∧ s = s' := by
  simp [assertThat, Act.lift_ok, require_ok]

/-- `handshake_info_new` -/
def HandshakeInfo.new (relation : Handle) (createdIn : CreatedHandshakeStep) : HandshakeInfo κ := { relation, createdIn }

/-- The handshake of a pair, made if there is none; and whether it was made. -/
def handshakeFor (amb : Ambient ρ) (l r : Handle) (createdIn : CreatedHandshakeStep) : Call κ (Handle × Bool) := do
  match ← Act.read (·.findHandshake l r) with
  | some h => pure (h, false)
  | none => do
    let relation ← Act.demand (·.findIdentityRelation l r) (.fault .assertion)
    Act.write (·.putObject amb.object (.handshake (.new relation createdIn)))
    pure (amb.object, true)

/-- Run on the handshake of a pair; one that was made for it goes again if the operation fails. -/
def onHandshake {α : Type} (amb : Ambient ρ) (l r : Handle) (createdIn : CreatedHandshakeStep)
    (x : HandshakeCall κ α) : Call κ (Handle × α) := do
  let (h, created) ← handshakeFor amb l r createdIn
  let a ← Act.onStop (withContext h x) fun s => if created then s.removeObject h else s
  return (h, a)

def addValidityEndTrigger (amb : Ambient ρ) (h : Handle) (expiry : Int) : Call κ PUnit :=
  Act.write fun s => { s with dispatcher := s.dispatcher.insert amb.timer (h, expiry) }

/-! ## Lookups after updates -/

section Lookups

variable (s : Authentication κ) (h h' a : Handle) (obj : SecurityObject κ) (relation : IdentityRelation)

@[simp] theorem localIdentity_putObject :
    (s.putObject h obj).localIdentity h' = if h' = h then obj.asLocal else s.localIdentity h' := by
  by_cases hh : h' = h
  · subst hh
    simp [Authentication.localIdentity, Authentication.putObject]
  · simp [Authentication.localIdentity, Authentication.putObject, AList.lookup_insert_ne hh, hh]

@[simp] theorem remoteIdentity_putObject :
    (s.putObject h obj).remoteIdentity h' = if h' = h then obj.asRemote else s.remoteIdentity h' := by
  by_cases hh : h' = h
  · subst hh
    simp [Authentication.remoteIdentity, Authentication.putObject]
  · simp [Authentication.remoteIdentity, Authentication.putObject, AList.lookup_insert_ne hh, hh]

@[simp] theorem handshake_putObject :
    (s.putObject h obj).handshake h' = if h' = h then obj.asHandshake else s.handshake h' := by
  by_cases hh : h' = h
  · subst hh
    simp [Authentication.handshake, Authentication.putObject]
  · simp [Authentication.handshake, Authentication.putObject, AList.lookup_insert_ne hh, hh]

@[simp] theorem localIdentity_removeObject :
    (s.removeObject h).localIdentity h' = if h' = h then none else s.localIdentity h' := by
  by_cases hh : h' = h
  · subst hh
    simp [Authentication.localIdentity, Authentication.removeObject]
  · simp [Authentication.localIdentity, Authentication.removeObject, AList.lookup_erase_ne hh, hh]

@[simp] theorem remoteIdentity_removeObject :
    (s.removeObject h).remoteIdentity h' = if h' = h then none else s.remoteIdentity h' := by
  by_cases hh : h' = h
  · subst hh
    simp [Authentication.remoteIdentity, Authentication.removeObject]
  · simp [Authentication.remoteIdentity, Authentication.removeObject, AList.lookup_erase_ne hh, hh]

@[simp] theorem handshake_removeObject :
    (s.removeObject h).handshake h' = if h' = h then none else s.handshake h' := by
  by_cases hh : h' = h
  · subst hh
    simp [Authentication.handshake, Authentication.removeObject]
  · simp [Authentication.handshake, Authentication.removeObject, AList.lookup_erase_ne hh, hh]

@[simp] theorem localIdentity_putRelation :
    (s.putRelation a relation).localIdentity h = s.localIdentity h := rfl

@[simp] theorem remoteIdentity_putRelation :
    (s.putRelation a relation).remoteIdentity h = s.remoteIdentity h := rfl

@[simp] theorem handshake_putRelation : (s.putRelation a relation).handshake h = s.handshake h := rfl

@[simp] theorem relation_putObject : (s.putObject h obj).relation a = s.relation a := rfl

@[simp] theorem relation_putRelation :
    (s.putRelation a relation).relation h = if h = a then some relation else s.relation h := by
  by_cases hh : h = a
  · subst hh
    simp [Authentication.relation, Authentication.putRelation]
  · simp [Authentication.relation, Authentication.putRelation, AList.lookup_insert_ne hh, hh]

end Lookups

end PqsecDds.CycloneDDS
