import PqsecDds.Lib.Crypto
import PqsecDds.Lib.Parties
import PqsecDds.OpenDDS.Secrecy
import PqsecDds.OpenDDS.SessionKeys
import PqsecDds.Lib.Act
import PqsecDds.CycloneDDS.Integrity
import PqsecDds.CycloneDDS.Signatures
import PqsecDds.CycloneDDS.Triggers
import PqsecDds.CycloneDDS.Trust
import PqsecDds.CycloneDDS.Stability
import PqsecDds.CycloneDDS.Rejection
import PqsecDds.OpenDDS.Challenges
import PqsecDds.OpenDDS.Completeness
import PqsecDds.CycloneDDS.Credentials
import PqsecDds.CycloneDDS.Assertions
import PqsecDds.CycloneDDS.Answers
import PqsecDds.CycloneDDS.Randomness
import PqsecDds.CycloneDDS.TrustedCas
import PqsecDds.GuidRule
import PqsecDds.OpenDDS.Providers
import PqsecDds.OpenDDS.Failures
import PqsecDds.OpenDDS.CredentialHash
import PqsecDds.Lib.Xcdr
import PqsecDds.OpenDDS.Serialization
import PqsecDds.OpenDDS.Handles
import PqsecDds.CycloneDDS.Downgrade
import PqsecDds.CycloneDDS.Agreement
import PqsecDds.CycloneDDS.PeerCredentials
import PqsecDds.CycloneDDS.Expiry
import PqsecDds.CycloneDDS.AuthRequests
import PqsecDds.CycloneDDS.Completeness
import PqsecDds.Lib.Maps
import PqsecDds.CycloneDDS.Observation
import PqsecDds.CycloneDDS.Confinement
import PqsecDds.CycloneDDS.Commitments
import PqsecDds.CycloneDDS.Teardown
import PqsecDds.Lib.Leases
import PqsecDds.Lib.Since
import PqsecDds.CycloneDDS.Instances
import PqsecDds.CycloneDDS.Revocation
import PqsecDds.Lib.Purge
import PqsecDds.Lib.Stdio
import PqsecDds.OpenDDS.Isolation
import PqsecDds.OpenDDS.Decapsulation
import PqsecDds.OpenDDS.LiveHandles
import PqsecDds.OpenDDS.Commitments
import PqsecDds.CycloneDDS.Footprint
import PqsecDds.CycloneDDS.Files
import PqsecDds.CycloneDDS.Armed
import PqsecDds.OpenDDS.PeerIdentity
import PqsecDds.CycloneDDS.Completed
