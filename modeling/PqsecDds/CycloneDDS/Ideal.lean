import PqsecDds.CycloneDDS.Steps
import PqsecDds.Lib.Framing

/-!
# An ideal environment

Primitives that can be run and that satisfy what is assumed of the real ones: the serializer is injective
(`serialize_injective`), the KEM is correct (`env_kem_correct`), and a signature verifies only over the data it was made
for. A certificate is four octets: the subject, which is also the key pair, the kind of the key, the issuer and the
lifetime. A key signs by writing its number before the data, and a ciphertext names its key and its secret.

The participants and calls below are used where a statement needs a concrete run.
-/

namespace PqsecDds.CycloneDDS

open Lib


namespace Ideal

def key (pair kind : UInt8) : EvpPkey where
  names := [str (if kind = 0 then "ML-DSA-44" else "RSA")]
  id := if kind = 0 then .other else .rsa
  bits := if kind = 0 then 256 else 2048
  canSign := true
  pair := pair.toNat

def certificate : Octets → Option X509
  | [pair, kind, issuer, lifetime] => some
    { encoding := [pair, kind, issuer, lifetime], pubkey := key pair kind, subject := some ⟨[pair], [pair]⟩
      notBefore := some 0, notAfter := some (1000 + lifetime.toNat) }
  | _ => none

def hash (data : Octets) : HashValue :=
  ⟨data.take 32 ++ List.replicate (32 - (data.take 32).length) 0, by
    rw [List.length_append, List.length_replicate]
    have h : (data.take 32).length ≤ 32 := List.length_take_le 32 data
    omega⟩

def fields (p : BinaryProperty) : List Octets :=
  [match p.name with
    | none => []
    | some name => 1 :: name, p.value]

def serialize (ps : List BinaryProperty) : Octets := frames 1 0 (ps.flatMap fields)

theorem fields_injective : Function.Injective fields := by
  rintro ⟨name, value⟩ ⟨name', value'⟩ h
  cases name <;> cases name' <;> simp_all [fields]

theorem flatMap_fields_injective : Function.Injective fun ps : List BinaryProperty => ps.flatMap fields := by
  intro ps
  induction ps with
  | nil =>
    intro ps' h
    cases ps' with
    | nil => rfl
    | cons p ps' => simp [fields] at h
  | cons p ps ih =>
    intro ps' h
    cases ps' with
    | nil => simp [fields] at h
    | cons p' ps' =>
      simp only [List.flatMap_cons] at h
      obtain ⟨hp, hps⟩ := List.append_inj h rfl
      rw [fields_injective hp, ih hps]

theorem serialize_injective : Function.Injective serialize := by
  intro ps ps' h
  exact flatMap_fields_injective (frames_injective (by decide) h)

def env : Env UInt8 UInt8 where
  pemReadX509 := certificate
  pemWriteX509 cert := some cert.encoding
  pemReadCrl data := some ⟨data⟩
  pemReadPrivateKey data _ := (certificate data).bind (·.pubkey)
  x509Sha1 cert := some cert.encoding
  x509VerifyCert _ cert ca _ := if cert.encoding[2]? = ca.encoding[0]? then none else some (str "issuer")
  publicCheck _ := true
  privateCheck _ := true
  rsaCheckKey _ := true
  ecCheckKey _ := true
  readFile path := some path
  readDirectory dir := some [⟨str "ca", true, some dir⟩]
  serializeSeq := serialize
  serializeArray := serialize
  participantKey pdata := if h : pdata.length = 12 then some ⟨pdata, h⟩ else none
  dataHolderEqual t t' := t = t'
  sha256 := hash
  digestSign key data _ := some (key.pair.toUInt8 :: data)
  digestVerify key data signature := signature = key.pair.toUInt8 :: data
  contextNew _ := true
  generate _ seed := some seed
  encodedPublicKey k := k :: List.replicate 799 0
  rawPublicKeySize _ := none
  rawPublicKey _ := none
  fromData _ pk := pk.head?
  newRawPublicKey _ _ := none
  encapsulateSizes _ := some (768, 2)
  encapsulate k seed := some (k :: seed :: List.replicate 766 0, [k, seed])
  decapsulateSize _ _ := some 2
  decapsulate k ct := match ct with
    | pk :: seed :: _ => some (if pk = k then [pk, seed] else [k, seed, 1])
    | _ => none

theorem env_kem_correct (kind : AuthAlgoKind) : (env.kem kind).Correct := by
  rintro seed sk pk pub r ct ss hgen hpk ⟨name, hname, himp⟩ henc
  have hexport : exportPublicKey env sk = some (sk :: List.replicate 799 0) := if_pos (List.cons_ne_nil _ _)
  obtain rfl := Option.some.inj (hexport.symm.trans hpk)
  obtain rfl : sk = pub := Option.some.inj himp
  obtain ⟨rfl, rfl⟩ := Prod.mk.inj (Option.some.inj henc)
  exact congrArg some (if_pos rfl)

/-- The surroundings of the `n`-th call. -/
def ambient (n : UInt8) : Ambient UInt8 where
  time := 100
  ddsTime := 100000000000
  randReturn := 1
  randBytes := ⟨List.replicate 32 n, List.length_replicate⟩
  keySeed := n
  encapSeed := n
  signSeed := n
  object := n.toNat
  relation := n.toNat
  timer := n.toNat

abbrev State := Authentication UInt8

abbrev SampleCall := Op × Ambient UInt8

def start : State := { includeOptional := true, kem := .mlKem512 }

/-- The texts of a participant: `data:,` and the certificate. -/
def item (data : Octets) : Option CStr := some (str "data:," ++ data)

/-- The participant with that key pair, with CA 9. -/
def qos (pair : UInt8) : Qos where
  identityCertificate := item [pair, 0, 9, 1]
  identityCa := item [9, 0, 9, 1]
  privateKey := item [pair, 0, 9, 1]
  password := none
  trustedCaDir := none
  crl := none

def guid (pair : UInt8) : Guid where
  guidPrefix := adjustedPrefix env [pair] ⟨List.replicate 12 pair, List.length_replicate⟩
  entityId := zeroBytes 4

def candidate (pair : UInt8) : Guid := ⟨⟨List.replicate 12 pair, List.length_replicate⟩, zeroBytes 4⟩

/-- The participant becomes the first local identity, with the handle 1. -/
def localCall (pair : UInt8) : SampleCall := (.validateLocalIdentity (qos pair) (candidate pair), ambient 1)

def identityToken : Token := { classId := str "pqsec-dds.auth:1.0" }

/-- The remote participant is met for the first time and gets the handle 2. -/
def remoteCall (request : Option Token) (remote : UInt8) : SampleCall :=
  (.validateRemoteIdentity request 1 identityToken (guid remote), ambient 2)

def pdata (pair : UInt8) : Octets := (guid pair).guidPrefix.1

/-- The handshake is made and gets the handle `n`. -/
def requestCall (n pair : UInt8) : SampleCall := (.beginHandshakeRequest 1 2 (pdata pair), ambient n)

def replyCall (n : UInt8) (request : Token) (pair : UInt8) : SampleCall :=
  (.beginHandshakeReply request 2 1 (pdata pair), ambient n)

def processCall (n : UInt8) (inp : Token) (h : Handle) : SampleCall := (.processHandshake inp h, ambient n)

/-- The state after a call, and after a list of calls. -/
def after (s : State) (calls : List SampleCall) : State := (plugin env).perform s calls

def requestOf (s : State) (n pair : UInt8) : Token :=
  match beginHandshakeRequest env (ambient n) 1 2 (pdata pair) s with
  | (.ok (_, out), _) => out
  | _ => {}

def replyOf (s : State) (n : UInt8) (request : Token) (pair : UInt8) : Token :=
  match beginHandshakeReply env (ambient n) request 2 1 (pdata pair) s with
  | (.ok (_, out, _), _) => out
  | _ => {}

def finalOf (s : State) (n : UInt8) (reply : Token) (h : Handle) : Token :=
  match processHandshake env (ambient n) reply h s with
  | (.ok (.okFinalMessage out _), _) => out
  | _ => {}

/-- Two participants that know each other, 3 as the initiator and 5 as the replier. -/
def aliceCalls : List SampleCall := [localCall 3, remoteCall none 5]

def bobCalls : List SampleCall := [localCall 5, remoteCall none 3]

def request : Token := requestOf (after start aliceCalls) 10 3

def reply : Token := replyOf (after start bobCalls) 10 request 5

def final : Token := finalOf (after start (aliceCalls ++ [requestCall 10 3])) 11 reply 10

/-- Both sides of the handshake. -/
def initiatorCalls : List SampleCall := aliceCalls ++ [requestCall 10 3, processCall 11 reply 10]

def replierCalls : List SampleCall := bobCalls ++ [replyCall 10 request 5, processCall 11 final 10]

theorem calls_run (optional : Bool) (kem : AuthAlgoKind) (calls : List SampleCall)
    (h : (plugin env).Performs { includeOptional := optional, kem } calls := by decide +kernel) :
    Run (plugin env).solo ((plugin env).history [] { includeOptional := optional, kem } calls)
      (after { includeOptional := optional, kem } calls) :=
  Machine.solo_perform calls (.init ⟨optional, kem, rfl⟩) h

end Ideal

end PqsecDds.CycloneDDS
