import Mathlib.Data.List.Basic

/-!
# Octets, tokens and GUIDs of the CycloneDDS adapter

| here | there |
|---|---|
| `Octets` | a buffer with its length; a `DDS_Security_OctetSeq` (a null buffer is the empty one) |
| `CStr` | a C string, without its terminator; a `char *` that may be null is an `Option CStr` |
| `Bytes n` | an `unsigned char [n]` |
| `Token`, `BinaryProperty`, `Property` | `DDS_Security_DataHolder` and its sequences |
| `findBinaryProperty` | `DDS_Security_DataHolder_find_binary_property` |
| `setByString` | `DDS_Security_BinaryProperty_set_by_string` |
| `SecurityException` | `DDS_Security_SecurityException` |

`propagate` is left out: no function of the adapter reads it.
-/

namespace PqsecDds.CycloneDDS

abbrev Octets := List UInt8

abbrev CStr := List UInt8

/-- The octets of a string literal. -/
def str (s : String) : CStr := s.toList.map fun c => c.toNat.toUInt8

/-- A number as `%u` prints it. -/
def decimal (n : Nat) : CStr := str (toString n)

/-- A buffer read as a C string: up to its first NUL. -/
def cStr (data : Octets) : CStr := data.takeWhile (· ≠ 0)

/-- `string_from_data` (auth_utils.c:1339-1347). -/
def stringFromData (data : Octets) : Option CStr := if data.isEmpty then none else some (cStr data)

abbrev Bytes (n : Nat) := { l : List UInt8 // l.length = n }

def zeroBytes (n : Nat) : Bytes n := ⟨List.replicate n 0, List.length_replicate⟩

/-- `HashValue_t` -/
abbrev HashValue := Bytes 32

/-- `AuthenticationChallenge` -/
abbrev Challenge := Bytes 32

/-! ## Tokens -/

structure Property where
  name : Option CStr
  value : Option CStr
  deriving DecidableEq

structure BinaryProperty where
  name : Option CStr
  value : Octets
  deriving DecidableEq

structure Token where
  classId : Option CStr := none
  properties : List Property := []
  binaryProperties : List BinaryProperty := []
  deriving DecidableEq

/-- The first binary property of that name. -/
def Token.findBinaryProperty (t : Token) (name : String) : Option BinaryProperty :=
  t.binaryProperties.find? (·.name = some (str name))

/-- A property with a value, as `set_by_ref` and `set_by_value` fill it. -/
def binaryProperty (name : String) (value : Octets) : BinaryProperty := ⟨some (str name), value⟩

/-- A property with the text and its terminator. -/
def setByString (name : String) (text : CStr) : BinaryProperty := ⟨some (str name), text ++ [0]⟩

theorem findBinaryProperty_name {t : Token} {name : String} {p : BinaryProperty}
    (h : t.findBinaryProperty name = some p) : p.name = some (str name) := by
  have h := List.find?_some h
  simpa using h

theorem findBinaryProperty_eq {t : Token} {name : String} {p : BinaryProperty}
    (h : t.findBinaryProperty name = some p) : p = binaryProperty name p.value := by
  have hn := findBinaryProperty_name h
  cases p
  simp_all [binaryProperty]

/-! ## GUIDs -/

/-- `DDS_Security_GUID_t` -/
structure Guid where
  guidPrefix : Bytes 12
  entityId : Bytes 4
  deriving DecidableEq

def Guid.octets (g : Guid) : Octets := g.guidPrefix.1 ++ g.entityId.1

theorem Guid.octets_inj {g g' : Guid} : g.octets = g'.octets ↔ g = g' := by
  constructor
  · intro h
    obtain ⟨h1, h2⟩ := List.append_inj h (by rw [g.guidPrefix.2, g'.guidPrefix.2])
    cases g
    cases g'
    simp only [Guid.mk.injEq]
    exact ⟨Subtype.ext h1, Subtype.ext h2⟩
  · rintro rfl
    rfl

/-- `memcmp` finds `a` before `b`. -/
def memcmpLt (a b : Octets) : Bool := decide (a < b)

/-! ## Exceptions -/

/-- An exception: with `DDS_SECURITY_ERR_UNDEFINED_CODE` the text the adapter wrote, else the code of the
SPI, whose text is fixed. -/
inductive SecurityException where
  | message (text : CStr)
  | certStartdateInFuture
  | certExpired
  | certAuthAlgoKindUnknown
  | caNotTrusted
  | invalidFilePath (path : CStr)
  | invalidTrustedCaDir
  | trustedCaDirMaxExceeded
  | invalidParameter
  | operationNotPermitted
  | missingRemotePermissionsDocument
  /-- written by code outside the adapter -/
  | foreign
  /-- left as it was -/
  | unset
  deriving DecidableEq

def message (text : String) : SecurityException := .message (str text)

/-- What stops a call. -/
inductive Fault where
  | assertion
  | nullPointer
  | uninitialised
  deriving DecidableEq

/-- A call fails, or does not return. -/
inductive Stop where
  | failed (ex : SecurityException)
  | fault (f : Fault)
  deriving DecidableEq

end PqsecDds.CycloneDDS
