import Entitlement.Credential.Argon2
import Entitlement.Credential.Base64
import Entitlement.Error
import Entitlement.Text

/-!
Stored hashes of passwords. A stored hash names its algorithm and parameters beside the salt and the
digest, each after a dollar sign, so that it can be checked whatever the parameters in use now.
-/

namespace Entitlement

structure PasswordHash where
  algorithm : String
  version : Option Nat := none
  parameters : List (String × String) := []
  salt : Option String := none
  digest : Option (List UInt8) := none
deriving DecidableEq

namespace PasswordHash

def isNameChar (c : Char) : Bool := ('a' ≤ c && c ≤ 'z') || ('0' ≤ c && c ≤ '9') || c == '-'

def isValueChar (c : Char) : Bool := c.isAlphanum || c == '/' || c == '+' || c == '.' || c == '-'

/-- Names of algorithms and parameters have 1 to 32 characters. -/
def isName (s : String) : Bool := 1 ≤ s.length && s.length ≤ 32 && s.toList.all isNameChar

def isValue (s : String) : Bool := s.length ≤ 64 && s.toList.all isValueChar

/-- A number below 2³², without leading zeros. -/
def decimal? (s : String) : Option Nat :=
  let cs := s.toList
  if cs.isEmpty || !cs.all Char.isDigit || (cs.head? == some '0' && 1 < cs.length) then none
  else
    let n := cs.foldl (fun n c => n * 10 + (c.toNat - '0'.toNat)) 0
    if n < 0x100000000 then some n else none

def version? (field : String) : Option Nat :=
  let digits := (field.drop 2).toString
  if isValue digits then decimal? digits else none

def parameter? (pair : String) : Option (String × String) :=
  match Text.fields '=' pair with
  | [name, value] => if isName name && isValue value then some (name, value) else none
  | _ => none

def parameters? (field : String) : Option (List (String × String)) :=
  if field.utf8ByteSize ≤ 127 then (Text.fields ',' field).mapM parameter? else none

def salt? (field : String) : Option String :=
  if 4 ≤ field.length && isValue field then some field else none

/-- A digest has 10 to 64 bytes. -/
def digest? (field : String) : Option (List UInt8) := do
  let bytes ← Base64.decode? field
  if 10 ≤ bytes.length && bytes.length ≤ 64 then some bytes else none

def readDigest? (hash : PasswordHash) : List String → Option PasswordHash
  | [] => some hash
  | [field] => (digest? field).map fun digest => { hash with digest := some digest }
  | _ => none

def readSalt? (hash : PasswordHash) : List String → Option PasswordHash
  | [] => some hash
  | field :: rest => do readDigest? { hash with salt := some (← salt? field) } rest

/-- Parameters are a field with an equals sign; they may be left out. -/
def readParameters? (hash : PasswordHash) : List String → Option PasswordHash
  | [] => some hash
  | field :: rest => do
    if field.contains '=' then readSalt? { hash with parameters := ← parameters? field } rest
    else readSalt? hash (field :: rest)

/-- The version is a field `v=` with a number; it may be left out. -/
def readVersion? (hash : PasswordHash) : List String → Option PasswordHash
  | [] => some hash
  | field :: rest => do
    if field.startsWith "v=" && !field.contains ',' then
      readParameters? { hash with version := some (← version? field) } rest
    else readParameters? hash (field :: rest)

def read? (s : String) : Option PasswordHash :=
  match Text.fields '$' s with
  | "" :: algorithm :: rest => if isName algorithm then readVersion? { algorithm } rest else none
  | _ => none

def write (hash : PasswordHash) : String :=
  let pairs := hash.parameters.map fun (name, value) => name ++ "=" ++ value
  "$" ++ String.intercalate "$" (hash.algorithm
    :: (hash.version.map fun n => "v=" ++ toString n).toList
    ++ (if pairs.isEmpty then [] else [String.intercalate "," pairs])
    ++ hash.salt.toList ++ (hash.digest.map Base64.encode).toList)

def addParameter (parameters : Argon2.Parameters) : String × String → Option Argon2.Parameters
  | ("m", value) => do return { parameters with memory := ← decimal? value }
  | ("t", value) => do return { parameters with passes := ← decimal? value }
  | ("p", value) => do return { parameters with lanes := ← decimal? value }
  | ("keyid", value) => do if (← Base64.decode? value).length ≤ 8 then some parameters else none
  | ("data", value) => do
    let associated ← Base64.decode? value
    if associated.length ≤ 32 then some { parameters with associated } else none
  | _ => none

def variant? (algorithm : String) : Option Argon2.Variant :=
  [Argon2.Variant.d, .i, .id].find? (·.text == algorithm)

/-- The parameters of the hash, where those left out have their usual values. They are refused if the
memory is too small for the lanes. -/
def argon2? (hash : PasswordHash) : Option Argon2.Parameters := do
  let variant ← variant? hash.algorithm
  let version := hash.version.getD 19
  let parameters ← hash.parameters.foldlM addParameter { variant, version }
  let known := version == 16 || version == 19
  let enough := 8 ≤ parameters.memory && 8 * parameters.lanes ≤ parameters.memory
  let sensible := 1 ≤ parameters.passes && 1 ≤ parameters.lanes && parameters.lanes < 0x1000000
  if known && enough && sensible then some parameters else none

/-- The bytes of the salt; there are at least eight. -/
def saltBytes? (salt : String) : Option (List UInt8) := do
  let bytes ← Base64.decode? salt
  if 8 ≤ bytes.length then some bytes else none

/-- Whether the password has this hash. A hash without salt or digest is the hash of none. -/
def verify (hash : PasswordHash) (password : String) : Except Error Bool :=
  match hash.salt, hash.digest with
  | some salt, some digest =>
    match hash.argon2?, saltBytes? salt with
    | some parameters, some saltBytes =>
      .ok (Argon2.hash parameters digest.length password.toUTF8.toList saltBytes == digest)
    | _, _ => .error .verificationFailed
  | _, _ => .ok false

def create (password : String) (salt : List UInt8) : PasswordHash :=
  let parameters : Argon2.Parameters := {}
  { algorithm := parameters.variant.text
    version := some parameters.version
    parameters := [("m", toString parameters.memory), ("t", toString parameters.passes),
      ("p", toString parameters.lanes)]
    salt := some (Base64.encode salt)
    digest := some (Argon2.hash parameters 32 password.toUTF8.toList salt) }

def isArgon2 (stored : String) : Bool := stored.startsWith "$argon2"

/-- Checks a password against a stored text, which has to be a hash. -/
def check (stored password : String) : Except Error Bool :=
  match read? stored with
  | some hash => hash.verify password
  | none => .error .hashMalformed

end PasswordHash

end Entitlement
