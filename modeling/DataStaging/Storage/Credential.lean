import DataStaging.Json.Record

/-!
# Credentials

A key pair opens the buckets of one profile. Key pairs come from a file, or one pair from the
agent's own environment serves every profile.
-/

namespace DataStaging

/-- A pair of an access key and its secret. -/
structure Credential where
  keyId : String
  secret : String
deriving DecidableEq, Repr

namespace Credential

/-- The variable that hands the access key to a mount client. -/
def keyVariable : String := "AWS_ACCESS_KEY_ID"

/-- The variable that hands over the secret. -/
def secretVariable : String := "AWS_SECRET_ACCESS_KEY"

/-- The variables set for a mount client. -/
def env (c : Credential) : List (String × String) :=
  [(keyVariable, c.keyId), (secretVariable, c.secret)]

/-- The key pair on one line, without its secret. -/
def describe (c : Credential) : String :=
  "Credential \x7b access_key_id: " ++ Quoted.quote c.keyId ++
    ", secret_access_key: \"<redacted>\" \x7d"

/-- A key pair whose parts are still being read. -/
structure Draft where
  keyId : Option String
  secret : Option String

def shape : Json.Shape Draft where
  title := "struct Credential"
  fields := [
    ⟨"access_key_id", fun d => d.keyId.isSome,
      fun d => do return { d with keyId := some (← Json.Reader.textValue) }⟩,
    ⟨"secret_access_key", fun d => d.secret.isSome,
      fun d => do return { d with secret := some (← Json.Reader.textValue) }⟩]

def reader : Json.Reader Credential := do
  let d ← shape.read ⟨none, none⟩
  return ⟨d.keyId.getD "", d.secret.getD ""⟩

end Credential

/-- Key pairs by profile; a profile occurs once. -/
structure KeyRing where
  profiles : List (String × Credential)
deriving DecidableEq, Repr

namespace KeyRing

def empty : KeyRing := ⟨[]⟩

/-- Puts a key pair under a profile, in place of the one there. -/
def insert (ring : KeyRing) (profile : String) (c : Credential) : KeyRing :=
  ⟨(profile, c) :: ring.profiles.filter (fun p => p.1 != profile)⟩

def lookup (ring : KeyRing) (profile : String) : Option Credential :=
  (ring.profiles.find? (fun p => p.1 == profile)).map (·.2)

def size (ring : KeyRing) : Nat := ring.profiles.length

/-- Reads the members of an object of key pairs. -/
def members : Nat → Bool → KeyRing → Json.Reader KeyRing
  | 0, _, _ => Json.Reader.failAhead .endInObject
  | fuel + 1, first, ring => do
    if ← Json.Reader.memberFollows first then
      Json.Reader.eat
      let profile ← Json.Reader.text
      Json.Reader.colon
      let c ← Credential.reader
      members fuel false (ring.insert profile c)
    else return ring

def reader : Json.Reader KeyRing := do
  match ← Json.Reader.peekPastBlanks with
  | none => Json.Reader.failAhead .endInValue
  | some 0x7B =>
    let fuel := (← get).rest.length
    Json.Reader.bracketed (members fuel true empty) Json.Reader.closeObject
  | some _ => Json.Reader.refuse "a map"

/-- Reads key pairs from the contents of a file, which must be text. -/
def decode (contents : Bytes) : Except Fault KeyRing :=
  match Utf8.decode? contents with
  | none => .error (.io .notText)
  | some _ =>
    (Json.Reader.result (Json.Reader.complete reader) (.ofWhole contents)).mapError
      Json.Problem.toFault

end KeyRing

/-- Where key pairs come from. -/
inductive Credentials
  | ring (keys : KeyRing)
  /-- One pair, if both of its variables are set, serves every profile. -/
  | environment (env : List (String × String))
deriving DecidableEq, Repr

namespace Credentials

def lookup : Credentials → String → Option Credential
  | .ring keys, profile => keys.lookup profile
  | .environment env, _ => do
    let key ← env.lookup Credential.keyVariable
    let secret ← env.lookup Credential.secretVariable
    return ⟨key, secret⟩

end Credentials

end DataStaging
