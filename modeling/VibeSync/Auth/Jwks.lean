import VibeSync.Auth.Keys
import VibeSync.Base64
import VibeSync.BigEndian

/-! The published key set: `GetJwks` reads the verifiable keys from the table and
writes modulus and exponent of each in base64url, big-endian. -/

namespace VibeSync.Auth.Jwks
open VibeSync.Auth.Keys

/-- The exponent is an `int`. -/
structure RSAPublicKey where
  n : Nat
  e : Int
  deriving DecidableEq, Repr

def byte (v : Int) : UInt8 := UInt8.ofNat (v % 256).toNat

def encodeRSAModulus (pub : RSAPublicKey) : String := String.ofList (Base64.encodeURL (BigEndian.bytes pub.n))

def exponentBytes (v : Int) : List UInt8 :=
  if v = 0 then [0]
  else if v < 0x100 then [byte v]
  else if v < 0x10000 then [byte (v >>> (8 : Nat)), byte v]
  else [byte (v >>> (24 : Nat)), byte (v >>> (16 : Nat)), byte (v >>> (8 : Nat)), byte v]

def encodeRSAExponent (pub : RSAPublicKey) : String :=
  String.ofList (Base64.encodeURL (BigEndian.trim (exponentBytes pub.e)))

/-- A key that is no RSA key has no fields. -/
def encodeRSAJWKFields : Option RSAPublicKey → String × String
  | none => ("", "")
  | some pub => (encodeRSAModulus pub, encodeRSAExponent pub)

structure JsonWebKey where
  kid : String
  kty : String
  alg : String
  use : String
  n : String
  e : String
  deriving DecidableEq, Repr

/-- `JSONWebKey.UnmarshalJSON`; a key of another kind is none. -/
abbrev UnmarshalJWK : Type := String → Except Err (Option RSAPublicKey)

def jwkToRSAPublic (unmarshal : UnmarshalJWK) (jwk : String) : Except Err RSAPublicKey :=
  match unmarshal jwk with
  | .error err => .error (.wrapped "jwt: unmarshal jwk" err)
  | .ok none => .error (.plain "jwt: jwk is not RSA")
  | .ok (some pub) => .ok pub

def jwkFromStored (unmarshal : UnmarshalJWK) (k : SigningKey) : Except Err JsonWebKey :=
  match unmarshal k.publicJWK with
  | .error err => .error ((Err.internal "JWK_PARSE_FAILED" err.text).withCause (some err))
  | .ok key =>
    let (n, e) := encodeRSAJWKFields key
    .ok { kid := k.kid, kty := "RSA", alg := "RS256", use := "sig", n, e }

def listSigningKeyJWK (unmarshal : UnmarshalJWK) (reading : Outage) (table : Table) : Except Err (List JsonWebKey × Table) := do
  let stored ← reading.attempt .listVerifiable (.ok (listVerifiable table))
  let keys ← stored.mapM (jwkFromStored unmarshal)
  return (keys, table)

def getJwks (unmarshal : UnmarshalJWK) (reading : Outage) (table : Table) : Except Err (List JsonWebKey) :=
  (withTx reading table (listSigningKeyJWK unmarshal reading)).1

/-! What another service makes of the set. -/

def JsonWebKey.publicKey (key : JsonWebKey) : Option RSAPublicKey := do
  let n ← Base64.decodeURL key.n.toList
  let e ← Base64.decodeURL key.e.toList
  return ⟨BigEndian.value n, BigEndian.value e⟩

def published (keys : List JsonWebKey) (kid : String) : Option RSAPublicKey :=
  (keys.find? fun key => key.kid = kid).bind JsonWebKey.publicKey

end VibeSync.Auth.Jwks
