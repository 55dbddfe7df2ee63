import VibeSync.Base64
import VibeSync.Errors
import VibeSync.Strings

/-! Password hashes as they are stored: argon2id with fixed costs, written as a PHC string. -/

namespace VibeSync.Auth

def argon2Version : Nat := 0x13

def argon2Memory : Nat := 19 * 1024

def argon2Iterations : Nat := 2

def argon2Lanes : Nat := 1

def argon2SaltBytes : Nat := 16

def argon2KeyBytes : Nat := 32

def phcVersion : String := "argon2id"

def encodeToString (bytes : List UInt8) : String := String.ofList (Base64.encode bytes)

def decodeString (text : String) : Except Err (List UInt8) :=
  match Base64.decode text.toList with
  | .ok bytes => .ok bytes
  | .error offset => .error (.plain ("illegal base64 data at input byte " ++ toString offset))

def phcEncode (salt key : List UInt8) : String :=
  "$" ++ phcVersion ++ "$v=" ++ toString argon2Version ++ "$m=" ++ toString argon2Memory ++ ",t=" ++ toString argon2Iterations ++
    ",p=" ++ toString argon2Lanes ++ "$" ++ encodeToString salt ++ "$" ++ encodeToString key

/-- The fields for the version and the costs are not read, and neither is what precedes the first separator. -/
def phcDecode (s : String) : Except Err (List UInt8 × List UInt8) :=
  match split s '$' with
  | [_, algorithm, _, _, saltText, keyText] =>
    if algorithm ≠ phcVersion then .error (.plain "password: unrecognized hash format")
    else
      match decodeString saltText with
      | .error err => .error (.wrapped "password: salt decode" err)
      | .ok salt =>
        match decodeString keyText with
        | .error err => .error (.wrapped "password: key decode" err)
        | .ok key => .ok (salt, key)
  | _ => .error (.plain "password: unrecognized hash format")

/-- The adapter's library and random source. -/
structure PasswordHasher where
  idKey : (password salt : List UInt8) → (time memory threads keyLen : Nat) → List UInt8
  read : Nat → Except Err (List UInt8)

namespace PasswordHasher

def derive (hasher : PasswordHasher) (plaintext : String) (salt : List UInt8) : List UInt8 :=
  hasher.idKey plaintext.toUTF8.toList salt argon2Iterations argon2Memory argon2Lanes argon2KeyBytes

def hash (hasher : PasswordHasher) (plaintext : String) : Except Err String :=
  match hasher.read argon2SaltBytes with
  | .error err => .error (.wrapped "password: salt" err)
  | .ok salt => .ok (phcEncode salt (hasher.derive plaintext salt))

def compare (hasher : PasswordHasher) (hash plaintext : String) : Bool :=
  match phcDecode hash with
  | .error _ => false
  | .ok (salt, want) => want = hasher.derive plaintext salt

end PasswordHasher

end VibeSync.Auth
