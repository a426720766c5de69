import TdfIrohS3.Catalog.Format
import TdfIrohS3.Publish.Decision

namespace TdfIrohS3

open Library

inductive Cbor
  | integer (n : Int)
  | bytes (b : List UInt8)
  | float (bits : UInt64)
  | text (s : String)
  | bool (b : Bool)
  | null
  | tag (number : Nat) (value : Cbor)
  | array (items : List Cbor)
  | map (entries : List (Cbor × Cbor))
  deriving Repr

inductive TokenError
  | malformed
  | algorithm
  | unknownKid
  | signature
  | expired
  | notYetValid
  | missingClaim (name : String)
  | issuer
  | audience
  | duplicateKey
  | keySet (why : String)
  deriving DecidableEq, Repr

inductive Label
  | int (n : Int)
  | text (s : String)
  deriving DecidableEq, Repr

inductive Algorithm
  | es256
  | other
  deriving DecidableEq, Repr

inductive ContentType
  | assigned (id : Nat)
  | text (s : String)
  deriving DecidableEq, Repr

structure ProtectedHeader where
  alg : Option Algorithm
  crit : List Label
  contentType : Option ContentType
  keyId : List UInt8
  deriving DecidableEq, Repr

/-- coset's `CoseSign1`; the signature is over `protectedBytes` and the payload. -/
structure CoseSign1 where
  header : ProtectedHeader
  protectedBytes : List UInt8
  payload : Option (List UInt8)
  signature : List UInt8
  deriving DecidableEq, Repr

inductive KeyType
  | ec2
  | other
  deriving DecidableEq, Repr

structure CoseKey where
  kty : KeyType
  keyId : List UInt8
  params : List (Label × Cbor)

/-- The code that verification calls and does not contain: ciborium, coset, base64 and p256, whose
verifying keys are `Key`. -/
structure AuthPlatform (Key : Type) where
  cbor : List UInt8 → Option Cbor
  decodeBase64Url : String → Option (List UInt8)
  encodeBase64Url : List UInt8 → String
  encodeBase64 : List UInt8 → String
  sign1 : List UInt8 → Option CoseSign1
  taggedSign1 : List UInt8 → Option CoseSign1
  coseKey : Cbor → Option CoseKey
  fromSec1 : List UInt8 → Except String Key
  verifies : Key → CoseSign1 → Bool
  floatNumber : UInt64 → Option Number
  debug : Cbor → String

def toI64 (n : Int) : Option Int :=
  if -9223372036854775808 ≤ n ∧ n ≤ 9223372036854775807 then some n else none

section Keys

variable {Key : Type} (platform : AuthPlatform Key)

structure Ec2Parameters where
  crvOk : Bool
  x : Option (List UInt8)
  y : Option (List UInt8)

def Ec2Parameters.read (found : Ec2Parameters) : Label × Cbor → Ec2Parameters
  | (.int (-1), .integer curve) => { found with crvOk := curve = 1 }
  | (.int (-1), _) => { found with crvOk := false }
  | (.int (-2), .bytes b) => { found with x := some b }
  | (.int (-3), .bytes b) => { found with y := some b }
  | _ => found

def p256FromCoseKey (key : CoseKey) : Except String Key :=
  if key.kty ≠ .ec2 then .error "kty is not EC2"
  else
    let found := key.params.foldl Ec2Parameters.read ⟨false, none, none⟩
    if !found.crvOk then .error "crv is not P-256"
    else
      match found.x, found.y with
      | none, _ => .error "missing x"
      | _, none => .error "missing y"
      | some x, some y =>
          if x.length ≠ 32 ∨ y.length ≠ 32 then .error "x/y are not 32 bytes"
          else platform.fromSec1 (0x04 :: x ++ y)

/-- The usable keys of a COSE_Key Set: those that parse, are P-256 and have a `kid`. -/
def usableKeys : List Cbor → List (List UInt8 × Key)
  | [] => []
  | entry :: rest =>
      match platform.coseKey entry with
      | none => usableKeys rest
      | some key =>
          match p256FromCoseKey platform key with
          | .error _ => usableKeys rest
          | .ok verifying =>
              if key.keyId.isEmpty then usableKeys rest
              else (key.keyId, verifying) :: usableKeys rest

def parseCoseKeySet (body : List UInt8) : Except String (List (List UInt8 × Key)) :=
  match platform.cbor body with
  | none => .error "not CBOR"
  | some (.array entries) =>
      if (usableKeys platform entries).isEmpty then .error "no usable P-256 keys in key set"
      else .ok (usableKeys platform entries)
  | some _ => .error "key set is not a CBOR array"

end Keys

section Json

variable {Key : Type} (platform : AuthPlatform Key)

def integerJson (n : Int) : Value :=
  if (toI64 n).isSome then .number (if 0 ≤ n then .posInt n.toNat else .negInt n)
  else if 0 ≤ n ∧ n ≤ 18446744073709551615 then .number (.posInt n.toNat)
  else .string (toString n)

mutual

def cborToJson : Cbor → Value
  | .text s => .string s
  | .integer n => integerJson n
  | .bool b => .bool b
  | .null => .null
  | .float bits => ((platform.floatNumber bits).map .number).getD .null
  | .bytes b => .string (platform.encodeBase64 b)
  | .array items => .array (itemsToJson items)
  | .map entries => .object (membersToJson [] entries)
  | .tag number value => .string (platform.debug (.tag number value))

def itemsToJson : List Cbor → List Value
  | [] => []
  | item :: rest => cborToJson item :: itemsToJson rest

def membersToJson (members : List (String × Value)) : List (Cbor × Cbor) → List (String × Value)
  | [] => members
  | (.text key, value) :: rest =>
      membersToJson (Value.insertMember members key (cborToJson value)) rest
  | _ :: rest => membersToJson members rest

end

end Json

def maxEntitlements : Nat := 500

def maxEntitlementBytes : Nat := 256

def entitlementText : Cbor → Option String
  | .text s => if s.utf8ByteSize ≤ maxEntitlementBytes then some s else none
  | _ => none

def entitlements (items : List Cbor) : List String :=
  if items.length > maxEntitlements then [] else (items.mapM entitlementText).getD []

def textArray : List Cbor → Except TokenError (List String)
  | [] => .ok []
  | .text s :: rest => do
      let texts ← textArray rest
      return s :: texts
  | _ :: _ => .error .malformed

def audMembers : List Cbor → Except TokenError (List String)
  | [] => .ok []
  | .text s :: rest =>
      if s = "" then .error .malformed
      else do
        let members ← audMembers rest
        return s :: members
  | _ :: _ => .error .malformed

section Confirmation

variable {Key : Type} (platform : AuthPlatform Key)

structure CnfKid where
  seen : List Int
  kidBytes : Option (List UInt8)
  coseKid : Option (List UInt8)

def CnfKid.read (found : CnfKid) : Cbor × Cbor → Except TokenError CnfKid
  | (.integer i, value) =>
      if i ∈ found.seen then .error .duplicateKey
      else
        let found := { found with seen := i :: found.seen }
        match i, value with
        | 2, .bytes b | 3, .bytes b => .ok { found with kidBytes := some b }
        | 1, value =>
            match platform.coseKey value with
            | some key =>
                if key.keyId.isEmpty then .ok found else .ok { found with coseKid := some key.keyId }
            | none => .ok found
        | _, _ => .ok found
  | _ => .ok found

def parseCnfKid (entries : List (Cbor × Cbor)) : Except TokenError (Option String) := do
  let found ← entries.foldlM (CnfKid.read platform) ⟨[], none, none⟩
  let bytes := (found.kidBytes.or found.coseKid).filter fun b => !b.isEmpty
  return bytes.map platform.encodeBase64Url

end Confirmation

structure ClaimsRead where
  seen : List String := []
  iss : Option String := none
  sub : Option String := none
  aud : Option Aud := none
  exp : Option Int := none
  iat : Option Int := none
  nbf : Option Int := none
  cti : Option (List UInt8) := none
  kid : Option String := none
  patreonUserId : Option String := none
  email : Option String := none
  emailVerified : Option Bool := none
  idp : Option String := none
  arkavoAccountId : Option String := none
  arkavoRoles : Option (List String) := none
  arkavoEntitlements : List String := []
  clientId : Option String := none
  arkavoPatreon : Option Value := none

section Claims

variable {Key : Type} (platform : AuthPlatform Key)

def ClaimsRead.integerClaim (claims : ClaimsRead) (label : Int) (value : Cbor) :
    Except TokenError ClaimsRead :=
  match label, value with
  | 1, .text s => .ok { claims with iss := some s }
  | 2, .text s => .ok { claims with sub := some s }
  | 3, .text s => .ok { claims with aud := some (.one s) }
  | 3, .array items => do
      let members ← audMembers items
      if members.isEmpty then .error (.missingClaim "aud")
      else .ok { claims with aud := some (.many members) }
  | 4, .integer n => .ok { claims with exp := toI64 n }
  | 6, .integer n => .ok { claims with iat := toI64 n }
  | 5, .integer n =>
      match toI64 n with
      | some nbf => .ok { claims with nbf := some nbf }
      | none => .error .malformed
  | 5, _ => .error .malformed
  | 7, .bytes b => .ok { claims with cti := some b }
  | 8, .map entries => do
      let kid ← parseCnfKid platform entries
      return { claims with kid }
  | _, _ => .ok claims

def ClaimsRead.textClaim (claims : ClaimsRead) (label : String) (value : Cbor) :
    Except TokenError ClaimsRead :=
  if label = "typ" then .error .malformed
  else
    match label, value with
    | "email", .text s => .ok { claims with email := some s }
    | "email_verified", .bool b => .ok { claims with emailVerified := some b }
    | "idp", .text s => .ok { claims with idp := some s }
    | "arkavo_account_id", .text s => .ok { claims with arkavoAccountId := some s }
    | "client_id", .text s => .ok { claims with clientId := some s }
    | "arkavo_roles", .array items => do
        let roles ← textArray items
        return { claims with arkavoRoles := some roles }
    | "arkavo_entitlements", .array items =>
        .ok { claims with arkavoEntitlements := entitlements items }
    | "arkavo_patreon", .map entries =>
        let json := cborToJson platform (.map entries)
        .ok { claims with
          patreonUserId := (json.get "patreon_user_id").bind Value.asStr
          arkavoPatreon := some json }
    | _, _ => .ok claims

def ClaimsRead.mark (claims : ClaimsRead) (key : String) : Except TokenError ClaimsRead :=
  if key ∈ claims.seen then .error .duplicateKey
  else .ok { claims with seen := key :: claims.seen }

def ClaimsRead.read (claims : ClaimsRead) : Cbor × Cbor → Except TokenError ClaimsRead
  | (.integer label, value) => do
      let marked ← claims.mark ("i:" ++ toString label)
      marked.integerClaim platform label value
  | (.text label, value) => do
      let marked ← claims.mark ("t:" ++ label)
      marked.textClaim platform label value
  | _ => .error .malformed

def nonEmpty (value : Option String) (name : String) : Except TokenError String :=
  match value with
  | some s => if s = "" then .error (.missingClaim name) else .ok s
  | none => .error (.missingClaim name)

def required {α : Type} (value : Option α) (name : String) : Except TokenError α :=
  match value with
  | some found => .ok found
  | none => .error (.missingClaim name)

def ClaimsRead.finish (claims : ClaimsRead) : Except TokenError VerifiedClaims :=
  if claims.aud = some (.one "") then .error (.missingClaim "aud")
  else do
    let iss ← nonEmpty claims.iss "iss"
    let sub ← nonEmpty claims.sub "sub"
    let aud ← required claims.aud "aud"
    let exp ← required claims.exp "exp"
    let iat ← required claims.iat "iat"
    let cti ← required (claims.cti.filter fun c => !c.isEmpty) "cti"
    return { iss, sub, aud, exp, iat, nbf := claims.nbf, cti, kid := claims.kid,
             patreonUserId := claims.patreonUserId, email := claims.email,
             emailVerified := claims.emailVerified, idp := claims.idp,
             arkavoAccountId := claims.arkavoAccountId, arkavoRoles := claims.arkavoRoles,
             arkavoEntitlements := claims.arkavoEntitlements, clientId := claims.clientId,
             arkavoPatreon := claims.arkavoPatreon }

def parseClaims (payload : List UInt8) : Except TokenError VerifiedClaims :=
  match platform.cbor payload with
  | some (.map entries) => do
      let claims ← entries.foldlM (ClaimsRead.read platform) {}
      claims.finish
  | _ => .error .malformed

end Claims

section Sign1

variable {Key : Type} (platform : AuthPlatform Key)

/-- What one call of `verify_sign1` meets: the cached keys, and those cached after `refresh_keys`, if
it had to be called. -/
structure KeyAnswers (Key : Type) where
  cached : Table (List UInt8) Key
  refreshed : Except String (Table (List UInt8) Key)

/-- The checks before a key is looked up; the result is the `kid`. -/
def checkHeader (sign1 : CoseSign1) : Except TokenError (List UInt8) :=
  if sign1.header.alg ≠ some .es256 then .error .algorithm
  else if sign1.header.crit ≠ [] then .error .malformed
  else if sign1.header.keyId = [] then .error .unknownKid
  else .ok sign1.header.keyId

def checkSignature (key : Key) (sign1 : CoseSign1) : Except TokenError Unit :=
  if platform.verifies key sign1 then .ok () else .error .signature

def verifySign1 (answers : KeyAnswers Key) (sign1 : CoseSign1) : Except TokenError Unit := do
  let kid ← checkHeader sign1
  match answers.cached.get kid with
  | some key => checkSignature platform key sign1
  | none =>
      match answers.refreshed with
      | .error why => .error (.keySet why)
      | .ok keys =>
          match keys.get kid with
          | some key => checkSignature platform key sign1
          | none => .error .unknownKid

def skewSecs : Int := 60

def tokenSign1 (token : String) : Option CoseSign1 :=
  match platform.decodeBase64Url (Text.trim token) with
  | some (0xD8 :: 0x3D :: inner) => platform.sign1 inner
  | _ => none

/-- `verify_with` from the COSE_Sign1 on. A CWT sets no content type. -/
def verifyToken (answers : KeyAnswers Key) (expectedIss expectedAud : Option String) (now : Int)
    (sign1 : CoseSign1) : Except TokenError VerifiedClaims :=
  if sign1.header.contentType.isSome then .error .malformed
  else do
    verifySign1 platform answers sign1
    match sign1.payload with
    | none => .error .malformed
    | some payload =>
        let claims ← parseClaims platform payload
        if expectedIss.any fun expected => claims.iss != expected then .error .issuer
        else if expectedAud.any fun want => !claims.aud.contains want then .error .audience
        else if claims.iat > claims.exp then .error .malformed
        else if claims.exp ≤ now - skewSecs then .error .expired
        else if claims.iat > now + skewSecs then .error .notYetValid
        else if claims.nbf.any fun nbf => nbf > now + skewSecs then .error .notYetValid
        else .ok claims

def verifyWith (answers : KeyAnswers Key) (expectedIss expectedAud : Option String) (now : Int)
    (token : String) : Except TokenError VerifiedClaims :=
  match tokenSign1 platform token with
  | none => .error .malformed
  | some sign1 => verifyToken platform answers expectedIss expectedAud now sign1

end Sign1

end TdfIrohS3
