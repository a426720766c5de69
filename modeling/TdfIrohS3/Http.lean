import TdfIrohS3.Library.Text

namespace TdfIrohS3

open Library

structure Refusal where
  status : Nat
  message : String
  deriving DecidableEq, Repr

/-- Request headers in order, with lower-case names. A value's characters stand for its bytes. -/
abbrev Headers := List (String × String)

namespace Headers

/-- `HeaderValue::to_str`: only visible ASCII and tabs. -/
def toStr (value : String) : Option String :=
  if value.toList.all (fun c => (32 ≤ c.toNat && c.toNat < 127) || c == '\t') then some value
  else none

def getAll (headers : Headers) (name : String) : List String :=
  headers.filterMap fun header => if header.1 = name then some header.2 else none

def get (headers : Headers) (name : String) : Option String := (headers.getAll name).head?

end Headers

def bearer (headers : Headers) : Option String := do
  let value ← headers.get "authorization"
  let text ← Headers.toStr value
  let token ← Text.stripPrefix text "Bearer "
  let token := Text.trim token
  if token = "" then none else some token

inductive Number
  | posInt (n : Nat)
  | negInt (n : Int)
  | float (bits : UInt64)
  deriving DecidableEq, Repr

/-- A JSON value. The members of an object stand in order; a parsed text may repeat a key. -/
inductive Value
  | null
  | bool (b : Bool)
  | number (n : Number)
  | string (s : String)
  | array (items : List Value)
  | object (members : List (String × Value))
  deriving Repr

namespace Value

mutual

def decideEq : (left right : Value) → Decidable (left = right)
  | .null, .null => .isTrue rfl
  | .bool a, .bool b => decidable_of_iff (a = b) (by simp)
  | .number a, .number b => decidable_of_iff (a = b) (by simp)
  | .string a, .string b => decidable_of_iff (a = b) (by simp)
  | .array a, .array b =>
      match decideEqItems a b with
      | .isTrue same => .isTrue (by rw [same])
      | .isFalse different => .isFalse (by simpa using different)
  | .object a, .object b =>
      match decideEqMembers a b with
      | .isTrue same => .isTrue (by rw [same])
      | .isFalse different => .isFalse (by simpa using different)
  | .null, .bool _ | .null, .number _ | .null, .string _ | .null, .array _ | .null, .object _
  | .bool _, .null | .bool _, .number _ | .bool _, .string _ | .bool _, .array _
  | .bool _, .object _ | .number _, .null | .number _, .bool _ | .number _, .string _
  | .number _, .array _ | .number _, .object _ | .string _, .null | .string _, .bool _
  | .string _, .number _ | .string _, .array _ | .string _, .object _ | .array _, .null
  | .array _, .bool _ | .array _, .number _ | .array _, .string _ | .array _, .object _
  | .object _, .null | .object _, .bool _ | .object _, .number _ | .object _, .string _
  | .object _, .array _ => .isFalse (by simp)

def decideEqItems : (left right : List Value) → Decidable (left = right)
  | [], [] => .isTrue rfl
  | [], _ :: _ => .isFalse (by simp)
  | _ :: _, [] => .isFalse (by simp)
  | a :: as, b :: bs =>
      match decideEq a b, decideEqItems as bs with
      | .isTrue head, .isTrue tail => .isTrue (by rw [head, tail])
      | .isFalse different, _ => .isFalse (by simp [different])
      | _, .isFalse different => .isFalse (by simp [different])

def decideEqMembers : (left right : List (String × Value)) → Decidable (left = right)
  | [], [] => .isTrue rfl
  | [], _ :: _ => .isFalse (by simp)
  | _ :: _, [] => .isFalse (by simp)
  | (key, a) :: as, (key', b) :: bs =>
      match decEq key key', decideEq a b, decideEqMembers as bs with
      | .isTrue name, .isTrue head, .isTrue tail => .isTrue (by rw [name, head, tail])
      | .isFalse different, _, _ => .isFalse (by simp [different])
      | _, .isFalse different, _ => .isFalse (by simp [different])
      | _, _, .isFalse different => .isFalse (by simp [different])

end

instance : DecidableEq Value := decideEq

def get (value : Value) (key : String) : Option Value :=
  match value with
  | .object members => members.lookup key
  | _ => none

def asStr : Value → Option String
  | .string s => some s
  | _ => none

end Value

end TdfIrohS3
