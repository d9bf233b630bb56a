import BbtInfra.Result
import Mathlib.Algebra.GroupWithZero.Nat

/-!
# JSON values

`JsonValue`, with the accessors that the server uses. The members of an object are kept in the
order in which they were set. What Boost.JSON does with texts is left to a parameter of the
functions that parse them.
-/
namespace BbtInfra.Mcp

/-- `JsonValue`. A double is its bits. -/
inductive JsonValue
  | null
  | bool (value : Bool)
  | int64 (value : Int64)
  | uint64 (value : UInt64)
  | double (bits : UInt64)
  | string (value : Bytes)
  | array (items : List JsonValue)
  | object (members : List (Bytes × JsonValue))

namespace JsonValue

/-- `Object()`. -/
def empty : JsonValue := .object []

/-- A string literal of the source. -/
def literal (value : String) : JsonValue := .string (text value)

/-- `IsObject`. -/
def isObject : JsonValue → Bool
  | .object _ => true
  | _ => false

/-- `IsArray`. -/
def isArray : JsonValue → Bool
  | .array _ => true
  | _ => false

/-- `IsString`. -/
def isString : JsonValue → Bool
  | .string _ => true
  | _ => false

/-- `IsBool`. -/
def isBool : JsonValue → Bool
  | .bool _ => true
  | _ => false

/-- `Find`. -/
def find (value : JsonValue) (key : Bytes) : Option JsonValue :=
  match value with
  | .object members => members.lookup key
  | _ => none

/-- `Keys`. -/
def keys : JsonValue → Option (List Bytes)
  | .object members => some (members.map Prod.fst)
  | _ => none

/-- `AsString`. -/
def asString : JsonValue → Option Bytes
  | .string value => some value
  | _ => none

/-- `AsInt64`. -/
def asInt64 : JsonValue → Option Int64
  | .int64 value => some value
  | .uint64 value => if value.toNat < 2 ^ 63 then some (Int64.ofNat value.toNat) else none
  | _ => none

/-- `AsUInt64`. -/
def asUInt64 : JsonValue → Option UInt64
  | .uint64 value => some value
  | .int64 value => if 0 ≤ value.toInt then some (UInt64.ofNat value.toInt.toNat) else none
  | _ => none

/-- One member is written, in its place or behind the others. -/
def setMember (key : Bytes) (value : JsonValue) :
    List (Bytes × JsonValue) → List (Bytes × JsonValue)
  | [] => [(key, value)]
  | (other, old) :: rest =>
    if other = key then (key, value) :: rest else (other, old) :: setMember key value rest

/-- `Set`. -/
def set (target : JsonValue) (key : Bytes) (value : JsonValue) : Except Error JsonValue :=
  match target with
  | .object members =>
    if isValidUtf8 key then .ok (.object (setMember key value members))
    else
      .error
        { makeError .invalidArgument (text "json object key must be valid UTF-8") with
          domainCode := text "mcp.json.utf8" }
  | _ =>
    .error
      { makeError .invalidArgument (text "json value is not an object") with
        domainCode := text "mcp.json.not_object" }

/-- The constructor from a text, which throws when it is not UTF-8. -/
def ofText (value : Bytes) : Option JsonValue :=
  if isValidUtf8 value then some (.string value) else none

end JsonValue

end BbtInfra.Mcp
