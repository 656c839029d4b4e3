import DotPath.Failure
import DotPath.Json.Basic

/-!
This module contains the reading of JSON values as values of a certain type. Every function takes
the path to blame if the value is of another type.
-/

namespace DotPath.Json

def mismatch (json : Json) (path : String) (expected : TypeName) : Failure :=
  .typeMismatch path expected json.typeName

def member (json : Json) (path key : String) (missing : Failure) : Except Failure Json :=
  match json with
  | .object members =>
    match Keyed.find? key members with
    | some value => .ok value
    | none => .error missing
  | other => .error (other.mismatch path .object)

def asString (json : Json) (path : String) : Except Failure String :=
  match json with
  | .string s => .ok s
  | .null => .ok ""
  | other => .error (other.mismatch path .string)

def asNumber (json : Json) (path : String) : Except Failure Number :=
  match json with
  | .number n => .ok n
  | other => .error (other.mismatch path .number)

def asBinary64 (json : Json) (path : String) : Except Failure Binary64 :=
  (json.asNumber path).map Number.toBinary64

def asInt64 (json : Json) (path : String) : Except Failure Int64 :=
  (json.asNumber path).map Number.toInt64

def asBool (json : Json) (path : String) : Except Failure Bool :=
  match json with
  | .bool b => .ok b
  | other => .error (other.mismatch path .boolean)

end DotPath.Json
