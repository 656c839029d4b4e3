import DotPath.Json.Typed

/-!
This module contains the scalars that the fields of records hold, their kinds, and the conversion
between kinds: an integer is also a number, and otherwise each kind keeps to itself.
-/

namespace DotPath

inductive ScalarKind where
  | string
  | number
  | integer
  | boolean
  deriving DecidableEq, Repr

namespace ScalarKind

def typeName (kind : ScalarKind) : TypeName :=
  match kind with
  | .string => .string
  | .number => .number
  | .integer => .integer
  | .boolean => .boolean

def ofName? (name : String) : Option ScalarKind :=
  match name with
  | "string" => some .string
  | "number" => some .number
  | "integer" => some .integer
  | "boolean" => some .boolean
  | _ => none

end ScalarKind

inductive Scalar where
  | string (s : String)
  | number (x : Binary64)
  | integer (n : Int64)
  | boolean (b : Bool)
  deriving DecidableEq

namespace Scalar

def kind (scalar : Scalar) : ScalarKind :=
  match scalar with
  | .string _ => .string
  | .number _ => .number
  | .integer _ => .integer
  | .boolean _ => .boolean

def convert? (scalar : Scalar) (kind : ScalarKind) : Option Scalar :=
  match kind, scalar with
  | .string, .string s => some (.string s)
  | .number, .number x => some (.number x)
  | .number, .integer n => some (.number (Binary64.ofInt n.toInt))
  | .integer, .integer n => some (.integer n)
  | .boolean, .boolean b => some (.boolean b)
  | _, _ => none

def convert (scalar : Scalar) (kind : ScalarKind) (field : String) : Except Failure Scalar :=
  match scalar.convert? kind with
  | some converted => .ok converted
  | none => .error (.typeMismatch field kind.typeName scalar.kind.typeName)

@[simp]
theorem convert_kind (scalar : Scalar) (field : String) :
    scalar.convert scalar.kind field = .ok scalar := by
  cases scalar <;> rfl

end Scalar

def Json.asScalar (json : Json) (kind : ScalarKind) (path : String) : Except Failure Scalar :=
  match kind with
  | .string => (json.asString path).map .string
  | .number => (json.asBinary64 path).map .number
  | .integer => (json.asInt64 path).map .integer
  | .boolean => (json.asBool path).map .boolean

end DotPath
