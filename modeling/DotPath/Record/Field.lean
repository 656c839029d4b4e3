import DotPath.Lookup
import DotPath.Record.Scalar

/-!
This module contains the fields of records as extraction sees them: a name, the path that the value
comes from, and the kind of scalar that is read there.
-/

namespace DotPath

inductive FieldKind where
  | scalar (kind : ScalarKind)
  | unsupported (type : String)
  deriving DecidableEq, Repr

def FieldKind.name (kind : FieldKind) : String :=
  match kind with
  | .scalar kind => kind.typeName.name
  | .unsupported type => type

structure Field where
  name : String
  path : String
  kind : FieldKind
  deriving DecidableEq, Repr

namespace Json

def isNull (json : Json) : Bool :=
  match json with
  | .null => true
  | _ => false

/--
The scalar of the given kind that `query` leads to. There is none where an optional query leads
nowhere or, strings aside, to `null`.
-/
def lookupScalar? (root : Json) (query : String) (kind : ScalarKind) :
    Except Failure (Option Scalar) := do
  let path ← Path.parse query
  match path.evalOne root with
  | .error (.optionalMissing _) => return none
  | .error failure => throw failure
  | .ok found =>
    if found.isNull && path.isOptional && kind != .string then
      return none
    else
      return some (← found.asScalar kind query)

end Json

def Field.resolve (field : Field) (value : Json) : Except Failure (Option Scalar) :=
  match field.kind with
  | .scalar kind => value.lookupScalar? field.path kind
  | .unsupported type => .error (.unsupportedField field.name type)

def Field.resolveAll (fields : List Field) (value : Json) :
    Except Failure (List (String × Scalar)) :=
  match fields with
  | [] => .ok []
  | field :: rest => do
    let resolved ← field.resolve value
    let others ← Field.resolveAll rest value
    match resolved with
    | some scalar => return (field.name, scalar) :: others
    | none => return others

end DotPath
