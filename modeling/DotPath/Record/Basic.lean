import DotPath.Record.Field

/-!
This module contains records: types whose values extraction can fill from JSON values. A record type
tells which fields it has and how a single field is set. Setting a field may fail; what the record
holds then is up to its type.
-/

namespace DotPath

abbrev Update (T : Type) := EStateM Failure T Unit

class Record (R : Type) where
  initial : R
  fields : List Field
  set (name : String) (scalar : Scalar) : Update R

namespace Record

variable {R : Type} [Record R]

def setAll (assignments : List (String × Scalar)) : Update R := fun record =>
  match assignments with
  | [] => .ok () record
  | (name, scalar) :: rest =>
    match set name scalar record with
    | .ok _ record => setAll rest record
    | .error failure record => .error failure record

/-- Fills a record from a value. All fields are resolved before the first one is set. -/
def populate (value : Json) : Update R := fun record =>
  match Field.resolveAll (fields R) value with
  | .error failure => .error failure record
  | .ok assignments => setAll assignments record

def build (value : Json) : Except Failure R :=
  match populate value (initial : R) with
  | .ok _ record => .ok record
  | .error failure _ => .error failure

end Record

structure Boxed (R : Type) where
  content : R
  deriving DecidableEq

instance [Record R] : Record (Boxed R) where
  initial := ⟨Record.initial⟩
  fields := Record.fields R
  set name scalar := fun boxed =>
    match Record.set name scalar boxed.content with
    | .ok _ content => .ok () ⟨content⟩
    | .error failure content => .error failure ⟨content⟩

end DotPath
