import DotPath.Keyed
import DotPath.Record.Basic

/-!
This module contains records that are described by data. A schema lists columns. A row of a schema
has a cell for each column name, and is a record: the columns that are bound to a path are its
fields.
-/

namespace DotPath

inductive Cell where
  | scalar (scalar : Scalar)
  | foreign (json : Json)

namespace Cell

def storage? (cell : Cell) : Option ScalarKind :=
  match cell with
  | .scalar s => some s.kind
  | .foreign _ => none

end Cell

structure Binding where
  path : String
  kind : FieldKind
  -- Whether the column can be set at all.
  settable : Bool

structure Column where
  name : String
  initial : Cell
  binding : Option Binding

namespace Column

def bound (name path : String) (initial : Scalar) : Column :=
  ⟨name, .scalar initial, some ⟨path, .scalar initial.kind, true⟩⟩

def plain (name : String) (initial : Cell) : Column :=
  ⟨name, initial, none⟩

def settable (column : Column) : Bool :=
  column.binding.any Binding.settable

def field? (column : Column) : Option Field :=
  column.binding.map fun binding => ⟨column.name, binding.path, binding.kind⟩

end Column

structure Schema where
  columns : List Column

structure Row (schema : Schema) where
  cells : List (String × Cell)

namespace Row

def cell? (row : Row schema) (name : String) : Option Cell :=
  Keyed.find? name row.cells

/-- The row of initial cells. Columns of one name share a cell, which the last of them decides on. -/
def initial (schema : Schema) : Row schema :=
  ⟨schema.columns.foldl (fun cells column => Keyed.put column.name column.initial cells) []⟩

def set (name : String) (scalar : Scalar) : Update (Row schema) := fun row =>
  match schema.columns.find? fun column => column.name = name && column.settable with
  | none => .error (.unknownField name) row
  | some column =>
    match column.initial.storage? with
    | none => .error (.unknownField name) row
    | some kind =>
      match scalar.convert kind name with
      | .ok converted => .ok () ⟨Keyed.put name (.scalar converted) row.cells⟩
      | .error failure => .error failure row

instance : Record (Row schema) where
  initial := initial schema
  fields := schema.columns.filterMap Column.field?
  set := set

end Row
end DotPath
