import DotPath.Record.Basic
import DotPath.Selection

/-!
This module contains the targets that a selection can be extracted into: a record takes exactly one
value, a list of records grows by one record for each value, and a fixed number of slots takes as
many values. Lists and slots are filled by fresh records, all or none.
-/

namespace DotPath

class Target (T : Type) where
  fill (selection : Selection) : Update T

structure Slots (R : Type) where
  records : List R

namespace Target

variable {R : Type} [Record R]

instance : Target R where
  fill selection := fun record =>
    match selection.values with
    | [] => .error .emptySelection record
    | [value] => Record.populate value record
    | values => .error (.multipleResults selection.describe values.length) record

instance : Target (List R) where
  fill selection := fun records =>
    match selection.values.mapM Record.build with
    | .ok built => .ok () (records ++ built)
    | .error failure => .error failure records

instance : Target (Slots R) where
  fill selection := fun slots =>
    if slots.records.length = selection.values.length then
      match selection.values.mapM Record.build with
      | .ok built => .ok () ⟨built⟩
      | .error failure => .error failure slots
    else
      .error (.invalidTarget slots.records.length selection.values.length) slots

end Target
end DotPath
