/-!
The names of types that messages speak of: the six types of a JSON value, and integers as a type of
their own where whole numbers are asked for.
-/

namespace DotPath

inductive TypeName where
  | null
  | boolean
  | number
  | integer
  | string
  | array
  | object
  deriving DecidableEq, Repr

namespace TypeName

def name (type : TypeName) : String :=
  match type with
  | .null => "null"
  | .boolean => "boolean"
  | .number => "number"
  | .integer => "integer"
  | .string => "string"
  | .array => "array"
  | .object => "object"

end TypeName
end DotPath
