import DotPath.Json.Number
import DotPath.Keyed
import DotPath.TypeName

/-!
JSON values. `ofMembers` makes an object of members that a text lists: they get into ascending order of
their keys, and the last of several with one key wins. Lookups take objects with members in any order.
-/

namespace DotPath

inductive Json where
  | null
  | bool (value : Bool)
  | number (value : Number)
  | string (value : String)
  | array (elements : List Json)
  | object (members : List (String × Json))

namespace Json

instance : Inhabited Json := ⟨.null⟩

def typeName (json : Json) : TypeName :=
  match json with
  | .null => .null
  | .bool _ => .boolean
  | .number _ => .number
  | .string _ => .string
  | .array _ => .array
  | .object _ => .object

def ofMembers (members : List (String × Json)) : Json :=
  .object (Keyed.ofList members)

def ofInt64 (n : Int64) : Json :=
  .number (.integer n.toInt (by have := n.le_toInt; have := n.toInt_lt; omega))

/-- The number `x`. JSON has no infinities and no NaN, so they become `null`. -/
def ofBinary64 (x : Binary64) : Json :=
  if finite : x.isFinite = true then .number (.float x finite) else .null

end Json
end DotPath
