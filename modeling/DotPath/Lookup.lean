import DotPath.Json.Typed
import DotPath.Path.Evaluation
import DotPath.Path.Parser
import DotPath.Path.Printer

/-!
This module contains the lookup of single values: a query leads to exactly one value, which is given
back as it is or read as a string, a double, an integer or a boolean.
-/

namespace DotPath

namespace Path

def evalOne (path : Path) (root : Json) : Except Failure Json := do
  match ← path.eval root with
  | .one value => return value
  | .many [value] => return value
  | .many [] =>
    throw (if path.isOptional then .optionalMissing path.print else .notFound path.print)
  | .many values => throw (.multipleResults path.print values.length)

end Path

namespace Json

def lookup (root : Json) (query : String) : Except Failure Matches := do
  (← Path.parse query).eval root

def lookupOne (root : Json) (query : String) : Except Failure Json := do
  (← Path.parse query).evalOne root

/-- The string that `query` leads to. It is empty for `null` and for an optional path that leads nowhere. -/
def lookupString (root : Json) (query : String) : Except Failure String :=
  match root.lookupOne query with
  | .ok value => value.asString query
  | .error (.optionalMissing _) => .ok ""
  | .error failure => .error failure

def lookupBinary64 (root : Json) (query : String) : Except Failure Binary64 := do
  (← root.lookupOne query).asBinary64 query

def lookupInt64 (root : Json) (query : String) : Except Failure Int64 := do
  (← root.lookupOne query).asInt64 query

def lookupBool (root : Json) (query : String) : Except Failure Bool := do
  (← root.lookupOne query).asBool query

end Json
end DotPath
