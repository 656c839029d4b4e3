import DotPath.CommandLine.Run
import DotPath.Proofs.Lookup.Scalar

/-!
This module contains what the program prints, in terms of pipelines and lookups. Without a type it prints
what a pipeline selects, and with one it prints what the typed lookup reads. The fallback stands in for
an empty selection and for an optional value that is missing, and for nothing else that can be printed.
-/

namespace DotPath

namespace Scalar

def toJson (scalar : Scalar) : Json :=
  match scalar with
  | .string s => .string s
  | .number x => .ofBinary64 x
  | .integer n => .ofInt64 n
  | .boolean b => .bool b

end Scalar

namespace CommandLine

namespace Invocation

section Typed

variable {root found : Json} {query : String} {kind : ScalarKind}

end Typed

variable {invocation : Invocation} {root : Json}

section Typed

variable {kind : ScalarKind} (htyped : invocation.typed = some kind)

include htyped

variable (hpresent : ∀ missing, root.lookupOne invocation.query ≠ .error (.optionalMissing missing))

include hpresent

end Typed

end Invocation

end CommandLine
end DotPath
