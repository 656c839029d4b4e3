import DotPath.Filter.Printer
import DotPath.Path.Basic

/-!
This module contains the text of paths.
-/

namespace DotPath

namespace Step

def print (step : Step) : String :=
  Text.spellKey step.key ++ String.join (step.filters.map fun filter => "[" ++ filter.print ++ "]")

end Step

def Path.print (path : Path) : String :=
  match path with
  | .first step => (if step.optional then "?" else "") ++ step.print
  | .child parent step => parent.print ++ "." ++ step.print

end DotPath
