import DotPath.CommandLine.Arguments
import DotPath.Json.Printer
import DotPath.Json.Reader
import DotPath.Path.Tree
import DotPath.Pipeline

/-!
This module contains what the program does with its arguments, as a function from the arguments and
the standard input to the texts that are written and the exit code.
-/

namespace DotPath.CommandLine

structure Outcome where
  exitCode : Nat
  stdout : String
  stderr : String
  deriving DecidableEq

namespace Outcome

def success (json : Json) : Outcome :=
  ⟨0, json.print ++ "\n", ""⟩

def failure (failure : Failure) : Outcome :=
  ⟨1, "", "error: " ++ failure.message ++ "\n"⟩

def invalidJson : Outcome :=
  ⟨1, "", "Invalid JSON: the document is not a JSON text\n"⟩

def invalidEncoding : Outcome :=
  ⟨1, "", "error: stream did not contain valid UTF-8\n"⟩

def usage (error : UsageError) : Outcome :=
  ⟨2, "", "error: " ++ error.message ++ "\n"⟩

end Outcome

namespace Invocation

def readsStdin (invocation : Invocation) : Bool :=
  invocation.document == "-" && !invocation.ast

def selected (invocation : Invocation) (root : Json) : Except Failure Json :=
  ((Pipeline.ofRoot root).selectAll (invocation.query :: invocation.selects)).values.map .array

/--
The single value of the given kind that `query` leads to. It is looked up as it is first: an optional
path that leads nowhere is a failure here even if a string is asked for.
-/
def typedValue (root : Json) (query : String) (kind : ScalarKind) : Except Failure Json := do
  let _ ← root.lookupOne query
  match kind with
  | .string => return .string (← root.lookupString query)
  | .number => return .ofBinary64 (← root.lookupBinary64 query)
  | .integer => return .ofInt64 (← root.lookupInt64 query)
  | .boolean => return .bool (← root.lookupBool query)

def result (invocation : Invocation) (root : Json) : Except Failure Json :=
  let found :=
    match invocation.typed with
    | some kind => typedValue root invocation.query kind
    | none => invocation.selected root
  match found with
  | .error (.optionalMissing _) => .ok .null
  | found => found

def readFallback (text : String) : Json :=
  (Json.parse? text).getD (.string text)

/-- The result, or the fallback instead of `null` and of an empty array. -/
def orFallback (invocation : Invocation) (result : Json) : Json :=
  match invocation.fallback, result with
  | some text, .null => readFallback text
  | some text, .array [] => readFallback text
  | _, result => result

def run (invocation : Invocation) (stdin : String) : Outcome :=
  if invocation.ast then
    match Path.parse invocation.query with
    | .ok path => .success path.toJson
    | .error failure => .failure failure
  else
    match Json.parse? (if invocation.document = "-" then stdin else invocation.document) with
    | none => .invalidJson
    | some root =>
      match invocation.result root with
      | .ok json => .success (invocation.orFallback json)
      | .error failure => .failure failure

end Invocation

def helpText : String :=
  "Run a path query against a JSON document.\n\n" ++
  "Usage: dotpath [OPTIONS] <JSON> <QUERY>\n\n" ++
  "  <JSON>            JSON document, or - to read it from the standard input\n" ++
  "  <QUERY>           Query, such as issue.items[fieldId==\"assignee\"][0]\n" ++
  "  --select <QUERY>  Further query on what was selected, repeatable\n" ++
  "  --typed <KIND>    Resolve to a single string, number, integer or boolean\n" ++
  "  --ast             Print the query as JSON\n" ++
  "  --default <JSON>  Printed if nothing was selected\n" ++
  "  -v, --verbose     Accepted for scripts that pass it\n" ++
  "  -h, --help        Print this text\n" ++
  "  -V, --version     Print the version\n"

def versionText : String :=
  "dotpath 0.1.0\n"

namespace Request

def readsStdin (request : Request) : Bool :=
  match request with
  | .invoke invocation => invocation.readsStdin
  | _ => false

def run (request : Request) (stdin : String) : Outcome :=
  match request with
  | .invoke invocation => invocation.run stdin
  | .help => ⟨0, helpText, ""⟩
  | .version => ⟨0, versionText, ""⟩

end Request

def run (arguments : List String) (stdin : String) : Outcome :=
  match Request.ofArguments arguments with
  | .ok request => request.run stdin
  | .error error => .usage error

end DotPath.CommandLine
