import DotPath.Record.Scalar

/-!
This module contains the reading of command line arguments. Options may stand before, between and
behind the two positional arguments. An argument that begins with a dash is an option, unless it is
a dash alone, or the value behind an equals sign, or stands behind the argument `--`.
-/

namespace DotPath.CommandLine

structure Invocation where
  -- A JSON text, or a dash for the one on the standard input.
  document : String
  query : String
  selects : List String
  typed : Option ScalarKind
  -- Whether the query itself is to be shown.
  ast : Bool
  -- What is shown if nothing was selected.
  fallback : Option String
  deriving DecidableEq

inductive Request where
  | invoke (invocation : Invocation)
  | help
  | version
  deriving DecidableEq

inductive UsageError where
  | unexpectedArgument (argument : String)
  | unexpectedValue (option value : String)
  | missingValue (option : String)
  | invalidValue (option value : String)
  | repeatedOption (option : String)
  | conflictingOptions (option other : String)
  | missingArguments
  deriving DecidableEq

namespace UsageError

def message (error : UsageError) : String :=
  match error with
  | .unexpectedArgument argument => "unexpected argument '" ++ argument ++ "'"
  | .unexpectedValue option value => "unexpected value '" ++ value ++ "' for '" ++ option ++ "'"
  | .missingValue option => "a value is required for '" ++ option ++ "'"
  | .invalidValue option value => "invalid value '" ++ value ++ "' for '" ++ option ++ "'"
  | .repeatedOption option => "the option '" ++ option ++ "' cannot be used more than once"
  | .conflictingOptions option other =>
    "the option '" ++ option ++ "' cannot be used with '" ++ other ++ "'"
  | .missingArguments => "a document and a query are required"

end UsageError

inductive Argument where
  | separator
  | long (name : String) (value : Option String)
  | short (letters : List Char)
  | plain (text : String)
  deriving DecidableEq

def Argument.ofString (argument : String) : Argument :=
  match argument.toList with
  | ['-', '-'] => .separator
  | '-' :: '-' :: cs =>
    let name := String.ofList (cs.takeWhile (· != '='))
    match cs.dropWhile (· != '=') with
    | [] => .long name none
    | _ :: value => .long name (some (String.ofList value))
  | '-' :: c :: cs => .short (c :: cs)
  | _ => .plain argument

inductive ValueOption where
  | select
  | typed
  | fallback
  deriving DecidableEq

namespace ValueOption

def ofName? (name : String) : Option ValueOption :=
  match name with
  | "select" => some .select
  | "typed" => some .typed
  | "default" => some .fallback
  | _ => none

def spelling (option : ValueOption) : String :=
  match option with
  | .select => "--select"
  | .typed => "--typed"
  | .fallback => "--default"

end ValueOption

inductive Flag where
  | ast
  | verbose
  | help
  | version
  deriving DecidableEq

namespace Flag

def ofName? (name : String) : Option Flag :=
  match name with
  | "ast" => some .ast
  | "verbose" => some .verbose
  | "help" => some .help
  | "version" => some .version
  | _ => none

def ofLetter? (letter : Char) : Option Flag :=
  match letter with
  | 'v' => some .verbose
  | 'h' => some .help
  | 'V' => some .version
  | _ => none

end Flag

structure Collected where
  positionals : List String
  selects : List String
  typed : Option ScalarKind
  ast : Bool
  fallback : Option String

namespace Collected

def empty : Collected :=
  ⟨[], [], none, false, none⟩

def addPositional (collected : Collected) (text : String) : Except UsageError Collected :=
  if collected.positionals.length < 2 then
    .ok { collected with positionals := collected.positionals ++ [text] }
  else
    .error (.unexpectedArgument text)

def addOption (collected : Collected) (option : ValueOption) (value : String) :
    Except UsageError Collected :=
  match option with
  | .select => .ok { collected with selects := collected.selects ++ [value] }
  | .typed =>
    match ScalarKind.ofName? value, collected.typed with
    | none, _ => .error (.invalidValue option.spelling value)
    | some _, some _ => .error (.repeatedOption option.spelling)
    | some kind, none => .ok { collected with typed := some kind }
  | .fallback =>
    match collected.fallback with
    | some _ => .error (.repeatedOption option.spelling)
    | none => .ok { collected with fallback := some value }

def addFlag (collected : Collected) (flag : Flag) :
    Except UsageError (Collected ⊕ Request) :=
  match flag with
  | .ast =>
    if collected.ast then
      .error (.repeatedOption "--ast")
    else
      .ok (.inl { collected with ast := true })
  | .verbose => .ok (.inl collected)
  | .help => .ok (.inr .help)
  | .version => .ok (.inr .version)

def addLetters (collected : Collected) (letters : List Char) :
    Except UsageError (Collected ⊕ Request) :=
  match letters with
  | [] => .ok (.inl collected)
  | letter :: rest =>
    match Flag.ofLetter? letter with
    | none => .error (.unexpectedArgument (String.ofList ['-', letter]))
    | some flag => do
      match ← collected.addFlag flag with
      | .inl collected => collected.addLetters rest
      | .inr request => return .inr request

/-- The request that the arguments make, once all of them are read. -/
def finish (collected : Collected) : Except UsageError Request :=
  if collected.typed.isSome && !collected.selects.isEmpty then
    .error (.conflictingOptions "--typed" "--select")
  else
    match collected.positionals with
    | [document, query] =>
      .ok (.invoke ⟨document, query, collected.selects, collected.typed, collected.ast,
        collected.fallback⟩)
    | _ => .error .missingArguments

end Collected

def isValue (argument : String) : Bool :=
  match Argument.ofString argument with
  | .plain _ => true
  | _ => false

def read (collected : Collected) (arguments : List String) : Except UsageError Request :=
  match arguments with
  | [] => collected.finish
  | argument :: rest =>
    match Argument.ofString argument with
    | .separator => do
      (← rest.foldlM Collected.addPositional collected).finish
    | .plain text => do
      read (← collected.addPositional text) rest
    | .short letters => do
      match ← collected.addLetters letters with
      | .inl collected => read collected rest
      | .inr request => return request
    | .long name value =>
      match ValueOption.ofName? name, Flag.ofName? name, value with
      | some option, _, some value => do
        read (← collected.addOption option value) rest
      | some option, _, none =>
        match rest with
        | [] => .error (.missingValue option.spelling)
        | value :: rest =>
          if isValue value then do
            read (← collected.addOption option value) rest
          else
            .error (.missingValue option.spelling)
      | none, some flag, none => do
        match ← collected.addFlag flag with
        | .inl collected => read collected rest
        | .inr request => return request
      | none, some _, some value => .error (.unexpectedValue ("--" ++ name) value)
      | none, none, _ => .error (.unexpectedArgument argument)

def Request.ofArguments (arguments : List String) : Except UsageError Request :=
  read .empty arguments

end DotPath.CommandLine
