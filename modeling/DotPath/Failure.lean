import DotPath.Token
import DotPath.TypeName

/-!
This module contains everything that can go wrong with a query, as data: a pipeline of selections
keeps its first failure, and callers compare failures. What is said about a failure is the business
of the `message` functions alone.
-/

namespace DotPath

inductive Expectation where
  | key
  | keyAfterDot
  | filterOrEnd
  | operand
  | connectiveOrEnd
  | closingBracket
  | other (words : String)
  deriving DecidableEq

namespace Expectation

def words (expectation : Expectation) : String :=
  match expectation with
  | .key => "key"
  | .keyAfterDot => "key after '.'"
  | .filterOrEnd => "'[' or end of query"
  | .operand => "string or integer"
  | .connectiveOrEnd => "'&&', '||' or ']'"
  | .closingBracket => "']'"
  | .other words => words

end Expectation

inductive SyntaxFault where
  | unexpectedCharacter (c : Char)
  | incompleteOperator (operator : String)
  | unterminatedString
  | malformedInteger
  | integerOutOfRange
  | unexpectedToken (expected : Expectation) (found : TokenKind)
  | unexpectedEnd (expected : Expectation)
  | integerOnLeft
  | other (words : String)
  deriving DecidableEq

namespace SyntaxFault

def message (fault : SyntaxFault) : String :=
  match fault with
  | .unexpectedCharacter c => "unexpected character '" ++ c.toString ++ "'"
  | .incompleteOperator operator => "expected '" ++ operator ++ "'"
  | .unterminatedString => "unterminated string"
  | .malformedInteger => "malformed integer"
  | .integerOutOfRange => "integer out of range"
  | .unexpectedToken expected found =>
    "expected " ++ expected.words ++ ", found " ++ found.describe
  | .unexpectedEnd expected => "expected " ++ expected.words ++ ", found end of query"
  | .integerOnLeft => "left side of a comparison must be a field name"
  | .other words => words

end SyntaxFault

inductive FilterFault where
  | textAsIndex
  | integerOnLeft
  | missingRight
  deriving DecidableEq

namespace FilterFault

def message (fault : FilterFault) : String :=
  match fault with
  | .textAsIndex => "a filter without an operator must be an integer index"
  | .integerOnLeft => "left side of a comparison must be a field name"
  | .missingRight => "comparison is missing its right-hand side"

end FilterFault

inductive Failure where
  -- The query text is wrong at the byte `offset`, which cuts it into the two texts.
  | malformed (fault : SyntaxFault) (offset : Nat) (consumed remaining : String)
  -- A key that has to be there is missing; `path` ends with it.
  | notFound (path : String)
  -- An optional path leads nowhere, which readers take for the absence of a value.
  | optionalMissing (path : String)
  | typeMismatch (path : String) (expected actual : TypeName)
  | multipleResults (query : String) (count : Nat)
  | emptySelection
  -- So many slots cannot hold so many values.
  | invalidTarget (slots values : Nat)
  | unsupportedField (field type : String)
  | invalidFilter (filter : String) (fault : FilterFault)
  | unknownField (field : String)
  deriving DecidableEq

namespace Failure

def message (failure : Failure) : String :=
  match failure with
  | .malformed fault offset consumed remaining =>
    "syntax error at offset " ++ toString offset ++ ": " ++ fault.message ++
      " (after '" ++ consumed ++ "', before '" ++ remaining ++ "')"
  | .notFound path => "element '" ++ path ++ "' not found"
  | .optionalMissing path => "optional element '" ++ path ++ "' missing"
  | .typeMismatch path expected actual =>
    "value of '" ++ path ++ "' is " ++ actual.name ++ ", expected " ++ expected.name
  | .multipleResults query count =>
    "'" ++ query ++ "' matched " ++ toString count ++ " elements where one was expected"
  | .emptySelection => "selection is empty"
  | .invalidTarget slots values =>
    "invalid extraction target: slice of " ++ toString slots ++ " records cannot hold " ++
      toString values ++ " selected values"
  | .unsupportedField field type => "field '" ++ field ++ "' has unsupported type " ++ type
  | .invalidFilter filter fault => "invalid filter '" ++ filter ++ "': " ++ fault.message
  | .unknownField field => "record has no field named '" ++ field ++ "'"

def isOptionalMissing (failure : Failure) : Bool :=
  match failure with
  | .optionalMissing _ => true
  | _ => false

end Failure
end DotPath
