import DotPath.Comparator

/-!
This module contains the tokens of a query text.
-/

namespace DotPath

/-- A bare word and a text in quotes are the same kind of token. -/
inductive TokenKind where
  | dot
  | leftBracket
  | rightBracket
  | question
  | and
  | or
  | comparator (comparator : Comparator)
  | text (text : String)
  | integer (n : Int64)
  deriving DecidableEq

namespace TokenKind

def describe (kind : TokenKind) : String :=
  match kind with
  | .dot => "'.'"
  | .leftBracket => "'['"
  | .rightBracket => "']'"
  | .question => "'?'"
  | .and => "'&&'"
  | .or => "'||'"
  | .comparator c => "'" ++ c.symbol ++ "'"
  | .text s => "string \"" ++ s ++ "\""
  | .integer n => "integer " ++ toString n.toInt

def text? (kind : TokenKind) : Option String :=
  match kind with
  | .text s => some s
  | _ => none

def comparator? (kind : TokenKind) : Option Comparator :=
  match kind with
  | .comparator c => some c
  | _ => none

end TokenKind

structure Token where
  kind : TokenKind
  offset : Nat
  deriving DecidableEq

end DotPath
