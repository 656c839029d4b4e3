import DotPath.Binary64.Shortest
import DotPath.Json.Basic

/-!
Printing JSON values over several lines, each level of containers two spaces further in. Empty
containers stay on one line. Strings escape what JSON demands and nothing else, and a double is
written by its shortest decimal, always with a point or an exponent.
-/

namespace DotPath

namespace Decimal

inductive Layout where
  | positional
  | scientific
  deriving DecidableEq, Repr

/-- Numbers from `10 ^ -5` to below `10 ^ 16` are written without exponent. -/
def layout (d : Decimal) : Layout :=
  if -5 ≤ d.leadingExponent ∧ d.leadingExponent ≤ 15 then .positional else .scientific

def fractionText (digits : List Char) : String :=
  String.ofList (if digits.isEmpty then ['0'] else digits)

def positionalText (d : Decimal) : String :=
  if d.leadingExponent < 0 then
    "0." ++ String.ofList (List.replicate (-d.leadingExponent - 1).toNat '0' ++ d.digits)
  else
    let whole := d.leadingExponent.toNat + 1
    String.ofList (d.digits.take whole ++ List.replicate (whole - d.digits.length) '0') ++ "." ++
      fractionText (d.digits.drop whole)

def scientificText (d : Decimal) : String :=
  let others := d.digits.drop 1
  String.ofList (d.digits.take 1) ++ (if others.isEmpty then "" else "." ++ String.ofList others) ++
    (if d.leadingExponent < 0 then "e-" else "e+") ++ toString d.leadingExponent.natAbs

def text (d : Decimal) : String :=
  match d.layout with
  | .positional => d.positionalText
  | .scientific => d.scientificText

end Decimal

namespace Number

def text (number : Number) : String :=
  match number with
  | .integer n _ => toString n
  | .float x _ => (if x.negative then "-" else "") ++ x.shortest.text

end Number

namespace Json

def escape (c : Char) : List Char :=
  match c with
  | '"' => ['\\', '"']
  | '\\' => ['\\', '\\']
  | '\x08' => ['\\', 'b']
  | '\x0c' => ['\\', 'f']
  | '\n' => ['\\', 'n']
  | '\r' => ['\\', 'r']
  | '\t' => ['\\', 't']
  | c =>
    if c.toNat < 0x20 then
      ['\\', 'u', '0', '0', Nat.digitChar (c.toNat / 16), Nat.digitChar (c.toNat % 16)]
    else
      [c]

def stringText (s : String) : String :=
  "\"" ++ String.ofList (s.toList.flatMap escape) ++ "\""

def indentation (level : Nat) : String :=
  String.ofList (List.replicate (2 * level) ' ')

def block (opening closing : String) (level : Nat) (items : List String) : String :=
  if items.isEmpty then
    opening ++ closing
  else
    opening ++ "\n" ++
      String.intercalate ",\n" (items.map (indentation (level + 1) ++ ·)) ++
      "\n" ++ indentation level ++ closing

mutual

def pretty (level : Nat) (json : Json) : String :=
  match json with
  | .null => "null"
  | .bool true => "true"
  | .bool false => "false"
  | .number n => n.text
  | .string s => stringText s
  | .array elements => block "[" "]" level (prettyElements (level + 1) elements)
  | .object members => block "\x7b" "\x7d" level (prettyMembers (level + 1) members)

def prettyElements (level : Nat) (elements : List Json) : List String :=
  match elements with
  | [] => []
  | element :: rest => pretty level element :: prettyElements level rest

def prettyMembers (level : Nat) (members : List (String × Json)) : List String :=
  match members with
  | [] => []
  | (key, value) :: rest =>
    (stringText key ++ ": " ++ pretty level value) :: prettyMembers level rest

end

def print (json : Json) : String :=
  json.pretty 0

end Json
end DotPath
