import DotPath.Json.Basic
import DotPath.Json.Numeral

/-!
Reading JSON texts, strictly as RFC 8259 has them: blanks are the space, the tab, the line feed and
the carriage return, strings hold no raw control characters and no half of a surrogate pair, and
nothing follows the value. Containers nest at most 127 deep.
-/

namespace DotPath.Json

structure Parsed (α : Type) (cs : List Char) where
  value : α
  rest : List Char
  rest_lt : rest.length < cs.length

def isSpace (c : Char) : Bool :=
  c = ' ' || c = '\t' || c = '\n' || c = '\r'

def skipSpace (cs : List Char) : List Char :=
  cs.dropWhile isSpace

theorem length_skipSpace_le (cs : List Char) : (skipSpace cs).length ≤ cs.length :=
  (List.dropWhile_sublist isSpace).length_le

def hexDigit? (c : Char) : Option Nat :=
  if c.isDigit then
    some (c.toNat - '0'.toNat)
  else if 'a' ≤ c ∧ c ≤ 'f' then
    some (c.toNat - 'a'.toNat + 10)
  else if 'A' ≤ c ∧ c ≤ 'F' then
    some (c.toNat - 'A'.toNat + 10)
  else
    none

def hex4? (cs : List Char) : Option (Parsed Nat cs) :=
  match cs with
  | a :: b :: c :: d :: rest => do
    let a ← hexDigit? a
    let b ← hexDigit? b
    let c ← hexDigit? c
    let d ← hexDigit? d
    return ⟨((a * 16 + b) * 16 + c) * 16 + d, rest, by simp; omega⟩
  | _ => none

/--
The character that an escape stands for, given what follows `\u`. Characters beyond the basic plane
take two escapes, a high surrogate and a low one.
-/
def unicodeEscape? (cs : List Char) : Option (Parsed Char cs) := do
  let high ← hex4? cs
  if 0xd800 ≤ high.value ∧ high.value < 0xdc00 then
    match hrest : high.rest with
    | '\\' :: 'u' :: tail =>
      let low ← hex4? tail
      if 0xdc00 ≤ low.value ∧ low.value < 0xe000 then
        let code := 0x10000 + (high.value - 0xd800) * 0x400 + (low.value - 0xdc00)
        some ⟨Char.ofNat code, low.rest, by
          have := low.rest_lt
          have := high.rest_lt
          simp [hrest] at this
          omega⟩
      else
        none
    | _ => none
  else if 0xdc00 ≤ high.value ∧ high.value < 0xe000 then
    none
  else
    some ⟨Char.ofNat high.value, high.rest, high.rest_lt⟩

def letterEscape? (c : Char) : Option Char :=
  match c with
  | '"' => some '"'
  | '\\' => some '\\'
  | '/' => some '/'
  | 'b' => some '\x08'
  | 'f' => some '\x0c'
  | 'n' => some '\n'
  | 'r' => some '\r'
  | 't' => some '\t'
  | _ => none

def escape? (cs : List Char) : Option (Parsed Char cs) :=
  match cs with
  | [] => none
  | c :: rest =>
    if c = 'u' then
      (unicodeEscape? rest).map fun ⟨value, rest, h⟩ => ⟨value, rest, Nat.lt_succ_of_lt h⟩
    else
      (letterEscape? c).map fun value => ⟨value, rest, by simp⟩

def stringBody? (cs : List Char) : Option (Parsed (List Char) cs) :=
  match cs with
  | [] => none
  | c :: tail =>
    if c = '"' then
      some ⟨[], tail, by simp⟩
    else if c = '\\' then
      match escape? tail with
      | none => none
      | some ⟨value, rest, hescape⟩ =>
        match stringBody? rest with
        | none => none
        | some ⟨values, rest, hbody⟩ => some ⟨value :: values, rest, by simp; omega⟩
    else if c.toNat < 0x20 then
      none
    else
      match stringBody? tail with
      | none => none
      | some ⟨values, rest, hbody⟩ => some ⟨c :: values, rest, by simp; omega⟩
termination_by cs.length
decreasing_by
  · simp; omega
  · simp

def literal? (word : List Char) (value : Json) (cs : List Char) : Option (Parsed Json cs) :=
  if h : word ≠ [] ∧ word <+: cs then
    some ⟨value, cs.drop word.length, by
      have := List.length_pos_iff.2 h.1
      have := h.2.length_le
      simp
      omega⟩
  else
    none

def number? (cs : List Char) : Option (Parsed Json cs) :=
  match h : Numeral.scan? cs with
  | none => none
  | some (numeral, rest) =>
    numeral.toNumber?.map fun number => ⟨.number number, rest, Numeral.length_lt_of_scan? h⟩

def atom? (cs : List Char) : Option (Parsed Json cs) :=
  match cs.head? with
  | some 'n' => literal? ['n', 'u', 'l', 'l'] .null cs
  | some 't' => literal? ['t', 'r', 'u', 'e'] (.bool true) cs
  | some 'f' => literal? ['f', 'a', 'l', 's', 'e'] (.bool false) cs
  | _ => number? cs

mutual

def value? (depth : Nat) (cs : List Char) : Option (Parsed Json cs) :=
  have skipped := length_skipSpace_le cs
  match hcs : skipSpace cs with
  | [] => none
  | c :: tail =>
    if c = '"' then
      (stringBody? tail).map fun ⟨chars, rest, h⟩ =>
        ⟨.string (String.ofList chars), rest, by simp [hcs] at skipped; omega⟩
    else if c = '[' then
      match depth with
      | 0 => none
      | depth + 1 =>
        have := length_skipSpace_le tail
        match htail : skipSpace tail with
        | ']' :: rest => some ⟨.array [], rest, by simp [hcs, htail] at *; omega⟩
        | _ =>
          match elements? depth tail with
          | none => none
          | some ⟨elements, rest, h⟩ =>
            some ⟨.array elements, rest, by simp [hcs] at skipped; omega⟩
    else if c = '\x7b' then
      match depth with
      | 0 => none
      | depth + 1 =>
        have := length_skipSpace_le tail
        match htail : skipSpace tail with
        | '\x7d' :: rest => some ⟨.object [], rest, by simp [hcs, htail] at *; omega⟩
        | _ =>
          match members? depth tail with
          | none => none
          | some ⟨members, rest, h⟩ =>
            some ⟨ofMembers members, rest, by simp [hcs] at skipped; omega⟩
    else
      (atom? (c :: tail)).map fun ⟨value, rest, h⟩ =>
        ⟨value, rest, by simp [hcs] at skipped h; omega⟩
termination_by 2 * cs.length
decreasing_by all_goals (simp [hcs] at skipped; omega)

def elements? (depth : Nat) (cs : List Char) : Option (Parsed (List Json) cs) :=
  match value? depth cs with
  | none => none
  | some ⟨value, rest, hvalue⟩ =>
    have skipped := length_skipSpace_le rest
    match hrest : skipSpace rest with
    | ']' :: rest' => some ⟨[value], rest', by simp [hrest] at skipped; omega⟩
    | ',' :: tail =>
      match elements? depth tail with
      | none => none
      | some ⟨values, rest', h⟩ => some ⟨value :: values, rest', by simp [hrest] at skipped; omega⟩
    | _ => none
termination_by 2 * cs.length + 1
decreasing_by
  · omega
  · simp [hrest] at skipped
    omega

def members? (depth : Nat) (cs : List Char) : Option (Parsed (List (String × Json)) cs) :=
  have skippedKey := length_skipSpace_le cs
  match hcs : skipSpace cs with
  | '"' :: tail =>
    match stringBody? tail with
    | none => none
    | some ⟨key, afterKey, hkey⟩ =>
      have skippedColon := length_skipSpace_le afterKey
      match hcolon : skipSpace afterKey with
      | ':' :: afterColon =>
        match value? depth afterColon with
        | none => none
        | some ⟨value, afterValue, hvalue⟩ =>
          have skippedValue := length_skipSpace_le afterValue
          match hrest : skipSpace afterValue with
          | '\x7d' :: rest =>
            some ⟨[(String.ofList key, value)], rest, by simp [hcs, hcolon, hrest] at *; omega⟩
          | ',' :: next =>
            match members? depth next with
            | none => none
            | some ⟨members, rest, h⟩ =>
              some ⟨(String.ofList key, value) :: members, rest, by
                simp [hcs, hcolon, hrest] at *; omega⟩
          | _ => none
      | _ => none
  | _ => none
termination_by 2 * cs.length + 1
decreasing_by all_goals (simp [*] at *; omega)

end

def maxDepth : Nat := 127

def parse? (text : String) : Option Json :=
  match value? maxDepth text.toList with
  | none => none
  | some ⟨value, rest, _⟩ => if (skipSpace rest).isEmpty then some value else none

end DotPath.Json
