import DotPath.Json.Printer
import DotPath.Proofs.Token.Joining

/-!
This module contains the proof that the text of a JSON value tells which value it is, for values whose
numbers are all integers. Everything that is printed shows where it ends, whatever stands behind it. Only
integers need to know that no digit does, and behind the parts of a container stand commas and line ends.
-/

namespace DotPath.Json

/-- No number in the value is a double. -/
inductive IntegersOnly : Json → Prop where
  | null : IntegersOnly .null
  | bool (b : Bool) : IntegersOnly (.bool b)
  | integer (n : Int) (fits : -0x8000000000000000 ≤ n ∧ n < 0x10000000000000000) :
    IntegersOnly (.number (.integer n fits))
  | string (s : String) : IntegersOnly (.string s)
  | array {elements : List Json} (h : ∀ element ∈ elements, IntegersOnly element) :
    IntegersOnly (.array elements)
  | object {members : List (String × Json)} (h : ∀ member ∈ members, IntegersOnly member.2) :
    IntegersOnly (.object members)

/-- No integer goes on with the text. -/
def Stops (tail : List Char) : Prop :=
  ∀ c ∈ tail.head?, c.isDigit = false

variable {c d : Char} {cs ds tail other : List Char}

section Strings

/-- The characters that are not printed as they are. -/
def escaped : List Char :=
  '"' :: '\\' :: (List.range 0x20).map Char.ofNat

theorem mem_escaped_of_toNat_lt (h : c.toNat < 0x20) : c ∈ escaped := by
  refine List.mem_cons_of_mem _ (List.mem_cons_of_mem _ (List.mem_map.mpr ⟨c.toNat, ?_, ?_⟩))
  · exact List.mem_range.mpr h
  · exact Char.ofNat_toNat c

theorem escape_of_not_mem (h : c ∉ escaped) : escape c = [c] := by
  unfold escape
  split
  case h_8 => exact if_neg fun hlt => h (mem_escaped_of_toNat_lt hlt)
  all_goals exact absurd (by decide +kernel) h

theorem head?_escape_of_mem (h : c ∈ escaped) : (escape c).head? = some '\\' := by
  have hall : escaped.all (fun c => (escape c).head? == some '\\') = true := by decide +kernel
  exact eq_of_beq (List.all_eq_true.mp hall c h)

theorem eq_of_isPrefix_escape (hc : c ∈ escaped) (hd : d ∈ escaped) (h : escape c <+: escape d) :
    c = d := by
  have hall : escaped.all (fun c => escaped.all fun d => escape c <+: escape d → c = d) = true := by
    decide +kernel
  exact of_decide_eq_true (List.all_eq_true.mp (List.all_eq_true.mp hall c hc) d hd) h

theorem head?_escape_ne_quote (c : Char) : (escape c).head? ≠ some '"' := by
  by_cases hc : c ∈ escaped
  · rw [head?_escape_of_mem hc]
    decide
  · rw [escape_of_not_mem hc]
    rintro ⟨⟩
    exact hc List.mem_cons_self

theorem escape_append_inj (h : escape c ++ tail = escape d ++ other) : c = d ∧ tail = other := by
  have hcd : c = d := by
    by_cases hc : c ∈ escaped
    · by_cases hd : d ∈ escaped
      · -- One of the two texts is a prefix of the other one.
        have hprefix : escape d <+: escape c ++ tail := ⟨other, h.symm⟩
        rcases List.prefix_or_prefix_of_prefix (List.prefix_append _ tail) hprefix with hc' | hd'
        · exact eq_of_isPrefix_escape hc hd hc'
        · exact (eq_of_isPrefix_escape hd hc hd').symm
      · have hhead := congrArg List.head? h
        rw [List.head?_append, head?_escape_of_mem hc, escape_of_not_mem hd] at hhead
        cases hhead
        exact absurd (List.mem_cons_of_mem _ List.mem_cons_self) hd
    · by_cases hd : d ∈ escaped
      · have hhead := congrArg List.head? h
        rw [List.head?_append, List.head?_append, head?_escape_of_mem hd, escape_of_not_mem hc] at hhead
        cases hhead
        exact absurd (List.mem_cons_of_mem _ List.mem_cons_self) hc
      · rw [escape_of_not_mem hc, escape_of_not_mem hd] at h
        cases h
        rfl
  subst hcd
  exact ⟨rfl, List.append_cancel_left h⟩

theorem flatMap_escape_inj (h : cs.flatMap escape ++ '"' :: tail = ds.flatMap escape ++ '"' :: other) :
    cs = ds ∧ tail = other := by
  have hends : ∀ c (cs rest tail : List Char), '"' :: tail ≠ (c :: cs).flatMap escape ++ rest := by
    intro c cs rest tail h
    have hhead := congrArg List.head? h
    rw [List.flatMap_cons, List.append_assoc, List.head?_append] at hhead
    cases hescape : escape c with
    | nil =>
      by_cases hc : c ∈ escaped
      · have := head?_escape_of_mem hc
        rw [hescape] at this
        cases this
      · rw [escape_of_not_mem hc] at hescape
        cases hescape
    | cons d ds =>
      rw [hescape] at hhead
      cases hhead
      exact head?_escape_ne_quote c (by rw [hescape]; rfl)
  induction cs generalizing ds with
  | nil =>
    cases ds with
    | nil =>
      cases h
      exact ⟨rfl, rfl⟩
    | cons d ds => exact absurd h (hends d ds _ _)
  | cons c cs ih =>
    cases ds with
    | nil => exact absurd h.symm (hends c cs _ _)
    | cons d ds =>
      rw [List.flatMap_cons, List.flatMap_cons, List.append_assoc, List.append_assoc] at h
      rcases escape_append_inj h with ⟨rfl, hrest⟩
      rcases ih hrest with ⟨rfl, rfl⟩
      exact ⟨rfl, rfl⟩

theorem stringText_append_inj {s t : String}
    (h : (stringText s).toList ++ tail = (stringText t).toList ++ other) : s = t ∧ tail = other := by
  have htext : ∀ (s : String) tail,
      (stringText s).toList ++ tail = '"' :: (s.toList.flatMap escape ++ '"' :: tail) := by
    simp [stringText]
  rw [htext, htext, List.cons.injEq] at h
  rcases flatMap_escape_inj h.2 with ⟨hchars, rfl⟩
  exact ⟨String.toList_inj.mp hchars, rfl⟩

end Strings

section Integers

theorem isDigit_of_mem_toDigits (n : Nat) : ∀ d ∈ Nat.toDigits 10 n, d.isDigit = true := by
  intro d hd
  exact Nat.isDigit_of_mem_toDigits (by decide) (by decide) hd

theorem exists_toDigits (n : Nat) : ∃ c cs, Nat.toDigits 10 n = c :: cs ∧ c.isDigit = true := by
  cases hdigits : Nat.toDigits 10 n with
  | nil => exact absurd hdigits Nat.toDigits_ne_nil
  | cons c cs =>
    refine ⟨c, cs, rfl, isDigit_of_mem_toDigits n c ?_⟩
    rw [hdigits]
    exact List.mem_cons_self

theorem toDigits_append_inj {m n : Nat} (htail : Stops tail) (hother : Stops other)
    (h : Nat.toDigits 10 m ++ tail = Nat.toDigits 10 n ++ other) : m = n ∧ tail = other := by
  have hm := Lexeme.takeWhile_append_eq_left_iff.mpr ⟨isDigit_of_mem_toDigits m, htail⟩
  have hn := Lexeme.takeWhile_append_eq_left_iff.mpr ⟨isDigit_of_mem_toDigits n, hother⟩
  rw [h, hn] at hm
  have hmn : m = n := by
    rw [← Nat.ofDigitChars_ten_toDigits (n := m), ← hm, Nat.ofDigitChars_ten_toDigits]
  subst hmn
  exact ⟨rfl, List.append_cancel_left h⟩

theorem toList_toString_natCast (n : Nat) : (toString (n : Int)).toList = Nat.toDigits 10 n := by
  exact Nat.toList_repr

theorem toList_toString_negSucc (n : Nat) :
    (toString (Int.negSucc n)).toList = '-' :: Nat.toDigits 10 (n + 1) := by
  have htext : toString (Int.negSucc n) = "-" ++ Nat.repr (n + 1) := rfl
  rw [htext, String.toList_append, Nat.toList_repr]
  rfl

theorem toString_append_inj {m n : Int} (htail : Stops tail) (hother : Stops other)
    (h : (toString m).toList ++ tail = (toString n).toList ++ other) : m = n ∧ tail = other := by
  have hsign : ∀ (n : Nat) (tail rest : List Char), Nat.toDigits 10 n ++ tail ≠ '-' :: rest := by
    intro n tail rest h
    rcases exists_toDigits n with ⟨c, cs, hdigits, hc⟩
    rw [hdigits] at h
    cases h
    cases hc
  cases m with
  | ofNat m =>
    cases n with
    | ofNat n =>
      rw [Int.ofNat_eq_natCast, Int.ofNat_eq_natCast, toList_toString_natCast,
        toList_toString_natCast] at h
      rcases toDigits_append_inj htail hother h with ⟨rfl, rfl⟩
      exact ⟨rfl, rfl⟩
    | negSucc n =>
      rw [Int.ofNat_eq_natCast, toList_toString_natCast, toList_toString_negSucc] at h
      exact absurd h (hsign m _ _)
  | negSucc m =>
    cases n with
    | ofNat n =>
      rw [Int.ofNat_eq_natCast, toList_toString_natCast, toList_toString_negSucc] at h
      exact absurd h.symm (hsign n _ _)
    | negSucc n =>
      rw [toList_toString_negSucc, toList_toString_negSucc, List.cons_append, List.cons_append,
        List.cons.injEq] at h
      rcases toDigits_append_inj htail hother h.2 with ⟨hmn, rfl⟩
      cases hmn
      exact ⟨rfl, rfl⟩

end Integers

section Containers

variable {α : Type} {text : α → String} {as bs : List α} {level : Nat}

/-- `text` tells the elements of `as` from those of `bs`, and where their texts end. -/
def Tells (text : α → String) (as bs : List α) : Prop :=
  ∀ a ∈ as, ∀ b ∈ bs, ∀ tail other, Stops tail → Stops other →
    (text a).toList ++ tail = (text b).toList ++ other → a = b ∧ tail = other

/-- The texts of all elements, with a comma behind each but the last one. -/
def lines (text : α → String) (as : List α) : List Char :=
  [',', '\n'].intercalate (as.map fun a => (text a).toList)

theorem lines_singleton (text : α → String) (a : α) : lines text [a] = (text a).toList := by
  simp [lines]

theorem lines_cons_cons (text : α → String) (a b : α) (bs : List α) :
    lines text (a :: b :: bs) = (text a).toList ++ ',' :: '\n' :: lines text (b :: bs) := by
  simp [lines, List.intercalate_cons_cons]

theorem lines_append_inj {a b : α} (h : Tells text (a :: as) (b :: bs))
    (heq : lines text (a :: as) ++ '\n' :: tail = lines text (b :: bs) ++ '\n' :: other) :
    a :: as = b :: bs ∧ tail = other := by
  have hcomma : ∀ rest, Stops (',' :: rest) := by
    rintro rest c ⟨⟩
    rfl
  have hline : ∀ rest, Stops ('\n' :: rest) := by
    rintro rest c ⟨⟩
    rfl
  induction as generalizing a b bs with
  | nil =>
    cases bs with
    | nil =>
      rw [lines_singleton, lines_singleton] at heq
      rcases h a List.mem_cons_self b List.mem_cons_self _ _ (hline _) (hline _) heq with ⟨rfl, htail⟩
      cases htail
      exact ⟨rfl, rfl⟩
    | cons b' bs =>
      rw [lines_singleton, lines_cons_cons, List.append_assoc] at heq
      have hends := (h a List.mem_cons_self b List.mem_cons_self _ _ (hline _) (hcomma _) heq).2
      cases hends
  | cons a' as ih =>
    cases bs with
    | nil =>
      rw [lines_singleton, lines_cons_cons, List.append_assoc] at heq
      have hends := (h a List.mem_cons_self b List.mem_cons_self _ _ (hcomma _) (hline _) heq).2
      cases hends
    | cons b' bs =>
      rw [lines_cons_cons, lines_cons_cons, List.append_assoc, List.append_assoc] at heq
      rcases h a List.mem_cons_self b List.mem_cons_self _ _ (hcomma _) (hcomma _) heq
        with ⟨rfl, htail⟩
      have hrest : Tells text (a' :: as) (b' :: bs) := by
        intro x hx y hy
        exact h x (List.mem_cons_of_mem _ hx) y (List.mem_cons_of_mem _ hy)
      rcases ih hrest (List.cons.inj (List.cons.inj htail).2).2 with ⟨hlist, rfl⟩
      rw [hlist]
      exact ⟨rfl, rfl⟩

def indented (level : Nat) (text : α → String) (a : α) : String :=
  indentation level ++ text a

theorem Tells.indented (h : Tells text as bs) : Tells (indented level text) as bs := by
  intro a ha b hb tail other htail hother heq
  rw [Json.indented, Json.indented, String.toList_append, String.toList_append, List.append_assoc,
    List.append_assoc, List.append_cancel_left_eq] at heq
  exact h a ha b hb tail other htail hother heq

theorem toList_block_nil (opening closing : String) :
    (block opening closing level []).toList = opening.toList ++ closing.toList := by
  simp [block]

theorem toList_block_cons (opening closing : String) (a : α) (as : List α) :
    (block opening closing level ((a :: as).map text)).toList
      = opening.toList ++ '\n' :: (lines (indented (level + 1) text) (a :: as)
        ++ '\n' :: ((indentation level).toList ++ closing.toList)) := by
  have hitems : ((a :: as).map text).map (indentation (level + 1) ++ ·)
      = (a :: as).map (indented (level + 1) text) := by
    rw [List.map_map]
    rfl
  rw [block, if_neg (by simp), hitems]
  simp only [String.toList_append, String.toList_intercalate, List.map_map, List.append_assoc]
  rfl

theorem block_append_inj {opening closing : String} {last : Char} (hclosing : closing.toList = [last])
    (hlast : last ≠ '\n') (h : Tells text as bs)
    (heq : (block opening closing level (as.map text)).toList ++ tail
      = (block opening closing level (bs.map text)).toList ++ other) : as = bs ∧ tail = other := by
  cases as with
  | nil =>
    cases bs with
    | nil => exact ⟨rfl, List.append_cancel_left heq⟩
    | cons b bs =>
      rw [List.map_nil, toList_block_nil, toList_block_cons, List.append_assoc, List.append_assoc,
        List.append_cancel_left_eq, hclosing] at heq
      exact absurd (List.cons.inj heq).1 hlast
  | cons a as =>
    cases bs with
    | nil =>
      rw [List.map_nil, toList_block_nil, toList_block_cons, List.append_assoc, List.append_assoc,
        List.append_cancel_left_eq, hclosing] at heq
      exact absurd (List.cons.inj heq).1.symm hlast
    | cons b bs =>
      rw [toList_block_cons, toList_block_cons, List.append_assoc, List.append_assoc,
        List.append_cancel_left_eq, List.cons_append, List.cons_append, List.cons.injEq,
        List.append_assoc, List.append_assoc, List.cons_append, List.cons_append] at heq
      rcases lines_append_inj h.indented heq.2 with ⟨hlist, htail⟩
      exact ⟨hlist, List.append_cancel_left htail⟩

end Containers

theorem prettyElements_eq_map (level : Nat) (elements : List Json) :
    prettyElements level elements = elements.map (pretty level) := by
  induction elements with
  | nil => rfl
  | cons element rest ih => rw [prettyElements, ih, List.map_cons]

def memberText (level : Nat) (member : String × Json) : String :=
  stringText member.1 ++ ": " ++ pretty level member.2

theorem prettyMembers_eq_map (level : Nat) (members : List (String × Json)) :
    prettyMembers level members = members.map (memberText level) := by
  induction members with
  | nil => rfl
  | cons member rest ih => rw [prettyMembers, ih, List.map_cons, memberText]

/-- The type of the values whose texts begin with `c`. -/
def typeOf (c : Char) : TypeName :=
  match c with
  | 'n' => .null
  | 't' => .boolean
  | 'f' => .boolean
  | '"' => .string
  | '[' => .array
  | '\x7b' => .object
  | _ => .number

variable {json value : Json} {level : Nat}

theorem typeOf_of_isDigit (h : c.isDigit = true) : typeOf c = .number := by
  unfold typeOf
  split
  case h_7 => rfl
  all_goals exact absurd h (by decide)

theorem exists_head?_pretty (h : json.IntegersOnly) (level : Nat) :
    ∃ c, (pretty level json).toList.head? = some c ∧ typeOf c = json.typeName := by
  cases h with
  | null => exact ⟨'n', by rw [pretty]; rfl, rfl⟩
  | bool b =>
    cases b with
    | true => exact ⟨'t', by rw [pretty]; rfl, rfl⟩
    | false => exact ⟨'f', by rw [pretty]; rfl, rfl⟩
  | integer n fits =>
    rw [pretty, Number.text]
    cases n with
    | ofNat n =>
      rcases exists_toDigits n with ⟨c, cs, hdigits, hc⟩
      refine ⟨c, ?_, typeOf_of_isDigit hc⟩
      rw [Int.ofNat_eq_natCast, toList_toString_natCast, hdigits]
      rfl
    | negSucc n =>
      refine ⟨'-', ?_, rfl⟩
      rw [toList_toString_negSucc]
      rfl
  | string s => exact ⟨'"', by simp [pretty, stringText], rfl⟩
  | array _ => exact ⟨'[', by rw [pretty, block]; split <;> simp, rfl⟩
  | object _ => exact ⟨'\x7b', by rw [pretty, block]; split <;> simp, rfl⟩

theorem typeName_eq_of_pretty (hjson : json.IntegersOnly) (hvalue : value.IntegersOnly)
    (h : (pretty level json).toList ++ tail = (pretty level value).toList ++ other) :
    json.typeName = value.typeName := by
  rcases exists_head?_pretty hjson level with ⟨c, hc, hjsonType⟩
  rcases exists_head?_pretty hvalue level with ⟨d, hd, hvalueType⟩
  have hhead := congrArg List.head? h
  rw [List.head?_append, List.head?_append, hc, hd] at hhead
  cases hhead
  rw [← hjsonType, ← hvalueType]

/-- A value is told from others by its text, as is the end of the text, unless a digit stands behind it. -/
theorem pretty_append_inj (hjson : json.IntegersOnly) (hvalue : value.IntegersOnly)
    (htail : Stops tail) (hother : Stops other)
    (h : (pretty level json).toList ++ tail = (pretty level value).toList ++ other) :
    json = value ∧ tail = other := by
  have htype := typeName_eq_of_pretty hjson hvalue h
  induction hjson generalizing value level tail other with
  | null =>
    cases hvalue <;> cases htype
    exact ⟨rfl, List.append_cancel_left h⟩
  | bool b =>
    cases hvalue <;> cases htype
    next b' =>
    cases b <;> cases b' <;> simp only [pretty] at h <;> cases h
    · exact ⟨rfl, rfl⟩
    · exact ⟨rfl, rfl⟩
  | integer n fits =>
    cases hvalue <;> cases htype
    rw [pretty, pretty] at h
    rcases toString_append_inj htail hother h with ⟨rfl, rfl⟩
    exact ⟨rfl, rfl⟩
  | string s =>
    cases hvalue <;> cases htype
    rw [pretty, pretty] at h
    rcases stringText_append_inj h with ⟨rfl, rfl⟩
    exact ⟨rfl, rfl⟩
  | @array elements helements ih =>
    cases hvalue <;> cases htype
    next others hothers =>
    rw [pretty, pretty, prettyElements_eq_map, prettyElements_eq_map] at h
    have htells : Tells (pretty (level + 1)) elements others := by
      intro element helement value hvalue tail other htail hother h
      exact ih element helement (hothers value hvalue) htail hother h
        (typeName_eq_of_pretty (helements element helement) (hothers value hvalue) h)
    rcases block_append_inj rfl (by decide) htells h with ⟨rfl, rfl⟩
    exact ⟨rfl, rfl⟩
  | @object members hmembers ih =>
    cases hvalue <;> cases htype
    next others hothers =>
    rw [pretty, pretty, prettyMembers_eq_map, prettyMembers_eq_map] at h
    have htells : Tells (memberText (level + 1)) members others := by
      intro member hmember value hvalue tail other htail hother h
      simp only [memberText, String.toList_append, List.append_assoc] at h
      rcases stringText_append_inj h with ⟨hkey, h⟩
      have h := List.append_cancel_left h
      rcases ih member hmember (hothers value hvalue) htail hother h
        (typeName_eq_of_pretty (hmembers member hmember) (hothers value hvalue) h) with ⟨hcontent, rfl⟩
      exact ⟨Prod.ext hkey hcontent, rfl⟩
    rcases block_append_inj rfl (by decide) htells h with ⟨rfl, rfl⟩
    exact ⟨rfl, rfl⟩

theorem print_inj (hjson : json.IntegersOnly) (hvalue : value.IntegersOnly)
    (h : json.print = value.print) : json = value := by
  have hnil : Stops [] := by
    rintro c ⟨⟩
  have htext : (pretty 0 json).toList ++ [] = (pretty 0 value).toList ++ [] :=
    congrArg (fun text => String.toList text ++ []) h
  exact (pretty_append_inj hjson hvalue hnil hnil htext).1

end DotPath.Json
