import DotPath.Proofs.Binary64.Truncation
import DotPath.Proofs.Lookup.Scalar
import DotPath.Proofs.Record.Row

/-!
This module contains how numbers are read as integers, by a lookup and by the extraction of an integer
field. Both read the value of the number, whatever it is spelled as: first it loses its fraction, and then
it is moved into the range of 64 bits with sign. Neither of the two steps turns an order around.
-/

namespace DotPath

namespace Number

theorem toInt64_mono {number other : Number} (h : number.toRat ≤ other.toRat) :
    number.toInt64 ≤ other.toInt64 := by
  rw [Int64.le_iff_toInt_le, toInt_toInt64, toInt_toInt64]
  apply saturate_mono
  apply integerPart_mono
  exact h

variable {n : Int} {fits : -0x8000000000000000 ≤ n ∧ n < 0x10000000000000000}

theorem toInt_toInt64_of_lt (h : n < 2 ^ 63) : (integer n fits).toInt64.toInt = n := by
  rw [toInt_toInt64, toRat, integerPart_intCast]
  apply saturate_eq_self
  · exact fits.1
  · exact h

theorem toInt64_of_le (h : 2 ^ 63 ≤ n) : (integer n fits).toInt64 = Int64.maxValue := by
  apply Int64.toInt.inj
  rw [toInt_toInt64, toRat, integerPart_intCast, saturate_of_le h]
  rfl

end Number

variable {root : Json} {query : String} {number : Number}

theorem Json.lookupInt64_of_lookupOne (h : root.lookupOne query = .ok (.number number)) :
    root.lookupInt64 query = .ok number.toInt64 := by
  rw [lookupInt64, h]
  rfl

theorem Field.resolve_integer (name : String) (h : root.lookupOne query = .ok (.number number)) :
    (Field.mk name query (.scalar .integer)).resolve root = .ok (some (.integer number.toInt64)) := by
  have hread : ¬ Unread root query .integer := by
    rintro (⟨missing, hone⟩ | ⟨-, -, hone⟩)
    · cases h.symm.trans hone
    · cases h.symm.trans hone
  show root.lookupScalar? query .integer = _
  rw [lookupScalar?_of_not_unread hread, Json.lookupScalar_of_lookupOne_ok h]
  rfl

/--
A number that a query leads to is read as the integer that its value is truncated to, moved to the nearer
bound if it does not fit 64 bits. This is what a lookup gives, what an integer field resolves to and what
extraction puts into the column of the field. So integers that fit are read exactly, those beyond the
greatest one as the greatest one, and a number that is not less than another is not read as a lesser one.
-/
theorem Json.lookupInt64_truncates_and_saturates (h : root.lookupOne query = .ok (.number number)) :
    ∃ read : Int64, read.toInt = saturate (integerPart number.toRat)
      ∧ root.lookupInt64 query = .ok read
      ∧ (∀ name, (Field.mk name query (.scalar .integer)).resolve root = .ok (some (.integer read)))
      ∧ (∀ (schema : Schema) (row : Row schema) (name : String), schema.Declared →
        ⟨name, query, .scalar .integer⟩ ∈ Record.fields (Row schema) →
        (∀ field ∈ Record.fields (Row schema), ∃ found, field.resolve root = .ok found) →
        ∃ filled, (Pipeline.ofRoot root).extract row = .ok () filled
          ∧ filled.cell? name = some (.scalar (.integer read)))
      ∧ (∀ n fits, number = .integer n fits → n < 2 ^ 63 → read.toInt = n)
      ∧ (∀ n fits, number = .integer n fits → 2 ^ 63 ≤ n → read = Int64.maxValue)
      ∧ ∀ (root' : Json) (query' : String) (number' : Number),
        root'.lookupOne query' = .ok (.number number') → number.toRat ≤ number'.toRat →
          ∃ read', root'.lookupInt64 query' = .ok read' ∧ read ≤ read' := by
  refine ⟨number.toInt64, number.toInt_toInt64, lookupInt64_of_lookupOne h, ?_, ?_, ?_, ?_, ?_⟩
  · intro name
    exact Field.resolve_integer name h
  · intro schema row name hdeclared hfield hresolved
    exact Row.exists_extract_of_resolve hdeclared row hresolved hfield (Field.resolve_integer name h)
  · rintro n fits rfl hlt
    exact Number.toInt_toInt64_of_lt hlt
  · rintro n fits rfl hle
    exact Number.toInt64_of_le hle
  · intro root' query' number' h' hle
    exact ⟨number'.toInt64, lookupInt64_of_lookupOne h', Number.toInt64_mono hle⟩

/-- The number is the greatest one without sign. Its double is `2 ^ 64`, twice the bound. -/
theorem Json.lookupInt64_truncates_and_saturates_beyond_bound :
    let number := Number.integer 0xffffffffffffffff (by decide)
    let root := Json.object [("id", .number number)]
    let schema := Schema.mk [.bound "count" "id" (.integer 0)]
    let row : Row schema := Record.initial
    root.lookupOne "id" = .ok (.number number) ∧ root.lookupInt64 "id" = .ok Int64.maxValue
      ∧ ∃ filled, (Pipeline.ofRoot root).extract row = .ok () filled
        ∧ filled.cell? "count" = some (.scalar (.integer Int64.maxValue)) := by
  intro number root schema row
  have hparse : Path.parse "id" = .ok (.first ⟨"id", false, []⟩) := by
    decide +kernel
  have hone : root.lookupOne "id" = .ok (.number number) := lookupOne_of_parse hparse root
  have hdeclared : schema.Declared := by
    apply Schema.declared_of_columns (by decide)
    intro column hcolumn
    exact .inl ⟨_, _, _, List.mem_singleton.mp hcolumn⟩
  rcases lookupInt64_truncates_and_saturates hone
    with ⟨read, -, hlookup, hresolve, hextract, -, hbeyond, -⟩
  have hread : read = Int64.maxValue := hbeyond _ _ rfl (by decide)
  rw [hread] at hlookup hresolve hextract
  refine ⟨hone, hlookup, hextract schema row "count" hdeclared List.mem_cons_self ?_⟩
  have hfields : Record.fields (Row schema) = [⟨"count", "id", .scalar .integer⟩] := rfl
  rw [hfields, List.forall_mem_singleton]
  exact ⟨_, hresolve "count"⟩

end DotPath
