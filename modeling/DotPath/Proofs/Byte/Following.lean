import DotPath.Proofs.Byte.Reader
import DotPath.Proofs.Token.Steps

/-!
This module contains what it means that a reader on bytes does the same as a reader on characters: it never
breaks off, it has the same result, and it ends at the byte in front of which the same characters stand.
Two such readings can be put one behind the other.
-/

namespace DotPath

open Text

/-- The token that is put back begins between characters. -/
def Cursor.Sound (cursor : Cursor) : Prop :=
  ∀ token, cursor.pending = some token → Cuts token.offset cursor.text

/-- The byte cursor stands where `cursor` stands, and has been nowhere but between characters. -/
structure ByteCursor.Marks (bytes : ByteCursor) (cursor : Cursor) : Prop where
  text_eq : bytes.text.toList = cursor.text
  position_eq : bytes.position = byteLength cursor.before
  pending_eq : bytes.pending = cursor.pending
  boundary_of_mem : ∀ place ∈ bytes.places, Boundary bytes.text place
  sound : cursor.Sound

open ByteCursor

theorem ByteCursor.Marks.offset_eq {bytes : ByteCursor} {cursor : Cursor} (h : bytes.Marks cursor) :
    bytes.offset = cursor.offset := by
  rw [offset, Cursor.offset, h.position_eq]
  cases hpending : cursor.pending <;> rw [h.pending_eq, hpending]

theorem ByteCursor.Marks.text_eq_of {bytes : ByteCursor} {cursor : Cursor} {text : String}
    (h : bytes.Marks cursor) (htext : cursor.text = text.toList) : bytes.text = text := by
  rw [← String.toList_inj, h.text_eq, htext]

theorem ByteCursor.Marks.within {bytes : ByteCursor} {cursor : Cursor} {text : String}
    (h : bytes.Marks cursor) (htext : cursor.text = text.toList) :
    ∀ place ∈ bytes.places, place ≤ text.utf8ByteSize ∧ Boundary text place := by
  intro place hplace
  have hboundary := h.boundary_of_mem place hplace
  rw [h.text_eq_of htext] at hboundary
  exact ⟨hboundary.le_utf8ByteSize, hboundary⟩

theorem ByteCursor.marks_start (text : String) : (start text).Marks (Cursor.ofText text) where
  text_eq := rfl
  position_eq := rfl
  pending_eq := rfl
  boundary_of_mem := by
    rw [start, List.forall_mem_singleton]
    exact boundary_byteLength (List.nil_append _).symm
  sound := by
    intro token h
    cases h

/-- The failure is a syntax error, and the text is what it says is consumed and what it says is left. -/
def Failure.Cuts (failure : Failure) (text : String) : Prop :=
  ∃ fault consumed remaining, failure = .malformed fault consumed.utf8ByteSize consumed remaining
    ∧ consumed ++ remaining = text

theorem Cursor.cuts_failureAt {text : String} {cursor : Cursor} {front behind : List Char}
    (htext : cursor.text = text.toList) (hcut : cursor.text = front ++ behind) (fault : SyntaxFault) :
    (cursor.failureAt (byteLength front) fault).Cuts text := by
  refine ⟨fault, String.ofList front, String.ofList behind, ?_, ?_⟩
  · rw [failureAt_eq hcut, utf8ByteSize_ofList]
  · rw [← String.ofList_append, ← hcut, htext, String.ofList_toList]

/-- The two runs have ended alike, and so have their cursors. -/
inductive Agrees {α : Type} :
    Option (Except Failure α × ByteCursor) → EStateM.Result Failure Cursor α → Prop where
  | ok {value : α} {bytes : ByteCursor} {cursor : Cursor} (h : bytes.Marks cursor) :
    Agrees (some (.ok value, bytes)) (.ok value cursor)
  | error {failure : Failure} {bytes : ByteCursor} {cursor : Cursor} (h : bytes.Marks cursor)
      (hcuts : failure.Cuts bytes.text) :
    Agrees (some (.error failure, bytes)) (.error failure cursor)

/-- From wherever `cursor` stands the reader on bytes gets to `result`. -/
def ByteReader.Yields {α : Type} (reader : ByteReader α) (cursor : Cursor)
    (result : EStateM.Result Failure Cursor α) : Prop :=
  ∀ bytes : ByteCursor, bytes.Marks cursor → Agrees (reader.run.run bytes) result

namespace ByteReader

variable {α β : Type} {reader : ByteReader α} {others : α → ByteReader β} {cursor middle after : Cursor}
  {value : α} {result : EStateM.Result Failure Cursor β} {result' : EStateM.Result Failure Cursor α}

theorem run_bind (reader : ByteReader α) (others : α → ByteReader β) (bytes : ByteCursor) :
    (reader >>= others).run.run bytes =
      match reader.run.run bytes with
      | some (.ok value, bytes) => (others value).run.run bytes
      | some (.error failure, bytes) => some (.error failure, bytes)
      | none => none := by
  simp only [ExceptT.run_bind, StateT.run_bind]
  cases reader.run.run bytes with
  | none => rfl
  | some result =>
    rcases result with ⟨result, bytes⟩
    cases result <;> rfl

namespace Yields

theorem pure (value : α) (cursor : Cursor) : Yields (pure value) cursor (.ok value cursor) := by
  intro bytes hmarks
  exact .ok hmarks

theorem and_then (h : reader.Yields cursor result')
    (herror : ∀ failure after, result' = .error failure after → result = .error failure after)
    (hok : ∀ value after, result' = .ok value after → (others value).Yields after result) :
    (reader >>= others).Yields cursor result := by
  intro bytes hmarks
  rw [run_bind]
  have hagrees := h bytes hmarks
  generalize reader.run.run bytes = run at hagrees
  cases hagrees with
  | ok hmiddle => apply hok _ _ rfl _ hmiddle
  | error hafter hcuts =>
    rw [herror _ _ rfl]
    exact .error hafter hcuts

theorem bind (h : reader.Yields cursor (.ok value middle)) (hothers : (others value).Yields middle result) :
    (reader >>= others).Yields cursor result := by
  apply h.and_then
  · intro failure after h
    cases h
  · intro value after h
    cases h
    exact hothers

theorem bind_error {failure : Failure} (h : reader.Yields cursor (.error failure after)) :
    (reader >>= others).Yields cursor (.error failure after) := by
  apply h.and_then
  · intro failure after h
    cases h
    rfl
  · intro value after h
    cases h

theorem bind_reader {first : Reader α} {tail : α → Reader β} (h : reader.Yields cursor (first cursor))
    (hothers : ∀ value after, (others value).Yields after (tail value after)) :
    (reader >>= others).Yields cursor ((first >>= tail) cursor) := by
  apply h.and_then
  · intro failure after h
    simp only [Bind.bind, EStateM.bind, h]
  · intro value after h
    simp only [Bind.bind, EStateM.bind, h]
    apply hothers

end Yields

theorem yields_of_sound (h : cursor.Sound → reader.Yields cursor result') : reader.Yields cursor result' := by
  intro bytes hmarks
  apply h hmarks.sound bytes hmarks

theorem yields_get {others : ByteCursor → ByteReader β}
    (h : ∀ bytes, bytes.Marks cursor → (others bytes).Yields cursor result) :
    (get >>= others).Yields cursor result := by
  intro bytes hmarks
  apply h bytes hmarks bytes hmarks

theorem yields_modify {change : ByteCursor → ByteCursor}
    (h : ∀ bytes, bytes.Marks cursor → (change bytes).Marks after) :
    (modify change : ByteReader Unit).Yields cursor (.ok () after) := by
  intro bytes hmarks
  exact .ok (h bytes hmarks)

section Places

variable {before rest : List Char} {pending : Option Token} {c : Char}

theorem yields_size : size.Yields cursor (.ok (byteLength cursor.text) cursor) := by
  apply yields_get
  intro bytes hmarks
  rw [← byteLength_toList, hmarks.text_eq]
  apply Yields.pure

theorem yields_position : position.Yields cursor (.ok (byteLength cursor.before) cursor) := by
  apply yields_get
  intro bytes hmarks
  rw [hmarks.position_eq]
  apply Yields.pure

theorem yields_offset : offset.Yields cursor (.ok cursor.offset cursor) := by
  apply yields_get
  intro bytes hmarks
  rw [hmarks.offset_eq]
  apply Yields.pure

theorem yields_slice {front body behind : List Char} (h : cursor.text = front ++ (body ++ behind)) :
    (slice (byteLength front) (byteLength (front ++ body))).Yields cursor
      (.ok (String.ofList body) cursor) := by
  apply yields_get
  intro bytes hmarks
  rw [slice?_eq (hmarks.text_eq.trans h)]
  apply Yields.pure

theorem yields_note {place : Nat} (h : Cuts place cursor.text) :
    (note place).Yields cursor (.ok () cursor) := by
  apply yields_modify
  intro bytes hmarks
  constructor
  · exact hmarks.text_eq
  · exact hmarks.position_eq
  · exact hmarks.pending_eq
  · rw [List.forall_mem_cons, boundary_iff, hmarks.text_eq]
    exact ⟨h, hmarks.boundary_of_mem⟩
  · exact hmarks.sound

theorem yields_peek : peek.Yields ⟨before, rest, pending⟩ (.ok rest.head? ⟨before, rest, pending⟩) := by
  apply yields_position.bind
  apply yields_size.bind
  have hslice : (slice (byteLength before) (byteLength (before.reverse ++ rest))).Yields
      ⟨before, rest, pending⟩ (.ok (String.ofList rest) ⟨before, rest, pending⟩) := by
    rw [← byteLength_reverse before]
    apply yields_slice
    rw [Cursor.text, List.append_nil]
  apply hslice.bind
  rw [String.toList_ofList]
  apply Yields.pure

theorem text_mk_cons :
    (Cursor.mk (c :: before) rest pending).text = (Cursor.mk before (c :: rest) pending).text := by
  simp [Cursor.text]

theorem yields_bump :
    bump.Yields ⟨before, c :: rest, pending⟩ (.ok () ⟨c :: before, rest, pending⟩) := by
  apply yields_peek.bind
  apply yields_position.bind
  apply yields_modify
  intro bytes hmarks
  have hplace : byteLength before + c.utf8Size = byteLength (c :: before).reverse := by
    rw [byteLength_reverse, byteLength_cons, Nat.add_comm]
  constructor
  · rw [text_mk_cons, hmarks.text_eq]
  · rw [hplace, byteLength_reverse]
  · exact hmarks.pending_eq
  · rw [List.forall_mem_cons, hplace]
    refine ⟨?_, hmarks.boundary_of_mem⟩
    apply boundary_byteLength
    rw [hmarks.text_eq, ← text_mk_cons, Cursor.text]
  · rw [Cursor.Sound, text_mk_cons]
    exact hmarks.sound

theorem yields_consume (c : Char) :
    (consume c).Yields ⟨before, rest, pending⟩
      (if rest.head? = some c then .ok true ⟨c :: before, rest.tail, pending⟩
        else .ok false ⟨before, rest, pending⟩) := by
  apply yields_peek.bind
  split
  · next h =>
    rcases List.head?_eq_some_iff.mp h with ⟨tail, rfl⟩
    apply yields_bump.bind
    apply Yields.pure
  · apply Yields.pure

/-- The rounds that a loop may go are as many as it can need. -/
theorem remaining_lt_limit (cursor : Cursor) : cursor.remaining < byteLength cursor.text + 2 := by
  have := length_le_byteLength cursor.rest
  rw [Cursor.remaining, Cursor.text, byteLength_append]
  split <;> omega

theorem yields_limit : limit.Yields cursor (.ok (byteLength cursor.text + 2) cursor) := by
  apply yields_size.bind
  apply Yields.pure

theorem yields_skip {rounds : Nat} (hrounds : rest.length < rounds) (p : Char → Bool) :
    (skip rounds p).Yields ⟨before, rest, pending⟩
      (.ok () ⟨(rest.takeWhile p).reverse ++ before, rest.dropWhile p, pending⟩) := by
  induction rounds generalizing before rest with
  | zero => omega
  | succ rounds ih =>
    rw [skip]
    apply yields_peek.bind
    cases rest with
    | nil => apply Yields.pure
    | cons c rest =>
      rw [List.length_cons] at hrounds
      cases hc : p c with
      | false =>
        rw [List.takeWhile_cons_of_neg (by simp [hc]), List.dropWhile_cons_of_neg (by simp [hc])]
        simp only [List.head?_cons, hc]
        apply Yields.pure
      | true =>
        rw [List.takeWhile_cons_of_pos hc, List.dropWhile_cons_of_pos hc]
        simp only [List.head?_cons, hc]
        apply yields_bump.bind
        rw [List.reverse_cons, List.append_assoc, List.singleton_append]
        apply ih
        omega

theorem yields_skipWhile (p : Char → Bool) :
    (skipWhile p).Yields ⟨before, rest, pending⟩
      (.ok () ⟨(rest.takeWhile p).reverse ++ before, rest.dropWhile p, pending⟩) := by
  apply yields_limit.bind
  apply yields_skip
  apply Nat.lt_of_le_of_lt _ (remaining_lt_limit _)
  apply Nat.le_add_right

end Places

section Failing

theorem yields_failAt {place : Nat} (h : Cuts place cursor.text) (fault : SyntaxFault) :
    (failAt (α := α) place fault).Yields cursor (.error (cursor.failureAt place fault) cursor) := by
  rcases h with ⟨front, behind, htext, rfl⟩
  apply yields_size.bind
  have hmin : min (byteLength front) (byteLength cursor.text) = byteLength front := by
    rw [htext, byteLength_append]
    omega
  rw [hmin]
  have hconsumed : (slice 0 (byteLength front)).Yields cursor (.ok (String.ofList front) cursor) := by
    apply @yields_slice _ [] front behind htext
  apply hconsumed.bind
  apply yields_size.bind
  have hremaining : (slice (byteLength front) (byteLength cursor.text)).Yields cursor
      (.ok (String.ofList behind) cursor) := by
    rw [htext]
    apply yields_slice
    rw [htext, List.append_nil]
  apply hremaining.bind
  intro bytes hmarks
  have hcuts := Cursor.cuts_failureAt hmarks.text_eq.symm htext fault
  rw [Cursor.failureAt_eq htext] at hcuts ⊢
  exact .error hmarks hcuts

theorem yields_unexpected {token : Token} (h : Cuts token.offset cursor.text) (expected : Expectation) :
    (unexpected (α := α) token expected).Yields cursor (.error (cursor.unexpected token expected) cursor) := by
  apply yields_failAt h

theorem yields_unexpectedEnd (expected : Expectation) :
    (unexpectedEnd (α := α) expected).Yields cursor (.error (cursor.unexpectedEnd expected) cursor) := by
  apply yields_size.bind
  apply yields_failAt
  exact ⟨cursor.text, [], (List.append_nil _).symm, rfl⟩

end Failing
end ByteReader
end DotPath
