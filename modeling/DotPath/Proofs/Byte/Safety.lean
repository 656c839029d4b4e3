import DotPath.Proofs.Byte.Parsing
import DotPath.Proofs.Token.Session

/-!
This module contains the proof that reading on bytes never breaks off: not if it reads a path, and not if a
caller asks for tokens and puts back no two of them in a row. All that the cursor comes to stand at and all
that a failure names is between characters.
-/

namespace DotPath

open Text

namespace ByteReader

/-- Goes on behind a failure. There is no result if a token is to be put back and none was returned. -/
def call (last? : Option Token) (call : Call) : ByteReader (Entry × Option Token) :=
  match call, last? with
  | .next, last? => do
    match ← observing next with
    | .ok (some token) => return (⟨.token token, ← offset⟩, some token)
    | .ok none => return (⟨.finish, ← offset⟩, last?)
    | .error failure => return (⟨.failure failure, ← offset⟩, last?)
  | .pushBack, some token => do
    pushBack token
    return (⟨.pushedBack, ← offset⟩, some token)
  | .pushBack, none => breakOff

def play (last? : Option Token) (calls : List Call) : ByteReader (List Entry × Option Token) :=
  match calls with
  | [] => return ([], last?)
  | first :: calls => do
    let (entry, last?) ← call last? first
    let (entries, last?) ← play last? calls
    return (entry :: entries, last?)

variable {α : Type} {reader : ByteReader α} {cursor after : Cursor}

theorem run_observing (reader : ByteReader α) (bytes : ByteCursor) :
    (observing reader).run.run bytes
      = (reader.run.run bytes).map fun (result, after) => (.ok result, after) := by
  unfold observing
  simp only [tryCatch, tryCatchThe, MonadExceptOf.tryCatch, ExceptT.tryCatch]
  rw [ExceptT.run_mk, StateT.run_bind]
  change ((reader >>= fun value => pure (Except.ok value) : ByteReader (Except Failure α)).run.run bytes
    >>= _) = _
  rw [run_bind]
  cases reader.run.run bytes with
  | none => rfl
  | some result =>
    rcases result with ⟨result, after⟩
    cases result <;> rfl

theorem yields_observing_ok {value : α} (h : reader.Yields cursor (.ok value after)) :
    (observing reader).Yields cursor (.ok (.ok value) after) := by
  intro bytes hmarks
  rw [run_observing]
  have hagrees := h bytes hmarks
  generalize reader.run.run bytes = run at hagrees
  cases hagrees with
  | ok hafter => exact .ok hafter

theorem yields_observing_error {failure : Failure} (h : reader.Yields cursor (.error failure after)) :
    (observing reader).Yields cursor (.ok (.error failure) after) := by
  intro bytes hmarks
  rw [run_observing]
  have hagrees := h bytes hmarks
  generalize reader.run.run bytes = run at hagrees
  cases hagrees with
  | error hafter _ => exact .ok hafter

end ByteReader

/-- A token begins between characters of the text, and a failure cuts it between two of them. -/
def Answer.Fits (answer : Answer) (text : String) : Prop :=
  match answer with
  | .token t => Boundary text t.offset
  | .failure f => f.Cuts text
  | .finish => True
  | .pushedBack => True

structure Entry.Fits (entry : Entry) (text : String) : Prop where
  answer : entry.answer.Fits text
  offset : Boundary text entry.offset

/-- What is put back in the session and what can be begins between characters of the text. -/
structure Session.Fits (session : Session) (text : String) : Prop where
  text_eq : session.cursor.text = text.toList
  boundary_of_pending : ∀ token, session.cursor.pending = some token → Boundary text token.offset
  boundary_of_last : ∀ token, session.last? = some token → Boundary text token.offset

namespace Session

open Cursor

variable {text : String} {session after : Session} {first : Call} {calls : List Call} {entry : Entry}
  {entries : List Entry}

theorem fits_start (text : String) : (start text).Fits text := by
  constructor
  · rfl
  · intro token h
    cases h
  · intro token h
    cases h

namespace Fits

theorem of_pending_none (htext : session.cursor.text = text.toList) (hpending : session.cursor.pending = none)
    (hlast : ∀ token, session.last? = some token → Boundary text token.offset) : session.Fits text := by
  refine ⟨htext, ?_, hlast⟩
  intro token h
  rw [hpending] at h
  cases h

theorem sound (h : session.Fits text) : session.cursor.Sound := by
  intro token hpending
  rw [h.text_eq, ← boundary_iff]
  apply h.boundary_of_pending token hpending

theorem boundary_offset (h : session.Fits text) : Boundary text session.cursor.offset := by
  rw [boundary_iff, ← h.text_eq]
  apply cuts_offset h.sound

theorem call (hfits : session.Fits text) (h : session.call first = some (entry, after)) :
    after.Fits text ∧ entry.Fits text := by
  cases first with
  | next =>
    have hreads := next_reads hfits.text_eq
    have hpending := pending_of_call_next h
    unfold Session.call at h
    dsimp only at h
    split at h
    · next token last hnext =>
      cases h
      rw [hnext] at hreads
      have htoken : Boundary text token.offset := by
        rw [boundary_iff, ← hreads]
        apply cuts_of_next hfits.sound hnext
      have hafter : Fits ⟨last, some token⟩ text := by
        refine of_pending_none hreads hpending ?_
        intro other h
        cases h
        exact htoken
      exact ⟨hafter, htoken, hafter.boundary_offset⟩
    · next last hnext =>
      cases h
      rw [hnext] at hreads
      have hafter : Fits ⟨last, session.last?⟩ text :=
        of_pending_none hreads hpending hfits.boundary_of_last
      exact ⟨hafter, trivial, hafter.boundary_offset⟩
    · next failure last hnext =>
      cases h
      rw [hnext] at hreads
      have hafter : Fits ⟨last, session.last?⟩ text :=
        of_pending_none hreads.1 hpending hfits.boundary_of_last
      exact ⟨hafter, cuts_of_next_error hfits.text_eq hnext, hafter.boundary_offset⟩
  | pushBack =>
    unfold Session.call at h
    dsimp only at h
    split at h
    · next token hlast =>
      cases h
      have htoken := hfits.boundary_of_last token hlast
      have hafter : Fits ⟨session.cursor.pushBack token, some token⟩ text := by
        refine ⟨hfits.text_eq, ?_, ?_⟩ <;>
        · intro other h
          cases h
          exact htoken
      exact ⟨hafter, trivial, hafter.boundary_offset⟩
    · cases h

theorem play (hfits : session.Fits text) (h : session.play calls = some (entries, after)) :
    after.Fits text ∧ ∀ entry ∈ entries, entry.Fits text := by
  induction calls generalizing session entries with
  | nil =>
    cases h
    refine ⟨hfits, ?_⟩
    simp
  | cons first calls ih =>
    rcases play_cons_eq_some_iff.mp h with ⟨entry, middle, others, hcall, hothers, rfl⟩
    rcases hfits.call hcall with ⟨hmiddle, hentry⟩
    rcases ih hmiddle hothers with ⟨hafter, hothers⟩
    rw [List.forall_mem_cons]
    exact ⟨hafter, hentry, hothers⟩

end Fits

/-- Putting a token back does not break off where none has been put back before. -/
theorem yields_call (hfits : session.Fits text)
    (hpending : first = .pushBack → session.cursor.pending = none)
    (h : session.call first = some (entry, after)) :
    (ByteReader.call session.last? first).Yields session.cursor (.ok (entry, after.last?) after.cursor) := by
  cases first with
  | next =>
    have hyields := @ByteReader.yields_next session.cursor
    unfold Session.call at h
    dsimp only at h
    split at h
    · next token last hnext =>
      cases h
      rw [hnext] at hyields
      apply (ByteReader.yields_observing_ok hyields).bind
      apply ByteReader.yields_offset.bind
      apply ByteReader.Yields.pure
    · next last hnext =>
      cases h
      rw [hnext] at hyields
      apply (ByteReader.yields_observing_ok hyields).bind
      apply ByteReader.yields_offset.bind
      apply ByteReader.Yields.pure
    · next failure last hnext =>
      cases h
      rw [hnext] at hyields
      apply (ByteReader.yields_observing_error hyields).bind
      apply ByteReader.yields_offset.bind
      apply ByteReader.Yields.pure
  | pushBack =>
    unfold Session.call at h
    dsimp only at h
    split at h
    · next token hlast =>
      cases h
      have hcuts : Cuts token.offset session.cursor.text := by
        rw [hfits.text_eq, ← boundary_iff]
        apply hfits.boundary_of_last token hlast
      rw [hlast]
      apply (ByteReader.yields_pushBack (hpending rfl) hcuts).bind
      apply ByteReader.yields_offset.bind
      apply ByteReader.Yields.pure
    · cases h

theorem yields_play (hfits : session.Fits text) (hapart : Call.Apart calls)
    (hpending : calls.head? = some .pushBack → session.cursor.pending = none)
    (h : session.play calls = some (entries, after)) :
    (ByteReader.play session.last? calls).Yields session.cursor (.ok (entries, after.last?) after.cursor) := by
  induction calls generalizing session entries with
  | nil =>
    cases h
    apply ByteReader.Yields.pure
  | cons first calls ih =>
    rcases play_cons_eq_some_iff.mp h with ⟨entry, middle, others, hcall, hothers, rfl⟩
    have hmiddle : calls.head? = some .pushBack → middle.cursor.pending = none := by
      intro hhead
      rcases List.head?_eq_some_iff.mp hhead with ⟨tail, rfl⟩
      have hfirst := Call.eq_next_of_apart hapart
      rw [hfirst] at hcall
      apply pending_of_call_next hcall
    apply (yields_call hfits (fun hfirst => hpending (by rw [hfirst]; rfl)) hcall).bind
    apply (ih (hfits.call hcall).1 hapart.tail hmiddle hothers).bind
    apply ByteReader.Yields.pure

end Session

namespace ByteReader

variable {text : String} {α : Type} {reader : ByteReader α} {after : Cursor}

theorem runOn_of_yields_ok {value : α} (h : reader.Yields (Cursor.ofText text) (.ok value after))
    (htext : after.text = text.toList) :
    ∃ last, reader.runOn text = some (.ok value, last)
      ∧ ∀ place ∈ last.places, place ≤ text.utf8ByteSize ∧ Boundary text place := by
  have hagrees := h _ (ByteCursor.marks_start text)
  generalize hrun : reader.run.run (ByteCursor.start text) = run at hagrees
  cases hagrees with
  | ok hmarks => exact ⟨_, hrun, hmarks.within htext⟩

theorem runOn_of_yields_error {failure : Failure}
    (h : reader.Yields (Cursor.ofText text) (.error failure after)) (htext : after.text = text.toList) :
    failure.Cuts text ∧ ∃ last, reader.runOn text = some (.error failure, last)
      ∧ ∀ place ∈ last.places, place ≤ text.utf8ByteSize ∧ Boundary text place := by
  have hagrees := h _ (ByteCursor.marks_start text)
  generalize hrun : reader.run.run (ByteCursor.start text) = run at hagrees
  cases hagrees with
  | error hmarks hcuts =>
    rw [hmarks.text_eq_of htext] at hcuts
    exact ⟨hcuts, _, hrun, hmarks.within htext⟩

theorem runOn_path (text : String) :
    (∃ last, path.runOn text = some (Path.parse text, last)
        ∧ ∀ place ∈ last.places, place ≤ text.utf8ByteSize ∧ Boundary text place)
      ∧ ∀ failure, Path.parse text = .error failure → failure.Cuts text := by
  have hyields := @yields_path (Cursor.ofText text)
  have hreads : Reads text.toList (Path.read (Cursor.ofText text)) := Path.read_reads rfl
  rw [Path.parse]
  cases hread : Path.read (Cursor.ofText text) with
  | ok value after =>
    rw [hread] at hyields hreads
    refine ⟨runOn_of_yields_ok hyields hreads, ?_⟩
    intro failure h
    cases h
  | error failure after =>
    rw [hread] at hyields hreads
    rcases runOn_of_yields_error hyields hreads.1 with ⟨hcuts, hrun⟩
    refine ⟨hrun, ?_⟩
    intro other h
    cases h
    exact hcuts

theorem runOn_play {calls : List Call} {entries : List Entry} {session : Session}
    (hapart : Call.Apart calls) (hplay : (Session.start text).play calls = some (entries, session)) :
    (∃ last, (play none calls).runOn text = some (.ok (entries, session.last?), last)
        ∧ ∀ place ∈ last.places, place ≤ text.utf8ByteSize ∧ Boundary text place)
      ∧ ∀ entry ∈ entries, entry.Fits text := by
  have hfits := Session.fits_start text
  rcases hfits.play hplay with ⟨hsession, hentries⟩
  have hyields := Session.yields_play hfits hapart (fun _ => rfl) hplay
  exact ⟨runOn_of_yields_ok hyields hsession.text_eq, hentries⟩

/--
Neither reading a path nor a caller that puts back no two tokens in a row ever slices the text where it
cannot be cut or puts back a second token. The cursor stands and tokens begin between characters only, and
every failure is a syntax error that cuts the text there.
-/
theorem never_breaks_off (text : String) :
    (∃ last, path.runOn text = some (Path.parse text, last)
        ∧ ∀ place ∈ last.places, place ≤ text.utf8ByteSize ∧ Boundary text place)
      ∧ (∀ failure, Path.parse text = .error failure → failure.Cuts text)
      ∧ ∀ calls entries session, Call.Apart calls →
        (Session.start text).play calls = some (entries, session) →
        (∃ last, (play none calls).runOn text = some (.ok (entries, session.last?), last)
            ∧ ∀ place ∈ last.places, place ≤ text.utf8ByteSize ∧ Boundary text place)
          ∧ ∀ entry ∈ entries, entry.Fits text := by
  rcases runOn_path text with ⟨hparse, hcuts⟩
  refine ⟨hparse, hcuts, ?_⟩
  intro calls entries session hapart hplay
  exact runOn_play hapart hplay

/-- The integer is faulty behind two letters with an accent, and the dot is put back behind its failure. -/
theorem never_breaks_off_behind_accents :
    let text := "né.1ü"
    let failure := Failure.malformed .malformedInteger 4 "né." "1ü"
    let entries : List Entry := [⟨.token ⟨.text "né", 0⟩, 3⟩, ⟨.token ⟨.dot, 3⟩, 4⟩, ⟨.failure failure, 5⟩,
      ⟨.pushedBack, 3⟩, ⟨.token ⟨.dot, 3⟩, 5⟩, ⟨.token ⟨.text "ü", 5⟩, 7⟩, ⟨.finish, 7⟩]
    (∃ last, path.runOn text = some (.error failure, last)
        ∧ ∀ place ∈ last.places, place ≤ 7 ∧ Boundary text place)
      ∧ failure.Cuts text
      ∧ (∃ last, (play none [.next, .next, .next, .pushBack, .next, .next, .next]).runOn text
          = some (.ok (entries, some ⟨.text "ü", 5⟩), last)
        ∧ ∀ place ∈ last.places, place ≤ 7 ∧ Boundary text place)
      ∧ ∀ entry ∈ entries, entry.Fits text := by
  intro text failure entries
  have hparse : Path.parse text = .error failure := by decide +kernel
  have hplay : (Session.start text).play [.next, .next, .next, .pushBack, .next, .next, .next]
      = some (entries, ⟨⟨text.toList.reverse, [], none⟩, some ⟨.text "ü", 5⟩⟩) := by
    decide +kernel
  rcases never_breaks_off text with ⟨hrun, hcuts, hsession⟩
  rw [hparse] at hrun
  exact ⟨hrun, hcuts failure hparse, hsession _ _ _ (by decide) hplay⟩

end ByteReader

end DotPath
