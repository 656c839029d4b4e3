import DotPath.Text.Utf8

/-!
This module contains the slicing of a text at byte offsets, which has no result if one of them is behind the
end of the text or within a character. The offsets at which a text can be cut are those in front of which
stands a number of whole characters.
-/

namespace DotPath.Text

/-- The byte is not behind the end of the text and not within a character. -/
abbrev Boundary (text : String) (place : Nat) : Prop :=
  String.Pos.Raw.IsValid text ⟨place⟩

/-- The first `place` bytes are those of a number of whole characters. -/
def Cuts (place : Nat) (cs : List Char) : Prop :=
  ∃ front behind, cs = front ++ behind ∧ place = byteLength front

/-- The text from the byte `first` on up to the byte `last`. -/
def slice? (text : String) (first last : Nat) : Option String :=
  if h : Boundary text first ∧ Boundary text last then
    (text.slice? (text.pos ⟨first⟩ h.1) (text.pos ⟨last⟩ h.2)).map String.Slice.copy
  else
    none

variable {text : String} {place : Nat} {front body behind : List Char}

theorem utf8ByteSize_ofList (cs : List Char) : (String.ofList cs).utf8ByteSize = byteLength cs := by
  induction cs with
  | nil => rfl
  | cons c cs ih =>
    rw [String.ofList_cons, String.utf8ByteSize_append, String.utf8ByteSize_singleton, ih, byteLength_cons]

theorem byteLength_toList (text : String) : byteLength text.toList = text.utf8ByteSize := by
  rw [← utf8ByteSize_ofList, String.ofList_toList]

theorem boundary_iff : Boundary text place ↔ Cuts place text.toList := by
  unfold Boundary Cuts
  rw [String.Pos.Raw.isValid_iff_exists_append]
  constructor
  · rintro ⟨front, behind, rfl, hplace⟩
    refine ⟨front.toList, behind.toList, String.toList_append, ?_⟩
    rw [byteLength_toList]
    exact congrArg String.Pos.Raw.byteIdx hplace
  · rintro ⟨front, behind, htext, rfl⟩
    refine ⟨String.ofList front, String.ofList behind, ?_, ?_⟩
    · rw [← String.toList_inj, htext, String.toList_append, String.toList_ofList, String.toList_ofList]
    · rw [String.Pos.Raw.ext_iff, String.byteIdx_rawEndPos, utf8ByteSize_ofList]

theorem boundary_byteLength (h : text.toList = front ++ behind) : Boundary text (byteLength front) :=
  boundary_iff.mpr ⟨front, behind, h, rfl⟩

theorem splits_pos (h : text.toList = front ++ behind) :
    (text.pos ⟨byteLength front⟩ (boundary_byteLength h)).Splits (String.ofList front)
      (String.ofList behind) := by
  constructor
  · rw [← String.toList_inj, h, String.toList_append, String.toList_ofList, String.toList_ofList]
  · rw [String.offset_pos, String.Pos.Raw.ext_iff, String.byteIdx_rawEndPos, utf8ByteSize_ofList]

theorem slice?_eq (h : text.toList = front ++ (body ++ behind)) :
    slice? text (byteLength front) (byteLength (front ++ body)) = some (String.ofList body) := by
  have hlast : text.toList = (front ++ body) ++ behind := by
    rw [h, List.append_assoc]
  have hbody : ∃ hle, (text.slice (text.pos _ (boundary_byteLength h))
      (text.pos _ (boundary_byteLength hlast)) hle).copy = String.ofList body := by
    rw [String.copy_slice_eq_iff_splits]
    refine ⟨String.ofList front, String.ofList behind, ?_, ?_⟩
    · rw [← String.ofList_append]
      apply splits_pos h
    · rw [← String.ofList_append]
      apply splits_pos hlast
  rcases hbody with ⟨hle, hcopy⟩
  rw [slice?, dif_pos ⟨boundary_byteLength h, boundary_byteLength hlast⟩, String.slice?, dif_pos hle,
    Option.map_some, hcopy]

example : slice? "né" 1 3 = some "é" ∧ slice? "né" 1 2 = none ∧ slice? "né" 1 4 = none := by
  decide

end DotPath.Text
