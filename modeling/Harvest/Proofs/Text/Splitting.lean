import Harvest.Proofs.Text.Cutting
import Mathlib.Data.List.TakeWhile

/-! Splitting a text at a separator: the pieces hold no separator, and joined they are the text again. The text up to
the first separator holds none either. -/

namespace Harvest.Text

/-- There is always a piece. -/
theorem splitAtChar_ne_nil (sep : Char) (s : List Char) : splitAtChar sep s ≠ [] := by
  -- By the first character, which begins a piece or goes on with one.
  cases s with
  | nil => simp [splitAtChar]
  | cons c s =>
    rw [splitAtChar]
    split
    · simp
    · split <;> simp

/-- Every character is a separator, or goes on with the first of the pieces behind it. -/
theorem splitAtChar_cons (sep c : Char) (s : List Char) :
    ∃ piece pieces, splitAtChar sep s = piece :: pieces ∧
      splitAtChar sep (c :: s) = if c = sep then [] :: piece :: pieces else (c :: piece) :: pieces := by
  obtain ⟨piece, pieces, split⟩ := List.exists_cons_of_ne_nil (splitAtChar_ne_nil sep s)
  exact ⟨piece, pieces, split, by rw [splitAtChar, split]⟩

/-- Splitting cuts a text at all separators. -/
theorem cut_splitAtChar (sep : Char) (s : List Char) : Cut [sep] s (splitAtChar sep s) := by
  -- By the text: a separator begins another piece, and any other character belongs to the first.
  induction s with
  | nil => exact .last fun held => List.cons_ne_nil _ _ (List.infix_nil.mp held)
  | cons c s ih =>
    obtain ⟨first, rest, before, after⟩ := splitAtChar_cons sep c s
    rw [before] at ih
    rw [after]
    split
    · rename_i same
      exact .next (by rw [same]; rfl) (fun _ _ _ => Nat.zero_le _) ih
    · rename_i other
      exact ih.cons fun ⟨_, begins⟩ => other (List.cons.inj begins).1.symm

/-- No piece holds the separator. -/
theorem not_mem_of_mem_splitAtChar {sep : Char} {s piece : List Char} (among : piece ∈ splitAtChar sep s) :
    sep ∉ piece := by
  -- A separator in a piece would be a stretch of it.
  intro held
  obtain ⟨before, behind, rfl⟩ := List.append_of_mem held
  exact (cut_splitAtChar sep s).not_holds (List.cons_ne_nil _ _) among ⟨before, behind, by simp⟩

/-- The pieces with separators between them are the whole. -/
theorem intercalate_splitAtChar (sep : Char) (s : List Char) : List.intercalate [sep] (splitAtChar sep s) = s :=
  (cut_splitAtChar sep s).intercalate_eq

/-- A text without the separator is its only piece. -/
theorem splitAtChar_eq_singleton {sep : Char} {s : List Char} (whole : sep ∉ s) : splitAtChar sep s = [s] := by
  -- By the text, none of whose characters ends the piece.
  induction s with
  | nil => rfl
  | cons c s ih =>
    obtain ⟨other, later⟩ := List.ne_and_not_mem_of_not_mem_cons whole
    rw [splitAtChar, if_neg (Ne.symm other), ih later]

/-- The first piece is what stands before the first separator. -/
theorem exists_splitAtChar (sep : Char) (s : List Char) :
    ∃ rest, splitAtChar sep s = s.takeWhile (· ≠ sep) :: rest := by
  -- By the text, up to the first separator.
  induction s with
  | nil => exact ⟨[], rfl⟩
  | cons c s ih =>
    obtain ⟨rest, pieces⟩ := ih
    rw [splitAtChar, pieces]
    by_cases here : c = sep <;> simp [here]

/-- A separator ends the first piece. -/
theorem splitAtChar_append_cons {sep : Char} {piece : List Char} (whole : sep ∉ piece) (s : List Char) :
    splitAtChar sep (piece ++ sep :: s) = piece :: splitAtChar sep s := by
  -- By the piece, none of whose characters ends it.
  induction piece with
  | nil => rw [List.nil_append, splitAtChar, if_pos rfl]
  | cons c piece ih =>
    obtain ⟨other, later⟩ := List.ne_and_not_mem_of_not_mem_cons whole
    rw [List.cons_append, splitAtChar, if_neg (Ne.symm other), ih later]

/-- The pieces of a text joined by the separator are the text. -/
theorem join_splitAtChar (sep : Char) (text : String) :
    join (String.singleton sep) ((splitAtChar sep text.toList).map String.ofList) = text := by
  -- Strings are joined by joining their characters.
  refine String.toList_injective ?_
  rw [join, String.toList_intercalate, List.map_map, Function.comp_def]
  simp only [String.toList_ofList, List.map_id']
  rw [String.toList_singleton, intercalate_splitAtChar]

/-- The text up to a character, or all of it. -/
def upTo (sep : Char) (text : String) : String :=
  String.ofList (text.toList.takeWhile (· ≠ sep))

/-- What stands before the first occurrence of a character is the text up to it. -/
theorem cutAt?_eq (sep : Char) (s : List Char) :
    (cutAt? sep s = none ∧ s.takeWhile (· ≠ sep) = s) ∨ ∃ rest, cutAt? sep s = some (s.takeWhile (· ≠ sep), rest) := by
  -- By the text, up to the first occurrence.
  induction s with
  | nil => exact .inl ⟨rfl, rfl⟩
  | cons c s ih =>
    rw [cutAt?]
    by_cases here : c = sep
    · exact .inr ⟨s, by simp [here]⟩
    · rcases ih with ⟨nowhere, all⟩ | ⟨rest, cut⟩
      · exact .inl ⟨by simp [here, nowhere], by simpa [here] using all⟩
      · exact .inr ⟨rest, by simp [here, cut]⟩

/-- A text is cut where the separator stands for the first time. -/
theorem cutAt?_append_cons {sep : Char} {before : List Char} (whole : sep ∉ before) (rest : List Char) :
    cutAt? sep (before ++ sep :: rest) = some (before, rest) := by
  -- By what stands in front, none of which is the separator.
  induction before with
  | nil => rw [List.nil_append, cutAt?, if_pos rfl]
  | cons c before ih =>
    obtain ⟨other, later⟩ := List.ne_and_not_mem_of_not_mem_cons whole
    rw [List.cons_append, cutAt?, if_neg (Ne.symm other), ih later]
    rfl

/-- What a text is cut into has the separator between them, and not before. -/
theorem eq_of_cutAt? {sep : Char} {s before rest : List Char} (cut : cutAt? sep s = some (before, rest)) :
    s = before ++ sep :: rest ∧ sep ∉ before := by
  induction s generalizing before with
  | nil => cases cut
  | cons c s ih =>
    rw [cutAt?] at cut
    split at cut
    · rename_i here
      obtain ⟨rfl, rfl⟩ := Prod.mk.inj (Option.some.inj cut)
      exact ⟨by rw [here, List.nil_append], List.not_mem_nil⟩
    · -- The first character belongs to what stands before.
      rename_i other
      obtain ⟨⟨begun, behind⟩, found, same⟩ := Option.map_eq_some_iff.mp cut
      obtain ⟨rfl, rfl⟩ := Prod.mk.inj same
      obtain ⟨whole, before⟩ := ih found
      exact ⟨by rw [List.cons_append, ← whole], List.not_mem_cons_of_ne_of_not_mem (Ne.symm other) before⟩

/-- The text up to a character does not have it. -/
theorem not_mem_upTo (sep : Char) (text : String) : sep ∉ (upTo sep text).toList := by
  -- All that is taken passes the test for another character.
  rw [upTo, String.toList_ofList]
  intro among
  simpa using List.mem_takeWhile_imp among

end Harvest.Text
