import Harvest.Text.Pieces
import Mathlib.Data.List.Basic

/-! Cutting a text at the occurrences of another one. The cuts are told by their places: each is at the first occurrence
in what is left. So there is one way to cut only, the pieces are free of the separator, and joined they are the text. -/

namespace Harvest.Text

/-- Joined pieces have a separator between any two neighbours. -/
theorem intercalate_cons_cons (new piece next : List Char) (rest : List (List Char)) :
    List.intercalate new (piece :: next :: rest) = piece ++ (new ++ List.intercalate new (next :: rest)) := by
  simp [List.intercalate, List.intersperse]

/-- A text holds another one exactly if that is a stretch of it. -/
theorem holds_iff_stretch {part s : List Char} : holds part s = true ↔ part <:+: s := by
  -- A stretch begins with the first character or lies behind it.
  induction s with
  | nil => simp [holds]
  | cons c s ih => rw [holds, Bool.or_eq_true, ih, List.isPrefixOf_iff_prefix, List.infix_cons_iff]

/-- The pieces of a text between the occurrences of a separator, found from left to right without overlap. -/
inductive Cut (sep : List Char) : List Char → List (List Char) → Prop
  /-- Without an occurrence the text is its only piece. -/
  | last {s : List Char} (nowhere : ¬ sep <:+: s) : Cut sep s [s]
  /-- The first piece ends where the separator begins for the first time. -/
  | next {s piece rest : List Char} {pieces : List (List Char)} (whole : s = piece ++ sep ++ rest)
      (first : ∀ before behind, s = before ++ sep ++ behind → piece.length ≤ before.length)
      (more : Cut sep rest pieces) : Cut sep s (piece :: pieces)

section Cut

variable {sep s : List Char} {pieces : List (List Char)}

/-- There is always a piece. -/
theorem Cut.ne_nil (cut : Cut sep s pieces) : pieces ≠ [] := by
  cases cut <;> exact List.cons_ne_nil _ _

/-- The pieces with separators between them are the whole. -/
theorem Cut.intercalate_eq (cut : Cut sep s pieces) : List.intercalate sep pieces = s := by
  -- By the pieces, behind each of which a separator stands, but for the last.
  induction cut with
  | last nowhere => exact List.intercalate_singleton
  | next whole first more ih =>
    obtain ⟨piece, pieces, rfl⟩ := List.exists_cons_of_ne_nil more.ne_nil
    rw [intercalate_cons_cons, ih, whole, List.append_assoc]

/-- No piece holds the separator. -/
theorem Cut.not_holds (something : sep ≠ []) (cut : Cut sep s pieces) {piece : List Char} (among : piece ∈ pieces) :
    ¬ sep <:+: piece := by
  induction cut with
  | last nowhere =>
    obtain rfl := List.mem_singleton.mp among
    exact nowhere
  | @next s ahead rest pieces whole first more ih =>
    rcases List.mem_cons.mp among with rfl | later
    · -- A separator inside the piece would begin before the first one.
      rintro ⟨before, behind, rfl⟩
      have late := first before (behind ++ sep ++ rest) (by rw [whole]; simp only [List.append_assoc])
      have room := List.length_pos_iff.mpr something
      simp only [List.length_append] at late
      omega
    · exact ih later

/-- There is one way to cut a text. -/
theorem Cut.unique (cut : Cut sep s pieces) {others : List (List Char)} (other : Cut sep s others) :
    pieces = others := by
  induction cut generalizing others with
  | last nowhere =>
    cases other with
    | last _ => rfl
    | next whole _ _ => exact absurd ⟨_, _, whole.symm⟩ nowhere
  | next whole first more ih =>
    cases other with
    | last nowhere => exact absurd ⟨_, _, whole.symm⟩ nowhere
    | next whole' first' more' =>
      -- Neither of the two first occurrences comes before the other.
      have alike := Nat.le_antisymm (first _ _ whole') (first' _ _ whole)
      rw [whole, List.append_assoc, List.append_assoc] at whole'
      obtain ⟨rfl, behind⟩ := List.append_inj whole' alike
      rw [List.append_cancel_left behind] at ih
      rw [ih more']

/-- A character belongs to the first piece behind it, unless the separator begins with it. -/
theorem Cut.cons {piece : List Char} {c : Char} (cut : Cut sep s (piece :: pieces)) (elsewhere : ¬ sep <+: c :: s) :
    Cut sep (c :: s) ((c :: piece) :: pieces) := by
  -- By whether the text is cut at all: no separator comes in with the new character.
  cases cut with
  | last nowhere =>
    refine .last fun held => ?_
    exact (List.infix_cons_iff.mp held).elim elsewhere nowhere
  | next whole first more =>
    refine .next (by rw [whole]; rfl) (fun before behind here => ?_) more
    cases before with
    | nil => exact absurd ⟨behind, by rw [here]; rfl⟩ elsewhere
    | cons d before => exact Nat.succ_le_succ (first before behind (List.cons.inj here).2)

end Cut

/-- The worker of `split` goes on with its piece up to the first cut of what is left. -/
theorem exists_splitGo {sep : List Char} (something : sep ≠ []) (skip : Nat) (piece s : List Char) :
    ∃ first rest, splitGo sep skip piece s = (piece.reverse ++ first) :: rest ∧
      Cut sep (s.drop skip) (first :: rest) := by
  fun_induction splitGo sep skip piece s with
  | case1 skip piece =>
    refine ⟨[], [], by rw [List.append_nil], ?_⟩
    rw [List.drop_nil]
    exact .last fun held => something (List.infix_nil.mp held)
  | case2 skip piece c s ih => exact ih
  | case3 piece c s found ih =>
    -- The separator stands here, so that its other characters are passed over.
    obtain ⟨first, rest, more, cut⟩ := ih
    obtain ⟨behind, whole⟩ := List.isPrefixOf_iff_prefix.mp found
    obtain ⟨mark, others, rfl⟩ := List.exists_cons_of_ne_nil something
    rw [List.cons_append] at whole
    obtain ⟨rfl, rfl⟩ := List.cons.inj whole
    rw [List.length_cons, Nat.add_sub_cancel] at more cut ⊢
    rw [List.drop_left] at cut
    exact ⟨[], first :: rest, by rw [more, List.append_nil]; rfl, .next rfl (fun _ _ _ => Nat.zero_le _) cut⟩
  | case4 piece c s elsewhere ih =>
    obtain ⟨first, rest, more, cut⟩ := ih
    refine ⟨c :: first, rest, by rw [more, List.reverse_cons, List.append_assoc]; rfl, cut.cons fun begins => ?_⟩
    exact elsewhere (List.isPrefixOf_iff_prefix.mpr begins)

/-- Splitting cuts a text at all occurrences of a separator. -/
theorem cut_splitGo {sep : List Char} (something : sep ≠ []) (s : List Char) : Cut sep s (splitGo sep 0 [] s) := by
  -- Splitting starts with nothing to skip and an empty piece.
  obtain ⟨first, rest, pieces, cut⟩ := exists_splitGo something 0 [] s
  rw [pieces]
  exact cut

/-- The pieces that a text is split into. The empty separator occurs before, between and after all characters. -/
inductive Splits : List Char → List Char → List (List Char) → Prop
  | cut {sep s : List Char} {pieces : List (List Char)} (something : sep ≠ []) (cut : Cut sep s pieces) :
      Splits sep s pieces
  | characters {s : List Char} : Splits [] s ([] :: s.map ([·]) ++ [[]])

/-- A text is split into its pieces, and into no others. -/
theorem splits_iff {sep s : List Char} {pieces : List (List Char)} : Splits sep s pieces ↔ pieces = split sep s := by
  -- There is only one way to cut a text, and an empty separator is a case of its own.
  constructor
  · rintro (⟨something, cut⟩ | _)
    · rw [split, if_neg (by simpa using something)]
      exact cut.unique (cut_splitGo something s)
    · rfl
  · rintro rfl
    cases sep with
    | nil => exact .characters
    | cons mark others => exact .cut (List.cons_ne_nil _ _) (cut_splitGo (List.cons_ne_nil _ _) s)

/-- Replacing joins the pieces anew. -/
theorem Cut.replace_eq {old s : List Char} {pieces : List (List Char)} (something : old ≠ []) (cut : Cut old s pieces)
    (new : List Char) : replace old new s = List.intercalate new pieces := by
  rw [replace, if_neg (by simpa using something), ← splits_iff.mp (.cut something cut)]

end Harvest.Text
