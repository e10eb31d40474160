import Harvest.Proofs.Text.Cutting

/-! Replacing every occurrence of one text in another: the text is cut at the occurrences and its pieces are joined
anew. What was put in can be told from the result, as long as there is an occurrence at all. -/

namespace Harvest

/-- Numbers that are written alike are the same. -/
theorem eq_of_toString_eq {number other : Nat} (same : toString number = toString other) :
    number = other := by
  -- The digits tell the number.
  have digits : Nat.toDigits 10 number = Nat.toDigits 10 other := by
    rw [← Nat.toList_repr, ← Nat.toList_repr, ← Nat.toString_eq_repr, same, Nat.toString_eq_repr]
  rw [← Nat.ofDigitChars_ten_toDigits (n := number), digits, Nat.ofDigitChars_ten_toDigits]

namespace Text

/-- Joined pieces are as long as the pieces and the separators between them. -/
theorem length_intercalate (new piece : List Char) (rest : List (List Char)) :
    (List.intercalate new (piece :: rest)).length =
      (piece :: rest).flatten.length + rest.length * new.length := by
  -- By the pieces behind the first, each of which brings a separator.
  induction rest generalizing piece with
  | nil => simp [List.intercalate, List.intersperse]
  | cons next rest ih =>
    rw [intercalate_cons_cons, List.length_append, List.length_append, ih]
    simp only [List.flatten_cons, List.length_append, List.length_cons, Nat.succ_mul]
    omega

/-- Two or more pieces joined with different separators are different. -/
theorem eq_of_intercalate_eq {new other piece next : List Char} {rest : List (List Char)}
    (same : List.intercalate new (piece :: next :: rest) = List.intercalate other (piece :: next :: rest)) :
    new = other := by
  -- The separators are equally long, since they occur equally often between the same pieces.
  have long := congrArg List.length same
  rw [length_intercalate, length_intercalate, Nat.add_left_cancel_iff] at long
  have alike : new.length = other.length := Nat.eq_of_mul_eq_mul_left (by simp) long
  -- The first of them stands behind the first piece.
  rw [intercalate_cons_cons, intercalate_cons_cons, List.append_cancel_left_eq] at same
  exact List.append_inj_left same alike

/-- What is put in place of a text that occurs can be told from the result. -/
theorem eq_of_replaceAll_eq {old s : String} (something : old.toList ≠ []) (held : contains old s = true)
    {new other : String} (same : replaceAll old new s = replaceAll old other s) : new = other := by
  have alike := String.ofList_injective same
  have cut := cut_splitGo something s.toList
  rw [cut.replace_eq something, cut.replace_eq something] at alike
  refine String.toList_injective ?_
  -- A text that occurs makes for two pieces at least.
  generalize splitGo old.toList 0 [] s.toList = pieces at cut alike
  cases cut with
  | last nowhere => exact absurd (holds_iff_stretch.mp held) nowhere
  | next whole first more =>
    obtain ⟨next, rest, rfl⟩ := List.exists_cons_of_ne_nil more.ne_nil
    exact eq_of_intercalate_eq alike

/-- A stretch of a text that lacks one of its characters lies before that character or behind it. -/
theorem infix_of_infix_append_cons {part before behind : List Char} {c : Char} (foreign : c ∉ part)
    (held : part <:+: before ++ c :: behind) : part <:+: before ∨ part <:+: behind := by
  obtain ⟨front, back, whole⟩ := held
  rcases List.append_eq_append_iff.mp whole with ⟨between, rfl, -⟩ | ⟨reach, upTo, rest⟩
  · exact .inl ⟨front, between, rfl⟩
  -- Otherwise the stretch ends at the character or behind it, and in the latter case begins behind it as well.
  cases reach with
  | nil => exact .inl ⟨front, [], by simpa using upTo⟩
  | cons d reach =>
    obtain ⟨rfl, rfl⟩ := List.cons.inj rest
    rcases List.append_eq_append_iff.mp upTo with ⟨start, -, rfl⟩ | ⟨start, -, rest⟩
    · exact absurd (by simp) foreign
    · cases start with
      | nil =>
        obtain rfl : part = c :: reach := rest.symm
        exact absurd List.mem_cons_self foreign
      | cons d start =>
        obtain ⟨-, rfl⟩ := List.cons.inj rest
        exact .inr ⟨start, back, by simp⟩

/-- Texts that lack another one still do with a text between them that shares no character with it. -/
theorem not_holds_append {part new : List Char} (something : new ≠ []) (foreign : ∀ c ∈ new, c ∉ part)
    {before behind : List Char} (free : holds part before = false) (free' : holds part behind = false) :
    holds part (before ++ (new ++ behind)) = false := by
  rw [Bool.eq_false_iff, Ne, holds_iff_stretch] at free free' ⊢
  induction new generalizing before with
  | nil => exact absurd rfl something
  | cons c new ih =>
    intro held
    rcases infix_of_infix_append_cons (foreign c (by simp)) held with early | late
    · exact free early
    · -- The rest of the new text stands in front of what is behind it.
      cases new with
      | nil => exact free' late
      | cons d new =>
        have nothing : ¬part <:+: [] := fun empty => free (List.infix_nil.mp empty ▸ List.nil_infix)
        exact ih (by simp) (fun e among => foreign e (by simp [among])) nothing late

/-- Pieces that lack a text still do when they are joined with one that shares no character with it. -/
theorem not_holds_intercalate {part new : List Char} (wanted : part ≠ []) (something : new ≠ [])
    (foreign : ∀ c ∈ new, c ∉ part) {pieces : List (List Char)} (free : ∀ piece ∈ pieces, holds part piece = false) :
    holds part (List.intercalate new pieces) = false := by
  -- By the pieces: what is looked for cannot reach over a separator that it shares nothing with.
  induction pieces with
  | nil => simp [List.intercalate, holds, wanted]
  | cons piece rest ih =>
    cases rest with
    | nil => simpa [List.intercalate] using free piece (by simp)
    | cons next rest =>
      rw [intercalate_cons_cons]
      refine not_holds_append something foreign (free piece (by simp)) (ih fun other among => ?_)
      exact free other (by simp [among])

/-- Replacing cuts a text into pieces that lack what is replaced, and joins them anew. -/
theorem exists_pieces {old : String} (something : old.toList ≠ []) (s : String) :
    ∃ pieces : List String, join old pieces = s ∧ (∀ piece ∈ pieces, contains old piece = false) ∧
      ∀ new, replaceAll old new s = join new pieces := by
  -- The pieces are those that splitting cuts the text into, whatever they are joined with.
  have cut := cut_splitGo something s.toList
  have joined (new : String) : (join new ((splitGo old.toList 0 [] s.toList).map String.ofList)).toList =
      List.intercalate new.toList (splitGo old.toList 0 [] s.toList) := by
    simp [join, String.toList_intercalate, Function.comp_def]
  refine ⟨(splitGo old.toList 0 [] s.toList).map String.ofList, ?_, fun piece among => ?_, fun new => ?_⟩
  · exact String.toList_injective ((joined old).trans cut.intercalate_eq)
  · obtain ⟨found, isPiece, rfl⟩ := List.mem_map.mp among
    rw [contains, String.toList_ofList, Bool.eq_false_iff, Ne, holds_iff_stretch]
    exact cut.not_holds something isPiece
  · refine String.toList_injective ?_
    rw [joined, replaceAll, String.toList_ofList, cut.replace_eq something]

/-- A character of joined pieces is one of the separator or of a piece. -/
theorem mem_or_of_mem_intercalate {c : Char} {new : List Char} {pieces : List (List Char)}
    (among : c ∈ List.intercalate new pieces) : c ∈ new ∨ ∃ piece ∈ pieces, c ∈ piece := by
  -- By the pieces, with a separator behind each but the last.
  induction pieces with
  | nil => simp [List.intercalate] at among
  | cons piece rest ih =>
    cases rest with
    | nil => exact .inr ⟨piece, by simp, by simpa [List.intercalate] using among⟩
    | cons next rest =>
      rw [intercalate_cons_cons, List.mem_append, List.mem_append] at among
      rcases among with first | between | later
      · exact .inr ⟨piece, List.mem_cons_self, first⟩
      · exact .inl between
      · exact (ih later).imp_right fun ⟨other, member, inside⟩ => ⟨other, List.mem_cons_of_mem _ member, inside⟩

/-- A character of joined strings is one of the separator or of a string. -/
theorem mem_or_of_mem_join {c : Char} {sep : String} {pieces : List String} (among : c ∈ (join sep pieces).toList) :
    c ∈ sep.toList ∨ ∃ piece ∈ pieces, c ∈ piece.toList := by
  -- Strings are joined by joining their characters.
  rw [join, String.toList_intercalate] at among
  refine (mem_or_of_mem_intercalate among).imp_right ?_
  rintro ⟨text, member, inside⟩
  obtain ⟨piece, listed, rfl⟩ := List.mem_map.mp member
  exact ⟨piece, listed, inside⟩

/-- Strings that lack another one still do when they are joined with one that shares no character with it. -/
theorem not_contains_join {part new : String} (wanted : part.toList ≠ []) (something : new.toList ≠ [])
    (foreign : ∀ c ∈ new.toList, c ∉ part.toList) {pieces : List String}
    (free : ∀ piece ∈ pieces, contains part piece = false) : contains part (join new pieces) = false := by
  -- Strings are joined by joining their characters.
  rw [contains, join, String.toList_intercalate]
  refine not_holds_intercalate wanted something foreign fun piece among => ?_
  obtain ⟨text, member, rfl⟩ := List.mem_map.mp among
  exact free text member

end Text

end Harvest
