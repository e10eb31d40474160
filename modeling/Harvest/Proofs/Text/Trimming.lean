import Harvest.Text.Blank
import Mathlib.Data.List.DropRight

/-! Trimmed texts: those that neither begin nor end with white space. Trimming gives such a text, and leaves it alone
from then on. -/

namespace Harvest.Text

/-- There is no white space at either end of the text. -/
def Trimmed (s : List Char) : Prop :=
  (∀ c ∈ s.head?, isBlank c = false) ∧ ∀ c ∈ s.getLast?, isBlank c = false

/-- What is left begins with a character that is not dropped. -/
theorem not_of_mem_head?_dropWhile {p : Char → Bool} {s : List Char} {c : Char}
    (first : c ∈ (s.dropWhile p).head?) : p c = false := by
  have kept := List.head?_dropWhile_not p s
  rwa [Option.mem_def.mp first] at kept

/-- What is left after dropping at the end is a beginning of the text. -/
theorem dropRightWhile_isPrefix (p : Char → Bool) (s : List Char) : dropRightWhile p s <+: s :=
  List.rdropWhile_prefix p s

/-- Nothing is dropped at the end if the last character stays. -/
theorem dropRightWhile_eq_self {p : Char → Bool} {s : List Char} (last : ∀ c ∈ s.getLast?, p c = false) :
    dropRightWhile p s = s := by
  -- By its last character alone.
  refine List.rdropWhile_eq_self_iff.mpr fun some_ => ?_
  rw [last _ (List.getLast_mem_getLast? some_)]
  exact Bool.false_ne_true

/-- Nothing is dropped at the beginning if the first character stays. -/
theorem dropWhile_eq_self {p : Char → Bool} {s : List Char} (first : ∀ c ∈ s.head?, p c = false) :
    s.dropWhile p = s := by
  -- By its first character alone.
  cases s with
  | nil => rfl
  | cons c s => exact List.dropWhile_cons_of_neg (by simpa using first c rfl)

/-- Trimming gives a trimmed text. -/
theorem trimmed_trimChars (s : List Char) : Trimmed (trimChars s) := by
  constructor
  · intro c first
    -- Dropping at the end does not reach the beginning, unless nothing is left.
    obtain ⟨rest, whole⟩ : trimChars s <+: s.dropWhile isBlank := dropRightWhile_isPrefix isBlank _
    have some_ : trimChars s ≠ [] := List.ne_nil_of_mem (List.mem_of_mem_head? first)
    have before : c ∈ (s.dropWhile isBlank).head? := by
      rw [← whole, List.head?_append_of_ne_nil _ some_]
      exact first
    exact not_of_mem_head?_dropWhile before
  · intro c last
    rw [trimChars, dropRightWhile, List.getLast?_reverse] at last
    exact not_of_mem_head?_dropWhile last

/-- A trimmed text stays as it is. -/
theorem Trimmed.trimChars_eq {s : List Char} (trimmed : Trimmed s) : trimChars s = s := by
  rw [trimChars, dropWhile_eq_self trimmed.1, dropRightWhile_eq_self trimmed.2]

/-- White space in front makes no difference. -/
theorem trimChars_cons {c : Char} (white : isBlank c = true) (s : List Char) :
    trimChars (c :: s) = trimChars s := by
  rw [trimChars, trimChars, List.dropWhile_cons_of_pos white]

/-- A text with a visible character between two trimmed ones is trimmed. -/
theorem Trimmed.append_cons {s t : List Char} (before : Trimmed s) (behind : Trimmed t) {c : Char}
    (visible : isBlank c = false) : Trimmed (s ++ c :: t) := by
  constructor
  · -- The first character is that of the first text, or the one between them.
    cases s with
    | nil => simpa using visible
    | cons first rest => exact before.1
  · rw [List.getLast?_append_of_ne_nil _ (List.cons_ne_nil c t)]
    cases t with
    | nil => simpa using visible
    | cons first rest =>
      rw [List.getLast?_cons_cons]
      exact behind.2

/-- White space behind a text makes no difference at its end. -/
theorem dropRightWhile_append {p : Char → Bool} {behind : List Char} (all : ∀ c ∈ behind, p c = true) (s : List Char) :
    dropRightWhile p (s ++ behind) = dropRightWhile p s := by
  rw [dropRightWhile, List.reverse_append,
    List.dropWhile_append_of_pos fun c among => all c (List.mem_reverse.mp among)]
  rfl

/-- Trimming a text with white space around it leaves what is between. -/
theorem Trimmed.trimChars_append {before s behind : List Char} (trimmed : Trimmed s)
    (front : ∀ c ∈ before, isBlank c = true) (back : ∀ c ∈ behind, isBlank c = true) :
    trimChars (before ++ s ++ behind) = s := by
  rw [trimChars, List.append_assoc, List.dropWhile_append_of_pos front]
  cases s with
  | nil =>
    -- Nothing is between, so that all is dropped from the front.
    rw [List.nil_append, List.dropWhile_eq_nil_iff.mpr back]
    rfl
  | cons c rest =>
    rw [dropWhile_eq_self (s := (c :: rest) ++ behind) trimmed.1, dropRightWhile_append back,
      dropRightWhile_eq_self trimmed.2]

/-- The characters with the Unicode `White_Space` property. -/
def whiteSpace : List Char :=
  ['\t', '\n', '\x0b', '\x0c', '\r', ' ', '\u0085', '\u00a0', '\u1680', '\u2000', '\u2001', '\u2002', '\u2003',
    '\u2004', '\u2005', '\u2006', '\u2007', '\u2008', '\u2009', '\u200a', '\u2028', '\u2029', '\u202f', '\u205f',
    '\u3000']

/-- White space are the characters of that list. -/
theorem isBlank_iff {c : Char} : isBlank c = true ↔ c ∈ whiteSpace := by
  -- Characters are told by their code points.
  simp only [isBlank, Bool.or_eq_true, Bool.and_eq_true, decide_eq_true_eq, beq_iff_eq, whiteSpace, List.mem_cons,
    ← Char.toNat_inj, Char.reduceToNat, List.not_mem_nil, or_false]
  omega

/-- The text that is left when the white space around a text is taken away. -/
structure TrimsTo (s trimmed : List Char) : Prop where
  around : ∃ before behind, s = before ++ trimmed ++ behind ∧ (∀ c ∈ before, c ∈ whiteSpace) ∧
    ∀ c ∈ behind, c ∈ whiteSpace
  first : ∀ c ∈ trimmed.head?, c ∉ whiteSpace
  last : ∀ c ∈ trimmed.getLast?, c ∉ whiteSpace

/-- A text is trimmed if it neither begins nor ends with one of those characters. -/
theorem trimmed_iff {s : List Char} :
    Trimmed s ↔ (∀ c ∈ s.head?, c ∉ whiteSpace) ∧ ∀ c ∈ s.getLast?, c ∉ whiteSpace := by
  simp only [Trimmed, ← isBlank_iff, Bool.not_eq_true]

/-- Dropping at the end takes away a stretch of such characters. -/
theorem exists_dropRightWhile (p : Char → Bool) (s : List Char) :
    ∃ behind, s = dropRightWhile p s ++ behind ∧ ∀ c ∈ behind, p c = true := by
  refine ⟨(s.reverse.takeWhile p).reverse, ?_, fun c among => List.mem_takeWhile_imp (List.mem_reverse.mp among)⟩
  rw [dropRightWhile, ← List.reverse_append, List.takeWhile_append_dropWhile, List.reverse_reverse]

/-- Trimming takes away the white space around a text, and nothing else. -/
theorem trimsTo_iff {s trimmed : List Char} : TrimsTo s trimmed ↔ trimmed = trimChars s := by
  -- What is left neither begins nor ends with white space, which tells it.
  constructor
  · rintro ⟨⟨before, behind, rfl, front, back⟩, first, last⟩
    refine ((trimmed_iff.mpr ⟨first, last⟩).trimChars_append (fun c among => ?_) fun c among => ?_).symm
    · exact isBlank_iff.mpr (front c among)
    · exact isBlank_iff.mpr (back c among)
  · rintro rfl
    obtain ⟨behind, whole, back⟩ := exists_dropRightWhile isBlank (s.dropWhile isBlank)
    obtain ⟨first, last⟩ := trimmed_iff.mp (trimmed_trimChars s)
    refine ⟨⟨s.takeWhile isBlank, behind, ?_, fun c among => ?_, fun c among => ?_⟩, first, last⟩
    · rw [List.append_assoc, trimChars, ← whole, List.takeWhile_append_dropWhile]
    · exact isBlank_iff.mp (List.mem_takeWhile_imp among)
    · exact isBlank_iff.mp (back c among)

/-- White space around a text makes no difference to what is left of it. -/
theorem TrimsTo.append {before s behind trimmed : List Char} (trims : TrimsTo s trimmed)
    (front : ∀ c ∈ before, c ∈ whiteSpace) (back : ∀ c ∈ behind, c ∈ whiteSpace) :
    TrimsTo (before ++ s ++ behind) trimmed := by
  -- It joins the white space that is taken away anyhow.
  obtain ⟨⟨before', behind', rfl, front', back'⟩, first, last⟩ := trims
  refine ⟨⟨before ++ before', behind' ++ behind, by simp only [List.append_assoc], ?_, ?_⟩, first, last⟩
  · exact List.forall_mem_append.mpr ⟨front, front'⟩
  · exact List.forall_mem_append.mpr ⟨back', back⟩

/-- What is trimmed holds no new characters. -/
theorem mem_of_mem_trimChars {c : Char} {s : List Char} (among : c ∈ trimChars s) : c ∈ s :=
  (List.dropWhile_suffix isBlank).subset ((dropRightWhile_isPrefix isBlank _).subset among)

end Harvest.Text
