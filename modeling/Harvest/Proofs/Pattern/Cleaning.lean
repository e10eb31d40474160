import Harvest.Pattern.Evaluation
import Harvest.Proofs.Text.Cutting
import Harvest.Proofs.Text.Trimming

/-! How a text becomes a value: the white space around it is taken away, and then one change after the other is made.
Each change is told by what it makes of a value, so that there is one value at the end. -/

namespace Harvest

/-- What a change makes of a value. -/
inductive Cleanup.Turns (value : String) : Cleanup → String → Prop
  /-- The piece of the given number takes the place of the value. -/
  | picked {separator : String} {index : Nat} {pieces : List (List Char)} {piece : List Char}
      (split : Text.Splits separator.toList value.toList pieces) (found : pieces[index]? = some piece) :
      Turns value (.split separator index) (String.ofList piece)
  /-- Without a piece of that number the value stays. -/
  | beyond {separator : String} {index : Nat} {pieces : List (List Char)}
      (split : Text.Splits separator.toList value.toList pieces) (few : pieces.length ≤ index) :
      Turns value (.split separator index) value
  /-- The pieces around a text are joined with another one in its place. -/
  | replaced {old new : String} {pieces : List (List Char)} (something : old ≠ "")
      (cut : Text.Cut old.toList value.toList pieces) :
      Turns value (.replace old new) (String.ofList (List.intercalate new.toList pieces))
  /-- Without a text to look for the value stays. -/
  | kept {new : String} : Turns value (.replace "" new) value

/-- A change makes of a value what it is told to, and nothing else. -/
theorem Cleanup.turns_iff {cleanup : Cleanup} {value result : String} :
    cleanup.Turns value result ↔ result = cleanup.apply value := by
  constructor
  · rintro (⟨split, found⟩ | ⟨split, few⟩ | ⟨something, cut⟩ | _)
    · rw [apply, ← Text.splits_iff.mp split, found]
    · rw [apply, ← Text.splits_iff.mp split, List.getElem?_eq_none few]
    · have filled : _ ≠ [] := fun empty => something (String.toList_eq_nil_iff.mp empty)
      rw [apply, Text.replaceAll, cut.replace_eq filled]
    · simp [apply, Text.replaceAll, Text.replace]
  · rintro rfl
    cases cleanup with
    | split separator index =>
      -- Either there is a piece of that number, or there are too few.
      have split := Text.splits_iff.mpr (Eq.refl (Text.split separator.toList value.toList))
      rw [apply]
      cases found : (Text.split separator.toList value.toList)[index]? with
      | some piece => exact .picked split found
      | none => exact .beyond split (List.getElem?_eq_none_iff.mp found)
    | replace old new =>
      by_cases something : old = ""
      · subst something
        have same : apply value (.replace "" new) = value := by simp [apply, Text.replaceAll, Text.replace]
        rw [same]
        exact .kept
      · have filled : old.toList ≠ [] := fun empty => something (String.toList_eq_nil_iff.mp empty)
        have cut := Text.cut_splitGo filled value.toList
        rw [apply, Text.replaceAll, cut.replace_eq filled]
        exact .replaced something cut

namespace Pattern

/-- What one change after the other makes of a value. -/
inductive Turned : List Cleanup → String → String → Prop
  | done {value : String} : Turned [] value value
  | next {cleanup : Cleanup} {cleanups : List Cleanup} {value between result : String}
      (one : cleanup.Turns value between) (others : Turned cleanups between result) :
      Turned (cleanup :: cleanups) value result

/-- The changes are made from the first to the last. -/
theorem turned_iff {cleanups : List Cleanup} {value result : String} :
    Turned cleanups value result ↔ result = cleanups.foldl Cleanup.apply value := by
  -- By the changes, the first of which gives the text that the others are made on.
  induction cleanups generalizing value with
  | nil =>
    constructor
    · rintro ⟨⟩
      rfl
    · rintro rfl
      exact .done
  | cons cleanup cleanups ih =>
    constructor
    · rintro (_ | ⟨one, others⟩)
      rw [List.foldl_cons, ← Cleanup.turns_iff.mp one]
      exact ih.mp others
    · exact fun same => .next (Cleanup.turns_iff.mpr rfl) (ih.mpr same)

/-- A text becomes a value: without the white space around it, and with all changes made. -/
def Cleans (cleanups : List Cleanup) (raw value : String) : Prop :=
  ∃ trimmed : String, Text.TrimsTo raw.toList trimmed.toList ∧ Turned cleanups trimmed value

/-- A text becomes its cleaned value, and no other one. -/
theorem cleans_iff {cleanups : List Cleanup} {raw value : String} :
    Cleans cleanups raw value ↔ value = cleaned cleanups raw := by
  -- Trimming leaves one text, and each change makes one of it.
  have trims (trimmed : String) : Text.TrimsTo raw.toList trimmed.toList ↔ trimmed = Text.trim raw := by
    rw [Text.trimsTo_iff, Text.trim, ← String.toList_inj, String.toList_ofList]
  simp only [Cleans, trims, exists_eq_left, turned_iff, cleaned]

end Pattern

end Harvest
