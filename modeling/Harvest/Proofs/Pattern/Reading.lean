import Harvest.Pattern.Extraction
import Harvest.Pattern.Reader
import Harvest.Proofs.Json.Names
import Harvest.Proofs.Outcome

/-! Reading a pattern from a text: it has members of distinct names in every group. -/

namespace Harvest.Pattern

/-- In every group inside, no two members have the same name. -/
inductive NamesDiffer : Pattern → Prop
  | selection {source : String} {selector : Selector} {value : Option ValueSource}
      {cleanups : List Cleanup} {validation : Option Validation} {inner : Option Pattern}
      (inside : ∀ pattern ∈ inner, NamesDiffer pattern) :
      NamesDiffer (.selection source selector value cleanups validation inner)
  | group {members : List (String × Pattern)} (names : (members.map Prod.fst).Nodup)
      (each : ∀ member ∈ members, NamesDiffer member.2) : NamesDiffer (.group members)

mutual

/-- A document with distinct names is read as a pattern with distinct names. -/
theorem ofJson_namesDiffer : (value : Json) → value.Distinct → {path : String} → {pattern : Pattern} →
    ofJson path value = .ok pattern → pattern.NamesDiffer
  | .object members, distinct, path, pattern, read => by
    obtain ⟨names, each⟩ := Json.distinct_object.mp distinct
    rw [ofJson] at read
    split at read
    · split at read
      · cases read
      · -- The selector, the value, its changes and its comparison have no names.
        obtain ⟨selector, -, read⟩ := ok_of_bind read
        obtain ⟨value, -, read⟩ := ok_of_bind read
        obtain ⟨cleanups, -, read⟩ := ok_of_bind read
        obtain ⟨validation, -, read⟩ := ok_of_bind read
        obtain ⟨inner, within, read⟩ := ok_of_bind read
        cases read
        exact .selection (innerOf_namesDiffer members each within)
    · obtain ⟨found, within, read⟩ := ok_of_bind read
      cases read
      obtain ⟨same, inside⟩ := membersOf_namesDiffer members each within
      exact .group (same ▸ names) inside
  | .null, _, _, _, read => nomatch read
  | .bool _, _, _, _, read => nomatch read
  | .int _, _, _, _, read => nomatch read
  | .float _, _, _, _, read => nomatch read
  | .string _, _, _, _, read => nomatch read
  | .array _, _, _, _, read => nomatch read

/-- The inner pattern has distinct names too, if there is one. -/
theorem innerOf_namesDiffer : (members : List (String × Json)) → (∀ member ∈ members, member.2.Distinct) →
    {path : String} → {inner : Option Pattern} → innerOf path members = .ok inner →
      ∀ pattern ∈ inner, pattern.NamesDiffer
  -- The recursion is that of the search for the inner pattern.
  | [], _, path, inner, read => by
    cases read
    simp
  | (name, value) :: rest, each, path, inner, read => by
    obtain ⟨here, later⟩ := List.forall_mem_cons.mp each
    rw [innerOf] at read
    split at read
    · obtain ⟨pattern, within, read⟩ := ok_of_bind read
      cases read
      rintro _ ⟨⟩
      exact ofJson_namesDiffer value here within
    · exact innerOf_namesDiffer rest later read

/-- The members of a group are named like those of the document, and have distinct names inside. -/
theorem membersOf_namesDiffer : (members : List (String × Json)) →
    (∀ member ∈ members, member.2.Distinct) → {path : String} → {found : List (String × Pattern)} →
      membersOf path members = .ok found →
        found.map Prod.fst = members.map Prod.fst ∧ ∀ member ∈ found, member.2.NamesDiffer
  -- The recursion is that of the reading, which keeps every member under its name.
  | [], _, path, inner, read => by
    cases read
    simp
  | (name, value) :: rest, each, path, inner, read => by
    obtain ⟨here, later⟩ := List.forall_mem_cons.mp each
    rw [membersOf] at read
    obtain ⟨first, within, read⟩ := ok_of_bind read
    obtain ⟨others, remaining, read⟩ := ok_of_bind read
    cases read
    obtain ⟨names, inside⟩ := membersOf_namesDiffer rest later remaining
    exact ⟨by simp [names], List.forall_mem_cons.mpr ⟨ofJson_namesDiffer value here within, inside⟩⟩

end

/-- A pattern that is read from a text has members of distinct names. -/
theorem parse_namesDiffer {source : String} {pattern : Pattern} (read : parse source = .ok pattern) :
    pattern.NamesDiffer := by
  -- The text is read as a document with distinct names first.
  unfold parse at read
  split at read
  · rename_i value found
    exact ofJson_namesDiffer value (Json.parse?_distinct found) read
  · cases read

/-- What is computed from two texts holds of the pattern and of the page that are read from them. -/
theorem exists_read {α : Type} (source page : String) (f : Pattern → Markup.Element → α) (result : α)
    (computed : ((parse source).toOption.bind fun pattern =>
      (Markup.Element.root? (Markup.parseDocument page)).map (f pattern)) = some result) :
    ∃ pattern root, parse source = .ok pattern ∧
      Markup.Element.root? (Markup.parseDocument page) = some root ∧ f pattern root = result := by
  -- A text that is no pattern computes nothing.
  cases read : parse source with
  | error cause => simp [read, Except.toOption] at computed
  | ok pattern =>
    simp only [read, Except.toOption, Option.bind_some] at computed
    obtain ⟨root, found, same⟩ := Option.map_eq_some_iff.mp computed
    exact ⟨pattern, root, rfl, found, same⟩

end Harvest.Pattern
