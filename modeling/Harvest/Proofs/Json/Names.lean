import Harvest.Json.Reader

/-! What the fields of a name hold. A document that is read from a text has one member of each name in every
object. -/

namespace Harvest

namespace Fields

variable {fields : Fields} {name : String} {value : Json}

/-- A field with a new name comes in at the end. -/
theorem insert_of_new (new : name ∉ fields.map Prod.fst) :
    fields.insert name value = fields ++ [(name, value)] := by
  -- The walk to the place of the name ends behind the last field.
  induction fields with
  | nil => rfl
  | cons first rest ih =>
    obtain ⟨other, old⟩ := first
    simp only [List.map_cons, List.mem_cons, not_or] at new
    rw [insert, if_neg (Ne.symm new.1), ih new.2, List.cons_append]

/-- Giving a field a value keeps the names, or adds a new one at the end. -/
theorem names_insert :
    (fields.insert name value).map Prod.fst =
      if name ∈ fields.map Prod.fst then fields.map Prod.fst else fields.map Prod.fst ++ [name] := by
  induction fields with
  | nil => simp [insert]
  | cons first rest ih =>
    obtain ⟨other, old⟩ := first
    by_cases same : other = name
    · simp [insert, same]
    · -- The name is sought among the fields that follow.
      rw [insert, if_neg same]
      simp only [List.map_cons, ih, List.mem_cons, Ne.symm same, false_or]
      split <;> rfl

/-- Giving a field a value repeats no name. -/
theorem nodup_names_insert (distinct : (fields.map Prod.fst).Nodup) :
    ((fields.insert name value).map Prod.fst).Nodup := by
  -- A new name comes last, and one that is there already stays where it is.
  rw [names_insert]
  split
  · exact distinct
  · rename_i new
    refine List.nodup_append.mpr ⟨distinct, by simp, fun other old last same => ?_⟩
    rw [List.mem_singleton.mp same]
    exact ne_of_mem_of_not_mem old new

/-- A field is the one that was given its value, or was there before. -/
theorem mem_of_mem_insert {member : String × Json} (among : member ∈ fields.insert name value) :
    member ∈ fields ∨ member = (name, value) := by
  induction fields with
  | nil => exact .inr (by simpa [insert] using among)
  | cons first rest ih =>
    obtain ⟨other, old⟩ := first
    rw [insert] at among
    -- The field takes the place of an old one of its name, or comes later.
    split at among
    · rcases List.mem_cons.mp among with new | later
      · exact .inr new
      · exact .inl (List.mem_cons_of_mem _ later)
    · rcases List.mem_cons.mp among with rfl | later
      · exact .inl List.mem_cons_self
      · exact (ih later).imp_left (List.mem_cons_of_mem _)

/-- A field that was given a value has it. -/
theorem get?_insert_self (fields : Fields) (name : String) (value : Json) :
    (fields.insert name value).get? name = some value := by
  -- By the fields up to the first one of that name.
  induction fields with
  | nil => simp [insert, get?]
  | cons member rest ih =>
    obtain ⟨other, old⟩ := member
    rw [insert]
    split
    · simp [get?]
    · rename_i different
      rwa [get?, List.lookup_cons, beq_false_of_ne (Ne.symm different)]

/-- All other fields keep their values. -/
theorem get?_insert_of_ne {name other : String} (different : other ≠ name) (fields : Fields) (value : Json) :
    (fields.insert name value).get? other = fields.get? other := by
  -- By the fields, of which at most one that has the other name is changed.
  induction fields with
  | nil => simp [insert, get?, List.lookup_cons, beq_false_of_ne different]
  | cons member rest ih =>
    obtain ⟨first, old⟩ := member
    rw [insert]
    split
    · rename_i same
      simp [get?, List.lookup_cons, same, beq_false_of_ne different]
    · rw [get?, get?, List.lookup_cons, List.lookup_cons]
      rw [get?, get?] at ih
      rw [ih]

end Fields

namespace Json

/-- In every object inside, no two members have the same name. -/
inductive Distinct : Json → Prop
  | null : Distinct .null
  | bool (value : Bool) : Distinct (.bool value)
  | int (value : Int) : Distinct (.int value)
  | float (value : Binary64) : Distinct (.float value)
  | string (value : String) : Distinct (.string value)
  | array {items : List Json} (each : ∀ item ∈ items, Distinct item) : Distinct (.array items)
  | object {members : List (String × Json)} (names : (members.map Prod.fst).Nodup)
      (each : ∀ member ∈ members, Distinct member.2) : Distinct (.object members)

/-- An object has distinct names if its members do, and each of their values. -/
theorem distinct_object {members : List (String × Json)} :
    (object members).Distinct ↔
      (members.map Prod.fst).Nodup ∧ ∀ member ∈ members, member.2.Distinct := by
  -- No other form of a value is an object.
  constructor
  · intro distinct
    cases distinct with
    | object names each => exact ⟨names, each⟩
  · intro ⟨names, each⟩
    exact .object names each

mutual

/-- The normal form of a value has distinct names. -/
theorem normalize_distinct : (value : Json) → value.normalize.Distinct
  | .null => .null
  | .bool value => .bool value
  | .int value => .int value
  | .float value => .float value
  | .string value => .string value
  | .array items => by
    rw [normalize]
    exact .array (normalizeItems_distinct items)
  | .object members => by
    -- The object begins without any members.
    obtain ⟨names, each⟩ := normalizeMembers_distinct members [] List.nodup_nil (by simp)
    rw [normalize]
    exact .object names each

/-- Every item in its normal form has distinct names. -/
theorem normalizeItems_distinct : (items : List Json) → ∀ item ∈ normalizeItems items, item.Distinct
  -- The recursion is that of the normal form.
  | [] => by simp [normalizeItems]
  | item :: rest => by
    rw [normalizeItems]
    exact List.forall_mem_cons.mpr ⟨normalize_distinct item, normalizeItems_distinct rest⟩

/-- Members inserted in their normal form into fields with distinct names keep the names distinct. -/
theorem normalizeMembers_distinct : (members : List (String × Json)) → (done : Fields) →
    (done.map Prod.fst).Nodup → (∀ member ∈ done, member.2.Distinct) →
      ((normalizeMembers done members).map Prod.fst).Nodup ∧
        ∀ member ∈ normalizeMembers done members, member.2.Distinct
  -- The recursion is that of the normal form: each member goes into what is done already.
  | [], done, names, each => by
    rw [normalizeMembers]
    exact ⟨names, each⟩
  | (name, value) :: rest, done, names, each => by
    rw [normalizeMembers]
    refine normalizeMembers_distinct rest _ (Fields.nodup_names_insert names) fun member among => ?_
    rcases Fields.mem_of_mem_insert among with old | rfl
    · exact each member old
    · exact normalize_distinct value

end

/-- The value of a text has distinct names. -/
theorem parse?_distinct {source : String} {value : Json} (read : parse? source = some value) :
    value.Distinct := by
  -- What is read is brought into its normal form.
  obtain ⟨raw, -, rfl⟩ := Option.map_eq_some_iff.mp read
  exact normalize_distinct raw

end Json

end Harvest
