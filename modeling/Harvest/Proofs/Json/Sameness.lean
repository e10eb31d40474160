import Harvest.Proofs.Json.Names
import Harvest.Proofs.Number.Binary64

/-! Every value that a document can hold is equal to itself: what is no number stands in none, and no object has
two members of one name. -/

namespace Harvest

/-- A field has the value that stands under its name, if no name is repeated. -/
theorem Fields.get?_of_mem {fields : Fields} (distinct : (fields.map Prod.fst).Nodup) {name : String} {value : Json}
    (among : (name, value) ∈ fields) : fields.get? name = some value := by
  induction fields with
  | nil => cases among
  | cons first rest ih =>
    obtain ⟨other, old⟩ := first
    obtain ⟨new, distinct⟩ := List.nodup_cons.mp distinct
    rcases List.mem_cons.mp among with here | later
    · obtain ⟨rfl, rfl⟩ := Prod.mk.inj here
      simp [get?]
    · -- The first field has another name, since that of the value is not repeated.
      have different : name ≠ other := ne_of_mem_of_not_mem (List.mem_map_of_mem later) new
      rw [get?, List.lookup_cons, beq_false_of_ne different]
      exact ih distinct later

namespace Json

/-- A value that a document can hold: every number inside is one, and no object repeats a name. -/
inductive Regular : Json → Prop
  | null : Regular .null
  | bool (value : Bool) : Regular (.bool value)
  | int (value : Int) : Regular (.int value)
  | float {number : Binary64} (isNumber : number ≠ .nan) : Regular (.float number)
  | string (value : String) : Regular (.string value)
  | array {items : List Json} (each : ∀ item ∈ items, Regular item) : Regular (.array items)
  | object {members : List (String × Json)} (names : (members.map Prod.fst).Nodup)
      (each : ∀ member ∈ members, Regular member.2) : Regular (.object members)

/-- Items that are equal to themselves make equal lists. -/
theorem sameItems_self {items : List Json} (each : ∀ item ∈ items, item.same item = true) :
    sameItems items items = true := by
  -- Items are compared one by one.
  induction items with
  | nil => rfl
  | cons item rest ih =>
    obtain ⟨first, others⟩ := List.forall_mem_cons.mp each
    rw [sameItems, first, ih others]
    rfl

/-- Members that are equal to themselves are found in the object that they are of. -/
theorem sameMembers_of_subset {members rest : List (String × Json)} (names : (members.map Prod.fst).Nodup)
    (inside : rest ⊆ members) (each : ∀ member ∈ rest, member.2.same member.2 = true) :
    sameMembers rest members = true := by
  -- By the members that are compared, each of which is looked up among all of them.
  induction rest with
  | nil => rfl
  | cons first rest ih =>
    obtain ⟨name, value⟩ := first
    obtain ⟨among, later⟩ := List.cons_subset.mp inside
    obtain ⟨own, others⟩ := List.forall_mem_cons.mp each
    have found : members.lookup name = some value := Fields.get?_of_mem names among
    rw [sameMembers, found, ih later others, Bool.and_true]
    exact own

/-- A value that a document can hold is equal to itself. -/
theorem Regular.same_self {value : Json} (regular : value.Regular) : value.same value = true := by
  -- Lists and objects are compared by what is inside them.
  induction regular with
  | null => rfl
  | bool value => exact beq_self_eq_true value
  | int value => exact beq_self_eq_true value
  | float isNumber => exact Binary64.same_self isNumber
  | string value => exact beq_self_eq_true value
  | array each ih => exact sameItems_self ih
  | object names each ih =>
    rw [same, beq_self_eq_true, Bool.true_and]
    exact sameMembers_of_subset names (List.Subset.refl _) ih

end Json

end Harvest
