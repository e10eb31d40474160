import Harvest.Proofs.Json.Sameness
import Harvest.Proofs.Store.Collections
import Harvest.Proofs.Store.Pages
import Mathlib.Data.List.Forall2

/-! What each call of a store does, field by field: which documents it changes, which of their fields, and what is
found afterwards. -/

namespace Harvest

namespace Fields

/-- Fields that overwrite others: each has its new value, the other ones stay as they are, and all of them keep
their places. -/
structure Overwritten (set before after : Fields) : Prop where
  values : ∀ name, after.get? name = (set.get? name).or (before.get? name)
  places : before.map Prod.fst <+: after.map Prod.fst

/-- A field after one more is put in front of a series to insert. -/
theorem extend_cons (fields : Fields) (name : String) (value : Json) (more : Fields) :
    fields.extend ((name, value) :: more) = (fields.insert name value).extend more := rfl

/-- Under the name of the first field stands its value. -/
theorem get?_cons (name : String) (value : Json) (rest : Fields) (other : String) :
    get? ((name, value) :: rest) other = if other = name then some value else rest.get? other := by
  -- By whether the name is that of the first field.
  by_cases same : other = name
  · simp [get?, same]
  · simp [get?, List.lookup_cons, same, beq_false_of_ne same]

/-- Nothing is found under a name that no field has, and under no other. -/
theorem get?_eq_none_iff {fields : Fields} {name : String} :
    fields.get? name = none ↔ name ∉ fields.map Prod.fst := by
  -- By the fields, each of which has the name or passes it on.
  induction fields with
  | nil => simp [get?]
  | cons first rest ih =>
    obtain ⟨other, old⟩ := first
    rw [get?_cons, List.map_cons, List.mem_cons, not_or, ← ih]
    by_cases same : name = other <;> simp [same]

/-- Giving a field a value leaves the names in their places. -/
theorem prefix_names_insert (fields : Fields) (name : String) (value : Json) :
    fields.map Prod.fst <+: (fields.insert name value).map Prod.fst := by
  -- A new name comes last, and an old one stays where it is.
  rw [names_insert]
  split
  · exact List.prefix_refl _
  · exact List.prefix_append ..

/-- Extending fields by others with distinct names overwrites them. -/
theorem overwritten_extend (before : Fields) {set : Fields} (names : (set.map Prod.fst).Nodup) :
    Overwritten set before (before.extend set) := by
  induction set generalizing before with
  | nil => exact ⟨fun _ => rfl, List.prefix_refl _⟩
  | cons first rest ih =>
    obtain ⟨name, value⟩ := first
    obtain ⟨new, distinct⟩ := List.nodup_cons.mp names
    obtain ⟨values, places⟩ := ih (before.insert name value) distinct
    refine ⟨fun other => ?_, (prefix_names_insert before name value).trans places⟩
    rw [extend_cons, values, get?_cons]
    by_cases same : other = name
    · -- No later field has the name, so that its value stays.
      rw [if_pos same, same, get?_eq_none_iff.mpr new, get?_insert_self]
      rfl
    · rw [if_neg same, get?_insert_of_ne same]

end Fields

/-- The value that a filter asks a field to be equal to; the first such condition counts. -/
def Filter.equality? (filter : Filter) (name : String) : Option Json :=
  filter.findSome? fun (other, condition) =>
    match condition with
    | .eq value => if name = other then some value else none
    | _ => none

namespace Store

/-- A new document for a filter: it has the given fields, and after them those that the filter asks to be equal to
a value and that are not given. -/
structure Completed (filter : Filter) (given after : Fields) : Prop where
  values : ∀ name, after.get? name = (given.get? name).or (filter.equality? name)
  places : given <+: after

/-- The first condition of a filter comes before the others. -/
theorem equality?_cons (name : String) (condition : Condition) (rest : Filter) (other : String) :
    Filter.equality? ((name, condition) :: rest) other =
      (match condition with
        | .eq value => if other = name then some value else none
        | _ => none).or (Filter.equality? rest other) := by
  -- Only an equality under that name is found at once.
  rw [Filter.equality?, List.findSome?_cons, ← Filter.equality?]
  simp only
  split <;> simp_all

/-- What is inserted for a filter are the given fields and those that the filter supplies. -/
theorem completed_completed (filter : Filter) (given : Fields) :
    Completed filter given (completed filter given) := by
  induction filter generalizing given with
  | nil => exact ⟨fun name => Option.or_none.symm, List.prefix_refl _⟩
  | cons first rest ih =>
    obtain ⟨name, condition⟩ := first
    -- Only an equality supplies a field, and only one that is missing.
    have passes (unsupplied : completed ((name, condition) :: rest) given = completed rest given)
        (needless : ∀ other, (given.get? other).or (Filter.equality? ((name, condition) :: rest) other) =
          (given.get? other).or (Filter.equality? rest other)) :
        Completed ((name, condition) :: rest) given (completed ((name, condition) :: rest) given) := by
      rw [unsupplied]
      exact ⟨fun other => ((ih given).values other).trans (needless other).symm, (ih given).places⟩
    cases condition with
    | eq value =>
      -- A field that is there already is not supplied.
      by_cases missing : given.get? name = none
      · have supplied : completed ((name, .eq value) :: rest) given = completed rest (given.insert name value) := by
          simp [completed, missing]
        have longer : given <+: given.insert name value := by
          rw [Fields.insert_of_new (Fields.get?_eq_none_iff.mp missing)]
          exact List.prefix_append ..
        obtain ⟨values, places⟩ := ih (given.insert name value)
        rw [supplied]
        refine ⟨fun other => ?_, longer.trans places⟩
        rw [values, equality?_cons]
        by_cases same : other = name
        · rw [same, Fields.get?_insert_self, missing]
          simp
        · rw [Fields.get?_insert_of_ne same]
          simp [same]
      · obtain ⟨own, found⟩ := Option.ne_none_iff_exists'.mp missing
        refine passes (by simp [completed, found]) fun other => ?_
        rw [equality?_cons]
        by_cases same : other = name
        · simp [same, found]
        · simp [same]
    -- No other condition supplies anything.
    | ne value | lt bound | within candidates =>
      exact passes rfl fun other => by rw [equality?_cons]; rfl

/-- An upsert extends the first chosen document, or a new one comes in at the end. -/
theorem upsertInto_cases (filter : Filter) (fields : Fields) (documents : List Fields) :
    (∃ front document back, documents = front ++ document :: back ∧
      (∀ other ∈ front, chosen filter other = false) ∧ chosen filter document = true ∧
        upsertInto filter fields documents = front ++ document.extend fields :: back) ∨
      (∀ document ∈ documents, chosen filter document = false) ∧
        upsertInto filter fields documents = documents ++ [completed filter fields] := by
  -- By the documents, up to the first one that is chosen.
  induction documents with
  | nil => exact .inr ⟨by simp, rfl⟩
  | cons first rest ih =>
    by_cases own : chosen filter first = true
    · exact .inl ⟨[], first, rest, rfl, by simp, own, by rw [upsertInto, if_pos own]; rfl⟩
    · have passed : chosen filter first = false := by simpa using own
      have goesOn : upsertInto filter fields (first :: rest) = first :: upsertInto filter fields rest := by
        rw [upsertInto, if_neg own]
      rcases ih with ⟨front, document, back, rfl, others, one, result⟩ | ⟨others, result⟩
      · refine .inl ⟨first :: front, document, back, rfl, List.forall_mem_cons.mpr ⟨passed, others⟩, one, ?_⟩
        rw [goesOn, result, List.cons_append]
      · refine .inr ⟨List.forall_mem_cons.mpr ⟨passed, others⟩, ?_⟩
        rw [goesOn, result, List.cons_append]

/-- Why a value is refused as a document. -/
def refusal (value : Json) : StoreError :=
  .invalidInput ("documents must be JSON objects, got " ++ value.render)

/-- A value that is no object is refused. -/
theorem asDocument_refuses {value : Json} (noObject : ∀ members, value ≠ .object members) :
    asDocument value = .error (refusal value) := by
  -- By the form of the value, every other one of which is refused by its name.
  cases value with
  | object members => exact absurd rfl (noObject members)
  | _ => rfl

/-- Values are documents if all of them are objects; otherwise the first one that is none is refused. -/
theorem asDocuments_cases (values : List Json) :
    (∃ documents : List Fields, values = documents.map .object) ∨
      ∃ (front : List Fields) (wrong : Json) (back : List Json), values = front.map .object ++ wrong :: back ∧
        (∀ members, wrong ≠ .object members) ∧ asDocuments values = .error (refusal wrong) := by
  -- By the values, up to the first one that is no object.
  induction values with
  | nil => exact .inl ⟨[], rfl⟩
  | cons value rest ih =>
    by_cases isObject : ∃ members, value = .object members
    · obtain ⟨members, rfl⟩ := isObject
      rcases ih with ⟨documents, rfl⟩ | ⟨front, wrong, back, rfl, noObject, refused⟩
      · exact .inl ⟨members :: documents, rfl⟩
      · refine .inr ⟨members :: front, wrong, back, rfl, noObject, ?_⟩
        rw [asDocuments, refused]
        rfl
    · have noObject (members : Fields) : value ≠ .object members := fun same => isObject ⟨members, same⟩
      refine .inr ⟨[], value, rest, rfl, noObject, ?_⟩
      rw [asDocuments, asDocument_refuses noObject]
      rfl

/-- A store that differs from another one in a single collection at most. -/
def SameBut (collection : String) (before after : Store) : Prop :=
  ∀ other, other ≠ collection → after.documents other = before.documents other

/-- The document before which none is chosen is the first one found, on any page that begins with the first one. -/
theorem head?_find {store : Store} {collection : String} {filter : Filter} {front back : List Fields}
    {document : Fields} (own : store.documents collection = front ++ document :: back)
    (passed : ∀ other ∈ front, chosen filter other = false) (one : chosen filter document = true) {page : Page}
    (start : page.skip = 0) (room : page.limit ≠ some 0) :
    (store.find collection filter page).head? = some (.object document) := by
  -- What is chosen begins with that document, and the page begins with what is chosen.
  have shown : (store.documents collection).filter (chosen filter) = document :: back.filter (chosen filter) := by
    rw [own, List.filter_append, List.filter_eq_nil_iff.mpr (by simpa using passed), List.nil_append,
      List.filter_cons_of_pos one]
  obtain ⟨skip, limit⟩ := page
  obtain rfl : skip = 0 := start
  rw [find, shown]
  cases limit with
  | none => rfl
  | some limit =>
    cases limit with
    | zero => exact absurd rfl room
    | succ limit => rfl

/-- A filter of equalities on distinct fields that given fields do not contradict. -/
structure Compatible (filter : Filter) (given : Fields) : Prop where
  distinct : (filter.map Prod.fst).Nodup
  equalities : ∀ name condition, (name, condition) ∈ filter → ∃ expected, condition = .eq expected ∧
    expected.Regular ∧ ∀ value, given.get? name = some value → value.same expected = true

/-- On distinct fields each equality counts. -/
theorem equality?_of_mem {filter : Filter} (distinct : (filter.map Prod.fst).Nodup) {name : String}
    {expected : Json} (among : (name, .eq expected) ∈ filter) : filter.equality? name = some expected := by
  -- By the filter, in which no later field can have the name of the one that counts.
  induction filter with
  | nil => cases among
  | cons first rest ih =>
    obtain ⟨other, condition⟩ := first
    obtain ⟨new, distinct⟩ := List.nodup_cons.mp distinct
    rw [equality?_cons]
    rcases List.mem_cons.mp among with here | later
    · obtain ⟨rfl, rfl⟩ := Prod.mk.inj here
      simp
    · have different : name ≠ other := ne_of_mem_of_not_mem (List.mem_map_of_mem later) new
      rw [ih distinct later]
      cases condition <;> simp [different]

/-- A document with the given fields is chosen if its other fields satisfy the filter. -/
theorem Compatible.chosen {filter : Filter} {given : Fields} (compatible : Compatible filter given)
    {document : Fields} {rest : String → Option Json}
    (values : ∀ name, document.get? name = (given.get? name).or (rest name))
    (satisfied : ∀ name expected, (name, .eq expected) ∈ filter → expected.Regular →
      ((rest name).getD .null).same expected = true) : chosen filter document = true := by
  refine List.all_eq_true.mpr fun (name, condition) among => ?_
  obtain ⟨expected, rfl, regular, agrees⟩ := compatible.equalities name condition among
  have found : (Json.object document).field name = ((given.get? name).or (rest name)).getD .null := by
    rw [Json.field, Json.fields, values]
  simp only [Condition.holds, found]
  -- A field is given, without contradiction, or it is one of the others.
  cases own : given.get? name with
  | some value => exact agrees value own
  | none => exact satisfied name expected among regular

/-- A document is found first by a filter that is compatible with what was given, on any page that begins with the
first one. -/
def FoundFirst (store : Store) (collection : String) (filter : Filter) (given document : Fields) : Prop :=
  Compatible filter given → ∀ page : Page, page.skip = 0 → page.limit ≠ some 0 →
    (store.find collection filter page).head? = some (.object document)

/-- What the calls of a store give and what they leave behind. -/
inductive Meets (store : Store) : (call : StoreCall) → Except StoreError call.Result × Store → Prop
  /-- What is chosen is found in order, inside the window. -/
  | finds {collection : String} {filter : Filter} {page : Page} :
      Meets store (.find collection filter page)
        (.ok ((page.window ((store.documents collection).filter (chosen filter))).map .object), store)
  /-- All documents of a batch come in behind the others. -/
  | inserts {collection : String} {added : List Fields} {after : Store}
      (documents : after.documents collection = store.documents collection ++ added)
      (elsewhere : SameBut collection store after) :
      Meets store (.insertMany collection (added.map .object)) (.ok (), after)
  /-- A batch with something else among the documents is refused as a whole. -/
  | refusesMany {collection : String} {front : List Fields} {wrong : Json} {back : List Json}
      (noObject : ∀ members, wrong ≠ .object members) :
      Meets store (.insertMany collection (front.map .object ++ wrong :: back)) (.error (refusal wrong), store)
  /-- The documents that were chosen before are overwritten in their places and counted; the others stay. -/
  | updates {collection : String} {filter : Filter} {set : Fields} {after : Store}
      (documents : List.Forall₂ (fun old new =>
        (chosen filter old = true → Fields.Overwritten set old new) ∧ (chosen filter old = false → new = old))
        (store.documents collection) (after.documents collection))
      (elsewhere : SameBut collection store after) :
      Meets store (.updateMany collection filter set)
        (.ok ((store.documents collection).countP (chosen filter)), after)
  /-- The first document that is chosen is overwritten, and it is found first if the filter is compatible. -/
  | upserts {collection : String} {filter : Filter} {fields : Fields} {after : Store} {front back : List Fields}
      {old new : Fields} (before : store.documents collection = front ++ old :: back)
      (passed : ∀ other ∈ front, chosen filter other = false) (one : chosen filter old = true)
      (overwritten : Fields.Overwritten fields old new)
      (documents : after.documents collection = front ++ new :: back)
      (elsewhere : SameBut collection store after)
      (found : after.FoundFirst collection filter fields new) :
      Meets store (.upsertOne collection filter (.object fields)) (.ok (), after)
  /-- Without one a new document comes in behind the others, and it is found first if the filter is compatible. -/
  | appends {collection : String} {filter : Filter} {fields : Fields} {after : Store} {new : Fields}
      (passed : ∀ other ∈ store.documents collection, chosen filter other = false)
      (completed : Completed filter fields new)
      (documents : after.documents collection = store.documents collection ++ [new])
      (elsewhere : SameBut collection store after)
      (found : after.FoundFirst collection filter fields new) :
      Meets store (.upsertOne collection filter (.object fields)) (.ok (), after)
  /-- Anything but a document is refused. -/
  | refusesOne {collection : String} {filter : Filter} {wrong : Json}
      (noObject : ∀ members, wrong ≠ .object members) :
      Meets store (.upsertOne collection filter wrong) (.error (refusal wrong), store)

/-- An insertion takes all of a batch or refuses it as a whole. -/
theorem insertMany_meets (store : Store) (collection : String) (values : List Json) :
    Meets store (.insertMany collection values) (store.perform (.insertMany collection values)) := by
  -- By whether all values are objects.
  rcases asDocuments_cases values with ⟨added, rfl⟩ | ⟨front, wrong, back, rfl, noObject, refused⟩
  · obtain ⟨after, inserted, documents, elsewhere⟩ := store.insertMany_objects collection added
    simp only [perform, inserted]
    exact .inserts documents elsewhere
  · have nonempty : (front.map Json.object ++ wrong :: back).isEmpty = false := by simp
    have kept : store.insertMany collection (front.map .object ++ wrong :: back) = .error (refusal wrong) := by
      rw [insertMany, nonempty, refused]
      rfl
    simp only [perform, kept]
    exact .refusesMany noObject

/-- An update overwrites what it chooses. -/
theorem updateMany_meets (store : Store) (collection : String) (filter : Filter) {set : Fields}
    (names : (set.map Prod.fst).Nodup) :
    Meets store (.updateMany collection filter set) (store.perform (.updateMany collection filter set)) := by
  have counted : (store.updateMany collection filter set).2 = (store.documents collection).countP (chosen filter) :=
    List.countP_eq_length_filter.symm
  simp only [perform, counted]
  refine .updates ?_ fun other different => documents_updateMany_of_ne different ..
  rw [documents_updateMany, List.forall₂_map_right_iff]
  -- Each document is looked at by itself, as it was before the call.
  refine List.forall₂_same.mpr fun document _ => ⟨fun one => ?_, fun passed => ?_⟩
  · rw [if_pos one]
    exact Fields.overwritten_extend document names
  · rw [if_neg (by simp [passed])]

/-- An upsert overwrites the first document that it chooses, or adds one. -/
theorem upsertOne_meets (store : Store) (collection : String) (filter : Filter) {value : Json}
    (names : (value.fields.map Prod.fst).Nodup) :
    Meets store (.upsertOne collection filter value) (store.perform (.upsertOne collection filter value)) := by
  by_cases isObject : ∃ fields, value = .object fields
  · obtain ⟨fields, rfl⟩ := isObject
    obtain ⟨after, upserted, documents, elsewhere⟩ := store.upsertOne_object collection filter fields
    simp only [perform, upserted]
    rcases upsertInto_cases filter fields (store.documents collection) with
      ⟨front, old, back, before, passed, one, result⟩ | ⟨passed, result⟩
    · have overwritten := Fields.overwritten_extend old names
      rw [result] at documents
      refine .upserts before passed one overwritten documents elsewhere fun compatible page start room =>
        head?_find documents passed (compatible.chosen overwritten.values fun name expected among _ => ?_) start room
      -- A field that is not given has satisfied the filter before.
      exact List.all_eq_true.mp one _ among
    · have completed := completed_completed filter fields
      rw [result] at documents
      refine .appends passed completed documents elsewhere fun compatible page start room =>
        head?_find documents passed (compatible.chosen completed.values fun name expected among regular => ?_)
          start room
      -- A field that is not given has the value that the filter asks for.
      rw [equality?_of_mem compatible.distinct among]
      exact regular.same_self
  · have noObject (members : Fields) : value ≠ .object members := fun same => isObject ⟨members, same⟩
    have refused : store.upsertOne collection filter value = .error (refusal value) := by
      rw [upsertOne, asDocument_refuses noObject]
      rfl
    simp only [perform, refused]
    exact .refusesOne noObject

end Store

/-- The fields that a call sets have distinct names, as those of any object. -/
def StoreCall.Valid : StoreCall → Prop
  | updateMany _ _ set => (set.map Prod.fst).Nodup
  | upsertOne _ _ document => (document.fields.map Prod.fst).Nodup
  | _ => True

/-- Whatever a store holds, each call does what is expected of it. -/
theorem Store.perform_meets (store : Store) (call : StoreCall) (valid : call.Valid) :
    Store.Meets store call (store.perform call) := by
  -- By the call: finding is defined by what is expected of it, and the others have a lemma each.
  cases call with
  | find collection filter page => exact .finds
  | insertMany collection documents => exact store.insertMany_meets collection documents
  | updateMany collection filter set => exact store.updateMany_meets collection filter valid
  | upsertOne collection filter document => exact store.upsertOne_meets collection filter valid

/-- An upsert under a name that no document has adds one. -/
theorem Store.perform_meets_newName :
    let filter : Filter := [Filter.isText "id" "d"]
    let call : StoreCall := .upsertOne "docs" filter (.object [("size", .int 1)])
    call.Valid ∧ Store.Meets sampleListing call (sampleListing.perform call) ∧
      Compatible filter [("size", .int 1)] ∧ ((sampleListing.perform call).2.documents "docs").length = 4 := by
  -- The filter asks for one name, and the document does not give it another value.
  refine ⟨List.pairwise_singleton .., perform_meets sampleListing _ (List.pairwise_singleton ..), ⟨?_, ?_⟩, rfl⟩
  · exact List.pairwise_singleton ..
  · intro name condition among
    obtain ⟨rfl, rfl⟩ := Prod.mk.inj (List.mem_singleton.mp among)
    exact ⟨.string "d", rfl, .string "d", fun value given => nomatch given⟩

end Harvest
