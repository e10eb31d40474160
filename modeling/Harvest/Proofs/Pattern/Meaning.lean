import Harvest.Json.Printer
import Harvest.Proofs.Pattern.Reading
import Harvest.Proofs.Pattern.Sites
import Harvest.Proofs.Text.Replacing

/-! What a pattern means: when a scope fits it, which fields it then prescribes, and that evaluation gives
exactly these fields, or else the first fault in the order of evaluation. -/

namespace Harvest.Pattern

variable {Element : Type}

/-- A scope fits a pattern if nothing that the pattern asks for is missing or unusable. -/
inductive Fits (view : View Element) (parentValue : String) : Pattern → Element → Prop
  | selection {source : String} {selector : Selector} {value : Option ValueSource}
      {cleanups : List Cleanup} {validation : Option Validation} {inner : Option Pattern} {scope : Element}
      {first : Element} {rest : List Element}
      (found : view.select scope selector = first :: rest)
      (useful : ∀ wanted ∈ value, Usable view wanted cleanups validation parentValue first)
      (purpose : value.isSome ∨ inner.isSome)
      (inside : ∀ pattern ∈ inner, ∀ element ∈ first :: rest, Fits view parentValue pattern element) :
      Fits view parentValue (.selection source selector value cleanups validation inner) scope
  | group {members : List (String × Pattern)} {scope : Element} (some_ : members ≠ [])
      (each : ∀ member ∈ members, Fits view parentValue member.2 scope) :
      Fits view parentValue (.group members) scope

/-- The field that is prescribed for the value of a selection, if one is wanted. -/
inductive PrescribedValue (view : View Element) (parentValue : String) (cleanups : List Cleanup)
    (validation : Option Validation) (first : Element) : Option ValueSource → Fields → Prop
  | none : PrescribedValue view parentValue cleanups validation first none []
  | some {wanted : ValueSource} {text : String}
      (written : Written view wanted cleanups parentValue first validation text) :
      PrescribedValue view parentValue cleanups validation first (some wanted) [("value", .string text)]

mutual

/-- The fields that a pattern prescribes for a scope that fits it: the value of a selection, a record under
the number of each match, a record under the name of each member. -/
inductive Prescribed (view : View Element) (parentValue : String) : Pattern → Element → Fields → Prop
  | selection {source : String} {selector : Selector} {value : Option ValueSource}
      {cleanups : List Cleanup} {validation : Option Validation} {inner : Option Pattern} {scope : Element}
      {first : Element} {rest : List Element} {own inside : Fields}
      (found : view.select scope selector = first :: rest)
      (taken : PrescribedValue view parentValue cleanups validation first value own)
      (each : PrescribedInner view parentValue inner 0 (first :: rest) inside) :
      Prescribed view parentValue (.selection source selector value cleanups validation inner) scope
        (own ++ inside)
  | group {members : List (String × Pattern)} {scope : Element} {fields : Fields}
      (each : PrescribedMembers view parentValue members scope fields) :
      Prescribed view parentValue (.group members) scope fields

/-- A record under the number of each match, counted on from the first of them. -/
inductive PrescribedInner (view : View Element) (parentValue : String) :
    Option Pattern → Nat → List Element → Fields → Prop
  | none {number : Nat} {found : List Element} : PrescribedInner view parentValue none number found []
  | nil {inner : Pattern} {number : Nat} : PrescribedInner view parentValue (some inner) number [] []
  | cons {inner : Pattern} {number : Nat} {element : Element} {rest : List Element} {own others : Fields}
      (here : Prescribed view parentValue inner element own)
      (later : PrescribedInner view parentValue (some inner) (number + 1) rest others) :
      PrescribedInner view parentValue (some inner) number (element :: rest)
        ((toString number, .object own) :: others)

/-- A record under the name of each member. -/
inductive PrescribedMembers (view : View Element) (parentValue : String) :
    List (String × Pattern) → Element → Fields → Prop
  | nil {scope : Element} : PrescribedMembers view parentValue [] scope []
  | cons {name : String} {member : Pattern} {rest : List (String × Pattern)} {scope : Element}
      {own others : Fields} (here : Prescribed view parentValue member scope own)
      (later : PrescribedMembers view parentValue rest scope others) :
      PrescribedMembers view parentValue ((name, member) :: rest) scope ((name, .object own) :: others)

end

/-! A scope fits a pattern exactly if nothing is wrong at any place. -/

/-- Nothing is wrong with a selection by itself if there is a match with a value of use, and something to
take. -/
theorem fault?_selection_eq_none {view : View Element} {parentValue source : String} {selector : Selector}
    {value : Option ValueSource} {cleanups : List Cleanup} {validation : Option Validation}
    {inner : Option Pattern} {scope : Element} :
    Site.fault? view parentValue ⟨.selection source selector value cleanups validation inner, scope⟩ = none ↔
      ∃ first rest, view.select scope selector = first :: rest ∧
        (∀ wanted ∈ value, Usable view wanted cleanups validation parentValue first) ∧
        (value.isSome ∨ inner.isSome) := by
  -- By what is selected, and by which of the two things there are to take.
  cases found : view.select scope selector with
  | nil => simp [Site.fault?, found]
  | cons first rest => cases value <;> cases inner <;> simp [Site.fault?, found]

/-- Nothing is wrong with a group by itself if it has members. -/
theorem fault?_group_eq_none {view : View Element} {parentValue : String}
    {members : List (String × Pattern)} {scope : Element} :
    Site.fault? view parentValue ⟨.group members, scope⟩ = none ↔ members ≠ [] := by
  cases members <;> simp [Site.fault?]

mutual

/-- A scope fits a pattern exactly if nothing is wrong at any place. -/
theorem fits_iff (view : View Element) (parentValue : String) : (pattern : Pattern) → (scope : Element) →
    (pattern.Fits view parentValue scope ↔
      ∀ site ∈ pattern.sites view scope, site.fault? view parentValue = none)
  -- Fitting goes down the pattern as its places do.
  | .selection source selector value cleanups validation inner, scope => by
    rw [sites, List.forall_mem_cons, fault?_selection_eq_none, ← fits_inner]
    constructor
    · rintro (⟨found, useful, purpose, inside⟩ | _)
      exact ⟨⟨_, _, found, useful, purpose⟩, by rwa [found]⟩
    · rintro ⟨⟨first, rest, found, useful, purpose⟩, inside⟩
      exact .selection found useful purpose (by rwa [found] at inside)
  | .group members, scope => by
    rw [sites, List.forall_mem_cons, fault?_group_eq_none, ← fits_members]
    constructor
    · rintro (_ | ⟨some_, each⟩)
      exact ⟨some_, each⟩
    · rintro ⟨some_, each⟩
      exact .group some_ each

/-- All matches fit an inner pattern exactly if nothing is wrong at any place inside them. -/
theorem fits_inner (view : View Element) (parentValue : String) :
    (inner : Option Pattern) → (found : List Element) →
      ((∀ pattern ∈ inner, ∀ element ∈ found, pattern.Fits view parentValue element) ↔
        ∀ site ∈ innerSites view inner found, site.fault? view parentValue = none)
  -- The places of an inner pattern are those inside every match.
  | none, found => by simp [innerSites]
  | some inner, found => by
    simp only [innerSites, List.forall_mem_flatMap, ← fits_iff view parentValue inner]
    simp

/-- A scope fits all members exactly if nothing is wrong at any place of them. -/
theorem fits_members (view : View Element) (parentValue : String) :
    (members : List (String × Pattern)) → (scope : Element) →
      ((∀ member ∈ members, member.2.Fits view parentValue scope) ↔
        ∀ site ∈ memberSites view members scope, site.fault? view parentValue = none)
  -- The places of the members come one member after the other.
  | [], scope => by simp [memberSites]
  | (name, member) :: rest, scope => by
    rw [memberSites, List.forall_mem_append, List.forall_mem_cons, fits_iff view parentValue member,
      fits_members view parentValue rest]

end

/-! A record holds the prescribed fields, and no field replaces another one. -/

/-- A number is not the name of a value. -/
theorem toString_ne_value (number : Nat) : toString number ≠ "value" := by
  -- A number is written with digits only.
  intro same
  have letter : 'v' ∈ Nat.toDigits 10 number := by
    rw [← Nat.toList_repr, ← Nat.toString_eq_repr, same]
    decide
  exact absurd (Nat.isDigit_of_mem_toDigits (by decide) (by decide) letter) (by decide)

/-- Fields that are a record are its fields. -/
theorem eq_of_ofFields {fields result : Fields} (done : Evaluation.ofFields fields = .record result) :
    result = fields := by
  -- Without any field there is no record.
  unfold Evaluation.ofFields at done
  split at done
  · cases done
  · exact (Evaluation.record.inj done).symm

/-- Collected records are filed under the numbers of their matches, behind the fields found before. -/
theorem exists_of_collect {view : View Element} {parentValue : String} {inner : Pattern} {run : Element → Evaluation}
    (each : ∀ element fields, run element = .record fields → Prescribed view parentValue inner element fields)
    (found : List Element) (index : Nat) (fields : Fields) {result : Fields}
    (new : ∀ number, index ≤ number → toString number ∉ fields.map Prod.fst)
    (collected : collect run index fields found = .record result) :
    ∃ inside, result = fields ++ inside ∧ PrescribedInner view parentValue (some inner) index found inside := by
  -- Each number is new, so that its record comes in at the end.
  induction found generalizing index fields with
  | nil => exact ⟨[], by simpa [collect] using eq_of_ofFields collected, .nil⟩
  | cons element rest ih =>
    rw [collect] at collected
    cases outcome : run element with
    | record own =>
      simp only [outcome, Fields.insert_of_new (new index (Nat.le_refl index))] at collected
      have next : ∀ number, index + 1 ≤ number →
          toString number ∉ (fields ++ [(toString index, Json.object own)]).map Prod.fst := by
        intro number later
        simp only [List.map_append, List.map_singleton, List.mem_append, List.mem_singleton, not_or]
        refine ⟨new number (Nat.le_of_succ_le later), fun same => ?_⟩
        have equal : number = index := eq_of_toString_eq same
        omega
      obtain ⟨others, rfl, later⟩ := ih (index + 1) _ next collected
      exact ⟨_, List.append_assoc _ _ _, .cons (each element own outcome) later⟩
    | wrongPage => simp [outcome] at collected
    | invalid => simp [outcome] at collected

mutual

/-- A record holds the prescribed fields. -/
theorem prescribed_of_evaluate (view : View Element) (parentValue : String) :
    (pattern : Pattern) → pattern.NamesDiffer → (scope : Element) → {result : Fields} →
      pattern.evaluate view parentValue scope = .record result →
        Prescribed view parentValue pattern scope result
  | .selection source selector value cleanups validation inner, .selection names, scope, result,
      evaluated => by
    rw [evaluate] at evaluated
    cases found : view.select scope selector with
    | nil => simp [found] at evaluated
    | cons first rest =>
      -- The value stands in front, under a name that is no number.
      cases value with
      | none =>
        simp only [found] at evaluated
        obtain ⟨inside, rfl, each⟩ :=
          exists_of_evaluateInner view parentValue inner names [] (by simp) _ evaluated
        exact .selection found .none each
      | some wanted =>
        by_cases useful : Usable view wanted cleanups validation parentValue first
        · obtain ⟨text, taken, written⟩ := exists_valueOf? useful
          simp only [found, taken, Option.map_some] at evaluated
          obtain ⟨inside, rfl, each⟩ := exists_of_evaluateInner view parentValue inner names [_]
            (by simp [-Nat.toString_eq_repr, toString_ne_value]) _ evaluated
          exact .selection found (.some written) each
        · simp [found, valueOf?_of_not_usable useful] at evaluated
  | .group members, .group differ each, scope, result, evaluated => by
    rw [evaluate] at evaluated
    obtain ⟨fields, rfl, members⟩ :=
      exists_of_evaluateMembers view parentValue members each scope [] differ evaluated
    exact .group members

/-- The records of an inner pattern come behind the fields found before. -/
theorem exists_of_evaluateInner (view : View Element) (parentValue : String) :
    (inner : Option Pattern) → (∀ pattern ∈ inner, pattern.NamesDiffer) → (fields : Fields) →
      (∀ number : Nat, toString number ∉ fields.map Prod.fst) → (found : List Element) → {result : Fields} →
      evaluateInner view parentValue inner fields found = .record result →
        ∃ inside, result = fields ++ inside ∧ PrescribedInner view parentValue inner 0 found inside
  -- The matches are numbered from nothing on, and no number is the name of a field already.
  | none, names, fields, new, found, result, evaluated => by
    rw [evaluateInner] at evaluated
    exact ⟨[], by rw [eq_of_ofFields evaluated, List.append_nil], .none⟩
  | some inner, names, fields, new, found, result, evaluated => by
    rw [evaluateInner] at evaluated
    exact exists_of_collect (fun element _ => prescribed_of_evaluate view parentValue inner (names inner rfl) element)
      found 0 fields (fun number _ => new number) evaluated

/-- The records of the members come behind the fields found before. -/
theorem exists_of_evaluateMembers (view : View Element) (parentValue : String) :
    (members : List (String × Pattern)) → (∀ member ∈ members, member.2.NamesDiffer) → (scope : Element) →
      (done : Fields) → (done.map Prod.fst ++ members.map Prod.fst).Nodup → {result : Fields} →
      evaluateMembers view parentValue members scope done = .record result →
        ∃ fields, result = done ++ fields ∧ PrescribedMembers view parentValue members scope fields
  -- A name that is new is put in behind the others, so that the fields come in the order of the members.
  | [], names, scope, done, differ, result, evaluated => by
    rw [evaluateMembers] at evaluated
    exact ⟨[], by rw [eq_of_ofFields evaluated, List.append_nil], .nil⟩
  | (name, member) :: rest, names, scope, done, differ, result, evaluated => by
    obtain ⟨here, later⟩ := List.forall_mem_cons.mp names
    rw [evaluateMembers] at evaluated
    cases outcome : member.evaluate view parentValue scope with
    | record own =>
      have new : name ∉ done.map Prod.fst := fun old =>
        (List.nodup_append.mp differ).2.2 name old name (by simp) rfl
      simp only [outcome, Fields.insert_of_new new] at evaluated
      obtain ⟨others, rfl, behind⟩ :=
        exists_of_evaluateMembers view parentValue rest later scope _ (by simpa using differ) evaluated
      have first := prescribed_of_evaluate view parentValue member here scope outcome
      exact ⟨_, List.append_assoc _ _ _, .cons first behind⟩
    | wrongPage => simp [outcome] at evaluated
    | invalid => simp [outcome] at evaluated

end

/-! One record is prescribed for a scope. -/

variable {view : View Element} {parentValue : String}

/-- One field is prescribed for a value. -/
theorem PrescribedValue.unique {value : Option ValueSource} {cleanups : List Cleanup} {validation : Option Validation}
    {first : Element} {own other : Fields}
    (taken : PrescribedValue view parentValue cleanups validation first value own)
    (taken' : PrescribedValue view parentValue cleanups validation first value other) : own = other := by
  -- A value that is asked for is written down in one way.
  cases taken with
  | none => cases taken'; rfl
  | some written =>
    obtain _ | written' := taken'
    rw [written.unique written']

mutual

/-- A pattern prescribes one record for a scope. -/
theorem Prescribed.unique {pattern : Pattern} {scope : Element} {fields others : Fields} :
    Prescribed view parentValue pattern scope fields → Prescribed view parentValue pattern scope others →
      fields = others
  -- What is selected is the same in both, and everything else hangs on it.
  | .selection found taken each, .selection found' taken' each' => by
    obtain ⟨rfl, rfl⟩ := List.cons.inj (found.symm.trans found')
    rw [taken.unique taken', each.unique each']
  | .group each, .group each' => each.unique each'

/-- An inner pattern prescribes one record for each match. -/
theorem PrescribedInner.unique {inner : Option Pattern} {number : Nat} {found : List Element}
    {fields others : Fields} : PrescribedInner view parentValue inner number found fields →
      PrescribedInner view parentValue inner number found others → fields = others
  | .none, .none => rfl
  | .nil, .nil => rfl
  | .cons here later, .cons here' later' => by rw [here.unique here', later.unique later']

/-- Each member prescribes one record. -/
theorem PrescribedMembers.unique {members : List (String × Pattern)} {scope : Element} {fields others : Fields} :
    PrescribedMembers view parentValue members scope fields →
      PrescribedMembers view parentValue members scope others → fields = others
  | .nil, .nil => rfl
  | .cons here later, .cons here' later' => by rw [here.unique here', later.unique later']

end

/-! Where fields are prescribed for a scope, they are for each place in it: some fields, whose names differ. -/

mutual

/-- Where fields are prescribed for a scope, they are for every place in it. -/
theorem Prescribed.exists_of_mem_sites {pattern : Pattern} {scope : Element} {fields : Fields} :
    Prescribed view parentValue pattern scope fields →
      ∀ site ∈ pattern.sites view scope, ∃ own, Prescribed view parentValue site.node site.scope own
  -- A place is the pattern itself, or inside one of its parts.
  | .selection found taken each => by
    rw [sites, List.forall_mem_cons, found]
    exact ⟨⟨_, .selection found taken each⟩, each.exists_of_mem_sites⟩
  | .group each => by
    rw [sites, List.forall_mem_cons]
    exact ⟨⟨_, .group each⟩, each.exists_of_mem_sites⟩

theorem PrescribedInner.exists_of_mem_sites {inner : Option Pattern} {number : Nat} {found : List Element}
    {fields : Fields} : PrescribedInner view parentValue inner number found fields →
      ∀ site ∈ innerSites view inner found, ∃ own, Prescribed view parentValue site.node site.scope own
  -- The places come one match after the other.
  | .none => by simp [innerSites]
  | .nil => by simp [innerSites]
  | .cons here later => by
    have others := later.exists_of_mem_sites
    rw [innerSites] at others ⊢
    rw [List.flatMap_cons, List.forall_mem_append]
    exact ⟨here.exists_of_mem_sites, others⟩

theorem PrescribedMembers.exists_of_mem_sites {members : List (String × Pattern)} {scope : Element}
    {fields : Fields} : PrescribedMembers view parentValue members scope fields →
      ∀ site ∈ memberSites view members scope, ∃ own, Prescribed view parentValue site.node site.scope own
  -- The places come one member after the other.
  | .nil => by simp [memberSites]
  | .cons here later => by
    rw [memberSites, List.forall_mem_append]
    exact ⟨here.exists_of_mem_sites, later.exists_of_mem_sites⟩

end

/-- If nothing is wrong at a place, some field is prescribed there. -/
theorem Prescribed.ne_nil {site : Site Element} (fine : site.fault? view parentValue = none) {fields : Fields}
    (prescribed : Prescribed view parentValue site.node site.scope fields) : fields ≠ [] := by
  obtain ⟨node, scope⟩ := site
  cases prescribed with
  | selection found taken each =>
    obtain ⟨first, rest, -, -, purpose⟩ := fault?_selection_eq_none.mp fine
    -- There is a value, or an inner pattern and a match to apply it to.
    cases taken with
    | some written => exact List.cons_ne_nil _ _
    | none =>
      cases each with
      | none => simp at purpose
      | cons here later => exact List.cons_ne_nil _ _
  | group each =>
    have some_ : _ ≠ [] := fault?_group_eq_none.mp fine
    cases each with
    | nil => exact absurd rfl some_
    | cons here later => exact List.cons_ne_nil _ _

/-- The members of a group prescribe fields of their names. -/
theorem PrescribedMembers.names_eq {members : List (String × Pattern)} {scope : Element} {fields : Fields}
    (each : PrescribedMembers view parentValue members scope fields) :
    fields.map Prod.fst = members.map Prod.fst := by
  -- By the members, each of which has its own field.
  induction members generalizing fields with
  | nil =>
    cases each
    rfl
  | cons first rest ih =>
    obtain _ | ⟨here, later⟩ := each
    rw [List.map_cons, List.map_cons, ih later]

/-- The matches of an inner pattern prescribe fields of their numbers. -/
theorem PrescribedInner.names_eq {inner : Pattern} {number : Nat} {found : List Element} {fields : Fields}
    (each : PrescribedInner view parentValue (some inner) number found fields) :
    fields.map Prod.fst = (List.range' number found.length).map toString := by
  -- By the matches, each of which has the next number.
  induction found generalizing number fields with
  | nil =>
    cases each
    rfl
  | cons element rest ih =>
    obtain _ | _ | ⟨here, later⟩ := each
    rw [List.map_cons, ih later, List.length_cons, List.range'_succ, List.map_cons]

/-- The fields that a pattern with distinct names prescribes have distinct names. -/
theorem Prescribed.nodup_names {pattern : Pattern} (names : pattern.NamesDiffer) {scope : Element} {fields : Fields}
    (prescribed : Prescribed view parentValue pattern scope fields) : (fields.map Prod.fst).Nodup := by
  cases prescribed with
  | @selection source selector value cleanups validation inner _ first rest own inside found taken each =>
    -- The numbers of the matches differ from each other and from the name of the value.
    have numbered : (inside.map Prod.fst).Nodup ∧ "value" ∉ inside.map Prod.fst := by
      cases inner with
      | none =>
        cases each
        simp
      | some inner =>
        rw [each.names_eq]
        refine ⟨List.Pairwise.map toString (fun _ _ differ same => differ (eq_of_toString_eq same))
          List.nodup_range', fun among => ?_⟩
        obtain ⟨number, -, same⟩ := List.mem_map.mp among
        exact toString_ne_value number same
    cases taken with
    | none => exact numbered.1
    | some written => exact List.nodup_cons.mpr numbered.symm
  | group each =>
    obtain _ | ⟨differ, -⟩ := names
    rw [each.names_eq]
    exact differ

mutual

/-- Every place in a pattern with distinct names is one of a pattern with distinct names. -/
theorem namesDiffer_of_mem_sites (view : View Element) :
    (pattern : Pattern) → pattern.NamesDiffer → (scope : Element) →
      ∀ site ∈ pattern.sites view scope, site.node.NamesDiffer
  -- The recursion is that of the places.
  | .selection source selector value cleanups validation inner, .selection inside, scope => by
    rw [sites, List.forall_mem_cons]
    exact ⟨.selection inside, namesDiffer_of_mem_innerSites view inner inside _⟩
  | .group members, .group differ each, scope => by
    rw [sites, List.forall_mem_cons]
    exact ⟨.group differ each, namesDiffer_of_mem_memberSites view members each scope⟩

theorem namesDiffer_of_mem_innerSites (view : View Element) :
    (inner : Option Pattern) → (∀ pattern ∈ inner, pattern.NamesDiffer) → (found : List Element) →
      ∀ site ∈ innerSites view inner found, site.node.NamesDiffer
  -- The places of an inner pattern are those inside every match.
  | none, names, found => by simp [innerSites]
  | some inner, names, found => by
    rw [innerSites, List.forall_mem_flatMap]
    exact fun element _ => namesDiffer_of_mem_sites view inner (names inner rfl) element

theorem namesDiffer_of_mem_memberSites (view : View Element) :
    (members : List (String × Pattern)) → (∀ member ∈ members, member.2.NamesDiffer) → (scope : Element) →
      ∀ site ∈ memberSites view members scope, site.node.NamesDiffer
  -- The places come one member after the other.
  | [], names, scope => by simp [memberSites]
  | (name, member) :: rest, names, scope => by
    obtain ⟨here, later⟩ := List.forall_mem_cons.mp names
    rw [memberSites, List.forall_mem_append]
    exact ⟨namesDiffer_of_mem_sites view member here scope,
      namesDiffer_of_mem_memberSites view rest later scope⟩

end

/-- What evaluation gives, told by the meaning of the pattern. -/
structure Meaning (view : View Element) (parentValue : String) (pattern : Pattern) (scope : Element) :
    Prop where
  /-- There is a record exactly if the scope fits. -/
  valid : (∃ fields, pattern.evaluate view parentValue scope = .record fields) ↔
    pattern.Fits view parentValue scope
  /-- The record holds the prescribed fields and no others. At every place in it there are some, and none replaces
  another one. -/
  record : pattern.Fits view parentValue scope →
    ∃ fields, pattern.evaluate view parentValue scope = .record fields ∧
      (∀ others, Prescribed view parentValue pattern scope others ↔ others = fields) ∧
      ∀ site ∈ pattern.sites view scope,
        ∃ own, Prescribed view parentValue site.node site.scope own ∧ own ≠ [] ∧ (own.map Prod.fst).Nodup
  /-- Otherwise there are no fields, and the fault is that of the first place where something is wrong. -/
  failure : ¬ pattern.Fits view parentValue scope →
    (pattern.evaluate view parentValue scope).fields = [] ∧
      ∃ before site after fault, pattern.sites view scope = before ++ site :: after ∧
        (∀ earlier ∈ before, earlier.fault? view parentValue = none) ∧
        site.fault? view parentValue = some fault ∧
        (pattern.evaluate view parentValue scope).fault? = some fault

/-- A pattern that is read from a text is evaluated by its meaning, whatever its selectors match on a page.
-/
theorem evaluate_meaning {source : String} {pattern : Pattern} (read : parse source = .ok pattern)
    (view : View Element) (parentValue : String) (scope : Element) :
    Meaning view parentValue pattern scope := by
  have names : pattern.NamesDiffer := parse_namesDiffer read
  have faults := fault?_evaluate view parentValue pattern scope
  have valid : (∃ fields, pattern.evaluate view parentValue scope = .record fields) ↔
      pattern.Fits view parentValue scope := by
    rw [← Evaluation.fault?_eq_none_iff, faults, List.findSome?_eq_none_iff, fits_iff]
  refine ⟨valid, fun fits => ?_, fun unfit => ?_⟩
  · obtain ⟨fields, evaluated⟩ := valid.mpr fits
    have prescribed := prescribed_of_evaluate view parentValue pattern names scope evaluated
    refine ⟨fields, evaluated, fun others => ⟨fun also => also.unique prescribed, fun same => same ▸ prescribed⟩,
      fun site among => ?_⟩
    -- Nothing is wrong at a place of a scope that fits.
    have fine := (fits_iff view parentValue pattern scope).mp fits site among
    have differ := namesDiffer_of_mem_sites view pattern names scope site among
    obtain ⟨own, own_⟩ := prescribed.exists_of_mem_sites site among
    exact ⟨own, own_, own_.ne_nil fine, own_.nodup_names differ⟩
  · rw [← valid, ← Evaluation.fault?_eq_none_iff] at unfit
    obtain ⟨fault, reported⟩ := Option.ne_none_iff_exists'.mp unfit
    -- The fault is that of the first place where something is wrong.
    obtain ⟨before, site, after, places, wrong, fine⟩ :=
      List.findSome?_eq_some_iff.mp (faults.symm.trans reported)
    exact ⟨Evaluation.fields_of_fault? reported, before, site, after, fault, places, fine, wrong, reported⟩

/-- A pattern for the prices in a list: what stands behind a colon, without a currency sign. -/
def listedPrices : String :=
  "\x7b\"pattern\": \"li\", \"children\": \x7b\"price\": \x7b\"pattern\": \"b\", \"value\": \"text\", " ++
    "\"postprocess\": \x7b\"split\": \":,1\", \"replace\": \"$,\"\x7d\x7d\x7d\x7d"

/-- A page with two prices. -/
def twoPrices : String :=
  "<li><b> now:$4 </b><li><b>then:$5</b>"

/-- The fault that a pattern reports on a page, and the text of its record there. -/
def faultAndText (pattern : Pattern) (root : Markup.Element) : Option Fault × String :=
  ((pattern.evaluate documentView "" root).fault?,
    (Json.object (pattern.evaluate documentView "" root).fields).render)

/-- Both prices of a list are found by the meaning of the pattern. -/
theorem evaluate_meaning_twoPrices :
    ∃ pattern root, parse listedPrices = .ok pattern ∧
      Markup.Element.root? (Markup.parseDocument twoPrices) = some root ∧
      faultAndText pattern root = (none, "\x7b\"0\":\x7b\"price\":\x7b\"value\":\"4\"\x7d\x7d," ++
        "\"1\":\x7b\"price\":\x7b\"value\":\"5\"\x7d\x7d\x7d") ∧
      Meaning documentView "" pattern root := by
  -- The sample is run for its record, which is compared as a text.
  obtain ⟨pattern, root, read, found, computed⟩ := exists_read listedPrices twoPrices faultAndText
    (none, "\x7b\"0\":\x7b\"price\":\x7b\"value\":\"4\"\x7d\x7d,\"1\":\x7b\"price\":\x7b\"value\":\"5\"\x7d\x7d\x7d")
    (by decide +kernel)
  exact ⟨pattern, root, read, found, computed, evaluate_meaning read documentView "" root⟩

end Harvest.Pattern
