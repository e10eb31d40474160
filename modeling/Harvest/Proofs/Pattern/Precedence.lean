import Harvest.Proofs.Pattern.Reading
import Harvest.Proofs.Pattern.Sites

/-! Which fault is reported when a page lacks an element and another value on it is of no use: the one that
comes first in the order of evaluation. -/

namespace Harvest.Pattern

variable {Element : Type} {view : View Element} {parentValue : String}

/-- The node is a selection, and its selector has no match in the scope. -/
def Site.Unmatched (view : View Element) : Site Element → Prop
  | ⟨.selection _ selector _ _ _ _, scope⟩ => view.select scope selector = []
  | ⟨.group _, _⟩ => False

/-- An element is missing exactly where a selector has no match. -/
theorem Site.fault?_eq_missing_iff {site : Site Element} :
    site.fault? view parentValue = some .missing ↔ site.Unmatched view := by
  obtain ⟨node, scope⟩ := site
  cases node with
  | selection source selector value cleanups validation inner =>
    cases found : view.select scope selector with
    | nil => simp [fault?, Unmatched, found]
    | cons first rest =>
      -- With a match, only the value or the lack of a purpose can be wrong.
      have matched :
          ¬ Unmatched view ⟨.selection source selector value cleanups validation inner, scope⟩ := by
        simp [Unmatched, found]
      simp only [matched, iff_false, fault?, found]
      cases value with
      | none => cases inner <;> simp
      | some wanted => dsimp only; split <;> simp
  | group members => cases members <;> simp [fault?, Unmatched]

/-- An evaluation tells of a wrong page exactly if its fault is a missing element. -/
theorem eq_wrongPage_iff {evaluation : Evaluation} :
    evaluation = .wrongPage ↔ evaluation.fault? = some .missing := by
  cases evaluation <;> simp [Evaluation.fault?]

/-- Where a selector has no match, there is never a record. The page is reported as the wrong one exactly
if no place before the first such selector holds content of no use: content that comes earlier wins. -/
theorem wrongPage_iff_of_unmatched (view : View Element) (parentValue : String) (pattern : Pattern)
    (scope : Element) (lacking : ∃ site ∈ pattern.sites view scope, site.Unmatched view) :
    (¬ ∃ fields, pattern.evaluate view parentValue scope = .record fields) ∧
      (pattern.evaluate view parentValue scope = .wrongPage ↔
        ∃ before site after, pattern.sites view scope = before ++ site :: after ∧ site.Unmatched view ∧
          ∀ earlier ∈ before, earlier.fault? view parentValue ≠ some .unusable) := by
  have faults := fault?_evaluate view parentValue pattern scope
  constructor
  · -- The place without a match is one where something is wrong.
    obtain ⟨site, among, unmatched⟩ := lacking
    rw [← Evaluation.fault?_eq_none_iff, faults, List.findSome?_eq_none_iff]
    intro fine
    have wrong : site.fault? view parentValue = some .missing := Site.fault?_eq_missing_iff.mpr unmatched
    rw [fine site among] at wrong
    cases wrong
  · rw [eq_wrongPage_iff, faults]
    constructor
    · intro first
      obtain ⟨before, site, after, places, wrong, fine⟩ := List.findSome?_eq_some_iff.mp first
      exact ⟨before, site, after, places, Site.fault?_eq_missing_iff.mp wrong, fun earlier among => by
        simp [fine earlier among]⟩
    · rintro ⟨before, site, after, places, unmatched, useful⟩
      have wrong : site.fault? view parentValue = some .missing := Site.fault?_eq_missing_iff.mpr unmatched
      rw [places, List.findSome?_append, List.findSome?_cons, wrong]
      -- If something is wrong before, it is a missing element as well.
      cases earliest : before.findSome? (Site.fault? view parentValue) with
      | none => rfl
      | some fault =>
        obtain ⟨earlier, among, found⟩ := List.exists_of_findSome?_eq_some earliest
        cases fault with
        | missing => rfl
        | unusable => exact absurd found (useful earlier among)

/-- A pattern for a title and a price, in this order. -/
def titleThenPrice : String :=
  "\x7b\"title\": \x7b\"pattern\": \"h1\", \"value\": \"text\"\x7d, " ++
    "\"price\": \x7b\"pattern\": \"p\", \"value\": \"text\"\x7d\x7d"

/-- The same pattern with its members the other way round. -/
def priceThenTitle : String :=
  "\x7b\"price\": \x7b\"pattern\": \"p\", \"value\": \"text\"\x7d, " ++
    "\"title\": \x7b\"pattern\": \"h1\", \"value\": \"text\"\x7d\x7d"

/-- A page with an empty title and without a price. -/
def emptyTitle : String :=
  "<h1> </h1>"

/-- The fault that a pattern reports on a page, and whether an element is missing there. -/
def faultAndLack (pattern : Pattern) (root : Markup.Element) : Option Fault × Bool :=
  ((pattern.evaluate documentView "" root).fault?,
    (pattern.sites documentView root).any fun site => site.fault? documentView "" == some .missing)

/-- An element is missing where the search for one says so. -/
theorem exists_unmatched {pattern : Pattern} {root : Markup.Element}
    (lack : (faultAndLack pattern root).2 = true) :
    ∃ site ∈ pattern.sites documentView root, site.Unmatched documentView := by
  obtain ⟨site, among, wrong⟩ := List.any_eq_true.mp lack
  exact ⟨site, among, Site.fault?_eq_missing_iff.mp (beq_iff_eq.mp wrong)⟩

/-- With the missing price in front the page is reported as the wrong one. -/
theorem wrongPage_iff_of_unmatched_priceThenTitle :
    ∃ pattern root, parse priceThenTitle = .ok pattern ∧
      Markup.Element.root? (Markup.parseDocument emptyTitle) = some root ∧
      (∃ site ∈ pattern.sites documentView root, site.Unmatched documentView) ∧
      pattern.evaluate documentView "" root = .wrongPage ∧
      ∃ before site after, pattern.sites documentView root = before ++ site :: after ∧
        site.Unmatched documentView ∧
          ∀ earlier ∈ before, earlier.fault? documentView "" ≠ some .unusable := by
  -- The sample is run for what is wrong, and the general result says why.
  obtain ⟨pattern, root, read, found, computed⟩ := exists_read priceThenTitle emptyTitle faultAndLack
    (some .missing, true) (by decide +kernel)
  have lacking := exists_unmatched (congrArg Prod.snd computed)
  have wrong : pattern.evaluate documentView "" root = .wrongPage :=
    eq_wrongPage_iff.mpr (congrArg Prod.fst computed)
  exact ⟨pattern, root, read, found, lacking, wrong,
    (wrongPage_iff_of_unmatched documentView "" pattern root lacking).2.mp wrong⟩

/-- With the empty title in front the same page is reported as one of no use, although the price is missing:
the order of the members decides. -/
theorem emptyTitle_hides_missingPrice :
    ∃ pattern root, parse titleThenPrice = .ok pattern ∧
      Markup.Element.root? (Markup.parseDocument emptyTitle) = some root ∧
      (∃ site ∈ pattern.sites documentView root, site.Unmatched documentView) ∧
      pattern.evaluate documentView "" root ≠ .wrongPage ∧
      (pattern.evaluate documentView "" root).fault? = some .unusable := by
  -- The sample is run for what is wrong: it is the title, and not the price that is missing.
  obtain ⟨pattern, root, read, found, computed⟩ := exists_read titleThenPrice emptyTitle faultAndLack
    (some .unusable, true) (by decide +kernel)
  have unusable : (pattern.evaluate documentView "" root).fault? = some .unusable :=
    congrArg Prod.fst computed
  refine ⟨pattern, root, read, found, exists_unmatched (congrArg Prod.snd computed), fun wrong => ?_,
    unusable⟩
  rw [eq_wrongPage_iff, unusable] at wrong
  cases wrong

end Harvest.Pattern
