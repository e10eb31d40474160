import Harvest.Store.Basic
import Mathlib.Data.List.Forall2

/-! Pages of a listing: one behind the other they show the whole of it, each entry once and in order. Only a page so far
beyond the end that its start fits into no word is missing. -/

namespace Harvest

namespace Page

variable {α : Type}

/-- A page whose start fits into a word begins there, with room for as many entries as were asked for. -/
theorem numbered_of_lt {number size : Nat} (positive : number ≠ 0) (fits : (number - 1) * size < Word.bound) :
    numbered number size = some ⟨(number - 1) * size, some size⟩ := by
  rw [numbered, if_neg positive, if_pos fits]

/-- A page is missing exactly if its start does not fit into a word; page zero has none. -/
theorem numbered_eq_none_iff {number size : Nat} :
    numbered number size = none ↔ number ≠ 0 ∧ Word.bound ≤ (number - 1) * size := by
  -- By the two questions that the number is asked.
  unfold numbered
  split_ifs with whole fits
  · simp [whole]
  · simpa using fun _ => fits
  · simpa [whole] using fits

/-- Pages that lie one behind the other show the entries from the start of the first to the end of the last. -/
theorem flatten_windows (size count : Nat) (entries : List α) :
    ((List.range count).map fun before => (Page.mk (before * size) (some size)).window entries).flatten =
      entries.take (count * size) := by
  induction count with
  | zero => simp
  | succ count ih =>
    -- The last page goes on where those before it end.
    rw [List.range_succ, List.map_append, List.flatten_append, ih, List.map_singleton, List.flatten_singleton,
      Nat.succ_mul, List.take_add]
    rfl

end Page

namespace Store

/-- What a listing shows on the page of a number, if there is such a page. -/
def page? (store : Store) (collection : String) (filter : Filter) (size number : Nat) : Option (List Json) :=
  (Page.numbered number size).map (store.find collection filter)

section Listing

variable (store : Store) (collection : String) (filter : Filter)

/-- The documents that a filter chooses, in order of insertion. -/
def listing : List Json :=
  ((store.documents collection).filter (chosen filter)).map .object

/-- A page whose start fits into a word shows the documents from there on, as many as there is room for. -/
theorem page?_of_lt {number size : Nat} (positive : number ≠ 0) (fits : (number - 1) * size < Word.bound) :
    store.page? collection filter size number =
      some (((store.listing collection filter).drop ((number - 1) * size)).take size) := by
  -- Documents are shown one by one, so that it makes no difference whether the window comes first.
  rw [page?, Page.numbered_of_lt positive fits, Option.map_some, listing, ← List.map_drop, ← List.map_take]
  rfl

/-- Pages that go on until the end show everything, if their starts fit into a word. -/
theorem flatten_pages {size count : Nat} (fits : (count - 1) * size < Word.bound)
    (enough : (store.listing collection filter).length ≤ count * size) :
    ∃ pages, List.Forall₂ (fun before shown => store.page? collection filter size (before + 1) = some shown)
      (List.range count) pages ∧ pages.flatten = store.listing collection filter := by
  refine ⟨(List.range count).map fun before =>
    (Page.mk (before * size) (some size)).window (store.listing collection filter), ?_, ?_⟩
  · rw [List.forall₂_map_right_iff, List.forall₂_same]
    intro before among
    -- No page starts behind the last one.
    have start : before * size < Word.bound := Nat.lt_of_le_of_lt
      (Nat.mul_le_mul_right size (Nat.le_sub_one_of_lt (List.mem_range.mp among))) fits
    exact page?_of_lt store collection filter (Nat.succ_ne_zero before) start
  · rw [Page.flatten_windows, List.take_of_length_le enough]

end Listing

/-- How the pages of a listing show what a filter chooses. -/
structure Paged (store : Store) (collection : String) (filter : Filter) (size : Nat) : Prop where
  /-- Page zero shows all documents that are chosen, in order of insertion. -/
  whole : store.page? collection filter size 0 = some (store.listing collection filter)
  /-- Any other page whose start fits into a word shows those from its start to its end. -/
  shows : ∀ number, number ≠ 0 → (number - 1) * size < Word.bound →
    ∃ shown, store.page? collection filter size number = some shown ∧ ∀ index,
      shown[index]? =
        if index < size then (store.listing collection filter)[(number - 1) * size + index]? else none
  /-- So the pages up to the last one show everything, each document once. -/
  joined : ∀ count, (count - 1) * size < Word.bound →
    (store.listing collection filter).length ≤ count * size →
    ∃ pages, List.Forall₂ (fun before shown => store.page? collection filter size (before + 1) = some shown)
      (List.range count) pages ∧ pages.flatten = store.listing collection filter
  /-- A page beyond the last one shows nothing, if its start fits into a word. -/
  beyond : ∀ number, number ≠ 0 → (number - 1) * size < Word.bound →
    (store.listing collection filter).length ≤ (number - 1) * size →
    store.page? collection filter size number = some []
  /-- A page is missing exactly if its start does not fit into a word. -/
  missing : ∀ number, store.page? collection filter size number = none ↔
    number ≠ 0 ∧ Word.bound ≤ (number - 1) * size

/-- The pages of every listing show each chosen document once and in order, and beyond the last of them there is
nothing, as far as starts fit into a word; pages further on are missing. -/
theorem pages_partition (store : Store) (collection : String) (filter : Filter) (size : Nat) :
    Paged store collection filter size where
  whole := rfl
  shows number positive fits := by
    refine ⟨_, page?_of_lt store collection filter positive fits, fun index => ?_⟩
    rw [List.getElem?_take, List.getElem?_drop]
  joined _ fits enough := flatten_pages store collection filter fits enough
  beyond number positive fits behind := by
    rw [page?_of_lt store collection filter positive fits, List.drop_of_length_le behind, List.take_nil]
  missing number := by
    rw [page?, Option.map_eq_none_iff, Page.numbered_eq_none_iff]

/-- Three documents. -/
def sampleListing : Store :=
  ⟨[("docs", [[("id", .string "a")], [("id", .string "b")], [("id", .string "c")]])]⟩

/-- The page of the number that follows half of all words lies far beyond the end of the listing. With two documents on
a page it is not empty but missing. -/
theorem farPage_missing :
    let number := Word.signBound + 1
    number < Word.bound ∧ (sampleListing.listing "docs" []).length ≤ (number - 1) * 2 ∧
      sampleListing.page? "docs" [] 2 3 = some [] ∧ sampleListing.page? "docs" [] 2 number = none := by
  refine ⟨by decide, by decide, rfl, rfl⟩

end Store

end Harvest
