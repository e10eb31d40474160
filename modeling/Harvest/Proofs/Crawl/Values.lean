import Harvest.Proofs.Crawl.Attempts
import Mathlib.Data.List.Find

/-! The value with which a detail page is read comes from the listing that names it. -/

namespace Harvest.Crawl

/-- The detail pages that a visit adds to the queue, as its page names them. -/
def Visit.named (visit : Visit) : List DetailPage :=
  if visit.target.depth < maxDepth then visit.finding.listed else []

/-- The targets that a visit adds are those of the detail pages that it names. -/
theorem Visit.details_eq (visit : Visit) :
    visit.details = visit.named.map fun page => ⟨page.url, visit.target.depth + 1⟩ := by
  unfold details named
  split <;> rfl

/-- The detail pages that visits have named, in order. -/
def named (visits : List Visit) : List DetailPage :=
  visits.flatMap Visit.named

/-- The detail pages that visits have named are those that they have queued. -/
theorem discovered_urls (visits : List Visit) : (discovered visits).map (·.url) = (named visits).map (·.url) := by
  simp only [discovered, named, List.map_flatMap, Visit.details_eq, List.map_map, Function.comp_def]

/-- The values that detail pages give for an address, in order. -/
def valuesAt (pages : List DetailPage) (url : String) : List String :=
  (pages.filter (·.url = url)).map (·.parentValue)

/-- Pages with other addresses give no values for an address. -/
theorem valuesAt_of_unnamed {pages : List DetailPage} {url : String} (unnamed : url ∉ pages.map (·.url)) :
    valuesAt pages url = [] := by
  rw [valuesAt, List.filter_eq_nil_iff.mpr, List.map_nil]
  exact fun page among => by simpa using fun same => unnamed (List.mem_map.mpr ⟨page, among, same⟩)

/-- The last value for an address is that of a page with the address, if no later one has it. -/
theorem getLast?_valuesAt {front back : List DetailPage} {page : DetailPage}
    (last : page.url ∉ back.map (·.url)) :
    (valuesAt (front ++ page :: back) page.url).getLast? = some page.parentValue := by
  -- The pages behind it have no value for the address.
  have after := valuesAt_of_unnamed last
  simp only [valuesAt] at after ⊢
  simp [after]

/-- The value that a detail page gives is the only one for its address, if no other page has that. -/
theorem valuesAt_of_distinct {pages : List DetailPage} {page : DetailPage} (among : page ∈ pages)
    (distinct : (pages.map (·.url)).Nodup) : valuesAt pages page.url = [page.parentValue] := by
  -- Neither the pages in front nor those behind have the address.
  obtain ⟨front, back, rfl⟩ := List.append_of_mem among
  rw [List.map_append, List.map_cons, List.nodup_middle, List.nodup_cons, List.mem_append, not_or] at distinct
  have before := valuesAt_of_unnamed distinct.1.1
  have after := valuesAt_of_unnamed distinct.1.2
  simp only [valuesAt] at before after ⊢
  simp [before, after]

/-- The value that a visit leaves with an address, if its target is put back or not: the last one that its page
gives, or none if the address is done with. -/
def Visit.filing? (visit : Visit) (back : Bool) (url : String) : Option String :=
  (valuesAt visit.named url).getLast?.or
    (if url = visit.target.url ∧ visit.finding.lists = false ∧ back = false then some "" else none)

/-- A visit of a page that is no listing files a value only as it is done with its address. -/
theorem Visit.filing?_of_unlisted {visit : Visit} (unlisted : visit.finding.lists = false) (back : Bool)
    (url : String) :
    visit.filing? back url = if url = visit.target.url ∧ back = false then some "" else none := by
  -- A page that is no listing names no details, whose values would come first.
  have unnamed : visit.named = [] := by
    unfold named
    cases found : visit.finding with
    | failed => exact ite_self _
    | page content => cases content <;> simp_all [Finding.listed, Finding.lists]
  simp [filing?, unnamed, valuesAt, unlisted]

/-- The value that a listing among the visits has given for an address. -/
def listedValue (visits : List Visit) (url : String) : String :=
  (((named visits).find? (·.url = url)).map (·.parentValue)).getD ""

/-- Visits that do not name an address give no value for it. -/
theorem listedValue_append_of_unnamed (earlier : List Visit) {later : List Visit} {url : String}
    (unnamed : url ∉ (named later).map (·.url)) :
    listedValue (earlier ++ later) url = listedValue earlier url := by
  -- Among the later pages the search finds nothing.
  have unseen : (named later).find? (·.url = url) = none :=
    List.find?_eq_none.mpr fun page among => by
      simpa using fun same => unnamed (List.mem_map.mpr ⟨page, among, same⟩)
  simp only [listedValue, named, List.flatMap_append, List.find?_append] at unseen ⊢
  rw [unseen, Option.or_none]

/-- For an address that no listing names there is no value. -/
theorem listedValue_of_unnamed {visits : List Visit} {url : String} (unnamed : url ∉ (named visits).map (·.url)) :
    listedValue visits url = "" :=
  listedValue_append_of_unnamed [] unnamed

/-- The value of a detail page is that which its listing gives, if no other one names it. -/
theorem listedValue_append_of_named {earlier later : List Visit} {page : DetailPage} (among : page ∈ named later)
    (distinct : ((named (earlier ++ later)).map (·.url)).Nodup) :
    listedValue (earlier ++ later) page.url = page.parentValue := by
  -- The search finds a page with the address, and that can only be this one.
  have own : page ∈ named (earlier ++ later) := by
    rw [named, List.flatMap_append]
    exact List.mem_append_right _ among
  cases found : (named (earlier ++ later)).find? (·.url = page.url) with
  | none => exact absurd (List.find?_eq_none.mp found page own) (by simp)
  | some other =>
    have same : other = page :=
      List.inj_on_of_nodup_map distinct (List.mem_of_find?_eq_some found) own
        (by simpa using List.find?_some found)
    rw [listedValue, found, same]
    rfl

/-- The order of the visits does not matter for the values of detail pages, if no address is named twice. -/
theorem listedValue_perm {visits others : List Visit} (same : visits.Perm others)
    (distinct : ((named visits).map (·.url)).Nodup) (url : String) :
    listedValue visits url = listedValue others url := by
  -- The search finds the one page with the address wherever it stands.
  have one : {page ∈ named visits | decide (page.url = url) = true}.Subsingleton :=
    fun page first other second => List.inj_on_of_nodup_map distinct first.1 second.1 <| by
      simpa using (of_decide_eq_true first.2).trans (of_decide_eq_true second.2).symm
  have found : (named visits).find? (·.url = url) = (named others).find? (·.url = url) :=
    List.find?_eq_find?_of_perm (same.flatMap_right Visit.named) one
  rw [listedValue, found, listedValue]

namespace Queue

/-- Forgetting the value of an address leaves the other ones. -/
theorem parentValue_dropParentValue (queue : Queue) (url other : String) :
    (queue.dropParentValue url).parentValue other = if other = url then "" else queue.parentValue other := by
  rw [parentValue, dropParentValue, Table.lookup_drop]
  split <;> rfl

/-- Marking an address leaves the values. -/
theorem parentValue_markProcessed (queue : Queue) (url other : String) :
    (queue.markProcessed url).parentValue other = queue.parentValue other := by
  rw [markProcessed_eq]
  rfl

/-- Putting a target back leaves the values, and giving it up forgets that of its own address. -/
theorem parentValue_retried (queue : Queue) (target : Target) (url : String) :
    (queue.retried target).2.parentValue url =
      if url = target.url ∧ (queue.retried target).1 = false then "" else queue.parentValue url := by
  -- By whether the counter is above the limit.
  by_cases dropped : queue.giveUpAfter < queue.attemptsAt target.url + 1
  · simp only [retried, if_pos dropped, parentValue, Table.lookup_drop, and_true]
    split <;> rfl
  · simp only [retried, if_neg dropped, parentValue, Bool.true_eq_false, and_false, if_false]

/-- Queueing detail pages leaves with an address the last value that they give for it. -/
theorem parentValue_discoverAll (queue : Queue) (depth : Nat) (pages : List DetailPage) (url : String) :
    (State.discoverAll depth pages queue).2.parentValue url =
      ((valuesAt (if depth < maxDepth then pages else []) url).getLast?).getD (queue.parentValue url) := by
  -- The pages are queued one after the other.
  induction pages generalizing queue with
  | nil => simp [State.discoverAll, valuesAt]
  | cons page rest ih =>
    simp only [State.discoverAll]
    rw [ih, discover]
    by_cases shallow : depth < maxDepth
    · rw [if_neg (by omega : ¬maxDepth < depth + 1), if_pos shallow, if_pos shallow]
      by_cases own : page.url = url
      · -- A later page with the address has the last word.
        simp [valuesAt, own, parentValue, Table.lookup_put, List.getLast?_cons]
      · simp [valuesAt, own, Ne.symm own, parentValue, Table.lookup_put]
    · rw [if_pos (by omega : maxDepth < depth + 1), if_neg shallow, if_neg shallow]

/-- A visit leaves with an address the value that it files, or that from before. -/
theorem parentValue_take (queue : Queue) (visit : Visit) (url : String) :
    (queue.take visit).parentValue url =
      (visit.filing? (queue.putsBack visit) url).getD (queue.parentValue url) := by
  obtain ⟨target, finding⟩ := visit
  -- A failure that does not put the target back is done with its address, and so is a page that is no listing.
  have failure (fails : finding.fails = true) (unlisted : finding.lists = false) :
      (queue.retried target).2.parentValue url =
        (Visit.filing? ⟨target, finding⟩ (queue.putsBack ⟨target, finding⟩) url).getD (queue.parentValue url) := by
    rw [Visit.filing?_of_unlisted unlisted, parentValue_retried, @putsBack_of_fails queue ⟨target, finding⟩ fails]
    split <;> rfl
  have page (succeeds : finding.fails = false) (unlisted : finding.lists = false) :
      ((queue.dropParentValue target.url).markProcessed target.url).parentValue url =
        (Visit.filing? ⟨target, finding⟩ (queue.putsBack ⟨target, finding⟩) url).getD (queue.parentValue url) := by
    have left : queue.putsBack ⟨target, finding⟩ = false := by simp [putsBack, succeeds]
    rw [Visit.filing?_of_unlisted unlisted, left, parentValue_markProcessed, parentValue_dropParentValue]
    by_cases own : url = target.url <;> simp [own]
  cases finding with
  | failed => exact failure rfl rfl
  | page content =>
    cases content with
    | listing pages =>
      simp [take, parentValue_markProcessed, parentValue_discoverAll, Visit.filing?, Visit.named, Finding.listed,
        Finding.lists]
    | record fields => exact page rfl rfl
    | wrongPage => exact failure rfl rfl
    | invalid => exact page rfl rfl

/-- A visit leaves the value of an address that it does not name, or it forgets it as it settles that address. -/
theorem parentValue_take_of_unnamed (queue : Queue) {visit : Visit} {url : String}
    (unnamed : url ∉ visit.named.map (·.url)) : (queue.take visit).parentValue url = queue.parentValue url ∨
      (queue.take visit).parentValue url = "" ∧ url = visit.target.url ∧ queue.putsBack visit = false := by
  -- Of what a visit files, only the erasing of its own address is left.
  rw [parentValue_take, Visit.filing?, valuesAt_of_unnamed unnamed, List.getLast?_nil, Option.none_or]
  split
  · rename_i settled
    exact .inr ⟨rfl, settled.1, settled.2.2⟩
  · exact .inl rfl

/-- A visit gives each detail page that it names the value of its listing. -/
theorem parentValue_take_of_named {queue : Queue} {visit : Visit} {page : DetailPage} (among : page ∈ visit.named)
    (distinct : (visit.named.map (·.url)).Nodup) :
    (queue.take visit).parentValue page.url = page.parentValue := by
  rw [parentValue_take, Visit.filing?, valuesAt_of_distinct among distinct]
  rfl

end Queue

end Harvest.Crawl
