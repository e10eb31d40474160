import Harvest.Proofs.Crawl.Schedule

/-! No target that a visit adds to the queue gets lost: it is visited until a page settles it or its address
has failed too often, or it is still to be visited. -/

namespace Harvest.Crawl

/-- How often visits of an address failed. -/
def failuresAt (visits : List Visit) (url : String) : Nat :=
  visits.countP fun visit => visit.finding.fails ∧ url = visit.target.url

/-- What becomes of a target, by the visits before and after it is queued. -/
inductive Fate (giveUpAfter : Nat) (earlier later : List Visit) (target : Target) : Prop
  /-- It is taken by the pattern. -/
  | extracted {visit : Visit} (among : visit ∈ later) (own : visit.target = target)
      (extracts : visit.finding.extracts = true)
  /-- Its page is a listing. -/
  | listed {visit : Visit} (among : visit ∈ later) (own : visit.target = target)
      (lists : visit.finding.lists = true)
  /-- It is dropped at a failure, since its address has failed too often before. -/
  | dropped {before after : List Visit} {visit : Visit} (split : later = before ++ visit :: after)
      (own : visit.target = target) (fails : visit.finding.fails = true)
      (often : giveUpAfter ≤ failuresAt (earlier ++ before) target.url)

/-- A visit more does not change what has become of a target. -/
theorem Fate.append {giveUpAfter : Nat} {earlier later : List Visit} {target : Target}
    (fate : Fate giveUpAfter earlier later target) (visit : Visit) :
    Fate giveUpAfter earlier (later ++ [visit]) target := by
  -- The visit that decides it stays among the later ones.
  cases fate with
  | extracted among own extracts => exact .extracted (List.mem_append_left _ among) own extracts
  | listed among own lists => exact .listed (List.mem_append_left _ among) own lists
  | @dropped before after failed split own fails often =>
    have longer : later ++ [visit] = before ++ failed :: (after ++ [visit]) := by simp [split]
    exact .dropped longer own fails often

/-- Whatever is found at a target, it fails, or the page is taken by the pattern, or it is a listing. -/
theorem Finding.kinds (finding : Finding) :
    finding.fails = true ∨ finding.extracts = true ∨ finding.lists = true := by
  -- A page is a listing, a record, the wrong one, or of no use.
  cases finding with
  | failed => exact .inl rfl
  | page content => cases content <;> simp [fails, extracts, lists]

namespace Schedule.Run

variable {giveUpAfter : Nat} {batches : List (List Link)} {visits : List Visit} {schedule : Schedule}

/-- A queue counts the failed visits of each address. -/
theorem attempts (run : Run giveUpAfter batches visits schedule) :
    schedule.queue.giveUpAfter = giveUpAfter ∧
      ∀ url, schedule.queue.attemptsAt url = failuresAt visits url := by
  -- Only a visit counts, and seeding and draining do not.
  induction run with
  | start => exact ⟨rfl, fun url => rfl⟩
  | seed run dry links ih => exact ih
  | drain run ih => exact ih
  | @visit batches visits front back visit queue run ih =>
    have takes := queue.takes visit
    refine ⟨takes.giveUpAfter.trans ih.1, fun url => ?_⟩
    rw [takes.attempts url, ih.2 url, failuresAt, failuresAt, List.countP_append, List.countP_singleton]
    simp only [decide_eq_true_eq]

/-- Leased links are at depth one, and what they list is below. -/
theorem depth (run : Run giveUpAfter batches visits schedule) :
    (∀ target ∈ schedule.outstanding, 1 ≤ target.depth) ∧ ∀ visit ∈ visits, 1 ≤ visit.target.depth := by
  -- A target is leased, or one level below the page that lists it.
  induction run with
  | start => simp [outstanding]
  | @seed batches visits queue run dry links ih =>
    refine ⟨fun target among => ?_, ih.2⟩
    simp only [outstanding, Queue.seed, dry, List.nil_append, List.mem_map] at among
    obtain ⟨link, -, rfl⟩ := among
    exact Nat.le_refl 1
  | drain run ih => simpa [outstanding, Queue.drain] using ih
  | @visit batches visits front back visit queue run ih =>
    have shallow : 1 ≤ visit.target.depth := ih.1 _ (by simp [outstanding])
    have visited : ∀ other ∈ visits ++ [visit], 1 ≤ other.target.depth := fun other among =>
      (List.mem_append.mp among).elim (ih.2 other) fun last => List.mem_singleton.mp last ▸ shallow
    refine ⟨fun target among => ?_, visited⟩
    -- A target is open, was pending before, is found by the visit, or is put back.
    rw [outstanding, (queue.takes visit).pending] at among
    simp only [List.mem_append] at among
    rcases among with (front | back) | (pending | found) | again
    · exact ih.1 _ (by simp [outstanding, front])
    · exact ih.1 _ (by simp [outstanding, back])
    · exact ih.1 _ (by simp [outstanding, pending])
    · unfold Visit.details at found
      split at found
      · obtain ⟨page, -, rfl⟩ := List.mem_map.mp found
        exact Nat.le_add_left 1 _
      · cases found
    · split at again
      · rwa [List.mem_singleton.mp again]
      · cases again

/-- A target that was to be visited still is after a visit, or the visit has decided what becomes of it. -/
theorem keeps {front back : List Target} {visit : Visit} {queue : Queue} {earlier later : List Visit}
    (run : Run giveUpAfter batches (earlier ++ later) ⟨front ++ visit.target :: back, queue⟩)
    {target : Target} (stands : target ∈ Schedule.outstanding ⟨front ++ visit.target :: back, queue⟩) :
    Fate giveUpAfter earlier (later ++ [visit]) target ∨
      target ∈ Schedule.outstanding ⟨front ++ back, queue.take visit⟩ := by
  rcases outstanding_visit stands with still | ⟨own, dropped⟩
  · exact .inr still
  · left
    rcases visit.finding.kinds with fails | extracts | lists
    · -- A failure that does not put the target back is one too many.
      obtain ⟨limit, counted⟩ := run.attempts
      simp only [Queue.putsBack, fails, Bool.true_and, decide_eq_false_iff_not, Nat.not_lt] at dropped
      refine .dropped rfl own fails ?_
      rwa [limit, counted, own] at dropped
    · exact .extracted (by simp) own extracts
    · exact .listed (by simp) own lists

/-- Every target that a visit adds to the queue is still to be visited, or a later visit has decided what
becomes of it. -/
theorem fate (run : Run giveUpAfter batches visits schedule) {earlier later : List Visit} {visit : Visit}
    (split : visits = earlier ++ visit :: later) {target : Target} (queued : target ∈ visit.details) :
    Fate giveUpAfter (earlier ++ [visit]) later target ∨ target ∈ schedule.outstanding := by
  -- The visits after it are taken one by one.
  induction run generalizing later with
  | start => simp at split
  | seed run dry links ih =>
    refine (ih split).imp_right fun stands => ?_
    simp only [outstanding, Queue.seed, List.mem_append] at stands ⊢
    exact stands.imp_right .inl
  | drain run ih => simpa [outstanding, Queue.drain] using ih split
  | @visit batches visits front back last queue run ih =>
    rcases List.eq_nil_or_concat later with rfl | ⟨others, final, rfl⟩
    · -- It is the last visit itself.
      obtain ⟨rfl, same⟩ := List.append_inj' split rfl
      obtain rfl := List.singleton_inj.mp same
      right
      rw [outstanding, (queue.takes last).pending]
      simp [queued]
    · rw [List.concat_eq_append, ← List.cons_append, ← List.append_assoc] at split
      obtain ⟨rfl, same⟩ := List.append_inj' split rfl
      obtain rfl := List.singleton_inj.mp same
      rw [List.concat_eq_append]
      rcases ih rfl with decided | stands
      · exact .inl (decided.append last)
      · rw [List.append_cons] at run
        exact run.keeps stands

end Schedule.Run

end Harvest.Crawl
