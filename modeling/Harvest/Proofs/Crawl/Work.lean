import Harvest.Crawl.Basic

/-! What the parts of a crawl keep: the queue knows leased links only, a flush loses no records, and the
outcome of a fetch changes neither of them otherwise. -/

namespace Harvest.Crawl

namespace Table

variable {α : Type}

/-- After filing a value a table holds nothing else that is new. -/
theorem mem_of_mem_put {key : String} {value : α} {table : Table α} {entry : String × α}
    (filed : entry ∈ table.put key value) : entry ∈ table ∨ entry = (key, value) := by
  -- The walk replaces the first entry of the text, or adds one at the end.
  induction table with
  | nil => exact .inr (by simpa [put] using filed)
  | cons first rest ih =>
    rw [put] at filed
    split at filed
    · rcases List.mem_cons.mp filed with new | old
      · exact .inr new
      · exact .inl (List.mem_cons_of_mem _ old)
    · rcases List.mem_cons.mp filed with rfl | later
      · exact .inl List.mem_cons_self
      · exact (ih later).imp_left (List.mem_cons_of_mem _)

/-- A search stops at the first entry if it is that of the text. -/
theorem lookup_cons (first : String × α) (rest : Table α) (key : String) :
    List.lookup key (first :: rest) = if key = first.1 then some first.2 else rest.lookup key := by
  obtain ⟨text, value⟩ := first
  by_cases same : key = text <;> simp [List.lookup_cons, same, beq_false_of_ne]

/-- Under the text of a value just filed that value is found, and under other texts what was found before. -/
theorem lookup_put (key : String) (value : α) (table : Table α) (other : String) :
    (table.put key value).lookup other = if other = key then some value else table.lookup other := by
  -- The walk stops at the first entry of the text, where a search would stop too.
  induction table with
  | nil => exact lookup_cons (key, value) [] other
  | cons first rest ih =>
    rw [put]
    by_cases here : first.1 = key
    · rw [if_pos here, lookup_cons, lookup_cons, here]
      by_cases same : other = key <;> simp [same]
    · rw [if_neg here, lookup_cons, lookup_cons, ih]
      by_cases same : other = first.1 <;> simp [same, here]

/-- Under a text that was removed nothing is found, and under other texts what was found before. -/
theorem lookup_drop (key : String) (table : Table α) (other : String) :
    (table.drop key).lookup other = if other = key then none else table.lookup other := by
  -- An entry goes if it is that of the text.
  induction table with
  | nil => simp [drop]
  | cons first rest ih =>
    rw [drop, List.filter_cons, ← drop, lookup_cons]
    by_cases here : first.1 = key
    · rw [if_neg (by simp [here]), ih, here]
      by_cases same : other = key <;> simp [same]
    · rw [if_pos (by simp [here]), lookup_cons, ih]
      by_cases same : other = first.1 <;> simp [same, here]

/-- What is found under a text is filed there. -/
theorem mem_of_lookup {key : String} {value : α} {table : Table α}
    (found : table.lookup key = some value) : (key, value) ∈ table := by
  -- A search stops at an entry of the text.
  obtain ⟨before, rest, rfl, -⟩ := List.lookup_eq_some_iff.mp found
  simp

end Table

namespace Queue

variable {queue : Queue}

/-- Seeding files the identifiers of the leased links under their addresses. -/
theorem mem_linkIds_seed {links : List Link} {entry : String × String}
    (filed : entry ∈ (queue.seed links).linkIds) :
    entry ∈ queue.linkIds ∨ ∃ link ∈ links, entry = (link.url, link.id) := by
  simp only [seed] at filed
  -- The links are filed one after the other.
  generalize queue.linkIds = table at filed ⊢
  induction links generalizing table with
  | nil => exact .inl filed
  | cons link rest ih =>
    rcases ih _ filed with early | ⟨other, later, rfl⟩
    · rcases Table.mem_of_mem_put early with old | rfl
      · exact .inl old
      · exact .inr ⟨link, List.mem_cons_self, rfl⟩
    · exact .inr ⟨other, List.mem_cons_of_mem _ later, rfl⟩

/-- A target is put back or given up exactly if there is a word for the count of its address. -/
theorem requeue_eq_some_iff {target : Target} {result : Bool × Queue} :
    queue.requeue target = some result ↔
      queue.attemptsAt target.url + 1 < Word.halfBound ∧ queue.retried target = result := by
  unfold requeue
  split
  · rename_i small
    rw [Option.some_inj]
    exact (and_iff_right small).symm
  · -- Without a word for the count nothing comes out.
    rename_i large
    exact ⟨nofun, fun both => absurd both.1 large⟩

/-- No link that was given up is reported, and all that are reported were dealt with. -/
theorem mem_completed {id : String} : id ∈ queue.completed ↔ id ∈ queue.processed ∧ id ∉ queue.givenUp := by
  -- The report is what was dealt with, without what was given up.
  simp [completed]

end Queue

/-- The records that a write still has to bring to the sink. -/
def Writing.records? : Writing → List Json
  | records flush => flush.records
  | diagnostics _ => []

/-- The records that the sink takes when it answers a write. -/
def Writing.taken : Writing → Except StoreError Unit → List Json
  | records flush, .ok () => flush.records
  | _, _ => []

/-- The records of a write, if there is one. -/
def waiting (writing : Option Writing) : List Json :=
  writing.elim [] Writing.records?

/-- The first write of a flush brings all its records. -/
theorem waiting_firstWrite (flush : Flush) : waiting flush.firstWrite = flush.records := by
  -- A flush that does not begin with its records has none.
  unfold Flush.firstWrite
  split
  · rfl
  · rename_i none_left
    have empty : flush.records = [] := by simpa using none_left
    split <;> simp [waiting, Writing.records?, empty]

/-- The second write of a flush brings no records. -/
theorem waiting_secondWrite (flush : Flush) : waiting flush.secondWrite = [] := by
  -- It brings diagnostics, if there are any.
  unfold Flush.secondWrite
  split <;> rfl

/-- An answer of the sink loses no record: each is taken, still to be written, or back in the buffer in
front. -/
theorem afterWrite_records (buffer : Buffer) (writing : Writing) (reply : Except StoreError Unit) :
    writing.taken reply ++ waiting (buffer.afterWrite writing reply).2.toOption.join ++
        (buffer.afterWrite writing reply).1.records = writing.records? ++ buffer.records := by
  -- What is put back comes before what has been extracted since, which keeps the order.
  cases writing with
  | records flush =>
    cases reply with
    | ok done =>
      simp [Writing.taken, Buffer.afterWrite, Except.toOption, waiting_secondWrite, Writing.records?]
    | error cause => simp [Writing.taken, Buffer.afterWrite, Buffer.restore, waiting, Writing.records?,
        Except.toOption]
  | diagnostics flush =>
    cases reply with
    | ok done => simp [Writing.taken, Buffer.afterWrite, waiting, Writing.records?, Except.toOption]
    | error cause => simp [Writing.taken, Buffer.afterWrite, Buffer.restore, waiting, Writing.records?,
        Except.toOption]

/-- Only a failure to write records puts records back. -/
theorem afterWrite_records_of_ok {buffer : Buffer} {writing : Writing} {reply : Except StoreError Unit}
    {next : Option Writing} (goesOn : (buffer.afterWrite writing reply).2 = .ok next) :
    (buffer.afterWrite writing reply).1.records = buffer.records := by
  -- Diagnostics that could not be written are put back without a failure, but they are no records.
  cases writing with
  | records flush =>
    cases reply with
    | ok done => rfl
    | error cause => cases goesOn
  | diagnostics flush => cases reply <;> rfl

end Harvest.Crawl
