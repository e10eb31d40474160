import Harvest.Proofs.Crawl.Traffic

/-! A flush fails only with its record write and then stores nothing, and flushes under way at the same time lose
nothing and store nothing twice. -/

namespace Harvest.Crawl

/-- How far a call has come, told by the answers that it has had. -/
inductive Flushing.Stands (index : Nat) (taken : Flush) : List Answer → Except StoreError (Option Writing) → Prop
  | begun : Stands index taken [] (.ok taken.firstWrite)
  | refused (cause : StoreError) : Stands index taken [⟨index, .records taken, .error cause⟩] (.error cause)
  | halfway : Stands index taken [⟨index, .records taken, .ok ()⟩] (.ok taken.secondWrite)
  | done {earlier : List Answer} (reply : Except StoreError Unit)
      (records : earlier = [⟨index, .records taken, .ok ()⟩] ∨ earlier = [] ∧ taken.records = []) :
      Stands index taken (earlier ++ [⟨index, .diagnostics taken, reply⟩]) (.ok none)

/-- A flush begins with its records, or with its diagnostics if it has no records. -/
theorem Flush.eq_of_firstWrite {taken : Flush} {writing : Writing} (first : taken.firstWrite = some writing) :
    writing = .records taken ∨ writing = .diagnostics taken ∧ taken.records = [] := by
  -- The records are asked for first.
  unfold firstWrite at first
  split at first
  · exact .inl (Option.some_inj.mp first).symm
  · rename_i none_left
    split at first
    · exact .inr ⟨(Option.some_inj.mp first).symm, by simpa using none_left⟩
    · cases first

/-- A flush that has no write to begin with has taken out no records. -/
theorem Flush.records_of_firstWrite {taken : Flush} (first : taken.firstWrite = none) : taken.records = [] := by
  by_contra some_left
  simp [firstWrite, some_left] at first

/-- After its records a flush writes its diagnostics. -/
theorem Flush.eq_of_secondWrite {taken : Flush} {writing : Writing} (second : taken.secondWrite = some writing) :
    writing = .diagnostics taken := by
  -- There is a second write only if there are diagnostics.
  unfold secondWrite at second
  split at second
  · cases second
  · exact (Option.some_inj.mp second).symm

namespace Flushing.Stands

variable {index : Nat} {taken : Flush} {answers : List Answer} {stage : Except StoreError (Option Writing)}

/-- An answer brings a call one step further. -/
theorem answered {writing : Writing} (stands : Stands index taken answers stage)
    (waits : stage = .ok (some writing)) (buffer : Buffer) (reply : Except StoreError Unit) :
    Stands index taken (answers ++ [⟨index, writing, reply⟩]) (buffer.afterWrite writing reply).2 := by
  -- By the stage that the flush has reached.
  cases stands with
  | begun =>
    rcases Flush.eq_of_firstWrite (Except.ok.inj waits) with rfl | ⟨rfl, empty⟩
    · cases reply with
      | ok done => exact .halfway
      | error cause => exact .refused cause
    · cases reply <;> exact done _ (.inr ⟨rfl, empty⟩)
  | refused cause => cases waits
  | halfway =>
    obtain rfl := Flush.eq_of_secondWrite (Except.ok.inj waits)
    cases reply <;> exact @done _ _ [_] _ (.inl rfl)
  | done reply records => cases waits

/-- A call fails exactly if its records could not be written. -/
theorem failed (stands : Stands index taken answers stage) (cause : StoreError) :
    stage = .error cause ↔ ∃ flush, ⟨index, .records flush, .error cause⟩ ∈ answers := by
  -- Of the stages only a refused write of records is a failure.
  cases stands with
  | begun => simp
  | refused other =>
    constructor
    · intro ended
      cases ended
      exact ⟨taken, List.mem_singleton_self _⟩
    · rintro ⟨flush, among⟩
      cases List.mem_singleton.mp among
      rfl
  | halfway => simp
  | done reply records => rcases records with rfl | ⟨rfl, -⟩ <;> simp

/-- Of a call that fails nothing is stored. -/
theorem unstored {cause : StoreError} (stands : Stands index taken answers stage) (ended : stage = .error cause)
    (kind : Kind) : storedBy answers kind = [] := by
  -- Its one answer is a refusal.
  cases stands with
  | refused other => rfl
  | _ => cases ended

/-- Of a call that returns without an error all records are stored. -/
theorem stored (stands : Stands index taken answers stage) (ended : stage = .ok none) :
    storedBy answers .record = taken.records := by
  -- A flush that is done has written what it has taken out, or had nothing to write.
  have all : (Writing.records taken).stored (.ok ()) .record = taken.records := rfl
  have none_of_these (reply : Except StoreError Unit) :
      (Writing.diagnostics taken).stored reply .record = [] := by
    cases reply <;> rfl
  cases stands with
  | begun => exact (Flush.records_of_firstWrite (Except.ok.inj ended)).symm
  | refused cause => cases ended
  | halfway => simp [storedBy, all]
  | done reply records => rcases records with rfl | ⟨rfl, empty⟩ <;> simp [storedBy, *]

end Flushing.Stands

namespace Traffic

/-- The answers to a call. -/
def answersTo (traffic : Traffic) (index : Nat) : List Answer :=
  traffic.answers.filter (·.call == index)

/-- One more answer belongs to its own call alone. -/
theorem answersTo_append (buffer : Buffer) (calls : List Flushing) (answers : List Answer) (answer : Answer)
    (index : Nat) : answersTo ⟨buffer, calls, answers ++ [answer]⟩ index =
      answers.filter (·.call == index) ++ if answer.call = index then [answer] else [] := by
  by_cases own : answer.call = index <;> simp [answersTo, own]

/-- The calls of flush stand as the answers to them say, and no answer goes to a call that is yet to come. -/
structure Sound (traffic : Traffic) : Prop where
  stands : ∀ index call, traffic.calls[index]? = some call →
    Flushing.Stands index call.taken (traffic.answersTo index) call.stage
  known : ∀ answer ∈ traffic.answers, answer.call < traffic.calls.length

/-- Every act keeps the calls sound. -/
theorem Sound.step {traffic : Traffic} (sound : traffic.Sound) (act : Act) : (traffic.step act).Sound := by
  generalize after_step : traffic.step act = later
  have step : traffic.Step act later := after_step ▸ traffic.step_cases act
  -- By the act: a call begins without answers, and an answer belongs to one call.
  cases step with
  | pushes kind result => exact ⟨sound.stands, sound.known⟩
  | begins =>
    refine ⟨fun index call found => ?_, fun answer among => ?_⟩
    · rw [List.getElem?_append] at found
      split at found
      · exact sound.stands index call found
      · -- The call is the new one, and there is no answer to it.
        rename_i past
        have unanswered : traffic.answersTo index = [] := by
          refine List.filter_eq_nil_iff.mpr fun answer among => ?_
          have early := sound.known answer among
          simp only [beq_iff_eq]
          omega
        obtain rfl : _ = call := List.mem_singleton.mp (List.mem_of_getElem? found) |>.symm
        show Flushing.Stands index _ (traffic.answersTo index) _
        rw [unanswered]
        exact .begun
    · simpa using Nat.lt_succ_of_lt (sound.known answer among)
  | @answers front back taken writing reply calls =>
    have length : traffic.calls.length = front.length + (back.length + 1) := by simp [calls]
    refine ⟨fun index call found => ?_, fun answer among => ?_⟩
    · rw [answersTo_append]
      -- The answer goes to the call that was waiting, and the others stand as before.
      by_cases own : front.length = index
      · subst own
        have stands := sound.stands front.length ⟨taken, .ok (some writing)⟩ (by simp [calls])
        obtain rfl : _ = call := by simpa using found
        rw [if_pos rfl]
        exact stands.answered rfl traffic.buffer reply
      · rw [if_neg own, List.append_nil]
        refine sound.stands index call ?_
        rw [calls, ← found, List.getElem?_append, List.getElem?_append]
        split
        · rfl
        · obtain ⟨more, place⟩ : ∃ more, index - front.length = more + 1 := ⟨index - front.length - 1, by omega⟩
          simp [place]
    · have early : answer ∈ traffic.answers → answer.call < traffic.calls.length := sound.known answer
      rcases List.mem_append.mp among with old | new
      · simpa [length] using early old
      · rw [List.mem_singleton.mp new]
        simp
  | ignores => exact sound

/-- The calls are sound after every series of acts. -/
theorem Sound.reached (acts : List Act) : (after acts).Sound := by
  -- By the acts from the end.
  induction acts using List.reverseRecOn with
  | nil => exact ⟨fun index call found => by simp [after] at found, by simp [after]⟩
  | append_singleton acts act ih =>
    rw [after_append_singleton]
    exact ih.step act

end Traffic

/-- What has been pushed, and the results of the calls of flush, after a series of acts. -/
structure Conserved (acts : List Act) : Prop where
  /-- Whatever is pushed is stored, held by a call that is not over, or pending, and each just once. -/
  kept : ∀ kind, (pushed kind acts : Multiset Json) =
    (Traffic.after acts).stored kind + (Traffic.after acts).inFlight kind +
      (Traffic.after acts).buffer.pending kind
  /-- A call fails exactly if its records could not be written. -/
  failed : ∀ index call cause, (Traffic.after acts).calls[index]? = some call →
    (call.result? = some (.error cause) ↔
      ∃ flush, ⟨index, .records flush, .error cause⟩ ∈ (Traffic.after acts).answers)
  /-- Nothing is stored by a call that fails. -/
  unstored : ∀ index call cause kind, (Traffic.after acts).calls[index]? = some call →
    call.result? = some (.error cause) → storedBy ((Traffic.after acts).answersTo index) kind = []
  /-- The number that a call returns counts the records that it has stored. -/
  counted : ∀ index call count, (Traffic.after acts).calls[index]? = some call →
    call.result? = some (.ok count) →
      (storedBy ((Traffic.after acts).answersTo index) .record).length = count
  /-- While no two calls wait at once, all is in the order of the pushes. -/
  ordered : (∀ count, (Traffic.after (acts.take count)).unfinished ≤ 1) → ∀ kind, pushed kind acts =
    (Traffic.after acts).stored kind ++ (Traffic.after acts).inFlight kind ++
      (Traffic.after acts).buffer.pending kind

/-- A call has returned an error exactly if it has come to one. -/
theorem Flushing.result?_error {call : Flushing} {cause : StoreError} :
    call.result? = some (.error cause) ↔ call.stage = .error cause := by
  unfold result?
  split <;> simp [*]

/-- A call has returned a number exactly if it waits for nothing more; it is the number of its records. -/
theorem Flushing.result?_ok {call : Flushing} {count : Nat} :
    call.result? = some (.ok count) ↔ call.stage = .ok none ∧ call.taken.records.length = count := by
  unfold result?
  split <;> simp [*]

/-- Whatever pushes and calls of flush come between the writes of others, and whatever writes fail, no result is
lost and none is stored twice. -/
theorem flushes_conserve (acts : List Act) : Conserved acts := by
  have sound := Traffic.Sound.reached acts
  exact {
    kept := fun kind => by
      rw [Traffic.kept, Traffic.inOrder, ← Multiset.coe_add, ← Multiset.coe_add]
    failed := fun index call cause found => by
      -- An answer to the call is one of its own answers.
      rw [Flushing.result?_error, (sound.stands index call found).failed cause]
      simp [Traffic.answersTo]
    unstored := fun index call cause kind found ended =>
      (sound.stands index call found).unstored (Flushing.result?_error.mp ended) kind
    counted := fun index call count found ended => by
      obtain ⟨returned, rfl⟩ := Flushing.result?_ok.mp ended
      rw [(sound.stands index call found).stored returned]
    ordered := fun alone kind => Traffic.ordered kind acts alone }

/-- Two calls are under way at once. The later one stores its record, and the earlier one fails. -/
def overlappingFlushes : List Act :=
  [.push .record (.int 1), .push .diagnostic (.int 2), .begin, .push .record (.int 3), .begin,
    .answer 1 (.ok ()), .push .record (.int 4), .answer 0 (.error (.backend "down"))]

/-- The results of the call that failed are pending again, in front of what has come since. -/
theorem flushes_conserve_overlapping :
    Conserved overlappingFlushes ∧
      ((Traffic.after overlappingFlushes).calls.map Flushing.result?) =
        [some (.error (.backend "down")), some (.ok 1)] ∧
      (Traffic.after overlappingFlushes).stored .record = [.int 3] ∧
      (Traffic.after overlappingFlushes).buffer.records = [.int 1, .int 4] ∧
      (Traffic.after overlappingFlushes).buffer.diagnostics = [.int 2] :=
  ⟨flushes_conserve overlappingFlushes, rfl, rfl, rfl, rfl⟩

/-- The number of writes that a flush may still do. -/
def writesLeft : Option Writing → Nat
  | some (.records _) => 2
  | some (.diagnostics _) => 1
  | none => 0

/-- A flush does two writes at most. -/
theorem writesLeft_le (writing : Option Writing) : writesLeft writing ≤ 2 := by
  unfold writesLeft
  split <;> omega

/-- An answer leaves a flush with fewer writes to do. -/
theorem writesLeft_afterWrite (buffer : Buffer) (writing : Writing) (reply : Except StoreError Unit) :
    writesLeft (buffer.afterWrite writing reply).2.toOption.join < writesLeft (some writing) := by
  -- Records are followed by diagnostics at most, and diagnostics by nothing.
  cases writing with
  | records flush =>
    cases reply with
    | ok done =>
      simp only [Buffer.afterWrite, Except.toOption, Flush.secondWrite]
      split <;> simp [writesLeft]
    | error cause => simp [Buffer.afterWrite, Except.toOption, writesLeft]
  | diagnostics flush => cases reply <;> simp [Buffer.afterWrite, Except.toOption, writesLeft]

/-- The writes of a flush with nothing in between are answers to its call, one right after the other. -/
theorem Buffer.writeOut_answers {σ : Type} (write : σ → String → List Json → Except StoreError Unit × σ)
    (target : String) {more : Nat} {next : Option Writing} (enough : writesLeft next ≤ more) {traffic : Traffic}
    {front : List Flushing} {taken : Flush} (calls : traffic.calls = front ++ [⟨taken, .ok next⟩])
    (surroundings : σ) : ∃ (replies : List (Except StoreError Unit)) (stage : Except StoreError (Option Writing)),
      let later := (replies.map (.answer front.length)).foldl Traffic.step traffic
      let whole := writeOut write target more next traffic.buffer surroundings
      later.calls = front ++ [⟨taken, stage⟩] ∧ later.buffer = whole.2.1 ∧
        Flushing.result? ⟨taken, stage⟩ = some (whole.1.map fun _ => taken.records.length) := by
  -- The number of writes left bounds the number of answers.
  induction more generalizing next traffic surroundings with
  | zero =>
    obtain rfl : next = none := by
      rcases next with _ | writing
      · rfl
      · cases writing <;> simp [writesLeft] at enough
    exact ⟨[], _, calls, rfl, rfl⟩
  | succ more ih =>
    cases next with
    | none => exact ⟨[], _, calls, rfl, rfl⟩
    | some writing =>
      generalize asked : writing.request target = request
      generalize answered : write surroundings request.1 request.2 = answer
      have one : traffic.step (.answer front.length answer.1) =
          { buffer := (traffic.buffer.afterWrite writing answer.1).1
            calls := front ++ [⟨taken, (traffic.buffer.afterWrite writing answer.1).2⟩]
            answers := traffic.answers ++ [⟨front.length, writing, answer.1⟩] } := by
        simp [Traffic.step, calls]
      generalize result : traffic.buffer.afterWrite writing answer.1 = after at one
      -- A write that fails is the last one, and otherwise the next one is answered.
      obtain ⟨buffer, _ | next⟩ := after
      · rename_i cause
        refine ⟨[answer.1], .error cause, ?_⟩
        simp [one, writeOut, asked, answered, result, Flushing.result?, Except.map]
      · have fewer : writesLeft next ≤ more := by
          have less := writesLeft_afterWrite traffic.buffer writing answer.1
          rw [result] at less
          simp only [Except.toOption, Option.join_some] at less
          omega
        have calls : (traffic.step (.answer front.length answer.1)).calls = front ++ [⟨taken, .ok next⟩] := by
          rw [one]
        obtain ⟨replies, stage, later⟩ := ih fewer calls answer.2
        refine ⟨answer.1 :: replies, stage, ?_⟩
        simpa [one, writeOut, asked, answered, result] using later

/-- A whole flush with nothing in between is a call with the answers to it right behind. -/
theorem Buffer.flush_answers {σ : Type} (write : σ → String → List Json → Except StoreError Unit × σ)
    (target : String) (traffic : Traffic) (surroundings : σ) :
    ∃ (replies : List (Except StoreError Unit)) (call : Flushing),
      let later := (.begin :: replies.map (.answer traffic.calls.length)).foldl Traffic.step traffic
      let whole := flush write target traffic.buffer surroundings
      later.calls = traffic.calls ++ [call] ∧ later.buffer = whole.2.1 ∧ call.result? = some whole.1 := by
  -- The call is begun, and two answers to it are enough.
  have enough : writesLeft traffic.buffer.begin.1.firstWrite ≤ 2 := writesLeft_le _
  have calls : (traffic.step .begin).calls =
      traffic.calls ++ [⟨traffic.buffer.begin.1, .ok traffic.buffer.begin.1.firstWrite⟩] := rfl
  obtain ⟨replies, stage, later⟩ := writeOut_answers write target enough calls surroundings
  exact ⟨replies, _, later⟩

end Harvest.Crawl
