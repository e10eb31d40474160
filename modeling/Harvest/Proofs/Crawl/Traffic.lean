import Harvest.Proofs.Crawl.Work
import Mathlib.Algebra.Order.Group.Multiset
import Mathlib.Data.List.Induction

/-! Between a buffer and its sink nothing is lost: whatever has been pushed is stored, held by a flush that is
not over, or still in the buffer. -/

namespace Harvest.Crawl

/-- What a buffer holds: extracted records, and pages that do not have the expected form. -/
inductive Kind where
  | record
  | diagnostic
  deriving DecidableEq, Repr

/-- What waits in the buffer. -/
def Buffer.pending (buffer : Buffer) : Kind → List Json
  | .record => buffer.records
  | .diagnostic => buffer.diagnostics

/-- Adds a result, where diagnostics are kept. -/
def Buffer.push (buffer : Buffer) : Kind → Json → Buffer
  | .record, result => buffer.pushRecord result
  | .diagnostic, result => buffer.pushDiagnostic true result

/-- What a flush has taken out of the buffer. -/
def Flush.contents (flush : Flush) : Kind → List Json
  | .record => flush.records
  | .diagnostic => flush.diagnostics

/-- The results that a write brings. -/
def Writing.kind : Writing → Kind
  | records _ => .record
  | diagnostics _ => .diagnostic

/-- What a flush that waits for a write still holds. -/
def Writing.held : Writing → Kind → List Json
  | records flush, kind => flush.contents kind
  | diagnostics flush, .diagnostic => flush.diagnostics
  | diagnostics _, .record => []

/-- What the sink stores when it answers a write: all of it, or nothing. -/
def Writing.stored (writing : Writing) (reply : Except StoreError Unit) (kind : Kind) : List Json :=
  match reply with
  | .ok () => if writing.kind = kind then writing.held kind else []
  | .error _ => []

/-- What a flush holds that waits for a write or has returned. -/
def heldBy (writing : Option Writing) (kind : Kind) : List Json :=
  writing.elim [] (·.held kind)

namespace Buffer

/-- A new result comes after those that wait. -/
theorem pending_push (buffer : Buffer) (kind : Kind) (result : Json) (other : Kind) :
    (buffer.push kind result).pending other =
      buffer.pending other ++ if kind = other then [result] else [] := by
  -- The two kinds wait apart from each other.
  cases kind <;> cases other <;> simp [push, pushRecord, pushDiagnostic, pending]

/-- A flush takes out all that waits. -/
theorem contents_begin (buffer : Buffer) (kind : Kind) : buffer.begin.1.contents kind = buffer.pending kind := by
  cases kind <;> rfl

/-- Behind a flush that begins nothing waits. -/
theorem pending_begin (buffer : Buffer) (kind : Kind) : buffer.begin.2.pending kind = [] := by
  cases kind <;> rfl

end Buffer

/-- Before its first write a flush holds all that it has taken out. -/
theorem heldBy_firstWrite (flush : Flush) (kind : Kind) : heldBy flush.firstWrite kind = flush.contents kind := by
  -- It passes over records or diagnostics only if it has none.
  by_cases records : flush.records = [] <;> by_cases diagnostics : flush.diagnostics = [] <;>
    cases kind <;> simp [Flush.firstWrite, records, diagnostics, heldBy, Writing.held, Flush.contents]

/-- Once its records are stored a flush holds the diagnostics. -/
theorem heldBy_secondWrite (flush : Flush) (kind : Kind) :
    heldBy flush.secondWrite kind = (Writing.diagnostics flush).held kind := by
  by_cases diagnostics : flush.diagnostics = [] <;>
    cases kind <;> simp [Flush.secondWrite, diagnostics, heldBy, Writing.held]

/-- The documents of a write are what the sink stores if it takes them. -/
theorem Writing.request_stored (target : String) (writing : Writing) :
    (writing.request target).2 = writing.stored (.ok ()) writing.kind := by
  cases writing <;> rfl

/-- An answer of the sink loses nothing and keeps the order: each result is stored, still held by the flush, or
back in the buffer in front. -/
theorem afterWrite_keeps (buffer : Buffer) (writing : Writing) (reply : Except StoreError Unit) (kind : Kind) :
    writing.stored reply kind ++ heldBy (buffer.afterWrite writing reply).2.toOption.join kind ++
        (buffer.afterWrite writing reply).1.pending kind = writing.held kind ++ buffer.pending kind := by
  -- A flush that stores its records goes on with its diagnostics, and what is not stored is put back.
  cases writing with
  | records flush =>
    cases reply with
    | ok done =>
      have rest := heldBy_secondWrite flush kind
      cases kind <;>
        simpa [Writing.stored, Writing.kind, Writing.held, Buffer.afterWrite, Except.toOption,
          Flush.contents] using rest
    | error cause =>
      cases kind <;> simp [Writing.stored, Buffer.afterWrite, Buffer.restore, heldBy, Writing.held,
        Except.toOption, Flush.contents, Buffer.pending]
  | diagnostics flush =>
    cases reply <;> cases kind <;>
      simp [Writing.stored, Writing.kind, Buffer.afterWrite, Buffer.restore, heldBy, Writing.held,
        Except.toOption, Buffer.pending]

/-- A call of flush: what it has taken out, and the write that it waits for or how it has ended. -/
structure Flushing where
  taken : Flush
  stage : Except StoreError (Option Writing)

/-- The write that a call waits for. -/
def Flushing.writing? (call : Flushing) : Option Writing :=
  call.stage.toOption.join

/-- What a call has returned, if it is over: the number of its records, or why these were not written. -/
def Flushing.result? (call : Flushing) : Option (Except StoreError Nat) :=
  match call.stage with
  | .ok (some _) => none
  | .ok none => some (.ok call.taken.records.length)
  | .error cause => some (.error cause)

/-- An answer of the sink to a call, told by the number of the call. -/
structure Answer where
  call : Nat
  writing : Writing
  reply : Except StoreError Unit

/-- What the sink stores with some of its answers. -/
def storedBy (answers : List Answer) (kind : Kind) : List Json :=
  answers.flatMap fun answer => answer.writing.stored answer.reply kind

/-- What some calls hold. -/
def heldIn (calls : List Flushing) (kind : Kind) : List Json :=
  calls.flatMap fun call => heldBy call.writing? kind

/-- A buffer with the calls of flush so far and the answers that the sink has given them. -/
structure Traffic where
  buffer : Buffer := {}
  calls : List Flushing := []
  answers : List Answer := []

/-- What happens to a buffer: a result is pushed, a flush is called, or the sink answers a call. -/
inductive Act where
  | push (kind : Kind) (result : Json)
  | begin
  | answer (call : Nat) (reply : Except StoreError Unit)

namespace Traffic

/-- One act; an answer to a call that waits for none changes nothing. -/
def step (traffic : Traffic) : Act → Traffic
  | .push kind result => { traffic with buffer := traffic.buffer.push kind result }
  | .begin =>
    let (taken, buffer) := traffic.buffer.begin
    { traffic with buffer, calls := traffic.calls ++ [⟨taken, .ok taken.firstWrite⟩] }
  | .answer index reply => match traffic.calls[index]? with
    | some ⟨taken, .ok (some writing)⟩ =>
      let (buffer, stage) := traffic.buffer.afterWrite writing reply
      { buffer, calls := traffic.calls.set index ⟨taken, stage⟩,
        answers := traffic.answers ++ [⟨index, writing, reply⟩] }
    | _ => traffic

/-- The traffic after a series of acts. -/
def after (acts : List Act) : Traffic :=
  acts.foldl step {}

/-- What the sink has stored. -/
def stored (traffic : Traffic) (kind : Kind) : List Json :=
  storedBy traffic.answers kind

/-- What the calls hold that are not over. -/
def inFlight (traffic : Traffic) (kind : Kind) : List Json :=
  heldIn traffic.calls kind

/-- The number of calls that are not over. -/
def unfinished (traffic : Traffic) : Nat :=
  traffic.calls.countP (·.writing?.isSome)

end Traffic

/-- The result that an act pushes. -/
def Act.pushed (kind : Kind) : Act → Option Json
  | push other result => if other = kind then some result else none
  | _ => none

/-- What has been pushed, in order. -/
def pushed (kind : Kind) (acts : List Act) : List Json :=
  acts.filterMap (Act.pushed kind)

/-- The pushes of a longer series of acts. -/
theorem pushed_append_singleton (kind : Kind) (acts : List Act) (act : Act) :
    pushed kind (acts ++ [act]) = pushed kind acts ++ (act.pushed kind).toList := by
  cases own : act.pushed kind <;> simp [pushed, own]

namespace Traffic

/-- What an act changes: nothing, the results that wait, the calls, or one of the calls. -/
inductive Step (before : Traffic) : Act → Traffic → Prop
  | pushes (kind : Kind) (result : Json) :
      Step before (.push kind result) { before with buffer := before.buffer.push kind result }
  | begins : Step before .begin
      { before with buffer := before.buffer.begin.2
                    calls := before.calls ++ [⟨before.buffer.begin.1, .ok before.buffer.begin.1.firstWrite⟩] }
  | answers {front back : List Flushing} {taken : Flush} {writing : Writing} (reply : Except StoreError Unit)
      (calls : before.calls = front ++ ⟨taken, .ok (some writing)⟩ :: back) :
      Step before (.answer front.length reply)
        { buffer := (before.buffer.afterWrite writing reply).1
          calls := front ++ ⟨taken, (before.buffer.afterWrite writing reply).2⟩ :: back
          answers := before.answers ++ [⟨front.length, writing, reply⟩] }
  | ignores (index : Nat) (reply : Except StoreError Unit) : Step before (.answer index reply) before

/-- Every act is one of these. -/
theorem step_cases (traffic : Traffic) (act : Act) : Step traffic act (traffic.step act) := by
  cases act with
  | push kind result => exact .pushes kind result
  | begin => exact .begins
  | answer index reply =>
    rw [step]
    split
    · rename_i taken writing found
      -- The call that is answered stands between those before it and those after it.
      obtain ⟨inside, same⟩ := List.getElem?_eq_some_iff.mp found
      have place : index = (traffic.calls.take index).length := by
        rw [List.length_take, Nat.min_eq_left inside.le]
      have calls : traffic.calls =
          traffic.calls.take index ++ ⟨taken, .ok (some writing)⟩ :: traffic.calls.drop (index + 1) := by
        rw [← same, ← List.drop_eq_getElem_cons inside, List.take_append_drop]
      have answers := Step.answers reply calls
      rw [← place] at answers
      simpa only [List.set_eq_take_append_cons_drop, if_pos inside] using answers
    · exact .ignores index reply

/-- A longer series of acts goes one step further. -/
theorem after_append_singleton (acts : List Act) (act : Act) :
    after (acts ++ [act]) = (after acts).step act := by
  simp [after]

/-- What the traffic holds of the results of a kind: they are stored, held by a call that is not over, or
pending. -/
def inOrder (traffic : Traffic) (kind : Kind) : List Json :=
  traffic.stored kind ++ traffic.inFlight kind ++ traffic.buffer.pending kind

/-- A push leaves the order as it is, with the new result at the end. -/
theorem inOrder_push (traffic : Traffic) (other : Kind) (result : Json) (kind : Kind) :
    (traffic.step (.push other result)).inOrder kind =
      traffic.inOrder kind ++ (Act.pushed kind (.push other result)).toList := by
  by_cases same : other = kind <;>
    simp [step, inOrder, stored, inFlight, Buffer.pending_push, Act.pushed, same]

/-- A call of flush leaves the order as it is: what was pending is now held by the last call. -/
theorem inOrder_begin (traffic : Traffic) (kind : Kind) :
    (traffic.step .begin).inOrder kind = traffic.inOrder kind := by
  simp [step, inOrder, stored, inFlight, heldIn, Flushing.writing?, Except.toOption, heldBy_firstWrite,
    Buffer.contents_begin, Buffer.pending_begin]

/-- What is stored, held and pending around a call that stands between others. -/
theorem inOrder_of_calls {traffic : Traffic} {front back : List Flushing} {call : Flushing}
    (calls : traffic.calls = front ++ call :: back) (kind : Kind) :
    traffic.inOrder kind = traffic.stored kind ++ (heldIn front kind ++ (heldBy call.writing? kind ++
      heldIn back kind)) ++ traffic.buffer.pending kind := by
  simp [inOrder, inFlight, heldIn, calls]

/-- What is stored after one more answer. -/
theorem storedBy_append_singleton (answers : List Answer) (answer : Answer) (kind : Kind) :
    storedBy (answers ++ [answer]) kind = storedBy answers kind ++ answer.writing.stored answer.reply kind := by
  simp [storedBy]

/-- An answer of the sink keeps all results. -/
theorem inOrder_answer (traffic : Traffic) (index : Nat) (reply : Except StoreError Unit) (kind : Kind) :
    ((traffic.step (.answer index reply)).inOrder kind : Multiset Json) = traffic.inOrder kind := by
  generalize after_step : traffic.step (.answer index reply) = later
  have step : traffic.Step (.answer index reply) later := after_step ▸ traffic.step_cases _
  cases step with
  | @answers front back taken writing reply calls =>
    have keeps := congrArg (fun results : List Json => (results : Multiset Json))
      (afterWrite_keeps traffic.buffer writing reply kind)
    rw [@inOrder_of_calls _ front back ⟨taken, (traffic.buffer.afterWrite writing reply).2⟩ rfl,
      inOrder_of_calls calls, stored, stored, storedBy_append_singleton]
    -- The answer moves what this call has held, and nothing of the calls around it.
    simp only [← Multiset.coe_add, Flushing.writing?] at keeps ⊢
    calc
      _ = (storedBy traffic.answers kind + (heldIn front kind + heldIn back kind) : Multiset Json) +
          (writing.stored reply kind + heldBy (traffic.buffer.afterWrite writing reply).2.toOption.join kind +
            (traffic.buffer.afterWrite writing reply).1.pending kind) := by ac_rfl
      _ = (storedBy traffic.answers kind + (heldIn front kind + heldIn back kind) : Multiset Json) +
          (writing.held kind + traffic.buffer.pending kind) := by rw [keeps]
      _ = (storedBy traffic.answers kind + (heldIn front kind + (writing.held kind + heldIn back kind)) +
          traffic.buffer.pending kind : Multiset Json) := by ac_rfl
  | ignores => rfl

/-- Where no call waits for a write, none holds anything. -/
theorem heldIn_of_returned {calls : List Flushing} (returned : calls.countP (·.writing?.isSome) = 0)
    (kind : Kind) : heldIn calls kind = [] := by
  -- A call that has returned holds no records of either kind.
  refine List.flatMap_eq_nil_iff.mpr fun call among => ?_
  have settled : call.writing? = none := by simpa using List.countP_eq_zero.mp returned call among
  rw [settled]
  rfl

/-- An answer of the sink to the only call that waits keeps the order. -/
theorem inOrder_answer_alone {traffic : Traffic} (alone : traffic.unfinished ≤ 1) (index : Nat)
    (reply : Except StoreError Unit) (kind : Kind) :
    (traffic.step (.answer index reply)).inOrder kind = traffic.inOrder kind := by
  generalize after_step : traffic.step (.answer index reply) = later
  have step : traffic.Step (.answer index reply) later := after_step ▸ traffic.step_cases _
  cases step with
  | @answers front back taken writing reply calls =>
    have keeps := afterWrite_keeps traffic.buffer writing reply kind
    have counted : front.countP (·.writing?.isSome) + (back.countP (·.writing?.isSome) + 1) ≤ 1 := by
      simpa [unfinished, calls, Flushing.writing?, Except.toOption] using alone
    rw [@inOrder_of_calls _ front back ⟨taken, (traffic.buffer.afterWrite writing reply).2⟩ rfl,
      inOrder_of_calls calls, stored, stored, storedBy_append_singleton,
      @heldIn_of_returned front (by omega), @heldIn_of_returned back (by omega)]
    -- No call around this one holds anything that could come before or after it.
    simpa [Flushing.writing?, heldBy, Except.toOption] using keeps
  | ignores => rfl

/-- Every act keeps all results, and adds the one that it pushes. -/
theorem inOrder_step (traffic : Traffic) (act : Act) (kind : Kind) :
    ((traffic.step act).inOrder kind : Multiset Json) =
      traffic.inOrder kind + ((act.pushed kind).toList : Multiset Json) := by
  -- By what the act does, as it keeps the order in each case.
  cases act with
  | push other result => rw [inOrder_push, ← Multiset.coe_add]
  | begin => simp [inOrder_begin, Act.pushed]
  | answer index reply => simp only [inOrder_answer, Act.pushed, Option.toList_none, Multiset.coe_nil, add_zero]

/-- While no two calls wait at once, every act keeps the order, and what it pushes comes last. -/
theorem inOrder_step_alone {traffic : Traffic} (alone : traffic.unfinished ≤ 1) (act : Act) (kind : Kind) :
    (traffic.step act).inOrder kind = traffic.inOrder kind ++ (act.pushed kind).toList := by
  -- By the act: only answers take records away, and with one call waiting they are the first.
  cases act with
  | push other result => exact traffic.inOrder_push other result kind
  | begin => simp [inOrder_begin, Act.pushed]
  | answer index reply => simp [inOrder_answer_alone alone, Act.pushed]

/-- All that has been pushed is in the traffic. -/
theorem kept (kind : Kind) (acts : List Act) :
    (pushed kind acts : Multiset Json) = (after acts).inOrder kind := by
  -- By the acts from the end.
  induction acts using List.reverseRecOn with
  | nil => cases kind <;> rfl
  | append_singleton acts act ih =>
    rw [after_append_singleton, inOrder_step, pushed_append_singleton, ← Multiset.coe_add, ih]

/-- While no two calls wait at once, all that has been pushed is in the traffic in its order. -/
theorem ordered (kind : Kind) (acts : List Act)
    (alone : ∀ count, (after (acts.take count)).unfinished ≤ 1) :
    pushed kind acts = (after acts).inOrder kind := by
  induction acts using List.reverseRecOn with
  | nil => cases kind <;> rfl
  | append_singleton acts act ih =>
    -- Before the last act no two calls have waited at once either.
    have before : ∀ count, (after (acts.take count)).unfinished ≤ 1 := fun count => by
      have early := alone (min count acts.length)
      rwa [List.take_append_of_le_length (Nat.min_le_right ..), ← List.take_eq_take_min] at early
    have last : (after acts).unfinished ≤ 1 := by
      simpa using before acts.length
    rw [after_append_singleton, inOrder_step_alone last, pushed_append_singleton, ih before]

end Traffic

end Harvest.Crawl
