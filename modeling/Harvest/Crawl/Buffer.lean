import Harvest.Store.Call

/-! Results that wait to be stored. A flush takes everything out, writes the records and then the
diagnostics, and puts back in front what could not be written. -/

namespace Harvest.Crawl

/-- The collection for pages that do not have the expected form. -/
def layoutErrors : String := "PageLayoutError"

/-- Results that wait to be stored. -/
structure Buffer where
  records : List Json := []
  diagnostics : List Json := []
  deriving Repr, Inhabited

/-- What a flush has taken out and not yet written. -/
structure Flush where
  records : List Json
  diagnostics : List Json
  deriving Repr, Inhabited

/-- The write that a flush waits for. -/
inductive Writing where
  | records (flush : Flush)
  | diagnostics (flush : Flush)
  deriving Repr, Inhabited

/-- The write that a flush begins with, if it has anything to write. -/
def Flush.firstWrite (flush : Flush) : Option Writing :=
  if !flush.records.isEmpty then some (.records flush)
  else if !flush.diagnostics.isEmpty then some (.diagnostics flush)
  else none

/-- The write after the records of a flush, if there is one. -/
def Flush.secondWrite (flush : Flush) : Option Writing :=
  if flush.diagnostics.isEmpty then none else some (.diagnostics flush)

/-- The collection and the documents of a write; `target` is the collection for records. -/
def Writing.request (target : String) : Writing → String × List Json
  | records flush => (target, flush.records)
  | diagnostics flush => (layoutErrors, flush.diagnostics)

namespace Buffer

/-- Adds a record. -/
def pushRecord (buffer : Buffer) (record : Json) : Buffer :=
  { buffer with records := buffer.records ++ [record] }

/-- Adds a diagnostic if these are kept. -/
def pushDiagnostic (keep : Bool) (buffer : Buffer) (diagnostic : Json) : Buffer :=
  if keep then { buffer with diagnostics := buffer.diagnostics ++ [diagnostic] } else buffer

/-- Begins a flush: everything is taken out. -/
def begin (buffer : Buffer) : Flush × Buffer :=
  (⟨buffer.records, buffer.diagnostics⟩, {})

/-- Puts back what could not be written, in front of what has come since. -/
def restore (buffer : Buffer) (records diagnostics : List Json) : Buffer :=
  ⟨records ++ buffer.records, diagnostics ++ buffer.diagnostics⟩

/-- What becomes of the buffer and of a flush when the sink answers. Only records that could not be written
are a failure. -/
def afterWrite (buffer : Buffer) (writing : Writing) (reply : Except StoreError Unit) :
    Buffer × Except StoreError (Option Writing) :=
  match writing, reply with
  | .records flush, .ok () => (buffer, .ok flush.secondWrite)
  | .records flush, .error cause => (buffer.restore flush.records flush.diagnostics, .error cause)
  | .diagnostics _, .ok () => (buffer, .ok none)
  | .diagnostics flush, .error _ => (buffer.restore [] flush.diagnostics, .ok none)

/-- Does the writes of a flush, one after the other; there are two at most. -/
def writeOut (write : σ → String → List Json → Except StoreError Unit × σ) (target : String) :
    Nat → Option Writing → Buffer → σ → Except StoreError Unit × Buffer × σ
  | 0, _, buffer, surroundings => (.ok (), buffer, surroundings)
  | _, none, buffer, surroundings => (.ok (), buffer, surroundings)
  | more + 1, some writing, buffer, surroundings =>
    let (collection, documents) := writing.request target
    let (reply, surroundings) := write surroundings collection documents
    match buffer.afterWrite writing reply with
    | (buffer, .ok next) => writeOut write target more next buffer surroundings
    | (buffer, .error cause) => (.error cause, buffer, surroundings)

/-- A whole flush with nothing in between; the number says how many records were written. -/
def flush (write : σ → String → List Json → Except StoreError Unit × σ) (target : String)
    (buffer : Buffer) (surroundings : σ) : Except StoreError Nat × Buffer × σ :=
  let (taken, rest) := buffer.begin
  let (result, buffer, surroundings) := writeOut write target 2 taken.firstWrite rest surroundings
  (result.map fun _ => taken.records.length, buffer, surroundings)

end Buffer

/-- The document of a record: the extracted fields, and the identifier, address and time in front of fields
of the same names. -/
def recordDocument (id url : String) (now : Int) (fields : Fields) : Json :=
  .object (((fields.insert "id" (.string id)).insert "link" (.string url)).insert "lastUpdate" (.int now))

/-- The document of a page that does not have the expected form. -/
def diagnosticDocument (id url cookie html : String) (now : Int) : Json :=
  .object [("id", .string id), ("link", .string url), ("cookie", .string cookie), ("html", .string html),
    ("lastUpdate", .int now)]

end Harvest.Crawl
