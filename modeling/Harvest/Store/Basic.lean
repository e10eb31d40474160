import Harvest.Json.Printer
import Harvest.Store.Error
import Harvest.Store.Filter

/-! A store of named collections, each a list of documents in order of insertion. -/

namespace Harvest

/-- Named collections of documents. A collection that was never written is empty. -/
structure Store where
  collections : List (String × List Fields) := []
  deriving Repr, Inhabited

namespace Store

/-- The documents of a collection in order of insertion. -/
def documents (store : Store) (collection : String) : List Fields :=
  (store.collections.lookup collection).getD []

/-- Replaces the entry of a name, or adds one at the end. -/
def setEntry (name : String) (documents : List Fields) :
    List (String × List Fields) → List (String × List Fields)
  | [] => [(name, documents)]
  | (other, old) :: rest =>
    if other = name then (name, documents) :: rest else (other, old) :: setEntry name documents rest

/-- The store with the documents of one collection replaced. -/
def withDocuments (store : Store) (collection : String) (documents : List Fields) : Store :=
  ⟨setEntry collection documents store.collections⟩

/-- Does a stored document satisfy a filter? -/
def chosen (filter : Filter) (document : Fields) : Bool :=
  filter.accepts (.object document)

/-- The members of a value that is to be stored; only objects are documents. -/
def asDocument : Json → Except StoreError Fields
  | .object members => .ok members
  | other => .error (.invalidInput ("documents must be JSON objects, got " ++ other.render))

/-- All of the values as documents, or the cause that keeps the first wrong one out. -/
def asDocuments : List Json → Except StoreError (List Fields)
  | [] => .ok []
  | value :: rest => do
    let document ← asDocument value
    let others ← asDocuments rest
    return document :: others

/-- The chosen documents inside a window, in order of insertion. -/
def find (store : Store) (collection : String) (filter : Filter) (page : Page) : List Json :=
  (page.window ((store.documents collection).filter (chosen filter))).map .object

/-- Appends all of the values to a collection, or changes nothing. -/
def insertMany (store : Store) (collection : String) (values : List Json) : Except StoreError Store :=
  if values.isEmpty then .ok store
  else do
    let added ← asDocuments values
    return store.withDocuments collection (store.documents collection ++ added)

/-- Sets the given fields of every chosen document; the number says how many these were. -/
def updateMany (store : Store) (collection : String) (filter : Filter) (set : Fields) : Store × Nat :=
  let documents := store.documents collection
  let changed := documents.map fun document =>
    if chosen filter document then document.extend set else document
  (store.withDocuments collection changed, (documents.filter (chosen filter)).length)

/-- The fields of a document that is inserted for a filter: the filter's equalities supply what is missing. -/
def completed (filter : Filter) (fields : Fields) : Fields :=
  filter.foldl (fun result (name, condition) =>
    match condition with
    | .eq value => if (result.get? name).isSome then result else result.insert name value
    | _ => result) fields

/-- Extends the first chosen document, or appends a new one. -/
def upsertInto (filter : Filter) (fields : Fields) : List Fields → List Fields
  | [] => [completed filter fields]
  | document :: rest =>
    if chosen filter document then document.extend fields :: rest
    else document :: upsertInto filter fields rest

/-- Sets the fields of the first chosen document, inserting one when there is none. -/
def upsertOne (store : Store) (collection : String) (filter : Filter) (value : Json) :
    Except StoreError Store := do
  let fields ← asDocument value
  return store.withDocuments collection (upsertInto filter fields (store.documents collection))

end Store

end Harvest
