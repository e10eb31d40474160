import Harvest.Course
import Harvest.Store.Basic

/-! The four calls of a document store, each of which happens at once, and what may go wrong with them. -/

namespace Harvest

/-- A call of the document store. -/
inductive StoreCall where
  | find (collection : String) (filter : Filter) (page : Page)
  | insertMany (collection : String) (documents : List Json)
  | updateMany (collection : String) (filter : Filter) (set : Fields)
  | upsertOne (collection : String) (filter : Filter) (document : Json)
  deriving Repr, Inhabited

namespace StoreCall

/-- What a successful call gives. -/
abbrev Result : StoreCall → Type
  | find .. => List Json
  | insertMany .. => Unit
  | updateMany .. => Nat
  | upsertOne .. => Unit

/-- The name of the kind of call. -/
def method : StoreCall → String
  | find .. => "find"
  | insertMany .. => "insert_many"
  | updateMany .. => "update_many"
  | upsertOne .. => "upsert_one"

end StoreCall

namespace Store

/-- Performs a call. A call that fails changes nothing. -/
def perform (store : Store) : (call : StoreCall) → Except StoreError call.Result × Store
  | .find collection filter page => (.ok (store.find collection filter page), store)
  | .insertMany collection documents =>
    match store.insertMany collection documents with
    | .ok store => (.ok (), store)
    | .error cause => (.error cause, store)
  | .updateMany collection filter set =>
    let (changed, count) := store.updateMany collection filter set
    (.ok count, changed)
  | .upsertOne collection filter document =>
    match store.upsertOne collection filter document with
    | .ok store => (.ok (), store)
    | .error cause => (.error cause, store)

end Store

/-- A call of one kind that is bound to fail: the next one after some that succeed. -/
structure Outage where
  method : String
  /-- The calls that still succeed. -/
  after : Nat
  reason : String
  deriving DecidableEq, Repr, Inhabited

/-- The reason why a call of the given kind fails now, if it does, and the outages still to come. Those of one
kind come one after the other. -/
def Outage.strike (method : String) : List Outage → Option String × List Outage
  | [] => (none, [])
  | outage :: rest =>
    if outage.method = method then
      match outage.after with
      | 0 => (some outage.reason, rest)
      | after + 1 => (none, { outage with after } :: rest)
    else
      let (struck, rest) := strike method rest
      (struck, outage :: rest)

end Harvest
