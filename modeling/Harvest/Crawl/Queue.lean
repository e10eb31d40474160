import Harvest.Lease.Link
import Harvest.Listing

/-! The addresses that a crawl has yet to fetch, what it knows about each, and how often it has tried. -/

namespace Harvest.Crawl

/-- How deep a crawl follows pages: leased links are at depth one. -/
def maxDepth : Nat := 2

/-- An address to fetch. -/
structure Target where
  url : String
  depth : Nat
  deriving DecidableEq, Repr, Inhabited

/-- Values filed under texts; the last value filed under a text counts. -/
abbrev Table (α : Type) := List (String × α)

namespace Table

/-- Files a value under a text. -/
def put (key : String) (value : α) : Table α → Table α
  | [] => [(key, value)]
  | (other, old) :: rest => if other = key then (key, value) :: rest else (other, old) :: put key value rest

/-- Removes what is filed under a text. -/
def drop (key : String) (table : Table α) : Table α :=
  table.filter fun entry => entry.1 ≠ key

end Table

/-- The work that lies before a crawl. -/
structure Queue where
  /-- The targets of the next cycle, in order. -/
  pending : List Target := []
  /-- The leased link of an address. -/
  linkIds : Table String := []
  /-- The value that a listing page gave for a detail page. -/
  parentValues : Table String := []
  /-- How often a visit to an address has failed. -/
  attempts : Table Nat := []
  /-- The links whose page is dealt with, in order. -/
  processed : List String := []
  /-- The links whose page was given up. -/
  givenUp : List String := []
  /-- How often an address may be put back. -/
  giveUpAfter : Nat
  deriving DecidableEq, Repr, Inhabited

namespace Queue

/-- Adds leased links. -/
def seed (queue : Queue) (links : List Link) : Queue :=
  { queue with
    linkIds := links.foldl (fun table link => table.put link.url link.id) queue.linkIds
    pending := queue.pending ++ links.map fun link => ⟨link.url, 1⟩ }

/-- Adds a detail page found on a page of the given depth, unless that one is deep enough. -/
def discover (queue : Queue) (page : DetailPage) (depth : Nat) : Bool × Queue :=
  if maxDepth < depth + 1 then (false, queue)
  else (true, { queue with
    parentValues := queue.parentValues.put page.url page.parentValue
    pending := queue.pending ++ [⟨page.url, depth + 1⟩] })

/-- How often a visit to an address has failed. -/
def attemptsAt (queue : Queue) (url : String) : Nat :=
  (queue.attempts.lookup url).getD 0

/-- Adds a link to those given up, once. -/
def addGivenUp (id : String) (ids : List String) : List String :=
  if ids.contains id then ids else ids ++ [id]

/-- Counts the address of a target once more and puts the target back, unless that was done too often; then it is
given up. -/
def retried (queue : Queue) (target : Target) : Bool × Queue :=
  let attempts := queue.attemptsAt target.url + 1
  let counted := { queue with attempts := queue.attempts.put target.url attempts }
  if queue.giveUpAfter < attempts then
    (false, { counted with
      parentValues := queue.parentValues.drop target.url
      givenUp := match queue.linkIds.lookup target.url with
        | some id => addGivenUp id queue.givenUp
        | none => queue.givenUp })
  else (true, { counted with pending := queue.pending ++ [target] })

/-- Puts a target back or gives it up. The count of its address is a 32-bit word, and past the last one there is
nothing that it could become. -/
def requeue (queue : Queue) (target : Target) : Option (Bool × Queue) :=
  if queue.attemptsAt target.url + 1 < Word.halfBound then some (queue.retried target) else none

/-- Marks the link of an address as dealt with. -/
def markProcessed (queue : Queue) (url : String) : Queue :=
  match queue.linkIds.lookup url with
  | some id =>
    if queue.processed.contains id then queue else { queue with processed := queue.processed ++ [id] }
  | none => queue

/-- The value that a listing page gave for an address. -/
def parentValue (queue : Queue) (url : String) : String :=
  (queue.parentValues.lookup url).getD ""

/-- Forgets the value that a listing page gave for an address. -/
def dropParentValue (queue : Queue) (url : String) : Queue :=
  { queue with parentValues := queue.parentValues.drop url }

/-- Takes all targets out. -/
def drain (queue : Queue) : List Target × Queue :=
  (queue.pending, { queue with pending := [] })

/-- The links to report as completed: dealt with and not given up. -/
def completed (queue : Queue) : List String :=
  queue.processed.filter fun id => !queue.givenUp.contains id

/-- The pause before the next cycle in seconds, when `drawn` seconds come up between zero and the number of
targets. -/
def cooldown (low high drawn : Nat) : Nat :=
  min (max drawn low) (max high low)

end Queue

end Harvest.Crawl
