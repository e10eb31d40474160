import Harvest.Lease.Operation

/-! Where a crawl puts its results: collections of a document store. -/

namespace Harvest.Crawl

/-- Appends results to a collection, which must have a name. -/
def storeResults (collection : String) (documents : List Json) : Lease.Operation Unit :=
  if collection = "" then throw (.invalidInput "result collection name is empty")
  else Lease.call (.insertMany collection documents)

end Harvest.Crawl
