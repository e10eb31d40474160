import Harvest.Listing

/-! What a fetched page turns out to be: a listing of detail pages, a record, the wrong page, or of no use. -/

namespace Harvest.Crawl

/-- What a fetched page turns out to be. -/
inductive Content where
  | listing (pages : List DetailPage)
  | record (fields : Fields)
  | wrongPage
  | invalid
  deriving Repr, Inhabited

/-- What an evaluation says about a page. -/
def Content.ofEvaluation : Evaluation → Content
  | .record fields => .record fields
  | .wrongPage => .wrongPage
  | .invalid => .invalid

/-- Tells what a page is. A page with an item of the listing description is a listing; every other page is left
to the pattern. -/
def Content.ofPage (pattern : Pattern) (listing : Option Listing) (url body parentValue : String) :
    Content :=
  let pages : Option (List DetailPage) := do
    let listing ← listing
    let url ← Url.parse? url
    listing.discoverIn (Markup.parseDocument body) url.origin
  match pages with
  | some pages => .listing pages
  | none => .ofEvaluation (pattern.extract body parentValue)

end Harvest.Crawl
