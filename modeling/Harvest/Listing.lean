import Harvest.Pattern.Extraction
import Harvest.Pattern.Reader
import Harvest.Url.Reader

/-! Listing pages name detail pages: each item of a listing gives an address and a value to carry along. -/

namespace Harvest

/-- How to find detail pages on a listing page. -/
structure Listing where
  /-- The items of the listing. -/
  item : Selector
  /-- Inside an item, the element whose text is carried to the detail page. -/
  parentValue : Selector
  /-- Inside an item, the element whose `href` is the address. -/
  address : Selector
  /-- Cut addresses at the first question mark? -/
  dropQuery : Bool
  /-- Addresses that hold this text are left out. -/
  blocked : Option String
  deriving Inhabited

/-- A detail page found on a listing page. -/
structure DetailPage where
  url : String
  parentValue : String
  deriving DecidableEq, Repr, Inhabited

namespace Listing

/-- Reads a listing description from its fragments; fewer than three describe none. -/
def parse? : List String → Except Pattern.Error (Option Listing)
  | item :: parentValue :: address :: options => do
    let item ← Pattern.compile (Text.trim item)
    let parentValue ← Pattern.compile (Text.trim parentValue)
    let address ← Pattern.compile (Text.trim address)
    let dropQuery := options.head?.any fun option => Text.trim option = "removeQueryString"
    let blocked := (options[1]?.map Text.trim).filter (· ≠ "")
    return some { item, parentValue, address, dropQuery, blocked }
  | _ => return none

/-- The absolute form of an address on a page of the given origin. -/
def absolute (origin address : String) : String :=
  if Text.sameLetters (address.toList.take 4) "http".toList then address
  else if address.toList.head? = some '/' then origin ++ address
  else origin ++ "/" ++ address

/-- The address of an item, unless it has none or a blocked one. -/
def addressOf? (listing : Listing) (view : View Element) (item : Element) : Option String := do
  let element ← (view.select item listing.address).head?
  let written := Text.trim (← view.attribute? element "href")
  if written = "" then none
  else
    let cut := match listing.dropQuery, Text.cutAt? '?' written.toList with
      | true, some (before, _) => String.ofList before
      | _, _ => written
    if listing.blocked.any (Text.contains · cut) then none else some cut

/-- The text that an item carries to its detail page. -/
def parentValueOf (listing : Listing) (view : View Element) (item : Element) : String :=
  match (view.select item listing.parentValue).head? with
  | some element => Text.trim (view.text element)
  | none => ""

/-- The detail page of an item on a page of the given origin. -/
def detailOf? (listing : Listing) (view : View Element) (origin : String) (item : Element) :
    Option DetailPage :=
  (listing.addressOf? view item).map fun address =>
    { url := absolute origin address, parentValue := listing.parentValueOf view item }

/-- The detail pages of a page, in the order of its items. A page without items is no listing page. -/
def discover (listing : Listing) (view : View Element) (items : List Element) (origin : String) :
    Option (List DetailPage) :=
  if items.isEmpty then none else some (items.filterMap (listing.detailOf? view origin))

/-- The detail pages that a markup text of the given origin names. -/
def discoverIn (listing : Listing) (nodes : List Markup.Node) (origin : String) : Option (List DetailPage) :=
  listing.discover documentView (listing.item.selectAll nodes) origin

end Listing

end Harvest
