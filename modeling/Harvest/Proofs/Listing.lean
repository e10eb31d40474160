import Harvest.Proofs.Text.Splitting
import Harvest.Proofs.Url.Origin
import Harvest.Listing

/-! Which detail pages a listing page names: one for each item with an address that is of use, in the order of the
items. The addresses are made absolute, except for those that begin with `http` and are not. -/

namespace Harvest

namespace Text

/-- The text begins with another one, whatever the case of the letters A to Z. -/
def Begins (head text : String) : Prop :=
  ∃ rest, lower text = lower head ++ rest

/-- A beginning is told by its length. -/
theorem begins_iff {head text : String} :
    Begins head text ↔ sameLetters (text.toList.take head.length) head.toList = true := by
  rw [sameLetters, beq_iff_eq, List.map_take]
  constructor
  · rintro ⟨rest, same⟩
    -- The letters of the beginning are as many as its own.
    have letters := congrArg String.toList same
    rw [lower, lower, String.toList_append, String.toList_ofList, String.toList_ofList] at letters
    rw [letters]
    exact List.take_left' (by rw [List.length_map, String.length_toList])
  · intro same
    refine ⟨String.ofList ((text.toList.map Char.toLower).drop head.length), ?_⟩
    rw [lower, lower, ← String.ofList_append, ← same, List.take_append_drop]

instance (head text : String) : Decidable (Begins head text) :=
  decidable_of_iff _ begins_iff.symm

/-- Letters are made small one by one. -/
theorem lower_append (text rest : String) : lower (text ++ rest) = lower text ++ lower rest := by
  rw [lower, String.toList_append, List.map_append, String.ofList_append, ← lower, ← lower]

/-- A text begins with what it is put together from. -/
theorem begins_append (head rest : String) : Begins head (head ++ rest) :=
  ⟨lower rest, lower_append head rest⟩

end Text

/-- The address begins with the scheme of the web and two slashes. -/
def IsAbsolute (address : String) : Prop :=
  Text.Begins "http://" address ∨ Text.Begins "https://" address

instance (address : String) : Decidable (IsAbsolute address) :=
  inferInstanceAs (Decidable (_ ∨ _))

/-- The address begins with `http`, but is not absolute. -/
def IsHalfAbsolute (address : String) : Prop :=
  Text.Begins "http" address ∧ ¬IsAbsolute address

namespace Listing

variable {Element : Type}

/-- The text is what stands at an item as an address: the `href` of the first element for it. -/
def Written (listing : Listing) (view : View Element) (item : Element) (text : String) : Prop :=
  ∃ element rest, view.select item listing.address = element :: rest ∧ view.attribute? element "href" = some text

/-- What is kept of a written address: not the white space around it, nor the query if it is to be dropped. -/
def kept (listing : Listing) (text : String) : String :=
  if listing.dropQuery then Text.upTo '?' (Text.trim text) else Text.trim text

/-- The locator that an address becomes on a page of the given origin. -/
inductive Resolves (origin : String) : String → String → Prop
  | itself {address : String} (begun : Text.Begins "http" address) : Resolves origin address address
  | rooted {address rest : String} (slash : address = "/" ++ rest) : Resolves origin address (origin ++ address)
  | relative {address : String} (begun : ¬Text.Begins "http" address) (bare : ∀ rest, address ≠ "/" ++ rest) :
      Resolves origin address (origin ++ "/" ++ address)

/-- The item names a detail page: its address is of use, and not a blocked one. -/
structure Names (listing : Listing) (view : View Element) (origin : String) (item : Element) (page : DetailPage) :
    Prop where
  address : ∃ text, listing.Written view item text ∧ Text.trim text ≠ "" ∧
    (∀ keyword ∈ listing.blocked, Text.contains keyword (listing.kept text) = false) ∧
    Resolves origin (listing.kept text) page.url
  parentValue : page.parentValue = match view.select item listing.parentValue with
    | element :: _ => Text.trim (view.text element)
    | [] => ""

/-- The pages are those that the items name, item by item. -/
inductive NamedBy (listing : Listing) (view : View Element) (origin : String) :
    List Element → List DetailPage → Prop
  | none : NamedBy listing view origin [] []
  | named {item : Element} {items : List Element} {page : DetailPage} {pages : List DetailPage}
      (names : listing.Names view origin item page) (others : NamedBy listing view origin items pages) :
      NamedBy listing view origin (item :: items) (page :: pages)
  | skipped {item : Element} {items : List Element} {pages : List DetailPage}
      (nameless : ∀ page, ¬listing.Names view origin item page) (others : NamedBy listing view origin items pages) :
      NamedBy listing view origin (item :: items) pages

/-- A slash at the beginning is a first character. -/
theorem head?_eq_slash_iff {address : String} : address.toList.head? = some '/' ↔ ∃ rest, address = "/" ++ rest := by
  -- The address is its first character and the rest.
  constructor
  · intro first
    obtain ⟨rest, letters⟩ := List.head?_eq_some_iff.mp first
    refine ⟨String.ofList rest, String.toList_injective ?_⟩
    rw [letters, String.toList_append, String.toList_ofList]
    simp
  · rintro ⟨rest, rfl⟩
    simp

/-- An address resolves to its absolute form and to nothing else. -/
theorem resolves_iff {origin address url : String} : Resolves origin address url ↔ url = absolute origin address := by
  -- The three ways to resolve an address are the three branches, each of which excludes the others.
  rw [absolute]
  constructor
  · intro resolved
    cases resolved with
    | itself begun => exact (if_pos (Text.begins_iff.mp begun)).symm
    | rooted slash =>
      rw [if_neg (by simp [slash, Text.sameLetters]), if_pos (head?_eq_slash_iff.mpr ⟨_, slash⟩)]
    | relative unbegun bare =>
      have other : ¬Text.sameLetters (address.toList.take 4) "http".toList = true := fun letters =>
        unbegun (Text.begins_iff.mpr letters)
      rw [if_neg other, if_neg]
      intro first
      obtain ⟨rest, slash⟩ := head?_eq_slash_iff.mp first
      exact bare rest slash
  · rintro rfl
    split
    · exact .itself (Text.begins_iff.mpr ‹_›)
    · rename_i unbegun
      split
      · obtain ⟨rest, slash⟩ := head?_eq_slash_iff.mp ‹_›
        exact .rooted slash
      · rename_i bare
        exact .relative (fun begun => unbegun (Text.begins_iff.mp begun)) fun rest slash =>
          bare (head?_eq_slash_iff.mpr ⟨rest, slash⟩)

/-- The address found at an item is what is kept of the one written there. -/
theorem addressOf?_eq (listing : Listing) (view : View Element) (item : Element) :
    listing.addressOf? view item =
      ((view.select item listing.address).head?.bind (view.attribute? · "href")).bind fun text =>
        if Text.trim text = "" then none
        else if listing.blocked.any (Text.contains · (listing.kept text)) then none
        else some (listing.kept text) := by
  -- What is kept is the address up to a question mark, or all of it.
  rw [addressOf?, Option.bind_assoc]
  refine Option.bind_congr fun element _ => Option.bind_congr fun text _ => ?_
  dsimp only
  rw [kept]
  cases listing.dropQuery with
  | false => rfl
  | true =>
    rcases Text.cutAt?_eq '?' (Text.trim text).toList with ⟨nowhere, all⟩ | ⟨rest, cut⟩
    · rw [nowhere, if_pos rfl, Text.upTo, all, String.ofList_toList]
    · rw [cut, if_pos rfl, Text.upTo]

/-- The address of an item is what is kept of the one written there, if that is of use. -/
theorem addressOf?_eq_some_iff {listing : Listing} {view : View Element} {item : Element} {address : String} :
    listing.addressOf? view item = some address ↔
      ∃ text, listing.Written view item text ∧ Text.trim text ≠ "" ∧
        (∀ keyword ∈ listing.blocked, Text.contains keyword (listing.kept text) = false) ∧
        address = listing.kept text := by
  -- An address is lost at each of the steps: no element, no text, nothing in it, or a blocked word.
  rw [addressOf?_eq]
  constructor
  · intro found
    obtain ⟨text, href, found⟩ := Option.bind_eq_some_iff.mp found
    obtain ⟨element, first, href⟩ := Option.bind_eq_some_iff.mp href
    obtain ⟨rest, selected⟩ := List.head?_eq_some_iff.mp first
    split at found
    · cases found
    split at found
    · cases found
    rename_i something free
    cases found
    exact ⟨text, ⟨element, rest, selected, href⟩, something, by simpa [Option.any_eq_true] using free, rfl⟩
  · rintro ⟨text, ⟨element, rest, selected, href⟩, something, free, rfl⟩
    rw [selected, List.head?_cons, Option.bind_some, href, Option.bind_some, if_neg something, if_neg]
    simpa [Option.any_eq_true] using free

/-- The detail page of an item is the one that the item names. -/
theorem detailOf?_eq_some_iff {listing : Listing} {view : View Element} {origin : String} {item : Element}
    {page : DetailPage} :
    listing.detailOf? view origin item = some page ↔ listing.Names view origin item page := by
  -- The value comes from the first element that is selected for it, if there is one.
  rw [detailOf?, Option.map_eq_some_iff]
  constructor
  · rintro ⟨address, found, rfl⟩
    obtain ⟨text, written, something, free, rfl⟩ := addressOf?_eq_some_iff.mp found
    refine ⟨⟨text, written, something, free, resolves_iff.mpr rfl⟩, ?_⟩
    cases selected : view.select item listing.parentValue <;> simp [parentValueOf, selected]
  · rintro ⟨⟨text, written, something, free, resolved⟩, carried⟩
    refine ⟨listing.kept text, addressOf?_eq_some_iff.mpr ⟨text, written, something, free, rfl⟩, ?_⟩
    rw [← resolves_iff.mp resolved]
    cases page
    cases selected : view.select item listing.parentValue <;> simp_all [parentValueOf]

/-- The pages found item by item are those that the items name. -/
theorem namedBy_filterMap (listing : Listing) (view : View Element) (origin : String) (items : List Element) :
    NamedBy listing view origin items (items.filterMap (listing.detailOf? view origin)) := by
  -- One item after the other is given its page or left out.
  induction items with
  | nil => exact .none
  | cons item items others =>
    cases found : listing.detailOf? view origin item with
    | none =>
      -- An item that named a page would have been given one.
      rw [List.filterMap_cons_none found]
      refine .skipped (fun page names => ?_) others
      rw [detailOf?_eq_some_iff.mpr names] at found
      cases found
    | some page =>
      rw [List.filterMap_cons_some found]
      exact .named (detailOf?_eq_some_iff.mp found) others

/-- Each of the pages is named by an item. -/
theorem NamedBy.exists_item {listing : Listing} {view : View Element} {origin : String} {items : List Element}
    {pages : List DetailPage} (named : NamedBy listing view origin items pages) {page : DetailPage}
    (among : page ∈ pages) : ∃ item ∈ items, listing.Names view origin item page := by
  -- By the items, those that name no page being passed over.
  induction named with
  | none => cases among
  | named names _ others =>
    rcases List.mem_cons.mp among with rfl | among
    · exact ⟨_, List.mem_cons_self, names⟩
    · obtain ⟨item, member, names⟩ := others among
      exact ⟨item, List.mem_cons_of_mem _ member, names⟩
  | skipped _ _ others =>
    obtain ⟨item, member, names⟩ := others among
    exact ⟨item, List.mem_cons_of_mem _ member, names⟩

/-- On a page of the web, an address resolves to an absolute one, or to itself if it only begins like one. -/
theorem Resolves.absolute_or_half {address url place : String} {site : Url}
    (origin : site.origin = site.scheme ++ "://" ++ place) (web : site.scheme = "http" ∨ site.scheme = "https")
    (resolved : Resolves site.origin address url) : IsAbsolute url ∨ IsHalfAbsolute url := by
  -- What is put behind the origin begins with a scheme of the web.
  have led : ∀ rest, IsAbsolute (site.origin ++ rest) := by
    intro rest
    rw [origin, String.append_assoc]
    rcases web with same | same <;> rw [same]
    · exact .inl (Text.begins_append "http://" (place ++ rest))
    · exact .inr (Text.begins_append "https://" (place ++ rest))
  cases resolved with
  | itself begun => exact (em (IsAbsolute address)).imp_right fun other => ⟨begun, other⟩
  | rooted => exact .inl (led _)
  | relative => exact .inl (String.append_assoc ▸ led _)

/-- Without a question mark in the origin and in the address, the locator has none. -/
theorem Resolves.question_not_mem {origin address url : String} (resolved : Resolves origin address url)
    (free : '?' ∉ origin.toList) (clean : '?' ∉ address.toList) : '?' ∉ url.toList := by
  -- The locator is the address, or the origin with the address behind it.
  cases resolved with
  | itself => exact clean
  | rooted => simp [free, clean]
  | relative => simp [free, clean]

/-- What is kept of an address has no question mark, if the query is to be dropped. -/
theorem question_not_mem_kept {listing : Listing} (dropped : listing.dropQuery = true) (text : String) :
    '?' ∉ (listing.kept text).toList := by
  rw [kept, if_pos dropped]
  exact Text.not_mem_upTo _ _

/-- A page of the web without items is no listing page. One with items names a page for each item whose address is of
use, in their order. The addresses are absolute, or else begin with `http` without being so; they have no query if it is
to be dropped. -/
theorem discovery_exact (listing : Listing) (view : View Element) (items : List Element) {address : String} {site : Url}
    (read : Url.parse? address = some site) (web : site.scheme = "http" ∨ site.scheme = "https") :
    (items = [] ∧ listing.discover view items site.origin = none) ∨
      items ≠ [] ∧ ∃ pages, listing.discover view items site.origin = some pages ∧
        NamedBy listing view site.origin items pages ∧
        ∀ page ∈ pages, (IsAbsolute page.url ∨ IsHalfAbsolute page.url) ∧
          (listing.dropQuery = true → '?' ∉ page.url.toList) := by
  cases items with
  | nil => exact .inl ⟨rfl, rfl⟩
  | cons item items =>
    have named := namedBy_filterMap listing view site.origin (item :: items)
    refine .inr ⟨List.cons_ne_nil _ _, _, rfl, named, fun page among => ?_⟩
    -- What is said of each page comes from the item that names it.
    obtain ⟨place, origin, clean⟩ := Url.origin_of_web read web
    obtain ⟨_, _, names⟩ := named.exists_item among
    obtain ⟨text, _, _, _, resolved⟩ := names.address
    refine ⟨resolved.absolute_or_half origin web, fun dropped => ?_⟩
    refine resolved.question_not_mem ?_ (question_not_mem_kept dropped text)
    rw [origin]
    rcases web with same | same <;> simp [same, clean]

/-- The detail pages that a listing with the given fragments finds in a markup text from the given address. -/
def found? (fragments : List String) (markup address : String) : Option (List DetailPage) :=
  (parse? fragments).toOption.join.bind fun listing =>
    (Url.parse? address).bind fun site => listing.discoverIn (Markup.parseDocument markup) site.origin

/-- Pages are found by the listing that the fragments describe. -/
theorem exists_of_found? (fragments : List String) (markup address : String) (pages : List DetailPage)
    (found : found? fragments markup address = some pages) :
    ∃ listing site, parse? fragments = .ok (some listing) ∧ Url.parse? address = some site ∧
      listing.discoverIn (Markup.parseDocument markup) site.origin = some pages := by
  -- Each step has to succeed for the pages to be found.
  obtain ⟨listing, described, found⟩ := Option.bind_eq_some_iff.mp found
  obtain ⟨site, placed, found⟩ := Option.bind_eq_some_iff.mp found
  refine ⟨listing, site, ?_, placed, found⟩
  cases read : parse? fragments with
  | error cause => simp [read, Except.toOption] at described
  | ok listing => simpa [read, Except.toOption] using described

/-- A listing of two products, and of an advertisement that is blocked. -/
def products : String :=
  "<p><b>Blue</b><a href='/p/1?ref=list'>x</a></p>" ++ "<p><b> Red </b><a href=' p/2 '>y</a></p>" ++
    "<p><b>Ad</b><a href='HTTPS://ads.test/p/3'>z</a></p>"

/-- Both products are found, with absolute addresses and without a query. -/
theorem discovery_exact_products :
    ∃ listing site pages, parse? ["p", "b", "a", "removeQueryString", "ads.test"] = .ok (some listing) ∧
      Url.parse? "http://shop.test:8080/list?page=1" = some site ∧
      listing.discoverIn (Markup.parseDocument products) site.origin = some pages ∧
      pages = [⟨"http://shop.test:8080/p/1", "Blue"⟩, ⟨"http://shop.test:8080/p/2", "Red"⟩] ∧
      NamedBy listing documentView site.origin (listing.item.selectAll (Markup.parseDocument products)) pages := by
  -- The pages are found by running the sample, and the general result says who names them.
  obtain ⟨listing, site, described, placed, found⟩ := exists_of_found?
    ["p", "b", "a", "removeQueryString", "ads.test"] products "http://shop.test:8080/list?page=1"
    [⟨"http://shop.test:8080/p/1", "Blue"⟩, ⟨"http://shop.test:8080/p/2", "Red"⟩] (by decide +kernel)
  have web : (Url.parse? "http://shop.test:8080/list?page=1").map (·.scheme) = some "http" := by decide +kernel
  rw [placed] at web
  rcases discovery_exact listing documentView (listing.item.selectAll (Markup.parseDocument products)) placed
    (.inl (Option.some.inj web)) with ⟨-, none⟩ | ⟨-, pages, same, named, -⟩
  · cases found.symm.trans none
  · obtain rfl := Option.some.inj (found.symm.trans same)
    exact ⟨listing, site, _, described, placed, found, rfl, named⟩

/-- An address that begins like the scheme is kept as it is, and one that was only a query names the front page. -/
theorem httpd_kept :
    ∃ listing site, parse? ["p", "b", "a", "removeQueryString"] = .ok (some listing) ∧
      Url.parse? "http://shop.test/list" = some site ∧
      listing.discoverIn
        (Markup.parseDocument "<p><a href='httpd/docs'>x</a></p><p><a href='?page=2'>y</a></p>") site.origin =
        some [⟨"httpd/docs", ""⟩, ⟨"http://shop.test/", ""⟩] ∧ ¬IsAbsolute "httpd/docs" := by
  -- Four letters are all that is looked at, and a bare query is not empty before it is cut.
  obtain ⟨listing, site, described, placed, found⟩ := exists_of_found? ["p", "b", "a", "removeQueryString"]
    "<p><a href='httpd/docs'>x</a></p><p><a href='?page=2'>y</a></p>" "http://shop.test/list"
    [⟨"httpd/docs", ""⟩, ⟨"http://shop.test/", ""⟩] (by decide +kernel)
  exact ⟨listing, site, described, placed, found, by decide⟩

end Listing

end Harvest
