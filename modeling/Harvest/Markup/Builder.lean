import Harvest.Markup.Arena

/-! The state of building a tree from tokens: the open elements, the formatting elements that are carried
over, and the place where the next node goes. -/

namespace Harvest.Markup

/-- Which rules the next token is read by. -/
inductive Mode where
  | initial
  | beforeHtml
  | beforeHead
  | inHead
  | afterHead
  | inBody
  | text
  | inTable
  | inTableText
  | inCaption
  | inColumnGroup
  | inTableBody
  | inRow
  | inCell
  | inSelect
  | inSelectInTable
  | inTemplate
  | afterBody
  | inFrameset
  | afterFrameset
  | afterAfterBody
  | afterAfterFrameset
  deriving DecidableEq, Repr, Inhabited

/-- A formatting element that text carries over from one block to the next, or a boundary for these. -/
inductive Formatting where
  | marker
  | element (n : Nat) (tag : Tag)
  deriving DecidableEq, Repr, Inhabited

/-- The number of a formatting element in the tree. -/
def Formatting.number? : Formatting → Option Nat
  | .element n _ => some n
  | .marker => none

/-- The state between two tokens. -/
structure Builder where
  arena : Arena := {}
  mode : Mode := .initial
  /-- The mode to return to after a text or a table's text. -/
  returnMode : Mode := .initial
  /-- The open elements, innermost first. -/
  stack : List Nat := []
  /-- The formatting elements, the latest first. -/
  formatting : List Formatting := []
  head : Option Nat := none
  form : Option Nat := none
  framesetAllowed : Bool := true
  /-- Is the document read by the rules for documents without a document type? -/
  olderRules : Bool := false
  /-- Do nodes that may not stand in a table go in front of it? -/
  fostering : Bool := false
  /-- The text inside a table that waits for its place, the latest first. -/
  tableText : List (Bool × List Char) := []
  templateModes : List Mode := []
  /-- Is a line feed at the beginning of the next text dropped? -/
  skipNewline : Bool := false
  model : ContentModel := .data
  deriving Repr, Inhabited

/-- A step of building. -/
abbrev Build := StateM Builder

namespace Build

/-- Changes the tree. -/
def onArena (f : Arena → Arena) : Build Unit :=
  modify fun b => { b with arena := f b.arena }

/-- Enters a mode. -/
def enter (mode : Mode) : Build Unit :=
  modify fun b => { b with mode }

/-- The tag of an element; other entries give an empty one. -/
def tagOf (n : Nat) : Build Tag :=
  return ((← get).arena.tag? n).getD { name := "" }

/-- The tag of the innermost open element. -/
def currentTag : Build Tag := do
  match (← get).stack with
  | n :: _ => tagOf n
  | [] => return { name := "" }

/-- Is the tag one of the given names in the main vocabulary? -/
def isNamed (names : List String) (tag : Tag) : Bool :=
  tag.vocabulary == .html && names.contains tag.name

/-- Is the innermost open element one of the given names? -/
def currentIs (names : List String) : Build Bool :=
  return isNamed names (← currentTag)

/-- The elements that open elements must not be searched beyond. -/
def isBoundary (tag : Tag) : Bool :=
  match tag.vocabulary with
  | .html => ["applet", "caption", "html", "table", "td", "th", "marquee", "object",
      "template"].contains tag.name
  | .math => ["mi", "mo", "mn", "ms", "mtext", "annotation-xml"].contains tag.name
  | .svg => ["foreignObject", "desc", "title"].contains tag.name

/-- The elements that a formatting element does not reach across. -/
def isSpecial (tag : Tag) : Bool :=
  match tag.vocabulary with
  | .html => ["address", "applet", "area", "article", "aside", "base", "basefont", "bgsound",
      "blockquote", "body", "br", "button", "caption", "center", "col", "colgroup", "dd", "details",
      "dir", "div", "dl", "dt", "embed", "fieldset", "figcaption", "figure", "footer", "form", "frame",
      "frameset", "h1", "h2", "h3", "h4", "h5", "h6", "head", "header", "hgroup", "hr", "html", "iframe",
      "img", "input", "isindex", "li", "link", "listing", "main", "marquee", "menu", "meta", "nav",
      "noembed", "noframes", "noscript", "object", "ol", "p", "param", "plaintext", "pre", "script",
      "section", "select", "source", "style", "summary", "table", "tbody", "td", "template", "textarea",
      "tfoot", "th", "thead", "title", "tr", "track", "ul", "wbr", "xmp"].contains tag.name
  | .math => ["mi", "mo", "mn", "ms", "mtext", "annotation-xml"].contains tag.name
  | .svg => ["foreignObject", "desc", "title"].contains tag.name

/-- Is there a wanted element among the open ones before the first that stops the search? -/
def anyBefore (stop wanted : Tag → Bool) : Build Bool := do
  let b ← get
  let tags := b.stack.map fun n => (b.arena.tag? n).getD { name := "" }
  let rec search : List Tag → Bool
    | [] => false
    | tag :: rest => if wanted tag then true else if stop tag then false else search rest
  return search tags

/-- Is one of the names open in the ordinary scope? -/
def inScope (names : List String) : Build Bool :=
  anyBefore isBoundary (isNamed names)

/-- Is one of the names open in the scope of list items? -/
def inItemScope (names : List String) : Build Bool :=
  anyBefore (fun tag => isBoundary tag || isNamed ["ol", "ul"] tag) (isNamed names)

/-- Is one of the names open in the scope of buttons? -/
def inButtonScope (names : List String) : Build Bool :=
  anyBefore (fun tag => isBoundary tag || isNamed ["button"] tag) (isNamed names)

/-- Is one of the names open in the scope of tables? -/
def inTableScope (names : List String) : Build Bool :=
  anyBefore (isNamed ["html", "table", "template"]) (isNamed names)

/-- Is one of the names open in the scope of selections? -/
def inSelectScope (names : List String) : Build Bool :=
  anyBefore (fun tag => !isNamed ["optgroup", "option"] tag) (isNamed names)

/-- Is one of the names open at all? -/
def isOpen (names : List String) : Build Bool :=
  anyBefore (fun _ => false) (isNamed names)

/-- Closes the innermost open element. -/
def pop : Build Unit :=
  modify fun b => { b with stack := b.stack.drop 1 }

/-- Closes open elements as long as they satisfy `p`. -/
def popWhile (p : Tag → Bool) : Build Unit :=
  modify fun b => { b with
    stack := b.stack.dropWhile fun n => p ((b.arena.tag? n).getD { name := "" }) }

/-- Closes open elements up to and with the first of the given names. -/
def popThrough (names : List String) : Build Unit := do
  popWhile fun tag => !isNamed names tag
  pop

/-- Closes the elements whose end tags may be left out, except the named one. -/
def closeImplied (except : String) : Build Unit :=
  popWhile fun tag =>
    isNamed ["dd", "dt", "li", "optgroup", "option", "p", "rb", "rp", "rt", "rtc"] tag && tag.name ≠ except

/-- Closes the elements whose end tags may be left out, parts of tables included. -/
def closeImpliedThoroughly : Build Unit :=
  popWhile (isNamed ["caption", "colgroup", "dd", "dt", "li", "optgroup", "option", "p", "rb", "rp", "rt",
    "rtc", "tbody", "td", "tfoot", "th", "thead", "tr"])

/-- Closes an open paragraph. -/
def closeParagraph : Build Unit := do
  if ← inButtonScope ["p"] then
    closeImplied "p"
    popThrough ["p"]

/-- Where a node goes. -/
inductive Place where
  | inside (parent : Nat)
  | before (sibling : Nat)

/-- The place for the next node inside `target`; a table hands it on to the place in front of it. -/
def placeIn (target : Nat) : Build Place := do
  let b ← get
  let name (n : Nat) : Tag := (b.arena.tag? n).getD { name := "" }
  if b.fostering && isNamed ["table", "tbody", "tfoot", "thead", "tr"] (name target) then
    let found := b.stack.find? fun n => isNamed ["table", "template"] (name n)
    match found with
    | none => return .inside (b.stack.getLast?.getD 0)
    | some n =>
      if isNamed ["template"] (name n) then return .inside n
      else if (b.arena.parent? n).isSome then return .before n
      else return .inside (((b.stack.dropWhile (· ≠ n)).drop 1).head?.getD 0)
  else return .inside target

/-- The place for the next node. -/
def place : Build Place := do
  placeIn ((← get).stack.head?.getD 0)

/-- Puts an entry at a place. -/
def putAt (n : Nat) : Place → Build Unit
  | .inside parent => onArena (·.append parent n)
  | .before sibling => onArena (·.insertBefore sibling n)

/-- A new entry without a place. -/
def create (kind : EntryKind) : Build Nat := do
  let b ← get
  let (n, arena) := b.arena.add kind
  set { b with arena }
  return n

/-- Inserts an element and opens it. -/
def insertTag (tag : Tag) : Build Nat := do
  let where_ ← place
  let n ← create (.element tag)
  putAt n where_
  modify fun b => { b with stack := n :: b.stack }
  return n

/-- Inserts an element of the main vocabulary and opens it. -/
def insert (name : String) (attributes : Attributes) : Build Unit :=
  discard (insertTag { name, attributes })

/-- Inserts an element that holds nothing. -/
def insertVoid (name : String) (attributes : Attributes) : Build Unit := do
  insert name attributes
  pop

/-- Inserts text. -/
def insertText (content : List Char) : Build Unit := do
  match ← place with
  | .inside 0 => return
  | .inside parent => onArena (·.appendText parent (String.ofList content))
  | .before sibling => onArena (·.insertTextBefore sibling (String.ofList content))

/-- Inserts a comment. -/
def insertComment (content : String) : Build Unit := do
  let where_ ← place
  let n ← create (.comment content)
  putAt n where_

/-- Appends a comment to a given entry. -/
def commentIn (parent : Nat) (content : String) : Build Unit := do
  let n ← create (.comment content)
  onArena (·.append parent n)

/-- Gives an element the attributes that it does not have yet. -/
def mergeAttributes (n : Nat) (attributes : Attributes) : Build Unit :=
  onArena (·.change n fun entry =>
    match entry.kind with
    | .element tag =>
      let added := attributes.filter fun (name, _) => !tag.attributes.any (·.1 = name)
      { entry with kind := .element { tag with attributes := tag.attributes ++ added } }
    | _ => entry)

/-- Inserts an element whose content is text of the given model. -/
def insertRun (name : String) (attributes : Attributes) (model : ContentModel) : Build Unit := do
  insert name attributes
  modify fun b => { b with model, returnMode := b.mode, mode := .text }

/-- Drops the formatting elements up to and with the latest boundary. -/
def clearToMarker : Build Unit :=
  modify fun b => { b with formatting := (b.formatting.dropWhile (· ≠ .marker)).drop 1 }

/-- Sets a boundary among the formatting elements. -/
def pushMarker : Build Unit :=
  modify fun b => { b with formatting := .marker :: b.formatting }

/-- Forbids a frameset from here on. -/
def forbidFrameset : Build Unit :=
  modify fun b => { b with framesetAllowed := false }

/-- Chooses the mode that the open elements ask for. -/
def resetMode : Build Unit := do
  let b ← get
  let tag (n : Nat) : Tag := (b.arena.tag? n).getD { name := "" }
  let rec choose : List Nat → Mode
    | [] => .inBody
    | n :: above =>
      let last := above.isEmpty
      let t := tag n
      if t.vocabulary ≠ .html then choose above
      else match t.name with
        | "select" =>
          match above.find? fun m => isNamed ["table", "template"] (tag m) with
          | some m => if isNamed ["table"] (tag m) then .inSelectInTable else .inSelect
          | none => .inSelect
        | "td" => if last then .inBody else .inCell
        | "th" => if last then .inBody else .inCell
        | "tr" => .inRow
        | "tbody" => .inTableBody
        | "thead" => .inTableBody
        | "tfoot" => .inTableBody
        | "caption" => .inCaption
        | "colgroup" => .inColumnGroup
        | "table" => .inTable
        | "template" => b.templateModes.head?.getD .inTemplate
        | "head" => if last then .inBody else .inHead
        | "body" => .inBody
        | "frameset" => .inFrameset
        | "html" => if b.head.isNone then .beforeHead else .afterHead
        | _ => choose above
  enter (choose b.stack)

end Build

end Harvest.Markup
