import Harvest.Markup.Rules.Body

/-! The rules inside elements of other vocabularies. -/

namespace Harvest.Markup.Build

/-- Is the token read by the rules for other vocabularies? -/
def isForeign (token : Token) : Build Bool := do
  let tag ← currentTag
  if (← get).stack.isEmpty || tag.vocabulary = .html then return false
  let textPoint := tag.vocabulary = .math && ["mi", "mo", "mn", "ms", "mtext"].contains tag.name
  let mathText := tag.vocabulary = .math && tag.name = "annotation-xml"
  let encoding := (tag.attribute? "encoding").map Text.lower
  let htmlPoint := (tag.vocabulary = .svg && ["foreignObject", "desc", "title"].contains tag.name) ||
    (mathText && (encoding = some "text/html" || encoding = some "application/xhtml+xml"))
  match token with
  | .endOfText => return false
  | .startTag name _ _ =>
    return !((textPoint && name ≠ "mglyph" && name ≠ "malignmark") || htmlPoint ||
      (mathText && name = "svg"))
  | .text .. => return !(textPoint || htmlPoint)
  | .null => return !(textPoint || htmlPoint)
  | _ => return true

/-- The start tags that end an element of another vocabulary. -/
def breaksOut (name : String) (attributes : Attributes) : Bool :=
  ["b", "big", "blockquote", "body", "br", "center", "code", "dd", "div", "dl", "dt", "em", "embed", "h1",
    "h2", "h3", "h4", "h5", "h6", "head", "hr", "i", "img", "li", "listing", "menu", "meta", "nobr", "ol",
    "p", "pre", "ruby", "s", "small", "span", "strong", "strike", "sub", "sup", "table", "tt", "u", "ul",
    "var"].contains name ||
    (name = "font" && attributes.any fun (name, _) => ["color", "face", "size"].contains name)

/-- Does the tag end the search for the element that a start tag of the main vocabulary goes into? -/
def takesMainContent (tag : Tag) : Bool :=
  tag.vocabulary = .html ||
    (tag.vocabulary = .math && ["mi", "mo", "mn", "ms", "mtext"].contains tag.name) ||
    (tag.vocabulary = .svg && ["foreignObject", "desc", "title"].contains tag.name)

/-- The search of an end tag through elements of other vocabularies. -/
def closeForeign (again : HandOn) (token : Token) (name : String) : List Nat → Build Unit
  | [] => return
  | n :: above => do
    let tag ← tagOf n
    if tag.vocabulary = .html then again (some (← get).mode) token
    else if Text.lower tag.name = name then
      modify fun b => { b with stack := above }
    else closeForeign again token name above

/-- Inside an element of another vocabulary. -/
def foreignRules (again : HandOn) (token : Token) : Build Unit := do
  let breakOut : Build Unit := do
    popWhile fun tag => !takesMainContent tag
    again (some (← get).mode) token
  match token with
  | .null => insertText [replacementChar]
  | .text white content =>
    insertText content
    if !white then forbidFrameset
  | .comment text => insertComment text
  | .startTag name attributes selfClosing =>
    if breaksOut name attributes then breakOut
    else insertForeign (← currentTag).vocabulary name attributes selfClosing
  | .endTag name =>
    if name = "br" || name = "p" then breakOut
    else closeForeign again token name (← get).stack
  | _ => return

end Harvest.Markup.Build
