import Harvest.Markup.Rules.Start

/-! The rules inside the body, and those inside elements that hold text only. -/

namespace Harvest.Markup.Build

/-- Closes the list item or description entry that a new one of the given names ends. -/
def closeItem (names : List String) : Build Unit := do
  let b ← get
  let tag (n : Nat) : Tag := (b.arena.tag? n).getD { name := "" }
  let ends (t : Tag) : Bool :=
    isNamed names t || (isSpecial t && !isNamed ["address", "div", "p"] t)
  match (b.stack.map tag).find? ends with
  | some found =>
    if isNamed names found then
      closeImplied found.name
      popThrough [found.name]
  | none => return

/-- The names of the vocabulary for drawings that have upper-case letters. -/
def drawingNames : List String :=
  ["altGlyph", "altGlyphDef", "altGlyphItem", "animateColor", "animateMotion", "animateTransform",
    "clipPath", "feBlend", "feColorMatrix", "feComponentTransfer", "feComposite", "feConvolveMatrix",
    "feDiffuseLighting", "feDisplacementMap", "feDistantLight", "feDropShadow", "feFlood", "feFuncA",
    "feFuncB", "feFuncG", "feFuncR", "feGaussianBlur", "feImage", "feMerge", "feMergeNode",
    "feMorphology", "feOffset", "fePointLight", "feSpecularLighting", "feSpotLight", "feTile",
    "feTurbulence", "foreignObject", "glyphRef", "linearGradient", "radialGradient", "textPath"]

/-- The attributes of the vocabulary for drawings that have upper-case letters. -/
def drawingAttributes : List String :=
  ["attributeName", "attributeType", "baseFrequency", "baseProfile", "calcMode", "clipPathUnits",
    "diffuseConstant", "edgeMode", "filterUnits", "glyphRef", "gradientTransform", "gradientUnits",
    "kernelMatrix", "kernelUnitLength", "keyPoints", "keySplines", "keyTimes", "lengthAdjust",
    "limitingConeAngle", "markerHeight", "markerUnits", "markerWidth", "maskContentUnits", "maskUnits",
    "numOctaves", "pathLength", "patternContentUnits", "patternTransform", "patternUnits", "pointsAtX",
    "pointsAtY", "pointsAtZ", "preserveAlpha", "preserveAspectRatio", "primitiveUnits", "refX", "refY",
    "repeatCount", "repeatDur", "requiredExtensions", "requiredFeatures", "specularConstant",
    "specularExponent", "spreadMethod", "startOffset", "stdDeviation", "stitchTiles", "surfaceScale",
    "systemLanguage", "tableValues", "targetX", "targetY", "textLength", "viewBox", "viewTarget",
    "xChannelSelector", "yChannelSelector", "zoomAndPan"]

/-- The spelling of a name in a list that differs from it in case only. -/
def spelling (names : List String) (name : String) : String :=
  (names.find? fun other => Text.lower other = name).getD name

/-- Inserts an element of another vocabulary. -/
def insertForeign (vocabulary : Vocabulary) (name : String) (attributes : Attributes)
    (selfClosing : Bool) : Build Unit := do
  let attributes := match vocabulary with
    | .svg => attributes.map fun (name, value) => (spelling drawingAttributes name, value)
    | .math => attributes.map fun (name, value) => (spelling ["definitionURL"] name, value)
    | .html => attributes
  let name := if vocabulary = .svg then spelling drawingNames name else name
  discard (insertTag { vocabulary, name, attributes })
  if selfClosing then pop

/-- The start tags of a body. -/
def bodyStart (again : HandOn) (token : Token) (name : String) (attributes : Attributes)
    (selfClosing : Bool) : Build Unit := do
  let headings := ["h1", "h2", "h3", "h4", "h5", "h6"]
  if name = "html" then
    if !(← isOpen ["template"]) then
      match (← get).stack.getLast? with
      | some root => mergeAttributes root attributes
      | none => return
  else if ["base", "basefont", "bgsound", "link", "meta", "noframes", "script", "style", "template",
      "title"].contains name then again (some .inHead) token
  else if name = "body" then
    let second := (← get).stack.reverse[1]?
    match second with
    | some n =>
      if isNamed ["body"] (← tagOf n) && !(← isOpen ["template"]) then
        forbidFrameset
        mergeAttributes n attributes
    | none => return
  else if name = "frameset" then
    let b ← get
    match b.stack.reverse with
    | root :: body :: _ =>
      if b.framesetAllowed && isNamed ["body"] (← tagOf body) then
        onArena (·.detach body)
        modify fun b => { b with stack := [root] }
        insert name attributes
        enter .inFrameset
    | _ => return
  else if ["address", "article", "aside", "blockquote", "center", "details", "dialog", "dir", "div", "dl",
      "fieldset", "figcaption", "figure", "footer", "header", "hgroup", "main", "menu", "nav", "ol", "p",
      "section", "summary", "ul"].contains name then
    closeParagraph
    insert name attributes
  else if headings.contains name then
    closeParagraph
    if ← currentIs headings then pop
    insert name attributes
  else if name = "pre" || name = "listing" then
    closeParagraph
    insert name attributes
    modify fun b => { b with skipNewline := true, framesetAllowed := false }
  else if name = "form" then
    let nested ← isOpen ["template"]
    if (← get).form.isNone || nested then
      closeParagraph
      let n ← insertTag { name, attributes }
      if !nested then modify fun b => { b with form := some n }
  else if name = "li" then
    forbidFrameset
    closeItem ["li"]
    closeParagraph
    insert name attributes
  else if name = "dd" || name = "dt" then
    forbidFrameset
    closeItem ["dd", "dt"]
    closeParagraph
    insert name attributes
  else if name = "plaintext" then
    closeParagraph
    insert name attributes
    modify fun b => { b with model := .plain }
  else if name = "button" then
    if ← inScope ["button"] then
      closeImplied ""
      popThrough ["button"]
    reopenFormatting
    insert name attributes
    forbidFrameset
  else if name = "a" then
    let recent := (← get).formatting.takeWhile (· ≠ .marker)
    let found := recent.findSome? fun
      | .element n tag => if tag.name = "a" then some n else none
      | .marker => none
    match found with
    | some n =>
      closeFormatting "a"
      forget n
      modify fun b => { b with stack := b.stack.filter (· ≠ n) }
    | none => pure ()
    reopenFormatting
    insertFormatting name attributes
  else if ["b", "big", "code", "em", "font", "i", "s", "small", "strike", "strong", "tt",
      "u"].contains name then
    reopenFormatting
    insertFormatting name attributes
  else if name = "nobr" then
    reopenFormatting
    if ← inScope ["nobr"] then
      closeFormatting "nobr"
      reopenFormatting
    insertFormatting name attributes
  else if ["applet", "marquee", "object"].contains name then
    reopenFormatting
    insert name attributes
    pushMarker
    forbidFrameset
  else if name = "table" then
    if !(← get).olderRules then closeParagraph
    insert name attributes
    forbidFrameset
    enter .inTable
  else if ["area", "br", "embed", "img", "keygen", "wbr"].contains name then
    reopenFormatting
    insertVoid name attributes
    forbidFrameset
  else if name = "input" then
    reopenFormatting
    insertVoid name attributes
    if ((attributes.lookup "type").map Text.lower) ≠ some "hidden" then forbidFrameset
  else if ["param", "source", "track"].contains name then insertVoid name attributes
  else if name = "hr" then
    closeParagraph
    insertVoid name attributes
    forbidFrameset
  else if name = "image" then again none (.startTag "img" attributes selfClosing)
  else if name = "textarea" then
    insertRun name attributes (.references name)
    modify fun b => { b with skipNewline := true, framesetAllowed := false }
  else if name = "xmp" then
    closeParagraph
    reopenFormatting
    forbidFrameset
    insertRun name attributes (.raw name)
  else if name = "iframe" then
    forbidFrameset
    insertRun name attributes (.raw name)
  else if name = "noembed" || name = "noscript" then insertRun name attributes (.raw name)
  else if name = "select" then
    reopenFormatting
    insert name attributes
    forbidFrameset
    let inTable := [Mode.inTable, .inCaption, .inTableBody, .inRow, .inCell].contains (← get).mode
    enter (if inTable then .inSelectInTable else .inSelect)
  else if name = "optgroup" || name = "option" then
    if ← currentIs ["option"] then pop
    reopenFormatting
    insert name attributes
  else if name = "rb" || name = "rtc" then
    if ← inScope ["ruby"] then closeImplied ""
    insert name attributes
  else if name = "rp" || name = "rt" then
    if ← inScope ["ruby"] then closeImplied "rtc"
    insert name attributes
  else if name = "math" then
    reopenFormatting
    insertForeign .math name attributes selfClosing
  else if name = "svg" then
    reopenFormatting
    insertForeign .svg name attributes selfClosing
  else if ["caption", "col", "colgroup", "frame", "head", "tbody", "td", "tfoot", "th", "thead",
      "tr"].contains name then return
  else
    reopenFormatting
    insert name attributes

/-- The end tags of a body. -/
def bodyEnd (again : HandOn) (token : Token) (name : String) : Build Unit := do
  let headings := ["h1", "h2", "h3", "h4", "h5", "h6"]
  if name = "template" then closeTemplate
  else if name = "body" then
    if ← inScope ["body"] then enter .afterBody
  else if name = "html" then
    if ← inScope ["body"] then
      enter .afterBody
      again none token
  else if ["address", "article", "aside", "blockquote", "button", "center", "details", "dialog", "dir",
      "div", "dl", "fieldset", "figcaption", "figure", "footer", "header", "hgroup", "listing", "main",
      "menu", "nav", "ol", "pre", "section", "summary", "ul"].contains name then
    if ← inScope [name] then
      closeImplied ""
      popThrough [name]
  else if name = "form" then
    if ← isOpen ["template"] then
      if ← inScope ["form"] then
        closeImplied ""
        popThrough ["form"]
    else
      let b ← get
      set { b with form := none }
      match b.form with
      | none => return
      | some n =>
        let tag (m : Nat) : Tag := (b.arena.tag? m).getD { name := "" }
        let inner := b.stack.takeWhile (· ≠ n)
        if b.stack.contains n && !inner.any fun m => isBoundary (tag m) then
          closeImplied ""
          modify fun b => { b with stack := b.stack.filter (· ≠ n) }
  else if name = "p" then
    if !(← inButtonScope ["p"]) then insert "p" []
    closeParagraph
  else if name = "li" then
    if ← inItemScope ["li"] then
      closeImplied "li"
      popThrough ["li"]
  else if name = "dd" || name = "dt" then
    if ← inScope [name] then
      closeImplied name
      popThrough [name]
  else if headings.contains name then
    if ← inScope headings then
      closeImplied ""
      popThrough headings
  else if ["a", "b", "big", "code", "em", "font", "i", "nobr", "s", "small", "strike", "strong", "tt",
      "u"].contains name then closeFormatting name
  else if ["applet", "marquee", "object"].contains name then
    if ← inScope [name] then
      closeImplied ""
      popThrough [name]
      clearToMarker
  else if name = "br" then again none (.startTag "br" [] false)
  else closeNamed name

/-- Inside the body. -/
def inBodyRules (again : HandOn) (token : Token) : Build Unit := do
  match token with
  | .null => return
  | .text white content =>
    reopenFormatting
    insertText content
    if !white then forbidFrameset
  | .comment text => insertComment text
  | .doctype .. => return
  | .startTag name attributes selfClosing => bodyStart again token name attributes selfClosing
  | .endTag name => bodyEnd again token name
  | .endOfText =>
    if !(← get).templateModes.isEmpty then again (some .inTemplate) token

/-- Inside an element that holds text only. -/
def textRules (again : HandOn) (token : Token) : Build Unit := do
  let back : Build Unit := do
    pop
    modify fun b => { b with mode := b.returnMode, model := .data }
  match token with
  | .text _ content => insertText content
  | .endOfText =>
    back
    again none token
  | .endTag _ => back
  | _ => return

end Harvest.Markup.Build
