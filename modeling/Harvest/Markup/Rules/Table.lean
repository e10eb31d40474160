import Harvest.Markup.Rules.Start

/-! The rules inside tables. What does not belong into a table goes in front of it. -/

namespace Harvest.Markup.Build

/-- Reads a token by the rules of the body, what it inserts going in front of the table. -/
def foster (again : HandOn) (token : Token) : Build Unit := do
  modify fun b => { b with fostering := true }
  again (some .inBody) token
  modify fun b => { b with fostering := false }

/-- Closes open elements down to the given names. -/
def clearTo (names : List String) : Build Unit :=
  popWhile fun tag => !isNamed (["template", "html"] ++ names) tag

/-- Inside a table. -/
def inTableRules (again : HandOn) (token : Token) : Build Unit := do
  let openAs (names : List String) (name : String) (attributes : Attributes) (mode : Mode) : Build Unit := do
    clearTo names
    insert name attributes
    enter mode
  let textual : Build Unit := do
    if ← currentIs ["table", "tbody", "template", "tfoot", "thead", "tr"] then
      modify fun b => { b with tableText := [], returnMode := b.mode, mode := .inTableText }
      again none token
    else foster again token
  match token with
  | .null => textual
  | .text .. => textual
  | .comment text => insertComment text
  | .doctype .. => return
  | .startTag name attributes _ =>
    match name with
    | "caption" =>
      clearTo ["table"]
      pushMarker
      insert name attributes
      enter .inCaption
    | "colgroup" => openAs ["table"] name attributes .inColumnGroup
    | "col" =>
      openAs ["table"] "colgroup" [] .inColumnGroup
      again none token
    | "tbody" => openAs ["table"] name attributes .inTableBody
    | "tfoot" => openAs ["table"] name attributes .inTableBody
    | "thead" => openAs ["table"] name attributes .inTableBody
    | "td" =>
      openAs ["table"] "tbody" [] .inTableBody
      again none token
    | "th" =>
      openAs ["table"] "tbody" [] .inTableBody
      again none token
    | "tr" =>
      openAs ["table"] "tbody" [] .inTableBody
      again none token
    | "table" =>
      if ← inTableScope ["table"] then
        popThrough ["table"]
        resetMode
        again none token
    | "style" => again (some .inHead) token
    | "script" => again (some .inHead) token
    | "template" => again (some .inHead) token
    | "input" =>
      if ((attributes.lookup "type").map Text.lower) = some "hidden" then insertVoid name attributes
      else foster again token
    | "form" =>
      if !(← isOpen ["template"]) && (← get).form.isNone then
        let n ← insertTag { name, attributes }
        modify fun b => { b with form := some n }
        pop
    | _ => foster again token
  | .endTag name =>
    if name = "table" then
      if ← inTableScope ["table"] then
        popThrough ["table"]
        resetMode
    else if name = "template" then closeTemplate
    else if !(["body", "caption", "col", "colgroup", "html", "tbody", "td", "tfoot", "th", "thead",
        "tr"].contains name) then foster again token
  | .endOfText => again (some .inBody) token

/-- The text inside a table: white space stays there, other text goes in front of it. -/
def inTableTextRules (again : HandOn) (token : Token) : Build Unit := do
  match token with
  | .null => return
  | .text white content => modify fun b => { b with tableText := (white, content) :: b.tableText }
  | token =>
    let b ← get
    set { b with tableText := [], mode := b.returnMode }
    if b.tableText.all (·.1) then
      for (_, content) in b.tableText.reverse do insertText content
    else
      for (white, content) in b.tableText.reverse do foster again (Token.text white content)
    again none token

/-- Inside the caption of a table. -/
def inCaptionRules (again : HandOn) (token : Token) : Build Unit := do
  let close : Build Bool := do
    if ← inTableScope ["caption"] then
      closeImplied ""
      popThrough ["caption"]
      clearToMarker
      enter .inTable
      return true
    else return false
  match token with
  | .startTag name _ _ =>
    if ["caption", "col", "colgroup", "tbody", "td", "tfoot", "th", "thead", "tr"].contains name then
      if ← close then again none token
    else again (some .inBody) token
  | .endTag name =>
    if name = "caption" then discard close
    else if name = "table" then
      if ← close then again none token
    else if !(["body", "col", "colgroup", "html", "tbody", "td", "tfoot", "th", "thead",
        "tr"].contains name) then again (some .inBody) token
  | _ => again (some .inBody) token

/-- Inside a group of columns. -/
def inColumnGroupRules (again : HandOn) (token : Token) : Build Unit := do
  let other : Build Unit := do
    if ← currentIs ["colgroup"] then leave again .inTable token
  match token with
  | .text true content => insertText content
  | .comment text => insertComment text
  | .doctype .. => return
  | .startTag name attributes _ =>
    if name = "html" then again (some .inBody) token
    else if name = "col" then insertVoid name attributes
    else if name = "template" then again (some .inHead) token
    else other
  | .endTag name =>
    if name = "colgroup" then
      if ← currentIs ["colgroup"] then
        pop
        enter .inTable
    else if name = "template" then closeTemplate
    else if name ≠ "col" then other
  | .endOfText => again (some .inBody) token
  | _ => other

/-- Inside the body, head or foot of a table. -/
def inTableBodyRules (again : HandOn) (token : Token) : Build Unit := do
  let sections := ["tbody", "tfoot", "thead"]
  let close : Build Unit := do
    clearTo sections
    pop
    enter .inTable
  let row (attributes : Attributes) : Build Unit := do
    clearTo sections
    insert "tr" attributes
    enter .inRow
  match token with
  | .startTag name attributes _ =>
    if name = "tr" then row attributes
    else if name = "td" || name = "th" then
      row []
      again none token
    else if ["caption", "col", "colgroup", "tbody", "tfoot", "thead"].contains name then
      if ← inTableScope sections then
        close
        again none token
    else again (some .inTable) token
  | .endTag name =>
    if sections.contains name then
      if ← inTableScope [name] then close
    else if name = "table" then
      if ← inTableScope sections then
        close
        again none token
    else if !(["body", "caption", "col", "colgroup", "html", "td", "th", "tr"].contains name) then
      again (some .inTable) token
  | _ => again (some .inTable) token

/-- Inside a row of a table. -/
def inRowRules (again : HandOn) (token : Token) : Build Unit := do
  let close : Build Bool := do
    if ← inTableScope ["tr"] then
      clearTo ["tr"]
      pop
      enter .inTableBody
      return true
    else return false
  match token with
  | .startTag name attributes _ =>
    if name = "td" || name = "th" then
      clearTo ["tr"]
      insert name attributes
      enter .inCell
      pushMarker
    else if ["caption", "col", "colgroup", "tbody", "tfoot", "thead", "tr"].contains name then
      if ← close then again none token
    else again (some .inTable) token
  | .endTag name =>
    if name = "tr" then discard close
    else if name = "table" then
      if ← close then again none token
    else if ["tbody", "tfoot", "thead"].contains name then
      if ← inTableScope [name] then
        if ← close then again none token
    else if !(["body", "caption", "col", "colgroup", "html", "td", "th"].contains name) then
      again (some .inTable) token
  | _ => again (some .inTable) token

/-- Closes the open cell. -/
def closeCell : Build Unit := do
  closeImplied ""
  popThrough ["td", "th"]
  clearToMarker
  enter .inRow

/-- Inside a cell of a table. -/
def inCellRules (again : HandOn) (token : Token) : Build Unit := do
  match token with
  | .startTag name _ _ =>
    if ["caption", "col", "colgroup", "tbody", "td", "tfoot", "th", "thead", "tr"].contains name then
      if ← inTableScope ["td", "th"] then
        closeCell
        again none token
    else again (some .inBody) token
  | .endTag name =>
    if name = "td" || name = "th" then
      if ← inTableScope [name] then
        closeImplied ""
        popThrough [name]
        clearToMarker
        enter .inRow
    else if ["table", "tbody", "tfoot", "thead", "tr"].contains name then
      if ← inTableScope [name] then
        closeCell
        again none token
    else if !(["body", "caption", "col", "colgroup", "html"].contains name) then again (some .inBody) token
  | _ => again (some .inBody) token

end Harvest.Markup.Build
