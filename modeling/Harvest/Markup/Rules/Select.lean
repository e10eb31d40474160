import Harvest.Markup.Rules.Start

/-! The rules inside selections and templates. -/

namespace Harvest.Markup.Build

/-- Inside a selection. -/
def inSelectRules (again : HandOn) (token : Token) : Build Unit := do
  match token with
  | .null => return
  | .text _ content => insertText content
  | .comment text => insertComment text
  | .doctype .. => return
  | .startTag name attributes _ =>
    if name = "html" then again (some .inBody) token
    else if name = "option" then
      if ← currentIs ["option"] then pop
      insert name attributes
    else if name = "optgroup" then
      if ← currentIs ["option"] then pop
      if ← currentIs ["optgroup"] then pop
      insert name attributes
    else if name = "select" then
      if ← inSelectScope ["select"] then
        popThrough ["select"]
        resetMode
    else if ["input", "keygen", "textarea"].contains name then
      if ← inSelectScope ["select"] then
        popThrough ["select"]
        resetMode
        again none token
    else if name = "script" || name = "template" then again (some .inHead) token
  | .endTag name =>
    if name = "optgroup" then
      let b ← get
      let above ← match b.stack[1]? with
        | some n => tagOf n
        | none => pure { name := "" }
      if (← currentIs ["option"]) && isNamed ["optgroup"] above then pop
      if ← currentIs ["optgroup"] then pop
    else if name = "option" then
      if ← currentIs ["option"] then pop
    else if name = "select" then
      if ← inSelectScope ["select"] then
        popThrough ["select"]
        resetMode
    else if name = "template" then closeTemplate
  | .endOfText => again (some .inBody) token

/-- Inside a selection that stands in a table. -/
def inSelectInTableRules (again : HandOn) (token : Token) : Build Unit := do
  let parts := ["caption", "table", "tbody", "tfoot", "thead", "tr", "td", "th"]
  match token with
  | .startTag name _ _ =>
    if parts.contains name then
      popThrough ["select"]
      resetMode
      again none token
    else again (some .inSelect) token
  | .endTag name =>
    if parts.contains name then
      if ← inTableScope [name] then
        popThrough ["select"]
        resetMode
        again none token
    else again (some .inSelect) token
  | _ => again (some .inSelect) token

/-- Inside a template. -/
def inTemplateRules (again : HandOn) (token : Token) : Build Unit := do
  let become (mode : Mode) : Build Unit := do
    modify fun b => { b with mode, templateModes := mode :: b.templateModes.drop 1 }
    again none token
  match token with
  | .startTag name _ _ =>
    if ["base", "basefont", "bgsound", "link", "meta", "noframes", "script", "style", "template",
        "title"].contains name then again (some .inHead) token
    else if ["caption", "colgroup", "tbody", "tfoot", "thead"].contains name then become .inTable
    else if name = "col" then become .inColumnGroup
    else if name = "tr" then become .inTableBody
    else if name = "td" || name = "th" then become .inRow
    else become .inBody
  | .endTag name => if name = "template" then closeTemplate
  | .endOfText =>
    if ← isOpen ["template"] then
      popThrough ["template"]
      clearToMarker
      modify fun b => { b with templateModes := b.templateModes.drop 1 }
      resetMode
      again none token
  | _ => again (some .inBody) token

end Harvest.Markup.Build
