import Harvest.Markup.Carrying

/-! The rules before the body. A rule may hand its token on: to the
rules of a named mode, or to those of the mode that is now current. -/

namespace Harvest.Markup.Build

/-- Hands a token on: to the rules of a mode, or to the current ones. -/
abbrev HandOn := Option Mode → Token → Build Unit

/-- Closes the innermost element and hands the token on to the mode that follows. -/
def leave (again : HandOn) (mode : Mode) (token : Token) : Build Unit := do
  pop
  enter mode
  again none token

/-- Document types whose public identifier begins with one of these are read by the older rules. -/
def olderBeginnings : List String := [
  "-//advasoft ltd//dtd html 3.0 aswedit + extensions//", "-//as//dtd html 3.0 aswedit + extensions//",
  "-//ietf//dtd html 2.0 level 1//", "-//ietf//dtd html 2.0 level 2//",
  "-//ietf//dtd html 2.0 strict level 1//", "-//ietf//dtd html 2.0 strict level 2//",
  "-//ietf//dtd html 2.0 strict//", "-//ietf//dtd html 2.0//", "-//ietf//dtd html 2.1e//",
  "-//ietf//dtd html 3.0//", "-//ietf//dtd html 3.2 final//", "-//ietf//dtd html 3.2//",
  "-//ietf//dtd html 3//", "-//ietf//dtd html level 0//", "-//ietf//dtd html level 1//",
  "-//ietf//dtd html level 2//", "-//ietf//dtd html level 3//", "-//ietf//dtd html strict level 0//",
  "-//ietf//dtd html strict level 1//", "-//ietf//dtd html strict level 2//",
  "-//ietf//dtd html strict level 3//", "-//ietf//dtd html strict//", "-//ietf//dtd html//",
  "-//metrius//dtd metrius presentational//", "-//microsoft//dtd internet explorer 2.0 html strict//",
  "-//microsoft//dtd internet explorer 2.0 html//", "-//microsoft//dtd internet explorer 2.0 tables//",
  "-//microsoft//dtd internet explorer 3.0 html strict//",
  "-//microsoft//dtd internet explorer 3.0 html//", "-//microsoft//dtd internet explorer 3.0 tables//",
  "-//netscape comm. corp.//dtd html//", "-//netscape comm. corp.//dtd strict html//",
  "-//o'reilly and associates//dtd html 2.0//", "-//o'reilly and associates//dtd html extended 1.0//",
  "-//o'reilly and associates//dtd html extended relaxed 1.0//",
  "-//softquad software//dtd hotmetal pro 6.0::19990601::extensions to html 4.0//",
  "-//softquad//dtd hotmetal pro 4.0::19971010::extensions to html 4.0//",
  "-//spyglass//dtd html 2.0 extended//", "-//sq//dtd html 2.0 hotmetal + extensions//",
  "-//sun microsystems corp.//dtd hotjava html//", "-//sun microsystems corp.//dtd hotjava strict html//",
  "-//w3c//dtd html 3 1995-03-24//", "-//w3c//dtd html 3.2 draft//", "-//w3c//dtd html 3.2 final//",
  "-//w3c//dtd html 3.2//", "-//w3c//dtd html 3.2s draft//", "-//w3c//dtd html 4.0 frameset//",
  "-//w3c//dtd html 4.0 transitional//", "-//w3c//dtd html experimental 19960712//",
  "-//w3c//dtd html experimental 970421//", "-//w3c//dtd w3 html//", "-//w3o//dtd w3 html 3.0//",
  "-//webtechs//dtd mozilla html 2.0//", "-//webtechs//dtd mozilla html//"]

/-- Does a document type ask for the older rules? -/
def isOlder (name publicId systemId : Option String) (forceOlder : Bool) : Bool :=
  let begins (text start : String) : Bool := start.toList.isPrefixOf text.toList
  let byPublic := match publicId.map Text.lower with
    | none => false
    | some text =>
      ["-//w3o//dtd w3 html strict 3.0//en//", "-/w3c/dtd html 4.0 transitional/en", "html"].contains text ||
        olderBeginnings.any (begins text) ||
        (systemId.isNone && (begins text "-//w3c//dtd html 4.01 frameset//" ||
          begins text "-//w3c//dtd html 4.01 transitional//"))
  forceOlder || name ≠ some "html" || byPublic ||
    systemId.map Text.lower = some "http://www.ibm.com/data/dtd/v11/ibmxhtml1-transitional.dtd"

/-- Before anything was read. -/
def initialRules (again : HandOn) (token : Token) : Build Unit := do
  match token with
  | .text true _ => return
  | .comment text => commentIn 0 text
  | .doctype name publicId systemId forceOlder =>
    modify fun b => { b with
      olderRules := isOlder name publicId systemId forceOlder, mode := .beforeHtml }
  | token =>
    modify fun b => { b with olderRules := true, mode := .beforeHtml }
    again none token

/-- Inserts the root element. -/
def insertRoot (attributes : Attributes) : Build Unit := do
  let n ← create (.element { name := "html", attributes })
  onArena (·.append 0 n)
  modify fun b => { b with stack := [n], mode := .beforeHead }

/-- Before the root element. -/
def beforeHtmlRules (again : HandOn) (token : Token) : Build Unit := do
  match token with
  | .doctype .. => return
  | .comment text => commentIn 0 text
  | .text true _ => return
  | .startTag "html" attributes _ => insertRoot attributes
  | .endTag name =>
    if ["head", "body", "html", "br"].contains name then
      insertRoot []
      again none token
  | token =>
    insertRoot []
    again none token

/-- Inserts the head and remembers it. -/
def insertHead (attributes : Attributes) : Build Unit := do
  let n ← insertTag { name := "head", attributes }
  modify fun b => { b with head := some n, mode := .inHead }

/-- Before the head. -/
def beforeHeadRules (again : HandOn) (token : Token) : Build Unit := do
  match token with
  | .text true _ => return
  | .comment text => insertComment text
  | .doctype .. => return
  | .startTag "html" .. => again (some .inBody) token
  | .startTag "head" attributes _ => insertHead attributes
  | .endTag name =>
    if ["head", "body", "html", "br"].contains name then
      insertHead []
      again none token
  | token =>
    insertHead []
    again none token

/-- Closes a template. -/
def closeTemplate : Build Unit := do
  if ← isOpen ["template"] then
    closeImpliedThoroughly
    popThrough ["template"]
    clearToMarker
    modify fun b => { b with templateModes := b.templateModes.drop 1 }
    resetMode

/-- Inside the head. -/
def inHeadRules (again : HandOn) (token : Token) : Build Unit := do
  let other : Build Unit := leave again .afterHead token
  match token with
  | .text true content => insertText content
  | .comment text => insertComment text
  | .doctype .. => return
  | .startTag name attributes _ =>
    match name with
    | "html" => again (some .inBody) token
    | "base" => insertVoid name attributes
    | "basefont" => insertVoid name attributes
    | "bgsound" => insertVoid name attributes
    | "link" => insertVoid name attributes
    | "meta" => insertVoid name attributes
    | "title" => insertRun name attributes (.references name)
    | "noscript" => insertRun name attributes (.raw name)
    | "noframes" => insertRun name attributes (.raw name)
    | "style" => insertRun name attributes (.raw name)
    | "script" => insertRun name attributes .script
    | "template" =>
      insert name attributes
      pushMarker
      forbidFrameset
      modify fun b => { b with mode := .inTemplate, templateModes := .inTemplate :: b.templateModes }
    | "head" => return
    | _ => other
  | .endTag name =>
    if name = "head" then
      pop
      enter .afterHead
    else if name = "template" then closeTemplate
    else if ["body", "html", "br"].contains name then other
  | _ => other

/-- After the head. -/
def afterHeadRules (again : HandOn) (token : Token) : Build Unit := do
  let other : Build Unit := do
    insert "body" []
    enter .inBody
    again none token
  match token with
  | .text true content => insertText content
  | .comment text => insertComment text
  | .doctype .. => return
  | .startTag name attributes _ =>
    if name = "html" then again (some .inBody) token
    else if name = "body" then
      insert name attributes
      forbidFrameset
      enter .inBody
    else if name = "frameset" then
      insert name attributes
      enter .inFrameset
    else if ["base", "basefont", "bgsound", "link", "meta", "noframes", "script", "style", "template",
        "title"].contains name then
      -- The head is opened again for this one element.
      match (← get).head with
      | none => return
      | some head =>
        modify fun b => { b with stack := head :: b.stack }
        again (some .inHead) token
        modify fun b => { b with stack := b.stack.filter (· ≠ head) }
    else if name ≠ "head" then other
  | .endTag name =>
    if name = "template" then closeTemplate
    else if ["body", "html", "br"].contains name then other
  | _ => other

end Harvest.Markup.Build
