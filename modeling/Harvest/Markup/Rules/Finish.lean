import Harvest.Markup.Rules.Start

/-! The rules after the body, and those for sets of frames. -/

namespace Harvest.Markup.Build

/-- After the body. -/
def afterBodyRules (again : HandOn) (token : Token) : Build Unit := do
  match token with
  | .text true _ => again (some .inBody) token
  | .comment text => commentIn ((← get).stack.getLast?.getD 0) text
  | .doctype .. => return
  | .startTag "html" .. => again (some .inBody) token
  | .endTag "html" => enter .afterAfterBody
  | .endOfText => return
  | token =>
    enter .inBody
    again none token

/-- Inside a set of frames. -/
def inFramesetRules (again : HandOn) (token : Token) : Build Unit := do
  match token with
  | .text true content => insertText content
  | .comment text => insertComment text
  | .startTag name attributes _ =>
    if name = "html" then again (some .inBody) token
    else if name = "frameset" then insert name attributes
    else if name = "frame" then insertVoid name attributes
    else if name = "noframes" then again (some .inHead) token
  | .endTag "frameset" =>
    if 1 < (← get).stack.length then
      pop
      if !(← currentIs ["frameset"]) then enter .afterFrameset
  | _ => return

/-- After a set of frames. -/
def afterFramesetRules (again : HandOn) (token : Token) : Build Unit := do
  match token with
  | .text true content => insertText content
  | .comment text => insertComment text
  | .startTag "html" .. => again (some .inBody) token
  | .startTag "noframes" .. => again (some .inHead) token
  | .endTag "html" => enter .afterAfterFrameset
  | _ => return

/-- After the root element. -/
def afterAfterBodyRules (again : HandOn) (token : Token) : Build Unit := do
  match token with
  | .text true _ => again (some .inBody) token
  | .comment text => commentIn 0 text
  | .doctype .. => return
  | .startTag "html" .. => again (some .inBody) token
  | .endOfText => return
  | token =>
    enter .inBody
    again none token

/-- After the root element of a set of frames. -/
def afterAfterFramesetRules (again : HandOn) (token : Token) : Build Unit := do
  match token with
  | .text true _ => again (some .inBody) token
  | .comment text => commentIn 0 text
  | .startTag "html" .. => again (some .inBody) token
  | .startTag "noframes" .. => again (some .inHead) token
  | _ => return

end Harvest.Markup.Build
