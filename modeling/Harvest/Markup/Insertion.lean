import Harvest.Markup.Rules.Body
import Harvest.Markup.Rules.Finish
import Harvest.Markup.Rules.Foreign
import Harvest.Markup.Rules.Select
import Harvest.Markup.Rules.Start
import Harvest.Markup.Rules.Table

/-! Reading tokens into the tree, each by the rules of the mode that is current. -/

namespace Harvest.Markup.Build

/-- Reads a token by the rules of a mode, or by the current ones. Handing on ends after `fuel` rounds. -/
def handle : Nat → HandOn
  | 0, _, _ => return
  | fuel + 1, mode, token => do
    let foreign ← if mode.isNone then isForeign token else pure false
    let again := handle fuel
    if foreign then foreignRules again token
    else match mode.getD (← get).mode with
      | .initial => initialRules again token
      | .beforeHtml => beforeHtmlRules again token
      | .beforeHead => beforeHeadRules again token
      | .inHead => inHeadRules again token
      | .afterHead => afterHeadRules again token
      | .inBody => inBodyRules again token
      | .text => textRules again token
      | .inTable => inTableRules again token
      | .inTableText => inTableTextRules again token
      | .inCaption => inCaptionRules again token
      | .inColumnGroup => inColumnGroupRules again token
      | .inTableBody => inTableBodyRules again token
      | .inRow => inRowRules again token
      | .inCell => inCellRules again token
      | .inSelect => inSelectRules again token
      | .inSelectInTable => inSelectInTableRules again token
      | .inTemplate => inTemplateRules again token
      | .afterBody => afterBodyRules again token
      | .inFrameset => inFramesetRules again token
      | .afterFrameset => afterFramesetRules again token
      | .afterAfterBody => afterAfterBodyRules again token
      | .afterAfterFrameset => afterAfterFramesetRules again token

/-- Reads one token; a line feed right after some start tags is dropped. -/
def read (token : Token) : Build Unit := do
  let b ← get
  set { b with skipNewline := false }
  let token := match token with
    | .text white ('\n' :: rest) => if b.skipNewline then Token.text white rest else token
    | _ => token
  match token with
  | .text _ [] => return
  | _ => handle (b.arena.entries.size + 100) none token

end Harvest.Markup.Build
