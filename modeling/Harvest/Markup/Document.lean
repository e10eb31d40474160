import Harvest.Markup.Insertion

/-! Reading a markup text as a document tree. Every text has a tree, and every tree has a root element with a
head and a body or frames. -/

namespace Harvest.Markup

/-- Reads tokens until the text ends; `fuel` exceeds their number. -/
def readTokens : Nat → List Char → Builder → Builder
  | 0, _, b => b
  | fuel + 1, s, b =>
    let foreign : Bool := match b.stack with
      | n :: _ => (b.arena.tag? n).any fun tag => tag.vocabulary != .html
      | [] => false
    match nextToken b.model foreign s with
    | (.endOfText, _) => ((Build.read .endOfText).run b).2
    | (token, rest) => readTokens fuel rest ((Build.read token).run b).2

/-- The document that a text amounts to. -/
def parseDocument (source : String) : List Node :=
  let s := normalizeNewlines (withoutMark source.toList)
  (readTokens (s.length + 2) s {}).arena.finish

end Harvest.Markup
