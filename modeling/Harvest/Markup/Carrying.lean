import Harvest.Markup.Builder

/-! Formatting elements that misnested tags leave open are carried over: opened again for the text that
follows, or moved inside the block that their end tag cuts through. -/

namespace Harvest.Markup.Build

/-- Remembers an element as a formatting element; of four equal ones the earliest is forgotten. -/
def pushFormatting (n : Nat) (tag : Tag) : Build Unit :=
  modify fun b =>
    let alike (entry : Formatting) : Bool :=
      match entry with
      | .element _ other =>
        other.name == tag.name && other.attributes.length == tag.attributes.length &&
          tag.attributes.all fun (name, value) => other.attributes.lookup name == some value
      | .marker => false
    let recent : List Formatting := b.formatting.takeWhile (· ≠ .marker)
    let older := b.formatting.drop recent.length
    let kept :=
      if 3 ≤ (recent.filter alike).length then
        match recent.reverse.findIdx? alike with
        | some i => (recent.reverse.eraseIdx i).reverse
        | none => recent
      else recent
    { b with formatting := .element n tag :: kept ++ older }

/-- Opens the formatting elements again that are no longer open. -/
def reopenFormatting : Build Unit := do
  let b ← get
  let waiting := b.formatting.takeWhile fun
    | .marker => false
    | .element n _ => !b.stack.contains n
  let older := b.formatting.drop waiting.length
  let mut reopened : List Formatting := []
  for entry in waiting.reverse do
    match entry with
    | .element _ tag =>
      let n ← insertTag tag
      reopened := .element n tag :: reopened
    | .marker => pure ()
  modify fun b => { b with formatting := reopened ++ older }

/-- Opens a formatting element and remembers it. -/
def insertFormatting (name : String) (attributes : Attributes) : Build Unit := do
  let tag : Tag := { name, attributes }
  let n ← insertTag tag
  pushFormatting n tag

/-- Forgets a formatting element. -/
def forget (n : Nat) : Build Unit :=
  modify fun b => { b with formatting := b.formatting.filter fun entry => entry.number? ≠ some n }

/-- Closes the innermost open element of a name, unless a special element stands in between. -/
def closeNamed (name : String) : Build Unit := do
  let b ← get
  let tag (n : Nat) : Tag := (b.arena.tag? n).getD { name := "" }
  match b.stack.find? fun n => isNamed [name] (tag n) || isSpecial (tag n) with
  | none => return
  | some n =>
    if isNamed [name] (tag n) then
      closeImplied name
      modify fun b => { b with stack := (b.stack.dropWhile (· ≠ n)).drop 1 }

/-- The walk from the block up to the formatting element: every open element in between is closed, and those
that format are opened again around what was moved so far. It gives the elements that stay open, the last
moved entry, and the entry after which the formatting element is remembered. -/
def carryBetween (block : Nat) : List Nat → Nat → Nat → Option Nat → Build (List Nat × Nat × Option Nat)
  | [], _, last, mark => return ([], last, mark)
  | node :: above, count, last, mark => do
    let b ← get
    let entry := b.formatting.find? fun entry => entry.number? = some node
    match entry with
    | some (.element _ tag) =>
      if 3 < count then
        forget node
        carryBetween block above (count + 1) last mark
      else
        let fresh ← create (.element tag)
        modify fun b => { b with
          formatting := b.formatting.map fun entry =>
            if entry.number? = some node then .element fresh tag else entry }
        let mark := if last = block then some fresh else mark
        onArena (·.append fresh last)
        let (kept, last, mark) ← carryBetween block above (count + 1) fresh mark
        return (fresh :: kept, last, mark)
    | _ => carryBetween block above (count + 1) last mark

/-- One round of closing a formatting element of the given name; false when no further round is needed. -/
def carryOnce (name : String) : Build Bool := do
  let b ← get
  let tagAt (n : Nat) : Tag := (b.arena.tag? n).getD { name := "" }
  let recent := b.formatting.takeWhile (· ≠ .marker)
  let found := recent.findSome? fun
    | .element n tag => if tag.name = name then some (n, tag) else none
    | .marker => none
  match found with
  | none =>
    closeNamed name
    return false
  | some (n, tag) =>
    if !b.stack.contains n then
      forget n
      return false
    else
      let inner := b.stack.takeWhile (· ≠ n)
      if inner.any fun m => isBoundary (tagAt m) then return false
      else
        let outer := (b.stack.dropWhile (· ≠ n)).drop 1
        -- The outermost special element inside the formatting element.
        match inner.reverse.find? fun m => isSpecial (tagAt m) with
        | none =>
          modify fun b => { b with stack := outer }
          forget n
          return false
        | some block =>
          let above := inner.takeWhile (· ≠ block)
          let between := (inner.dropWhile (· ≠ block)).drop 1
          let (kept, last, mark) ← carryBetween block between 1 block none
          let where_ ← placeIn (outer.head?.getD 0)
          putAt last where_
          let fresh ← create (.element tag)
          onArena fun arena => (arena.moveChildren block fresh).append block fresh
          modify fun b =>
            let remembered : Formatting := .element fresh tag
            let formatting := match mark with
              | none => b.formatting.map fun entry =>
                  if entry.number? = some n then remembered else entry
              | some m =>
                (b.formatting.flatMap fun entry =>
                  if entry.number? = some m then [remembered, entry] else [entry]).filter
                  fun entry => entry.number? ≠ some n
            { b with formatting, stack := above ++ fresh :: block :: kept ++ outer }
          return true

/-- Rounds of closing a formatting element, at most the given number. -/
def carryRounds (name : String) : Nat → Build Unit
  | 0 => return
  | rounds + 1 => do
    if ← carryOnce name then carryRounds name rounds

/-- Closes a formatting element whose blocks may reach beyond its end tag. -/
def closeFormatting (name : String) : Build Unit := do
  let b ← get
  match b.stack with
  | n :: _ =>
    if (← currentIs [name]) && !b.formatting.any (fun entry => entry.number? = some n) then pop
    else carryRounds name 8
  | [] => return

end Harvest.Markup.Build
