import Harvest.Markup.Node

/-! A tree under construction: numbered entries that can be appended, moved and removed, and the finished
tree that they amount to. -/

namespace Harvest.Markup

/-- What an entry is. -/
inductive EntryKind where
  | document
  | element (tag : Tag)
  | text (content : String)
  | comment (content : String)
  deriving Repr, Inhabited

/-- An entry with its place in the tree. -/
structure Entry where
  kind : EntryKind
  parent : Option Nat := none
  children : Array Nat := #[]
  deriving Repr, Inhabited

/-- Numbered entries; the document itself has number zero. -/
structure Arena where
  entries : Array Entry := #[{ kind := .document }]
  deriving Repr, Inhabited

namespace Arena

/-- The tag of an element. -/
def tag? (arena : Arena) (n : Nat) : Option Tag :=
  match arena.entries[n]? with
  | some ⟨.element tag, _, _⟩ => some tag
  | _ => none

/-- The parent of an entry. -/
def parent? (arena : Arena) (n : Nat) : Option Nat :=
  arena.entries[n]? >>= Entry.parent

/-- The children of an entry. -/
def children (arena : Arena) (n : Nat) : Array Nat :=
  (arena.entries[n]?.map Entry.children).getD #[]

/-- Adds an entry that has no place yet and gives its number. -/
def add (arena : Arena) (kind : EntryKind) : Nat × Arena :=
  (arena.entries.size, { arena with entries := arena.entries.push { kind } })

/-- Changes one entry. -/
def change (arena : Arena) (n : Nat) (f : Entry → Entry) : Arena :=
  { arena with entries := arena.entries.modify n f }

/-- Takes an entry from its place. -/
def detach (arena : Arena) (n : Nat) : Arena :=
  match arena.parent? n with
  | none => arena
  | some parent =>
    (arena.change parent fun entry =>
      { entry with children := entry.children.filter (· ≠ n) }).change n fun entry =>
        { entry with parent := none }

/-- Moves an entry to the end of another one's children. -/
def append (arena : Arena) (parent n : Nat) : Arena :=
  ((arena.detach n).change parent fun entry => { entry with children := entry.children.push n }).change n
    fun entry => { entry with parent := some parent }

/-- Moves an entry in front of another one. -/
def insertBefore (arena : Arena) (sibling n : Nat) : Arena :=
  match arena.parent? sibling with
  | none => arena
  | some parent =>
    let arena := arena.detach n
    let before := (arena.children parent).takeWhile (· ≠ sibling)
    let after := (arena.children parent).extract before.size (arena.children parent).size
    (arena.change parent fun entry => { entry with children := before.push n ++ after }).change n
      fun entry => { entry with parent := some parent }

/-- Moves all children of one entry to the end of another one's. -/
def moveChildren (arena : Arena) (source target : Nat) : Arena :=
  (arena.children source).foldl (fun arena child => arena.append target child) arena

/-- Lengthens the text of an entry, if it is a text. -/
def lengthen? (arena : Arena) (n : Nat) (more : String) : Option Arena :=
  match arena.entries[n]? with
  | some ⟨.text content, _, _⟩ =>
    some (arena.change n fun entry => { entry with kind := .text (content ++ more) })
  | _ => none

/-- Appends text, joining it to a text that is already at the end. -/
def appendText (arena : Arena) (parent : Nat) (more : String) : Arena :=
  match (arena.children parent).back? >>= fun last => arena.lengthen? last more with
  | some arena => arena
  | none =>
    let (n, arena) := arena.add (.text more)
    arena.append parent n

/-- Puts text in front of an entry, joining it to a text that is already there. -/
def insertTextBefore (arena : Arena) (sibling : Nat) (more : String) : Arena :=
  let before : Option Nat := do
    let parent ← arena.parent? sibling
    ((arena.children parent).takeWhile (· ≠ sibling)).back?
  match before >>= fun last => arena.lengthen? last more with
  | some arena => arena
  | none =>
    let (n, arena) := arena.add (.text more)
    arena.insertBefore sibling n

/-- The finished nodes with the given numbers; `depth` bounds how far down they are followed. -/
def nodes (arena : Arena) : Nat → List Nat → List Node
  | 0, _ => []
  | depth + 1, numbers =>
    numbers.filterMap fun (n : Nat) =>
      match (arena.entries[n]? : Option Entry) with
      | some ⟨.element tag, _, children⟩ =>
        some (.element tag (nodes arena depth children.toList))
      | some ⟨.text content, _, _⟩ => some (.text content)
      | some ⟨.comment content, _, _⟩ => some (.comment content)
      | _ => none

/-- The finished document: its nodes in order. -/
def finish (arena : Arena) : List Node :=
  arena.nodes (arena.entries.size + 1) (arena.children 0).toList

end Arena

end Harvest.Markup
