import Harvest.Yaml.Token

/-! The tree of a document, read from its tokens. A node may be named and stand in several places. -/

namespace Harvest.Yaml

/-- A node of a document. -/
inductive Node where
  | scalar (tag : Option String) (isPlain : Bool) (text : String)
  | sequence (items : List Node)
  | mapping (members : List (Node × Node))
  /-- A place inside a node that stands for the whole node. -/
  | endless
  deriving Repr, Inhabited

namespace Node

/-- A missing node. -/
def empty : Node :=
  .scalar none true ""

/-- What is known while a document is read. -/
structure Reading where
  /-- The tokens that follow. -/
  tokens : List Token
  /-- The named nodes, the last one first. -/
  names : List (String × Node) := []
  /-- What the handles of tags stand for. -/
  handles : List (String × String) := []

/-- A part of the reading of a document. -/
abbrev Reader (α : Type) := StateT Reading Option α

/-- The next token. -/
def peek : Reader (Option Token) := do
  return (← get).tokens.head?

/-- Passes the next token. -/
def pass : Reader Unit :=
  modify fun reading => { reading with tokens := reading.tokens.drop 1 }

/-- Passes the next token if it is the given one. -/
def accept (token : Token) : Reader Bool := do
  if (← peek) = some token then
    pass
    return true
  else return false

/-- Passes the given token; anything else is refused. -/
def expect (token : Token) : Reader Unit := do
  unless ← accept token do failure

/-- Does the reading stand before one of the given tokens, or at the end? -/
def isBefore (ends : List Token) : Reader Bool := do
  match ← peek with
  | some token => return ends.contains token
  | none => return true

/-- The full name of a tag. -/
def fullTag (handle name : String) : Reader String := do
  if handle = "" then return name
  else
    match (← get).handles.lookup handle with
    | some stands => return stands ++ name
    | none =>
      if handle = "!" then return "!" ++ name
      else if handle = "!!" then return "tag:yaml.org,2002:" ++ name
      else failure

/-- The name and the tag of a node, in any order. -/
def properties : Reader (Option String × Option String) := do
  match ← peek with
  | some (.anchor name) =>
    pass
    match ← peek with
    | some (.tag handle tag) =>
      pass
      return (some name, some (← fullTag handle tag))
    | _ => return (some name, none)
  | some (.tag handle tag) =>
    pass
    let tag ← fullTag handle tag
    match ← peek with
    | some (.anchor name) =>
      pass
      return (some name, some tag)
    | _ => return (none, some tag)
  | _ => return (none, none)

/-- Gives a node its name. -/
def register (name : Option String) (node : Node) : Reader Unit :=
  match name with
  | some name => modify fun reading => { reading with names := (name, node) :: reading.names }
  | none => return

mutual

/-- Reads a node. Blocks may start outside of brackets only, and a sequence without indentation only as a
member of a mapping. -/
def node (block unindented : Bool) : Nat → Reader Node
  | 0 => failure
  | fuel + 1 => do
    match ← peek with
    | some (.alias name) =>
      pass
      match (← get).names.lookup name with
      | some node => return node
      | none => failure
    | _ =>
      let (name, tag) ← properties
      -- Inside the node its name stands for a tree without end.
      register name .endless
      let found ← content block unindented (name.isSome || tag.isSome) tag fuel
      register name found
      return found

/-- Reads a node behind its name and tag. -/
def content (block unindented marked : Bool) (tag : Option String) : Nat → Reader Node
  | 0 => failure
  | fuel + 1 => do
    let next ← peek
    match next with
    | some (.scalar isPlain text) =>
      pass
      return .scalar tag isPlain text
    | some .flowSequence =>
      pass
      return .sequence (← flowItems true fuel)
    | some .flowMapping =>
      pass
      return .mapping (← flowMembers true fuel)
    | _ =>
      if unindented ∧ next = some .entry then return .sequence (← unindentedItems fuel)
      else if block ∧ next = some .blockSequence then
        pass
        return .sequence (← blockItems fuel)
      else if block ∧ next = some .blockMapping then
        pass
        return .mapping (← blockMembers fuel)
      else if marked then return .scalar tag true ""
      else failure

/-- Reads a node unless one of the given tokens follows. -/
def nodeOr (ends : List Token) (block unindented : Bool) : Nat → Reader Node
  | 0 => failure
  | fuel + 1 => do
    if ← isBefore ends then return .empty
    else node block unindented fuel

/-- Reads a node behind a token, or a missing one if the token does not follow. -/
def nodeBehind (token : Token) (ends : List Token) (block : Bool) : Nat → Reader Node
  | 0 => failure
  | fuel + 1 => do
    if ← accept token then nodeOr ends block block fuel
    else return .empty

/-- The items of a block up to its end. -/
def blockItems : Nat → Reader (List Node)
  | 0 => failure
  | fuel + 1 => do
    if ← accept .blockEnd then return []
    else
      expect .entry
      let item ← nodeOr [.entry, .blockEnd] true false fuel
      return item :: (← blockItems fuel)

/-- The items of a block at the column of the mapping around it. -/
def unindentedItems : Nat → Reader (List Node)
  | 0 => failure
  | fuel + 1 => do
    if ← accept .entry then
      let item ← nodeOr [.entry, .key, .value, .blockEnd] true false fuel
      return item :: (← unindentedItems fuel)
    else return []

/-- The members of a block up to its end. -/
def blockMembers : Nat → Reader (List (Node × Node))
  | 0 => failure
  | fuel + 1 => do
    if ← accept .blockEnd then return []
    else
      expect .key
      let key ← nodeOr [.key, .value, .blockEnd] true true fuel
      let value ← nodeBehind .value [.key, .value, .blockEnd] true fuel
      return (key, value) :: (← blockMembers fuel)

/-- The items of a sequence in brackets. An item may be a mapping with a single member. -/
def flowItems (first : Bool) : Nat → Reader (List Node)
  | 0 => failure
  | fuel + 1 => do
    if ← accept .flowSequenceEnd then return []
    else
      if !first then expect .comma
      if ← accept .flowSequenceEnd then return []
      else
        let item ←
          if ← accept .key then do
            let key ← nodeOr [.value, .comma, .flowSequenceEnd] false false fuel
            let value ← nodeBehind .value [.comma, .flowSequenceEnd] false fuel
            pure (.mapping [(key, value)])
          else node false false fuel
        return item :: (← flowItems false fuel)

/-- The members of a mapping in brackets. -/
def flowMembers (first : Bool) : Nat → Reader (List (Node × Node))
  | 0 => failure
  | fuel + 1 => do
    if ← accept .flowMappingEnd then return []
    else
      if !first then expect .comma
      if ← accept .flowMappingEnd then return []
      else
        let (key, value) ←
          if ← accept .key then do
            let key ← nodeOr [.value, .comma, .flowMappingEnd] false false fuel
            let value ← nodeBehind .value [.comma, .flowMappingEnd] false fuel
            pure (key, value)
          else do
            let key ← node false false fuel
            pure (key, .empty)
        return (key, value) :: (← flowMembers false fuel)

end

/-- Reads the directives before a document. A directive is not given twice, and the version is 1.1 or 1.2. -/
def directives (versioned : Bool) : Nat → Reader Unit
  | 0 => failure
  | fuel + 1 => do
    match ← peek with
    | some (.version major minor) =>
      if versioned ∨ major ≠ 1 ∨ (minor ≠ 1 ∧ minor ≠ 2) then failure
      pass
      directives true fuel
    | some (.handle name stands) =>
      if ((← get).handles.lookup name).isSome then failure
      modify fun reading => { reading with handles := (name, stands) :: reading.handles }
      pass
      directives versioned fuel
    | _ => return

/-- Passes the lines that end a document. -/
def documentEnds : Nat → Reader Unit
  | 0 => return
  | fuel + 1 => do
    if ← accept .documentEnd then documentEnds fuel

/-- Reads a text with one document, which may be missing. -/
def document (fuel : Nat) : Reader Node := do
  let isMark : Token → Bool
    | .version .. | .handle .. | .documentStart => true
    | _ => false
  match ← peek with
  | none => return .empty
  | some token =>
    let explicit := isMark token
    if explicit then
      directives false fuel
      expect .documentStart
    let absent ← (do return (← isBefore [.documentStart, .documentEnd]) || (← peek).any isMark)
    let root ← if explicit && absent then pure .empty else node true false fuel
    documentEnds fuel
    return root

/-- Reads a text with one document; a text with more is refused, and so is a malformed one. -/
def parse? (text : String) : Option Node := do
  let tokens ← tokens? text.toList
  let (root, reading) ← (document (4 * tokens.length + 4)).run { tokens }
  if reading.tokens.isEmpty then some root else none

end Node

end Harvest.Yaml
