import Harvest.Text.Blank
import Harvest.Text.Pieces

/-! Paths of files: names between slashes. -/

namespace Harvest.Path

/-- Does a path start at the root? -/
def isAbsolute (path : String) : Bool :=
  path.toList.head? = some '/'

/-- A path inside a directory; one that starts at the root stays as it is. -/
def inside (directory path : String) : String :=
  if isAbsolute path || directory = "" then path
  else if directory.toList.getLast? = some '/' then directory ++ path
  else directory ++ "/" ++ path

/-- The names along a path, without the empty ones and those for the directory itself. -/
def names (path : String) : List String :=
  ((Text.splitAtChar '/' path.toList).map String.ofList).filter fun name => name ≠ "" ∧ name ≠ "."

/-- The last name of a path. -/
def name? (path : String) : Option String :=
  (names path).getLast?.filter (· ≠ "..")

/-- A name without and with what follows its last dot. A dot in front does not count. -/
def splitName (name : String) : String × Option String :=
  match Text.cutAtLast? '.' name.toList with
  | some (c :: stem, ending) => (String.ofList (c :: stem), some (String.ofList ending))
  | _ => (name, none)

/-- What follows the last dot in the last name of a path. -/
def extension? (path : String) : Option String :=
  (name? path).bind fun name => (splitName name).2

/-- The directory of a path, up to the last slash between two names. -/
def parent (path : String) : String :=
  let path := Text.dropRightWhile (· = '/') path.toList
  match Text.cutAtLast? '/' path with
  | some (directory, _) =>
    let directory := Text.dropRightWhile (· = '/') directory
    if directory.isEmpty then "/" else String.ofList directory
  | none => ""

/-- The place that a path leads to, from a directory that is given by its names. -/
def resolve (start : List String) (path : String) : List String :=
  (names path).foldl (fun place name => if name = ".." then place.dropLast else place ++ [name])
    (if isAbsolute path then [] else start)

end Harvest.Path
