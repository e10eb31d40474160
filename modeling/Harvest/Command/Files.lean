import Harvest.Command.Path

/-! Files and directories kept in memory. A place is the list of the names that lead to it. -/

namespace Harvest

/-- Files with their texts, and directories. -/
structure Files where
  texts : List (List String × String) := []
  directories : List (List String) := []
  deriving Repr, Inhabited

namespace Files

/-- The text of a file. -/
def text? (files : Files) (place : List String) : Option String :=
  files.texts.lookup place

/-- Is there a directory, itself or as one on the way to something else? -/
def isDirectory (files : Files) (place : List String) : Bool :=
  place.isEmpty || files.directories.any (place.isPrefixOf ·) ||
    files.texts.any fun entry => place.isPrefixOf entry.1 && entry.1 ≠ place

/-- Is there anything? -/
def holds (files : Files) (place : List String) : Bool :=
  (files.text? place).isSome || files.isDirectory place

/-- Makes a directory and those around it, unless a file is in the way. -/
def makeDirectory? (files : Files) (place : List String) : Option Files :=
  if files.texts.any (·.1.isPrefixOf place) then none
  else some { files with directories := place :: files.directories }

/-- Writes a file of an existing directory. -/
def write? (files : Files) (place : List String) (text : String) : Option Files :=
  if files.isDirectory place || !files.isDirectory place.dropLast then none
  else some { files with texts := (place, text) :: files.texts.filter (·.1 ≠ place) }

/-- The names of the files of a directory. -/
def filesOf? (files : Files) (place : List String) : Option (List String) :=
  if files.isDirectory place then
    some (files.texts.filterMap fun (file, _) =>
      if file.dropLast = place then file.getLast? else none)
  else none

end Files

end Harvest
