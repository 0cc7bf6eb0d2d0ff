import Scaffold.Catalog.Category
import Scaffold.Context
import Scaffold.Error
import Scaffold.Path
import Scaffold.Text.Blank

/-!
# Targets

A target is a file to generate: where it lies below the output directory, the
template and context of its text, and whether it replaces a file that is there.
-/

namespace Scaffold

open Text

/-- What happens to a file that exists already. -/
inductive Overwrite where
  | always
  | ifMissing
  deriving DecidableEq, Repr

structure Target where
  /-- Directories below the output directory, with slashes between them. -/
  subdir : String
  filename : String
  template : TemplateKey
  context : Context
  overwrite : Overwrite
  /-- The node of the specification that the file is generated for. -/
  node : String
  deriving DecidableEq

namespace Target

def category (t : Target) : Category := t.template.category

/-- The names of the directories. -/
def folders (t : Target) : List String := (splitOn '/' t.subdir).filter (· != "")

/-- The path as errors show it. -/
def shownPath (t : Target) : String :=
  let dir := trimWhere (· == '/') t.subdir
  if dir = "" then t.filename else dir ++ "/" ++ t.filename

/-- Whether a directory stays below the one it is in. -/
def isConfinedFolder (name : String) : Bool :=
  name != ".." && name != "." && !name.toList.contains '\\'

def isConfinedFile (name : String) : Bool :=
  name != "" && name != ".." && name != "." && !name.toList.contains '/' &&
    !name.toList.contains '\\'

def escapes (t : Target) (what : String) : Error :=
  .config (t.node ++ ": " ++ what ++ " '" ++ t.shownPath ++
    "' would be written outside the output directory")

/-- The path below the output directory. The names are looked at one by one, and then
the components of the path that they make. -/
def relativePath (t : Target) : Except Error Path :=
  if t.folders.all isConfinedFolder then
    if isConfinedFile t.filename then
      let path : Path := ⟨String.intercalate "/" (t.folders ++ [t.filename])⟩
      if path.components.all (·.isName) then .ok path
      else .error (t.escapes "path")
    else .error (t.escapes "file")
  else .error (t.escapes "directory")

end Target

end Scaffold
