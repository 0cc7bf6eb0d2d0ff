import Scaffold.Catalog.Repository

/-!
# The template home

The directory with all custom templates is chosen once. A home that was
registered or asked for stays for good; later registrations must name the same
one. When nothing was registered the environment decides.
-/

namespace Scaffold

open Text

/-- What the environment says about the home. -/
structure HomeSources where
  /-- The home that is named directly. -/
  override : Option String
  /-- The directory of the user. -/
  userHome : Option Path
  deriving DecidableEq

namespace HomeSources

def variable_ : String := "SVCGEN_HOME"

/-- The home below the directory of the user. -/
def folder : Path := ⟨".svcgen"⟩

/-- What environment variables say: a blank home and an empty directory of the
user do not count. -/
def ofVariables (home user : Option String) : HomeSources :=
  ⟨home.filter (trim · != ""), (user.filter (· != "")).map Path.mk⟩

/-- The home when none was registered. -/
def default (s : HomeSources) : Except Error Path :=
  match s.override, s.userHome with
  | some home, _ => .ok ⟨home⟩
  | none, some user => .ok (user.join folder)
  | none, none =>
    .error (.config
      ("cannot determine the user's home directory; pass --home or set " ++ variable_))

end HomeSources

/-- The home that was chosen, if any. -/
structure HomeChoice where
  chosen : Option Path
  deriving DecidableEq, Inhabited

namespace HomeChoice

def empty : HomeChoice := ⟨none⟩

/-- Chooses a home, or confirms the one that was chosen. -/
def register (c : HomeChoice) (path : Path) : Except Error HomeChoice :=
  match c.chosen with
  | none => .ok ⟨some path⟩
  | some home =>
    if home.same path then .ok c
    else
      .error (.config ("template home already set to " ++ home.text ++
        ", cannot change it to " ++ path.text))

/-- The home, chosen now by the environment if it was not chosen before. -/
def get (c : HomeChoice) (sources : HomeSources) : Except Error (Path × HomeChoice) :=
  match c.chosen with
  | some home => .ok (home, c)
  | none => sources.default.map fun home => (home, ⟨some home⟩)

/-- The repository below the home. -/
def repository (c : HomeChoice) (sources : HomeSources) :
    Except Error (Repository × HomeChoice) :=
  (c.get sources).map fun (home, c) => (⟨home⟩, c)

end HomeChoice

end Scaffold
