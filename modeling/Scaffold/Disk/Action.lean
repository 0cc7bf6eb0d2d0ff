import Scaffold.Disk

/-!
# Actions on a disk

An action reads and changes a disk and gives a result or an error. What an
action did before its error stays done.
-/

namespace Scaffold

abbrev Action (α : Type) := ExceptT Error (StateM Disk) α

namespace Action

/-- The result of an action and the disk behind it. -/
def runOn {α : Type} (a : Action α) (d : Disk) : Except Error α × Disk := a d

/-- An answer that the disk gives and that leaves it as it is. -/
def ask {α : Type} (f : Disk → α) : Action α := fun d => (.ok (f d), d)

/-- A step that gives a new disk or leaves the old one with a fault at a path. -/
def change (p : Path) (f : Disk → Except IoFault Disk) : Action Unit := fun d =>
  match f d with
  | .ok d' => (.ok (), d')
  | .error fault => (.error (.io p.text fault), d)

def readText (p : Path) : Action String := fun d =>
  match d.readText p with
  | .ok text => (.ok text, d)
  | .error fault => (.error (.io p.text fault), d)

def makeDirectories (p : Path) : Action Unit := fun d =>
  match d.makeDirectories p with
  | (.ok (), d') => (.ok (), d')
  | (.error fault, d') => (.error (.io p.text fault), d')

def writeBytes (p : Path) (content : ByteArray) : Action Unit :=
  change p fun d => d.writeBytes p content

/-- Writes a file and makes the directories above it. -/
def writeFile (p : Path) (text : String) : Action Unit := do
  match p.parent? with
  | some up => makeDirectories up
  | none => pure ()
  writeBytes p text.toUTF8

/-- Gives another form to the error of an action. -/
def mapError {α : Type} (a : Action α) (f : Error → Error) : Action α := fun d =>
  match a d with
  | (.ok x, d') => (.ok x, d')
  | (.error e, d') => (.error (f e), d')

/-- A result that depends on no disk. -/
def ofExcept {α : Type} (r : Except Error α) : Action α := fun d => (r, d)

end Action

end Scaffold
