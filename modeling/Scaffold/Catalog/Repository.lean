import Scaffold.Catalog.Builtin
import Scaffold.Disk.Action
import Scaffold.Version

/-!
# Template repositories

A repository finds the text of a key first among the custom templates below its
home and then among the builtin ones. The custom templates of one version of the
tool lie in a directory named after it, one directory per category. Maintenance
writes and removes custom templates and nothing else.
-/

namespace Scaffold

/-- Where a text came from. -/
inductive Origin where
  | builtin
  | custom
  deriving DecidableEq, Repr

def Origin.name : Origin → String
  | .builtin => "builtin"
  | .custom => "custom"

/-- The text that a key stands for. -/
structure TemplateRecord where
  key : TemplateKey
  text : String
  origin : Origin
  deriving DecidableEq, Repr

/-- A row of a list of templates. -/
structure TemplateListing where
  key : TemplateKey
  origin : Origin
  path : Path
  deriving DecidableEq, Repr

/-- The category that a text names. -/
def Category.ofText (text : String) : Except Error Category :=
  match Category.parse? text with
  | some c => .ok c
  | none =>
    .error (.config ("unexpected category: " ++ text ++ ", expected one of [" ++
      String.intercalate ", " (Category.all.map Category.name) ++ "]"))

structure Repository where
  home : Path
  deriving DecidableEq, Repr

namespace Repository

/-- The directory of the custom templates. -/
def root (r : Repository) : Path := r.home.join ⟨Version.tool⟩

def directoryOf (r : Repository) (c : Category) : Path := r.root.join ⟨c.name⟩

/-- Where the custom template of a key lies. -/
def pathOf (r : Repository) (key : TemplateKey) : Path :=
  (r.directoryOf key.category).join ⟨key.name⟩

/-! ## Looking up -/

def unknown (key : TemplateKey) : Error := .unknownTemplate key.category.name key.name

def isCustom (r : Repository) (key : TemplateKey) : Action Bool :=
  Action.ask fun d => d.isFile (r.pathOf key)

/-- The custom text of a key, if there is a file for it. -/
def customText? (r : Repository) (key : TemplateKey) : Action (Option String) := do
  if ← r.isCustom key then return some (← Action.readText (r.pathOf key))
  else return none

/-- The text that a key stands for. -/
def load (r : Repository) (key : TemplateKey) : Action TemplateRecord := do
  match ← r.customText? key with
  | some text => return ⟨key, text, .custom⟩
  | none =>
    match key.builtinText? with
    | some text => return ⟨key, text, .builtin⟩
    | none => throw (unknown key)

def originOf (r : Repository) (d : Disk) (key : TemplateKey) : Origin :=
  if d.isFile (r.pathOf key) then .custom else .builtin

/-- The keys of one category or of all. -/
def keysOf (category : Option Category) : List TemplateKey :=
  (category.elim Category.all ([·])).flatMap Category.keys

/-- The builtin keys of one category or of all, with the origins of their texts. -/
def list (r : Repository) (category : Option Category) : Action (List TemplateListing) :=
  Action.ask fun d => (keysOf category).map fun key => ⟨key, r.originOf d key, r.pathOf key⟩

/-! ## Maintenance -/

def write (r : Repository) (key : TemplateKey) (text : String) : Action Unit :=
  Action.writeFile (r.pathOf key) text

def writeBuiltin (r : Repository) (key : TemplateKey) : Action Unit :=
  match key.builtinText? with
  | some text => r.write key text
  | none => throw (unknown key)

/-- Writes the builtin text of every key that has no custom one, and counts them. -/
def initKeys (r : Repository) : List TemplateKey → Action Nat
  | [] => return 0
  | key :: keys => do
    if ← r.isCustom key then r.initKeys keys
    else
      r.writeBuiltin key
      return (← r.initKeys keys) + 1

def init (r : Repository) (categories : List Category) : Action Nat :=
  r.initKeys (categories.flatMap Category.keys)

/-- Removes the directory of a category if it is there. -/
def cleanOne (r : Repository) (c : Category) : Action Unit := do
  let dir := r.directoryOf c
  if ← Action.ask (·.pathExists dir) then Action.change dir (·.removeDirectory dir)

def cleanAll (r : Repository) : List Category → Action Unit
  | [] => return ()
  | c :: cs => do
    r.cleanOne c
    r.cleanAll cs

/-- Removes the custom templates of one category or of all. -/
def clean (r : Repository) (category : Option Category) : Action Unit :=
  r.cleanAll (category.elim Category.all ([·]))

def updateKeys (r : Repository) : List TemplateKey → Action Nat
  | [] => return 0
  | key :: keys => do
    r.writeBuiltin key
    return (← r.updateKeys keys) + 1

/-- Writes the builtin text of every key of a category, and counts them. -/
def update (r : Repository) (c : Category) : Action Nat := r.updateKeys c.keys

/-- Makes a key stand for its builtin text again; false when it already does so
through a file. -/
def revert (r : Repository) (key : TemplateKey) : Action Bool := do
  match key.builtinText? with
  | none => throw (unknown key)
  | some text =>
    if (← r.customText? key) == some text then return false
    else
      r.write key text
      return true

end Repository

end Scaffold
