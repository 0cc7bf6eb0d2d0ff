import Scaffold.Catalog.Repository
import Scaffold.Formatter
import Scaffold.Generation.Target
import Scaffold.Naming
import Scaffold.Template.Compiled

/-!
# Generating files

A generator renders the targets that a backend plans. All paths of a plan are
checked before the first file is written: they must stay below the output
directory, and no two may be the same. Then the targets are saved in the order
of the plan up to the first failure; every failure names the target.
-/

namespace Scaffold

/-- What a generator makes texts with: the engine for templates, what the surroundings
answer to a template that is rendered for a context, and the formatter. -/
structure Tools where
  formatter : Formatter
  engine : Template.Engine
  world : String → Context → Template.World

/-- A formatter beside the engine of this library, with surroundings that answer nothing. -/
instance : Coe Formatter Tools := ⟨fun formatter => ⟨formatter, .standard, fun _ _ => .silent⟩⟩

/-- The text of a template for a context. -/
def Tools.execute (tools : Tools) (t : CompiledTemplate) (context : Context) :
    Except Error String :=
  t.execute context tools.engine (tools.world t.name context)

structure Generator where
  repository : Repository
  style : NamingStyle
  gate : VersionGate
  tools : Tools

/-- Plans the files of a specification. Fragments can be rendered while planning. -/
structure Backend where
  name : String
  category : Category
  plan : Generator → Action (List Target)

/-- The paths of a run in the order of the plan. -/
structure Report where
  written : List Path
  skipped : List Path
  deriving DecidableEq

def Report.total (r : Report) : Nat := r.written.length + r.skipped.length

/-- What saving a target did. -/
inductive Saved where
  | written
  | skipped
  deriving DecidableEq, Repr

namespace CompiledTemplate

/-- Renders, formats and writes a file, unless it exists and is to be kept. -/
def saveWith (t : CompiledTemplate) (context : Context) (tools : Tools) (formatting : Formatting)
    (dest : Path) (overwrite : Overwrite) : Action Saved := do
  if overwrite = .ifMissing && (← Action.ask (·.pathExists dest)) then return .skipped
  else
    let text ← Action.ofExcept (tools.execute t context)
    let text ← formatting dest text
    Action.writeFile dest text
    return .written

/-- The same with the formatter among the tools. -/
def save (t : CompiledTemplate) (context : Context) (tools : Tools) (dest : Path)
    (overwrite : Overwrite) : Action Saved :=
  t.saveWith context tools tools.formatter.formatting dest overwrite

end CompiledTemplate

namespace Generator

/-- The file name of an identifier. -/
def fileName (g : Generator) (identifier extension : String) : String :=
  g.style.format identifier ++ extension

/-! ## Templates -/

/-- The template that a key stands for, with the names that it requires. -/
def compile (g : Generator) (key : TemplateKey) : Action CompiledTemplate := do
  let record ← g.repository.load key
  let template ← Action.ofExcept (CompiledTemplate.compile key.text record.text)
  return template.requiring key.required

/-- The text of a template that becomes a part of another one. -/
def renderFragment (g : Generator) (key : TemplateKey) (context : Context) (node : String) :
    Action String :=
  Action.mapError (do
    let template ← g.compile key
    Action.ofExcept (g.tools.execute template context)) (.generation key.category key.name node ·)

/-! ## Running a plan -/

/-- Puts the name of a target around an error. -/
def attributeTo (t : Target) (e : Error) : Error :=
  .generation t.category t.template.name t.node e

/-- Puts the name of a backend around an error that names nothing yet. -/
def attributePlan (b : Backend) : Error → Error
  | .generation c template node source => .generation c template node source
  | e => .generation b.category "" (b.name ++ " specification") e

/-- The targets with their paths, or the error of the first one whose path is
bad or was seen before. -/
def checkPaths (dir : Path) (seen : List Path) : List Target → Except Error (List (Target × Path))
  | [] => .ok []
  | t :: ts =>
    match t.relativePath with
    | .error e => .error (attributeTo t e)
    | .ok relative =>
      let path := dir.join relative
      if seen.any (·.same path) then .error (attributeTo t (.duplicatePath path.text))
      else (checkPaths dir (path :: seen) ts).map ((t, path) :: ·)

section Formatting

variable (formatting : Formatting)

/-- Generates one target. -/
def saveTargetWith (g : Generator) (t : Target) (dest : Path) : Action Saved :=
  Action.mapError (do
    let template ← g.compile t.template
    template.saveWith t.context g.tools formatting dest t.overwrite) (attributeTo t)

def saveAllWith (g : Generator) : List (Target × Path) → Action Report
  | [] => return ⟨[], []⟩
  | (t, dest) :: rest => do
    let saved ← g.saveTargetWith formatting t dest
    let report ← g.saveAllWith rest
    match saved with
    | .written => return ⟨dest :: report.written, report.skipped⟩
    | .skipped => return ⟨report.written, dest :: report.skipped⟩

/-- Generates the files of a backend below a directory. -/
def runWith (g : Generator) (b : Backend) (dir : Path) : Action Report := do
  let targets ← Action.mapError (b.plan g) (attributePlan b)
  let planned ← Action.ofExcept (checkPaths dir [] targets)
  g.saveAllWith formatting planned

end Formatting

/-! The generator's own formatter leaves the disk alone. -/

def saveTarget (g : Generator) (t : Target) (dest : Path) : Action Saved :=
  g.saveTargetWith g.tools.formatter.formatting t dest

def saveAll (g : Generator) (planned : List (Target × Path)) : Action Report :=
  g.saveAllWith g.tools.formatter.formatting planned

def run (g : Generator) (b : Backend) (dir : Path) : Action Report :=
  g.runWith g.tools.formatter.formatting b dir

end Generator

end Scaffold
