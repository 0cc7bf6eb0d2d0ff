import Scaffold.CommandLine.Arguments
import Scaffold.Config
import Scaffold.Home
import Scaffold.Plan.Collections
import Scaffold.Plan.Deployment
import Scaffold.Plan.HttpService
import Scaffold.Plan.RemoteService
import Scaffold.Plan.Tables
import Scaffold.Spec.Loading

/-!
# Executing commands

A command changes a disk and ends with an exit status and two texts. A failure
is reported with its causes, the outermost first.
-/

namespace Scaffold

open Text

/-- Where a command runs. -/
structure Surroundings where
  workingDirectory : Path
  home : HomeSources
  deriving DecidableEq

/-- What a command leaves for its caller. -/
structure Outcome where
  status : Nat
  output : String
  errors : String
  deriving DecidableEq, Repr

/-! ## Failures -/

/-- An error and what was being done, if that needs to be said. -/
structure Failure where
  context : Option String
  error : Error
  deriving DecidableEq

namespace Failure

/-- The messages from the outside in. -/
def messages (f : Failure) : List String :=
  f.context.toList ++ f.error.message :: f.error.causes

/-- A text with a mark before its first line and blanks before the others. -/
def indented (mark : String) (s : String) : String :=
  mark ++ String.intercalate ("\n" ++ String.ofList (List.replicate mark.length ' '))
    (splitOn '\n' s)

/-- The number of a cause in five columns. -/
def numberMark (n : Nat) : String :=
  let digits := toString n
  String.ofList (List.replicate (5 - digits.length) ' ') ++ digits ++ ": "

def causeLines : List String → List String
  | [cause] => [indented "    " cause]
  | causes => causes.mapIdx fun n cause => indented (numberMark n) cause

/-- The report of a failure: its message and the causes below it. -/
def report (f : Failure) : String :=
  match f.messages with
  | [] => "Error: "
  | [message] => "Error: " ++ message
  | message :: causes =>
    "Error: " ++ message ++ "\n\nCaused by:\n" ++ String.intercalate "\n" (causeLines causes)

end Failure

/-- A part of a command. -/
abbrev Step (α : Type) := ExceptT Failure (StateM Disk) α

namespace Step

/-- An action whose error speaks for itself, or is put into a context. -/
def ofAction {α : Type} (a : Action α) (context : Option String) : Step α := fun d =>
  match a d with
  | (.ok x, d) => (.ok x, d)
  | (.error e, d) => (.error ⟨context, e⟩, d)

def act {α : Type} (a : Action α) : Step α := ofAction a none

end Step

/-! ## Generating -/

namespace Command

/-- The repository below the home of the flag, the settings or the environment. -/
def openRepository (at_ : Surroundings) (config : Config) (home : Option Path) :
    Except Error Repository := do
  let choice ←
    match config.templateHome home with
    | some home => HomeChoice.empty.register home
    | none => .ok HomeChoice.empty
  let (repository, _) ← choice.repository at_.home
  return repository

/-- Reads the specification and gives the backend for it. -/
def backendOf : Subject → Action Backend
  | .api spec => return (← (Spec.load spec : Action ApiSpec)).backend
  | .rpc spec => return (← (Spec.load spec : Action RpcSpec)).backend
  | .model spec => return (← (Spec.load spec : Action ModelSpec)).backend
  | .manifest spec => return (← (Spec.load spec : Action ManifestSpec)).backend
  | .mongo spec types cache => do
    let found ←
      match spec with
      | some path => (Spec.load path : Action MongoSpec)
      | none => pure ⟨[], false⟩
    return MongoSpec.backend ⟨found.types ++ types, found.cache || cache⟩

def reportText (r : Report) : String :=
  String.join (r.written.map fun path => "  generated " ++ path.text ++ "\n") ++
    String.join (r.skipped.map fun path => "  kept      " ++ path.text ++ "\n") ++
    "\n✅ Done: " ++ toString r.written.length ++ " written, " ++ toString r.skipped.length ++
    " kept\n"

/-- The generator that options and settings describe. -/
def generatorOf (at_ : Surroundings) (options : GenerateOptions) : Action Generator := do
  let config ← Config.discover options.config at_.workingDirectory
  let style ← Action.ofExcept (config.namingStyle options.style)
  let repository ← Action.ofExcept (openRepository at_ config options.home)
  return ⟨repository, style, ⟨Version.tool⟩, config.formatters.formatter⟩

def runGenerate (at_ : Surroundings) (subject : Subject) (options : GenerateOptions) :
    Step String := do
  let backend ← Step.act (backendOf subject)
  let generator ← Step.act (generatorOf at_ options)
  let report ←
    Step.ofAction (generator.run backend options.dir) (some (backend.name ++ " generation failed"))
  return reportText report

/-! ## Looking after custom templates -/

/-- The name of an origin in eight columns. -/
def originColumn (o : Origin) : String :=
  o.name ++ String.ofList (List.replicate (8 - o.name.length) ' ')

def listingText (listing : TemplateListing) : String :=
  "  " ++ originColumn listing.origin ++ " " ++ listing.key.text ++ "\n"

def doTask (r : Repository) : Upkeep → Action String
  | .init category => do
    let count ← r.init (category.elim Category.all ([·]))
    return "Templates are generated in " ++ r.root.text ++ " (" ++ toString count ++
      " new), edit at your own risk!\n"
  | .clean category => do
    r.clean category
    return "✅ Templates are clean!\n"
  | .update category => do
    let count ← r.update category
    return "✅ " ++ category.name ++ " templates are updated (" ++ toString count ++ " files)\n"
  | .revert key => do
    if ← r.revert key then return "✅ " ++ key.text ++ " reverted to builtin\n"
    else return key.text ++ " already matches builtin\n"
  | .list category => do
    let listings ← r.list category
    return "Templates in " ++ r.root.text ++ ":\n" ++ String.join (listings.map listingText)

def runUpkeep (at_ : Surroundings) (home : Option Path) (task : Upkeep) : Step String := do
  let config ← Step.act (Config.discover none at_.workingDirectory)
  let repository ← Step.act (Action.ofExcept (openRepository at_ config home))
  Step.act (doTask repository task)

/-! ## Command lines -/

def execute (at_ : Surroundings) : Command → Step String
  | .generate subject options => runGenerate at_ subject options
  | .upkeep home task => runUpkeep at_ home task

end Command

namespace CommandLine

/-- What comes of arguments that give no command. -/
def stopped : Stop → Outcome
  | .version => ⟨0, "svcgen " ++ Version.tool ++ "\n", ""⟩
  | .help topic => ⟨0, Help.text topic, ""⟩
  | .misuse => ⟨2, "", "error: the arguments cannot be read\n\n" ++ Help.text []⟩

/-- Runs the command that arguments ask for. -/
def run (at_ : Surroundings) (args : List String) (d : Disk) : Outcome × Disk :=
  match Arguments.parse args with
  | .error stop => (stopped stop, d)
  | .ok command =>
    match command.execute at_ d with
    | (.ok output, d) => (⟨0, output, ""⟩, d)
    | (.error failure, d) => (⟨1, "", failure.report ++ "\n"⟩, d)

end CommandLine

end Scaffold
