import Scaffold.CommandLine.Command
import Scaffold.CommandLine.Help
import Scaffold.Text.Cut

/-!
# Arguments

A command is a name followed by options. An option takes the argument after it
or the text after its equals sign; a text that starts with a hyphen is taken for
an option unless it is a hyphen alone. Arguments are read from left to right, and
the first one that asks for help or cannot be read ends the reading.
-/

namespace Scaffold

open Text

/-- Why arguments give no command. -/
inductive Stop where
  /-- The arguments cannot be read. -/
  | misuse
  | help (topic : Topic)
  | version
  deriving DecidableEq, Repr

namespace Arguments

/-- What an option takes. -/
inductive OptionKind where
  | path
  | text
  | category
  /-- A text; the option may be given again. -/
  | texts
  | flag
  deriving DecidableEq, Repr

abbrev Options := List (String × OptionKind)

/-- The options that were given with what they took, in order. -/
abbrev Given := List (String × String)

/-! ## Reading options -/

/-- Whether an option can take a text. -/
def OptionKind.accepts : OptionKind → String → Bool
  | .path, value => value != ""
  | .category, value => (Category.parse? value).isSome
  | .text, _ | .texts, _ | .flag, _ => true

/-- Adds what an option took, unless it may not take it or was given before. -/
def give (name : String) (kind : OptionKind) (value : String) (given : Given) :
    Except Stop Given :=
  if kind.accepts value && (kind = .texts || !(given.lookup name).isSome) then
    .ok (given ++ [(name, value)])
  else .error .misuse

/-- The name of a long option and the text after its equals sign. -/
def long? (arg : String) : Option (String × Option String) :=
  (stripPrefixChars ['-', '-'] arg.toList).map fun rest =>
    match cut "=" (String.ofList rest) with
    | some (name, value) => (name, some value)
    | none => (String.ofList rest, none)

def looksLikeOption (arg : String) : Bool := startsWith "-" arg && arg != "-"

/-- What an argument of a command stops the reading with when no option has its name. -/
def stopOf (topic : Topic) (arg : String) : Stop :=
  if arg = "--help" || startsWith "-h" arg then .help topic else .misuse

/-- Reads the options of a command. Two hyphens alone may only come last. -/
def scan (topic : Topic) (options : Options) : List String → Given → Except Stop Given
  | [], given => .ok given
  | arg :: rest, given =>
    if arg = "--" then if rest.isEmpty then .ok given else .error .misuse
    else
      match (long? arg).bind fun (name, value) =>
        (options.lookup name).map fun kind => (name, kind, value) with
      | none => .error (stopOf topic arg)
      | some (name, .flag, value) =>
        match value with
        | some _ => .error .misuse
        | none => (give name .flag "" given).bind (scan topic options rest)
      | some (name, kind, some value) => (give name kind value given).bind (scan topic options rest)
      | some (name, kind, none) =>
        match rest with
        | [] => .error .misuse
        | value :: rest =>
          if looksLikeOption value then .error .misuse
          else (give name kind value given).bind (scan topic options rest)

/-! ## Commands -/

def pathOf (given : Given) (name : String) : Option Path := (given.lookup name).map Path.mk

def categoryOf (given : Given) : Option Category :=
  (given.lookup "category").bind Category.parse?

/-- What must have been given. -/
def required {α : Type} : Option α → Except Stop α
  | some value => .ok value
  | none => .error .misuse

def generateOptions : Options :=
  [("spec", .path), ("dir", .path), ("style", .text), ("home", .path), ("config", .path)]

def mongoOptions : Options := generateOptions ++ [("type", .texts), ("cache", .flag)]

def readGenerateOptions (given : Given) : Except Stop GenerateOptions := do
  let dir ← required (pathOf given "dir")
  return ⟨dir, given.lookup "style", pathOf given "home", pathOf given "config"⟩

/-- A command that generates from the specification that it must be given. -/
def parseGenerate (name : String) (subject : Path → Subject) (args : List String) :
    Except Stop Command := do
  let given ← scan [name] generateOptions args []
  let spec ← required (pathOf given "spec")
  return .generate (subject spec) (← readGenerateOptions given)

def parseMongo (args : List String) : Except Stop Command := do
  let given ← scan ["mongo"] mongoOptions args []
  let types := (given.filter (·.1 == "type")).map (·.2)
  return .generate (.mongo (pathOf given "spec") types (given.lookup "cache").isSome)
    (← readGenerateOptions given)

/-- A task for custom templates, with the options that it knows besides the home. -/
def parseUpkeep (name : String) (options : Options) (task : Given → Except Stop Upkeep)
    (args : List String) : Except Stop Command := do
  let given ← scan ["template", name] (("home", .path) :: ("category", .category) :: options) args []
  return .upkeep (pathOf given "home") (← task given)

/-- Whether help can be asked for about the command with these names. -/
def hasHelp : Topic → Bool
  | [] => true
  | [name] => Help.commands.any (·.name == name)
  | ["template", task] => Help.tasks.any (·.name == task)
  | _ => false

def helpFor (topic : Topic) : Stop := if hasHelp topic then .help topic else .misuse

def parseTask : List String → Except Stop Command
  | [] => .error .misuse
  | name :: args =>
    match name with
    | "init" => parseUpkeep name [] (fun given => .ok (.init (categoryOf given))) args
    | "clean" => parseUpkeep name [] (fun given => .ok (.clean (categoryOf given))) args
    | "list" => parseUpkeep name [] (fun given => .ok (.list (categoryOf given))) args
    | "update" => parseUpkeep name [] (fun given => (required (categoryOf given)).map .update) args
    | "revert" =>
      parseUpkeep name [("name", .text)] (fun given => do
        let category ← required (categoryOf given)
        let name ← required (given.lookup "name")
        return .revert ⟨category, name⟩) args
    | "help" => .error (helpFor ("template" :: args))
    | _ => .error (stopOf ["template"] name)

/-- The command that arguments ask for. -/
def parse : List String → Except Stop Command
  | [] => .error .misuse
  | name :: args =>
    match name with
    | "api" => parseGenerate name .api args
    | "rpc" => parseGenerate name .rpc args
    | "model" => parseGenerate name .model args
    | "manifest" => parseGenerate name .manifest args
    | "mongo" => parseMongo args
    | "template" => parseTask args
    | "help" => .error (helpFor args)
    | _ =>
      if name = "--version" || startsWith "-V" name then .error .version
      else .error (stopOf [] name)

end Arguments

end Scaffold
