/-!
# Help

What is said about the program and its commands when help is asked for: what a
command does, how it is called, and what its parts mean.
-/

namespace Scaffold

/-- The names of the commands, from the outside in, that help is about. -/
abbrev Topic := List String

namespace Help

/-- Something that help lists, and what it means. -/
structure Entry where
  name : String
  about : String

/-- The lines of a list, what the entries mean in one column. -/
def lines (entries : List Entry) : String :=
  let width := entries.foldl (fun width e => max width e.name.length) 0
  String.join (entries.map fun e =>
    let gap := String.ofList (List.replicate (width + 2 - e.name.length) ' ')
    "  " ++ e.name ++ gap ++ e.about ++ "\n")

/-- What help says about a command. -/
structure Page where
  about : String
  usage : String
  /-- The lists below the usage with their titles. -/
  sections : List (String × List Entry)

def Page.text (p : Page) : String :=
  p.about ++ "\n\nUsage: " ++ p.usage ++ "\n" ++
    String.join (p.sections.map fun (title, entries) => "\n" ++ title ++ ":\n" ++ lines entries)

/-! ## Options -/

/-- An option without a letter that takes a value. -/
def valued (name value about : String) : Entry := ⟨"    --" ++ name ++ " <" ++ value ++ ">", about⟩

def helpOption : Entry := ⟨"-h, --help", "Print help"⟩

def versionOption : Entry := ⟨"-V, --version", "Print version"⟩

def dirOption : Entry := valued "dir" "DIR" "Output directory for generated code"

def settingOptions : List Entry := [
  valued "style" "STYLE" "File naming style, e.g. gozero, go_zero, goZero",
  valued "home" "HOME" "Template home overriding SVCGEN_HOME and ~/.svcgen",
  valued "config" "CONFIG" "Config file, defaults to ./svcgen.toml when present"]

def generateOptions : List Entry :=
  [valued "spec" "SPEC" "Parsed specification document (YAML or JSON)", dirOption] ++ settingOptions

def mongoOptions : List Entry :=
  [valued "spec" "SPEC" "Specification document listing types, optional when --type is given",
    dirOption, valued "type" "TYPES" "Document type to generate a model for, repeatable",
    ⟨"    --cache", "Generate cached models"⟩] ++ settingOptions

def taskOptions (categoryAbout : String) : List Entry :=
  [valued "home" "HOME" "", valued "category" "CATEGORY" categoryAbout]

/-! ## Commands -/

def helpEntry : Entry :=
  ⟨"help", "Print this message or the help of the given subcommand(s)"⟩

def commands : List Entry := [
  ⟨"api", "Generate HTTP handlers and logic from an API specification"⟩,
  ⟨"rpc", "Generate RPC logic and service configuration from an RPC specification"⟩,
  ⟨"model", "Generate SQL table models"⟩,
  ⟨"mongo", "Generate Mongo collection models"⟩,
  ⟨"manifest", "Generate a Dockerfile and Kubernetes manifest"⟩,
  ⟨"template", "Manage on-disk template overrides"⟩,
  helpEntry]

/-- The tasks for custom templates. -/
def tasks : List Entry := [
  ⟨"init", "Write builtin templates that are not on disk yet"⟩,
  ⟨"clean", "Delete custom templates"⟩,
  ⟨"update", "Overwrite every template of a category with the builtin, discarding edits"⟩,
  ⟨"revert", "Restore one template to its builtin content"⟩,
  ⟨"list", "Show every template and whether it is builtin or custom"⟩,
  helpEntry]

def aboutOf (entries : List Entry) (name : String) : String :=
  ((entries.find? (·.name == name)).map (·.about)).getD ""

/-! ## Pages -/

/-- What stands behind the name of a command in its usage, and its options. -/
def details (topic : Topic) : String × List Entry :=
  match topic with
  | ["mongo"] => (" [OPTIONS] --dir <DIR>", mongoOptions)
  | [_] => (" [OPTIONS] --spec <SPEC> --dir <DIR>", generateOptions)
  | [_, "update"] => (" [OPTIONS] --category <CATEGORY>", taskOptions "")
  | [_, "revert"] =>
    (" [OPTIONS] --category <CATEGORY> --name <NAME>",
      taskOptions "" ++ [valued "name" "NAME" "Template file name, e.g. handler.tpl"])
  | _ => (" [OPTIONS]", taskOptions "Limit to one category")

/-- The page of a command. -/
def page (topic : Topic) : Page :=
  let call := String.intercalate " " ("svcgen" :: topic)
  let name := topic.getLast?.getD ""
  let about := aboutOf (if topic.length = 1 then commands else tasks) name
  if name = "help" then
    ⟨about, call ++ " [COMMAND]...",
      [("Arguments", [⟨"[COMMAND]...", "Print help for the subcommand(s)"⟩])]⟩
  else
    match topic with
    | [] =>
      ⟨"Generate HTTP, RPC, model and deployment scaffolding from service specifications " ++
          "using overridable templates",
        call ++ " <COMMAND>", [("Commands", commands), ("Options", [helpOption, versionOption])]⟩
    | ["template"] =>
      ⟨about, call ++ " <COMMAND>", [("Commands", tasks), ("Options", [helpOption])]⟩
    | topic =>
      let (behind, options) := details topic
      ⟨about, call ++ behind, [("Options", options ++ [helpOption])]⟩

/-- What is said about a command when help is asked for. -/
def text (topic : Topic) : String := (page topic).text

end Help

end Scaffold
