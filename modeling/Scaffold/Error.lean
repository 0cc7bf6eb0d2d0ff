import Scaffold.Catalog.Category

/-!
# Errors

Every failure is a cause with the data that names it. The wording lives in one
place: `headline` is the message without the explanation that a reader of
templates or documents adds, and `message` is the whole of it.
-/

namespace Scaffold

/-- Why an operation on files fails. -/
inductive IoFault where
  | notFound
  | alreadyExists
  | notADirectory
  | isADirectory
  | nameTooLong
  | invalidUtf8
  | nulInName
  | noParent
  | other (text : String)
  deriving DecidableEq, Repr, Inhabited

def IoFault.message : IoFault → String
  | .notFound => "No such file or directory (os error 2)"
  | .alreadyExists => "File exists (os error 17)"
  | .notADirectory => "Not a directory (os error 20)"
  | .isADirectory => "Is a directory (os error 21)"
  | .nameTooLong => "File name too long (os error 36)"
  | .invalidUtf8 => "stream did not contain valid UTF-8"
  | .nulInName => "file name contained an unexpected NUL byte"
  | .noParent => "failed to create whole tree"
  | .other text => text

inductive Error where
  /-- A bad or missing parameter. -/
  | config (detail : String)
  /-- A configuration document that cannot be read as one. -/
  | configSyntax (path detail : String)
  | templateSyntax (template detail : String)
  /-- The context gives no value to a name that the template needs. -/
  | missingContextKey (template key : String)
  /-- The key has neither a custom nor a builtin template. -/
  | unknownTemplate (category name : String)
  | io (path : String) (fault : IoFault)
  | versionParse (text : String)
  | invalidStyle (text : String)
  /-- The formatter refused the text of a file. -/
  | format (path detail : String)
  /-- Any failure of rendering other than a missing name. -/
  | render (template detail : String)
  /-- Two targets of one run have the same path. -/
  | duplicatePath (path : String)
  | specLoad (path detail : String)
  /-- The failure of one step, with what was being generated. The template is
  empty when none had been chosen. -/
  | generation (category : Category) (template node : String) (source : Error)
  deriving DecidableEq, Repr, Inhabited

namespace Error

/-- The kinds of error that callers tell apart. -/
def kind : Error → String
  | config _ | configSyntax _ _ => "Config"
  | templateSyntax _ _ => "TemplateSyntax"
  | missingContextKey _ _ => "MissingContextKey"
  | unknownTemplate _ _ => "UnknownTemplate"
  | io _ _ => "Io"
  | versionParse _ => "VersionParse"
  | invalidStyle _ => "InvalidStyle"
  | format _ _ => "Format"
  | render _ _ => "Render"
  | duplicatePath _ => "DuplicatePath"
  | specLoad _ _ => "SpecLoad"
  | generation _ _ _ _ => "Generation"

/-- How a generation failure names the template, if one had been chosen. -/
def templateSuffix (template : String) : String :=
  if template = "" then "" else " (template " ++ template ++ ")"

/-- The message without the explanation of a reader. -/
def headline : Error → String
  | config detail => "Configuration error: " ++ detail
  | configSyntax path _ => "Configuration error: Failed to parse " ++ path
  | templateSyntax template _ => "Template syntax error in '" ++ template ++ "'"
  | missingContextKey template key =>
    "Missing context key '" ++ key ++ "' while rendering '" ++ template ++ "'"
  | unknownTemplate category name => "Unknown template: " ++ category ++ "/" ++ name
  | io path fault => "I/O error at " ++ path ++ ": " ++ fault.message
  | versionParse text => "Invalid version string: " ++ text
  | invalidStyle text =>
    "Invalid naming style '" ++ text ++
      "', expected a combination of 'go' and 'zero' such as go_zero"
  | format path detail => "Formatter failed for " ++ path ++ ": " ++ detail
  | render template _ => "Failed to render '" ++ template ++ "'"
  | duplicatePath path => "Duplicate output path in one generation run: " ++ path
  | specLoad path _ => "Failed to load specification " ++ path
  | generation category template node source =>
    category.name ++ " generation failed for " ++ node ++ templateSuffix template ++ ": " ++
      source.headline

/-- The explanation that `headline` leaves out. -/
def explanation? : Error → Option String
  | configSyntax _ detail | templateSyntax _ detail | render _ detail | specLoad _ detail =>
    some detail
  | generation _ _ _ source => source.explanation?
  | _ => none

def message (e : Error) : String :=
  match e.explanation? with
  | some detail => e.headline ++ ": " ++ detail
  | none => e.headline

/-- The innermost error, generation steps skipped. -/
def rootCause : Error → Error
  | generation _ _ _ source => source.rootCause
  | e => e

/-- The messages of the errors and faults that caused this one, nearest first. -/
def causes : Error → List String
  | generation _ _ _ source => source.message :: source.causes
  | io _ fault => [fault.message]
  | _ => []

end Error

end Scaffold
