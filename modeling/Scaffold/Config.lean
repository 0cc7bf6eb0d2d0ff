import Scaffold.Disk.Action
import Scaffold.Formatter
import Scaffold.Naming
import Scaffold.Toml.Reader

/-!
# Settings

Settings come from three places: flags win over the settings file, and that wins
over the defaults. The file is a TOML document; fields that are not known do not
matter, and every formatter needs a command.
-/

namespace Scaffold

/-- The style that a text describes. -/
def NamingStyle.ofText (text : String) : Except Error NamingStyle :=
  match NamingStyle.parse? text with
  | some style => .ok style
  | none => .error (.invalidStyle text)

structure Config where
  style : Option String
  home : Option Path
  formatters : FormatterCommands
  deriving DecidableEq

namespace Config

def default : Config := ⟨none, none, FormatterCommands.empty⟩

instance : Inhabited Config := ⟨default⟩

/-- The name of the settings file of a directory. -/
def fileName : String := "svcgen.toml"

/-! ## Reading -/

/-- A text that may be missing but must be one when it is there. -/
def optionalText (fields : Toml.Fields) (key : String) : Option (Option String) :=
  match fields.lookup key with
  | none => some none
  | some value => value.text?.map some

def formattersOf (fields : Toml.Fields) : Option FormatterCommands :=
  match fields.lookup "formatters" with
  | none => some FormatterCommands.empty
  | some value => do
    let entries ← value.fields?
    let commands ← entries.mapM fun (extension, command) =>
      command.texts?.map fun command => (extension, command)
    return ⟨SortedMap.ofList commands⟩

def ofFields? (fields : Toml.Fields) : Option Config := do
  let style ← optionalText fields "style"
  let home ← optionalText fields "home"
  let formatters ← formattersOf fields
  return ⟨style, home.map Path.mk, formatters⟩

/-- The first extension, in the order of texts, whose command is empty. -/
def emptyCommand? (c : Config) : Option String :=
  (c.formatters.commands.entries.find? fun (_, command) => command.isEmpty).map (·.1)

/-- The settings of the document of a file. -/
def ofText (path : Path) (text : String) : Except Error Config :=
  match (Toml.parse? text).bind ofFields? with
  | none => .error (.configSyntax path.text "the document does not fit the settings")
  | some config =>
    match config.emptyCommand? with
    | some extension =>
      .error (.config ("Formatter for '." ++ extension ++ "' files has an empty command"))
    | none => .ok config

/-- Reads a settings file. -/
def load (path : Path) : Action Config := do
  let text ← Action.readText path
  Action.ofExcept (ofText path text)

/-- Reads the file that was asked for, which must exist, or else the settings
file of a directory if it has one. -/
def discover (explicit : Option Path) (dir : Path) : Action Config := do
  match explicit with
  | some path =>
    if ← Action.ask (·.pathExists path) then load path
    else throw (.config ("Config file not found: " ++ path.text))
  | none =>
    let path := dir.join ⟨fileName⟩
    if ← Action.ask (·.pathExists path) then load path else return default

/-! ## Flags over settings -/

/-- The naming style: that of the flag, of the file, or the default one. -/
def namingStyle (c : Config) (flag : Option String) : Except Error NamingStyle :=
  match flag.or c.style with
  | some text => NamingStyle.ofText text
  | none => .ok NamingStyle.default

/-- The template home: that of the flag or of the file. -/
def templateHome (c : Config) (flag : Option Path) : Option Path := flag.or c.home

end Config

end Scaffold
