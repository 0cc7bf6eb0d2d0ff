import Scaffold.Disk.Action
import Scaffold.Shell
import Scaffold.SortedMap
import Scaffold.Text.Utf8

/-!
# Formatters

Generated text can pass through a program before it is written. The extension
of the file decides which one; a file without an extension and an extension
without a command leave the text as it is. What the programs do is not known here:
they are what the machine starts when it is given a name, and they can change the
disk while they run.
-/

namespace Scaffold

open Text

/-- Makes the text to write out of the path and the generated text. -/
abbrev Formatter := Path → String → Except Error String

/-- The same, by means that can read and change the disk. -/
abbrev Formatting := Path → String → Action String

namespace Formatter

/-- The text as it is. -/
def none : Formatter := fun _ text => .ok text

def formatting (f : Formatter) : Formatting := fun path text => Action.ofExcept (f path text)

end Formatter

/-- What became of a program that was started: why its input could not be written in
full, if so, and its outcome, or why nobody could wait for it. -/
structure Child where
  unwritten : Option IoFault
  outcome : Except IoFault Shell.Outcome

/-- What comes of starting a program for a file, with its arguments and an input; a
reason where there is no such program. -/
abbrev Launcher (m : Type → Type) := Path → List String → List UInt8 → m (Except IoFault Child)

/-- The commands of extensions: the program with its arguments. -/
structure FormatterCommands where
  commands : SortedMap (List String)
  deriving DecidableEq

namespace FormatterCommands

def empty : FormatterCommands := ⟨SortedMap.empty⟩

def isEmpty (f : FormatterCommands) : Bool := f.commands.entries.isEmpty

/-- The command of a file. -/
def commandFor (f : FormatterCommands) (path : Path) : Option (List String) :=
  path.extension?.bind f.commands.get?

/-- How a program ended, as a complaint about it says. -/
def endingText : Shell.Ending → String
  | .exited status => "exit status: " ++ toString status
  | .killed signal =>
    let name := (Shell.signals.find? fun (_, n) => n = signal).map (·.1)
    "signal: " ++ toString signal ++ ((name.map fun name => " (SIG" ++ name ++ ")").getD "")

/-- The outcome of a program as text: it must succeed, take its input and print UTF-8. -/
def textOf (program : String) (child : Child) : Except String String :=
  match child.outcome, child.unwritten with
  | .error fault, _ => .error ("failed to wait for '" ++ program ++ "': " ++ fault.message)
  | .ok o, unwritten =>
    if o.ending != .exited 0 then
      .error ("'" ++ program ++ "' exited with " ++ endingText o.ending ++ ": " ++
        trim (Utf8.readableText o.errors))
    else
      match unwritten, Utf8.faultIn o.output with
      | some fault, _ => .error ("failed to write to '" ++ program ++ "': " ++ fault.message)
      | none, some fault => .error ("'" ++ program ++ "' produced invalid UTF-8: " ++ fault.message)
      | none, none => .ok (Utf8.textOf o.output)

/-- What is made of a program that was started, or that was not. -/
def resultOf (program : String) : Except IoFault Child → Except String String
  | .error fault => .error ("failed to run '" ++ program ++ "': " ++ fault.message)
  | .ok child => textOf program child

section

variable {m : Type → Type} [Monad m]

/-- Starts a command with a text as its input. There are no programs and no arguments
with a zero in them. -/
def start (launch : Launcher m) (path : Path) (command : List String) (text : String) :
    m (Except IoFault Child) :=
  if command.any (·.toList.contains '\x00') then
    pure (.error (.other "nul byte found in provided data"))
  else launch path command text.toUTF8.toList

/-- Pipes the text through the command of its file. -/
def pipe (f : FormatterCommands) (launch : Launcher m) (path : Path) (text : String) :
    m (Except Error String) :=
  match f.commandFor path with
  | none | some [] => pure (.ok text)
  | some (program :: args) => do
    let started ← start launch path (program :: args) text
    return (resultOf program started).mapError (.format path.text ·)

end

/-- Pipes texts through programs that can read and change the disk. -/
def piping (f : FormatterCommands) (launch : Launcher (StateM Disk)) : Formatting :=
  fun path text => ExceptT.mk (f.pipe launch path text)

/-! ## The programs of this library -/

/-- How much a program can be given that it does not read. -/
def pipeSize : Nat := 65536

/-- Why there is no program of a name. -/
def spawnFault (program : String) : IoFault :=
  if Shell.Condition.directories.contains program then .other "Permission denied (os error 13)"
  else .notFound

/-- Starts shells and the small programs of this library, and no others. None of them
changes the disk. -/
def shells : Launcher Id := fun _ argv input =>
  match Shell.spawn argv input with
  | none => .error (spawnFault (argv.headD ""))
  | some o =>
    .ok ⟨if pipeSize < o.unread then some (.other "Broken pipe (os error 32)") else none, .ok o⟩

/-- Pipes texts through the programs of this library. -/
def formatter (f : FormatterCommands) : Formatter := f.pipe shells

end FormatterCommands

end Scaffold
