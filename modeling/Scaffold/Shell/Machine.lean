import Scaffold.Shell.Field
import Scaffold.Shell.Grammar

/-!
# The state of a shell

A shell has parameters and functions, and streams that lead to buffers or files.
A command changes the state or stops what is running.
-/

namespace Scaffold.Shell

/-- Where a stream leads. -/
inductive Target where
  /-- A buffer that is written. -/
  | sink (n : Nat)
  /-- A buffer that is read. -/
  | source (n : Nat)
  | file (name : Octets)
  deriving DecidableEq

structure Variable where
  value : Octets
  /-- Whether programs get it. -/
  exported : Bool
  locked : Bool

structure Machine where
  /-- What was written to the buffers. -/
  sinks : List Octets
  /-- What is left to read of the buffers. -/
  sources : List Octets
  files : Files
  streams : List (Nat × Target)
  /-- The name and the arguments of the script. -/
  name : Octets
  args : List Octets
  vars : List (Octets × Variable)
  functions : List (Octets × Command)
  status : Nat
  /-- The status of the last command whose output became part of a word. -/
  substituted : Option Nat
  line : Nat
  /-- The number of loops around. -/
  loops : Nat
  /-- The variables that are restored at the end of the function, if one runs. -/
  locals : Option (List (Octets × Option Variable))
  /-- Whether a failure ends the script. -/
  failsFast : Bool
  /-- Whether a parameter without a value is an error. -/
  demandsValues : Bool
  /-- Whether the redirections of the command stay. -/
  keepsStreams : Bool

/-- What stops the commands that are running. -/
inductive Stop where
  | exit (status : Nat)
  | killed (signal : Nat)
  /-- The end of a function. -/
  | leave (status : Nat)
  /-- The end of so many loops. -/
  | break (levels : Nat)
  /-- The next round of the loop so many levels up. -/
  | next (levels : Nat)

abbrev Run (α : Type) := ExceptT Stop (StateM Machine) α

/-- A shell before its first command; it gets the exported variables. -/
def Machine.start (name : Octets) (files : Files) (vars : List (Octets × Variable))
    (streams : List (Nat × Target)) (sinks sources : List Octets) : Machine :=
  let ifs := octets "IFS"
  { sinks, sources, files, streams, name, args := [],
    vars := (ifs, ⟨[' ', '\t', '\n'], false, false⟩) ::
      vars.filter fun (x, v) => v.exported && x != ifs
    functions := [], status := 0, substituted := none, line := 1, loops := 0, locals := none
    failsFast := false, demandsValues := false, keepsStreams := false }

/-! ## Streams -/

def Machine.target? (m : Machine) (stream : Nat) : Option Target := m.streams.lookup stream

def Machine.written (m : Machine) (stream : Nat) (text : Octets) : Machine :=
  match m.target? stream with
  | some (.sink n) => { m with sinks := m.sinks.set n ((m.sinks[n]?).getD [] ++ text) }
  | some (.file name) =>
    { m with files := (name, (m.files.lookup name).getD [] ++ text) ::
        m.files.filter (·.1 != name) }
  | _ => m

/-- What can be read from a stream. -/
def Machine.readable (m : Machine) (stream : Nat) : Octets :=
  match m.target? stream with
  | some (.source n) => (m.sources[n]?).getD []
  | _ => []

/-- Leaves a part of what can be read from a stream. -/
def Machine.leaving (m : Machine) (stream : Nat) (rest : Octets) : Machine :=
  match m.target? stream with
  | some (.source n) => { m with sources := m.sources.set n rest }
  | _ => m

def Machine.withStream (m : Machine) (stream : Nat) (target : Option Target) : Machine :=
  let others := m.streams.filter (·.1 != stream)
  { m with streams := match target with
      | some target => (stream, target) :: others
      | none => others }

/-- Opens a text for a stream to read. -/
def Machine.withSource (m : Machine) (stream : Nat) (text : Octets) : Machine :=
  let opened := { m with sources := m.sources ++ [text] }
  opened.withStream stream (some (.source m.sources.length))

/-- Opens an empty buffer for a stream to write. -/
def Machine.withSink (m : Machine) (stream : Nat) : Machine :=
  let opened := { m with sinks := m.sinks ++ [[]] }
  opened.withStream stream (some (.sink m.sinks.length))

def write (stream : Nat) (text : Octets) : Run Unit := modify fun m => m.written stream text

/-- A complaint that begins with the name of the script and its line. -/
def complain (text : Octets) : Run Unit := do
  let m ← get
  write 2 (m.name ++ octets (": " ++ toString m.line ++ ": ") ++ text ++ ['\n'])

/-- Complains and ends the script. -/
def abort {α : Type} (text : Octets) : Run α := do
  complain text
  throw (.exit 2)

def setStatus (n : Nat) : Run Unit := modify fun m => { m with status := n }

/-! ## Parameters -/

def Machine.var? (m : Machine) (x : Octets) : Option Octets :=
  (m.vars.lookup x).map (·.value)

/-- The octets that separate fields. -/
def Machine.separators (m : Machine) : Octets := (m.var? (octets "IFS")).getD [' ', '\t', '\n']

def assign (x value : Octets) : Run Unit := do
  let m ← get
  let old := (m.vars.lookup x).getD ⟨[], false, false⟩
  if old.locked then abort (x ++ octets ": is read only")
  else
    set { m with vars := (x, ⟨value, old.exported, false⟩) :: m.vars.filter (·.1 != x) }

/-- The variables with the values of some of them put back. -/
def Machine.restored (m : Machine) (saved : List (Octets × Option Variable)) : Machine :=
  { m with vars := saved.foldl (fun vars (x, old) =>
      let others := vars.filter (·.1 != x)
      match old with
      | some old => (x, old) :: others
      | none => others) m.vars }

/-- The number that `$$` gives. -/
def processNumber : Nat := 4242

/-- The values of a parameter: one each but for the list of all arguments. -/
def Machine.param? (m : Machine) (name : Octets) : Option (List Octets) :=
  let number (n : Nat) : Option (List Octets) := some [(toString n).toList]
  match name with
  | ['@'] | ['*'] => if m.args.isEmpty then none else some m.args
  | ['?'] => number m.status
  | ['#'] => number m.args.length
  | ['$'] => number processNumber
  | ['-'] =>
    some [(if m.failsFast then ['e'] else []) ++ if m.demandsValues then ['u'] else []]
  | ['!'] => some [[]]
  | name =>
    if name.all Text.isAsciiDigit then
      match Text.digitsValue name with
      | 0 => some [m.name]
      | n + 1 => (m.args[n]?).map fun arg => [arg]
    else (m.var? name).map fun value => [value]

/-- The glyphs of a parameter. Between quotes the arguments keep apart for `@` and
are joined for `*`. -/
def Machine.paramGlyphs (m : Machine) (name : Octets) (values : List Octets) (quoted : Bool) :
    List Glyph :=
  let mark : List Glyph := if quoted then [.quotes] else []
  match name with
  | ['*'] =>
    if quoted then
      let joint := m.separators.take 1
      glyphsOf true ((values.intersperse joint).flatten)
    else ((values.map (glyphsOf false)).intersperse [.cut]).flatten
  | ['@'] => ((values.map fun v => mark ++ glyphsOf quoted v).intersperse [.cut]).flatten
  | _ => glyphsOf quoted values.flatten

end Scaffold.Shell
