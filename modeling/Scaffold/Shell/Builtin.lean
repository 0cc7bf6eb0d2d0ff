import Scaffold.Shell.Condition
import Scaffold.Shell.Copying
import Scaffold.Shell.LineTools
import Scaffold.Shell.Machine
import Scaffold.Shell.Printing

/-!
# Builtin commands and programs

Builtin commands change the state of the shell; programs only see their arguments
and their input.
-/

namespace Scaffold.Shell

open Text

/-! ## Programs -/

/-- A program that writes a text, whatever its input is. -/
def printing (text : Octets) (input : Octets) : Result := ⟨text, [], 0, input⟩

def programs : List (String × Program) := [
  ("cat", Copying.cat), ("tr", OctetMap.tr),
  ("head", LineTools.part "head" false), ("tail", LineTools.part "tail" true),
  ("wc", LineTools.wc), ("sort", LineTools.sort), ("tac", LineTools.tac),
  ("uniq", LineTools.uniq),
  ("echo", fun _ args input => printing (Printing.plainEcho args) input),
  ("printf", fun _ args input =>
    let (output, errors, status) := Printing.printf (octets "printf: ") args
    ⟨output, errors, status, input⟩),
  ("true", fun _ _ input => printing [] input),
  ("sleep", fun _ _ input => printing [] input),
  ("false", fun _ _ input => ⟨[], [], 1, input⟩),
  ("test", fun files args input =>
    match Condition.status files (octets "test") args with
    | .ok status => ⟨[], [], status, input⟩
    | .error problem => ⟨[], octets "test: " ++ problem ++ ['\n'], 2, input⟩)]

/-- A path of a program without the directory that programs are in. -/
def programName (path : Octets) : Octets :=
  (stripPrefixChars "/bin/".toList path).getD
    ((stripPrefixChars "/usr/bin/".toList path).getD path)

def program? (path : Octets) : Option Program :=
  programs.lookup (String.ofList (programName path))

/-- Programs that the shell runs itself. -/
def isShellName (path : Octets) : Bool :=
  programName path = octets "sh" || programName path = octets "dash"

/-! ## Builtin commands -/

/-- The number of an argument of a builtin command. -/
def numberArg (builtin arg : Octets) : Run Nat := do
  if arg.isEmpty || !arg.all isAsciiDigit then
    abort (builtin ++ octets ": Illegal number: " ++ arg)
  else return digitsValue arg

/-- The name of an assignment and its value, or a name alone. -/
def assignmentOf (arg : Octets) : Octets × Option Octets :=
  let name := arg.takeWhile (· != '=')
  (name, if name.length < arg.length then some (arg.drop (name.length + 1)) else none)

def isVariableName (name : Octets) : Bool :=
  (name.head?.map Grammar.isNameStart).getD false && name.all Grammar.isNameChar

/-- Sets the marks of variables, and their values where there are any. -/
def declare (builtin : Octets) (mark : Variable → Variable) : List Octets → Run Unit
  | [] => return
  | arg :: args => do
    let (x, value) := assignmentOf arg
    if !isVariableName x then abort (builtin ++ octets ": " ++ x ++ octets ": bad variable name")
    match value with
    | some value => assign x value
    | none => pure ()
    modify fun m => { m with vars := m.vars.map fun (y, v) => (y, if x = y then mark v else v) }
    declare builtin mark args

/-- Variables that get their old values back at the end of the function. -/
def declareLocal : List Octets → Run Unit
  | [] => return
  | arg :: args => do
    let (x, value) := assignmentOf arg
    modify fun m => { m with locals := m.locals.map fun saved => (x, m.vars.lookup x) :: saved }
    match value with
    | some value => assign x value
    | none => pure ()
    declareLocal args

def unsetAll (ofFunctions : Bool) : List Octets → Run Unit
  | [] => return
  | x :: args => do
    let m ← get
    if !ofFunctions && ((m.vars.lookup x).map (·.locked)).getD false then
      abort (octets "unset: " ++ x ++ octets ": is read only")
    if ofFunctions then set { m with functions := m.functions.filter (·.1 != x) }
    else set { m with vars := m.vars.filter (·.1 != x) }
    unsetAll ofFunctions args

/-- Takes flags and sets the other arguments. -/
def setOptions : List Octets → Run Unit
  | [] => return
  | ['-', '-'] :: args => modify fun m => { m with args := args }
  | ['-'] :: args => if args.isEmpty then return else modify fun m => { m with args := args }
  | [sign, 'o'] :: name :: args => do
    let on : Bool := sign = '-'
    match String.ofList name with
    | "errexit" => modify fun m => { m with failsFast := on }
    | "nounset" => modify fun m => { m with demandsValues := on }
    | _ => pure ()
    setOptions args
  | (sign :: flag :: flags) :: args => do
    if sign = '-' || sign = '+' then
      for letter in flag :: flags do
        if letter = 'e' then modify fun m => { m with failsFast := sign = '-' }
        else if letter = 'u' then modify fun m => { m with demandsValues := sign = '-' }
        else if !"abCfmnvx".toList.contains letter then
          abort (octets "set: Illegal option " ++ [sign, letter])
      setOptions args
    else modify fun m => { m with args := (sign :: flag :: flags) :: args }
  | args => modify fun m => { m with args := args }

/-- The octets of a line with whether a backslash stood before them, whether a line
break ended it, and the rest. -/
def inputLine (raw : Bool) : Octets → GlobText × Bool × Octets
  | [] => ([], false, [])
  | '\n' :: rest => ([], true, rest)
  | '\\' :: c :: rest =>
    if raw then
      let (line, ended, rest) := inputLine raw (c :: rest)
      (('\\', false) :: line, ended, rest)
    else
      let (line, ended, rest) := inputLine raw rest
      (if c = '\n' then line else (c, true) :: line, ended, rest)
  | c :: rest =>
    let (line, ended, rest) := inputLine raw rest
    ((c, false) :: line, ended, rest)

def assignAll : List Octets → List Octets → Run Unit
  | x :: names, value :: values => do
    assign x value
    assignAll names values
  | _, _ => return

/-- Reads a line and shares it among variables. -/
def readLine (raw : Bool) (names : List Octets) : Run Nat := do
  if names.isEmpty then
    complain (octets "read: arg count")
    return 2
  match names.find? fun x => !isVariableName x with
  | some x =>
    complain (octets "read: " ++ x ++ octets ": bad variable name")
    return 2
  | none =>
    let m ← get
    let (line, ended, rest) := inputLine raw (m.readable 0)
    set (m.leaving 0 rest)
    let line := line.filter fun (c, _) => c != '\x00'
    assignAll names (shared m.separators names.length line)
    return if ended then 0 else 1

def signals : List (String × Nat) :=
  [("HUP", 1), ("INT", 2), ("QUIT", 3), ("ILL", 4), ("TRAP", 5), ("ABRT", 6), ("BUS", 7), ("FPE", 8),
    ("KILL", 9), ("USR1", 10), ("SEGV", 11), ("USR2", 12), ("PIPE", 13), ("ALRM", 14), ("TERM", 15)]

/-- The number of a signal by its name or number. -/
def signalOf? (text : Octets) : Option Nat :=
  if !text.isEmpty && text.all isAsciiDigit then some (digitsValue text)
  else signals.lookup (String.ofList text)

/-- Sends a signal; only the shell itself can get it. -/
def kill (args : List Octets) : Run Nat := do
  let (signal, targets) := match args with
    | ['-', 's'] :: name :: targets => (signalOf? name, targets)
    | ('-' :: name) :: targets => (signalOf? name, targets)
    | targets => (some 15, targets)
  match signal with
  | none =>
    complain (octets "kill: Illegal option -" ++ ((args.headD []).drop 1).take 1)
    return 2
  | some signal =>
    if targets.contains (toString processNumber).toList then
      if signal = 0 then return 0 else throw (.killed signal)
    else
      complain (octets "kill: No such process")
      return 1

/-- Where a name leads, as `command -v` tells it. -/
def Machine.described? (m : Machine) (isBuiltin : Octets → Bool) (name : Octets) :
    Option Octets :=
  if (m.functions.lookup name).isSome || isBuiltin name ||
      Grammar.reserved.contains (String.ofList name) then some name
  else if (program? name).isSome || isShellName name then
    some (if name.head? = some '/' then name else octets "/usr/bin/" ++ name)
  else none

def specialBuiltins : List String :=
  [":", "break", "continue", "eval", "exec", "exit", "export", "readonly", "return", "set", "shift",
    "times", "trap", "unset"]

def isSpecial (name : Octets) : Bool := specialBuiltins.contains (String.ofList name)

def plainBuiltins : List String :=
  ["alias", "cd", "command", "echo", "false", "kill", "local", "printf", "pwd", "read", "test", "[",
    "true", "umask", "wait"]

def isBuiltin (name : Octets) : Bool :=
  isSpecial name || plainBuiltins.contains (String.ofList name)

/-- Runs a builtin command that needs no other command, and gives its status. -/
def runBuiltin (name : Octets) (args : List Octets) : Run Nat := do
  let m ← get
  let count : Run Nat :=
    match args with
    | [] => return 1
    | arg :: _ => numberArg name arg
  let ending : Run Nat :=
    match args with
    | [] => return m.status
    | arg :: _ => numberArg name arg
  match String.ofList name with
  | "echo" =>
    write 1 (Printing.echo args)
    if (m.target? 1).isSome then return 0
    else
      complain (octets "echo: echo: I/O error")
      return 1
  | "printf" =>
    let start := m.name ++ octets (": " ++ toString m.line ++ ": printf: ")
    let (output, errors, status) := Printing.printf start args
    write 1 output
    write 2 errors
    return status
  | "test" | "[" =>
    match Condition.status m.files name args with
    | .ok status => return status
    | .error problem =>
      complain (name ++ octets ": " ++ problem)
      return 2
  | "false" => return 1
  | "exit" => throw (.exit ((← ending) % 256))
  | "return" => throw (.leave ((← ending) % 256))
  | "break" =>
    let n ← count
    if n = 0 then abort (octets "break: Illegal number: 0")
    if m.loops = 0 then return 0 else throw (.break (min n m.loops))
  | "continue" =>
    let n ← count
    if n = 0 then abort (octets "continue: Illegal number: 0")
    if m.loops = 0 then return 0 else throw (.next (min n m.loops))
  | "shift" =>
    let n ← count
    if m.args.length < n then abort (octets "shift: can't shift that many")
    set { m with args := m.args.drop n }
    return 0
  | "export" =>
    declare name (fun v => { v with exported := true }) args
    return 0
  | "readonly" =>
    declare name (fun v => { v with locked := true }) args
    return 0
  | "local" =>
    if m.locals.isNone then abort (octets "local: not in a function")
    declareLocal args
    return 0
  | "unset" =>
    match args with
    | ['-', 'f'] :: args => unsetAll true args
    | ['-', 'v'] :: args => unsetAll false args
    | args => unsetAll false args
    return 0
  | "set" =>
    setOptions args
    return 0
  | "read" =>
    match args with
    | ['-', 'r'] :: names => readLine true names
    | names => readLine false names
  | "kill" => kill args
  | "cd" =>
    match args with
    | dir :: _ =>
      if Condition.directories.contains (String.ofList dir) then return 0
      else
        complain (octets "cd: can't cd to " ++ dir)
        return 2
    | [] => return 0
  | _ => return 0

end Scaffold.Shell
