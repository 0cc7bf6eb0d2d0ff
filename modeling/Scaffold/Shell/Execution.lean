import Scaffold.Shell.Builtin

/-!
# Running scripts

Words are expanded to fields and commands are run. Every step takes fuel, and a
script without fuel stops.
-/

namespace Scaffold.Shell

open Text

/-- Runs what must not change the shell. Only what was written and read stays, and
the status. -/
def isolated (body : Run Unit) : Run Unit := fun before =>
  let (ending, after) := body before
  let restored : Machine :=
    { before with sinks := after.sinks, sources := after.sources, files := after.files }
  match ending with
  | .error (.killed signal) => (.error (.killed signal), restored)
  | .error (.exit n) | .error (.leave n) => (.ok (), { restored with status := n })
  | _ => (.ok (), { restored with status := after.status })

/-- Runs the body of a loop once; whether the loop goes on. -/
def round (body : Run Unit) : Run Bool := fun before =>
  let (ending, after) := body { before with loops := before.loops + 1 }
  let after := { after with loops := before.loops }
  match ending with
  | .ok () | .error (.next 1) => (.ok true, after)
  | .error (.break 1) => (.ok false, after)
  | .error (.break n) => (.error (.break (n - 1)), after)
  | .error (.next n) => (.error (.next (n - 1)), after)
  | .error stop => (.error stop, after)

/-- Runs a function with its arguments. -/
def called (args : List Octets) (body : Run Unit) : Run Unit := fun before =>
  let (ending, after) := body { before with args := args, loops := 0, locals := some [] }
  let after := { after.restored (after.locals.getD []) with
    args := before.args, loops := before.loops, locals := before.locals }
  match ending with
  | .error (.leave n) => (.ok (), { after with status := n })
  | ending => (ending, after)

/-- Runs a shell of its own, which a signal ends like any other program. -/
def ownShell (name : Octets) (body : Run Unit) : Run Unit := fun before =>
  let (ending, after) := isolated body (Machine.start name before.files before.vars
    before.streams before.sinks before.sources)
  let status := match ending with
    | .error (.killed signal) => 128 + signal
    | _ => after.status
  (.ok (), { before with
    sinks := after.sinks, sources := after.sources, files := after.files, status := status })

/-- Ends the script when a command failed that nothing tests. -/
def checkStatus (tested : Bool) : Run Unit := do
  let m ← get
  if m.failsFast && !tested && m.status ≠ 0 then throw (.exit m.status)

/-- Runs a program on the first stream. -/
def runProgram (program : Program) (args : List Octets) : Run Nat := do
  let m ← get
  let result := program m.files args (m.readable 0)
  set (m.leaving 0 result.unread)
  write 1 result.output
  write 2 result.errors
  return result.status

/-- Copies the input to the output and to files. -/
def tee (args : List Octets) : Run Nat := do
  let (appends, names) := match args with
    | ['-', 'a'] :: names => (true, names)
    | names => (false, names)
  let m ← get
  let text := m.readable 0
  let kept (name : Octets) : Octets := if appends then (m.files.lookup name).getD [] else []
  let files := names.foldl (fun files name =>
    if name = octets "/dev/null" then files
    else (name, kept name ++ text) :: files.filter (·.1 != name)) m.files
  set ({ m with files }.leaving 0 [])
  write 1 text
  return 0

/-- Whether there is the directory that a file would be in. -/
def directoryExists (name : Octets) : Bool :=
  let parent := (name.reverse.dropWhile (· != '/')).reverse
  parent.length ≤ 1 || Condition.directories.contains (String.ofList parent.dropLast)

/-- Points a stream to a file. -/
def redirectTo (stream : Nat) (kind : RedirectKind) (name : Octets) : Run Bool := do
  let m ← get
  let opened (number : Nat) : Run Bool := do
    set (m.withStream stream (m.target? number))
    return true
  let refused (doing reason : String) : Run Bool := do
    complain (octets ("cannot " ++ doing ++ " ") ++ name ++ octets (": " ++ reason))
    setStatus 2
    return false
  match kind with
  | .document =>
    set (m.withSource stream name)
    return true
  | .duplicate =>
    if name = ['-'] then
      set (m.withStream stream none)
      return true
    else if name.isEmpty || !name.all isAsciiDigit then abort (octets "Syntax error: Bad fd number")
    else if (m.target? (digitsValue name)).isNone then
      complain (name ++ octets ": Bad file descriptor")
      setStatus 2
      return false
    else opened (digitsValue name)
  | .input =>
    if name = octets "/dev/stdin" then opened 0
    else
      match contentOf m.files [] name with
      | some content =>
        set (m.withSource stream content)
        return true
      | none => refused "open" "No such file"
  | kind =>
    if name = octets "/dev/stdout" then opened 1
    else if name = octets "/dev/stderr" then opened 2
    else if name = octets "/dev/null" then
      set (m.withSink stream)
      return true
    else if name.isEmpty || !directoryExists name then refused "create" "Directory nonexistent"
    else if Condition.directories.contains (String.ofList name) then
      refused "create" "Is a directory"
    else
      let old := match kind with
        | .append => (m.files.lookup name).getD []
        | _ => []
      set ({ m with files := (name, old) :: m.files.filter (·.1 != name) }.withStream stream
        (some (.file name)))
      return true

/-- The parts of a word that stand for themselves. -/
def plainGlyphs (cs : Octets) (quoted : Bool) : List Glyph :=
  if quoted then .quotes :: glyphsOf true cs else cs.map fun c => .char c false false

/-- A word within the braces of a parameter, where unquoted text separates too. -/
def splitting (glyphs : List Glyph) : List Glyph :=
  glyphs.map fun
    | .char c false _ => .char c false true
    | glyph => glyph

mutual

/-- The glyphs of a word. -/
def expand : Nat → Word → Run (List Glyph)
  | 0, _ => throw (.exit 2)
  | _ + 1, [] => return []
  | fuel + 1, part :: parts => do
    let first ← match part with
      | .text cs quoted => pure (plainGlyphs cs quoted)
      | .param name use word quoted => parameter fuel name use word quoted
      | .command body quoted => pure (glyphsOf quoted (← outputOf fuel body))
      | .arithmetic expression quoted => do
        let text := glyphText (← expand fuel expression)
        pure (glyphsOf quoted (← numberText text))
    return first ++ (← expand fuel parts)

/-- The text of an arithmetic value, after its assignments. -/
def numberText (text : Octets) : Run Octets := do
  let m ← get
  match Arithmetic.evaluate m.var? text with
  | .ok (n, assigned) =>
    for (x, value) in assigned.reverse do assign x (toString value).toList
    return (toString n).toList
  | .error (.expression problem) =>
    abort (octets ("arithmetic expression: " ++ problem ++ ": \"") ++ text ++ ['"'])
  | .error (.number value) => abort (octets "Illegal number: " ++ value)

/-- The output of commands without the line breaks at its end. -/
def outputOf : Nat → Command → Run Octets
  | 0, _ => throw (.exit 2)
  | fuel + 1, body => do
    let sink := (← get).sinks.length
    isolated do
      modify fun m => m.withSink 1
      run fuel false body
    modify fun m => { m with substituted := some m.status }
    let text := (((← get).sinks[sink]?).getD []).filter (· != '\x00')
    return (text.reverse.dropWhile (· == '\n')).reverse

/-- The glyphs of a parameter. -/
def parameter : Nat → Octets → ParamUse → Word → Bool → Run (List Glyph)
  | 0, _, _, _, _ => throw (.exit 2)
  | fuel + 1, name, use, word, quoted => do
    let m ← get
    let values := m.param? name
    let present (colon : Bool) : Bool :=
      match values with
      | none => false
      | some values => !colon || !values.flatten.isEmpty || 1 < values.length
    let isList := name = ['@'] || name = ['*']
    let given := m.paramGlyphs name (values.getD []) quoted
    let demandSet : Run Unit := do
      if values.isNone && m.demandsValues && !isList then
        abort (name ++ octets ": parameter not set")
    match use with
    | .bad => abort (octets "Bad substitution")
    | .plain =>
      demandSet
      return given
    | .length =>
      demandSet
      let length := if isList then m.args.length else (values.getD []).flatten.length
      return glyphsOf quoted (toString length).toList
    | .default colon => if present colon then return given else return splitting (← expand fuel word)
    | .instead colon => if present colon then return splitting (← expand fuel word) else return []
    | .assign colon =>
      if present colon then return given
      else if !isVariableName name then abort (name ++ octets ": bad variable name")
      else
        let value := glyphText (← expand fuel word)
        assign name value
        return glyphsOf quoted value
    | .demand colon =>
      if present colon then return given
      else
        let message := glyphText (← expand fuel word)
        abort (name ++ octets ": " ++
          if !message.isEmpty then message
          else octets (if colon then "parameter not set or null" else "parameter not set"))
    | .cutStart longest =>
      demandSet
      let pattern := glyphPattern (← expand fuel word)
      return m.paramGlyphs name ((values.getD []).map (cutStart pattern longest)) quoted
    | .cutEnd longest =>
      demandSet
      let pattern := glyphPattern (← expand fuel word)
      return m.paramGlyphs name ((values.getD []).map (cutEnd pattern longest)) quoted

/-- The fields of some words. -/
def expandAll : Nat → List Word → Run (List Octets)
  | 0, _ => throw (.exit 2)
  | _ + 1, [] => return []
  | fuel + 1, word :: words => do
    let glyphs ← expand fuel word
    let found := fields (← get).separators glyphs
    return found ++ (← expandAll fuel words)

def assignEach : Nat → List (Octets × Word) → Run Unit
  | 0, _ => throw (.exit 2)
  | _ + 1, [] => return
  | fuel + 1, (x, word) :: more => do
    assign x (glyphText (← expand fuel word))
    assignEach fuel more

/-- Runs a command. A failure of one that is `tested` ends nothing. -/
def run : Nat → (tested : Bool) → Command → Run Unit
  | 0, _, _ => throw (.exit 2)
  | fuel + 1, tested, command => do
    match command with
    | .nothing => return
    | .simple line assignments words =>
      modify fun m => { m with line, substituted := none }
      match ← expandAll fuel words with
      | [] =>
        assignEach fuel assignments
        modify fun m => { m with status := m.substituted.getD 0 }
      | name :: args =>
        let before := (← get).vars
        assignEach fuel assignments
        modify fun m => { m with vars := m.vars.map fun (x, v) =>
          (x, if (assignments.map (·.1)).contains x then { v with exported := true } else v) }
        invoke fuel tested true name args
        if !assignments.isEmpty && !isSpecial name then
          modify fun m => m.restored (assignments.map fun (x, _) => (x, before.lookup x))
      checkStatus tested
    | .pipeline negated commands =>
      pipe fuel (tested || negated) commands
      if negated then modify fun m => { m with status := if m.status = 0 then 1 else 0 }
      else checkStatus tested
    | .both a b =>
      run fuel true a
      if (← get).status = 0 then run fuel tested b
    | .either a b =>
      run fuel true a
      if (← get).status ≠ 0 then run fuel tested b
    | .sequence a b =>
      run fuel tested a
      run fuel tested b
    | .background a =>
      isolated do
        modify fun m => m.withSource 0 []
        run fuel tested a
      setStatus 0
    | .redirected a redirects =>
      let before := (← get).streams
      if ← redirectAll fuel redirects then run fuel tested a
      let keeps := (← get).keepsStreams
      modify fun m =>
        { m with keepsStreams := false, streams := if keeps then m.streams else before }
      checkStatus tested
    | .subshell a =>
      isolated (run fuel tested a)
      checkStatus tested
    | .branch condition yes no =>
      run fuel true condition
      if (← get).status = 0 then run fuel tested yes
      else
        setStatus 0
        run fuel tested no
    | .loop until_ condition body => repeated fuel tested until_ condition body 0
    | .each name words body =>
      let values ← match words with
        | some words => expandAll fuel words
        | none => pure (← get).args
      setStatus 0
      eachValue fuel tested name body values
    | .select word arms =>
      let text := glyphText (← expand fuel word)
      arm fuel tested text arms
    | .define name body =>
      modify fun m =>
        { m with status := 0, functions := (name, body) :: m.functions.filter (·.1 != name) }

/-- Runs the commands of a pipeline, each on the output of the one before. -/
def pipe : Nat → Bool → List Command → Run Unit
  | 0, _, _ => throw (.exit 2)
  | _ + 1, _, [] => return
  | fuel + 1, tested, [last] => isolated (run fuel tested last)
  | fuel + 1, tested, first :: more => do
    let sink := (← get).sinks.length
    isolated do
      modify fun m => m.withSink 1
      run fuel tested first
    let before := (← get).streams
    modify fun m => m.withSource 0 ((m.sinks[sink]?).getD [])
    pipe fuel tested more
    modify fun m => { m with streams := before }

/-- Redirects streams; whether that went well. -/
def redirectAll : Nat → List Redirect → Run Bool
  | 0, _ => throw (.exit 2)
  | _ + 1, [] => return true
  | fuel + 1, .mk stream kind word :: more => do
    let name := glyphText (← expand fuel word)
    if ← redirectTo stream kind name then redirectAll fuel more else return false

/-- Runs the rounds of a loop; `status` is that of the last one. -/
def repeated : Nat → Bool → Bool → Command → Command → Nat → Run Unit
  | 0, _, _, _, _, _ => throw (.exit 2)
  | fuel + 1, tested, until_, condition, body, status => do
    let goesOn ← round do
      run fuel true condition
      if ((← get).status = 0) == until_ then
        setStatus status
        throw (.break 1)
      run fuel tested body
    if goesOn then repeated fuel tested until_ condition body (← get).status

def eachValue : Nat → Bool → Octets → Command → List Octets → Run Unit
  | 0, _, _, _, _ => throw (.exit 2)
  | _ + 1, _, _, _, [] => return
  | fuel + 1, tested, name, body, value :: values => do
    assign name value
    if ← round (run fuel tested body) then eachValue fuel tested name body values

/-- Runs the first arm with a pattern that the text fits. -/
def arm : Nat → Bool → Octets → List (List Word × Command) → Run Unit
  | 0, _, _, _ => throw (.exit 2)
  | _ + 1, _, _, [] => setStatus 0
  | fuel + 1, tested, text, (patterns, body) :: arms => do
    if ← anyFits fuel text patterns then
      setStatus 0
      run fuel tested body
    else arm fuel tested text arms

def anyFits : Nat → Octets → List Word → Run Bool
  | 0, _, _ => throw (.exit 2)
  | _ + 1, _, [] => return false
  | fuel + 1, text, pattern :: patterns => do
    if fits (glyphPattern (← expand fuel pattern)) text then return true
    else anyFits fuel text patterns

/-- Runs a function, a builtin command or a program. -/
def invoke : Nat → Bool → (functions : Bool) → Octets → List Octets → Run Unit
  | 0, _, _, _, _ => throw (.exit 2)
  | fuel + 1, tested, functions, name, args => do
    let m ← get
    let function := if functions && !isSpecial name then m.functions.lookup name else none
    match function, String.ofList name with
    | some body, _ => called args (run fuel tested body)
    | none, "eval" =>
      setStatus 0
      script fuel (octets "eval: ") tested ⟨(args.intersperse [' ']).flatten, 1⟩
    | none, "exec" =>
      match args with
      | [] => modify fun m => { m with status := 0, keepsStreams := true }
      | program :: args =>
        external fuel (octets "exec: ") program args
        throw (.exit (← get).status)
    | none, "command" =>
      match args with
      | ['-', 'v'] :: name :: _ =>
        match m.described? isBuiltin name with
        | some text =>
          write 1 (text ++ ['\n'])
          setStatus 0
        | none => setStatus 127
      | name :: args => invoke fuel tested false name args
      | [] => setStatus 0
    | none, _ =>
      if isBuiltin name then setStatus (← runBuiltin name args)
      else external fuel [] name args

/-- Runs a program; `doing` begins a complaint that there is none. -/
def external : Nat → (doing : Octets) → Octets → List Octets → Run Unit
  | 0, _, _, _ => throw (.exit 2)
  | fuel + 1, doing, name, args => do
    if isShellName name then ownShell name (shell fuel name args)
    else if programName name = octets "tee" then setStatus (← tee args)
    else
      match program? name with
      | some program => setStatus (← runProgram program args)
      | none =>
        let isDirectory := name.contains '/' && Condition.directories.contains (String.ofList name)
        complain (doing ++ name ++ octets (if isDirectory then ": Permission denied" else ": not found"))
        setStatus (if isDirectory then 126 else 127)

/-- A shell with a script that is an argument or the input. -/
def shell : Nat → Octets → List Octets → Run Unit
  | 0, _, _ => throw (.exit 2)
  | fuel + 1, name, args => do
    let flags := args.takeWhile fun arg => arg.head? = some '-' && 1 < arg.length && arg != ['-', '-']
    let operands := (args.drop flags.length).dropWhile (· == ['-', '-'])
    let letters := flags.flatMap (·.drop 1)
    modify fun m =>
      { m with failsFast := letters.contains 'e', demandsValues := letters.contains 'u' }
    if letters.contains 'c' then
      match operands with
      | [] =>
        write 2 (name ++ octets ": 0: -c requires an argument\n")
        throw (.exit 2)
      | [text] => script fuel [] false ⟨text, 1⟩
      | text :: title :: args =>
        modify fun m => { m with name := title, args := args }
        script fuel [] false ⟨text, 1⟩
    else
      match operands, letters.contains 's' with
      | [], _ | _, true =>
        let m ← get
        set { m.leaving 0 [] with args := operands }
        script fuel [] false ⟨m.readable 0, 1⟩
      | file :: args, false =>
        match (← get).files.lookup file with
        | some text =>
          modify fun m => { m with name := file, args := args }
          script fuel [] false ⟨text, 1⟩
        | none =>
          write 2 (name ++ octets ": 0: cannot open " ++ file ++ octets ": No such file\n")
          throw (.exit 2)

/-- Runs the commands of a script one after the other; `doing` begins a complaint
about one that cannot be read. -/
def script : Nat → (doing : Octets) → Bool → Grammar.Source → Run Unit
  | 0, _, _, _ => throw (.exit 2)
  | fuel + 1, doing, tested, source => do
    match Grammar.nextCommand? source with
    | .ok none => return
    | .ok (some (command, rest)) =>
      run fuel tested command
      script fuel doing tested rest
    | .error fault =>
      modify fun m => { m with line := fault.line }
      abort (doing ++ octets "Syntax error: " ++ fault.message)

end

end Scaffold.Shell
