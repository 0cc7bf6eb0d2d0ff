import Scaffold.Shell.Script

/-!
# Reading scripts

Scripts are read one complete command after the other, so that those before a
fault still run. A fault tells the token that cannot stand where it stands.
-/

namespace Scaffold.Shell.Grammar

open Text

/-- What is left to read, and the number of its line. -/
structure Source where
  rest : Octets
  line : Nat

/-- A fault of a script, and its line. -/
structure Fault where
  line : Nat
  message : Octets

abbrev Reading (α : Type) := StateT Source (Except Fault) α

/-! ## Characters -/

def peek : Reading Octets := do return (← get).rest

def drop (n : Nat) : Reading Unit :=
  modify fun src => ⟨src.rest.drop n, src.line + (src.rest.take n).count '\n'⟩

def fail {α : Type} (message : Octets) : Reading α := do
  throw ⟨(← get).line, message⟩

def isMeta (c : Char) : Bool := " \t\n;&|<>()".toList.contains c

def isNameStart (c : Char) : Bool := c.isAlpha || c = '_'

def isNameChar (c : Char) : Bool := c.isAlphanum || c = '_'

/-- The number of blanks, continued lines and comments at the start. -/
def blankLength : Bool → Octets → Nat
  | _, [] => 0
  | true, c :: cs => if c = '\n' then 0 else blankLength true cs + 1
  | false, '\\' :: '\n' :: cs => blankLength false cs + 2
  | false, c :: cs =>
    if c = ' ' || c = '\t' then blankLength false cs + 1
    else if c = '#' then blankLength true cs + 1
    else 0

def skipBlanks : Reading Unit := do drop (blankLength false (← peek))

/-- Skips blanks and line breaks. -/
def skipLines : Nat → Reading Unit
  | 0 => return
  | fuel + 1 => do
    skipBlanks
    match ← peek with
    | '\n' :: _ =>
      drop 1
      skipLines fuel
    | _ => return

/-- Takes a token when it comes next. -/
def token? (text : String) : Reading Bool := do
  skipBlanks
  match stripPrefixChars text.toList (← peek) with
  | some _ =>
    drop text.length
    return true
  | none => return false

/-! ## Reserved words -/

def reserved : List String :=
  ["!", "\x7b", "\x7d", "case", "do", "done", "elif", "else", "esac", "fi", "for", "if", "in",
    "then", "until", "while"]

/-- The word without quotes that comes next. -/
def plainWord : Reading Octets := do
  skipBlanks
  let word := (← peek).takeWhile fun c => !isMeta c && !"'\"\\$\x60".toList.contains c
  match (← peek).drop word.length with
  | [] => return word
  | c :: _ => return if isMeta c then word else []

/-- Takes a reserved word when it comes next. -/
def reserved? (word : String) : Reading Bool := do
  if (← plainWord) = word.toList then
    drop word.length
    return true
  else return false

/-- The name of the token that comes next, as faults tell it. -/
def tokenName : Reading Octets := do
  let word ← plainWord
  let quoted (text : Octets) : Octets := ['"'] ++ text ++ ['"']
  if reserved.contains (String.ofList word) then return quoted word
  match ← peek with
  | [] => return octets "end of file"
  | '\n' :: _ => return octets "newline"
  | ';' :: ';' :: _ => return quoted [';', ';']
  | '&' :: '&' :: _ => return quoted ['&', '&']
  | '|' :: '|' :: _ => return quoted ['|', '|']
  | '<' :: _ | '>' :: _ => return octets "redirection"
  | c :: _ => return if isMeta c then quoted [c] else octets "word"

def unexpected {α : Type} (expecting : String) : Reading α := do
  let hint := match expecting with
    | "" => ""
    | "word" => " (expecting word)"
    | expecting => " (expecting \"" ++ expecting ++ "\")"
  fail ((← tokenName) ++ octets (" unexpected" ++ hint))

def need (word : String) : Reading Unit := do
  if !(← reserved? word) then unexpected word

/-! ## Documents -/

/-- The text of the lines up to a last one, and the number of characters with it.
Each line comes with whether a line break ends it. -/
def documentText (last : Octets) (stripTabs : Bool) : List (Octets × Bool) → Octets × Nat
  | [] => ([], 0)
  | (line, ended) :: lines =>
    let kept := if stripTabs then line.dropWhile (· == '\t') else line
    let length := line.length + if ended then 1 else 0
    if kept = last then ([], length)
    else
      let (more, count) := documentText last stripTabs lines
      (kept ++ (if ended then ['\n'] else []) ++ more, length + count)

/-- Takes the lines of a document behind the line that is being read. -/
def document (last : Octets) (stripTabs : Bool) : Reading Octets := do
  let src ← get
  let here := src.rest.takeWhile (· != '\n')
  let behind := src.rest.drop (here.length + 1)
  let (text, count) := documentText last stripTabs (linesOf behind)
  set (⟨here ++ '\n' :: behind.drop count, src.line⟩ : Source)
  return text

/-! ## Words -/

/-- The number of characters up to the end of an arithmetic expression. -/
def arithmeticLength : (depth : Nat) → Octets → Option Nat
  | _, [] => none
  | 0, ')' :: ')' :: _ => some 0
  | depth, c :: cs =>
    let depth := if c = '(' then depth + 1 else if c = ')' then depth - 1 else depth
    (arithmeticLength depth cs).map (· + 1)

/-- The text of commands between backquotes, which can stand between other quotes. -/
def unquoteCommands (quoted : Bool) : Octets → Octets
  | [] => []
  | '\\' :: c :: cs =>
    if c = '\\' || c = '$' || c = '\x60' || (quoted && c = '"') then
      c :: unquoteCommands quoted cs
    else '\\' :: c :: unquoteCommands quoted cs
  | c :: cs => c :: unquoteCommands quoted cs

/-- The number of characters up to the next backquote. -/
def backquoteLength : Octets → Option Nat
  | [] => none
  | '\\' :: _ :: cs => (backquoteLength cs).map (· + 2)
  | c :: cs => if c = '\x60' then some 0 else (backquoteLength cs).map (· + 1)

def unterminated {α : Type} : Reading α := fail (octets "Unterminated quoted string")

/-- The name of a parameter that comes next. -/
def paramName : Reading Octets := do
  match ← peek with
  | [] => return []
  | c :: cs =>
    let name :=
      if isNameStart c then c :: cs.takeWhile isNameChar
      else if isAsciiDigit c || "?#@*$!-".toList.contains c then [c]
      else []
    drop name.length
    return name

/-- What follows the name of a parameter between braces. -/
def paramUse : Reading ParamUse := do
  let colon ← (do
    match ← peek with
    | ':' :: c :: _ => if "-=?+".toList.contains c then drop 1; return true else return false
    | _ => return false)
  match ← peek with
  | '-' :: _ => drop 1; return .default colon
  | '=' :: _ => drop 1; return .assign colon
  | '?' :: _ => drop 1; return .demand colon
  | '+' :: _ => drop 1; return .instead colon
  | '%' :: '%' :: _ => drop 2; return .cutEnd true
  | '%' :: _ => drop 1; return .cutEnd false
  | '#' :: '#' :: _ => drop 2; return .cutStart true
  | '#' :: _ => drop 1; return .cutStart false
  | '\x7d' :: _ | [] => return .plain
  | _ => return .bad

/-- How a word ends. -/
inductive WordEnd where
  | blank
  | quote
  | brace
  | nothing
  deriving DecidableEq

/-- Runs a reader on another text. -/
def within {α : Type} (text : Octets) (read : Reading α) : Reading α := do
  let src ← get
  set (⟨text, src.line⟩ : Source)
  let a ← read
  set src
  return a

mutual

/-- The parts of a word up to its end. Between quotes most characters stand for
themselves. -/
def parts : Nat → WordEnd → (quoted : Bool) → Reading Word
  | 0, _, _ => return []
  | fuel + 1, ending, quoted => do
    match ← peek with
    | [] =>
      match ending with
      | .quote => unterminated
      | .brace => if quoted then unterminated else fail (octets "Missing '\x7d'")
      | _ => return []
    | c :: cs =>
      if (ending = .blank && isMeta c) || (ending = .quote && c = '"') ||
          (ending = .brace && c = '\x7d') then return []
      else if c = '\\' then
        match cs with
        | [] =>
          drop 1
          return [.text ['\\'] quoted]
        | next :: _ =>
          drop 2
          let more ← parts fuel ending quoted
          if next = '\n' then return more
          else if quoted && !("$\x60\"\\".toList.contains next ||
              (ending = .brace && next = '\x7d')) then
            return .text ['\\', next] true :: more
          else return .text [next] true :: more
      else if c = '\'' && !quoted then
        let inner := cs.takeWhile (· != '\'')
        if inner.length = cs.length then unterminated
        else
          drop (inner.length + 2)
          return .text inner true :: (← parts fuel ending quoted)
      else if c = '"' && ending != .quote && !(quoted && ending = .nothing) then
        drop 1
        let inner ← parts fuel .quote true
        drop 1
        let isList : Bool := match inner with
          | [.param name .plain _ _] => name == ['@']
          | _ => false
        let more ← parts fuel ending quoted
        return (if isList then inner else .text [] true :: inner) ++ more
      else if c = '$' then
        drop 1
        let part ← dollar fuel quoted
        return part :: (← parts fuel ending quoted)
      else if c = '\x60' then
        match backquoteLength cs with
        | none => fail (octets "EOF in backquote substitution")
        | some n =>
          drop (n + 2)
          let body ← within (unquoteCommands quoted (cs.take n)) (commands fuel)
          return .command body quoted :: (← parts fuel ending quoted)
      else
        drop 1
        return .text [c] quoted :: (← parts fuel ending quoted)

/-- What a dollar sign starts, from behind it on. -/
def dollar : Nat → (quoted : Bool) → Reading Part
  | 0, quoted => return .text ['$'] quoted
  | fuel + 1, quoted => do
    match ← peek with
    | '(' :: '(' :: cs =>
      match arithmeticLength 0 cs with
      | some n =>
        drop (n + 4)
        return .arithmetic (← within (cs.take n) (parts fuel .nothing true)) quoted
      | none => fail (octets "Missing '))'")
    | '(' :: _ =>
      drop 1
      commandPart fuel quoted
    | '\x7b' :: '#' :: c :: cs =>
      if c != '\x7d' && ((c :: cs).dropWhile isNameChar).head? = some '\x7d' then
        drop 2
        let name ← paramName
        drop 1
        return .param name .length [] quoted
      else
        drop 1
        braced fuel quoted
    | '\x7b' :: _ =>
      drop 1
      braced fuel quoted
    | _ =>
      let name ← paramName
      if name.isEmpty then return .text ['$'] quoted
      else return .param name .plain [] quoted

/-- Commands whose output is part of a word. -/
def commandPart : Nat → (quoted : Bool) → Reading Part
  | 0, quoted => return .text [] quoted
  | fuel + 1, quoted => do
    let body ← commands fuel
    if ← token? ")" then return .command body quoted else unexpected ")"

/-- A parameter between braces. -/
def braced : Nat → (quoted : Bool) → Reading Part
  | 0, quoted => return .text [] quoted
  | fuel + 1, quoted => do
    let name ← paramName
    let behind ← peek
    let digits := if (name.head?.map isAsciiDigit).getD false
      then behind.takeWhile isAsciiDigit else []
    drop digits.length
    let use ← if name.isEmpty then pure .bad else paramUse
    let word ← parts fuel .brace (quoted && !use.takesPattern)
    drop 1
    return .param (name ++ digits) use word quoted

/-- Commands up to a word or mark that cannot start one. -/
def commands : Nat → Reading Command
  | 0 => return .nothing
  | fuel + 1 => do
    skipLines (fuel + 1)
    let word ← plainWord
    let ends := ["\x7d", "do", "done", "elif", "else", "esac", "fi", "then"].map String.toList
    let stops := match ← peek with
      | [] | ')' :: _ | ';' :: ';' :: _ => true
      | _ => ends.contains word
    if stops then return .nothing
    let first ← chain fuel
    skipBlanks
    match ← peek with
    | ';' :: ';' :: _ => return first
    | ';' :: _ | '\n' :: _ =>
      drop 1
      match ← commands fuel with
      | .nothing => return first
      | more => return .sequence first more
    | '&' :: _ =>
      drop 1
      return .sequence (.background first) (← commands fuel)
    | _ => return first

/-- Pipelines that depend on the outcome of those before them. -/
def chain : Nat → Reading Command
  | 0 => return .nothing
  | fuel + 1 => do moreChain fuel (← pipeline fuel)

def moreChain : Nat → Command → Reading Command
  | 0, first => return first
  | fuel + 1, first => do
    if ← token? "&&" then
      skipLines (fuel + 1)
      moreChain fuel (.both first (← pipeline fuel))
    else if ← token? "||" then
      skipLines (fuel + 1)
      moreChain fuel (.either first (← pipeline fuel))
    else return first

def pipeline : Nat → Reading Command
  | 0 => return .nothing
  | fuel + 1 => do
    let negated ← reserved? "!"
    let first ← command fuel
    match negated, ← piped fuel with
    | false, [] => return first
    | negated, more => return .pipeline negated (first :: more)

/-- The commands behind the bars of a pipeline. -/
def piped : Nat → Reading (List Command)
  | 0 => return []
  | fuel + 1 => do
    skipBlanks
    match ← peek with
    | '|' :: '|' :: _ => return []
    | '|' :: _ =>
      drop 1
      skipLines (fuel + 1)
      let next ← command fuel
      return next :: (← piped fuel)
    | _ => return []

/-- A command with the redirections behind it. -/
def command : Nat → Reading Command
  | 0 => return .nothing
  | fuel + 1 => do
    skipBlanks
    let compound : Option (Reading Command) ← (do
      if ← reserved? "\x7b" then return some (closed fuel "\x7d")
      else if ← reserved? "if" then return some (branch fuel)
      else if ← reserved? "while" then return some (loop fuel false)
      else if ← reserved? "until" then return some (loop fuel true)
      else if ← reserved? "for" then return some (each fuel)
      else if ← reserved? "case" then return some (select fuel)
      else if ← token? "(" then return some (subshell fuel)
      else return none)
    match compound with
    | some read =>
      let body ← read
      match ← redirects fuel with
      | [] => return body
      | found => return .redirected body found
    | none =>
      let word ← plainWord
      let behind := ((← peek).drop word.length).dropWhile fun c => c = ' ' || c = '\t'
      match word, behind with
      | c :: cs, '(' :: _ =>
        if isNameStart c && cs.all isNameChar then
          drop word.length
          let opened ← token? "("
          let isClosed ← token? ")"
          if !(opened && isClosed) then unexpected ")"
          skipLines (fuel + 1)
          return .define word (← command fuel)
        else unexpected ""
      | _, _ =>
        if reserved.contains (String.ofList word) && word != "in".toList then unexpected ""
        simple fuel (← get).line [] [] []

/-- The rest of a group. -/
def closed : Nat → String → Reading Command
  | 0, _ => return .nothing
  | fuel + 1, word => do
    let body ← someCommands fuel
    need word
    return body

def subshell : Nat → Reading Command
  | 0 => return .nothing
  | fuel + 1 => do
    let body ← someCommands fuel
    if ← token? ")" then return .subshell body else unexpected ")"

/-- Commands where there must be some. -/
def someCommands : Nat → Reading Command
  | 0 => return .nothing
  | fuel + 1 => do
    match ← commands fuel with
    | .nothing => if (← peek).isEmpty then return .nothing else unexpected ""
    | body => return body

def branch : Nat → Reading Command
  | 0 => return .nothing
  | fuel + 1 => do
    let condition ← someCommands fuel
    need "then"
    let yes ← someCommands fuel
    if ← reserved? "elif" then return .branch condition yes (← branch fuel)
    else if ← reserved? "else" then
      let no ← someCommands fuel
      need "fi"
      return .branch condition yes no
    else
      need "fi"
      return .branch condition yes .nothing

def loop : Nat → Bool → Reading Command
  | 0, _ => return .nothing
  | fuel + 1, until_ => do
    let condition ← someCommands fuel
    need "do"
    let body ← someCommands fuel
    need "done"
    return .loop until_ condition body

def each : Nat → Reading Command
  | 0 => return .nothing
  | fuel + 1 => do
    let name ← plainWord
    if !((name.head?.map isNameStart).getD false && name.all isNameChar) then
      fail (octets "Bad for loop variable")
    drop name.length
    skipLines (fuel + 1)
    let words ← (do
      if ← reserved? "in" then
        let found ← wordList fuel
        return some found
      else return none)
    if words.isSome && (← peek).isEmpty then unexpected ""
    let _ ← token? ";"
    skipLines (fuel + 1)
    need "do"
    let body ← someCommands fuel
    need "done"
    return .each name words body

/-- Words up to the end of the line or a semicolon. -/
def wordList : Nat → Reading (List Word)
  | 0 => return []
  | fuel + 1 => do
    skipBlanks
    match ← peek with
    | [] => return []
    | c :: _ =>
      if isMeta c then return []
      else
        let word ← parts fuel .blank false
        return word :: (← wordList fuel)

def select : Nat → Reading Command
  | 0 => return .nothing
  | fuel + 1 => do
    skipBlanks
    let word ← parts fuel .blank false
    if word.isEmpty then unexpected "word"
    skipLines (fuel + 1)
    need "in"
    return .select word (← arms fuel)

def arms : Nat → Reading (List (List Word × Command))
  | 0 => return []
  | fuel + 1 => do
    skipLines (fuel + 1)
    if ← reserved? "esac" then return []
    else
      let _ ← token? "("
      let patterns ← alternatives fuel
      if !(← token? ")") then unexpected ")"
      let body ← commands fuel
      if ← token? ";;" then return (patterns, body) :: (← arms fuel)
      else
        skipLines (fuel + 1)
        if ← reserved? "esac" then return [(patterns, body)] else unexpected ";;"

def alternatives : Nat → Reading (List Word)
  | 0 => return []
  | fuel + 1 => do
    skipBlanks
    let word ← parts fuel .blank false
    if word.isEmpty then
      unexpected (if (← peek).isEmpty then ")" else "")
    else if ← token? "|" then return word :: (← alternatives fuel)
    else return [word]

/-- The redirections that come next. -/
def redirects : Nat → Reading (List Redirect)
  | 0 => return []
  | fuel + 1 => do
    match ← redirect fuel with
    | none => return []
    | some found => return found :: (← redirects fuel)

def redirect : Nat → Reading (Option Redirect)
  | 0 => return none
  | fuel + 1 => do
    skipBlanks
    let digits := (← peek).takeWhile isAsciiDigit
    let number (standard : Nat) : Nat := if digits.isEmpty then standard else digitsValue digits
    let kind : Option (Nat × RedirectKind × Nat) :=
      match (← peek).drop digits.length with
      | '<' :: '<' :: '-' :: _ => some (0, .document, 3)
      | '<' :: '<' :: _ => some (0, .document, 2)
      | '<' :: '&' :: _ => some (0, .duplicate, 2)
      | '<' :: _ => some (0, .input, 1)
      | '>' :: '>' :: _ => some (1, .append, 2)
      | '>' :: '&' :: _ => some (1, .duplicate, 2)
      | '>' :: '|' :: _ => some (1, .output, 2)
      | '>' :: _ => some (1, .output, 1)
      | _ => none
    match kind with
    | none => return none
    | some (standard, kind, length) =>
      drop (digits.length + length)
      skipBlanks
      let written ← peek
      let word ← parts fuel .blank false
      if word.isEmpty then unexpected ""
      match kind with
      | .document =>
        let last := word.flatMap fun
          | .text cs _ => cs
          | _ => []
        let literal := written.take (written.length - (← peek).length)
        let isQuoted := literal.any "'\"\\".toList.contains
        let text ← document last (length = 3)
        if isQuoted then return some (.mk (number 0) kind [.text text true])
        else return some (.mk (number 0) kind (← within text (parts fuel .nothing true)))
      | kind => return some (.mk (number standard) kind word)

/-- A program with its arguments, the assignments before it and redirections
anywhere among them. -/
def simple : Nat → (line : Nat) → List (Octets × Word) → List Word → List Redirect →
    Reading Command
  | 0, _, _, _, _ => return .nothing
  | fuel + 1, line, assignments, words, found => do
    match ← redirect fuel with
    | some redirect => simple fuel line assignments words (found ++ [redirect])
    | none =>
      match ← peek with
      | [] =>
        if words.isEmpty && assignments.isEmpty && found.isEmpty then unexpected ""
        else finish line assignments words found
      | c :: cs =>
        if isMeta c then
          if c = '(' || (words.isEmpty && assignments.isEmpty && found.isEmpty) then unexpected ""
          else finish line assignments words found
        else
          let name := c :: cs.takeWhile isNameChar
          if words.isEmpty && isNameStart c && ((c :: cs).drop name.length).head? = some '=' then
            drop (name.length + 1)
            let value ← parts fuel .blank false
            simple fuel line (assignments ++ [(name, value)]) words found
          else
            let word ← parts fuel .blank false
            simple fuel line assignments (words ++ [word]) found

/-- The command of what `simple` found. -/
def finish (line : Nat) (assignments : List (Octets × Word)) (words : List Word)
    (found : List Redirect) : Reading Command :=
  let body := Command.simple line assignments words
  return if found.isEmpty then body else .redirected body found

end

/-- The commands up to the end of a line. -/
def lineCommands : Nat → Reading Command
  | 0 => return .nothing
  | fuel + 1 => do
    let first ← chain (fuel + 1)
    skipBlanks
    let ends : Reading Bool := do
      drop 1
      skipBlanks
      return (← peek).head?.all (· == '\n')
    match ← peek with
    | [] | '\n' :: _ => return first
    | ';' :: ';' :: _ => unexpected ""
    | ';' :: _ => if ← ends then return first else return .sequence first (← lineCommands fuel)
    | '&' :: _ =>
      if ← ends then return .background first
      else return .sequence (.background first) (← lineCommands fuel)
    | _ => unexpected ""

/-- The commands of the next line of a script, or of as many lines as belong together. -/
def nextCommand? (src : Source) : Except Fault (Option (Command × Source)) :=
  let fuel := 4 * src.rest.length + 16
  let read : Reading (Option Command) := do
    skipLines fuel
    if (← peek).isEmpty then return none else return some (← lineCommands fuel)
  match read.run src with
  | .ok (some command, src) => .ok (some (command, src))
  | .ok (none, _) => .ok none
  | .error fault => .error fault

end Scaffold.Shell.Grammar
