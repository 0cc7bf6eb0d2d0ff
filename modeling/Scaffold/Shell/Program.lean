import Scaffold.Text.Cut
import Scaffold.Text.Digit

/-!
# Programs

A program takes arguments and reads octets; it writes octets to its output and
to its error stream and ends with a status. An octet is kept as the character of
its number, so that texts of programs can be matched like other texts.
-/

namespace Scaffold.Shell

open Text

/-- Characters with codes below 256. -/
abbrev Octets := List Char

/-- The octets that write a text in UTF-8. -/
def octets (s : String) : Octets := s.toUTF8.toList.map fun b => Char.ofNat b.toNat

def bytesOf (cs : Octets) : List UInt8 := cs.map fun c => UInt8.ofNat c.toNat

/-- What a program did with its input. -/
structure Result where
  output : Octets
  errors : Octets
  status : Nat
  /-- The input that was not read. -/
  unread : Octets

/-- The files that exist, by their names. -/
abbrev Files := List (Octets × Octets)

abbrev Program := Files → List Octets → Octets → Result

/-- The end of a program that writes and reads all that there is. -/
def Result.done (output : Octets) : Result := ⟨output, [], 0, []⟩

/-- The end of a program that reads nothing and complains. -/
def Result.refused (complaint : Octets) (status : Nat) (input : Octets) : Result :=
  ⟨[], complaint, status, input⟩

/-- An octet as it is or, when it cannot be printed, by its number. -/
def numberedOctet (c : Char) : Octets :=
  let digit (n : Nat) : Char := Char.ofNat (48 + n % 8)
  let n := c.toNat
  if 0x20 ≤ n && n < 0x7f then [c] else ['\\', digit (n / 64), digit (n / 8), digit n]

/-- An octet as complaints quote it. -/
def quotedOctet (c : Char) : Octets :=
  match [('\x07', 'a'), ('\x08', 'b'), ('\t', 't'), ('\n', 'n'), ('\x0b', 'v'), ('\x0c', 'f'),
      ('\x0d', 'r'), ('\\', '\\'), ('\'', '\'')].lookup c with
  | some letter => ['\\', letter]
  | none => numberedOctet c

/-- A text between apostrophes, as complaints quote it. -/
def quotedText (cs : Octets) : Octets := ['\''] ++ cs.flatMap quotedOctet ++ ['\'']

/-! ## Flags -/

/-- What the arguments of a program consist of: flags by their letters, and operands. -/
structure Options where
  flags : List Char
  operands : List Octets

/-- The letter of a flag with a long name; a beginning that fits one name only will do. -/
def longFlag (names : List (String × Char)) (name : Octets) : Except Octets Char :=
  let asked := ['\''] ++ ('-' :: '-' :: name) ++ ['\'']
  match names.lookup (String.ofList name) with
  | some letter => .ok letter
  | none =>
    match names.filter fun (long, _) => (stripPrefixChars name long.toList).isSome with
    | [(_, letter)] => .ok letter
    | [] => .error (octets "unrecognized option " ++ asked)
    | found =>
      .error (octets "option " ++ asked ++ octets " is ambiguous; possibilities:" ++
        found.flatMap fun (long, _) => ' ' :: quotedText (octets ("--" ++ long)))

/-- Sorts arguments into flags and operands, or tells what is wrong with them.
Where operands do not `mix` with flags, all behind the first are operands. -/
def Options.read (known : List Char) (names : List (String × Char)) (mix : Bool) :
    List Octets → Except Octets Options
  | [] => .ok ⟨[], []⟩
  | ['-', '-'] :: args => .ok ⟨[], args⟩
  | ('-' :: '-' :: name) :: args =>
    match longFlag names name with
    | .ok letter =>
      (Options.read known names mix args).map fun o => ⟨letter :: o.flags, o.operands⟩
    | .error problem => .error problem
  | ('-' :: letter :: letters) :: args =>
    match (letter :: letters).find? fun c => !known.contains c with
    | some c => .error (octets "invalid option -- '" ++ [c, '\''])
    | none =>
      (Options.read known names mix args).map fun o => ⟨letter :: letters ++ o.flags, o.operands⟩
  | arg :: args =>
    if mix then (Options.read known names mix args).map fun o => ⟨o.flags, arg :: o.operands⟩
    else .ok ⟨[], arg :: args⟩

def Options.has (o : Options) (letters : List Char) : Bool := o.flags.any letters.contains

def seeHelp (name : String) : Octets :=
  octets ("Try '" ++ name ++ " --help' for more information.\n")

/-- Runs a program with its flags, or complains about them. -/
def withOptions (name : String) (known : List Char) (names : List (String × Char)) (mix : Bool)
    (run : Files → Options → Octets → Result) : Program := fun files args input =>
  match Options.read known names mix args with
  | .ok options => run files options input
  | .error problem => .refused (octets (name ++ ": ") ++ problem ++ ['\n'] ++ seeHelp name) 1 input

/-! ## Operands -/

/-- The content of a file for a program that reads `input`. -/
def contentOf (files : Files) (input : Octets) (name : Octets) : Option Octets :=
  if name = ['-'] || name = octets "/dev/stdin" then some input
  else if name = octets "/dev/null" then some []
  else files.lookup name

/-- The contents of some files, of the input when there are none, with a complaint
for every file that does not exist. -/
def gathered (program : String) (files : Files) (operands : List Octets) (input : Octets) :
    List Octets × Octets :=
  let operands := if operands.isEmpty then [['-']] else operands
  let (contents, complaints) := operands.foldl (fun (contents, complaints) name =>
    -- The input can be read once.
    let input := if contents.any (·.1) then [] else input
    match contentOf files input name with
    | some content => (contents ++ [(name == ['-'], content)], complaints)
    | none => (contents, complaints ++
        octets (program ++ ": ") ++ name ++ octets ": No such file or directory\n"))
    (([] : List (Bool × Octets)), ([] : Octets))
  (contents.map (·.2), complaints)

/-- The lines of a content, each with whether a line break ends it. -/
def linesOf (content : Octets) : List (Octets × Bool) :=
  let pieces := splitCharsWhere (· == '\n') content
  let ended := pieces.dropLast.map fun line => (line, true)
  match pieces.getLast? with
  | some [] | none => ended
  | some last => ended ++ [(last, false)]

/-- A number in at least `width` columns. -/
def padded (width n : Nat) : Octets :=
  let digits := (toString n).toList
  List.replicate (width - digits.length) ' ' ++ digits

end Scaffold.Shell
