import Scaffold.Shell.Program

/-!
# Programs on lines

Programs that take the first or the last lines of their input, count, sort or
turn them, or leave out repeated ones.
-/

namespace Scaffold.Shell.LineTools

open Text

def joinedLines (ls : List (Octets × Bool)) : Octets :=
  ls.flatMap fun (text, ended) => if ended then text ++ ['\n'] else text

/-! ## First and last lines -/

/-- How much of a content is taken. -/
structure Amount where
  lines : Bool
  /-- A sign before the count turns it round. -/
  sign : Option Char
  count : Nat

def amountOf? (lines : Bool) (text : Octets) : Option Amount :=
  let (sign, digits) := match text with
    | '-' :: rest => (some '-', rest)
    | '+' :: rest => (some '+', rest)
    | rest => (none, rest)
  if digits.isEmpty || !digits.all isAsciiDigit then none
  else some ⟨lines, sign, digitsValue digits⟩

/-- The amount that arguments ask for, and the operands. -/
def amountOptions (amount : Amount) : List Octets → Option (Amount × List Octets)
  | [] => some (amount, [])
  | ['-', '-'] :: operands => some (amount, operands)
  | ['-', 'n'] :: n :: args => (amountOf? true n).bind fun a => amountOptions a args
  | ['-', 'c'] :: n :: args => (amountOf? false n).bind fun a => amountOptions a args
  | ('-' :: 'n' :: n) :: args => (amountOf? true n).bind fun a => amountOptions a args
  | ('-' :: 'c' :: n) :: args => (amountOf? false n).bind fun a => amountOptions a args
  | ('-' :: d :: ds) :: args =>
    if isAsciiDigit d then (amountOf? true (d :: ds)).bind fun a => amountOptions a args
    else none
  | arg :: args => (amountOptions amount args).map fun (a, operands) => (a, arg :: operands)

/-- The first or the last part of a content. A dash before a count of `head`
leaves out so many at the end, a plus before one of `tail` starts there. -/
def Amount.take {α : Type} (a : Amount) (last : Bool) (items : List α) : List α :=
  if last then
    if a.sign = some '+' then items.drop (a.count - 1)
    else items.drop (items.length - a.count)
  else if a.sign = some '-' then items.take (items.length - a.count)
  else items.take a.count

def part (name : String) (last : Bool) : Program := fun files args input =>
  match amountOptions ⟨true, none, 10⟩ args with
  | none => .refused (octets (name ++ ": invalid option\n") ++ seeHelp name) 1 input
  | some (amount, operands) =>
    let (contents, complaints) := gathered name files operands input
    let taken (content : Octets) : Octets :=
      if amount.lines then joinedLines (amount.take last (linesOf content))
      else amount.take last content
    ⟨contents.flatMap taken, complaints, if complaints.isEmpty then 0 else 1, []⟩

/-! ## Counting -/

def wordsOf (content : Octets) : Nat :=
  ((splitCharsWhere (fun c => c = ' ' || ('\t' ≤ c && c ≤ '\x0d')) content).filter
    (!·.isEmpty)).length

def wc : Program :=
  withOptions "wc" "clmw".toList
    [("bytes", 'c'), ("chars", 'm'), ("lines", 'l'), ("words", 'w')] true
    fun files options input =>
      let (contents, complaints) := gathered "wc" files options.operands input
      let content := contents.flatten
      let counts := [('l', content.count '\n'), ('w', wordsOf content), ('m', content.length),
        ('c', content.length)]
      let asked := if options.flags.isEmpty then ['l', 'w', 'c'] else options.flags
      let shown := counts.filter fun (letter, _) => asked.contains letter
      let text := match shown with
        | [(_, n)] => (toString n).toList
        | shown => ((shown.map fun (_, n) => padded 7 n).intersperse [' ']).flatten
      let names := (options.operands.map fun name => ' ' :: name).flatten
      ⟨text ++ names ++ ['\n'], complaints, if complaints.isEmpty then 0 else 1, []⟩

/-! ## Order -/

/-- The number at the start of a line, with its sign. -/
def leadingNumber (line : Octets) : Int :=
  match line.dropWhile fun c => c = ' ' || c = '\t' with
  | '-' :: rest => -(digitsValue (rest.takeWhile isAsciiDigit) : Int)
  | rest => digitsValue (rest.takeWhile isAsciiDigit)

def sort : Program :=
  withOptions "sort" "fnru".toList
    [("ignore-case", 'f'), ("numeric-sort", 'n'), ("reverse", 'r'), ("unique", 'u')] true
    fun files options input =>
      let (contents, complaints) := gathered "sort" files options.operands input
      let lines := (linesOf contents.flatten).map (·.1)
      let key (line : Octets) : Octets :=
        if options.has ['f'] then line.map Char.toUpper else line
      let byNumber := options.has ['n']
      let before (a b : Octets) : Bool :=
        if byNumber then leadingNumber a < leadingNumber b else key a < key b
      let same (a b : Octets) : Bool := !before a b && !before b a
      -- Lines with equal keys are put in order as they stand.
      let least (a b : Octets) : Bool :=
        if before a b then true
        else if before b a then false
        else options.has ['u'] || !(b < a)
      let flip := options.has ['r']
      let sorted := lines.mergeSort fun a b => if flip then least b a else least a b
      let kept :=
        if options.has ['u'] then sorted.foldr (fun line kept =>
          match kept with
          | next :: _ => if same line next then line :: kept.drop 1 else line :: kept
          | [] => [line]) []
        else sorted
      ⟨kept.flatMap (· ++ ['\n']), complaints, if complaints.isEmpty then 0 else 2, []⟩

def tac : Program := fun files args input =>
  let (contents, complaints) := gathered "tac" files args input
  ⟨contents.flatMap fun content => joinedLines (linesOf content).reverse, complaints,
    if complaints.isEmpty then 0 else 1, []⟩

/-! ## Repeated lines -/

/-- The runs of equal lines with their lengths. -/
def runs : List Octets → List (Octets × Nat)
  | [] => []
  | line :: lines =>
    match runs lines with
    | (next, n) :: more => if next = line then (line, n + 1) :: more else (line, 1) :: (next, n) :: more
    | [] => [(line, 1)]

def uniq : Program :=
  withOptions "uniq" "cdu".toList [("count", 'c'), ("repeated", 'd'), ("unique", 'u')] true
    fun files options input =>
      let (contents, complaints) := gathered "uniq" files options.operands input
      let counted := (runs ((linesOf contents.flatten).map (·.1))).filter fun (_, n) =>
        (1 < n || !options.has ['d']) && (n = 1 || !options.has ['u'])
      let text (run : Octets × Nat) : Octets :=
        (if options.has ['c'] then padded 7 run.2 ++ [' '] else []) ++ run.1 ++ ['\n']
      ⟨counted.flatMap text, complaints, if complaints.isEmpty then 0 else 1, []⟩

end Scaffold.Shell.LineTools
