import Scaffold.Shell.Program

/-!
# Printing

`echo` and `printf` write their arguments. A format has escapes and directives,
and it is used again as long as there are arguments.
-/

namespace Scaffold.Shell.Printing

open Text

/-! ## Escapes -/

def letterEscapes : List (Char × Char) :=
  [('a', '\x07'), ('b', '\x08'), ('f', '\x0c'), ('n', '\n'), ('r', '\x0d'), ('t', '\t'),
    ('v', '\x0b'), ('\\', '\\')]

def isOctalDigit (c : Char) : Bool := '0' ≤ c && c ≤ '7'

/-- The octet behind a backslash and the rest; a backslash before what is no
escape stands for itself. -/
def escape (cs : Octets) : Char × Octets :=
  match cs with
  | [] => ('\\', [])
  | c :: rest =>
    let digits := (cs.take 3).takeWhile isOctalDigit
    if digits.isEmpty then
      match letterEscapes.lookup c with
      | some value => (value, rest)
      | none => ('\\', cs)
    else
      let value := digits.foldl (fun n d => 8 * n + (d.toNat - 48)) 0
      (Char.ofNat (value % 256), cs.drop digits.length)

/-- A text with its escapes read, and whether one of them ends all output. Octal
numbers can have a further zero in front. `fuel` bounds the length. -/
def unescaped : Nat → Octets → Octets × Bool
  | 0, _ => ([], false)
  | _ + 1, [] => ([], false)
  | _ + 1, '\\' :: 'c' :: _ => ([], true)
  | fuel + 1, '\\' :: rest =>
    let digits := match rest with
      | '0' :: d :: more => if isOctalDigit d then d :: more else rest
      | rest => rest
    let (value, rest) := escape digits
    let (more, ends) := unescaped fuel rest
    (value :: more, ends)
  | fuel + 1, c :: rest =>
    let (more, ends) := unescaped fuel rest
    (c :: more, ends)

def unescape (cs : Octets) : Octets × Bool := unescaped (cs.length + 1) cs

def echo (args : List Octets) : Octets :=
  let (quiet, args) := match args with
    | ['-', 'n'] :: args => (true, args)
    | args => (false, args)
  let (text, ends) := unescape (args.intersperse [' ']).flatten
  if quiet || ends then text else text ++ ['\n']

/-- The `echo` that is a program of its own reads escapes only when asked. -/
def plainEcho (args : List Octets) : Octets :=
  let isFlags (arg : Octets) : Bool :=
    match arg with
    | '-' :: c :: cs => (c :: cs).all "neE".toList.contains
    | _ => false
  let flags := (args.takeWhile isFlags).flatten
  let text := ((args.dropWhile isFlags).intersperse [' ']).flatten
  let reads := (flags.filter fun c => c = 'e' || c = 'E').getLast? = some 'e'
  let (text, ends) := if reads then unescape text else (text, false)
  if flags.contains 'n' || ends then text else text ++ ['\n']

/-! ## Formats -/

/-- How a directive fills its place. -/
structure Layout where
  flags : List Char
  width : Nat
  precision : Option Nat

/-- A text in at least `width` columns. -/
def Layout.fill (layout : Layout) (text : Octets) : Octets :=
  let gap := List.replicate (layout.width - text.length) ' '
  if layout.flags.contains '-' then text ++ gap else gap ++ text

/-- A number with its sign, as many digits as the precision asks for, in the width. -/
def Layout.number (layout : Layout) (sign digits : Octets) : Octets :=
  let least := layout.precision.getD 0
  let digits := List.replicate (least - digits.length) '0' ++ digits
  if layout.flags.contains '0' && !layout.flags.contains '-' && layout.precision.isNone then
    sign ++ List.replicate (layout.width - sign.length - digits.length) '0' ++ digits
  else layout.fill (sign ++ digits)

/-- The number of an argument, and what is wrong with it. A quote stands before a
character whose code is the number. One that is out of `bounds` becomes the nearest. -/
def numberOf (bounds : Int × Int) (arg : Octets) : Int × Option String :=
  let quote (c : Char) : Bool := c = '\'' || c = '"'
  match arg with
  | [] => (0, none)
  | c :: rest =>
    if quote c then (((rest.head?.map Char.toNat).getD 0 : Nat), none)
    else
      let cs := arg.dropWhile fun c => c = ' ' || c = '\t' || c = '\n'
      let (negative, digits) := match cs with
        | '-' :: rest => (true, rest)
        | '+' :: rest => (false, rest)
        | rest => (false, rest)
      let (base, digits) := match digits with
        | '0' :: 'x' :: rest | '0' :: 'X' :: rest => (16, rest)
        | '0' :: rest => (8, '0' :: rest)
        | rest => (10, rest)
      let good := digits.takeWhile fun c => ((hexDigit? c).filter (· < base)).isSome
      let size := good.foldl (fun n c => base * n + (hexDigit? c).getD 0) 0
      let n : Int := if negative then -(size : Int) else size
      if good.isEmpty then (0, some "expected numeric value")
      else if good.length < digits.length then (n, some "not completely converted")
      else if n < bounds.1 then (bounds.1, some "Numerical result out of range")
      else if bounds.2 < n then (bounds.2, some "Numerical result out of range")
      else (n, none)

def signedBounds : Int × Int := (-0x8000000000000000, 0x7fffffffffffffff)

def unsignedBounds : Int × Int := (-0xffffffffffffffff, 0xffffffffffffffff)

def digitsIn (base : Nat) (capital : Bool) (n : Nat) : Octets :=
  let digits := Nat.toDigits base n
  if capital then digits.map Char.toUpper else digits

/-- What a directive writes for an argument, what is wrong with the argument, and
whether all output ends there. -/
def Layout.write (layout : Layout) (directive : Char) (arg : Octets) :
    Option (Octets × Option String × Bool) :=
  let cut (text : Octets) : Octets :=
    match layout.precision with
    | some n => text.take n
    | none => text
  let shown (base : Nat) (capital : Bool) (start : Octets) :
      Option (Octets × Option String × Bool) :=
    let (n, problem) := numberOf unsignedBounds arg
    let digits := digitsIn base capital (n % 0x10000000000000000).toNat
    let start := if layout.flags.contains '#' && n ≠ 0 then start else []
    some (layout.number start digits, problem, false)
  match directive with
  | 's' => some (layout.fill (cut arg), none, false)
  | 'b' =>
    let (text, ends) := unescape arg
    some (layout.fill (cut text), none, ends)
  | 'c' => some (layout.fill [arg.headD '\x00'], none, false)
  | 'd' | 'i' =>
    let (n, problem) := numberOf signedBounds arg
    let sign := if n < 0 then ['-'] else if layout.flags.contains '+' then ['+']
      else if layout.flags.contains ' ' then [' '] else []
    some (layout.number sign (toString n.natAbs).toList, problem, false)
  | 'u' => shown 10 false []
  | 'o' => shown 8 false ['0']
  | 'x' => shown 16 false ['0', 'x']
  | 'X' => shown 16 true ['0', 'X']
  | _ => none

/-- What a format wrote, what was wrong, and the arguments that are left. -/
structure Filled where
  output : Octets
  problems : List Octets
  args : List Octets
  /-- Whether the format has directives; one without them is used once. -/
  used : Bool
  /-- Whether all output ends here. -/
  ends : Bool
  /-- Whether a directive could not be read. -/
  broken : Bool

/-- What is said of an argument that is no number. One that is missing is not complained of. -/
def complaints (args : List Octets) (problem : Option String) : List Octets :=
  match args with
  | [] => []
  | arg :: _ => problem.toList.map fun problem => arg ++ octets (": " ++ problem)

/-- A number in a format, or the next argument in its place as a number of 32 bits;
then what is wrong with the argument, and what is left of the format and the arguments. -/
def sizeOf (cs : Octets) (args : List Octets) :
    Option Int × List Octets × Octets × List Octets :=
  match cs with
  | '*' :: rest =>
    let (n, problem) := numberOf signedBounds (args.headD [])
    (some (n.bmod 0x100000000), complaints args problem, rest, args.drop 1)
  | cs =>
    let digits := cs.takeWhile isAsciiDigit
    (if digits.isEmpty then none else some (digitsValue digits), [], cs.drop digits.length, args)

/-- The layout of given sizes: a negative width is one to the left, and a negative
precision is none. -/
def Layout.ofSizes (flags : List Char) (width precision : Option Int) : Layout :=
  let width := width.getD 0
  ⟨if width < 0 then '-' :: flags else flags, width.natAbs,
    (precision.filter (0 ≤ ·)).map Int.toNat⟩

/-- One pass over a format; `fuel` bounds its length. -/
def fillOnce : Nat → Octets → List Octets → Filled
  | 0, _, args | _ + 1, [], args => ⟨[], [], args, false, false, false⟩
  | fuel + 1, c :: cs, args =>
    let plain (c : Char) (rest : Octets) : Filled :=
      let more := fillOnce fuel rest args
      ⟨c :: more.output, more.problems, more.args, more.used, more.ends, more.broken⟩
    match c, cs with
    | '%', '%' :: rest => plain '%' rest
    | '\\', cs => plain (escape cs).1 (escape cs).2
    | '%', cs =>
      let flags := cs.takeWhile "#-+ 0".toList.contains
      let (width, before, cs, args) := sizeOf (cs.drop flags.length) args
      let (precision, more, cs, args) := match cs with
        | '.' :: rest =>
          let (n, problems, cs, args) := sizeOf rest args
          (some (n.getD 0), problems, cs, args)
        | cs => (none, [], cs, args)
      let before := before ++ more
      match cs with
      | [] => ⟨[], before ++ [octets "missing format character"], args, true, true, true⟩
      | directive :: rest =>
        let arg := args.headD []
        match (Layout.ofSizes flags width precision).write directive arg with
        | none => ⟨[], before ++ ['%' :: directive :: octets ": invalid directive"], args,
            true, true, true⟩
        | some (text, problem, ends) =>
          let problems := before ++ complaints args problem
          if ends then ⟨text, problems, args.drop 1, true, true, false⟩
          else
            let more := fillOnce fuel rest (args.drop 1)
            ⟨text ++ more.output, problems ++ more.problems, more.args, true, more.ends,
              more.broken⟩
    | c, cs => plain c cs

/-- Passes over a format until no argument is left. -/
def fillAll : Nat → Octets → List Octets → Octets × List Octets × Bool
  | 0, _, _ => ([], [], false)
  | fuel + 1, format, args =>
    let filled := fillOnce (format.length + 1) format args
    if filled.ends || !filled.used || filled.args.isEmpty then
      (filled.output, filled.problems, filled.broken)
    else
      let (output, problems, broken) := fillAll fuel format filled.args
      (filled.output ++ output, filled.problems ++ problems, broken)

/-- What `printf` writes, its complaints and its status; `name` begins the complaints. -/
def printf (name : Octets) (args : List Octets) : Octets × Octets × Nat :=
  let args := match args with
    | ['-', '-'] :: args => args
    | args => args
  match args with
  | [] => ([], name ++ octets "usage: printf format [arg ...]\n", 2)
  | format :: args =>
    let (output, problems, broken) := fillAll (args.length + 1) format args
    (output, problems.flatMap fun problem => name ++ problem ++ ['\n'],
      if broken then 2 else if problems.isEmpty then 0 else 1)

end Scaffold.Shell.Printing
