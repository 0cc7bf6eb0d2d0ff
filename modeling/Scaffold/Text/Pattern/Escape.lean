import Scaffold.Text.Blank
import Scaffold.Text.Pattern

/-!
# Escapes of patterns

What a backslash makes of the characters behind it: a character, a set of
characters or an anchor. Flags decide how large the sets are, whether letters
stand for both their cases, and whether blanks between the characters count.
-/

namespace Scaffold.Text.Pattern

/-- What marks in front of a pattern turn on and off. -/
structure Flags where
  anyCase : Bool
  manyLines : Bool
  dotAll : Bool
  /-- Sets hold characters of all of Unicode. -/
  wide : Bool
  /-- Lines can also end in a carriage return. -/
  carriage : Bool
  /-- Blanks do not count, and comments start at a number sign. -/
  spaced : Bool

def Flags.plain : Flags := ⟨false, false, false, true, false, false⟩

abbrev Reading (α : Type) := Option (α × List Char)

/-! ## Blanks -/

/-- The text behind blanks and comments; the flag tells that a comment goes on. -/
def skipComments : Bool → List Char → List Char
  | _, [] => []
  | true, c :: cs => skipComments (c != '\n') cs
  | false, c :: cs =>
    if isBlank c then skipComments false cs
    else if c = '#' then skipComments true cs
    else c :: cs

def Flags.skip (flags : Flags) (cs : List Char) : List Char :=
  if flags.spaced then skipComments false cs else cs

/-- The characters that count up to a closing brace, and the text behind it. -/
def upToBrace (spaced : Bool) : Bool → List Char → Reading (List Char)
  | _, [] => none
  | comment, c :: cs =>
    if comment then upToBrace spaced (c != '\n') cs
    else if spaced && isBlank c then upToBrace spaced false cs
    else if spaced && c = '#' then upToBrace spaced true cs
    else if c = '\x7d' then some ([], cs)
    else (upToBrace spaced false cs).map fun (text, rest) => (c :: text, rest)

/-! ## Sets -/

/-- The set as the flags mean it. Sets of bytes are closed under the case of
ASCII letters only, and none may hold a byte that is no character. -/
def Flags.close (flags : Flags) (negated : Bool) (set : CodeSet) : Option CodeSet :=
  if flags.wide then
    let set := if flags.anyCase then set.folded else set
    some (if negated then set.complement else set)
  else
    let set := if flags.anyCase then set.foldedAscii else set
    if negated || !set.isAscii then none else some set

/-- The characters that one character of a pattern matches. -/
def Flags.charSet (flags : Flags) (c : Char) : CodeSet :=
  let set := CodeSet.single c.toNat
  if !flags.anyCase then set else if flags.wide then set.folded else set.foldedAscii

/-- The classes of ASCII characters that have names. -/
def asciiClasses : List (String × List String) := [
  ("alnum", ["30-39 41-5a 61-7a"]), ("alpha", ["41-5a 61-7a"]), ("ascii", ["0-7f"]),
  ("blank", ["9 20"]), ("cntrl", ["0-1f 7f"]), ("digit", ["30-39"]), ("graph", ["21-7e"]),
  ("lower", ["61-7a"]), ("print", ["20-7e"]), ("punct", ["21-2f 3a-40 5b-60 7b-7e"]),
  ("space", ["9-d 20"]), ("upper", ["41-5a"]), ("word", ["30-39 41-5a 5f 61-7a"]),
  ("xdigit", ["30-39 41-46 61-66"])]

def asciiClass? (name : String) : Option CodeSet := (asciiClasses.lookup name).map CodeSet.ofLines

/-- A set with one letter; a capital letter stands for all other characters. -/
def Flags.letterSet (flags : Flags) (letter : Char) : Option CodeSet :=
  let named (all : CodeSet) (ascii : String) : Option CodeSet :=
    if flags.wide then some all else asciiClass? ascii
  let set := match letter.toLower with
    | 'd' => named Property.digits "digit"
    | 's' => named Property.blanks "space"
    | _ => named Property.words "word"
  set.bind fun set =>
    if !letter.isUpper then some set else if flags.wide then some set.complement else none

/-- The set of a property; a value stands behind the first of the signs between. -/
def property? (name : List Char) : Option CodeSet :=
  let valued (sign : List Char) : Option (Option CodeSet) :=
    (cutAt sign name).map fun (name, value) =>
      Property.ofValue? (String.ofList name) (String.ofList value)
  (((valued ['!', '=']).orElse fun _ => valued [':']).orElse fun _ => valued ['=']).getD
    (Property.named? (String.ofList name))

/-- The name of a property behind its letter: another letter, or a name in braces. -/
def propertyName (flags : Flags) (cs : List Char) : Reading (List Char) :=
  match flags.skip cs with
  | [] => none
  | '\x7b' :: rest => upToBrace flags.spaced false rest
  | c :: rest => if c = '\\' then none else some ([c], rest)

def propertySet (flags : Flags) (negated : Bool) (cs : List Char) : Reading CodeSet :=
  if !flags.wide then none
  else
    match propertyName flags cs with
    | none => none
    | some (name, rest) =>
      ((property? name).bind (flags.close negated)).map fun set => (set, rest)

/-! ## Characters -/

/-- Some hexadecimal digits. -/
def hexDigits (flags : Flags) : Nat → List Char → Reading (List Char)
  | 0, cs => some ([], cs)
  | _ + 1, [] => none
  | count + 1, c :: cs =>
    if (hexDigit? c).isNone then none
    else (hexDigits flags count (flags.skip cs)).map fun (digits, rest) => (c :: digits, rest)

/-- A character by its code: so many digits, or any number of them in braces. -/
def codedChar (flags : Flags) (count : Nat) (cs : List Char) : Reading Char :=
  let digits := match flags.skip cs with
    | '\x7b' :: rest => upToBrace flags.spaced false rest
    | cs => hexDigits flags count cs
  digits.bind fun (digits, rest) =>
    ((hexValue? digits).bind charOfCode?).map fun c => (c, rest)

/-- The characters that a backslash takes as they stand. -/
def isEscapable (c : Char) : Bool :=
  c.toNat < 0x80 && !c.isAlphanum && c != '<' && c != '>'

def letterEscapes : List (Char × Char) :=
  [('a', '\x07'), ('f', '\x0c'), ('t', '\t'), ('n', '\n'), ('r', '\r'), ('v', '\x0b')]

def boundaryNames : List (String × Boundary) :=
  [("start", .start), ("end", .stop), ("start-half", .noneBefore), ("end-half", .noneBehind)]

/-- A boundary behind its letter. A brace with a letter or a dash in it names the kind. -/
def boundary (flags : Flags) (cs : List Char) : Reading Boundary :=
  match cs with
  | '\x7b' :: rest =>
    match flags.skip rest with
    | [] => none
    | c :: more =>
      if c.isAlpha || c = '-' then
        match upToBrace flags.spaced false (c :: more) with
        | none => none
        | some (name, rest) =>
          (boundaryNames.lookup (String.ofList name)).map fun b => (b, rest)
      else some (.edge, cs)
  | cs => some (.edge, cs)

/-- What a backslash stands for with the characters behind it. -/
inductive Escape where
  /-- A character, and whether two digits gave its code, as those of a byte do. -/
  | char (c : Char) (byte : Bool)
  | set (set : CodeSet)
  | anchor (kind : Anchor)

/-- An escape behind its backslash. -/
def escape (flags : Flags) : List Char → Reading Escape
  | [] => none
  | c :: rest =>
    match c with
    | 'x' =>
      let byte := (flags.skip rest).head? != some '\x7b'
      (codedChar flags 2 rest).map fun (c, rest) => (.char c byte, rest)
    | 'u' => (codedChar flags 4 rest).map fun (c, rest) => (.char c false, rest)
    | 'U' => (codedChar flags 8 rest).map fun (c, rest) => (.char c false, rest)
    | 'p' => (propertySet flags false rest).map fun (set, rest) => (.set set, rest)
    | 'P' => (propertySet flags true rest).map fun (set, rest) => (.set set, rest)
    | 'd' | 'D' | 's' | 'S' | 'w' | 'W' => (flags.letterSet c).map fun set => (.set set, rest)
    | 'A' => some (.anchor .textStart, rest)
    | 'z' => some (.anchor .textEnd, rest)
    | 'B' => some (.anchor (.word .noEdge flags.wide), rest)
    | '<' => some (.anchor (.word .start flags.wide), rest)
    | '>' => some (.anchor (.word .stop flags.wide), rest)
    | 'b' => (boundary flags rest).map fun (b, rest) => (.anchor (.word b flags.wide), rest)
    | c =>
      if isEscapable c then some (.char c false, rest)
      else (letterEscapes.lookup c).map fun c => (.char c false, rest)

end Scaffold.Text.Pattern
