import Scaffold.Json.Reader
import Scaffold.Number.Binary64
import Scaffold.Text.Cut
import Scaffold.Toml.Basic

/-!
# Scalars of TOML

Strings of one line and of many, with escapes or without, and the forms of
numbers and dates. Each reader takes the text that is left and returns what it
read with the text after it.
-/

namespace Scaffold.Toml

open Text

/-! ## Characters -/

def isBlank (c : Char) : Bool := c = ' ' || c = '\t'

def skipBlanks (cs : List Char) : List Char := cs.dropWhile isBlank

/-- Characters that may stand in comments and strings: all but the controls. -/
def isPrintable (c : Char) : Bool := c = '\t' || (0x20 ≤ c.toNat && c.toNat != 0x7f)

/-- What follows a line break. -/
def afterBreak? : List Char → Option (List Char)
  | '\n' :: rest => some rest
  | '\r' :: '\n' :: rest => some rest
  | _ => none

/-! ## Strings -/

/-- The number that `count` hexadecimal digits write. -/
def hexNumber? : Nat → Nat → List Char → Option (Nat × List Char)
  | 0, n, cs => some (n, cs)
  | count + 1, n, c :: cs => (hexDigit? c).bind fun d => hexNumber? count (16 * n + d) cs
  | _ + 1, _, [] => none

/-- The character of a code point, unless it is a surrogate or too large. -/
def charAt? (n : Nat) : Option Char := if n.isValidChar then some (Char.ofNat n) else none

/-- An escape after its backslash. -/
def readEscape : List Char → Option (Char × List Char)
  | 'b' :: rest => some ('\x08', rest)
  | 't' :: rest => some ('\t', rest)
  | 'n' :: rest => some ('\n', rest)
  | 'f' :: rest => some ('\x0c', rest)
  | 'r' :: rest => some ('\r', rest)
  | '"' :: rest => some ('"', rest)
  | '\\' :: rest => some ('\\', rest)
  | 'u' :: rest => do
    let (n, rest) ← hexNumber? 4 0 rest
    return (← charAt? n, rest)
  | 'U' :: rest => do
    let (n, rest) ← hexNumber? 8 0 rest
    return (← charAt? n, rest)
  | _ => none

/-- The rest of a string of one line. Escapes count between double quotes only. -/
def readLine (quote : Char) : Nat → List Char → List Char → Option (String × List Char)
  | 0, _, _ => none
  | _ + 1, _, [] => none
  | fuel + 1, done, c :: rest =>
    if c = quote then some (String.ofList done.reverse, rest)
    else if c = '\\' && quote = '"' then
      match readEscape rest with
      | some (e, rest) => readLine quote fuel (e :: done) rest
      | none => none
    else if isPrintable c then readLine quote fuel (c :: done) rest
    else none

/-- What follows the three quotes that close a string of many lines, with the
one or two more quotes that may stand before them. -/
def closing? (quote : Char) : List Char → Option (List Char × List Char)
  | a :: b :: c :: rest =>
    if a = quote && b = quote && c = quote then
      let more := (rest.take 2).takeWhile (· == quote)
      some (more, rest.drop more.length)
    else none
  | _ => none

/-- What follows a backslash at the end of a line, with the blanks and line
breaks after it. -/
def afterJoin? (cs : List Char) : Option (List Char) :=
  let rec skip : Nat → List Char → List Char
    | 0, cs => cs
    | fuel + 1, cs =>
      match afterBreak? cs with
      | some rest => skip fuel rest
      | none =>
        match cs with
        | c :: rest => if isBlank c then skip fuel rest else c :: rest
        | [] => []
  (afterBreak? (skipBlanks cs)).map fun rest => skip rest.length rest

/-- The rest of a string of many lines. -/
def readLines (quote : Char) : Nat → List Char → List Char → Option (String × List Char)
  | 0, _, _ => none
  | _ + 1, _, [] => none
  | fuel + 1, done, c :: rest =>
    match closing? quote (c :: rest) with
    | some (more, rest) => some (String.ofList (done.reverse ++ more), rest)
    | none =>
      if c = '\\' && quote = '"' then
        match afterJoin? rest with
        | some rest => readLines quote fuel done rest
        | none =>
          match readEscape rest with
          | some (e, rest) => readLines quote fuel (e :: done) rest
          | none => none
      else
        match afterBreak? (c :: rest) with
        | some rest => readLines quote fuel ('\n' :: done) rest
        | none => if isPrintable c then readLines quote fuel (c :: done) rest else none

/-- A string of one line after its opening quote. -/
def readShort (quote : Char) (cs : List Char) : Option (String × List Char) :=
  readLine quote (cs.length + 1) [] cs

/-- A string after its opening quote. A line break right after three quotes does
not count. -/
def readString (quote : Char) (cs : List Char) : Option (String × List Char) :=
  match cs with
  | b :: c :: rest =>
    if b = quote && c = quote then
      let rest := (afterBreak? rest).getD rest
      readLines quote (rest.length + 1) [] rest
    else readShort quote cs
  | _ => readShort quote cs

/-! ## Digits -/

/-- Digits with single underscores between them. -/
def readDigits (p : Char → Bool) : List Char → Option (List Char × List Char)
  | [] => none
  | c :: rest =>
    if p c then
      match rest with
      | '_' :: more => (readDigits p more).map fun (digits, rest) => (c :: digits, rest)
      | more =>
        match more.head? with
        | some d =>
          if p d then (readDigits p more).map fun (digits, rest) => (c :: digits, rest)
          else some ([c], more)
        | none => some ([c], [])
    else none

/-- A fixed count of decimal digits. -/
def fixedDigits? (count : Nat) (cs : List Char) : Option (Nat × List Char) :=
  let digits := cs.take count
  if digits.length = count && digits.all isAsciiDigit then
    some (digitsValue digits, cs.drop count)
  else none

/-! ## Dates and times -/

def daysIn (year month : Nat) : Nat :=
  if month = 2 then
    if year % 4 = 0 && (year % 100 != 0 || year % 400 = 0) then 29 else 28
  else if month = 4 || month = 6 || month = 9 || month = 11 then 30
  else 31

/-- What follows a time without an offset. -/
def afterTime? (cs : List Char) : Option (List Char) := do
  let (hour, cs) ← fixedDigits? 2 cs
  let cs ← stripPrefixChars [':'] cs
  let (minute, cs) ← fixedDigits? 2 cs
  let cs ← stripPrefixChars [':'] cs
  let (second, cs) ← fixedDigits? 2 cs
  if 23 < hour || 59 < minute || 60 < second then none
  else
    match cs with
    | '.' :: d :: rest => if isAsciiDigit d then some (rest.dropWhile isAsciiDigit) else some cs
    | cs => some cs

/-- What follows an offset from universal time, which may be missing. -/
def afterOffset? : List Char → Option (List Char)
  | 'Z' :: rest | 'z' :: rest => some rest
  | '+' :: rest | '-' :: rest => do
    let (hour, rest) ← fixedDigits? 2 rest
    let rest ← stripPrefixChars [':'] rest
    let (minute, rest) ← fixedDigits? 2 rest
    if 23 < hour || 59 < minute then none else some rest
  | cs => some cs

/-- What follows a date after its year, with the time that may follow it. -/
def afterDate? (year : Nat) (cs : List Char) : Option (List Char) := do
  let (month, cs) ← fixedDigits? 2 cs
  let cs ← stripPrefixChars ['-'] cs
  let (day, cs) ← fixedDigits? 2 cs
  if month < 1 || 12 < month || day < 1 || daysIn year month < day then none
  else
    match cs with
    | c :: rest =>
      if c = 'T' || c = 't' || c = ' ' then
        match afterTime? rest with
        | some rest => afterOffset? rest
        | none => some cs
      else some cs
    | [] => some []

/-! ## Numbers -/

def wholeLimit : Nat := 0x8000000000000000

/-- A whole number in a base after its prefix. -/
def afterBased? (base : Nat) (cs : List Char) : Option (List Char) := do
  let value (c : Char) : Option Nat := (hexDigit? c).filter (· < base)
  let (digits, rest) ← readDigits (fun c => (value c).isSome) cs
  let n := digits.foldl (fun n c => base * n + (value c).getD 0) 0
  if n < wholeLimit then some rest else none

/-- The fraction of a number, which may be missing. -/
def readFraction : List Char → Option (List Char × List Char)
  | '.' :: rest => readDigits isAsciiDigit rest
  | cs => some ([], cs)

/-- The exponent of a number, which may be missing. -/
def readExponent : List Char → Option (Option Int × List Char)
  | e :: rest =>
    if e = 'e' || e = 'E' then
      let (negative, rest) := match rest with
        | '-' :: rest => (true, rest)
        | '+' :: rest => (false, rest)
        | rest => (false, rest)
      (readDigits isAsciiDigit rest).map fun (digits, rest) =>
        let n : Int := (digitsValue digits : Nat)
        (some (if negative then -n else n), rest)
    else some (none, e :: rest)
  | [] => some (none, [])

/-- The digits before the point: a zero alone, or digits that start with another. -/
def readWhole : List Char → Option (List Char × List Char)
  | '0' :: rest => some (['0'], rest)
  | cs => readDigits isAsciiDigit cs

/-- What follows a decimal number after its sign. Whole numbers have 64 bits,
and a number with a fraction or an exponent must not be too large, though a
negative one may. -/
def afterDecimal? (negative : Bool) (cs : List Char) : Option (List Char) := do
  let (whole, cs) ← readWhole cs
  let (fraction, afterFraction) ← readFraction cs
  let (exponent, rest) ← readExponent afterFraction
  if fraction.isEmpty && exponent.isNone then
    let limit := if negative then wholeLimit else wholeLimit - 1
    if digitsValue whole ≤ limit then some rest else none
  else
    let power := exponent.getD 0 - (fraction.length : Nat)
    let x := Binary64.ofDecimal false (digitsValue (whole ++ fraction)) power
    if negative || x.isFinite then some rest else none

def afterSigned? (negative : Bool) : List Char → Option (List Char)
  | 'i' :: 'n' :: 'f' :: rest | 'n' :: 'a' :: 'n' :: rest => some rest
  | cs => afterDecimal? negative cs

/-- What follows a number or a date. -/
def afterNumber? (cs : List Char) : Option (List Char) :=
  match fixedDigits? 4 cs with
  | some (year, '-' :: rest) => afterDate? year rest
  | _ =>
    match fixedDigits? 2 cs with
    | some (_, ':' :: _) => afterTime? cs
    | _ =>
      match cs with
      | '+' :: rest => afterSigned? false rest
      | '-' :: rest => afterSigned? true rest
      | '0' :: 'x' :: rest => afterBased? 16 rest
      | '0' :: 'o' :: rest => afterBased? 8 rest
      | '0' :: 'b' :: rest => afterBased? 2 rest
      | cs => afterSigned? false cs

end Scaffold.Toml
