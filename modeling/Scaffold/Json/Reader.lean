import Scaffold.Json.Basic
import Scaffold.Text.Digit

/-!
# Reading JSON

The grammar is the standard one: blanks are spaces, tabs, line feeds and
carriage returns, numbers have no leading zeros, strings hold no control
characters. Each reader takes the text that is left and returns what it read
with the text after it.
-/

namespace Scaffold.Json

open Text

def isJsonBlank (c : Char) : Bool := c = ' ' || c = '\n' || c = '\t' || c = '\r'

def skipBlanks (cs : List Char) : List Char := cs.dropWhile isJsonBlank

/-! ## Strings -/

/-- The number that four hexadecimal digits write. -/
def hex4? : List Char → Option (Nat × List Char)
  | a :: b :: c :: d :: rest => do
    let a ← hexDigit? a
    let b ← hexDigit? b
    let c ← hexDigit? c
    let d ← hexDigit? d
    return (((a * 16 + b) * 16 + c) * 16 + d, rest)
  | _ => none

def escaped? : Char → Option Char
  | '"' => some '"'
  | '\\' => some '\\'
  | '/' => some '/'
  | 'b' => some (Char.ofNat 8)
  | 'f' => some (Char.ofNat 12)
  | 'n' => some '\n'
  | 'r' => some '\r'
  | 't' => some '\t'
  | _ => none

/-- A character of a string, or nothing for half a surrogate pair. -/
abbrev Unit16 := Option Char

/-- The characters of a string up to its closing quote. A first surrogate
counts with the second one that follows it; any other surrogate has no
character. -/
def readUnits : Nat → List Unit16 → List Char → Option (List Unit16 × List Char)
  | 0, _, _ => none
  | _ + 1, _, [] => none
  | _ + 1, done, '"' :: rest => some (done.reverse, rest)
  | fuel + 1, done, '\\' :: 'u' :: rest =>
    match hex4? rest with
    | none => none
    | some (n, rest) =>
      if 0xd800 ≤ n && n < 0xdc00 then
        match rest with
        | '\\' :: 'u' :: after =>
          match hex4? after with
          | none => none
          | some (m, after) =>
            if 0xdc00 ≤ m && m < 0xe000 then
              let code := 0x10000 + (n - 0xd800) * 0x400 + (m - 0xdc00)
              readUnits fuel (some (Char.ofNat code) :: done) after
            else readUnits fuel (none :: done) rest
        | _ => readUnits fuel (none :: done) rest
      else if 0xdc00 ≤ n && n < 0xe000 then readUnits fuel (none :: done) rest
      else readUnits fuel (some (Char.ofNat n) :: done) rest
  | fuel + 1, done, '\\' :: c :: rest =>
    match escaped? c with
    | some e => readUnits fuel (some e :: done) rest
    | none => none
  | fuel + 1, done, c :: rest =>
    if c = '\\' || c.toNat < 0x20 then none
    else readUnits fuel (some c :: done) rest

/-- A string after its opening quote. -/
def readString (cs : List Char) : Option (Option String × List Char) :=
  (readUnits (cs.length + 1) [] cs).map fun (units, rest) =>
    ((units.mapM id).map String.ofList, rest)

/-! ## Numbers -/

/-- The digits at the start of a text and what follows them. -/
def takeDigits (cs : List Char) : List Char × List Char :=
  (cs.takeWhile isAsciiDigit, cs.dropWhile isAsciiDigit)

/-- An integer part: zero alone or digits that do not start with zero. -/
def readIntegerPart : List Char → Option (List Char × List Char)
  | '0' :: rest =>
    match rest with
    | c :: _ => if isAsciiDigit c then none else some (['0'], rest)
    | [] => some (['0'], [])
  | cs =>
    match takeDigits cs with
    | ([], _) => none
    | found => some found

/-- A point and the digits after it, or nothing. -/
def readFraction : List Char → Option (List Char × List Char)
  | '.' :: rest =>
    match takeDigits rest with
    | ([], _) => none
    | (digits, rest) => some ('.' :: digits, rest)
  | cs => some ([], cs)

/-- An exponent, or nothing. -/
def readExponent : List Char → Option (List Char × List Char)
  | [] => some ([], [])
  | e :: rest =>
    if e = 'e' || e = 'E' then
      let (sign, rest) :=
        match rest with
        | '+' :: rest => (['+'], rest)
        | '-' :: rest => (['-'], rest)
        | rest => ([], rest)
      match takeDigits rest with
      | ([], _) => none
      | (digits, rest) => some (e :: sign ++ digits, rest)
    else some ([], e :: rest)

def readNumber (cs : List Char) : Option (String × List Char) := do
  let (sign, cs) := match cs with
    | '-' :: rest => (['-'], rest)
    | cs => ([], cs)
  let (whole, cs) ← readIntegerPart cs
  let (fraction, cs) ← readFraction cs
  let (exponent, cs) ← readExponent cs
  return (String.ofList (sign ++ whole ++ fraction ++ exponent), cs)

/-! ## Values -/

mutual

/-- A value, after blanks. The first number bounds the depth. -/
def readValue : Nat → List Char → Option (Json × List Char)
  | 0, _ => none
  | fuel + 1, cs =>
    match skipBlanks cs with
    | 'n' :: 'u' :: 'l' :: 'l' :: rest => some (.null, rest)
    | 't' :: 'r' :: 'u' :: 'e' :: rest => some (.bool true, rest)
    | 'f' :: 'a' :: 'l' :: 's' :: 'e' :: rest => some (.bool false, rest)
    | '"' :: rest => (readString rest).map fun (s, rest) => (.string s, rest)
    | '[' :: rest =>
      match skipBlanks rest with
      | ']' :: rest => some (.array [], rest)
      | rest => (readItems fuel rest).map fun (items, rest) => (.array items, rest)
    | '\x7b' :: rest =>
      match skipBlanks rest with
      | '\x7d' :: rest => some (.object [], rest)
      | rest => (readFields fuel rest).map fun (fields, rest) => (.object fields, rest)
    | rest => (readNumber rest).map fun (written, rest) => (.number written, rest)

/-- The items of an array that has at least one, up to its closing bracket. -/
def readItems : Nat → List Char → Option (List Json × List Char)
  | 0, _ => none
  | fuel + 1, cs =>
    match readValue fuel cs with
    | none => none
    | some (item, rest) =>
      match skipBlanks rest with
      | ',' :: rest => (readItems fuel rest).map fun (items, rest) => (item :: items, rest)
      | ']' :: rest => some ([item], rest)
      | _ => none

/-- The fields of an object that has at least one, up to its closing brace. -/
def readFields : Nat → List Char → Option (List (Option String × Json) × List Char)
  | 0, _ => none
  | fuel + 1, cs =>
    match skipBlanks cs with
    | '"' :: rest =>
      match readString rest with
      | none => none
      | some (key, rest) =>
        match skipBlanks rest with
        | ':' :: rest =>
          match readValue fuel rest with
          | none => none
          | some (value, rest) =>
            match skipBlanks rest with
            | ',' :: rest =>
              (readFields fuel rest).map fun (fields, rest) => ((key, value) :: fields, rest)
            | '\x7d' :: rest => some ([(key, value)], rest)
            | _ => none
        | _ => none
    | _ => none

end

/-- The document that a whole text writes. Every step of depth takes at least
one character, so the length of the text bounds the depth. -/
def parse? (s : String) : Option Json :=
  match readValue (s.length + 1) s.toList with
  | some (value, rest) => if (skipBlanks rest).isEmpty then some value else none
  | none => none

end Scaffold.Json
