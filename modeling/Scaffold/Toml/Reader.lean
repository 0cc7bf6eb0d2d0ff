import Scaffold.Toml.Scalar

/-!
# Reading TOML

A document is a sequence of lines: headers, keys with values, comments and
blanks. Headers and keys are put into the tree in the order of the lines, so a
line that the tree refuses ends the reading like a line that cannot be read.
-/

namespace Scaffold.Toml

open Text

/-! ## Lines -/

/-- What follows a comment, if there is one. -/
def skipComment : List Char → List Char
  | '#' :: rest => rest.dropWhile isPrintable
  | cs => cs

/-- What follows the end of a line: blanks, a comment, and a line break or the
end of the document. -/
def afterLine? (cs : List Char) : Option (List Char) :=
  match skipComment (skipBlanks cs) with
  | [] => some []
  | rest => afterBreak? rest

/-- What follows blanks, comments and line breaks. -/
def afterLayout? : Nat → List Char → Option (List Char)
  | 0, cs => some cs
  | fuel + 1, cs =>
    match skipBlanks cs with
    | '#' :: rest => (afterBreak? (rest.dropWhile isPrintable)).bind (afterLayout? fuel)
    | '\n' :: rest => afterLayout? fuel rest
    | '\r' :: rest => (afterBreak? ('\r' :: rest)).bind (afterLayout? fuel)
    | rest => some rest

def skipLayout (cs : List Char) : Option (List Char) := afterLayout? cs.length cs

/-! ## Keys -/

def isBareKeyChar (c : Char) : Bool := c.isAlphanum || c = '_' || c = '-'

def readSimpleKey : List Char → Option (String × List Char)
  | '"' :: rest => readShort '"' rest
  | '\'' :: rest => readShort '\'' rest
  | cs =>
    let name := cs.takeWhile isBareKeyChar
    if name.isEmpty then none else some (String.ofList name, cs.dropWhile isBareKeyChar)

/-- Keys with points between them, and what follows them and their blanks. The
first number bounds how many there are. -/
def readKeys : Nat → List Char → Option (String × List String × List Char)
  | 0, _ => none
  | bound + 1, cs => do
    let (key, rest) ← readSimpleKey (skipBlanks cs)
    match skipBlanks rest with
    | '.' :: rest =>
      let (next, keys, rest) ← readKeys bound rest
      return (key, next :: keys, rest)
    | rest => return (key, [], rest)

/-- The greatest depth of keys and of nested values. -/
def depthLimit : Nat := 79

/-! ## Values -/

mutual

/-- A value; the numbers bound the steps and the depth. -/
def readValue : Nat → Nat → List Char → Option (Toml × List Char)
  | 0, _, _ => none
  | fuel + 1, depth, cs =>
    match cs with
    | '"' :: rest => (readString '"' rest).map fun (s, rest) => (.text s, rest)
    | '\'' :: rest => (readString '\'' rest).map fun (s, rest) => (.text s, rest)
    | 't' :: 'r' :: 'u' :: 'e' :: rest | 'f' :: 'a' :: 'l' :: 's' :: 'e' :: rest =>
      some (.plain, rest)
    | '[' :: rest =>
      match depth with
      | 0 => none
      | depth + 1 =>
        (readItems fuel depth rest).map fun (items, rest) => (.list items, rest)
    | '\x7b' :: rest =>
      match depth with
      | 0 => none
      | depth + 1 =>
        match skipBlanks rest with
        | '\x7d' :: rest => some (.inline [], rest)
        | rest => (readFields fuel depth [] rest).map fun (fields, rest) => (.inline fields, rest)
    | cs => (afterNumber? cs).map fun rest => (.plain, rest)

/-- The items of a list up to its closing bracket; a comma may follow the last. -/
def readItems : Nat → Nat → List Char → Option (List Toml × List Char)
  | 0, _, _ => none
  | fuel + 1, depth, cs =>
    match skipLayout cs with
    | none => none
    | some (']' :: rest) => some ([], rest)
    | some cs =>
      match readValue fuel depth cs with
      | none => none
      | some (item, rest) =>
        match skipLayout rest with
        | some (',' :: rest) =>
          (readItems fuel depth rest).map fun (items, rest) => (item :: items, rest)
        | some (']' :: rest) => some ([item], rest)
        | _ => none

/-- The fields of a table within braces, added to the ones before them. -/
def readFields : Nat → Nat → Fields → List Char → Option (Fields × List Char)
  | 0, _, _, _ => none
  | fuel + 1, depth, fields, cs =>
    match readKeys depthLimit cs with
    | some (key, keys, '=' :: rest) =>
      match readValue fuel depth (skipBlanks rest) with
      | none => none
      | some (value, rest) =>
        match define value key keys fields with
        | none => none
        | some fields =>
          match skipBlanks rest with
          | ',' :: rest => readFields fuel depth fields rest
          | '\x7d' :: rest => some (fields, rest)
          | _ => none
    | _ => none

end

/-! ## Documents -/

/-- What has been read: the tree and the header whose table is being filled. -/
structure Progress where
  fields : Fields
  header : List String

/-- A header, from its first bracket on. -/
def readHeader (p : Progress) (cs : List Char) : Option (Progress × List Char) :=
  let (isRow, cs) := match cs with
    | '[' :: '[' :: rest => (true, rest)
    | cs => (false, cs.drop 1)
  match readKeys depthLimit cs with
  | none => none
  | some (key, keys, rest) =>
    let path := key :: keys
    match stripPrefixChars (if isRow then [']', ']'] else [']']) rest with
    | none => none
    | some rest => do
      let rest ← afterLine? rest
      let last := path.getLast?.getD key
      let fields ←
        change (if isRow then openRow last else openTable last) path.dropLast p.fields
      return (⟨fields, path⟩, rest)

/-- A key with its value. -/
def readEntry (p : Progress) (cs : List Char) : Option (Progress × List Char) :=
  match readKeys depthLimit cs with
  | some (key, keys, '=' :: rest) => do
    let rest := skipBlanks rest
    let (value, rest) ← readValue (2 * rest.length + 2) depthLimit rest
    let rest ← afterLine? rest
    let fields ← change (define value key keys) p.header p.fields
    return (⟨fields, p.header⟩, rest)
  | _ => none

def readLinesOf : Nat → Progress → List Char → Option Progress
  | 0, p, cs => if cs.isEmpty then some p else none
  | fuel + 1, p, cs =>
    match skipBlanks cs with
    | [] => some p
    | '#' :: rest => (afterLine? ('#' :: rest)).bind (readLinesOf fuel p)
    | '\n' :: rest => readLinesOf fuel p rest
    | '\r' :: rest => (afterBreak? ('\r' :: rest)).bind (readLinesOf fuel p)
    | '[' :: rest => (readHeader p ('[' :: rest)).bind fun (p, rest) => readLinesOf fuel p rest
    | rest => (readEntry p rest).bind fun (p, rest) => readLinesOf fuel p rest

/-- Drops the mark that may start a document. -/
def dropMark : List Char → List Char
  | '\ufeff' :: rest => rest
  | cs => cs

/-- The fields of the document that a whole text writes. -/
def parse? (s : String) : Option Fields :=
  let cs := dropMark s.toList
  (readLinesOf (cs.length + 1) ⟨[], []⟩ cs).map (·.fields)

end Scaffold.Toml
