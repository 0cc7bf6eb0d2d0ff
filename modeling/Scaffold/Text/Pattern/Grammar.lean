import Scaffold.Text.Pattern.Bracket
import Scaffold.Text.Pattern.Size

/-!
# Reading patterns

A pattern is a choice between sequences of parts, each with its repetitions.
Marks turn flags on or off up to the end of the group that they stand in.
-/

namespace Scaffold.Text.Pattern

/-- What is left to read, with the flags that hold there and the names of the
groups before it. -/
structure Source where
  rest : List Char
  flags : Flags
  names : List (List Char)

/-- The source at another place. -/
def Source.at (src : Source) (rest : List Char) : Source := ⟨rest, src.flags, src.names⟩

/-- A part of a pattern, and how deep groups, lists and repetitions in it are
nested. Marks alone are no pattern, so nothing repeats them. -/
structure Part where
  pattern : Pattern
  depth : Nat
  marks : Bool

def Part.leaf (p : Pattern) : Part := ⟨p, 0, false⟩

def deepest (parts : List Part) : Nat := (parts.map (·.depth)).foldl max 0

/-- The sequence of some parts. -/
def Part.ofSequence (parts : List Part) : Part :=
  match parts with
  | [] => .leaf .empty
  | [only] => ⟨only.pattern, only.depth, false⟩
  | parts => ⟨sequence (parts.map (·.pattern)), 1 + deepest parts, false⟩

/-- The choice between some parts. -/
def Part.ofChoice (parts : List Part) : Part :=
  match parts with
  | [only] => only
  | parts => ⟨choice (parts.map (·.pattern)), 1 + deepest parts, false⟩

/-! ## Repetitions -/

/-- The largest count that a repetition may write. -/
def countLimit : Nat := 0xffffffff

/-- Digits, with what the flags skip between them. -/
def countDigits (flags : Flags) : Nat → List Char → List Char × List Char
  | 0, cs => ([], cs)
  | _ + 1, [] => ([], [])
  | fuel + 1, c :: cs =>
    if isAsciiDigit c then
      let (digits, rest) := countDigits flags fuel (flags.skip cs)
      (c :: digits, rest)
    else ([], c :: cs)

/-- Blanks, with what the flags skip between them. -/
def countBlanks (flags : Flags) : Nat → List Char → List Char
  | 0, cs => cs
  | _ + 1, [] => []
  | fuel + 1, c :: cs => if isBlank c then countBlanks flags fuel (flags.skip cs) else c :: cs

/-- A count, blanks around it. -/
def count (flags : Flags) (cs : List Char) : Reading Nat :=
  let (digits, rest) := countDigits flags cs.length (cs.dropWhile isBlank)
  if digits.isEmpty || countLimit < digitsValue digits then none
  else some (digitsValue digits, countBlanks flags rest.length rest)

/-- The bounds of a repetition behind its brace, up to its last brace. -/
def bounds (flags : Flags) (cs : List Char) : Reading (Nat × Option Nat) :=
  match count flags (flags.skip cs) with
  | some (least, '\x7d' :: rest) => some ((least, some least), rest)
  | some (least, ',' :: rest) =>
    match flags.skip rest with
    | '\x7d' :: rest => some ((least, none), rest)
    | rest =>
      match count flags rest with
      | some (most, '\x7d' :: rest) =>
        if most < least then none else some ((least, some most), rest)
      | _ => none
  | _ => none

/-- The rest behind the sign that makes a repetition prefer few copies, which
does not change what is found. -/
def afterLazy : List Char → List Char
  | '?' :: rest => rest
  | cs => cs

/-- The bounds of the repetition at the start of a text. -/
def repetition? (flags : Flags) : List Char → Option (Reading (Nat × Option Nat))
  | '?' :: rest => some (some ((0, some 1), afterLazy rest))
  | '*' :: rest => some (some ((0, none), afterLazy rest))
  | '+' :: rest => some (some ((1, none), afterLazy rest))
  | '\x7b' :: rest =>
    some ((bounds flags rest).map fun (found, rest) => (found, afterLazy (flags.skip rest)))
  | _ => none

/-- Repeats the last of the parts, which are in reverse. -/
def repeatLast (parts : List Part) (least : Nat) (most : Option Nat) : Option (List Part) :=
  match parts with
  | [] => none
  | part :: parts =>
    if part.marks then none
    else some (⟨repeated part.pattern least most, part.depth + 1, false⟩ :: parts)

/-! ## Marks -/

/-- Turns the flag of a letter on or off. -/
def Flags.put (flags : Flags) (letter : Char) (value : Bool) : Option Flags :=
  let ⟨anyCase, manyLines, dotAll, wide, carriage, spaced⟩ := flags
  match letter with
  | 'i' => some ⟨value, manyLines, dotAll, wide, carriage, spaced⟩
  | 'm' => some ⟨anyCase, value, dotAll, wide, carriage, spaced⟩
  | 's' => some ⟨anyCase, manyLines, value, wide, carriage, spaced⟩
  | 'u' => some ⟨anyCase, manyLines, dotAll, value, carriage, spaced⟩
  | 'R' => some ⟨anyCase, manyLines, dotAll, wide, value, spaced⟩
  | 'x' => some ⟨anyCase, manyLines, dotAll, wide, carriage, value⟩
  -- Which of several matches is preferred does not change what is found.
  | 'U' => some flags
  | _ => none

/-- Marks up to a colon or a parenthesis: letters, each once, and a dash before
those that are turned off. -/
def marks (flags : Flags) (value : Bool) (seen : List Char) : List Char → Reading (Flags × Char)
  | [] => none
  | c :: rest =>
    if c = ':' || c = ')' then
      if seen.head? = some '-' then none else some ((flags, c), rest)
    else if seen.contains c then none
    else if c = '-' then marks flags false ('-' :: seen) rest
    else (flags.put c value).bind fun flags => marks flags value (c :: seen) rest

/-! ## Groups -/

/-- Whether a character can stand in the name of a group. -/
def isNameChar (isFirst : Bool) (c : Char) : Bool :=
  if c.toNat < 0x80 then
    c = '_' || c.isAlpha || (!isFirst && (c.isDigit || c = '.' || c = '[' || c = ']'))
  else Property.letters.has c.toNat || (!isFirst && Property.numbers.has c.toNat)

/-- The name of a group up to its angle bracket. -/
def groupName (cs : List Char) : Reading (List Char) :=
  let name := cs.takeWhile (· != '>')
  match name, cs.drop name.length with
  | first :: more, '>' :: rest =>
    if isNameChar true first && more.all (isNameChar false) then some (name, rest) else none
  | _, _ => none

/-- How a group starts. -/
inductive Opening where
  /-- Marks that stand alone and hold up to the end of the group around them. -/
  | marks (flags : Flags)
  /-- A group with its flags, its name if it has one, and whether its match is remembered. -/
  | group (flags : Flags) (name : Option (List Char)) (kept : Bool)

/-- The start of a group behind its parenthesis. Groups that look around are refused. -/
def opening (flags : Flags) (cs : List Char) : Reading Opening :=
  let named (cs : List Char) : Reading Opening :=
    (groupName cs).map fun (name, rest) => (.group flags (some name) true, rest)
  match flags.skip cs with
  | '?' :: 'P' :: '<' :: rest => named rest
  | '?' :: '<' :: '=' :: _ | '?' :: '<' :: '!' :: _ => none
  | '?' :: '<' :: rest => named rest
  | '?' :: ')' :: _ => none
  | '?' :: rest =>
    (marks flags true [] rest).map fun ((flags, last), rest) =>
      (if last = ')' then .marks flags else .group flags none false, rest)
  | rest => some (.group flags none true, rest)

/-! ## Patterns -/

/-- What matches any character but those that end a line. -/
def dotSet (flags : Flags) : Option CodeSet :=
  if !flags.wide then none
  else if flags.dotAll then some CodeSet.all
  else if flags.carriage then some (CodeSet.ofRuns [(0x0a, 0x0a), (0x0d, 0x0d)]).complement
  else some (CodeSet.single 0x0a).complement

/-- A single character, a set or an anchor. -/
def primitive (flags : Flags) : List Char → Reading Part
  | [] => none
  | '\\' :: rest =>
    match escape flags rest with
    | none => none
    | some (.char c byte, rest) =>
      if byte && !flags.wide && 0x80 ≤ c.toNat then none
      else some (.leaf (.one (flags.charSet c)), rest)
    | some (.set set, rest) => some (.leaf (.one set), rest)
    | some (.anchor kind, rest) => some (.leaf (.anchor kind), rest)
  | '.' :: rest => (dotSet flags).map fun set => (.leaf (.one set), rest)
  | '^' :: rest =>
    let kind := if flags.manyLines then .lineStart flags.carriage else .textStart
    some (.leaf (.anchor kind), rest)
  | '$' :: rest =>
    let kind := if flags.manyLines then .lineEnd flags.carriage else .textEnd
    some (.leaf (.anchor kind), rest)
  | c :: rest => some (.leaf (.one (flags.charSet c)), rest)

/-- A pattern up to a parenthesis that no group in it opens, or to the end:
`found` has the parts of the sequence so far in reverse, `options` the sequences
before it in reverse. -/
def parts : Nat → (options found : List Part) → Source → Option (Part × Source)
  | 0, _, _, _ => none
  | fuel + 1, options, found, src =>
    let rest := src.flags.skip src.rest
    let finished := Part.ofSequence found.reverse :: options
    match rest with
    | [] | ')' :: _ => some (Part.ofChoice finished.reverse, src.at rest)
    | '|' :: rest => parts fuel finished [] (src.at rest)
    | '(' :: rest =>
      match opening src.flags rest with
      | none => none
      | some (.marks flags, rest) =>
        parts fuel options (⟨.empty, 0, true⟩ :: found) ⟨rest, flags, src.names⟩
      | some (.group flags name kept, rest) =>
        if (name.map src.names.contains).getD false then none
        else
          match parts fuel [] [] ⟨rest, flags, name.toList ++ src.names⟩ with
          | some (inner, ⟨')' :: rest, _, names⟩) =>
            let wrapped := if kept then group inner.pattern else inner.pattern
            parts fuel options (⟨wrapped, inner.depth + 1, false⟩ :: found)
              ⟨rest, src.flags, names⟩
          | _ => none
    | '[' :: rest =>
      (bracketed src.flags rest).bind fun (set, rest) =>
        parts fuel options (⟨.one set.set, set.depth, false⟩ :: found) (src.at rest)
    | rest =>
      match repetition? src.flags rest with
      | some bounds => do
        let ((least, most), rest) ← bounds
        let found ← repeatLast found least most
        parts fuel options found (src.at rest)
      | none =>
        (primitive src.flags rest).bind fun (part, rest) =>
          parts fuel options (part :: found) (src.at rest)

/-- Why a text is no pattern. -/
inductive Fault where
  | malformed (text : String)
  | tooLarge
  deriving DecidableEq, Repr

/-- How deep the parts of a pattern may be nested. -/
def depthLimit : Nat := 250

def parse? (text : String) : Except Fault Pattern :=
  let cs := text.toList
  match parts (cs.length + 2) [] [] ⟨cs, .plain, []⟩ with
  | some (part, ⟨[], _, _⟩) =>
    if depthLimit < part.depth then .error (.malformed text)
    else if part.pattern.isTooLarge then .error .tooLarge
    else .ok part.pattern
  | _ => .error (.malformed text)

/-- The text with its lines numbered, if it has more than one. -/
def quotedLines (text : String) : String :=
  let lines := splitOn '\n' text
  if lines.length = 1 then "    " ++ text ++ "\n"
  else
    let width := (toString lines.length).length
    String.join ((lines.zipIdx 1).map fun (line, n) =>
      let number := toString n
      String.ofList (List.replicate (width - number.length) ' ') ++ number ++ ": " ++
        stripSuffix "\x0d" line ++ "\n")

def Fault.message : Fault → String
  | .malformed text => "regex parse error:\n" ++ quotedLines text
  | .tooLarge =>
    "Compiled regex exceeds size limit of " ++ toString sizeLimit ++ " bytes."

end Scaffold.Text.Pattern
