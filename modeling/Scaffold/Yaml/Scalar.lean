import Scaffold.Text.Digit
import Scaffold.Yaml.Cursor

/-!
# Scalars

The three forms of scalar text: plain, quoted and block. Line breaks inside plain
and quoted scalars are folded: a single one becomes a space, and of several the
first disappears. A block scalar keeps its lines, or folds them, and its end is
kept or chomped as its header says.
-/

namespace Scaffold.Yaml

open Text (isAsciiDigit hexDigit?)

/-! ## Folding -/

/-- Blanks and line breaks between two parts of a scalar: the blanks of a single
line, or the first line break and those behind it. -/
structure Gap where
  blanks : List Char := []
  first : List Char := []
  later : List Char := []
  broken : Bool := false

/-- What a gap leaves in the text of a scalar. -/
def Gap.folded (g : Gap) : List Char :=
  if g.broken then
    if g.first = ['\n'] then if g.later.isEmpty then [' '] else g.later
    else g.first ++ g.later
  else g.blanks

/-- Reads blanks and line breaks. Tabs before column `indent` of a new line are
refused. -/
def readGap : Nat → (indent : Option Nat) → Gap → Cursor → Option (Gap × Cursor)
  | 0, _, _, _ => none
  | fuel + 1, indent, g, c =>
    match c.next with
    | none => some (g, c)
    | some ch =>
      if isBlank ch then
        if g.broken then
          if ch = '\t' && (indent.map fun n => decide (c.column < n)).getD false then none
          else readGap fuel indent g (c.skip 1)
        else readGap fuel indent { g with blanks := g.blanks ++ [ch] } (c.skip 1)
      else if isBreak ch then
        let (text, c) := c.lineBreak
        if g.broken then readGap fuel indent { g with later := g.later ++ text } c
        else readGap fuel indent { g with first := text, broken := true } c
      else some (g, c)

/-! ## Plain scalars -/

def isFlowMark (c : Char) : Bool := c = ',' || c = '[' || c = ']' || c = '\x7b' || c = '\x7d'

/-- Whether a plain scalar ends at this character of a word. -/
def endsPlain (inFlow : Bool) (c : Cursor) (ch : Char) : Bool :=
  (ch = ':' && c.isGap 1) || (inFlow && isFlowMark ch)

/-- A colon before a mark of a flow collection is refused in a word of one. -/
def isStrayColon (inFlow : Bool) (c : Cursor) (ch : Char) : Bool :=
  inFlow && ch = ':' &&
    match c.ahead 1 with
    | some next => isFlowMark next || next = '?'
    | none => false

/-- The characters of a word of a plain scalar. -/
def plainWord : Nat → (inFlow : Bool) → Cursor → Option (List Char × Cursor)
  | 0, _, _ => none
  | fuel + 1, inFlow, c =>
    match c.next with
    | none => some ([], c)
    | some ch =>
      if isBlank ch || isBreak ch then some ([], c)
      else if isStrayColon inFlow c ch then none
      else if endsPlain inFlow c ch then some ([], c)
      else
        match plainWord fuel inFlow (c.skip 1) with
        | none => none
        | some (word, rest) => some (ch :: word, rest)

/-- The rest of a plain scalar behind `text`; `gap` stands before the next word.
The flag says whether the scalar ended behind a line break. -/
def plainFrom : Nat → (inFlow : Bool) → (indent : Nat) → (text : List Char) → Gap → Cursor →
    Option (List Char × Bool × Cursor)
  | 0, _, _, _, _, _ => none
  | fuel + 1, inFlow, indent, text, gap, c =>
    if c.atDocumentMark || c.next = some '#' then some (text, gap.broken, c)
    else
      match plainWord (c.rest.length + 1) inFlow c with
      | none => none
      | some (word, after) =>
        let text := if word.isEmpty then text else text ++ gap.folded ++ word
        let gap := if word.isEmpty then gap else {}
        match after.next with
        | none => some (text, gap.broken, after)
        | some ch =>
          if isBlank ch || isBreak ch then
            match readGap (after.rest.length + 1) (some indent) gap after with
            | none => none
            | some (gap, after) =>
              if !inFlow && after.column < indent then some (text, gap.broken, after)
              else plainFrom fuel inFlow indent text gap after
          else some (text, gap.broken, after)

/-- A plain scalar whose lines stand at column `indent` or behind it, and whether
it ended behind a line break. -/
def plain (inFlow : Bool) (indent : Nat) (c : Cursor) : Option (String × Bool × Cursor) :=
  (plainFrom (c.rest.length + 1) inFlow indent [] {} c).map fun (text, broken, rest) =>
    (String.ofList text, broken, rest)

/-! ## Quoted scalars -/

/-- The character that `n` hexadecimal digits name. -/
def hexChar (n : Nat) (c : Cursor) : Option (Char × Cursor) :=
  let digits := c.rest.take n
  if digits.length < n then none
  else
    match digits.foldlM (fun value d => (hexDigit? d).map (16 * value + ·)) 0 with
    | none => none
    | some value =>
      if value < 0xd800 || (0xdfff < value && value ≤ 0x10ffff) then
        some (Char.ofNat value, c.skip n)
      else none

/-- The characters behind a backslash that stand for one character. -/
def escapes : List (Char × Char) :=
  [('0', '\x00'), ('a', '\x07'), ('b', '\x08'), ('t', '\t'), ('\t', '\t'), ('n', '\n'),
    ('v', '\x0b'), ('f', '\x0c'), ('r', '\r'), ('e', '\x1b'), (' ', ' '), ('"', '"'),
    ('/', '/'), ('\\', '\\'), ('N', '\x85'), ('_', '\xa0'), ('L', '\u2028'), ('P', '\u2029')]

/-- An escape, from the character behind the backslash on. -/
def escape (c : Cursor) : Option (Char × Cursor) :=
  match c.next with
  | none => none
  | some 'x' => hexChar 2 (c.skip 1)
  | some 'u' => hexChar 4 (c.skip 1)
  | some 'U' => hexChar 8 (c.skip 1)
  | some ch => (escapes.lookup ch).map fun value => (value, c.skip 1)

/-- The characters of a quoted scalar up to a gap, a quote at the end or a line
break behind a backslash, which the flag reports. -/
def quotedWord : Nat → (quote : Char) → Cursor → Option (List Char × Bool × Cursor)
  | 0, _, _ => none
  | fuel + 1, quote, c =>
    let more (ch : Char) (c : Cursor) : Option (List Char × Bool × Cursor) :=
      (quotedWord fuel quote c).map fun (word, broken, rest) => (ch :: word, broken, rest)
    match c.rest with
    | [] => some ([], false, c)
    | ch :: rest =>
      if isBlank ch || isBreak ch then some ([], false, c)
      else if quote = '\'' && ch = '\'' then
        if rest.head? = some '\'' then more '\'' (c.skip 2) else some ([], false, c)
      else if ch = quote then some ([], false, c)
      else if quote = '"' && ch = '\\' then
        if (rest.head?.map isBreak).getD false then some ([], true, (c.skip 1).lineBreak.2)
        else
          match escape (c.skip 1) with
          | none => none
          | some (value, c) => more value c
      else more ch (c.skip 1)

def quotedFrom : Nat → (quote : Char) → (text : List Char) → Cursor →
    Option (List Char × Cursor)
  | 0, _, _, _ => none
  | fuel + 1, quote, text, c =>
    if c.atDocumentMark || c.rest.isEmpty then none
    else
      match quotedWord (c.rest.length + 1) quote c with
      | none => none
      | some (word, broken, after) =>
        let text := text ++ word
        if after.next = some quote then some (text, after.skip 1)
        else
          match readGap (after.rest.length + 1) none { broken := broken } after with
          | none => none
          | some (gap, after) => quotedFrom fuel quote (text ++ gap.folded) after

/-- A scalar between quotes, from behind the first one on. -/
def quoted (quote : Char) (c : Cursor) : Option (String × Cursor) :=
  (quotedFrom (2 * c.rest.length + 2) quote [] c).map fun (text, rest) =>
    (String.ofList text, rest)

/-! ## Block scalars -/

/-- What happens to the line breaks at the end of a block scalar. -/
inductive Chomp where
  | strip
  | clip
  | keep
  deriving DecidableEq

def chompMark : Option Char → Option Chomp
  | some '+' => some .keep
  | some '-' => some .strip
  | _ => none

/-- A digit of a header, which is not zero. -/
def indentMark (c : Cursor) : Option (Option Nat × Cursor) :=
  match c.next with
  | some ch =>
    if ch = '0' then none
    else if isAsciiDigit ch then some (some (ch.toNat - 48), c.skip 1)
    else some (none, c)
  | none => some (none, c)

/-- The header of a block scalar: the end and the indentation that it asks for. -/
def blockHeader (c : Cursor) : Option (Chomp × Option Nat × Cursor) :=
  let marks : Option (Chomp × Option Nat × Cursor) :=
    match chompMark c.next with
    | some chomp => (indentMark (c.skip 1)).map fun (indent, c) => (chomp, indent, c)
    | none =>
      match indentMark c with
      | some (some indent, c) =>
        match chompMark c.next with
        | some chomp => some (chomp, some indent, c.skip 1)
        | none => some (.clip, some indent, c)
      | found => found.map fun (indent, c) => (.clip, indent, c)
  match marks with
  | none => none
  | some (chomp, indent, c) =>
    let c := c.skipWhile isBlank
    let c := if c.next = some '#' then c.skipWhile fun _ => true else c
    match c.next with
    | none => some (chomp, indent, c)
    | some ch => if isBreak ch then some (chomp, indent, c.lineBreak.2) else none

/-- Line breaks and indentation before a line of a block scalar, with the widest
indentation met. An indentation that is not known takes all spaces. -/
def blockBreaks : Nat → (indent : Option Nat) → (widest : Nat) → (text : List Char) → Cursor →
    Option (List Char × Nat × Cursor)
  | 0, _, _, _, _ => none
  | fuel + 1, indent, widest, text, c =>
    let spaces := (c.rest.takeWhile (· == ' ')).length
    let c := c.skip (match indent with
      | some n => min spaces (n - c.column)
      | none => spaces)
    let widest := max widest c.column
    let isShort := match indent with
      | some n => decide (c.column < n)
      | none => true
    if isShort && c.next = some '\t' then none
    else
      match c.next with
      | some ch =>
        if isBreak ch then
          let (break_, c) := c.lineBreak
          blockBreaks fuel indent widest (text ++ break_) c
        else some (text, widest, c)
      | none => some (text, widest, c)

/-- The lines of a block scalar. `pending` is the break behind the line before
and `breaks` those of empty lines behind it. -/
def blockLines : Nat → (folds : Bool) → (indent : Nat) → (text pending breaks : List Char) →
    (spaced : Bool) → Cursor → Option (List Char × List Char × List Char × Cursor)
  | 0, _, _, _, _, _, _, _ => none
  | fuel + 1, folds, indent, text, pending, breaks, spaced, c =>
    if c.column != indent || c.rest.isEmpty then some (text, pending, breaks, c)
    else
      let blank := (c.next.map isBlank).getD false
      let joint :=
        if folds && pending = ['\n'] && !spaced && !blank then
          if breaks.isEmpty then [' '] else []
        else pending
      let line := c.rest.takeWhile (!isBreak ·)
      let (pending, after) := (c.skip line.length).lineBreak
      match blockBreaks (after.rest.length + 1) (some indent) 0 [] after with
      | none => none
      | some (later, _, after) =>
        blockLines fuel folds indent (text ++ joint ++ breaks ++ line) pending later blank after

/-- A block scalar from behind its mark on; `parent` is the column of the
collection that it stands in, if it stands in one. -/
def block (folds : Bool) (parent : Option Nat) (c : Cursor) : Option (String × Cursor) :=
  match blockHeader c with
  | none => none
  | some (chomp, increment, c) =>
    let wanted := increment.map fun n => (parent.map (· + n)).getD n
    match blockBreaks (c.rest.length + 1) wanted 0 [] c with
    | none => none
    | some (breaks, widest, c) =>
      let least := max ((parent.map (· + 1)).getD 0) 1
      let indent := wanted.getD (max widest least)
      match blockLines (c.rest.length + 1) folds indent [] [] breaks false c with
      | none => none
      | some (text, pending, breaks, c) =>
        let ending := match chomp with
          | .strip => []
          | .clip => pending
          | .keep => pending ++ breaks
        some (String.ofList (text ++ ending), c)

end Scaffold.Yaml
