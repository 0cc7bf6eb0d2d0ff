/-!
# Places in a document

A cursor is a place in a YAML document: the characters from there on, with the
number of characters, lines and columns before it.
-/

namespace Scaffold.Yaml

structure Cursor where
  rest : List Char
  index : Nat
  line : Nat
  column : Nat
  deriving Inhabited

def isBreak (c : Char) : Bool :=
  c = '\n' || c = '\r' || c = '\x85' || c = '\u2028' || c = '\u2029'

def isBlank (c : Char) : Bool := c = ' ' || c = '\t'

namespace Cursor

def start (cs : List Char) : Cursor := ⟨cs, 0, 0, 0⟩

/-- The character at a distance. -/
def ahead (c : Cursor) (n : Nat) : Option Char := c.rest[n]?

def next (c : Cursor) : Option Char := c.rest.head?

def startsWith (c : Cursor) (s : String) : Bool := s.toList.isPrefixOf c.rest

/-- Whether a blank, a line break or the end stands at a distance. -/
def isGap (c : Cursor) (n : Nat) : Bool :=
  match c.ahead n with
  | none => true
  | some ch => isBlank ch || isBreak ch

/-- Moves over characters of one line. -/
def skip (c : Cursor) (n : Nat) : Cursor :=
  ⟨c.rest.drop n, c.index + n, c.line, c.column + n⟩

/-- Moves over a line break and gives it as text: all but two separators of the
standard become line feeds. -/
def lineBreak (c : Cursor) : List Char × Cursor :=
  match c.rest with
  | '\r' :: '\n' :: rest => (['\n'], ⟨rest, c.index + 2, c.line + 1, 0⟩)
  | ch :: rest =>
    if isBreak ch then
      (if ch = '\u2028' || ch = '\u2029' then [ch] else ['\n'],
        ⟨rest, c.index + 1, c.line + 1, 0⟩)
    else ([], c)
  | [] => ([], c)

/-- Moves over the characters of a line for which `p` holds. -/
def skipWhile (p : Char → Bool) (c : Cursor) : Cursor :=
  c.skip (c.rest.takeWhile fun ch => p ch && !isBreak ch).length

/-- Whether a line starts here that separates documents. -/
def atDocumentMark (c : Cursor) : Bool :=
  c.column == 0 && (c.startsWith "---" || c.startsWith "...") && c.isGap 3

end Cursor

end Scaffold.Yaml
