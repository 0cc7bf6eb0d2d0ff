import Scaffold.Shell.Glob

/-!
# Fields

What a word expands to is split into fields where the value of a parameter or the
output of a command has separators. Quoted octets never separate.
-/

namespace Scaffold.Shell

inductive Glyph where
  /-- An octet; one that `splits` can separate fields. -/
  | char (c : Char) (quoted splits : Bool)
  /-- Quotes, which make a field though it may be empty. -/
  | quotes
  /-- The end of a field. -/
  | cut
  deriving DecidableEq

/-- The glyphs of an expanded value. -/
def glyphsOf (quoted : Bool) (cs : Octets) : List Glyph := cs.map fun c => .char c quoted (!quoted)

/-- The text of a word that is not split. -/
def glyphText (glyphs : List Glyph) : Octets :=
  glyphs.filterMap fun
    | .char c _ _ => some c
    | .quotes => none
    | .cut => some ' '

/-- A word as a pattern. -/
def glyphPattern (glyphs : List Glyph) : List GlobItem :=
  Glob.read (glyphs.filterMap fun
    | .char c quoted _ => some (c, quoted)
    | _ => none)

def isBlankSeparator (separators : Octets) (c : Char) : Bool :=
  separators.contains c && (c = ' ' || c = '\t' || c = '\n')

/-- The fields of a word. `field` is the one being read, if any; `blanks` tells
that blank separators ended the field before. -/
def fieldsFrom (separators : Octets) (field : Option Octets) (blanks : Bool) :
    List Glyph → List Octets
  | [] => field.toList
  | .quotes :: more => fieldsFrom separators (some (field.getD [])) false more
  | .cut :: more => field.toList ++ fieldsFrom separators none false more
  | .char c _ splits :: more =>
    if splits && isBlankSeparator separators c then
      match field with
      | some text => text :: fieldsFrom separators none true more
      | none => fieldsFrom separators none blanks more
    else if splits && separators.contains c then
      match field, blanks with
      | some text, _ => text :: fieldsFrom separators none false more
      | none, true => fieldsFrom separators none false more
      | none, false => [] :: fieldsFrom separators none false more
    else fieldsFrom separators (some (field.getD [] ++ [c])) false more

def fields (separators : Octets) (glyphs : List Glyph) : List Octets :=
  fieldsFrom separators none false glyphs

/-- The values that a line gives to some names: a field each, and the rest of the
line to the last. Escaped octets, marked so, do not separate. -/
def shared (separators : Octets) : (names : Nat) → GlobText → List Octets
  | 0, _ => []
  | names + 1, line =>
    let isBlank (c : Char × Bool) : Bool := !c.2 && isBlankSeparator separators c.1
    let separates (c : Char × Bool) : Bool := !c.2 && separators.contains c.1
    let line := line.dropWhile isBlank
    if names = 0 then
      let trimmed := (line.reverse.dropWhile isBlank).reverse
      -- A single field may end with a separator of its own.
      let kept := match trimmed.getLast? with
        | some last =>
          if separates last && !(trimmed.dropLast.any separates) then trimmed.dropLast else trimmed
        | none => trimmed
      [kept.map (·.1)]
    else
      let field := line.takeWhile (!separates ·)
      let rest := (line.drop field.length).dropWhile isBlank
      let rest := match rest with
        | c :: more => if separates c then more else rest
        | [] => []
      field.map (·.1) :: shared separators names rest

end Scaffold.Shell
