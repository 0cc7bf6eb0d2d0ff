import Scaffold.Text.Cut

/-!
# Paths

A path is kept as it was written. Its components are what is left after
repeated slashes and inner dots are dropped; two paths are the same when their
components are, and a parent path is a prefix of the written text.
-/

namespace Scaffold

open Text

structure Path where
  text : String
  deriving DecidableEq, Repr, Inhabited

namespace Path

inductive Component where
  /-- The slash at the start of an absolute path. -/
  | root
  /-- The dot at the start of a relative path. -/
  | here
  | parent
  | name (text : String)
  deriving DecidableEq, Repr

/-- Whether a component leads down. -/
def Component.isName : Component → Bool
  | .name _ => true
  | _ => false

def isAbsolute (p : Path) : Bool := startsWith "/" p.text

/-- The texts between slashes, empty ones included. -/
def segments (p : Path) : List String := splitOn '/' p.text

def componentOf (segment : String) : Option Component :=
  if segment = "" || segment = "." then none
  else if segment = ".." then some .parent
  else some (.name segment)

def components (p : Path) : List Component :=
  let inner := p.segments.filterMap componentOf
  if p.isAbsolute then .root :: inner
  else if p.segments.head? = some "." then .here :: inner
  else inner

/-- Whether two paths have the same components. -/
def same (p q : Path) : Bool := p.components == q.components

/-- `q` below `p`; an absolute `q` stands alone. -/
def join (p q : Path) : Path :=
  if q.isAbsolute then q
  else if p.text = "" || endsWith "/" p.text then ⟨p.text ++ q.text⟩
  else ⟨p.text ++ "/" ++ q.text⟩

/-! ## The last component -/

/-- Drops slashes and single dots between slashes from the end of a reversed
path text; a dot that starts a relative path stays. -/
def trimTail : List Char → List Char
  | '/' :: cs => if cs.isEmpty then ['/'] else trimTail cs
  | ['.', '/'] => ['/']
  | '.' :: '/' :: cs => trimTail cs
  | cs => cs

/-- The path without its last component, unless it has none or is the root. -/
def parent? (p : Path) : Option Path :=
  let body := trimTail p.text.toList.reverse
  if body = [] || body = ['/'] then none
  else
    match body.dropWhile (· != '/') with
    | [] => some ⟨""⟩
    | rest => some ⟨String.ofList (trimTail rest).reverse⟩

/-- The last component, when it is a name. -/
def fileName? (p : Path) : Option String :=
  match p.components.getLast? with
  | some (.name text) => some text
  | _ => none

/-- What follows the last point of the file name; a name has no extension when
its only point comes first. -/
def extension? (p : Path) : Option String :=
  match p.fileName? with
  | none => none
  | some name =>
    let tail := name.toList.reverse.takeWhile (· != '.')
    if tail.length + 1 < name.length then some (String.ofList tail.reverse) else none

end Path

end Scaffold
