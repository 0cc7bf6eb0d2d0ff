import Scaffold.Template.Tree
import Scaffold.Text.Cut

/-!
# Names that conditions read

A branch or loop takes a name without a value for an empty one. `conditionNames`
lists the names that a template reads in such places, so that they can be asked
for beforehand: the first part of every path in a condition or a loop container,
in the order of the template. Names that the template gives a value itself are
left out, and so are names that some test is about and whatever goes through the
filter `default`.
-/

namespace Scaffold.Template

open Text

/-- The names that a part of a template reads, and those that its tests are about. -/
structure Reads where
  names : List String
  tested : List String
  deriving Inhabited

namespace Reads

def none : Reads := ⟨[], []⟩

def append (a b : Reads) : Reads := ⟨a.names ++ b.names, a.tested ++ b.tested⟩

instance : Append Reads := ⟨append⟩

/-- The names without repetition, each at its first place. -/
def distinct : List String → List String
  | [] => []
  | name :: names => name :: (distinct names).filter (· != name)

/-- The names that are read and not tested. -/
def required (r : Reads) : List String :=
  (distinct r.names).filter fun name => !r.tested.contains name

end Reads

/-- The first name of a path. -/
def rootName (path : String) : String :=
  String.ofList (path.toList.takeWhile fun c => c != '.' && c != '[')

/-- Whether a name stands for a value from outside: not for one of `locals` and
not for one that the language defines. -/
def isOutside (locals : List String) (name : String) : Bool :=
  name != "" && !startsWith "__tera" name && !locals.contains name

mutual

def Expr.reads (locals : List String) : Expr → Reads
  | .mk operand _ filters =>
    if filters.any (·.name == "default") then .none else operand.reads locals

def Operand.reads (locals : List String) : Operand → Reads
  | .name path =>
    let name := rootName path
    if isOutside locals name then ⟨[name], []⟩ else .none
  | .test path _ _ _ => ⟨[], [rootName path]⟩
  | .math _ left right | .logic _ left right | .member _ left right =>
    left.reads locals ++ right.reads locals
  | .list items => readsOfItems locals items
  | .concat parts => readsOfParts locals parts
  | .call (.mk _ args) => readsOfArgs locals args
  | .text _ | .int _ | .float _ | .bool _ | .expand _ _ _ => .none

def readsOfItems (locals : List String) : List Expr → Reads
  | [] => .none
  | item :: items => item.reads locals ++ readsOfItems locals items

def readsOfParts (locals : List String) : List Operand → Reads
  | [] => .none
  | part :: parts => part.reads locals ++ readsOfParts locals parts

def readsOfArgs (locals : List String) : List (String × Expr) → Reads
  | [] => .none
  | (_, value) :: args => value.reads locals ++ readsOfArgs locals args

end

mutual

/-- What a node reads when `locals` have values, and the names that have values
behind it. What a loop body sets is gone after the loop. -/
def Node.reads (locals : List String) : Node → Reads × List String
  | .branch arms otherwise =>
    let (first, locals) := readsOfArms locals arms
    match otherwise with
    | some body =>
      let (last, locals) := readsOfNodes locals body
      (first ++ last, locals)
    | none => (first, locals)
  | .loop key item container body otherwise =>
    let head := container.reads locals
    let inside := key.toList ++ item :: "loop" :: locals
    let (first, _) := readsOfNodes inside body
    match otherwise with
    | some body =>
      let (last, locals) := readsOfNodes locals body
      (head ++ first ++ last, locals)
    | none => (head ++ first, locals)
  | .assign _ name _ => (.none, name :: locals)
  | .block _ body | .filtered _ body => readsOfNodes locals body
  | _ => (.none, locals)

def readsOfNodes (locals : List String) : List Node → Reads × List String
  | [] => (.none, locals)
  | node :: nodes =>
    let (first, locals) := node.reads locals
    let (rest, locals) := readsOfNodes locals nodes
    (first ++ rest, locals)

def readsOfArms (locals : List String) : List (Expr × List Node) → Reads × List String
  | [] => (.none, locals)
  | (condition, body) :: arms =>
    let first := condition.reads locals
    let (inner, locals) := readsOfNodes locals body
    let (rest, locals) := readsOfArms locals arms
    (first ++ inner ++ rest, locals)

end

/-- The names that conditions and loops of a template read from outside. -/
def conditionNames (nodes : List Node) : List String := (readsOfNodes [] nodes).1.required

end Scaffold.Template
