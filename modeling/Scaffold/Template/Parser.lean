import Scaffold.Template.Piece
import Scaffold.Text.Blank

/-!
# Reading templates

Pieces become nodes: a tag that opens a body takes the pieces up to the tag
that ends it. Where a piece has a dash, the blanks of the text beside it go;
text that nothing is left of gives no node.
-/

namespace Scaffold.Template

open Text

/-- What a body belongs to. It decides which tags may stand in it. -/
inductive Scope where
  | whole
  /-- A branch outside of every block, loop, section and definition. -/
  | arm
  | block
  | filtered
  | loop
  | definition
  deriving DecidableEq, Repr

namespace Scope

/-- The scope of the branches of a condition. -/
def ofArm : Scope → Scope
  | whole => arm
  | scope => scope

def allowsBlock : Scope → Bool
  | whole | arm | block | filtered => true
  | loop | definition => false

def allowsDefinition : Scope → Bool
  | whole => true
  | _ => false

def allowsLeaving : Scope → Bool
  | loop => true
  | _ => false

end Scope

/-- The tags that end a body. -/
def Tag.closes : Tag → Bool
  | .orBranch _ | .otherwise | .endBranch | .endLoop | .endBlock | .endDefinition
  | .endFiltered => true
  | _ => false

namespace Node

/-- Removes the blanks at the end of a body whose last node is text, when the
tag that ends it asks for that. -/
def trimLast (asked : Bool) (nodes : List Node) : List Node :=
  match asked, nodes.getLast? with
  | true, some (.text s) =>
    let s := trimEnd s
    if s = "" then nodes.dropLast else nodes.dropLast ++ [.text s]
  | _, _ => nodes

/-- A text with its blanks removed on the sides that ask for it. -/
def trimSides (before after : Bool) (s : String) : String :=
  let s := if before then trimStart s else s
  if after then trimEnd s else s

/-- Whether the next piece of the same body asks for the blanks before it to go. -/
def dashAhead : List Piece → Bool
  | ⟨dash, .tag t, _⟩ :: _ => dash && !t.closes
  | ⟨dash, _, _⟩ :: _ => dash
  | [] => false

mutual

/-- The nodes up to the first piece that cannot stand in a body, and the pieces
from there on. Dashes count only when `trims` holds; `dash` says that the piece
before has one behind it. -/
def body : Nat → Scope → (trims dash : Bool) → List Piece → Option (List Node × List Piece)
  | 0, _, _, _, _ => none
  | _ + 1, _, _, _, [] => some ([], [])
  | fuel + 1, scope, trims, dash, piece :: pieces =>
    match piece.content with
    | .text s =>
      let s := trimSides (trims && dash) (trims && dashAhead pieces) s
      match body fuel scope trims false pieces with
      | none => none
      | some (nodes, rest) => some (if s = "" then nodes else .text s :: nodes, rest)
    | .comment => single fuel scope trims .comment piece pieces
    | .verbatim before s after =>
      single fuel scope trims (.verbatim (trimSides (trims && before) (trims && after) s))
        piece pieces
    | .output e => single fuel scope trims (.output e) piece pieces
    | .tag (.assign whole name value) =>
      single fuel scope trims (.assign whole name value) piece pieces
    | .tag (.insert names optional) =>
      single fuel scope trims (.insert names optional) piece pieces
    | .tag .stop =>
      if scope.allowsLeaving then single fuel scope trims .stop piece pieces else none
    | .tag .skip =>
      if scope.allowsLeaving then single fuel scope trims .skip piece pieces else none
    | .tag (.branch condition) =>
      match arms fuel scope.ofArm trims condition piece.dashAfter pieces with
      | none => none
      | some (found, otherwise, dash, rest) =>
        behind fuel scope trims (.branch found otherwise) dash rest
    | .tag (.loop key item container) =>
      match loopBody fuel trims piece.dashAfter pieces with
      | none => none
      | some (nodes, otherwise, dash, rest) =>
        behind fuel scope trims (.loop key item container nodes otherwise) dash rest
    | .tag (.block name) =>
      if scope.allowsBlock then
        match body fuel .block trims piece.dashAfter pieces with
        | some (nodes, ⟨before, .tag .endBlock, dash⟩ :: rest) =>
          let nodes := trimLast (trims && before) nodes
          behind fuel scope trims (.block name nodes) dash rest
        | _ => none
      else none
    | .tag (.definition name params) =>
      if scope.allowsDefinition then
        match body fuel .definition trims piece.dashAfter pieces with
        | some (nodes, ⟨before, .tag .endDefinition, dash⟩ :: rest) =>
          let nodes := trimLast (trims && before) nodes
          behind fuel scope trims (.definition name params nodes) dash rest
        | _ => none
      else none
    | .tag (.filtered filter) =>
      match body fuel .filtered trims piece.dashAfter pieces with
      | some (nodes, ⟨before, .tag .endFiltered, dash⟩ :: rest) =>
        let nodes := trimLast (trims && before) nodes
        behind fuel scope trims (.filtered filter nodes) dash rest
      | _ => none
    | .tag _ => some ([], piece :: pieces)

/-- A node that is one piece, and the nodes behind it. -/
def single : Nat → Scope → Bool → Node → Piece → List Piece → Option (List Node × List Piece)
  | 0, _, _, _, _, _ => none
  | fuel + 1, scope, trims, node, piece, pieces =>
    behind fuel scope trims node piece.dashAfter pieces

/-- A node and the nodes behind it. -/
def behind : Nat → Scope → Bool → Node → Bool → List Piece → Option (List Node × List Piece)
  | 0, _, _, _, _, _ => none
  | fuel + 1, scope, trims, node, dash, pieces =>
    (body fuel scope trims dash pieces).map fun (nodes, rest) => (node :: nodes, rest)

/-- The arms of a branch from the body of the first one on, with the body of
`else`, the dash behind the end tag, and the pieces behind that. -/
def arms : Nat → Scope → Bool → Expr → Bool → List Piece →
    Option (List (Expr × List Node) × Option (List Node) × Bool × List Piece)
  | 0, _, _, _, _, _ => none
  | fuel + 1, scope, trims, condition, dash, pieces =>
    match body fuel scope trims dash pieces with
    | some (nodes, ⟨before, .tag closing, dash⟩ :: rest) =>
      let arm := (condition, trimLast (trims && before) nodes)
      match closing with
      | .orBranch next =>
        (arms fuel scope trims next dash rest).map fun (more, found) => (arm :: more, found)
      | .otherwise =>
        match body fuel scope trims dash rest with
        | some (last, ⟨before, .tag .endBranch, dash⟩ :: rest) =>
          some ([arm], some (trimLast (trims && before) last), dash, rest)
        | _ => none
      | .endBranch => some ([arm], none, dash, rest)
      | _ => none
    | _ => none

/-- The body of a loop and that of its last `else`. The dashes of `else` do not
count, and neither does any dash inside its body; a dash before the end tag
trims the body of the loop. -/
def loopBody : Nat → Bool → Bool → List Piece →
    Option (List Node × Option (List Node) × Bool × List Piece)
  | 0, _, _, _ => none
  | fuel + 1, trims, dash, pieces =>
    match body fuel .loop trims dash pieces with
    | some (nodes, ⟨before, .tag .endLoop, dash⟩ :: rest) =>
      some (trimLast (trims && before) nodes, none, dash, rest)
    | some (nodes, ⟨_, .tag .otherwise, _⟩ :: rest) =>
      match elseBodies fuel rest with
      | some (last, before, dash, rest) =>
        some (trimLast (trims && before) nodes, some last, dash, rest)
      | none => none
    | _ => none

/-- The last one of the bodies behind the marks `else` of a loop, with the
dashes of the end tag. -/
def elseBodies : Nat → List Piece → Option (List Node × Bool × Bool × List Piece)
  | 0, _ => none
  | fuel + 1, pieces =>
    match body fuel .loop false false pieces with
    | some (nodes, ⟨before, .tag .endLoop, dash⟩ :: rest) => some (nodes, before, dash, rest)
    | some (_, ⟨_, .tag .otherwise, _⟩ :: rest) => elseBodies fuel rest
    | _ => none

end

mutual

/-- The blocks that no branch, loop or section hides, with their bodies. -/
def blocks : Node → List (String × List Node)
  | .block name body => (name, body) :: blocksOf body
  | _ => []

def blocksOf : List Node → List (String × List Node)
  | [] => []
  | node :: nodes => blocks node ++ blocksOf nodes

end

end Node

/-- A named body that calls expand. -/
structure Definition where
  name : String
  params : List (String × Option Operand)
  body : List Node

/-- A template that was read, with the bodies that names stand for. `imports`
are the templates whose definitions it asks for. -/
structure Tree where
  nodes : List Node
  blocks : List (String × List Node)
  definitions : List Definition
  imports : List String

/-- Why a text is no template. -/
inductive SyntaxFault where
  | unreadable
  | unexpectedTag
  | blockTwice (name : String)
  | definitionTwice (name : String)
  | noImport (name : String)
  deriving DecidableEq, Repr

def SyntaxFault.message : SyntaxFault → String
  | unreadable => "a tag or an expression cannot be read"
  | unexpectedTag => "a tag stands where it cannot stand or lacks its end"
  | blockTwice name => "Block " ++ name ++ " is duplicated"
  | definitionTwice name => "Macro " ++ name ++ " is duplicated"
  | noImport name => "macros are loaded from " ++ name ++ ", which is not present"

/-- The first name that occurs a second time. -/
def repeated? : List String → Option String
  | [] => none
  | name :: names =>
    match repeated? names with
    | some later => if names.contains name then some name else some later
    | none => if names.contains name then some name else none

def definitionsOf (nodes : List Node) : List Definition :=
  nodes.filterMap fun
    | .definition name params body => some ⟨name, params, body⟩
    | _ => none

/-- Reads a template. Only the template itself can be asked for definitions. -/
def Tree.parse (name s : String) : Except SyntaxFault Tree :=
  match Piece.all? s with
  | none => .error .unreadable
  | some (imports, pieces) =>
    match Node.body (4 * pieces.length + 4) .whole true false pieces with
    | some (nodes, []) =>
      let blocks := Node.blocksOf nodes
      let definitions := definitionsOf nodes
      match repeated? (blocks.map (·.1)), repeated? (definitions.map (·.name)),
          imports.find? (· != name) with
      | some name, _, _ => .error (.blockTwice name)
      | none, some name, _ => .error (.definitionTwice name)
      | none, none, some name => .error (.noImport name)
      | none, none, none => .ok ⟨nodes, blocks, definitions, imports⟩
    | _ => .error .unexpectedTag

end Scaffold.Template
