import Scaffold.Template.Evaluation
import Scaffold.Text.Cluster

/-!
# Rendering

Rendering a body gives its text and changes the frames. The bodies of blocks
and definitions and the template itself as an insertion are reached by name, and
the stack of the engine says how deep such bodies can nest. A template that needs
a deeper one, as one does that expands into itself without end, has no rendering.
-/

namespace Scaffold.Template

/-! ## Loops -/

/-- What a loop runs over: the items of a list, the letters of a text, or the
fields of an object, which alone have keys. -/
def loopItems (place : String) (keyed : Bool) (container : Value) :
    Except Fault (List (Option String × Value)) :=
  match container, keyed with
  | .list items, false => .ok (items.map (none, ·))
  | .text s, false => .ok ((Text.clusters s).map fun letter => (none, .text letter))
  | .object fields, true => .ok (fields.map fun (key, v) => (some key, v))
  | .list _, true | .text _, true =>
    .error (.other ("Tried to iterate using key value on variable \x60" ++ place ++
      "\x60, but it isn't an object/map"))
  | .object _, false =>
    .error (.other ("Tried to iterate using key value on variable \x60" ++ place ++
      "\x60, but it is missing a key"))
  | _, _ =>
    .error (.other ("Tried to iterate on a container (\x60" ++ place ++
      "\x60) that has a unsupported type"))

/-- How a failure names the container of a loop. Not every operand can be one. -/
def containerName (container : Expr) : Except Fault String :=
  match container.operand with
  | .name path => .ok path
  | .call call => .ok call.name
  | .list _ => .ok "an array literal"
  | operand =>
    .error (.other ("Forloop containers have to be an ident or a function call " ++
      "(tried to iterate on '" ++ operand.detail ++ "')"))

/-- Renders the body of a loop once for each of a number of rounds. -/
def renderRounds (body : Eval String) : Nat → Eval String
  | 0 => pure ""
  | rounds + 1 => do
    let text ← body
    if flowOf (← Eval.frames) == .stop then return text
    Eval.change (.other "Attempted \x60increment\x60 while not in a for loop") advance?
    return text ++ (← renderRounds body rounds)

/-! ## Nodes -/

/-- Applies the filter of a section to its text. -/
def applySection (stage : Stage) (filter : Call) (text : String) : Eval String :=
  if filter.name = "safe" then pure text
  else do return (← filter.apply stage (.text text)).print

mutual

def Node.render (stage : Stage) : Node → Eval String
  | .text s => pure s
  | .verbatim s => pure s
  | .comment => pure ""
  | .definition _ _ _ => pure ""
  | .output e => do return (← e.value stage).print
  | .assign whole name e => do
    let v ← e.value stage
    Eval.update (assign whole name v)
    return ""
  | .branch arms otherwise => do
    match ← renderArms stage arms with
    | some text => return text
    | none =>
      match otherwise with
      | some body => renderNodes stage body
      | none => return ""
  | .loop key item container body otherwise => do
    let place ← Eval.ofExcept (containerName container)
    let items ← Eval.ofExcept (loopItems place key.isSome (← container.value stage))
    if items.isEmpty then
      match otherwise with
      | some body => renderNodes stage body
      | none => return ""
    else
      Eval.push ⟨.loop ⟨key, item, items, 0, .onward⟩, []⟩
      let text ← renderRounds (renderNodes stage body) items.length
      Eval.pop
      return text
  | .block name body =>
    match stage.tree.blocks.lookup name with
    | some body => stage.render body
    | none => renderNodes stage body
  | .filtered filter body => do
    let text ← renderNodes stage body
    applySection stage filter text
  | .stop => do
    Eval.change (.other "Attempted \x60break\x60 while not in a for loop") (redirect? .stop)
    return ""
  | .skip => do
    Eval.change (.other "Attempted \x60continue\x60 while not in a for loop") (redirect? .skip)
    return ""
  | .insert names optional =>
    if names.contains stage.template then do
      Eval.push ⟨.insertion, []⟩
      let text ← stage.render stage.tree.nodes
      Eval.pop
      return text
    else if optional then pure ""
    else throw (.noTemplate names)

/-- Renders nodes one after the other up to one that leaves the loop or its round. -/
def renderNodes (stage : Stage) : List Node → Eval String
  | [] => pure ""
  | node :: nodes => do
    let text ← node.render stage
    if flowOf (← Eval.frames) == .onward then return text ++ (← renderNodes stage nodes)
    else return text

/-- Renders the body of the first arm whose condition holds. -/
def renderArms (stage : Stage) : List (Expr × List Node) → Eval (Option String)
  | [] => pure none
  | (condition, body) :: arms => do
    if ← condition.truth stage then return some (← renderNodes stage body)
    else renderArms stage arms

end

/-! ## Templates -/

/-- The stage on which bodies reached by name nest at most `depth` deep. -/
def stageAt (engine : Engine) (template : String) (tree : Tree) (context : SortedMap Value) :
    Nat → Stage
  | 0 => ⟨engine, template, tree, context, fun _ => Eval.endless⟩
  | depth + 1 =>
    ⟨engine, template, tree, context, fun nodes =>
      renderNodes (stageAt engine template tree context depth) nodes⟩

/-- How the rendering of a template for a context ends, if it does. A template that
imports itself has no end of definitions to gather. -/
def Tree.render (tree : Tree) (template : String) (context : SortedMap Value) (engine : Engine)
    (world : World) : Option (Except Fault String × Situation) :=
  if tree.imports.isEmpty then
    renderNodes (stageAt engine template tree context engine.depth) tree.nodes
      ⟨[⟨.whole, []⟩], world⟩
  else none

end Scaffold.Template
