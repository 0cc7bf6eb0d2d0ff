import Scaffold.Context
import Scaffold.Error
import Scaffold.Template.Conditions
import Scaffold.Template.Rendering

/-!
# Compiled templates

A compiled template is ready to be executed for any context. A context must give
values to the names that the template is declared to require and to those that
its conditions read; the first one that it lacks is reported before anything is
rendered.
-/

namespace Scaffold

/-- A template that was read, with its name and the names that it requires. -/
structure CompiledTemplate where
  name : String
  tree : Template.Tree
  required : List String

namespace CompiledTemplate

/-- The names that the conditions and loops of the template read. -/
def conditions (t : CompiledTemplate) : List String := Template.conditionNames t.tree.nodes

/-- Reads a template that requires no names. -/
def compile (name text : String) : Except Error CompiledTemplate :=
  match Template.Tree.parse name text with
  | .ok tree => .ok ⟨name, tree, []⟩
  | .error fault => .error (.templateSyntax name fault.message)

/-- The template with other required names. -/
def requiring (t : CompiledTemplate) (names : List String) : CompiledTemplate :=
  ⟨t.name, t.tree, names⟩

/-- The first name that the context has to give a value to and does not. -/
def firstMissing? (t : CompiledTemplate) (context : Context) : Option String :=
  (t.required ++ t.conditions).find? fun key => !context.contains key

/-- Where a rendering failed that stopped at some frames, if it was in the body of a
definition. -/
def placeOf : List Template.Frame → String
  | ⟨.definition space name, _⟩ :: _ =>
    ": error while rendering macro \x60" ++ space ++ "::" ++ name ++ "\x60"
  | _ => ""

/-- The error of a failure of rendering: a name without a value is told apart by
the words of the explanation. -/
def errorOf (name : String) (frames : List Template.Frame) (fault : Template.Fault) : Error :=
  let detail := "Failed to render '" ++ name ++ "'" ++ placeOf frames ++ ": " ++ fault.message
  match Template.undefinedNameIn detail.toList with
  | some key => .missingContextKey name (String.ofList key)
  | none => .render name detail

/-- How executing the template for a context ends, if it does. -/
def outcome? (t : CompiledTemplate) (context : Context) (engine : Template.Engine)
    (world : Template.World) : Option (Except Error String) :=
  match t.firstMissing? context with
  | some key => some (.error (.missingContextKey t.name key))
  | none =>
    (t.tree.render t.name context.values engine world).map fun
      | (.ok text, _) => .ok text
      | (.error fault, after) => .error (errorOf t.name after.frames fault)

/-- The text of the template for a context. Where rendering has no end the program is
stopped from outside, which counts as an error here. -/
def execute (t : CompiledTemplate) (context : Context) (engine : Template.Engine := .standard)
    (world : Template.World := .silent) : Except Error String :=
  (t.outcome? context engine world).getD (.error (.render t.name "the stack is exhausted"))

end CompiledTemplate

end Scaffold
