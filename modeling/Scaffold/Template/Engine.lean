import Scaffold.Template.Parser
import Scaffold.Template.Test

/-!
# Engines and their surroundings

An engine renders templates in surroundings. It brings filters that are computed
elsewhere, it gives the parameters of a definition their values in some order, and
its stack is only so deep. The surroundings answer what a template cannot know by
itself: the time, random numbers and the variables of the environment. Nothing
obliges them to answer a question twice in the same way.
-/

namespace Scaffold.Template

/-! ## Surroundings -/

/-- What a call gives, by the names of its arguments. -/
abbrev Given := String → Option Value

/-- The call of a function that only the surroundings can answer. -/
structure Question where
  function : String
  given : Given

/-- The functions that ask the surroundings: for the time, for a random number and
for a variable of the environment. -/
def Function.asking : List String := ["now", "get_random", "get_env"]

/-- The answers of the surroundings. The one with the number `n` is for the question
that is asked after `n` others. -/
def World := Nat → Question → Except Fault Value

namespace World

/-- What the next question is answered. -/
def answer (w : World) (q : Question) : Except Fault Value := w 0 q

/-- The answers behind the next one. -/
def rest (w : World) : World := fun n => w (n + 1)

/-- Surroundings that answer nothing. -/
def silent : World := fun _ q => .error (.other ("nothing answers '" ++ q.function ++ "'"))

end World

/-! ## Engines -/

/-- What renders templates, as far as it is not fixed by their language. -/
structure Engine where
  /-- The filters that other libraries compute: those that format dates and sizes,
  make slugs and encode addresses. -/
  further : String → Option (Value → Given → Except Fault Value)
  /-- The parameters of a definition in the order in which they get their values. -/
  arrange : List (String × Option Operand) → List (String × Option Operand)
  arrange_perm : ∀ params, (arrange params).Perm params
  /-- How deep bodies that are reached by name can nest. -/
  depth : Nat

namespace Engine

/-- The filter of a name. -/
def filter? (engine : Engine) (name : String) : Option Filter :=
  match Template.filter? name with
  | some f => some f
  | none => (engine.further name).map fun f v args => f v (args.lookup ·)

/-- An engine without further filters that takes parameters as they are written. -/
def standard : Engine where
  further _ := none
  arrange params := params
  arrange_perm _ := .refl _
  depth := 1000

end Engine

end Scaffold.Template
