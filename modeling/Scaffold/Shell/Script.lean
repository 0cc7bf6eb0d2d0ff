import Scaffold.Shell.Program

/-!
# Scripts

A script is made of commands, and commands are made of words. A word is a list
of parts: text, parameters, the output of commands, and arithmetic. What stands
between quotes is kept apart, because it is neither split nor taken as a pattern.
-/

namespace Scaffold.Shell

/-- What is made of the value of a parameter. With a `colon` an empty value
counts as none. -/
inductive ParamUse where
  | plain
  | length
  /-- The word, where there is no value. -/
  | default (colon : Bool)
  /-- The word, which becomes the value, where there is none. -/
  | assign (colon : Bool)
  /-- An error, where there is no value. -/
  | demand (colon : Bool)
  /-- The word, where there is a value. -/
  | instead (colon : Bool)
  /-- The value without the shortest or longest start that the word matches. -/
  | cutStart (longest : Bool)
  | cutEnd (longest : Bool)
  /-- No use that there is. -/
  | bad

/-- Whether the word of the use is a pattern. -/
def ParamUse.takesPattern : ParamUse → Bool
  | .cutStart _ | .cutEnd _ => true
  | _ => false

inductive RedirectKind where
  | input
  | output
  | append
  /-- The stream of another number, or none. -/
  | duplicate
  /-- The text of a document in the script. -/
  | document

mutual

inductive Part where
  | text (cs : Octets) (quoted : Bool)
  | param (name : Octets) (use : ParamUse) (word : List Part) (quoted : Bool)
  | command (body : Command) (quoted : Bool)
  | arithmetic (expression : List Part) (quoted : Bool)

/-- A stream that goes elsewhere while a command runs. -/
inductive Redirect where
  | mk (stream : Nat) (kind : RedirectKind) (word : List Part)

inductive Command where
  | nothing
  /-- Assignments, and the words of a program with its arguments. -/
  | simple (line : Nat) (assignments : List (Octets × List Part)) (words : List (List Part))
  | pipeline (negated : Bool) (commands : List Command)
  | both (a b : Command)
  | either (a b : Command)
  | sequence (a b : Command)
  | background (a : Command)
  | redirected (a : Command) (redirects : List Redirect)
  | subshell (a : Command)
  | branch (condition yes no : Command)
  /-- A loop as long as its condition succeeds, or until it does. -/
  | loop (until_ : Bool) (condition body : Command)
  | each (name : Octets) (words : Option (List (List Part))) (body : Command)
  | select (word : List Part) (arms : List (List (List Part) × Command))
  | define (name : Octets) (body : Command)

end

instance : Inhabited Command := ⟨.nothing⟩

abbrev Word := List Part

end Scaffold.Shell
