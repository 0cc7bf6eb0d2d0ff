import Scaffold.Value

/-!
# Parts of values

A dotted path leads from a value into its fields and items. Points separate the
steps of a path, and so do quotes, between which points do not count. Empty
steps are left out, so a path without any step leads to the value itself.
-/

namespace Scaffold.Value

open Text

/-- Which quotes are open and whether a backslash stands before the next
character. Each of the two kinds of quotes is opened and closed on its own. -/
structure Quotes where
  single : Bool
  double : Bool
  escaped : Bool

namespace Quotes

def none : Quotes := ⟨false, false, false⟩

def anyOpen (q : Quotes) : Bool := q.single || q.double

end Quotes

/-- The step that was read so far, in reverse, unless it is empty. -/
def ended (step : List Char) (later : List (List Char)) : List (List Char) :=
  if step.isEmpty then later else step.reverse :: later

/-- The steps of a path; `step` is the part of the first one that was read, in
reverse. A backslash stays in its step and keeps a quote behind it there. -/
def stepsFrom (q : Quotes) (step : List Char) : List Char → List (List Char)
  | [] => ended step []
  | '"' :: cs =>
    if q.escaped then stepsFrom ⟨q.single, q.double, false⟩ ('"' :: step) cs
    else ended step (stepsFrom ⟨q.single, !q.double, false⟩ [] cs)
  | '\'' :: cs =>
    if q.escaped then stepsFrom ⟨q.single, q.double, false⟩ ('\'' :: step) cs
    else ended step (stepsFrom ⟨!q.single, q.double, false⟩ [] cs)
  | '\\' :: cs => stepsFrom ⟨q.single, q.double, true⟩ ('\\' :: step) cs
  | '.' :: cs =>
    if q.anyOpen then stepsFrom ⟨q.single, q.double, false⟩ ('.' :: step) cs
    else ended step (stepsFrom q [] cs)
  | c :: cs => stepsFrom ⟨q.single, q.double, false⟩ (c :: step) cs

def steps (path : String) : List (List Char) := stepsFrom .none [] path.toList

/-- The key or index that a step writes: `~1` stands for a slash and `~0` for a
tilde. -/
def stepKey (step : List Char) : String :=
  replace "~0" "~" (replace "~1" "/" (String.ofList step))

/-- The part of a value at a dotted path. -/
def at? (v : Value) (path : String) : Option Value :=
  (steps path).foldlM (fun part step => part.child? (stepKey step)) v

end Scaffold.Value
