import Scaffold.SortedMap
import Scaffold.Text.Blank
import Scaffold.Text.Cut

/-!
# Annotations

Nodes of a specification carry annotations: names with texts. A question about a
node goes to a chain of them, the most specific first, and the first answer that
says anything counts.
-/

namespace Scaffold

open Text

abbrev Annotations := SortedMap String

namespace Annotations

/-- Takes one double quote off each end, where there is one. -/
def unquoteChars (cs : List Char) : List Char :=
  let cs := (stripPrefixChars ['"'] cs).getD cs
  match stripPrefixChars ['"'] cs.reverse with
  | some rest => rest.reverse
  | none => cs

/-- The text without blanks around it and then without quotes around it. -/
def unquote (s : String) : String := String.ofList (unquoteChars (trim s).toList)

/-- The first text of a name that is not empty once it is unquoted. -/
def lookup (key : String) (chain : List Annotations) : Option String :=
  ((chain.filterMap fun a => a.get? key).map unquote).find? (· != "")

/-- The name whose annotation moves a node into a folder of its own. -/
def groupKey : String := "group"

/-- The folder of a node: one below `default` when the chain names it. -/
def folder (default : String) (chain : List Annotations) : String :=
  match (lookup groupKey chain).map (trimWhere (· == '/')) with
  | some name => if name = "" then default else default ++ "/" ++ name
  | none => default

end Annotations

end Scaffold
