/-!
# JSON documents

A document keeps what a reader may need to tell apart: numbers as they are
written, the fields of an object in order with repetitions, and strings whose
escapes name no character. Such a string is legal as long as nobody reads it,
so it stands as `none`.
-/

namespace Scaffold

inductive Json where
  | null
  | bool (value : Bool)
  | number (written : String)
  | string (text : Option String)
  | array (items : List Json)
  | object (fields : List (Option String × Json))
  deriving Inhabited, Repr

namespace Json

def text (s : String) : Json := .string (some s)

/-- An object with readable keys. -/
def record (fields : List (String × Json)) : Json :=
  .object (fields.map fun (key, value) => (some key, value))

def natural (n : Nat) : Json := .number (toString n)

end Json

end Scaffold
