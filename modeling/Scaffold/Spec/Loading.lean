import Scaffold.Disk.Action
import Scaffold.Json.Reader
import Scaffold.Spec.Decoding

/-!
# Loading specifications

The extension of a file says which format its document is written in; a document
with any other extension is read as JSON if it can be, and else as YAML.
-/

namespace Scaffold

namespace Spec

variable {α : Type} [Decodable α]

def ofJsonText? (text : String) : Option α := (Json.parse? text).bind Decodable.decode

def ofYamlText? (text : String) : Option α :=
  (Yaml.Document.parse? text).bind fun d => Decodable.decode d.node

/-- The specification that a document of an extension holds. -/
def ofText? (extension : Option String) (text : String) : Option α :=
  match extension with
  | some "json" => ofJsonText? text
  | some "yaml" | some "yml" => ofYamlText? text
  | _ =>
    match ofJsonText? text with
    | some spec => some spec
    | none => ofYamlText? text

def mismatch (path : String) : Error :=
  .specLoad path "the document does not fit the specification"

/-- Reads the specification in a file. -/
def load (path : Path) : Action α := do
  let text ← Action.readText path
  match ofText? path.extension? text with
  | some spec => return spec
  | none => throw (mismatch path.text)

/-- The specification that a JSON value holds; `inline` names the value. -/
def ofJson (value : Json) : Except Error α :=
  match Decodable.decode value with
  | some spec => .ok spec
  | none => .error (mismatch "inline")

end Spec

end Scaffold
