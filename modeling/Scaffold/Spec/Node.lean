import Scaffold.Json.Basic
import Scaffold.Text.Cut
import Scaffold.Yaml.Node

/-!
# Nodes of specification documents

A specification is read from a tree of nodes in the same way whatever format
the tree was written in. The formats differ in what they take for a text, a
number, nothing, or a record.
-/

namespace Scaffold

open Text

/-- What a node of a document can be read as. -/
class DocumentNode (δ : Type) where
  text? : δ → Option String
  bool? : δ → Option Bool
  /-- A whole number that is not negative. -/
  natural? : δ → Option Nat
  /-- Whether the node says that there is nothing; no answer when its parts contradict each other. -/
  nothing? : δ → Option Bool
  items? : δ → Option (List δ)
  /-- The entries of a map, in the order of the document. -/
  entries? : δ → Option (List (String × δ))
  /-- The fields of a record with the given names, each with its node if it has one. -/
  fields? : List String → δ → Option (List (Option δ))

/-- The node of a field, which must not occur twice. -/
def fieldAt {δ : Type} (entries : List (String × δ)) (name : String) : Option (Option δ) :=
  match entries.filter (·.1 == name) with
  | [] => some none
  | [(_, d)] => some (some d)
  | _ => none

/-! ## JSON -/

/-- The entries of an object whose keys can all be read. -/
def readableEntries : List (Option String × Json) → Option (List (String × Json)) :=
  List.mapM fun (key, value) => key.map fun k => (k, value)

/-- In JSON a record can be written as a list of its fields in order, those at
the end left out. -/
instance : DocumentNode Json where
  text?
    | .string content => content
    | _ => none
  bool?
    | .bool b => some b
    | _ => none
  natural?
    | .number written =>
      if written.toList.all isAsciiDigit then some (digitsValue written.toList) else none
    | _ => none
  nothing?
    | .null => some true
    | _ => some false
  items?
    | .array items => some items
    | _ => none
  entries?
    | .object entries => readableEntries entries
    | _ => none
  fields? names
    | .object entries =>
      (readableEntries entries).bind fun entries => names.mapM (fieldAt entries)
    | .array items =>
      if items.length ≤ names.length then
        some (items.map some ++ List.replicate (names.length - items.length) none)
      else none
    | _ => none

/-! ## YAML -/

/-- A node with the table of anchors of its document. -/
structure YamlNode where
  anchors : List (Nat × Yaml.Node)
  node : Yaml.Node

namespace YamlNode

/-- The node that an alias names, or the node itself. -/
def target (y : YamlNode) : Yaml.Node :=
  match y.node with
  | .alias k => (y.anchors.lookup k).getD .absent
  | node => node

/-- The text of a scalar, whatever its form. -/
def scalar? (y : YamlNode) : Option String :=
  match y.target with
  | .scalar text _ _ => some text
  | _ => none

def typeTag (name : String) : String := "tag:yaml.org,2002:" ++ name

/-- The text of a plain scalar, or of a literal block with the tag of a type. -/
def unquoted? (type : String) (y : YamlNode) : Option String :=
  match y.target with
  | .scalar text .plain _ => some text
  | .scalar text .literal tag => if tag = some (typeTag type) then some text else none
  | _ => none

def isNullText (s : String) : Bool := s = "~" || s = "null" || s = "Null" || s = "NULL"

/-- Whether a plain scalar without text stands here. -/
def isAbsent (y : YamlNode) : Bool :=
  match y.target with
  | .scalar "" .plain _ => true
  | _ => false

def boolOf (s : String) : Option Bool :=
  if s = "true" || s = "True" || s = "TRUE" then some true
  else if s = "false" || s = "False" || s = "FALSE" then some false
  else none

/-- The digits of a number in a base. -/
def digitsIn (base : Nat) (cs : List Char) : Option Nat :=
  if cs.isEmpty then none
  else
    cs.foldlM (fun n c => ((hexDigit? c).filter (· < base)).map (base * n + ·)) 0

/-- A whole number: decimal without zeros at its start, or with a prefix that
names the base. -/
def naturalOf (s : String) : Option Nat :=
  let cs := (stripPrefixChars ['+'] s.toList).getD s.toList
  let based : Option Nat :=
    match cs with
    | '0' :: 'x' :: rest => digitsIn 16 rest
    | '0' :: 'o' :: rest => digitsIn 8 rest
    | '0' :: 'b' :: rest => digitsIn 2 rest
    | _ => none
  match based with
  | some n => some n
  | none =>
    match cs with
    | '0' :: _ :: _ => none
    | cs => digitsIn 10 cs

/-- The entries of a mapping with their keys as texts. -/
def entriesOf (y : YamlNode) : Option (List (String × YamlNode)) :=
  match y.target with
  | .mapping pairs => pairs.mapM fun (key, value) =>
      (scalar? ⟨y.anchors, key⟩).map fun k => (k, ⟨y.anchors, value⟩)
  | _ => if y.isAbsent then some [] else none

end YamlNode

instance : DocumentNode YamlNode where
  text? := YamlNode.scalar?
  bool? y := (YamlNode.unquoted? "bool" y).bind YamlNode.boolOf
  natural? y := (YamlNode.unquoted? "int" y).bind YamlNode.naturalOf
  nothing? y :=
    match y.target with
    | .scalar text .plain none => some (text == "" || YamlNode.isNullText text)
    | .scalar text .plain (some tag) =>
      if tag != YamlNode.typeTag "null" then some false
      else if YamlNode.isNullText text then some true
      else none
    | _ => some false
  items? y :=
    match y.target with
    | .sequence items => some (items.map fun item => ⟨y.anchors, item⟩)
    | _ => if y.isAbsent then some [] else none
  entries? := YamlNode.entriesOf
  fields? names y := y.entriesOf.bind fun entries => names.mapM (fieldAt entries)

/-- The node of a document; an empty document has a node without text. -/
def Yaml.Document.node (d : Yaml.Document) : YamlNode := ⟨d.anchors, d.root.getD .absent⟩

end Scaffold
