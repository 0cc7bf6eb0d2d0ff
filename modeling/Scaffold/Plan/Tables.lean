import Scaffold.Generation.Generator
import Scaffold.Spec.Basic

/-!
# Files of tables

Every table gives a model, written anew each time; all tables share a file of
variables, written once. The imports of a model are a fragment that depends on
whether models keep a cache.
-/

namespace Scaffold

open Text

namespace Column

def value (c : Column) : Value :=
  .ofFields [("name", .text (camelCase c.name)), ("type_name", .text (trim c.typeName)),
    ("column", .text c.name), ("comment", .text ((c.comment.map trim).getD ""))]

end Column

namespace Table

def node (t : Table) : String := "table " ++ t.name

/-- The name of the type of a row. -/
def typeName (t : Table) : String := camelCase t.name

end Table

namespace ModelSpec

def importKey (s : ModelSpec) : TemplateKey :=
  ⟨.model, if s.cache then "import.tpl" else "import-no-cache.tpl"⟩

/-- The model of a table around the text of its imports. -/
def tableTarget (s : ModelSpec) (gen : Generator) (t : Table) (imports : String) : Target where
  subdir := ""
  filename := gen.fileName (t.name ++ "_model") ".go"
  template := ⟨.model, "model.tpl"⟩
  context := Context.ofList
    [("pkg", .text s.package), ("imports", .text imports), ("table", .text t.name),
      ("upper_table", .text t.typeName), ("lower_table", .text (untitle t.typeName)),
      ("fields", .list (t.columns.map Column.value)), ("with_cache", .bool s.cache)]
  overwrite := .always
  node := t.node

def planTable (s : ModelSpec) (gen : Generator) (t : Table) : Action Target := do
  let imports ←
    gen.renderFragment s.importKey (Context.ofList [("time", .bool t.usesTime)]) t.node
  return s.tableTarget gen t imports

def planTables (s : ModelSpec) (gen : Generator) : List Table → Action (List Target)
  | [] => return []
  | t :: ts => do
    let target ← s.planTable gen t
    return target :: (← s.planTables gen ts)

def variablesTarget (s : ModelSpec) (gen : Generator) : Target where
  subdir := ""
  filename := gen.fileName "vars" ".go"
  template := ⟨.model, "vars.tpl"⟩
  context := Context.ofList [("pkg", .text s.package)]
  overwrite := .ifMissing
  node := "package " ++ s.package

def backend (s : ModelSpec) : Backend where
  name := "model"
  category := .model
  plan gen := do
    if s.tables.isEmpty then throw (.config "no tables to generate models for")
    else
      let targets ← s.planTables gen s.tables
      return targets ++ [s.variablesTarget gen]

end ModelSpec

end Scaffold
