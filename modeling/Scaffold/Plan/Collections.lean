import Scaffold.Generation.Generator
import Scaffold.Spec.Basic

/-!
# Files of collections

Every type of document gives a model, written anew each time; all types share a
file of errors, written once. Blank names of types do not count.
-/

namespace Scaffold

open Text

namespace MongoSpec

/-- The names of the types. -/
def typeNames (s : MongoSpec) : List String := ((s.types.map trim).filter (· != "")).map title

def typeTarget (s : MongoSpec) (gen : Generator) (typeName : String) : Target where
  subdir := ""
  filename := gen.fileName (typeName ++ "_model") ".go"
  template := ⟨.mongo, "model.tpl"⟩
  context := Context.ofList
    [("type_name", .text typeName), ("lower_type", .text (untitle typeName)),
      ("cache", .bool s.cache)]
  overwrite := .always
  node := "type " ++ typeName

def errorsTarget (gen : Generator) : Target where
  subdir := ""
  filename := gen.fileName "error" ".go"
  template := ⟨.mongo, "error.tpl"⟩
  context := Context.empty
  overwrite := .ifMissing
  node := "errors"

def targets (s : MongoSpec) (gen : Generator) : Except Error (List Target) :=
  if s.typeNames.isEmpty then .error (.config "missing type")
  else .ok (s.typeNames.map (s.typeTarget gen) ++ [errorsTarget gen])

def backend (s : MongoSpec) : Backend where
  name := "mongo"
  category := .mongo
  plan gen := Action.ofExcept (s.targets gen)

end MongoSpec

end Scaffold
