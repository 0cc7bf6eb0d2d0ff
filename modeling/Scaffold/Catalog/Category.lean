import Scaffold.Text.Blank
import Scaffold.Text.LetterCase

/-!
# Template categories and keys

A category is a generation domain with its own templates; a key names one
template within a category. Each category lists its builtin templates and, for
each, the variables that it cannot render without.
-/

namespace Scaffold

inductive Category where
  | api
  | rpc
  | model
  | docker
  | kube
  | mongo
  deriving DecidableEq, Repr, Inhabited

namespace Category

/-- Every category, in the order in which lists of templates name them. -/
def all : List Category := [.api, .rpc, .model, .docker, .kube, .mongo]

theorem mem_all (c : Category) : c ∈ all := by
  cases c <;> decide

def name : Category → String
  | .api => "api"
  | .rpc => "rpc"
  | .model => "model"
  | .docker => "docker"
  | .kube => "kube"
  | .mongo => "mongo"

/-- The category that a text names, blanks around it and letter case aside. -/
def parse? (text : String) : Option Category :=
  all.find? fun c => c.name == Text.toLower (Text.trim text)

end Category

/-- A builtin template and the variables that it requires, in the order in
which they are checked. -/
structure BuiltinTemplate where
  name : String
  required : List String
  deriving DecidableEq, Repr

def Category.builtins : Category → List BuiltinTemplate
  | .api => [
      ⟨"handler.tpl",
        ["pkg_name", "imports", "handler_name", "summary", "tag", "method", "path",
          "has_security", "has_request", "request_type", "logic_pkg", "logic_type",
          "has_response", "call", "after_1_1_10"]⟩,
      ⟨"logic.tpl",
        ["pkg_name", "imports", "logic", "function", "summary", "request",
          "response_type", "return_string"]⟩]
  | .rpc => [
      ⟨"logic.tpl", ["imports", "logic_name", "functions"]⟩,
      ⟨"logic-func.tpl",
        ["has_comment", "comment", "logic_name", "method", "has_req", "request",
          "stream", "stream_body", "has_reply", "response", "response_type"]⟩,
      ⟨"etc.tpl", ["service_name"]⟩]
  | .model => [
      ⟨"model.tpl",
        ["pkg", "imports", "table", "upper_table", "lower_table", "fields", "with_cache"]⟩,
      ⟨"import.tpl", ["time"]⟩,
      ⟨"import-no-cache.tpl", ["time"]⟩,
      ⟨"vars.tpl", ["pkg"]⟩]
  | .docker => [⟨"docker.tpl", ["go_version", "exe_file", "go_main", "has_port", "port"]⟩]
  | .kube => [⟨"deployment.tpl", ["name", "namespace", "replicas", "image", "port"]⟩]
  | .mongo => [
      ⟨"model.tpl", ["type_name", "lower_type", "cache"]⟩,
      ⟨"error.tpl", []⟩]

/-- Names one template. -/
structure TemplateKey where
  category : Category
  name : String
  deriving DecidableEq, Repr, Inhabited

namespace TemplateKey

/-- The key as it is shown, which is also its path below a directory of templates. -/
def text (key : TemplateKey) : String := key.category.name ++ "/" ++ key.name

def builtin? (key : TemplateKey) : Option BuiltinTemplate :=
  key.category.builtins.find? (·.name == key.name)

def isBuiltin (key : TemplateKey) : Bool := key.builtin?.isSome

/-- The variables that the builtin template of this key requires. -/
def required (key : TemplateKey) : List String :=
  (key.builtin?.map (·.required)).getD []

end TemplateKey

/-- The keys of the builtin templates of a category. -/
def Category.keys (c : Category) : List TemplateKey :=
  c.builtins.map fun t => ⟨c, t.name⟩

end Scaffold
