import Scaffold.Catalog.BuiltinText
import Scaffold.Catalog.Category

/-!
# Builtin templates

The text of each builtin key. A key has a builtin text exactly when its
category lists a template of its name.
-/

namespace Scaffold

/-- The text that ships for a key. -/
def TemplateKey.builtinText? (key : TemplateKey) : Option String :=
  match key.category, key.name with
  | .api, "handler.tpl" => some BuiltinText.apiHandler
  | .api, "logic.tpl" => some BuiltinText.apiLogic
  | .rpc, "logic.tpl" => some BuiltinText.rpcLogic
  | .rpc, "logic-func.tpl" => some BuiltinText.rpcLogicFunc
  | .rpc, "etc.tpl" => some BuiltinText.rpcEtc
  | .model, "model.tpl" => some BuiltinText.modelModel
  | .model, "import.tpl" => some BuiltinText.modelImport
  | .model, "import-no-cache.tpl" => some BuiltinText.modelImportNoCache
  | .model, "vars.tpl" => some BuiltinText.modelVars
  | .docker, "docker.tpl" => some BuiltinText.dockerDocker
  | .kube, "deployment.tpl" => some BuiltinText.kubeDeployment
  | .mongo, "model.tpl" => some BuiltinText.mongoModel
  | .mongo, "error.tpl" => some BuiltinText.mongoError
  | _, _ => none

theorem TemplateKey.builtinText?_isSome_of_mem_keys (c : Category) (key : TemplateKey)
    (h : key ∈ c.keys) : key.builtinText?.isSome = true := by
  have listed : c.keys.all (·.builtinText?.isSome) = true := by cases c <;> decide
  exact List.all_eq_true.mp listed key h

end Scaffold
