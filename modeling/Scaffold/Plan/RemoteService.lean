import Scaffold.Generation.Generator
import Scaffold.Generation.Imports
import Scaffold.Plan.Layout
import Scaffold.Spec.Basic

/-!
# Files of a service over remote calls

Every method gives a file with its logic, written once, whose function is
rendered first as a fragment of its own. The service gives the document of its
settings, written anew each time.
-/

namespace Scaffold

open Text

namespace RpcMethod

/-- The name of the type that holds the logic. -/
def logicName (m : RpcMethod) : String := camelCase (m.name ++ "_logic")

def node (m : RpcMethod) : String := "rpc " ++ m.name

/-- The documentation as lines of comments. -/
def comment (m : RpcMethod) : String :=
  match nonBlank m.doc with
  | some doc => String.intercalate "\n" ((lines doc).map fun line => "// " ++ trim line)
  | none => ""

/-- Whether either side sends more than one message. -/
def streams (m : RpcMethod) : Bool := m.streamsRequest || m.streamsResponse

end RpcMethod

namespace RpcService

/-- The key of the service: its name in lower case up to the word `service`,
unless it starts with that word. -/
def keyOf (name : String) : String :=
  let name := toLower (camelCase name)
  match cut "service" name with
  | some (before, _) => if before = "" then name else trimEndWhere (· == '-') before
  | none => name

/-- A name of the package with the messages. -/
def qualified (s : RpcService) (name : String) : String := s.pbName ++ "." ++ name

end RpcService

namespace RpcSpec

def functionContext (s : RpcSpec) (m : RpcMethod) : Context :=
  let messageType (name : String) := s.service.qualified (camelCase name)
  Context.ofList
    [("has_comment", .bool (m.comment != "")),
      ("comment", .text m.comment),
      ("logic_name", .text m.logicName),
      ("method", .text (camelCase m.name)),
      ("has_req", .bool !m.streamsRequest),
      ("request", .text ("*" ++ messageType m.requestType)),
      ("stream", .bool m.streams),
      ("stream_body", .text (s.service.qualified
        (camelCase s.service.name ++ "_" ++ camelCase m.name ++ "Server"))),
      ("has_reply", .bool !m.streams),
      ("response", .text ("*" ++ messageType m.responseType)),
      ("response_type", .text (messageType m.responseType))]

def functionKey : TemplateKey := ⟨.rpc, "logic-func.tpl"⟩

def logicImports (s : RpcSpec) : ImportSet :=
  ImportSet.ofList
    [joinPackage s.module_ Layout.dependencies, trim s.service.goPackage]

/-- The logic of a method around the text of its function. -/
def logicTarget (s : RpcSpec) (gen : Generator) (m : RpcMethod) (functions : String) :
    Target where
  subdir := Layout.logic
  filename := gen.fileName (m.name ++ "_logic") ".go"
  template := ⟨.rpc, "logic.tpl"⟩
  context := Context.ofList
    [("imports", .texts s.logicImports.quoted), ("logic_name", .text m.logicName),
      ("functions", .text functions)]
  overwrite := .ifMissing
  node := m.node

def planMethod (s : RpcSpec) (gen : Generator) (m : RpcMethod) : Action Target := do
  let functions ← gen.renderFragment functionKey (s.functionContext m) m.node
  return s.logicTarget gen m functions

def planMethods (s : RpcSpec) (gen : Generator) : List RpcMethod → Action (List Target)
  | [] => return []
  | m :: ms => do
    let target ← s.planMethod gen m
    return target :: (← s.planMethods gen ms)

def settingsTarget (s : RpcSpec) (gen : Generator) : Target where
  subdir := Layout.settings
  filename := gen.fileName s.service.name ".yaml"
  template := ⟨.rpc, "etc.tpl"⟩
  context := Context.ofList [("service_name", .text (RpcService.keyOf s.service.name))]
  overwrite := .always
  node := "service " ++ s.service.name

def backend (s : RpcSpec) : Backend where
  name := "rpc"
  category := .rpc
  plan gen := do
    let targets ← s.planMethods gen s.service.methods
    return targets ++ [s.settingsTarget gen]

end RpcSpec

end Scaffold
