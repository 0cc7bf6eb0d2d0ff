import Scaffold.Json.Basic
import Scaffold.Spec.Basic

/-!
# Encoding specifications

A specification as a JSON document with all its fields, those with defaults
included.
-/

namespace Scaffold

/-- Types that can be written as JSON. -/
class Encodable (α : Type) where
  encode : α → Json

namespace Encoding

def optional (s : Option String) : Json := (s.map Json.text).getD .null

def annotations (a : Annotations) : Json :=
  .record (a.entries.map fun (key, value) => (key, .text value))

def route (r : Route) : Json :=
  .record [("method", .text r.method), ("path", .text r.path), ("handler", .text r.handler),
    ("request_type", optional r.requestType), ("response_type", optional r.responseType),
    ("annotations", annotations r.annotations)]

def group (g : Group) : Json :=
  .record [("annotations", annotations g.annotations), ("routes", .array (g.routes.map route))]

def service (s : Service) : Json :=
  .record [("name", .text s.name), ("annotations", annotations s.annotations),
    ("groups", .array (s.groups.map group))]

def apiSpec (s : ApiSpec) : Json :=
  .record [("module", .text s.module_), ("service", service s.service)]

def rpcMethod (m : RpcMethod) : Json :=
  .record [("name", .text m.name), ("request_type", .text m.requestType),
    ("response_type", .text m.responseType), ("streams_request", .bool m.streamsRequest),
    ("streams_response", .bool m.streamsResponse), ("doc", optional m.doc)]

def rpcService (s : RpcService) : Json :=
  .record [("name", .text s.name), ("go_package", .text s.goPackage),
    ("methods", .array (s.methods.map rpcMethod))]

def rpcSpec (s : RpcSpec) : Json :=
  .record [("module", .text s.module_), ("service", rpcService s.service)]

def column (c : Column) : Json :=
  .record [("name", .text c.name), ("type_name", .text c.typeName),
    ("comment", optional c.comment)]

def table (t : Table) : Json :=
  .record [("name", .text t.name), ("fields", .array (t.columns.map column))]

def modelSpec (s : ModelSpec) : Json :=
  .record [("package", .text s.package), ("cache", .bool s.cache),
    ("tables", .array (s.tables.map table))]

def mongoSpec (s : MongoSpec) : Json :=
  .record [("types", .array (s.types.map Json.text)), ("cache", .bool s.cache)]

def manifestSpec (s : ManifestSpec) : Json :=
  .record [("name", .text s.name), ("image", .text s.image), ("namespace", .text s.namespace_),
    ("port", (s.port.map Json.natural).getD .null), ("replicas", .natural s.replicas),
    ("go_version", .text s.goVersion), ("main", .text s.main)]

end Encoding

instance : Encodable ApiSpec := ⟨Encoding.apiSpec⟩
instance : Encodable RpcSpec := ⟨Encoding.rpcSpec⟩
instance : Encodable ModelSpec := ⟨Encoding.modelSpec⟩
instance : Encodable MongoSpec := ⟨Encoding.mongoSpec⟩
instance : Encodable ManifestSpec := ⟨Encoding.manifestSpec⟩

end Scaffold
