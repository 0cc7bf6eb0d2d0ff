import Scaffold.Spec.Basic
import Scaffold.Spec.Node

/-!
# Decoding specifications

Each type of a specification is read from a node of a document. Fields that have
a default can be left out, a field that is not known does not matter, and a
known one must not occur twice.
-/

namespace Scaffold

open DocumentNode

/-- Types that can be read from the nodes of any format. -/
class Decodable (α : Type) where
  decode : {δ : Type} → [DocumentNode δ] → δ → Option α

namespace Decoding

variable {δ : Type} [DocumentNode δ] {α : Type}

/-! ## Fields -/

/-- A field that must be there. -/
def needed (read : δ → Option α) : Option δ → Option α
  | some d => read d
  | none => none

/-- A field with a default. -/
def defaulted (default : α) (read : δ → Option α) : Option δ → Option α
  | some d => read d
  | none => some default

/-- A field that may be left out or say that there is nothing. -/
def optional (read : δ → Option α) : Option δ → Option (Option α)
  | some d =>
    match nothing? d with
    | some true => some none
    | some false => (read d).map some
    | none => none
  | none => some none

/-- A whole number up to a bound. -/
def naturalUpTo (bound : Nat) (d : δ) : Option Nat :=
  (natural? d).filter (· ≤ bound)

def list (read : δ → Option α) (d : δ) : Option (List α) := (items? d).bind (List.mapM read)

/-- A map from texts to texts; of two entries with one key the later counts. -/
def annotations (d : δ) : Option Annotations :=
  ((entries? d).bind (List.mapM fun (key, value) => (text? value).map fun s => (key, s))).map
    SortedMap.ofList

/-! ## Specifications -/

def route (d : δ) : Option Route := do
  match ← fields? ["method", "path", "handler", "request_type", "response_type", "annotations"] d
    with
  | [method, path, handler, request, response, notes] =>
    return ⟨← needed text? method, ← needed text? path, ← needed text? handler,
      ← optional text? request, ← optional text? response,
      ← defaulted SortedMap.empty annotations notes⟩
  | _ => none

def group (d : δ) : Option Group := do
  match ← fields? ["annotations", "routes"] d with
  | [notes, routes] =>
    return ⟨← defaulted SortedMap.empty annotations notes, ← defaulted [] (list route) routes⟩
  | _ => none

def service (d : δ) : Option Service := do
  match ← fields? ["name", "annotations", "groups"] d with
  | [name, notes, groups] =>
    return ⟨← needed text? name, ← defaulted SortedMap.empty annotations notes,
      ← defaulted [] (list group) groups⟩
  | _ => none

def apiSpec (d : δ) : Option ApiSpec := do
  match ← fields? ["module", "service"] d with
  | [module_, inner] => return ⟨← needed text? module_, ← needed service inner⟩
  | _ => none

def rpcMethod (d : δ) : Option RpcMethod := do
  match ← fields?
      ["name", "request_type", "response_type", "streams_request", "streams_response", "doc"] d
    with
  | [name, request, response, streamsRequest, streamsResponse, doc] =>
    return ⟨← needed text? name, ← needed text? request, ← needed text? response,
      ← defaulted false bool? streamsRequest, ← defaulted false bool? streamsResponse,
      ← optional text? doc⟩
  | _ => none

def rpcService (d : δ) : Option RpcService := do
  match ← fields? ["name", "go_package", "methods"] d with
  | [name, package, methods] =>
    return ⟨← needed text? name, ← needed text? package, ← defaulted [] (list rpcMethod) methods⟩
  | _ => none

def rpcSpec (d : δ) : Option RpcSpec := do
  match ← fields? ["module", "service"] d with
  | [module_, inner] => return ⟨← needed text? module_, ← needed rpcService inner⟩
  | _ => none

def column (d : δ) : Option Column := do
  match ← fields? ["name", "type_name", "comment"] d with
  | [name, typeName, comment] =>
    return ⟨← needed text? name, ← needed text? typeName, ← optional text? comment⟩
  | _ => none

def table (d : δ) : Option Table := do
  match ← fields? ["name", "fields"] d with
  | [name, columns] => return ⟨← needed text? name, ← defaulted [] (list column) columns⟩
  | _ => none

def modelSpec (d : δ) : Option ModelSpec := do
  match ← fields? ["package", "cache", "tables"] d with
  | [package, cache, tables] =>
    return ⟨← defaulted "model" text? package, ← defaulted false bool? cache,
      ← defaulted [] (list table) tables⟩
  | _ => none

def mongoSpec (d : δ) : Option MongoSpec := do
  match ← fields? ["types", "cache"] d with
  | [types, cache] =>
    return ⟨← defaulted [] (list text?) types, ← defaulted false bool? cache⟩
  | _ => none

/-- The greatest port and the greatest number of replicas. -/
def portLimit : Nat := 0xffff

def replicasLimit : Nat := 0xffffffff

def manifestSpec (d : δ) : Option ManifestSpec := do
  match ← fields? ["name", "image", "namespace", "port", "replicas", "go_version", "main"] d with
  | [name, image, space, port, replicas, goVersion, main] =>
    return ⟨← needed text? name, ← needed text? image, ← defaulted "default" text? space,
      ← optional (naturalUpTo portLimit) port,
      ← defaulted 1 (naturalUpTo replicasLimit) replicas,
      ← defaulted "1.22" text? goVersion, ← defaulted "main.go" text? main⟩
  | _ => none

end Decoding

instance : Decodable Route := ⟨Decoding.route⟩
instance : Decodable ApiSpec := ⟨Decoding.apiSpec⟩
instance : Decodable RpcSpec := ⟨Decoding.rpcSpec⟩
instance : Decodable ModelSpec := ⟨Decoding.modelSpec⟩
instance : Decodable MongoSpec := ⟨Decoding.mongoSpec⟩
instance : Decodable ManifestSpec := ⟨Decoding.manifestSpec⟩

end Scaffold
