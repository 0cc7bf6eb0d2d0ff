import Scaffold.Generation.Annotations
import Scaffold.Text.LetterCase

/-!
# Specifications

What there is to generate: the routes of a service over HTTP, the methods of a
service over remote calls, tables, collections, and the deployment of a service.
-/

namespace Scaffold

open Text

/-- The text without blanks around it, unless nothing is left. -/
def nonBlank (s : Option String) : Option String := (s.map trim).filter (· != "")

/-! ## Services over HTTP -/

structure Route where
  method : String
  path : String
  handler : String
  requestType : Option String
  responseType : Option String
  annotations : Annotations
  deriving DecidableEq

namespace Route

def requestTypeName? (r : Route) : Option String := nonBlank r.requestType

def responseTypeName? (r : Route) : Option String := nonBlank r.responseType

/-- How errors name the route. -/
def describe (r : Route) : String := "route " ++ toUpper (trim r.method) ++ " " ++ trim r.path

end Route

/-- Routes that share annotations. -/
structure Group where
  annotations : Annotations
  routes : List Route
  deriving DecidableEq

structure Service where
  name : String
  annotations : Annotations
  groups : List Group
  deriving DecidableEq

structure ApiSpec where
  /-- The module that the paths of generated imports start with. -/
  module_ : String
  service : Service
  deriving DecidableEq

/-! ## Services over remote calls -/

structure RpcMethod where
  name : String
  requestType : String
  responseType : String
  streamsRequest : Bool
  streamsResponse : Bool
  doc : Option String
  deriving DecidableEq

structure RpcService where
  name : String
  /-- The path of the package with the messages. -/
  goPackage : String
  methods : List RpcMethod
  deriving DecidableEq

/-- The name of the package with the messages: the last part of its path. -/
def RpcService.pbName (s : RpcService) : String :=
  ((splitOn '/' (trimEndWhere (· == '/') s.goPackage)).getLast?).getD ""

structure RpcSpec where
  module_ : String
  service : RpcService
  deriving DecidableEq

/-! ## Tables and collections -/

structure Column where
  name : String
  typeName : String
  comment : Option String
  deriving DecidableEq

structure Table where
  name : String
  columns : List Column
  deriving DecidableEq

/-- Whether some column holds a time. -/
def Table.usesTime (t : Table) : Bool := t.columns.any fun c => contains "time.Time" c.typeName

structure ModelSpec where
  package : String
  cache : Bool
  tables : List Table
  deriving DecidableEq

structure MongoSpec where
  types : List String
  cache : Bool
  deriving DecidableEq

/-! ## Deployments -/

structure ManifestSpec where
  name : String
  image : String
  namespace_ : String
  port : Option Nat
  replicas : Nat
  goVersion : String
  /-- The file that the program is built from. -/
  main : String
  deriving DecidableEq

end Scaffold
