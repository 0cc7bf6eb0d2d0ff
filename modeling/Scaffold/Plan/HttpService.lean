import Scaffold.Generation.Generator
import Scaffold.Generation.Imports
import Scaffold.Plan.Layout
import Scaffold.Spec.Basic

/-!
# Files of a service over HTTP

Every route gives two files: a handler, which is written anew each time, and its
logic, which is written once and then belongs to its author. Both are named
after the handler of the route and both are described by the annotations of the
route and its group.
-/

namespace Scaffold

open Text

/-! ## Packages -/

namespace HttpService

/-- The name of the package with the types. -/
def typesPackage : String := "types"

def httpxImport : String := "github.com/zeromicro/go-zero/rest/httpx"

def logxImport : String := "github.com/zeromicro/go-zero/core/logx"

end HttpService

/-! ## Routes -/

namespace Route

/-- The handler without `handler` or `Handler` at its end, as a title. -/
def baseName (r : Route) : Except Error String :=
  let base := stripSuffix "Handler" (stripSuffix "handler" (trim r.handler))
  if base = "" then
    .error (.config (r.describe ++ " has no usable handler name: '" ++ r.handler ++ "'"))
  else .ok (title base)

/-- The name of the type of the request. -/
def requestTitle? (r : Route) : Option String := r.requestTypeName?.map title

/-- The name of the type of the response. -/
def responseTitle? (r : Route) : Option String := r.responseTypeName?.map title

/-- The summary of the route itself. -/
def summary (r : Route) (default : String) : String :=
  (Annotations.lookup "summary" [r.annotations]).getD default

end Route

namespace Group

/-- The annotations that speak about a route of the group. -/
def chain (g : Group) (r : Route) : List Annotations := [r.annotations, g.annotations]

def handlerFolder (g : Group) (r : Route) : String :=
  Annotations.folder Layout.handlers (g.chain r)

def logicFolder (g : Group) (r : Route) : String :=
  Annotations.folder Layout.logic (g.chain r)

/-- Whether the group names a `jwt`, or a `middleware` that speaks of one. -/
def isSecured (g : Group) : Bool :=
  (Annotations.lookup "jwt" [g.annotations]).isSome ||
    ((Annotations.lookup "middleware" [g.annotations]).map toLower).any fun m =>
      contains "jwt" m || contains "auth" m

end Group

/-! ## Targets -/

namespace ApiSpec

def handlerImports (s : ApiSpec) (gate : VersionGate) (g : Group) (r : Route) : ImportSet :=
  ImportSet.ofList
    ([joinPackage s.module_ (g.logicFolder r), joinPackage s.module_ Layout.dependencies] ++
      (if r.requestTitle?.isSome then [joinPackage s.module_ Layout.types] else []) ++
      (if gate.httpxInTemplate then [] else [HttpService.httpxImport]))

def handlerContext (s : ApiSpec) (gate : VersionGate) (g : Group) (r : Route) (base : String) :
    Context :=
  Context.ofList
    [("pkg_name", .text (Layout.packageOf (g.handlerFolder r))),
      ("imports", .texts (s.handlerImports gate g r).quoted),
      ("handler_name", .text (base ++ "Handler")),
      ("summary", .text (r.summary "Summary")),
      ("tag", .text ((Annotations.lookup "tag" (g.chain r)).getD "Tag")),
      ("method", .text (toLower (trim r.method))),
      ("path", .text (trim r.path)),
      ("has_security", .bool g.isSecured),
      ("has_request", .bool r.requestTitle?.isSome),
      ("request_type", .text (r.requestTitle?.getD "")),
      ("logic_pkg", .text (Layout.packageOf (g.logicFolder r))),
      ("logic_type", .text (base ++ "Logic")),
      ("has_response", .bool r.responseTypeName?.isSome),
      ("call", .text base),
      ("after_1_1_10", .bool gate.httpxInTemplate)]

def handlerTarget (s : ApiSpec) (gen : Generator) (g : Group) (r : Route) (base : String) :
    Target where
  subdir := g.handlerFolder r
  filename := gen.fileName (base ++ "Handler") ".go"
  template := ⟨.api, "handler.tpl"⟩
  context := s.handlerContext gen.gate g r base
  overwrite := .always
  node := r.describe

def logicImports (s : ApiSpec) (r : Route) : ImportSet :=
  ImportSet.ofList
    (["context", HttpService.logxImport, joinPackage s.module_ Layout.dependencies] ++
      if r.requestTitle?.isSome || r.responseTitle?.isSome then
        [joinPackage s.module_ Layout.types]
      else [])

/-- The results of the logic function and the statement that returns them. -/
def logicResults (r : Route) : String × String :=
  match r.responseTitle? with
  | some response =>
    ("(*" ++ HttpService.typesPackage ++ "." ++ response ++ ", error)",
      "return &" ++ HttpService.typesPackage ++ "." ++ response ++ "\x7b\x7d, nil")
  | none => ("error", "return nil")

def logicContext (s : ApiSpec) (g : Group) (r : Route) (base : String) : Context :=
  Context.ofList
    [("pkg_name", .text (Layout.packageOf (g.logicFolder r))),
      ("imports", .texts (s.logicImports r).quoted),
      ("logic", .text (base ++ "Logic")),
      ("function", .text base),
      ("summary", .text (r.summary "Business logic")),
      ("request", .text ((r.requestTitle?.map fun request =>
        "req " ++ HttpService.typesPackage ++ "." ++ request).getD "")),
      ("response_type", .text (logicResults r).1),
      ("return_string", .text (logicResults r).2)]

def logicTarget (s : ApiSpec) (gen : Generator) (g : Group) (r : Route) (base : String) :
    Target where
  subdir := g.logicFolder r
  filename := gen.fileName (base ++ "Logic") ".go"
  template := ⟨.api, "logic.tpl"⟩
  context := s.logicContext g r base
  overwrite := .ifMissing
  node := r.describe

/-- The handler of a route and then its logic. -/
def routeTargets (s : ApiSpec) (gen : Generator) (g : Group) (r : Route) :
    Except Error (List Target) :=
  r.baseName.map fun base => [s.handlerTarget gen g r base, s.logicTarget gen g r base]

/-- The routes in the order of the specification, each with its group. -/
def routes (s : ApiSpec) : List (Group × Route) :=
  s.service.groups.flatMap fun g => g.routes.map fun r => (g, r)

/-- The targets of all routes, or the error of the first one without a name. -/
def targets (s : ApiSpec) (gen : Generator) : Except Error (List Target) :=
  (s.routes.mapM fun (g, r) => s.routeTargets gen g r).map List.flatten

def backend (s : ApiSpec) : Backend where
  name := "api"
  category := .api
  plan gen := Action.ofExcept (s.targets gen)

end ApiSpec

end Scaffold
