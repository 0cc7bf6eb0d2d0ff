import Scaffold.Proofs.Catalog.Initialization
import Scaffold.Proofs.Generation.Completeness
import Scaffold.Proofs.Generation.Pairing
import Scaffold.Proofs.Template.ImportLists
import Scaffold.Proofs.Text.LastSegments

/-!
# Qualifiers of messages

The types of a remote method are named in the package of the messages, which the file of the
method imports. The path of the package is imported without blanks around it, and its last
segment qualifies the names as it stands, slashes at the end aside. The two agree
exactly where that segment has no blanks around it.
-/

namespace Scaffold

open Text Template BuiltinText

namespace RpcSpec

/-! ## The file of a method -/

section

variable (s : RpcSpec) (package : String) (m : RpcMethod)

/-- The name of the stream of a method, in a package. -/
def streamType : String :=
  package ++ "." ++ (camelCase s.service.name ++ "_" ++ camelCase m.name ++ "Server")

/-- The parameters of a method, with the types of a package. -/
def parametersText : String :=
  if m.streamsRequest then "stream " ++ s.streamType package m
  else "in *" ++ (package ++ "." ++ camelCase m.requestType) ++
    if m.streams then ", stream " ++ s.streamType package m else ""

/-- The function of a method, with the types of a package. -/
def functionText : String :=
  m.comment ++ "\nfunc (l *" ++ m.logicName ++ ") " ++ camelCase m.name ++ "(" ++
    s.parametersText package m ++ ") (" ++
    (if m.streams then "" else "*" ++ (package ++ "." ++ camelCase m.responseType) ++ ", ") ++
    "error) \x7b\n\t// todo: add your logic here and delete this line\n\n\treturn " ++
    (if m.streams then "" else "&" ++ (package ++ "." ++ camelCase m.responseType) ++ "\x7b\x7d, ") ++
    "nil\n\x7d\n"

/-- The lines in front of the function of a method. -/
def logicLines : List String :=
  ["package logic", "", "import (", "\t\"context\"", ""] ++ s.logicImports.paths.map importLine ++
    ["", "\t\"github.com/zeromicro/go-zero/core/logx\"", ")", "",
      "type " ++ m.logicName ++ " struct \x7b", "\tctx    context.Context",
      "\tsvcCtx *svc.ServiceContext", "\tlogx.Logger", "\x7d", "",
      "func New" ++ m.logicName ++ "(ctx context.Context, svcCtx *svc.ServiceContext) *" ++
        m.logicName ++ " \x7b",
      "\treturn &" ++ m.logicName ++ "\x7b", "\t\tctx:    ctx,", "\t\tsvcCtx: svcCtx,",
      "\t\tLogger: logx.WithContext(ctx),", "\t\x7d", "\x7d"]

/-- The file of a method, with the types of a package. -/
def logicText : String :=
  ofLines (s.logicLines m) ++ s.functionText package m ++ "\n"

end

/-! ## Its templates -/

/-- The function of a method, by what is known of its comment and its streams. -/
def functionOutline (comment streamsRequest streams : Bool) : Outline :=
  (if comment then [.value "comment"] else []) ++ literalOutline "\nfunc (l *" ++
    [.value "logic_name"] ++ literalOutline ") " ++ [.value "method"] ++ literalOutline "(" ++
    (if streamsRequest then literalOutline "stream " ++ [.value "stream_body"]
      else literalOutline "in " ++ [.value "request"] ++
        if streams then literalOutline ", stream " ++ [.value "stream_body"] else []) ++
    literalOutline ") (" ++
    (if streams then [] else [.value "response"] ++ literalOutline ", ") ++
    literalOutline "error) \x7b\n\t// todo: add your logic here and delete this line\n\n\treturn " ++
    (if streams then []
      else literalOutline "&" ++ [.value "response_type"] ++ literalOutline "\x7b\x7d, ") ++
    literalOutline "nil\n\x7d\n"

def functionTruths (comment streamsRequest streams : Bool) : List (String × Bool) :=
  [("has_comment", comment), ("has_req", !streamsRequest), ("stream", streams),
    ("has_reply", !streams)]

/-- Whether nodes are sketched as the function of a method, whatever is known of it. -/
def isFunction (nodes : List Node) : Bool :=
  decide (∀ comment streamsRequest streams,
    sketchOf? (functionTruths comment streamsRequest streams) nodes =
      some (functionOutline comment streamsRequest streams))

set_option maxRecDepth 4000 in
theorem isFunction_rpcLogicFunc : (nodesOfChars? rpcLogicFunc.toList).any isFunction = true := by
  apply Spelled.read fun cs => (nodesOfChars? cs).any isFunction
  · repeat
      apply Spelled.cons
      · exact rfl
    exact Spelled.nil
  · decide +kernel

/-- What stands around the imports in the file of a method. -/
def logicFrame : ImportFrame where
  front := literalOutline "package logic\n\nimport (\n\t\"context\"\n\n"
  back := List.flatten
    [literalOutline "\n\t\"github.com/zeromicro/go-zero/core/logx\"\n)\n\ntype ",
      [.value "logic_name"],
      literalOutline " struct \x7b\n\tctx    context.Context\n\tsvcCtx *svc.ServiceContext\n",
      literalOutline "\tlogx.Logger\n\x7d\n\nfunc New", [.value "logic_name"],
      literalOutline "(ctx context.Context, svcCtx *svc.ServiceContext) *", [.value "logic_name"],
      literalOutline " \x7b\n\treturn &", [.value "logic_name"],
      literalOutline "\x7b\n\t\tctx:    ctx,\n\t\tsvcCtx: svcCtx,\n",
      literalOutline "\t\tLogger: logx.WithContext(ctx),\n\t\x7d\n\x7d\n",
      [.value "functions"], literalOutline "\n"]
  isWhole := true

set_option maxRecDepth 4000 in
theorem importFrame?_rpcLogic :
    importFrame? [] 1 20 rpcLogic.toList = some logicFrame := by
  apply Spelled.read (importFrame? [] 1 20)
  · repeat
      apply Spelled.cons
      · exact rfl
    exact Spelled.nil
  · decide +kernel

/-! ## Rendering -/

/-- A context names the types of a method in a package. -/
structure NamesTypesIn (s : RpcSpec) (package : String) (m : RpcMethod) (context : Context) :
    Prop where
  request : context.get? "request" =
    some (.text ("*" ++ (package ++ "." ++ camelCase m.requestType)))
  response : context.get? "response" =
    some (.text ("*" ++ (package ++ "." ++ camelCase m.responseType)))
  responseType : context.get? "response_type" =
    some (.text (package ++ "." ++ camelCase m.responseType))
  stream : context.get? "stream_body" = some (.text (s.streamType package m))

section

variable (s : RpcSpec) (g : Generator) (m : RpcMethod)

theorem namesTypesIn_functionContext :
    s.NamesTypesIn s.service.pbName m (s.functionContext m) := by
  have hvalues : ∀ name, (s.functionContext m).get? name = _ := Context.get?_ofList (by simp)
  exact ⟨hvalues _, hvalues _, hvalues _, hvalues _⟩

/-- The outline of the function, filled in with what the context of a method says. -/
theorem functionOutline_seen :
    (functionOutline (m.comment != "") m.streamsRequest m.streams).seen
        (.ofContext (s.functionContext m).values) =
      (s.functionText s.service.pbName m).toList := by
  have hvalues : ∀ name, (s.functionContext m).get? name = _ := Context.get?_ofList (by simp)
  have hnames := s.namesTypesIn_functionContext m
  have hlogic : (s.functionContext m).get? "logic_name" = some (.text m.logicName) := hvalues _
  have hmethod : (s.functionContext m).get? "method" = some (.text (camelCase m.name)) :=
    hvalues _
  have hcomment : Outline.seen (.ofContext (s.functionContext m).values)
      (if m.comment != "" then [.value "comment"] else []) = m.comment.toList := by
    have hsaid : (s.functionContext m).get? "comment" = some (.text m.comment) := hvalues _
    by_cases hempty : m.comment = ""
    · simp [hempty]
    · simp [hempty, View.ofContext, Context.get?_values, hsaid, Value.print]
  unfold functionOutline functionText parametersText
  simp only [Outline.seen_append, hcomment]
  cases m.streamsRequest <;> cases m.streams <;>
    simp [View.ofContext, Context.get?_values, hnames.request, hnames.response,
      hnames.responseType, hnames.stream, hlogic, hmethod, Value.print]

set_option maxRecDepth 4000 in
/-- The frame of a file with a function is its lines and then the function. -/
theorem logicFrame_seen {view : View} {functions : String}
    (hlogic : view "logic_name" = .text m.logicName)
    (hfunctions : view "functions" = .text functions) :
    logicFrame.front.seen view ++ ((ofLines (s.logicImports.paths.map importLine)).toList ++
        logicFrame.back.seen view) =
      (ofLines (s.logicLines m) ++ functions ++ "\n").toList := by
  unfold logicFrame logicLines
  simp [toList_ofLines_append, toList_ofLines_cons, hlogic, hfunctions, Value.print]

variable {g} {d : Disk}

theorem renderFragment_function_of_builtin
    (hfile : d.isFile (g.repository.pathOf functionKey) = false) :
    (g.renderFragment functionKey (s.functionContext m) m.node).runOn d =
      (.ok (s.functionText s.service.pbName m), d) := by
  -- the template is sketched for every comment and stream at once, so the method picks its case
  obtain ⟨nodes, hnodes, hfunction⟩ := Option.any_eq_true _ _ |>.mp isFunction_rpcLogicFunc
  have hsketch := of_decide_eq_true hfunction (m.comment != "") m.streamsRequest m.streams
  have hvalues : ∀ name, (s.functionContext m).get? name = _ := Context.get?_ofList (by simp)
  have htruths : ∀ entry ∈ functionTruths (m.comment != "") m.streamsRequest m.streams,
      (View.ofContext (s.functionContext m).values entry.1).isTruthy = entry.2 := by
    unfold functionTruths View.ofContext
    simp only [List.forall_mem_cons, Context.get?_values, hvalues]
    exact ⟨rfl, rfl, rfl, rfl, List.forall_mem_nil _⟩
  have hmet := (Specification.Fragment.function s m).serves.met
  rw [Generator.renderFragment_of_nodes
    (Repository.textOf_of_builtin hfile rfl) rfl hnodes hmet,
    nodesSay_of_sketch? htruths nodes hsketch, functionOutline_seen, String.ofList_toList]

variable
  (hfile : ∀ key : TemplateKey, key.isBuiltin = true → d.isFile (g.repository.pathOf key) = false)

include hfile

theorem renderFragment_function :
    (g.renderFragment functionKey (s.functionContext m) m.node).runOn d =
      (.ok (s.functionText s.service.pbName m), d) :=
  s.renderFragment_function_of_builtin m (hfile functionKey rfl)

theorem content_logicTarget :
    g.content (s.logicTarget g m (s.functionText s.service.pbName m)) d =
      .ok (s.logicText s.service.pbName m) := by
  have hvalues : ∀ name,
      (s.logicTarget g m (s.functionText s.service.pbName m)).context.get? name = _ :=
    Context.get?_ofList (by simp)
  have hview : ∀ name, View.ofContext
      (s.logicTarget g m (s.functionText s.service.pbName m)).context.values name = _ :=
    fun name => by rw [View.ofContext, Context.get?_values, hvalues]
  have hmet := (Specification.Offers.rpcLogic s m (s.functionText s.service.pbName m) :
    Specification.Offers g _ _).met
  obtain ⟨rest, hwhole, hcontent⟩ := Generator.content_of_frame
    (t := s.logicTarget g m (s.functionText s.service.pbName m))
    (Repository.textOf_of_builtin (hfile ⟨.rpc, "logic.tpl"⟩ rfl) rfl) rfl importFrame?_rpcLogic
    hmet (List.forall_mem_nil _) (hvalues "imports")
  rw [hwhole rfl, List.append_nil, s.logicFrame_seen m (hview _) (hview _),
    String.ofList_toList] at hcontent
  exact hcontent

end

/-! ## The qualifier and the import -/

/-- The qualifier of the messages is the last segment of the path that is imported, and has
no blanks around it. -/
def QualifierAgrees (s : RpcSpec) : Prop :=
  IsLastSegment (trim s.service.goPackage) s.service.pbName ∧
    trim s.service.pbName = s.service.pbName

theorem isLastSegment_pbName (s : RpcSpec) :
    IsLastSegment s.service.goPackage s.service.pbName :=
  isLastSegment_getLast s.service.goPackage

theorem qualifierAgrees_iff (s : RpcSpec) : s.QualifierAgrees ↔
    ∀ name, IsLastSegment s.service.goPackage name → trim name = name := by
  constructor
  · rintro ⟨-, htrim⟩ name hname
    rwa [hname.unique s.isLastSegment_pbName]
  · intro h
    have htrim := h _ s.isLastSegment_pbName
    exact ⟨s.isLastSegment_pbName.trim htrim, htrim⟩

theorem mem_logicImports (s : RpcSpec) : trim s.service.goPackage ∈ s.logicImports.paths :=
  ImportSet.mem_ofList.mpr (by simp)

/-- Every type of a method is named in the package of the messages and every file of a method
imports its path, whatever the templates are. From the builtin templates the files are known
to the last character. The qualifier in them is the last segment of the imported path and has
no blanks around it exactly where the last segment of the given path has none. -/
theorem qualifiers_name_import (s : RpcSpec) :
    (∀ g m functions, s.NamesTypesIn s.service.pbName m (s.functionContext m) ∧
      (s.logicTarget g m functions).Imports (trim s.service.goPackage)) ∧
    (∀ (g : Generator) (d : Disk), (∀ key : TemplateKey, key.isBuiltin = true →
      d.isFile (g.repository.pathOf key) = false) → ∃ logics,
        (s.backend.plan g).runOn d = (.ok (logics ++ [s.settingsTarget g]), d) ∧
          List.Forall₂ (fun m t => g.content t d = .ok (s.logicText s.service.pbName m) ∧
            importLine (trim s.service.goPackage) ∈ s.logicLines m) s.service.methods logics) ∧
    (s.QualifierAgrees ↔ ∀ name, IsLastSegment s.service.goPackage name → trim name = name) := by
  refine ⟨fun g m functions => ⟨s.namesTypesIn_functionContext m, ?_⟩, fun g d hfile => ?_,
    s.qualifierAgrees_iff⟩
  · have himports : (s.logicTarget g m functions).context.get? "imports" =
        some (.texts s.logicImports.quoted) := Context.get?_ofList (by simp) _
    exact (Target.imports_iff himports _).mpr s.mem_logicImports
  · obtain ⟨logics, hplan, hlogics, -⟩ := (s.plansMethods hfile).complete
    refine ⟨logics, hplan, hlogics.imp ?_⟩
    rintro m t ⟨functions, hfunctions, rfl⟩
    rw [s.renderFragment_function m hfile] at hfunctions
    obtain rfl := Except.ok.inj (Prod.mk.inj hfunctions).1
    refine ⟨s.content_logicTarget m hfile, ?_⟩
    unfold logicLines
    exact List.mem_append_left _ (List.mem_append_right _ (List.mem_map_of_mem s.mem_logicImports))

/-- A service whose messages lie in a package of its own, with some slashes behind the path. -/
def greeting (goPackage : String) : RpcSpec :=
  ⟨"greet", ⟨"greet", goPackage,
    [⟨"say_hello", "HelloReq", "HelloReply", false, false, some "Says hello."⟩,
      ⟨"watch", "WatchReq", "Event", false, true, none⟩]⟩⟩

theorem qualifiers_name_import_pb :
    (∀ key : TemplateKey, key.isBuiltin = true →
      Generator.blocked.isFile (Generator.plain.repository.pathOf key) = false) ∧
    (∃ logics, ((greeting "github.com/acme/greet/pb/").backend.plan Generator.plain).runOn
        Generator.blocked =
          (.ok (logics ++ [(greeting "github.com/acme/greet/pb/").settingsTarget .plain]),
            Generator.blocked) ∧
      List.Forall₂ (fun m t => Generator.plain.content t Generator.blocked =
          .ok ((greeting "github.com/acme/greet/pb/").logicText "pb" m) ∧
        importLine "github.com/acme/greet/pb/" ∈
          (greeting "github.com/acme/greet/pb/").logicLines m)
        (greeting "github.com/acme/greet/pb/").service.methods logics) ∧
    (greeting "github.com/acme/greet/pb/").QualifierAgrees := by
  have hfile := Generator.uncustomized_blocked.noFile
  have hname : (greeting "github.com/acme/greet/pb/").service.pbName = "pb" := by decide +kernel
  have hpath : trim (greeting "github.com/acme/greet/pb/").service.goPackage =
      "github.com/acme/greet/pb/" := by decide +kernel
  obtain ⟨-, hfiles, hagrees⟩ := qualifiers_name_import (greeting "github.com/acme/greet/pb/")
  have hplanned := hfiles Generator.plain Generator.blocked hfile
  rw [hname, hpath] at hplanned
  refine ⟨hfile, hplanned, hagrees.mpr fun name h => ?_⟩
  obtain rfl : name = "pb" := by
    rw [h.unique (greeting "github.com/acme/greet/pb/").isLastSegment_pbName, hname]
  decide +kernel

/-- A blank behind the path shows in the qualifier and not in the import. -/
theorem qualifier_keeps_blank :
    trim (greeting "greet/pb ").service.goPackage = "greet/pb" ∧
    (greeting "greet/pb ").service.pbName = "pb " ∧ ¬ (greeting "greet/pb ").QualifierAgrees := by
  have hname : (greeting "greet/pb ").service.pbName = "pb " := by decide +kernel
  refine ⟨by decide +kernel, hname, fun h => ?_⟩
  have htrim := h.2
  rw [hname] at htrim
  exact absurd htrim (by decide +kernel)

end RpcSpec

end Scaffold
