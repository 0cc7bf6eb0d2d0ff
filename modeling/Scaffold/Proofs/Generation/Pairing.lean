import Scaffold.Plan.HttpService
import Scaffold.Proofs.Generation.Packages
import Scaffold.Proofs.Generation.Supplies

/-!
# Handlers and their logic

The two files of a route are planned apart from each other and call each other
by name. What the handler says of its logic is what the logic says of itself:
its package and type, the function, the request that it takes and whether it
gives a response. Both import the package of the types exactly when they have a
type to name.
-/

namespace Scaffold

open Text

/-! ## What a target says -/

/-- The import block of a target names a package. -/
def Target.Imports (t : Target) (package : String) : Prop :=
  ∃ items, t.context.get? "imports" = some (.texts items) ∧ "\"" ++ package ++ "\"" ∈ items

/-- Results of a function that gives a pointer and an error. -/
def GivesPointer (results : String) : Prop := ∃ type, results = "(*" ++ type ++ ", error)"

/-- A statement that returns two values. -/
def ReturnsTwo (statement : String) : Prop :=
  ∃ first second, statement = "return " ++ first ++ ", " ++ second

theorem not_givesPointer_error : ¬ GivesPointer "error" := by
  rintro ⟨type, h⟩
  have hhead := congrArg (·.toList.head?) h
  simp at hhead

theorem not_returnsTwo_nil : ¬ ReturnsTwo "return nil" := by
  rintro ⟨first, second, h⟩
  have hcomma : ',' ∈ "return nil".toList := by
    rw [h]
    simp
  exact absurd hcomma (by decide)

/-- What the handler and the logic of a route have to agree on for the one to call
the other. -/
structure Paired (types : String) (handler logic : Target) (handlerPath logicPath : Path) :
    Prop where
  /-- The handler calls the package that the logic lies in. -/
  logicPackage : ∃ package dirs, package ≠ "" ∧
    handler.context.get? "logic_pkg" = some (.text package) ∧
    logic.context.get? "pkg_name" = some (.text package) ∧
    logicPath.components = dirs ++ [.name package, .name logic.filename]
  handlerPackage : ∃ package dirs, package ≠ "" ∧
    handler.context.get? "pkg_name" = some (.text package) ∧
    handlerPath.components = dirs ++ [.name package, .name handler.filename]
  logicType : ∃ type, handler.context.get? "logic_type" = some (.text type) ∧
    logic.context.get? "logic" = some (.text type)
  function : ∃ name, handler.context.get? "call" = some (.text name) ∧
    logic.context.get? "function" = some (.text name)
  request : ∃ present type parameter,
    handler.context.get? "has_request" = some (.bool present) ∧
    handler.context.get? "request_type" = some (.text type) ∧
    logic.context.get? "request" = some (.text parameter) ∧
    (present = true ↔ parameter ≠ "") ∧
    (present = true → parameter = "req types." ++ type)
  response : ∃ present results statement,
    handler.context.get? "has_response" = some (.bool present) ∧
    logic.context.get? "response_type" = some (.text results) ∧
    logic.context.get? "return_string" = some (.text statement) ∧
    (present = true ↔ GivesPointer results) ∧ (present = true ↔ ReturnsTwo statement) ∧
    (present = true → ∃ type, results = "(*types." ++ type ++ ", error)" ∧
      statement = "return &types." ++ type ++ "\x7b\x7d, nil")
  handlerTypes : handler.Imports types ↔
    handler.context.get? "has_request" = some (.bool true)
  logicTypes : logic.Imports types ↔
    (∃ parameter, logic.context.get? "request" = some (.text parameter) ∧ parameter ≠ "") ∨
      ∃ statement, logic.context.get? "return_string" = some (.text statement) ∧
        ReturnsTwo statement

/-! ## Import blocks -/

theorem Value.texts_inj {items others : List String} (h : texts items = texts others) :
    items = others :=
  (List.map_inj_right fun _ _ he => Value.text.inj he).mp (Value.list.inj h)

theorem Target.imports_iff {t : Target} {set : ImportSet}
    (h : t.context.get? "imports" = some (.texts set.quoted)) (package : String) :
    t.Imports package ↔ package ∈ set.paths := by
  rw [← ImportSet.mem_quoted]
  constructor
  · rintro ⟨items, hitems, hmem⟩
    have hitems : items = set.quoted := Value.texts_inj (Option.some.inj (hitems.symm.trans h))
    rwa [← hitems]
  · intro hmem
    exact ⟨_, h, hmem⟩

namespace ApiSpec

variable (s : ApiSpec) (group : Group) (r : Route)

/-- The package of the types ends like no other that a file imports. -/
theorem types_ne {package : String} (h : package.toList.getLast? ≠ some 's') :
    joinPackage s.module_ Layout.types ≠ package := by
  rintro rfl
  obtain ⟨front, hfront⟩ := exists_joinPackage s.module_
  rw [hfront Layout.types (by decide)] at h
  have hlast : (trimWhere (· == '/') (trim Layout.types)).toList.getLast? = some 's' := by decide
  exact h (by rw [String.toList_append, List.getLast?_append, hlast, Option.some_or])

theorem types_ne_dependencies :
    joinPackage s.module_ Layout.types ≠ joinPackage s.module_ Layout.dependencies := by
  obtain ⟨front, hfront⟩ := exists_joinPackage s.module_
  rw [hfront Layout.types (by decide), hfront Layout.dependencies (by decide), ne_eq,
    String.append_right_inj]
  decide

/-- No annotation moves the logic of a route into a directory that starts in another way. -/
theorem ne_logicFolder {dir : String} (hdir : trimWhere (· == '/') (trim dir) ≠ "")
    (hstart : (trimWhere (· == '/') (trim dir)).toList.take 14 ≠ Layout.logic.toList) :
    joinPackage s.module_ dir ≠ joinPackage s.module_ (group.logicFolder r) := by
  obtain ⟨rest, hrest⟩ := Annotations.exists_folder Layout.logic (group.chain r)
  obtain ⟨rest', htrimmed⟩ : ∃ rest',
      trimWhere (· == '/') (trim (Layout.logic ++ rest)) = Layout.logic ++ rest' :=
    exists_trimmed_append ⟨'i', by decide, by decide, by decide⟩
      ⟨'c', by decide, by decide, by decide⟩ rest
  have hfolder : trimWhere (· == '/') (trim (group.logicFolder r)) = Layout.logic ++ rest' := by
    rw [Group.logicFolder, hrest, htrimmed]
  have hlogic : (Layout.logic ++ rest').toList.take 14 = Layout.logic.toList := by
    rw [String.toList_append, List.take_append_of_le_length (by decide)]
    decide
  obtain ⟨front, hfront⟩ := exists_joinPackage s.module_
  rw [hfront dir hdir, hfront (group.logicFolder r), hfolder, ne_eq, String.append_right_inj]
  · exact fun h => hstart (h ▸ hlogic)
  · rw [hfolder]
    exact fun h => absurd (String.append_eq_empty_iff.mp h).1 (by decide)

theorem types_ne_logicFolder :
    joinPackage s.module_ Layout.types ≠ joinPackage s.module_ (group.logicFolder r) :=
  s.ne_logicFolder group r (by decide) (by decide)

theorem dependencies_ne_logicFolder :
    joinPackage s.module_ Layout.dependencies ≠ joinPackage s.module_ (group.logicFolder r) :=
  s.ne_logicFolder group r (by decide) (by decide)

theorem mem_handlerImports (gate : VersionGate) :
    joinPackage s.module_ Layout.types ∈ (s.handlerImports gate group r).paths ↔
      r.requestTitle?.isSome = true := by
  have hhttpx : joinPackage s.module_ Layout.types ≠ HttpService.httpxImport :=
    s.types_ne (by decide)
  unfold handlerImports
  rw [ImportSet.mem_ofList]
  cases r.requestTitle?.isSome <;> cases gate.httpxInTemplate <;>
    simp [s.types_ne_logicFolder group r, s.types_ne_dependencies, hhttpx]

theorem mem_logicImports :
    joinPackage s.module_ Layout.types ∈ (s.logicImports r).paths ↔
      r.requestTitle?.isSome = true ∨ r.responseTitle?.isSome = true := by
  have hcontext : joinPackage s.module_ Layout.types ≠ "context" := s.types_ne (by decide)
  have hlogx : joinPackage s.module_ Layout.types ≠ HttpService.logxImport :=
    s.types_ne (by decide)
  unfold logicImports
  rw [ImportSet.mem_ofList]
  cases r.requestTitle?.isSome <;> cases r.responseTitle?.isSome <;>
    simp [hcontext, hlogx, s.types_ne_dependencies]

end ApiSpec

/-! ## Requests and responses -/

/-- The parameter of the logic function is there exactly when the handler reads one. -/
theorem Route.request_agrees (r : Route) {parameter : String}
    (h : parameter = (r.requestTitle?.map fun request =>
      "req " ++ HttpService.typesPackage ++ "." ++ request).getD "") :
    (r.requestTitle?.isSome = true ↔ parameter ≠ "") ∧
      (r.requestTitle?.isSome = true → parameter = "req types." ++ r.requestTitle?.getD "") := by
  subst h
  cases r.requestTitle? with
  | none => simp
  | some type => exact ⟨by simp, fun _ => rfl⟩

/-- The results of the logic function are two exactly when the handler expects a response. -/
theorem Route.response_agrees (r : Route) :
    (r.responseTitle?.isSome = true ↔ GivesPointer (ApiSpec.logicResults r).1) ∧
      (r.responseTitle?.isSome = true ↔ ReturnsTwo (ApiSpec.logicResults r).2) ∧
      (r.responseTitle?.isSome = true → ∃ type,
        (ApiSpec.logicResults r).1 = "(*types." ++ type ++ ", error)" ∧
          (ApiSpec.logicResults r).2 = "return &types." ++ type ++ "\x7b\x7d, nil") := by
  unfold ApiSpec.logicResults
  cases r.responseTitle? with
  | none => simp [not_givesPointer_error, not_returnsTwo_nil]
  | some type =>
      have hresults : GivesPointer ("(*types." ++ type ++ ", error)") :=
        ⟨"types." ++ type, String.toList_inj.mp (by simp)⟩
      have hreturned : ReturnsTwo ("return &types." ++ type ++ "\x7b\x7d, nil") :=
        ⟨"&types." ++ type ++ "\x7b\x7d", "nil", String.toList_inj.mp (by simp)⟩
      exact ⟨iff_of_true rfl hresults, iff_of_true rfl hreturned, fun _ => ⟨type, rfl, rfl⟩⟩

/-! ## The builtin templates of the pair -/

/-- A name that a text holds once, right behind a given text. -/
def NamedOnceBehind (name front text : String) : Prop :=
  ∃ before after, cut name text = some (before, after) ∧ endsWith front before = true ∧
    contains name after = false

theorem namedOnceBehind_of_chars {name front text : String}
    (h : ((cutAt name.toList text.toList).any fun (before, after) =>
      (stripPrefixChars front.toList.reverse before.reverse).isSome &&
        (cutAt name.toList after).isNone) = true) : NamedOnceBehind name front text := by
  obtain ⟨⟨before, after⟩, hcut, hsides⟩ := Option.any_eq_true _ _ |>.mp h
  simp only [Bool.and_eq_true, Option.isNone_iff_eq_none] at hsides
  refine ⟨String.ofList before, String.ofList after, ?_, ?_, ?_⟩
  · rw [cut, hcut]
    rfl
  · rw [endsWith, String.toList_ofList]
    exact hsides.1
  · rw [contains, String.toList_ofList, hsides.2]
    rfl

/-- The builtin handler names the package of the types for its request only. -/
theorem namedOnceBehind_handler : NamedOnceBehind "types."
    "\x7b% if has_request %\x7d\t\tvar req " BuiltinText.apiHandler := by
  apply namedOnceBehind_of_chars
  apply BuiltinText.Spelled.read fun cs => (cutAt "types.".toList cs).any fun (before, after) =>
    (stripPrefixChars "\x7b% if has_request %\x7d\t\tvar req ".toList.reverse
      before.reverse).isSome && (cutAt "types.".toList after).isNone
  · repeat
      apply BuiltinText.Spelled.cons
      · exact rfl
    exact BuiltinText.Spelled.nil
  · decide +kernel

/-- The builtin logic names it nowhere. -/
theorem contains_logic : contains "types." BuiltinText.apiLogic = false := by
  have hnone : (cutAt "types.".toList BuiltinText.apiLogic.toList).isNone = true := by
    apply BuiltinText.Spelled.read fun cs => (cutAt "types.".toList cs).isNone
    · repeat
        apply BuiltinText.Spelled.cons
        · exact rfl
      exact BuiltinText.Spelled.nil
    · decide +kernel
  rw [contains, Option.isNone_iff_eq_none.mp hnone]
  rfl

/-! ## The pair of a route -/

namespace ApiSpec

variable {s : ApiSpec} {group : Group} {r : Route} {base : String}

theorem paired_targets (gen : Generator) {handlerPath logicPath : Path}
    (hhandler : (s.handlerTarget gen group r base).relativePath = .ok handlerPath)
    (hlogic : (s.logicTarget gen group r base).relativePath = .ok logicPath) :
    Paired (joinPackage s.module_ Layout.types) (s.handlerTarget gen group r base)
      (s.logicTarget gen group r base) handlerPath logicPath := by
  have handlerSays : ∀ key, (s.handlerTarget gen group r base).context.get? key = _ :=
    Context.get?_ofList (by simp)
  have logicSays : ∀ key, (s.logicTarget gen group r base).context.get? key = _ :=
    Context.get?_ofList (by simp)
  have hhandlerDir : group.handlerFolder r ≠ "" ∧
      (group.handlerFolder r).toList.getLast? ≠ some '/' :=
    ⟨Annotations.folder_ne_empty (by decide) _, Annotations.getLast?_folder (by decide) _⟩
  have hlogicDir : group.logicFolder r ≠ "" ∧
      (group.logicFolder r).toList.getLast? ≠ some '/' :=
    ⟨Annotations.folder_ne_empty (by decide) _, Annotations.getLast?_folder (by decide) _⟩
  obtain ⟨handlerDirs, hhandlerPath⟩ :=
    Target.components_of_package hhandler hhandlerDir.1 hhandlerDir.2
  obtain ⟨logicDirs, hlogicPath⟩ :=
    Target.components_of_package hlogic hlogicDir.1 hlogicDir.2
  have hrequest := r.request_agrees rfl
  have hresponse := r.response_agrees
  have hpresent : r.responseTitle?.isSome = r.responseTypeName?.isSome := Option.isSome_map
  have hrequestSays : (s.logicTarget gen group r base).context.get? "request" =
      some (.text _) := logicSays _
  have hstatementSays : (s.logicTarget gen group r base).context.get? "return_string" =
      some (.text _) := logicSays _
  have hflagSays : (s.handlerTarget gen group r base).context.get? "has_request" =
      some (.bool r.requestTitle?.isSome) := handlerSays _
  exact {
    logicPackage := ⟨_, logicDirs, (Layout.packageOf_eq hlogicDir.1 hlogicDir.2).1,
      handlerSays _, logicSays _, hlogicPath⟩
    handlerPackage := ⟨_, handlerDirs, (Layout.packageOf_eq hhandlerDir.1 hhandlerDir.2).1,
      handlerSays _, hhandlerPath⟩
    logicType := ⟨_, handlerSays _, logicSays _⟩
    function := ⟨_, handlerSays _, logicSays _⟩
    request := ⟨_, _, _, hflagSays, handlerSays _, hrequestSays, hrequest⟩
    response := ⟨_, _, _, handlerSays _, logicSays _, hstatementSays, hpresent ▸ hresponse⟩
    handlerTypes := by
      rw [Target.imports_iff (handlerSays "imports"), mem_handlerImports, hflagSays]
      simp
    logicTypes := by
      rw [Target.imports_iff (logicSays "imports"), mem_logicImports, hrequest.1, hresponse.2.1,
        hrequestSays, hstatementSays]
      simp }

/-- Both files of a route with a usable handler name are planned, and wherever their
paths are accepted they agree. The builtin templates name the package of the types
in one place, for the request of a handler; what else is said of types is in the
contexts. -/
theorem routeTargets_paired (s : ApiSpec) (gen : Generator) (group : Group) (r : Route)
    {base : String} (hbase : r.baseName = .ok base) :
    ∃ handler logic, s.routeTargets gen group r = .ok [handler, logic] ∧
      (∀ handlerPath logicPath, handler.relativePath = .ok handlerPath →
        logic.relativePath = .ok logicPath →
        Paired (joinPackage s.module_ Layout.types) handler logic handlerPath logicPath) ∧
      (∃ text, handler.template.builtinText? = some text ∧
        NamedOnceBehind "types." "\x7b% if has_request %\x7d\t\tvar req " text) ∧
      ∃ text, logic.template.builtinText? = some text ∧ contains "types." text = false := by
  refine ⟨s.handlerTarget gen group r base, s.logicTarget gen group r base, ?_, ?_, ?_, ?_⟩
  · rw [routeTargets, hbase]
    rfl
  · intro handlerPath logicPath hhandler hlogic
    exact paired_targets gen hhandler hlogic
  · exact ⟨_, rfl, namedOnceBehind_handler⟩
  · exact ⟨_, rfl, contains_logic⟩

/-! ## A route in a folder of its own -/

def login : Route := ⟨"post", "/login", "loginHandler", some " loginReq ", some "token", .empty⟩

/-- A group below the folder `admin`, with blanks, quotes and slashes to spare. -/
def admins : Group := ⟨SortedMap.ofList [("group", " \"/admin//user/\" ")], [login]⟩

def portal : ApiSpec := ⟨"example.com/portal", ⟨"portal", .empty, [admins]⟩⟩

theorem routeTargets_paired_login : login.baseName = .ok "Login" ∧
    ∃ handler logic, portal.routeTargets Generator.plain admins login = .ok [handler, logic] ∧
      Paired "example.com/portal/internal/types" handler logic
        ⟨"internal/handler/admin/user/loginhandler.go"⟩
        ⟨"internal/logic/admin/user/loginlogic.go"⟩ := by
  have hbase : login.baseName = .ok "Login" := by decide
  obtain ⟨handler, logic, htargets, hpaired, -⟩ :=
    portal.routeTargets_paired Generator.plain admins login hbase
  have hplanned : portal.routeTargets Generator.plain admins login =
      .ok [portal.handlerTarget Generator.plain admins login "Login",
        portal.logicTarget Generator.plain admins login "Login"] := by
    rw [routeTargets, hbase]
    rfl
  obtain ⟨rfl, hrest⟩ := List.cons.inj (Except.ok.inj (htargets.symm.trans hplanned))
  obtain ⟨rfl, -⟩ := List.cons.inj hrest
  refine ⟨hbase, _, _, hplanned, ?_⟩
  have htypes : joinPackage portal.module_ Layout.types = "example.com/portal/internal/types" := by
    decide
  rw [← htypes]
  exact hpaired _ _ (by decide) (by decide)

end ApiSpec

end Scaffold
