import Scaffold.Proofs.Catalog.Initialization
import Scaffold.Proofs.Generation.Noninterference
import Scaffold.Proofs.Generation.Quotes
import Scaffold.Proofs.Template.ImportLists

/-!
# Import blocks of handlers

A handler imports the package of requests, its own logic, its dependencies, the types of
its module if it takes a request, and the response helpers. The helpers come from the template
above a certain version and from the list of imports otherwise, and never from both.
Nothing is imported twice, whatever the module and the folders are called, as long as their
names can stand between quotes.
-/

namespace Scaffold

open Text Template BuiltinText

/-! ## Names that can stand between quotes -/

theorem Quotable.joinPackage {module_ dir : String} (hmodule : Quotable module_)
    (hdir : Quotable dir) : Quotable (joinPackage module_ dir) := by
  have hroot : Quotable (trimEndWhere (· == '/') (trim module_)) :=
    hmodule.of_subset (List.Subset.trans (trimEndWhere_subset _ _) (trimWhere_subset isBlank _))
  have hbelow : Quotable (trimWhere (· == '/') (trim dir)) :=
    hdir.of_subset (List.Subset.trans (trimWhere_subset _ _) (trimWhere_subset isBlank _))
  unfold Scaffold.joinPackage
  dsimp only
  split
  · exact hbelow
  · split
    · exact hroot
    · exact (hroot.append ⟨by decide, by decide⟩).append hbelow

theorem Quotable.packageOf {dir : String} (h : Quotable dir) : Quotable (Layout.packageOf dir) := by
  unfold Layout.packageOf
  cases hlast : (splitOn '/' dir).getLast? with
  | none => exact h
  | some piece =>
      obtain ⟨cs, hcs, rfl⟩ := List.mem_map.mp (List.mem_of_getLast? hlast)
      refine h.of_subset ?_
      rw [Option.getD_some, String.toList_ofList]
      exact subset_of_mem_splitCharsWhere hcs

namespace Annotations

theorem quotable_folder {default : String} {chain : List Annotations} (hdefault : Quotable default)
    (h : ∀ a ∈ chain, ∀ text, a.get? groupKey = some text → Quotable text) :
    Quotable (folder default chain) := by
  unfold folder
  cases hfound : lookup groupKey chain with
  | none => exact hdefault
  | some value =>
      obtain ⟨text, htext, rfl⟩ := List.mem_map.mp (List.mem_of_find?_eq_some hfound)
      obtain ⟨a, ha, htext⟩ := List.mem_filterMap.mp htext
      have hname : Quotable (trimWhere (· == '/') (unquote text)) :=
        (h a ha text htext).of_subset
          (List.Subset.trans (trimWhere_subset _ _) (unquote_subset text))
      rw [Option.map_some]
      dsimp only
      split
      · exact hdefault
      · exact (hdefault.append ⟨by decide, by decide⟩).append hname

end Annotations

namespace ApiSpec

variable {s : ApiSpec} {group : Group} {r : Route}

theorem quotable_ownImports (hmodule : Quotable s.module_)
    (hannotations : ∀ a ∈ group.chain r, ∀ text, a.get? Annotations.groupKey = some text →
      Quotable text) : ∀ path ∈ s.ownImports group r, Quotable path := by
  have hlogic : Quotable (joinPackage s.module_ (group.logicFolder r)) :=
    hmodule.joinPackage (Annotations.quotable_folder ⟨by decide, by decide⟩ hannotations)
  have hdependencies : Quotable (joinPackage s.module_ Layout.dependencies) :=
    hmodule.joinPackage ⟨by decide, by decide⟩
  have htypes : Quotable (joinPackage s.module_ Layout.types) :=
    hmodule.joinPackage ⟨by decide, by decide⟩
  unfold ownImports
  cases r.requestTitle?.isSome with
  | true => simp [hlogic, hdependencies, htypes]
  | false => simp [hlogic, hdependencies]

/-! ## The block of a handler -/

/-- The package of requests and responses. -/
def httpImport : String := "net/http"

/-- What stands around the list of imports in the builtin handler. -/
def handlerFrame (gated : Bool) : ImportFrame where
  front := literalOutline "package " ++ [.value "pkg_name"] ++
    literalOutline "\n\nimport (\n\t\"net/http\"\n\n" ++
      if gated then literalOutline "\t\"github.com/zeromicro/go-zero/rest/httpx\"\n" else []
  back := literalOutline ")\n\n// "
  isWhole := false

set_option maxRecDepth 4000 in
theorem importFrame?_apiHandler (gated : Bool) :
    importFrame? [("after_1_1_10", gated)] 4 1 apiHandler.toList = some (handlerFrame gated) := by
  apply Spelled.read (importFrame? [("after_1_1_10", gated)] 4 1)
  · repeat
      apply Spelled.cons
      · exact rfl
    exact Spelled.nil
  · cases gated <;> decide +kernel

/-- The lines of an import block in a handler, with some paths from its list. -/
def handlerBlock (gated : Bool) (listed : List String) : List String :=
  importLine httpImport :: "" ::
    ((if gated then [HttpService.httpxImport] else []) ++ listed).map importLine

/-- The frame of a handler is the lines around its block. -/
theorem handlerFrame_seen (gated : Bool) (listed : List String) {view : View} {package : String}
    (hpackage : view "pkg_name" = .text package) (rest : List Char) :
    (handlerFrame gated).front.seen view ++ ((ofLines (listed.map importLine)).toList ++
        ((handlerFrame gated).back.seen view ++ rest)) =
      (ofLines (["package " ++ package, ""] ++
        "import (" :: (handlerBlock gated listed ++ [")"]))).toList ++ ("\n// ".toList ++ rest) := by
  cases gated <;>
    simp [handlerFrame, handlerBlock, toList_ofLines_append, toList_ofLines_cons, hpackage,
      Value.print, httpImport, HttpService.httpxImport, importLine]

theorem quotable_handlerPaths (gated : Bool) {listed : List String}
    (hlisted : ∀ path ∈ listed, Quotable path) :
    ∀ path ∈ (if gated then [HttpService.httpxImport] else []) ++ listed, Quotable path := by
  refine List.forall_mem_append.mpr ⟨?_, hlisted⟩
  cases gated with
  | true => exact List.forall_mem_singleton.mpr ⟨by decide, by decide⟩
  | false => exact List.forall_mem_nil _

theorem importBlock_handler {gated : Bool} {listed : List String} {package : String}
    (hpackage : Quotable package) (hlisted : ∀ path ∈ listed, Quotable path) (rest : List Char) :
    importBlock (String.ofList ((ofLines (["package " ++ package, ""] ++
      "import (" :: (handlerBlock gated listed ++ [")"]))).toList ++ rest)) =
        handlerBlock gated listed := by
  -- the name of the package is the only text in front of the block that is not fixed
  refine importBlock_ofLines rest ?_ ?_ ?_
  · rw [List.forall_mem_append, handlerBlock]
    refine ⟨?_, List.forall_mem_cons.mpr ⟨newline_not_mem_importLine (by decide),
      List.forall_mem_cons.mpr ⟨by decide, List.forall_mem_map.mpr fun path hpath =>
        newline_not_mem_importLine (quotable_handlerPaths gated hlisted path hpath).unbroken⟩⟩⟩
    simp [hpackage.unbroken]
  · have hhead : "package " ++ package ≠ "import (" := by
      intro h
      have hfirst := congrArg (·.toList.head?) h
      simp at hfirst
    simp [hhead]
  · rw [handlerBlock]
    exact List.forall_mem_cons.mpr ⟨(importLine_ne _).2, List.forall_mem_cons.mpr
      ⟨by decide, List.forall_mem_map.mpr fun path _ => (importLine_ne path).2⟩⟩

theorem importedPaths_handlerBlock (gated : Bool) {listed : List String}
    (hlisted : ∀ path ∈ listed, Quotable path) :
    (handlerBlock gated listed).filterMap importOf? =
      httpImport :: ((if gated then [HttpService.httpxImport] else []) ++ listed) := by
  have hempty : importOf? "" = none := by decide
  rw [handlerBlock, List.filterMap_cons, importOf?_importLine (by decide), List.filterMap_cons,
    hempty, filterMap_importLine (quotable_handlerPaths gated hlisted)]

/-- The imports of a file that is the handler of a route under a gate. -/
structure ExactImports (s : ApiSpec) (group : Group) (r : Route) (gate : VersionGate)
    (handler : Target) (file : String) : Prop where
  /-- The block lists requests, the helpers if the gate is above 1.1.10, and then the list of
  the handler. -/
  block : ∃ set : ImportSet, handler.context.get? "imports" = some (.texts set.quoted) ∧
    importBlock file =
      handlerBlock (Version.isGreater gate.current "1.1.10") set.paths
  distinct : (importedPaths file).Nodup
  helpersOnce : (importedPaths file).count HttpService.httpxImport = 1
  helpersListed : handler.Imports HttpService.httpxImport ↔
    Version.isGreater gate.current "1.1.10" = false
  others : (importedPaths file).filter
    (fun path => path != httpImport && path != HttpService.httpxImport) = s.ownImports group r

/-- The helpers stand at the start or at the end of what a handler imports, and once. -/
theorem helpers_once {own : List String} (gated : Bool) (hown : own.Nodup)
    (hhttp : ∀ path ∈ own, path ≠ httpImport)
    (hhttpx : ∀ path ∈ own, path ≠ HttpService.httpxImport) {paths : List String}
    (hpaths : paths = httpImport :: ((if gated then [HttpService.httpxImport] else []) ++
      (own ++ if gated then [] else [HttpService.httpxImport]))) :
    paths.Nodup ∧ paths.count HttpService.httpxImport = 1 ∧
      paths.filter (fun path => path != httpImport && path != HttpService.httpxImport) = own := by
  have hapart : httpImport ≠ HttpService.httpxImport := by decide
  have hnone : own.count HttpService.httpxImport = 0 :=
    List.count_eq_zero.mpr fun hmem => hhttpx _ hmem rfl
  have hkept : own.filter (fun path => path != httpImport && path != HttpService.httpxImport) =
      own := List.filter_eq_self.mpr fun path hpath => by simp [hhttp path hpath, hhttpx path hpath]
  have hout : httpImport ∉ own := fun hmem => hhttp _ hmem rfl
  have hout' : HttpService.httpxImport ∉ own := fun hmem => hhttpx _ hmem rfl
  subst hpaths
  -- the helpers come second if the template has them, and last if the list has them
  cases gated with
  | true =>
      exact ⟨by simp [hapart, hown, hout, hout'], by simp [hapart, hnone], by simp [hkept]⟩
  | false =>
      simp only [Bool.false_eq_true, if_false, List.nil_append]
      refine ⟨?_, by simp [hapart, hnone], by simp [hkept]⟩
      have hlast : (own ++ [HttpService.httpxImport]).Nodup :=
        List.nodup_append.mpr ⟨hown, by simp, fun path hpath other hother =>
          List.mem_singleton.mp hother ▸ hhttpx path hpath⟩
      exact List.nodup_cons.mpr ⟨by simp [hapart, hout], hlast⟩

/-- The first lines of a handler, up to the end of its import block. -/
theorem exists_handlerText (group : Group) (r : Route) (base : String) {g : Generator} {d : Disk}
    (htext : g.repository.textOf d ⟨.api, "handler.tpl"⟩ = .ok apiHandler) :
    ∃ file, g.content (s.handlerTarget g group r base) d = .ok file ∧ ∃ rest : List Char,
      file = String.ofList ((ofLines (["package " ++ Layout.packageOf (group.handlerFolder r), ""] ++
        "import (" :: (handlerBlock g.gate.httpxInTemplate
          (s.handlerImports g.gate group r).paths ++ [")"]))).toList ++ rest) := by
  have hvalues : ∀ key, (s.handlerTarget g group r base).context.get? key = _ :=
    Context.get?_ofList (by simp)
  have himports : (s.handlerTarget g group r base).context.get? "imports" =
      some (.texts (s.handlerImports g.gate group r).quoted) := hvalues _
  have hmet := (Specification.Offers.handler s group r base : Specification.Offers g _ _).met
  have htruth : (((s.handlerTarget g group r base).context.values.get? "after_1_1_10").getD
      .null).isTruthy = g.gate.httpxInTemplate := by
    rw [Context.get?_values, hvalues]
    rfl
  have hpackage : View.ofContext (s.handlerTarget g group r base).context.values "pkg_name" =
      .text (Layout.packageOf (group.handlerFolder r)) := by
    rw [View.ofContext, Context.get?_values, hvalues]
    rfl
  obtain ⟨rest, -, hcontent⟩ := Generator.content_of_frame (t := s.handlerTarget g group r base)
    htext rfl (importFrame?_apiHandler g.gate.httpxInTemplate) hmet
    (List.forall_mem_singleton.mpr htruth) himports
  rw [handlerFrame_seen _ _ hpackage] at hcontent
  exact ⟨_, hcontent, _, rfl⟩

/-- Under every gate, well-formed or not, the import block of a handler from the builtin template
lists no path twice. It has the response helpers once, from the template if the gate is above
1.1.10 and else from the list of the handler, and apart from them and the package of requests
it has the packages of its own module that the route asks for, in their order. -/
theorem handler_imports_once (s : ApiSpec) (g : Generator) (d : Disk) (group : Group) (r : Route)
    {base : String} (hbase : r.baseName = .ok base)
    (htext : g.repository.textOf d ⟨.api, "handler.tpl"⟩ = .ok apiHandler)
    (hmodule : Quotable s.module_)
    (hannotations : ∀ a ∈ group.chain r, ∀ text, a.get? Annotations.groupKey = some text →
      Quotable text) :
    ∃ handler logic file, s.routeTargets g group r = .ok [handler, logic] ∧
      g.content handler d = .ok file ∧ s.ExactImports group r g.gate handler file := by
  have hplanned : s.routeTargets g group r =
      .ok [s.handlerTarget g group r base, s.logicTarget g group r base] := by
    rw [routeTargets, hbase]
    rfl
  have himports : (s.handlerTarget g group r base).context.get? "imports" =
      some (.texts (s.handlerImports g.gate group r).quoted) := Context.get?_ofList (by simp) _
  have hlisted : ∀ path ∈ (s.handlerImports g.gate group r).paths, Quotable path := by
    rw [s.paths_handlerImports]
    refine List.forall_mem_append.mpr ⟨quotable_ownImports hmodule hannotations, ?_⟩
    cases g.gate.httpxInTemplate with
    | true => exact List.forall_mem_nil _
    | false => exact List.forall_mem_singleton.mpr ⟨by decide, by decide⟩
  have hfolder : Quotable (group.handlerFolder r) :=
    Annotations.quotable_folder ⟨by decide, by decide⟩ hannotations
  obtain ⟨file, hcontent, rest, hfile⟩ := s.exists_handlerText group r base htext
  have hblock : importBlock file =
      handlerBlock g.gate.httpxInTemplate (s.handlerImports g.gate group r).paths := by
    rw [hfile]
    exact importBlock_handler hfolder.packageOf hlisted rest
  have hpaths : importedPaths file =
      httpImport :: ((if g.gate.httpxInTemplate then [HttpService.httpxImport] else []) ++
        (s.handlerImports g.gate group r).paths) := by
    rw [importedPaths, hblock, importedPaths_handlerBlock _ hlisted]
  rw [s.paths_handlerImports] at hpaths
  obtain ⟨hdistinct, honce, hothers⟩ := helpers_once _ (s.nodup_ownImports group r)
    (s.ownImports_ne group r (by decide)) (s.ownImports_ne group r (by decide)) hpaths
  have hgate : g.gate.httpxInTemplate = Version.isGreater g.gate.current "1.1.10" := rfl
  have hnot : HttpService.httpxImport ∉ s.ownImports group r := fun hmem =>
    s.ownImports_ne group r (by decide) _ hmem rfl
  -- nothing else in the list is the package of the helpers, so the gate alone decides
  have hsource : (s.handlerTarget g group r base).Imports HttpService.httpxImport ↔
      g.gate.httpxInTemplate = false := by
    rw [Target.imports_iff himports, s.paths_handlerImports, List.mem_append]
    cases g.gate.httpxInTemplate <;> simp [hnot]
  rw [hgate] at hblock hsource
  exact ⟨_, _, file, hplanned, hcontent, ⟨_, himports, hblock⟩, hdistinct, honce, hsource, hothers⟩

/-- A group with a folder of its own. -/
def operators : Group := ⟨SortedMap.ofList [("group", "/operators")], [login]⟩

/-- The imports of a route are exact under the version of the tool and under none. -/
theorem handler_imports_once_operators :
    portal.ownImports operators login = ["example.com/portal/internal/logic/operators",
        "example.com/portal/internal/svc", "example.com/portal/internal/types"] ∧
      ∀ version ∈ ["1.2.0", "next"], ∃ handler logic file,
        portal.routeTargets { Generator.plain with gate := ⟨version⟩ } operators login =
            .ok [handler, logic] ∧
          Generator.content { Generator.plain with gate := ⟨version⟩ } handler {} = .ok file ∧
          portal.ExactImports operators login ⟨version⟩ handler file := by
  refine ⟨by decide, fun version _ => ?_⟩
  have hannotations : ∀ a ∈ operators.chain login, ∀ text,
      a.get? Annotations.groupKey = some text → Quotable text := by
    refine List.forall_mem_cons.mpr ⟨nofun, List.forall_mem_singleton.mpr fun text htext => ?_⟩
    obtain rfl := Option.some.inj htext
    exact ⟨by decide, by decide⟩
  have hbase : login.baseName = .ok "Login" := by decide
  have htext : Generator.plain.repository.textOf {} ⟨.api, "handler.tpl"⟩ = .ok apiHandler :=
    Repository.textOf_of_builtin (by decide) rfl
  exact handler_imports_once portal { Generator.plain with gate := ⟨version⟩ } {} operators login
    hbase htext ⟨by decide, by decide⟩ hannotations

end ApiSpec

end Scaffold
