import Mathlib.Data.List.Induction
import Scaffold.Proofs.Generation.Saving
import Scaffold.Proofs.Generation.Pairing
import Scaffold.Proofs.Generation.Supplies

/-!
# What the style and the gate change

Two generators with one repository plan in step: their plans of a specification
fail alike or consist of the same targets, each made with the settings of its own
generator. Hence the style shows in the names of files and nowhere else, and the
gate in two variables of the handlers.
-/

namespace Scaffold

open Scaffold.Action Scaffold.Text

/-! ## Two actions in step -/

section Coupling

variable {α β γ δ : Type} {R : α → β → Prop} {S : γ → δ → Prop} {d : Disk}

/-- Two outcomes: the same error, or related results. -/
inductive Matched (R : α → β → Prop) : Except Error α → Except Error β → Prop
  | error (e : Error) : Matched R (.error e) (.error e)
  | ok {x : α} {y : β} (h : R x y) : Matched R (.ok x) (.ok y)

theorem matched_refl (x : Except Error α) : Matched Eq x x := by
  cases x with
  | error e => exact .error e
  | ok a => exact .ok rfl

theorem Matched.bind {x : Except Error α} {y : Except Error β} (h : Matched R x y)
    {f : α → Except Error γ} {k : β → Except Error δ}
    (hfk : ∀ a b, R a b → Matched S (f a) (k b)) : Matched S (x >>= f) (y >>= k) := by
  cases h with
  | error e => exact .error e
  | ok hab => exact hfk _ _ hab

theorem Matched.map {x : Except Error α} {y : Except Error β} (h : Matched R x y) {f : α → γ}
    {k : β → δ} (hfk : ∀ a b, R a b → S (f a) (k b)) : Matched S (x.map f) (y.map k) := by
  cases h with
  | error e => exact .error e
  | ok hab => exact .ok (hfk _ _ hab)

/-- Lists are mapped to the error of the same member, or to lists related throughout. -/
theorem matched_mapM {f : γ → Except Error α} {k : γ → Except Error β}
    (h : ∀ z, Matched R (f z) (k z)) (zs : List γ) :
    Matched (List.Forall₂ R) (zs.mapM f) (zs.mapM k) := by
  induction zs with
  | nil => exact .ok .nil
  | cons z zs ih =>
      rw [List.mapM_cons, List.mapM_cons]
      exact (h z).bind fun x y hxy => ih.bind fun xs ys hxs => .ok (.cons hxy hxs)

/-- Two actions that leave a disk as it is, with outcomes that match. -/
def Coupled (R : α → β → Prop) (d : Disk) (a : Action α) (b : Action β) : Prop :=
  ∃ x y, a.runOn d = (x, d) ∧ b.runOn d = (y, d) ∧ Matched R x y

theorem coupled_pure {x : α} {y : β} (h : R x y) : Coupled R d (pure x) (pure y) :=
  ⟨.ok x, .ok y, rfl, rfl, .ok h⟩

theorem Coupled.imp {R' : α → β → Prop} {a : Action α} {b : Action β} (h : Coupled R d a b)
    (himp : ∀ x y, R x y → R' x y) : Coupled R' d a b := by
  obtain ⟨x, y, ha, hb, hxy⟩ := h
  refine ⟨x, y, ha, hb, ?_⟩
  cases hxy with
  | error e => exact .error e
  | ok hxy => exact .ok (himp _ _ hxy)

theorem coupled_throw (e : Error) : Coupled R d (throw e) (throw e) :=
  ⟨.error e, .error e, rfl, rfl, .error e⟩

theorem coupled_ofExcept {x : Except Error α} {y : Except Error β} (h : Matched R x y) :
    Coupled R d (Action.ofExcept x) (Action.ofExcept y) := ⟨x, y, rfl, rfl, h⟩

theorem coupled_same {a : Action α} (h : Reads a) (d : Disk) : Coupled Eq d a a :=
  ⟨(a.runOn d).1, (a.runOn d).1, h.runOn_eq d, h.runOn_eq d, matched_refl _⟩

theorem coupled_bind {a : Action α} {b : Action β} {f : α → Action γ} {k : β → Action δ}
    (h : Coupled R d a b) (hk : ∀ x y, R x y → Coupled S d (f x) (k y)) :
    Coupled S d (a >>= f) (b >>= k) := by
  obtain ⟨x, y, ha, hb, hxy⟩ := h
  cases hxy with
  | error e =>
      exact ⟨.error e, .error e, runOn_bind_of_error ha, runOn_bind_of_error hb, .error e⟩
  | ok hxy =>
      obtain ⟨z, w, hz, hw, hzw⟩ := hk _ _ hxy
      exact ⟨z, w, (runOn_bind_of_ok ha).trans hz, (runOn_bind_of_ok hb).trans hw, hzw⟩

/-- A first step that both share, then one result more for the same rest. -/
theorem coupled_cons {source : Action γ} {f : γ → α} {k : γ → β} {a : Action (List α)}
    {b : Action (List β)} (hsource : Reads source) (h : ∀ z, R (f z) (k z))
    (hrest : Coupled (List.Forall₂ R) d a b) :
    Coupled (List.Forall₂ R) d
      (do let x ← (do let z ← source; return f z); return x :: (← a))
      (do let y ← (do let z ← source; return k z); return y :: (← b)) := by
  refine coupled_bind (R := R) ?_ fun x y hxy => ?_
  · refine coupled_bind (coupled_same hsource d) fun z z' hz => ?_
    subst hz
    exact coupled_pure (h z)
  · exact coupled_bind hrest fun xs ys hxs => coupled_pure (.cons hxy hxs)

end Coupling

/-! ## Two plans in step -/

/-- What two generators make of the same part of a specification. -/
inductive Specification.Counterparts (g g' : Generator) : Specification → Target → Target → Prop
  | handler (s : ApiSpec) (group : Group) (r : Route) (base : String) :
      Counterparts g g' (.api s) (s.handlerTarget g group r base)
        (s.handlerTarget g' group r base)
  | apiLogic (s : ApiSpec) (group : Group) (r : Route) (base : String) :
      Counterparts g g' (.api s) (s.logicTarget g group r base) (s.logicTarget g' group r base)
  | rpcLogic (s : RpcSpec) (m : RpcMethod) (functions : String) :
      Counterparts g g' (.rpc s) (s.logicTarget g m functions) (s.logicTarget g' m functions)
  | settings (s : RpcSpec) :
      Counterparts g g' (.rpc s) (s.settingsTarget g) (s.settingsTarget g')
  | table (s : ModelSpec) (t : Table) (imports : String) :
      Counterparts g g' (.model s) (s.tableTarget g t imports) (s.tableTarget g' t imports)
  | vars (s : ModelSpec) :
      Counterparts g g' (.model s) (s.variablesTarget g) (s.variablesTarget g')
  | type (s : MongoSpec) (typeName : String) :
      Counterparts g g' (.mongo s) (s.typeTarget g typeName) (s.typeTarget g' typeName)
  | errors (s : MongoSpec) :
      Counterparts g g' (.mongo s) (MongoSpec.errorsTarget g) (MongoSpec.errorsTarget g')
  | image (s : ManifestSpec) : Counterparts g g' (.manifest s) s.imageTarget s.imageTarget
  | deployment (s : ManifestSpec) :
      Counterparts g g' (.manifest s) (s.deploymentTarget g) (s.deploymentTarget g')

section Plans

variable {g g' : Generator}

/-- Generators with one repository and the same tools. -/
structure Generator.Shares (g g' : Generator) : Prop where
  repository : g'.repository = g.repository
  tools : g'.tools = g.tools

theorem Generator.Shares.renderFragment (h : g.Shares g') :
    g'.renderFragment = g.renderFragment := by
  unfold Generator.renderFragment compile
  rw [h.repository, h.tools]

theorem ApiSpec.matched_targets (s : ApiSpec) :
    Matched (List.Forall₂ ((Specification.api s).Counterparts g g')) (s.targets g)
      (s.targets g') := by
  unfold targets
  refine (matched_mapM (R := List.Forall₂ ((Specification.api s).Counterparts g g'))
    (fun (group, r) => ?_) s.routes).map fun ts us h => List.rel_flatten h
  refine (matched_refl r.baseName).map fun base base' hbase => ?_
  subst hbase
  exact .cons (.handler s group r base) (.cons (.apiLogic s group r base) .nil)

theorem MongoSpec.matched_targets (s : MongoSpec) :
    Matched (List.Forall₂ ((Specification.mongo s).Counterparts g g')) (s.targets g)
      (s.targets g') := by
  unfold targets
  split
  · exact .error _
  · refine .ok (List.rel_append ?_ (.cons (.errors s) .nil))
    rw [List.forall₂_map_left_iff, List.forall₂_map_right_iff, List.forall₂_same]
    exact fun typeName _ => .type s typeName

theorem RpcSpec.coupled_planMethods (h : g.Shares g') (s : RpcSpec) (d : Disk)
    (ms : List RpcMethod) : Coupled (List.Forall₂ ((Specification.rpc s).Counterparts g g')) d
      (s.planMethods g ms) (s.planMethods g' ms) := by
  induction ms with
  | nil => exact coupled_pure .nil
  | cons m ms ih =>
      unfold planMethods planMethod
      rw [h.renderFragment]
      exact coupled_cons (g.reads_renderFragment _ _ _) (fun functions => .rpcLogic s m functions) ih

theorem ModelSpec.coupled_planTables (h : g.Shares g') (s : ModelSpec) (d : Disk)
    (tables : List Table) :
    Coupled (List.Forall₂ ((Specification.model s).Counterparts g g')) d
      (s.planTables g tables) (s.planTables g' tables) := by
  induction tables with
  | nil => exact coupled_pure .nil
  | cons table tables ih =>
      unfold planTables planTable
      rw [h.renderFragment]
      exact coupled_cons (f := s.tableTarget g table) (k := s.tableTarget g' table)
        (g.reads_renderFragment _ _ _) (fun imports => .table s table imports) ih

/-- Plans of one specification with one repository and the same tools are made of
counterparts. -/
theorem Specification.coupled_plan (h : g.Shares g') (s : Specification)
    (d : Disk) :
    Coupled (List.Forall₂ (s.Counterparts g g')) d (s.backend.plan g) (s.backend.plan g') := by
  cases s with
  | api s => exact coupled_ofExcept s.matched_targets
  | rpc s =>
      refine coupled_bind (RpcSpec.coupled_planMethods h s d _) fun ts us hts => ?_
      exact coupled_pure (List.rel_append hts (.cons (.settings s) .nil))
  | model s =>
      change Coupled _ d (if s.tables.isEmpty then throw _ else _)
        (if s.tables.isEmpty then throw _ else _)
      split
      · exact coupled_throw _
      · refine coupled_bind (ModelSpec.coupled_planTables h s d _) fun ts us hts => ?_
        exact coupled_pure (List.rel_append hts (.cons (.vars s) .nil))
  | mongo s => exact coupled_ofExcept s.matched_targets
  | manifest s => exact coupled_pure (.cons (.image s) (.cons (.deployment s) .nil))

end Plans

/-! ## The imports of handlers -/

theorem ImportSet.paths_ofList_concat {paths : List String} {path : String} (h : path ∉ paths) :
    (ofList (paths ++ [path])).paths = (ofList paths).paths ++ [path] := by
  have hnot : path ∉ (ofList paths).paths := fun hmem => h (mem_ofList.mp hmem)
  rw [ofList_concat, paths_add, if_neg hnot]

/-- Paths without repetitions are all added. -/
theorem ImportSet.paths_ofList {paths : List String} (h : paths.Nodup) :
    (ofList paths).paths = paths := by
  induction paths using List.reverseRecOn with
  | nil => rfl
  | append_singleton paths path ih =>
      obtain ⟨hpaths, -, hapart⟩ := List.nodup_append.mp h
      rw [paths_ofList_concat fun hmem => hapart path hmem path List.mem_cons_self rfl, ih hpaths]

namespace ApiSpec

variable (s : ApiSpec) (group : Group) (r : Route)

/-- No directory below `internal` is a package without the letter a. -/
theorem internal_ne {dir package : String} (rest : String) (h : dir = "internal" ++ rest)
    (hletter : 'a' ∉ package.toList) : joinPackage s.module_ dir ≠ package := by
  obtain ⟨rest', htrimmed⟩ : ∃ rest',
      trimWhere (· == '/') (trim ("internal" ++ rest)) = "internal" ++ rest' :=
    exists_trimmed_append ⟨'i', by decide, by decide, by decide⟩
      ⟨'l', by decide, by decide, by decide⟩ rest
  obtain ⟨before, hbefore⟩ := exists_joinPackage s.module_
  intro hjoin
  rw [h, hbefore _ (by rw [htrimmed]; simp), htrimmed] at hjoin
  refine hletter ?_
  rw [← hjoin]
  simp

/-- The imports of a handler from its own module. -/
def ownImports : List String :=
  [joinPackage s.module_ (group.logicFolder r), joinPackage s.module_ Layout.dependencies] ++
    if r.requestTitle?.isSome then [joinPackage s.module_ Layout.types] else []

/-- Everything that a handler imports from its own module lies below `internal`. -/
theorem ownImports_ne {package : String} (hletter : 'a' ∉ package.toList) :
    ∀ path ∈ s.ownImports group r, path ≠ package := by
  obtain ⟨rest, hrest⟩ := Annotations.exists_folder Layout.logic (group.chain r)
  have hlogic : joinPackage s.module_ (group.logicFolder r) ≠ package := by
    refine s.internal_ne ("/logic" ++ rest) ?_ hletter
    rw [Group.logicFolder, hrest, ← String.append_assoc]
    simp [Layout.logic]
  have hdependencies : joinPackage s.module_ Layout.dependencies ≠ package :=
    s.internal_ne "/svc" (by simp [Layout.dependencies]) hletter
  have htypes : joinPackage s.module_ Layout.types ≠ package :=
    s.internal_ne "/types" (by simp [Layout.types]) hletter
  unfold ownImports
  cases r.requestTitle?.isSome <;> simp [hlogic, hdependencies, htypes]

theorem nodup_ownImports : (s.ownImports group r).Nodup := by
  have hdependencies := s.dependencies_ne_logicFolder group r
  unfold ownImports
  cases r.requestTitle?.isSome <;>
    simp [hdependencies.symm, (s.types_ne_logicFolder group r).symm, s.types_ne_dependencies.symm]

/-- The imports of a handler are those from its own module and, where the template does not
have them, the response helpers at the end. -/
theorem paths_handlerImports (gate : VersionGate) :
    (s.handlerImports gate group r).paths =
      s.ownImports group r ++ if gate.httpxInTemplate then [] else [HttpService.httpxImport] := by
  have hlisted : s.handlerImports gate group r = .ofList
      (s.ownImports group r ++ if gate.httpxInTemplate then [] else [HttpService.httpxImport]) :=
    rfl
  have hown := s.nodup_ownImports group r
  rw [hlisted]
  cases gate.httpxInTemplate with
  | true =>
      rw [if_pos rfl, List.append_nil, ImportSet.paths_ofList hown]
  | false =>
      have hnot : HttpService.httpxImport ∉ s.ownImports group r := fun hmem =>
        s.ownImports_ne group r (by decide) _ hmem rfl
      rw [if_neg Bool.false_ne_true, ImportSet.paths_ofList_concat hnot,
        ImportSet.paths_ofList hown]

end ApiSpec

/-- The import of the response helpers where the template does not have it. -/
def VersionGate.helperImports (gate : VersionGate) : List String :=
  if gate.httpxInTemplate then [] else ["\"" ++ HttpService.httpxImport ++ "\""]

/-- The gate decides on one entry at the end of the imports. -/
theorem ApiSpec.exists_quoted (s : ApiSpec) (group : Group) (r : Route) :
    ∃ shared, ∀ gate, (s.handlerImports gate group r).quoted = shared ++ gate.helperImports := by
  refine ⟨(s.ownImports group r).map fun path => "\"" ++ path ++ "\"", fun gate => ?_⟩
  unfold ImportSet.quoted VersionGate.helperImports
  rw [s.paths_handlerImports, List.map_append]
  cases gate.httpxInTemplate <;> rfl

/-- Contexts of one handler under two gates: they differ in the switch for the
template and in whether the response helpers stand at the end of the imports. -/
structure Regated (gate gate' : VersionGate) (c c' : Context) : Prop where
  keys : c'.keys = c.keys
  others : ∀ key, key ≠ "after_1_1_10" → key ≠ "imports" → c'.get? key = c.get? key
  switch : c.get? "after_1_1_10" = some (.bool gate.httpxInTemplate) ∧
    c'.get? "after_1_1_10" = some (.bool gate'.httpxInTemplate)
  imports : ∃ shared, c.get? "imports" = some (.texts (shared ++ gate.helperImports)) ∧
    c'.get? "imports" = some (.texts (shared ++ gate'.helperImports))

theorem ApiSpec.regated_handlerContext (s : ApiSpec) (gate gate' : VersionGate) (group : Group)
    (r : Route) (base : String) : Regated gate gate' (s.handlerContext gate group r base)
      (s.handlerContext gate' group r base) := by
  have hvalues : ∀ (gate : VersionGate) key, (s.handlerContext gate group r base).get? key = _ :=
    fun gate => Context.get?_ofList (by simp)
  have hentries : ∀ gate : VersionGate, (s.handlerContext gate group r base).entries = _ :=
    fun gate => Context.entries_ofList (by simp)
  obtain ⟨shared, hshared⟩ := s.exists_quoted group r
  constructor
  · unfold Context.keys
    rw [hentries, hentries]
    rfl
  · intro key hswitch himports
    have hnotSwitch : (key == "after_1_1_10") = false := by simpa using hswitch
    have hnotImports : (key == "imports") = false := by simpa using himports
    rw [hvalues, hvalues]
    simp only [List.lookup_cons, hnotSwitch, hnotImports]
  · exact ⟨hvalues gate _, hvalues gate' _⟩
  · refine ⟨shared, (hvalues gate _).trans ?_, (hvalues gate' _).trans ?_⟩
    · rw [← hshared]
      rfl
    · rw [← hshared]
      rfl

/-! ## Noninterference -/

/-- A style reaches nothing of a target but its filename. -/
theorem Specification.Counterparts.restyled {s : Specification} {g : Generator}
    {style : NamingStyle} {t u : Target} (h : s.Counterparts g { g with style := style } t u) :
    u = { t with filename := u.filename } := by
  cases h <;> rfl

/-- A gate reaches the contexts of handlers and nothing else. -/
theorem Specification.Counterparts.regated {s : Specification} {g : Generator}
    {gate : VersionGate} {t u : Target} (h : s.Counterparts g { g with gate := gate } t u) :
    u = t ∨ t.template = ⟨.api, "handler.tpl"⟩ ∧ u = { t with context := u.context } ∧
      Regated g.gate gate t.context u.context := by
  cases h with
  | handler s group r base =>
      exact .inr ⟨rfl, rfl, s.regated_handlerContext g.gate gate group r base⟩
  | _ => exact .inl rfl

/-- Plans under two styles fail alike or differ in the names of files only, and
the files have the same texts whenever they are rendered. Plans under two gates
fail alike or differ in two variables of the handlers only. -/
theorem style_and_gate_noninterference (s : Specification) (g : Generator) (d : Disk) :
    (∀ style, Coupled (List.Forall₂ fun t u => u = { t with filename := u.filename } ∧
        ∀ m, Generator.content { g with style := style } u m = g.content t m) d
      (s.backend.plan g) (s.backend.plan { g with style := style })) ∧
    ∀ gate, Coupled (List.Forall₂ fun t u => u = t ∨
        t.template = ⟨.api, "handler.tpl"⟩ ∧ u = { t with context := u.context } ∧
          Regated g.gate gate t.context u.context) d
      (s.backend.plan g) (s.backend.plan { g with gate := gate }) := by
  constructor
  · intro style
    have hshares : g.Shares { g with style := style } := ⟨rfl, rfl⟩
    refine (s.coupled_plan hshares d).imp fun ts us hts => hts.imp fun t u htu => ?_
    have hrestyled := htu.restyled
    refine ⟨hrestyled, fun m => ?_⟩
    -- rendering takes the template and the context of a target and asks no style
    rw [hrestyled]
    rfl
  · intro gate
    have hshares : g.Shares { g with gate := gate } := ⟨rfl, rfl⟩
    exact (s.coupled_plan hshares d).imp fun ts us hts => hts.imp fun t u htu => htu.regated

end Scaffold
