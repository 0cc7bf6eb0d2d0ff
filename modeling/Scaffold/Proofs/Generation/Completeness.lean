import Scaffold.Proofs.Generation.Defaults
import Scaffold.Proofs.Traversal

/-!
# Complete plans

A plan goes through a specification in its order: what it generates files for gives its
targets, all of them and each once, and the files that are shared come last. A plan
fails for a specification that says too little, with the first thing that is wrong.
-/

namespace Scaffold

open Scaffold.Action Text

/-! ## Names of handlers -/

theorem stripPrefixChars_reverse_append (pat rest : String) :
    stripPrefixChars pat.toList.reverse (rest ++ pat).toList.reverse = some rest.toList.reverse := by
  rw [stripPrefixChars_eq_some_iff, String.toList_append, List.reverse_append]

theorem stripSuffix_eq_iff {pat s rest : String} :
    stripSuffix pat s = rest ↔ s = rest ++ pat ∨ s = rest ∧ endsWith pat rest = false := by
  unfold stripSuffix endsWith
  cases hcut : stripPrefixChars pat.toList.reverse s.toList.reverse with
  | none =>
      constructor
      · rintro rfl
        exact .inr ⟨rfl, by rw [hcut]; rfl⟩
      · rintro (rfl | ⟨rfl, -⟩)
        · exact absurd (hcut.symm.trans (stripPrefixChars_reverse_append pat rest)) nofun
        · rfl
  | some front =>
      have hs : s = String.ofList front.reverse ++ pat := by
        refine String.toList_inj.mp (List.reverse_injective ?_)
        rw [stripPrefixChars_eq_some_iff.mp hcut]
        simp
      constructor
      · rintro rfl
        exact .inl hs
      · rintro (h | ⟨rfl, h⟩)
        · exact (String.append_left_inj pat).mp (hs.symm.trans h)
        · rw [hcut] at h
          exact absurd h nofun

namespace Route

/-- What the files of a route are named after. -/
def stem (r : Route) : String := stripSuffix "Handler" (stripSuffix "handler" (trim r.handler))

/-- The handler of a route names something: more than blanks and the word for a handler. -/
def IsUsable (r : Route) : Prop :=
  trim r.handler ∉ ["", "handler", "Handler", "Handlerhandler"]

variable {r : Route}

theorem stem_eq_empty_iff : r.stem = "" ↔ ¬ r.IsUsable := by
  have hlower : endsWith "handler" "Handler" = false := by decide
  have hempty : ∀ pat ∈ ["handler", "Handler"], endsWith pat "" = false := by decide
  have hboth : "Handler" ++ "handler" = "Handlerhandler" := by decide
  have hcases : r.stem = "" ↔ (trim r.handler = "Handlerhandler" ∨ trim r.handler = "Handler") ∨
      trim r.handler = "handler" ∨ trim r.handler = "" := by
    simp only [stem, stripSuffix_eq_iff, String.empty_append, hboth, hlower,
      hempty "handler" (by decide), hempty "Handler" (by decide), and_true]
  rw [hcases, IsUsable, not_not]
  simp only [List.mem_cons, List.not_mem_nil, or_false]
  constructor
  · rintro ((h | h) | h | h)
    · exact .inr (.inr (.inr h))
    · exact .inr (.inr (.inl h))
    · exact .inr (.inl h)
    · exact .inl h
  · rintro (h | h | h | h)
    · exact .inr (.inr h)
    · exact .inr (.inl h)
    · exact .inl (.inr h)
    · exact .inl (.inl h)

theorem baseName_of_usable (h : r.IsUsable) : r.baseName = .ok (title r.stem) := by
  have hstem : ¬ r.stem = "" := fun hstem => stem_eq_empty_iff.mp hstem h
  unfold baseName
  dsimp only
  rw [← stem, if_neg hstem]

theorem baseName_of_not_usable (h : ¬ r.IsUsable) :
    r.baseName =
      .error (.config (r.describe ++ " has no usable handler name: '" ++ r.handler ++ "'")) := by
  unfold baseName
  dsimp only
  rw [← stem, if_pos (stem_eq_empty_iff.mpr h)]

end Route

/-! ## What plans hold -/

/-- The template of a target, whether its file is written anew, and what it is for. -/
def Target.role (t : Target) : TemplateKey × Overwrite × String := (t.template, t.overwrite, t.node)

/-- Every route with a usable handler gives its handler and then its logic. -/
structure ApiSpec.PlansRoutes (s : ApiSpec) (g : Generator) (d : Disk) : Prop where
  succeeds_iff : (∃ ts, (s.backend.plan g).runOn d = (.ok ts, d)) ↔
    ∀ group ∈ s.service.groups, ∀ r ∈ group.routes, r.IsUsable
  complete : ∀ ts after, (s.backend.plan g).runOn d = (.ok ts, after) → after = d ∧
    (ts = s.service.groups.flatMap fun group => group.routes.flatMap fun r =>
      [s.handlerTarget g group r (title r.stem), s.logicTarget g group r (title r.stem)]) ∧
    ts.map Target.role = s.service.groups.flatMap fun group => group.routes.flatMap fun r =>
      [(⟨.api, "handler.tpl"⟩, .always, r.describe), (⟨.api, "logic.tpl"⟩, .ifMissing, r.describe)]
  blames_first : ∀ e after, (s.backend.plan g).runOn d = (.error e, after) → after = d ∧
    ∃ before r rest, s.service.groups.flatMap (·.routes) = before ++ r :: rest ∧
      (∀ q ∈ before, q.IsUsable) ∧ ¬ r.IsUsable ∧
      e = .config (r.describe ++ " has no usable handler name: '" ++ r.handler ++ "'")

/-- Every method gives its logic, and the service gives its settings at the end. -/
structure RpcSpec.PlansMethods (s : RpcSpec) (g : Generator) (d : Disk) : Prop where
  complete : ∃ logics, (s.backend.plan g).runOn d = (.ok (logics ++ [s.settingsTarget g]), d) ∧
    List.Forall₂ (fun m t => ∃ functions,
      (g.renderFragment functionKey (s.functionContext m) m.node).runOn d = (.ok functions, d) ∧
        t = s.logicTarget g m functions) s.service.methods logics ∧
    (logics ++ [s.settingsTarget g]).map Target.role =
      s.service.methods.map (fun m => (⟨.rpc, "logic.tpl"⟩, .ifMissing, m.node)) ++
        [(⟨.rpc, "etc.tpl"⟩, .always, "service " ++ s.service.name)]

/-- Every table gives its model, and the package gives its variables at the end. -/
structure ModelSpec.PlansTables (s : ModelSpec) (g : Generator) (d : Disk) : Prop where
  fails_iff : (∃ e, (s.backend.plan g).runOn d = (.error e, d)) ↔ s.tables = []
  complains : ∀ e after, (s.backend.plan g).runOn d = (.error e, after) →
    after = d ∧ e = .config "no tables to generate models for"
  complete : s.tables ≠ [] →
    ∃ models, (s.backend.plan g).runOn d = (.ok (models ++ [s.variablesTarget g]), d) ∧
      List.Forall₂ (fun table t => ∃ imports,
        (g.renderFragment s.importKey (Context.ofList [("time", .bool table.usesTime)])
            table.node).runOn d = (.ok imports, d) ∧
          t = s.tableTarget g table imports) s.tables models ∧
      (models ++ [s.variablesTarget g]).map Target.role =
        s.tables.map (fun table => (⟨.model, "model.tpl"⟩, .always, table.node)) ++
          [(⟨.model, "vars.tpl"⟩, .ifMissing, "package " ++ s.package)]

/-- Every type that is not blank gives its model, and the errors come at the end. -/
structure MongoSpec.PlansTypes (s : MongoSpec) (g : Generator) (d : Disk) : Prop where
  fails_iff : (∃ e, (s.backend.plan g).runOn d = (.error e, d)) ↔ ∀ t ∈ s.types, trim t = ""
  complains : ∀ e after, (s.backend.plan g).runOn d = (.error e, after) →
    after = d ∧ e = .config "missing type"
  complete : ∀ ts after, (s.backend.plan g).runOn d = (.ok ts, after) → after = d ∧
    ts = ((s.types.filter fun t => trim t != "").map fun t => s.typeTarget g (title (trim t))) ++
      [MongoSpec.errorsTarget g] ∧
    ts.map Target.role = ((s.types.filter fun t => trim t != "").map fun t =>
        (⟨.mongo, "model.tpl"⟩, .always, "type " ++ title (trim t))) ++
      [(⟨.mongo, "error.tpl"⟩, .ifMissing, "errors")]

section

variable {g : Generator} {d : Disk}

/-- The targets of all routes, or the error of the first route without a usable handler. -/
theorem ApiSpec.targets_cases (s : ApiSpec) (g : Generator) :
    (∀ group ∈ s.service.groups, ∀ r ∈ group.routes, r.IsUsable) ∧
        s.targets g = .ok (s.service.groups.flatMap fun group => group.routes.flatMap fun r =>
          [s.handlerTarget g group r (title r.stem), s.logicTarget g group r (title r.stem)]) ∨
      ∃ before r rest, s.service.groups.flatMap (·.routes) = before ++ r :: rest ∧
        (∀ q ∈ before, q.IsUsable) ∧ ¬ r.IsUsable ∧ s.targets g =
          .error (.config (r.describe ++ " has no usable handler name: '" ++ r.handler ++ "'")) := by
  have hroutes : s.service.groups.flatMap (·.routes) = s.routes.map Prod.snd := by
    simp [routes, List.map_flatMap, Function.comp_def]
  have hgood : ∀ pair : Group × Route, pair.2.IsUsable → s.routeTargets g pair.1 pair.2 =
      .ok [s.handlerTarget g pair.1 pair.2 (title pair.2.stem),
        s.logicTarget g pair.1 pair.2 (title pair.2.stem)] := by
    intro pair h
    rw [routeTargets, Route.baseName_of_usable h]
    rfl
  have hbad : ∀ pair : Group × Route, ¬ pair.2.IsUsable → s.routeTargets g pair.1 pair.2 =
      .error (.config
        (pair.2.describe ++ " has no usable handler name: '" ++ pair.2.handler ++ "'")) := by
    intro pair h
    rw [routeTargets, Route.baseName_of_not_usable h]
    rfl
  unfold targets
  rcases mapM_ok_or_first hgood hbad s.routes with
    ⟨hall, hmap⟩ | ⟨before, pair, rest, hsplit, hbefore, hpair, hmap⟩
  · refine .inl ⟨fun group hgroup r hr => ?_, ?_⟩
    · exact hall (group, r) (List.mem_flatMap.mpr ⟨group, hgroup, List.mem_map_of_mem hr⟩)
    · rw [hmap]
      change Except.ok (List.map _ s.routes).flatten = _
      rw [← List.flatMap_def, routes, List.flatMap_assoc]
      simp only [List.flatMap_map]
  · refine .inr ⟨before.map Prod.snd, pair.2, rest.map Prod.snd, ?_, ?_, hpair, ?_⟩
    · rw [hroutes, hsplit, List.map_append, List.map_cons]
    · exact List.forall_mem_map.mpr hbefore
    · rw [hmap]
      rfl

theorem ApiSpec.plansRoutes (s : ApiSpec) (g : Generator) (d : Disk) : s.PlansRoutes g d := by
  have hplan : (s.backend.plan g).runOn d = (s.targets g, d) := runOn_ofExcept _ d
  rcases s.targets_cases g with ⟨husable, htargets⟩ | ⟨before, r, rest, hsplit, hbefore, hr, htargets⟩
  · rw [htargets] at hplan
    constructor
    · exact ⟨fun _ => husable, fun _ => ⟨_, hplan⟩⟩
    · intro ts after h
      obtain ⟨hts, rfl⟩ := Prod.mk.inj (hplan.symm.trans h)
      obtain rfl := Except.ok.inj hts
      refine ⟨rfl, rfl, ?_⟩
      simp only [List.map_flatMap]
      rfl
    · intro e after h
      exact absurd (Prod.mk.inj (hplan.symm.trans h)).1 nofun
  · rw [htargets] at hplan
    constructor
    · refine ⟨fun ⟨ts, h⟩ => absurd (Prod.mk.inj (hplan.symm.trans h)).1 nofun, fun h => ?_⟩
      have hmem : r ∈ s.service.groups.flatMap (·.routes) :=
        hsplit ▸ List.mem_append_right _ List.mem_cons_self
      obtain ⟨group, hgroup, hroute⟩ := List.mem_flatMap.mp hmem
      exact absurd (h group hgroup r hroute) hr
    · intro ts after h
      exact absurd (Prod.mk.inj (hplan.symm.trans h)).1 nofun
    · intro e after h
      obtain ⟨he, rfl⟩ := Prod.mk.inj (hplan.symm.trans h)
      exact ⟨rfl, before, r, rest, hsplit, hbefore, hr, (Except.error.inj he).symm⟩

theorem RpcSpec.plansMethods (s : RpcSpec)
    (hfile : ∀ key : TemplateKey, key.isBuiltin = true →
      d.isFile (g.repository.pathOf key) = false) : s.PlansMethods g d := by
  obtain ⟨logics, hlogics, hall⟩ := s.exists_planMethods hfile s.service.methods
  refine ⟨logics, ?_, hall, ?_⟩
  · change (s.planMethods g s.service.methods >>= fun targets =>
      pure (targets ++ [s.settingsTarget g])).runOn d = _
    rw [runOn_bind_of_ok hlogics]
    rfl
  · have hroles : logics.map Target.role =
        s.service.methods.map fun m => (⟨.rpc, "logic.tpl"⟩, .ifMissing, m.node) := by
      refine map_of_forall₂ hall ?_
      rintro m t ⟨functions, -, rfl⟩
      rfl
    rw [List.map_append, hroles]
    rfl

theorem ModelSpec.plansTables (s : ModelSpec)
    (hfile : ∀ key : TemplateKey, key.isBuiltin = true →
      d.isFile (g.repository.pathOf key) = false) : s.PlansTables g d := by
  have hnone : s.tables = [] →
      (s.backend.plan g).runOn d = (.error (.config "no tables to generate models for"), d) := by
    intro hempty
    change (if s.tables.isEmpty then throw _ else _ : Action (List Target)).runOn d = _
    rw [if_pos (List.isEmpty_iff.mpr hempty)]
    rfl
  obtain ⟨models, hmodels, hall⟩ := s.exists_planTables hfile s.tables
  have hsome : s.tables ≠ [] →
      (s.backend.plan g).runOn d = (.ok (models ++ [s.variablesTarget g]), d) := by
    intro hne
    change (if s.tables.isEmpty then throw _ else _ : Action (List Target)).runOn d = _
    rw [if_neg (mt List.isEmpty_iff.mp hne), runOn_bind_of_ok hmodels]
    rfl
  have hroles : models.map Target.role =
      s.tables.map fun table => (⟨.model, "model.tpl"⟩, .always, table.node) := by
    refine map_of_forall₂ hall ?_
    rintro table t ⟨imports, -, rfl⟩
    rfl
  constructor
  · refine ⟨fun ⟨e, he⟩ => ?_, fun hempty => ⟨_, hnone hempty⟩⟩
    exact Decidable.byContradiction fun hne =>
      absurd (Prod.mk.inj ((hsome hne).symm.trans he)).1 nofun
  · intro e after he
    by_cases hempty : s.tables = []
    · obtain ⟨hfailed, rfl⟩ := Prod.mk.inj ((hnone hempty).symm.trans he)
      exact ⟨rfl, (Except.error.inj hfailed).symm⟩
    · exact absurd (Prod.mk.inj ((hsome hempty).symm.trans he)).1 nofun
  · intro hne
    refine ⟨models, hsome hne, hall, ?_⟩
    rw [List.map_append, hroles]
    rfl

theorem MongoSpec.typeNames_eq (s : MongoSpec) :
    s.typeNames = (s.types.filter fun t => trim t != "").map fun t => title (trim t) := by
  rw [typeNames, List.filter_map, List.map_map]
  rfl

theorem MongoSpec.plansTypes (s : MongoSpec) (g : Generator) (d : Disk) : s.PlansTypes g d := by
  have hplan : (s.backend.plan g).runOn d = (s.targets g, d) := runOn_ofExcept _ d
  have hempty : s.typeNames = [] ↔ ∀ t ∈ s.types, trim t = "" := by
    rw [typeNames_eq, List.map_eq_nil_iff, List.filter_eq_nil_iff]
    simp only [bne_iff_ne, ne_eq, not_not]
  unfold targets at hplan
  constructor
  · rw [← hempty]
    constructor
    · rintro ⟨e, he⟩
      split at hplan
      · next hnone => exact List.isEmpty_iff.mp hnone
      · exact absurd (Prod.mk.inj (hplan.symm.trans he)).1 nofun
    · intro hnone
      rw [if_pos (List.isEmpty_iff.mpr hnone)] at hplan
      exact ⟨_, hplan⟩
  · intro e after he
    obtain ⟨hfailed, rfl⟩ := Prod.mk.inj (hplan.symm.trans he)
    split at hfailed
    · exact ⟨rfl, (Except.error.inj hfailed).symm⟩
    · exact absurd hfailed nofun
  · intro ts after hts
    obtain ⟨hplanned, rfl⟩ := Prod.mk.inj (hplan.symm.trans hts)
    split at hplanned
    · exact absurd hplanned nofun
    · obtain rfl := Except.ok.inj hplanned
      rw [typeNames_eq, List.map_map]
      refine ⟨rfl, rfl, ?_⟩
      rw [List.map_append, List.map_map]
      rfl

end

/-- Without custom templates a plan holds all that its specification asks for, in the
order of the specification and each once: the handler of a route, written anew, with its
logic, written once, behind it; the logic of a method, written once, and at last the
settings, written anew; the model of a table or of a type, written anew, and at last the
variables or the errors, written once. It fails exactly where a route has no usable
handler, where there is no table, and where there is no type that is not blank. -/
theorem plans_complete_and_ordered {g : Generator} {d : Disk}
    (hfile : ∀ key : TemplateKey, key.isBuiltin = true →
      d.isFile (g.repository.pathOf key) = false) :
    (∀ s : ApiSpec, s.PlansRoutes g d) ∧ (∀ s : RpcSpec, s.PlansMethods g d) ∧
      (∀ s : ModelSpec, s.PlansTables g d) ∧ ∀ s : MongoSpec, s.PlansTypes g d :=
  ⟨fun s => s.plansRoutes g d, fun s => s.plansMethods hfile, fun s => s.plansTables hfile,
    fun s => s.plansTypes g d⟩

/-- Three routes, the last two without a usable handler. -/
def halfNamed : ApiSpec where
  module_ := "shop"
  service := ⟨"shop", .empty, [
    ⟨.empty, [⟨"get", "/users", "listUsersHandler", none, none, .empty⟩]⟩,
    ⟨.empty, [⟨"post", "/users", " Handler", none, none, .empty⟩,
      ⟨"put", "/users", "handler", none, none, .empty⟩]⟩]⟩

theorem plans_complete_and_ordered_blocked :
    (∀ key : TemplateKey, key.isBuiltin = true →
      Generator.blocked.isFile (Generator.plain.repository.pathOf key) = false) ∧
    (halfNamed.backend.plan Generator.plain).runOn Generator.blocked =
      (.error (.config "route POST /users has no usable handler name: ' Handler'"),
        Generator.blocked) ∧
    halfNamed.PlansRoutes Generator.plain Generator.blocked ∧
    Generator.quiet.PlansMethods Generator.plain Generator.blocked ∧
    (∃ e, ((⟨"shop", false, []⟩ : ModelSpec).backend.plan Generator.plain).runOn Generator.blocked =
      (.error e, Generator.blocked)) ∧
    ∃ e, ((⟨[" "], false⟩ : MongoSpec).backend.plan Generator.plain).runOn Generator.blocked =
      (.error e, Generator.blocked) := by
  have hfile := Generator.uncustomized_blocked.noFile
  obtain ⟨hroutes, hmethods, htables, htypes⟩ := plans_complete_and_ordered hfile
  exact ⟨hfile, by decide, hroutes halfNamed, hmethods Generator.quiet,
    (htables ⟨"shop", false, []⟩).fails_iff.mpr rfl,
    (htypes ⟨[" "], false⟩).fails_iff.mpr (by decide)⟩

end Scaffold
