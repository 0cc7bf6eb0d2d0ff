import Mathlib.Data.List.Forall2
import Scaffold.Proofs.Generation.Planning

/-!
# Plans of the five backends

The targets that a specification can plan are the members of a few families, and
all of them stand for builtin keys. A plan depends on the disk through builtin
keys only, those of the fragments that it renders.
-/

namespace Scaffold

open Scaffold.Action

/-- A specification of any backend. -/
inductive Specification where
  | api (s : ApiSpec)
  | rpc (s : RpcSpec)
  | model (s : ModelSpec)
  | mongo (s : MongoSpec)
  | manifest (s : ManifestSpec)

namespace Specification

def backend : Specification → Backend
  | .api s => s.backend
  | .rpc s => s.backend
  | .model s => s.backend
  | .mongo s => s.backend
  | .manifest s => s.backend

theorem readsOnly_backend (s : Specification) : s.backend.ReadsOnly := by
  cases s with
  | api s => exact s.readsOnly_backend
  | rpc s => exact s.readsOnly_backend
  | model s => exact s.readsOnly_backend
  | mongo s => exact s.readsOnly_backend
  | manifest s => exact s.readsOnly_backend

end Specification

/-! ## The targets of a plan -/

/-- The targets that a specification can plan. -/
inductive Specification.Offers (g : Generator) : Specification → Target → Prop
  | handler (s : ApiSpec) (group : Group) (r : Route) (base : String) :
      Offers g (.api s) (s.handlerTarget g group r base)
  | apiLogic (s : ApiSpec) (group : Group) (r : Route) (base : String) :
      Offers g (.api s) (s.logicTarget g group r base)
  | rpcLogic (s : RpcSpec) (m : RpcMethod) (functions : String) :
      Offers g (.rpc s) (s.logicTarget g m functions)
  | settings (s : RpcSpec) : Offers g (.rpc s) (s.settingsTarget g)
  | table (s : ModelSpec) (t : Table) (imports : String) :
      Offers g (.model s) (s.tableTarget g t imports)
  | vars (s : ModelSpec) : Offers g (.model s) (s.variablesTarget g)
  | type (s : MongoSpec) (typeName : String) : Offers g (.mongo s) (s.typeTarget g typeName)
  | errors (s : MongoSpec) : Offers g (.mongo s) (MongoSpec.errorsTarget g)
  | image (s : ManifestSpec) : Offers g (.manifest s) s.imageTarget
  | deployment (s : ManifestSpec) : Offers g (.manifest s) (s.deploymentTarget g)

/-- Every target that can be planned stands for a builtin key. -/
theorem Specification.Offers.isBuiltin {g : Generator} {s : Specification} {t : Target}
    (h : s.Offers g t) : t.template.isBuiltin = true := by
  cases h <;> rfl

section Targets

variable {g : Generator} {d after : Disk} {ts : List Target}

theorem exists_of_forall₂ {α β : Type} {R : α → β → Prop} {xs : List α} {ys : List β}
    (h : List.Forall₂ R xs ys) : ∀ y ∈ ys, ∃ x ∈ xs, R x y := by
  induction h with
  | nil => exact fun y hy => absurd hy List.not_mem_nil
  | cons hxy _ ih =>
      intro z hz
      rcases List.mem_cons.mp hz with rfl | hz
      · exact ⟨_, List.mem_cons_self, hxy⟩
      · obtain ⟨w, hw, hwz⟩ := ih z hz
        exact ⟨w, List.mem_cons_of_mem _ hw, hwz⟩

theorem map_of_forall₂ {α β γ : Type} {R : α → β → Prop} {xs : List α} {ys : List β}
    {f : β → γ} {k : α → γ} (h : List.Forall₂ R xs ys) (hf : ∀ x y, R x y → f y = k x) :
    ys.map f = xs.map k := by
  induction h with
  | nil => rfl
  | cons hxy _ ih => rw [List.map_cons, List.map_cons, hf _ _ hxy, ih]

/-- What a mapping comes to comes from its members, one from each. -/
theorem forall₂_of_mapM {α β : Type} {f : α → Except Error β} {xs : List α} {ys : List β}
    (h : xs.mapM f = .ok ys) : List.Forall₂ (fun x y => f x = .ok y) xs ys := by
  induction xs generalizing ys with
  | nil =>
      rw [List.mapM_nil] at h
      obtain rfl := Except.ok.inj h
      exact .nil
  | cons x xs ih =>
      rw [List.mapM_cons] at h
      cases hx : f x with
      | error e =>
          rw [hx] at h
          exact absurd h nofun
      | ok y =>
          cases hxs : xs.mapM f with
          | error e =>
              rw [hx, hxs] at h
              exact absurd h nofun
          | ok rest =>
              rw [hx, hxs] at h
              obtain rfl := Except.ok.inj h
              exact .cons hx (ih hxs)

/-- What it fails with comes from one of them. -/
theorem exists_of_mapM_eq_error {α β : Type} {f : α → Except Error β} {xs : List α} {e : Error}
    (h : xs.mapM f = .error e) : ∃ x ∈ xs, f x = .error e := by
  induction xs with
  | nil =>
      rw [List.mapM_nil] at h
      exact absurd h nofun
  | cons x xs ih =>
      rw [List.mapM_cons] at h
      cases hx : f x with
      | error e' =>
          rw [hx] at h
          obtain rfl := Except.error.inj h
          exact ⟨x, List.mem_cons_self, hx⟩
      | ok y =>
          cases hxs : xs.mapM f with
          | ok ys =>
              rw [hx, hxs] at h
              exact absurd h nofun
          | error e' =>
              rw [hx, hxs] at h
              obtain rfl := Except.error.inj h
              obtain ⟨z, hz, hfz⟩ := ih hxs
              exact ⟨z, List.mem_cons_of_mem _ hz, hfz⟩

theorem ApiSpec.config_of_targets {s : ApiSpec} {e : Error} (h : s.targets g = .error e) :
    ∃ detail, e = .config detail := by
  unfold targets at h
  cases hroutes : s.routes.mapM fun (group, r) => s.routeTargets g group r with
  | ok lists =>
      rw [hroutes] at h
      exact absurd h nofun
  | error e' =>
      rw [hroutes] at h
      obtain rfl := Except.error.inj h
      obtain ⟨⟨group, r⟩, -, hr⟩ := exists_of_mapM_eq_error hroutes
      unfold routeTargets Route.baseName at hr
      dsimp only at hr
      split at hr
      · exact ⟨_, (Except.error.inj hr).symm⟩
      · exact absurd hr nofun

theorem MongoSpec.config_of_targets {s : MongoSpec} {e : Error} (h : s.targets g = .error e) :
    ∃ detail, e = .config detail := by
  unfold targets at h
  split at h
  · exact ⟨_, (Except.error.inj h).symm⟩
  · exact absurd h nofun

theorem ApiSpec.offers_of_targets {s : ApiSpec} (h : s.targets g = .ok ts) :
    ∀ t ∈ ts, (Specification.api s).Offers g t := by
  unfold targets at h
  cases hroutes : s.routes.mapM fun (group, r) => s.routeTargets g group r with
  | error e =>
      rw [hroutes] at h
      exact absurd h nofun
  | ok lists =>
      rw [hroutes] at h
      obtain rfl := Except.ok.inj h
      intro t ht
      obtain ⟨pair, hpair, ht⟩ := List.mem_flatten.mp ht
      obtain ⟨⟨group, r⟩, -, hr⟩ := exists_of_forall₂ (forall₂_of_mapM hroutes) pair hpair
      unfold routeTargets at hr
      dsimp only at hr
      cases hbase : r.baseName with
      | error e =>
          rw [hbase] at hr
          exact absurd hr nofun
      | ok base =>
          rw [hbase] at hr
          obtain rfl := Except.ok.inj hr
          rcases List.mem_cons.mp ht with rfl | ht
          · exact .handler s group r base
          · obtain rfl := List.mem_singleton.mp ht
            exact .apiLogic s group r base

/-- Every method gives its logic, around some function. -/
theorem RpcSpec.forall₂_planMethods {s : RpcSpec} {ms : List RpcMethod}
    (h : (s.planMethods g ms).runOn d = (.ok ts, after)) :
    List.Forall₂ (fun m t => ∃ functions, t = s.logicTarget g m functions) ms ts := by
  induction ms generalizing d ts after with
  | nil =>
      obtain rfl := Except.ok.inj (congrArg Prod.fst h)
      exact .nil
  | cons m ms ih =>
      obtain ⟨first, mid, hfirst, h⟩ := bind_eq_ok h
      obtain ⟨functions, mid', -, hfirst⟩ := bind_eq_ok hfirst
      obtain ⟨rest, mid'', hrest, h⟩ := bind_eq_ok h
      obtain rfl := Except.ok.inj (congrArg Prod.fst hfirst)
      obtain rfl := Except.ok.inj (congrArg Prod.fst h)
      exact .cons ⟨functions, rfl⟩ (ih hrest)

/-- Every table gives its model, around some imports. -/
theorem ModelSpec.forall₂_planTables {s : ModelSpec} {tables : List Table}
    (h : (s.planTables g tables).runOn d = (.ok ts, after)) :
    List.Forall₂ (fun table t => ∃ imports, t = s.tableTarget g table imports) tables ts := by
  induction tables generalizing d ts after with
  | nil =>
      obtain rfl := Except.ok.inj (congrArg Prod.fst h)
      exact .nil
  | cons table tables ih =>
      obtain ⟨first, mid, hfirst, h⟩ := bind_eq_ok h
      obtain ⟨imports, mid', -, hfirst⟩ := bind_eq_ok hfirst
      obtain ⟨rest, mid'', hrest, h⟩ := bind_eq_ok h
      obtain rfl := Except.ok.inj (congrArg Prod.fst hfirst)
      obtain rfl := Except.ok.inj (congrArg Prod.fst h)
      exact .cons ⟨imports, rfl⟩ (ih hrest)

/-- A plan holds what its specification offers and nothing else. -/
theorem Specification.offers_of_plan {s : Specification}
    (h : (s.backend.plan g).runOn d = (.ok ts, after)) : ∀ t ∈ ts, s.Offers g t := by
  cases s with
  | api s => exact ApiSpec.offers_of_targets (congrArg Prod.fst h)
  | rpc s =>
      obtain ⟨logics, mid, hlogics, h⟩ := bind_eq_ok h
      obtain rfl := Except.ok.inj (congrArg Prod.fst h)
      intro t ht
      rcases List.mem_append.mp ht with ht | ht
      · obtain ⟨m, -, functions, rfl⟩ := exists_of_forall₂ (s.forall₂_planMethods hlogics) t ht
        exact .rpcLogic s m functions
      · obtain rfl := List.mem_singleton.mp ht
        exact .settings s
  | model s =>
      change ((if s.tables.isEmpty then throw _ else _ : Action (List Target)).runOn d) = _ at h
      split at h
      · exact absurd (congrArg Prod.fst h) nofun
      · obtain ⟨tables, mid, htables, h⟩ := bind_eq_ok h
        obtain rfl := Except.ok.inj (congrArg Prod.fst h)
        intro t ht
        rcases List.mem_append.mp ht with ht | ht
        · obtain ⟨table, -, imports, rfl⟩ := exists_of_forall₂ (s.forall₂_planTables htables) t ht
          exact .table s table imports
        · obtain rfl := List.mem_singleton.mp ht
          exact .vars s
  | mongo s =>
      have hts : s.targets g = .ok ts := congrArg Prod.fst h
      unfold MongoSpec.targets at hts
      split at hts
      · exact absurd hts nofun
      · obtain rfl := Except.ok.inj hts
        intro t ht
        rcases List.mem_append.mp ht with ht | ht
        · obtain ⟨typeName, -, rfl⟩ := List.mem_map.mp ht
          exact .type s typeName
        · obtain rfl := List.mem_singleton.mp ht
          exact .errors s
  | manifest s =>
      obtain rfl := Except.ok.inj (congrArg Prod.fst h)
      intro t ht
      rcases List.mem_cons.mp ht with rfl | ht
      · exact .image s
      · obtain rfl := List.mem_singleton.mp ht
        exact .deployment s

end Targets

/-! ## What a plan depends on -/

section Plans

variable {g : Generator} {d e : Disk}

/-- Two disks on which every builtin key stands for the same text. -/
def Generator.SameTemplates (g : Generator) (d e : Disk) : Prop :=
  ∀ key : TemplateKey, key.isBuiltin = true → g.repository.textOf e key = g.repository.textOf d key

theorem Generator.SameTemplates.renderFragment (h : g.SameTemplates d e) {key : TemplateKey}
    (hkey : key.isBuiltin = true) (context : Context) (node : String) :
    SameAnswer d e (g.renderFragment key context node) :=
  sameAnswer_mapError (sameAnswer_bind (g.reads_compile key)
    (g.sameAnswer_compile (h key hkey)) fun _ _ => sameAnswer_ofExcept d e _) _

theorem RpcSpec.sameAnswer_planMethods (s : RpcSpec) (h : g.SameTemplates d e)
    (ms : List RpcMethod) : SameAnswer d e (s.planMethods g ms) := by
  induction ms with
  | nil => exact sameAnswer_pure d e _
  | cons m ms ih =>
      refine sameAnswer_bind ?_ ?_ fun _ _ =>
        sameAnswer_bind (s.reads_planMethods g ms) ih fun _ _ => sameAnswer_pure d e _
      · exact reads_bind (g.reads_renderFragment _ _ _) fun _ => reads_pure _
      · exact sameAnswer_bind (g.reads_renderFragment _ _ _) (h.renderFragment rfl _ _)
          fun _ _ => sameAnswer_pure d e _

theorem ModelSpec.sameAnswer_planTables (s : ModelSpec) (h : g.SameTemplates d e)
    (tables : List Table) : SameAnswer d e (s.planTables g tables) := by
  have hkey : s.importKey.isBuiltin = true := by
    unfold importKey
    split <;> rfl
  induction tables with
  | nil => exact sameAnswer_pure d e _
  | cons table tables ih =>
      refine sameAnswer_bind ?_ ?_ fun _ _ =>
        sameAnswer_bind (s.reads_planTables g tables) ih fun _ _ => sameAnswer_pure d e _
      · exact reads_bind (g.reads_renderFragment _ _ _) fun _ => reads_pure _
      · exact sameAnswer_bind (g.reads_renderFragment _ _ _) (h.renderFragment hkey _ _)
          fun _ _ => sameAnswer_pure d e _

/-- A plan depends on what builtin keys stand for and on nothing else on a disk. -/
theorem Specification.sameAnswer_plan (s : Specification) (h : g.SameTemplates d e) :
    SameAnswer d e (s.backend.plan g) := by
  cases s with
  | api s => exact sameAnswer_ofExcept d e _
  | rpc s =>
      exact sameAnswer_bind (s.reads_planMethods g _) (s.sameAnswer_planMethods h _)
        fun _ _ => sameAnswer_pure d e _
  | model s =>
      change SameAnswer d e (if s.tables.isEmpty then throw _ else _)
      split
      · exact sameAnswer_throw d e _
      · exact sameAnswer_bind (s.reads_planTables g _) (s.sameAnswer_planTables h _)
          fun _ _ => sameAnswer_pure d e _
  | mongo s => exact sameAnswer_ofExcept d e _
  | manifest s => exact sameAnswer_pure d e _

end Plans

end Scaffold
