import Scaffold.Plan.Collections
import Scaffold.Plan.Deployment
import Scaffold.Plan.HttpService
import Scaffold.Plan.RemoteService
import Scaffold.Plan.Tables
import Scaffold.Proofs.Catalog.Lookup

/-!
# Planning only reads

Looking a template up reads the disk, and so does rendering a fragment of it.
Nothing else that a backend does while planning touches the disk, hence all five
backends leave it as they find it.
-/

namespace Scaffold

open Scaffold.Action

/-- A backend that leaves every disk as it is while planning. -/
def Backend.ReadsOnly (b : Backend) : Prop := ∀ g, Reads (b.plan g)

/-- The backend that plans the same targets whatever it is given. -/
def Backend.fixed (ts : List Target) : Backend where
  name := "fixed"
  category := .mongo
  plan _ := return ts

theorem Backend.readsOnly_fixed (ts : List Target) : (Backend.fixed ts).ReadsOnly :=
  fun _ => reads_pure ts

/-- A generator with all its settings at their defaults. -/
def Generator.plain : Generator where
  repository := ⟨⟨"/home"⟩⟩
  style := NamingStyle.default
  gate := {}
  tools := Formatter.none

/-- A target that needs no context, to try things with. -/
def Target.plain (filename template : String) (overwrite : Overwrite) : Target where
  subdir := ""
  filename := filename
  template := ⟨.mongo, template⟩
  context := Context.empty
  overwrite := overwrite
  node := filename

/-! ## Fragments -/

namespace Generator

theorem reads_compile (g : Generator) (key : TemplateKey) : Reads (g.compile key) := by
  unfold compile
  refine reads_bind (g.repository.reads_load key) fun record => ?_
  exact reads_bind (reads_ofExcept _) fun _ => reads_pure _

/-- Compiling asks the disk for a text and for nothing else. -/
theorem runOn_compile (g : Generator) (key : TemplateKey) (d : Disk) :
    (g.compile key).runOn d = ((g.repository.textOf d key).bind fun text =>
      (CompiledTemplate.compile key.text text).map (·.requiring key.required), d) := by
  unfold compile Repository.textOf
  rw [runOn_bind, (g.repository.reads_load key).runOn_eq]
  cases ((g.repository.load key).runOn d).1 with
  | error e => rfl
  | ok record =>
      dsimp only
      rw [runOn_bind_pure, runOn_ofExcept]
      rfl

theorem sameAnswer_compile {g : Generator} {key : TemplateKey} {d e : Disk}
    (h : g.repository.textOf e key = g.repository.textOf d key) : SameAnswer d e (g.compile key) := by
  unfold SameAnswer
  rw [runOn_compile, runOn_compile, h]

theorem reads_renderFragment (g : Generator) (key : TemplateKey) (context : Context)
    (node : String) : Reads (g.renderFragment key context node) := by
  unfold renderFragment
  refine reads_mapError (reads_bind (g.reads_compile key) fun _ => reads_ofExcept _) _

end Generator

/-! ## The backends -/

theorem ManifestSpec.readsOnly_backend (s : ManifestSpec) : s.backend.ReadsOnly :=
  fun _ => reads_pure _

theorem MongoSpec.readsOnly_backend (s : MongoSpec) : s.backend.ReadsOnly :=
  fun _ => reads_ofExcept _

theorem ApiSpec.readsOnly_backend (s : ApiSpec) : s.backend.ReadsOnly :=
  fun _ => reads_ofExcept _

theorem RpcSpec.reads_planMethods (s : RpcSpec) (g : Generator) (ms : List RpcMethod) :
    Reads (s.planMethods g ms) := by
  induction ms with
  | nil => exact reads_pure _
  | cons m ms ih =>
      unfold planMethods planMethod
      refine reads_bind ?_ fun _ => reads_bind ih fun _ => reads_pure _
      exact reads_bind (g.reads_renderFragment _ _ _) fun _ => reads_pure _

theorem RpcSpec.readsOnly_backend (s : RpcSpec) : s.backend.ReadsOnly := by
  intro g
  exact reads_bind (s.reads_planMethods g _) fun _ => reads_pure _

theorem ModelSpec.reads_planTables (s : ModelSpec) (g : Generator) (ts : List Table) :
    Reads (s.planTables g ts) := by
  induction ts with
  | nil => exact reads_pure _
  | cons t ts ih =>
      unfold planTables planTable
      refine reads_bind ?_ fun _ => reads_bind ih fun _ => reads_pure _
      exact reads_bind (g.reads_renderFragment _ _ _) fun _ => reads_pure _

theorem ModelSpec.readsOnly_backend (s : ModelSpec) : s.backend.ReadsOnly := by
  intro g
  change Reads (if s.tables.isEmpty then _ else _)
  split
  · exact reads_throw _
  · exact reads_bind (s.reads_planTables g _) fun _ => reads_pure _

end Scaffold
