import Scaffold.Proofs.Generation.PathCheck

/-!
# What a run can change

Whatever the names in a specification say and however a run ends, it changes the
places of its planned destinations and makes directories above them. Each
destination is the output directory followed by ordinary names, so its place
lies below the place of that directory.
-/

namespace Scaffold

open Scaffold.Path

namespace Generator

/-- The destinations that a backend plans on a disk. -/
def Planned (g : Generator) (b : Backend) (dir : Path) (d : Disk) (dest : Path) : Prop :=
  ∃ ts, ((b.plan g).runOn d).1 = .ok ts ∧ ∃ t ∈ ts, t.destination dir = .ok dest

/-- A planned destination is the output directory and ordinary names below it. -/
theorem Planned.below {g : Generator} {b : Backend} {dir dest : Path} {d : Disk}
    (h : g.Planned b dir d dest) :
    ∃ names : List String, names ≠ [] ∧ (∀ name ∈ names, IsOrdinary name) ∧
      dest.components = dir.components ++ names.map .name ∧
      d.placeOf dest = d.placeOf dir ++ names := by
  obtain ⟨ts, -, t, -, hdest⟩ := h
  obtain ⟨hcomponents, hordinary⟩ := Target.components_destination hdest
  refine ⟨t.names, t.names_ne_nil, hordinary, hcomponents, ?_⟩
  unfold Disk.placeOf
  rw [hcomponents, Disk.follow_append, Disk.follow_names]

/-- A run changes planned destinations and makes directories above them. -/
theorem changesAt_run (g : Generator) {b : Backend} (hb : b.ReadsOnly) (dir : Path) (d : Disk) :
    d.ChangesAt (g.Planned b dir d) ((g.run b dir).runOn d).2 := by
  cases hplan : ((b.plan g).runOn d).1 with
  | error e =>
      have hfail : (Action.mapError (b.plan g) (attributePlan b)).runOn d =
          (.error (attributePlan b e), d) := by
        rw [Action.runOn_mapError, (hb g).runOn_eq, hplan]
        rfl
      rw [run_eq, Action.runOn_bind_of_error hfail]
      exact Disk.ChangesAt.refl d
  | ok ts =>
      rw [runOn_run hb hplan]
      cases hcheck : checkPaths dir [] ts with
      | error e => exact Disk.ChangesAt.refl d
      | ok planned =>
          refine (g.steps_saveAll planned d).changesAt.mono fun dest hdest => ?_
          obtain ⟨x, hx, rfl⟩ := List.mem_map.mp hdest
          exact ⟨ts, hplan, x.1, map_fst_of_checkPaths hcheck ▸ List.mem_map_of_mem hx,
            destination_of_checkPaths hcheck x hx⟩

/-- However a run ends, it changes planned destinations and makes directories
above them: every location is as it was, or is the place of a planned
destination and holds a file now where no directory was, or is a new directory
above a planned destination where nothing was. Every planned destination is the
output directory followed by at least one ordinary name. -/
theorem run_confined (g : Generator) (b : Backend) (hb : b.ReadsOnly) (dir : Path) (d : Disk) :
    d.ChangesAt (g.Planned b dir d) ((g.run b dir).runOn d).2 ∧
    ∀ dest, g.Planned b dir d dest →
      ∃ names : List String, names ≠ [] ∧ (∀ name ∈ names, IsOrdinary name) ∧
        dest.components = dir.components ++ names.map .name ∧
        d.placeOf dest = d.placeOf dir ++ names :=
  ⟨g.changesAt_run hb dir d, fun _ hdest => hdest.below⟩

/-- The files of a collection are confined to the output directory. -/
theorem run_confined_collection :
    Disk.ChangesAt (plain.Planned (MongoSpec.mk ["user"] false).backend ⟨"out"⟩ {}) {}
      ((plain.run (MongoSpec.mk ["user"] false).backend ⟨"out"⟩).runOn {}).2 ∧
    ∀ dest, plain.Planned (MongoSpec.mk ["user"] false).backend ⟨"out"⟩ {} dest →
      ∃ names : List String, names ≠ [] ∧ (∀ name ∈ names, IsOrdinary name) ∧
        dest.components = (Path.mk "out").components ++ names.map .name ∧
        Disk.placeOf {} dest = Disk.placeOf {} ⟨"out"⟩ ++ names :=
  run_confined plain _ (MongoSpec.readsOnly_backend _) ⟨"out"⟩ {}

end Generator

end Scaffold
