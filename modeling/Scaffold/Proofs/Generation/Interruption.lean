import Scaffold.Proofs.Disk.WellFormed
import Scaffold.Proofs.Generation.Reporting

/-!
# Runs that stop

A run that fails at a target has done the targets before it exactly as a run of
them alone does. What fails before the file is written leaves the disk as it
is then; a file that cannot be written leaves at most new directories above it.
-/

namespace Scaffold

open Scaffold.Action Scaffold.Path

/-! ## Paths that a failed write leaves alone -/

namespace Disk

variable {d e : Disk} {p q : Path}

/-- A path at whose place and below it nothing changes, and which leads where it led. -/
def Untouched (d e : Disk) (p : Path) : Prop :=
  d.SameLook e p ∧ ∀ below, e.find? (d.placeOf p ++ below) = d.find? (d.placeOf p ++ below)

theorem untouched_of_find? {files directories : Location → Prop}
    (h : Frame files directories d e) (hd : d.WellFormed) (hp : d.Settled p)
    (hfind : ∀ below, e.find? (d.placeOf p ++ below) = d.find? (d.placeOf p ++ below)) :
    d.Untouched e p := by
  refine ⟨h.sameLook hd hp ?_, hfind⟩
  have hplace := hfind []
  rwa [List.append_nil] at hplace

/-- New directories above a settled path leave the path alone. -/
theorem Frame.untouched_of_above (h : Frame (fun _ => False) (d.Above p) d e) (hd : d.WellFormed)
    (hp : d.Settled p) : d.Untouched e p := by
  refine untouched_of_find? h hd hp fun below => h.find?_eq id fun hnone habove => ?_
  exact ne_placeOf_of_above hd hp habove hnone below rfl

end Disk

/-! ## The step that fails -/

namespace Generator

variable {g : Generator}

/-- What a step that fails does to a disk: nothing, or what a failed attempt to
write the text of its target does. -/
def Spoils (g : Generator) (t : Target) (dest : Path) (d : Disk) (source : Error)
    (after : Disk) : Prop :=
  after = d ∨ ∃ text path fault, g.Renders d (t, dest) text ∧ source = .io path fault ∧
    (writeFile dest text).runOn d = (.error source, after)

theorem Step.spoils {t : Target} {dest : Path} {d after : Disk} {e : Error}
    (h : Step g t dest d (.error e) after) :
    ∃ source, e = attributeTo t source ∧ g.Spoils t dest d source after := by
  cases h with
  | @uncompiled source hc => exact ⟨source, rfl, Or.inl rfl⟩
  | @unrendered c source hc hk hx => exact ⟨source, rfl, Or.inl rfl⟩
  | @unformatted c raw source hc hk hx hf => exact ⟨source, rfl, Or.inl rfl⟩
  | @unwritten c raw text source after hc hk hx hf hw =>
      obtain ⟨path, fault, rfl⟩ := io_of_writeFile hw
      exact ⟨_, rfl, Or.inr ⟨text, path, fault, ⟨c, raw, hc, hx, hf⟩, rfl, hw⟩⟩

theorem Spoils.frame {t : Target} {dest : Path} {d after : Disk} {source : Error}
    (h : g.Spoils t dest d source after) : d.Frame (fun _ => False) (d.Above dest) after := by
  rcases h with rfl | ⟨text, path, fault, -, -, hwrite⟩
  · exact Disk.Frame.refl _
  · exact frame_of_writeFile_eq_error hwrite

/-! ## Plans cut short -/

theorem checkPaths_take {dir : Path} {seen : List Path} {ts : List Target}
    {planned : List (Target × Path)} (h : checkPaths dir seen ts = .ok planned) (k : Nat) :
    checkPaths dir seen (ts.take k) = .ok (planned.take k) := by
  induction ts generalizing seen planned k with
  | nil =>
      rw [← Except.ok.inj h, List.take_nil, List.take_nil]
      rfl
  | cons t ts ih =>
      cases k with
      | zero => rfl
      | succ k =>
          obtain ⟨dest, rest, hdest, hnew, hrest, rfl⟩ := checkPaths_cons_eq_ok h
          exact checkPaths_cons_of_ok hdest hnew (ih hrest k)

/-- The destinations of a plan lie one below the other as their places do. -/
theorem prefix_components_of_prefix_placeOf {dir : Path} {t s : Target} {p q : Path} {d : Disk}
    (hp : t.destination dir = .ok p) (hq : s.destination dir = .ok q)
    (h : d.placeOf p <+: d.placeOf q) : p.components <+: q.components := by
  unfold Disk.placeOf at h
  rw [(Target.components_destination hp).1, (Target.components_destination hq).1] at h ⊢
  rw [Disk.follow_append, Disk.follow_append, Disk.follow_names, Disk.follow_names,
    List.prefix_append_right_inj] at h
  rw [List.prefix_append_right_inj]
  exact h.map _

/-- What is written at other destinations leaves the destination of a target alone that
stands neither at one of them nor above it. -/
theorem untouched_beside {dir q : Path} {t : Target} {d m : Disk} {done : List (Target × Path)}
    (hd : d.WellFormed) (hdir : d.Settled dir)
    (hdone : ∀ y ∈ done, y.1.destination dir = .ok y.2) (hq : t.destination dir = .ok q)
    (hfree : ∀ y ∈ done, ¬ q.components <+: y.2.components)
    (hm : d.ChangesAt (· ∈ done.map Prod.snd) m) : d.Untouched m q := by
  have hsettled : ∀ {s : Target} {p : Path}, s.destination dir = .ok p → d.Settled p :=
    fun hp => hdir.append_names (Target.components_destination hp).1
  refine Disk.untouched_of_find? hm hd (hsettled hq) fun below => hm.find?_eq hd ?_ ?_
  · intro p hp
    obtain ⟨y, hy, rfl⟩ := List.mem_map.mp hp
    exact hsettled (hdone y hy)
  · intro p hp hprefix
    obtain ⟨y, hy, rfl⟩ := List.mem_map.mp hp
    exact hfree y hy (prefix_components_of_prefix_placeOf hq (hdone y hy)
      ((List.prefix_append _ below).trans hprefix))

/-! ## Whole runs -/

/-- A run of `ts` that stops with `e` at the target `t` at position `k`: `before`
is the disk that a run of the targets in front of it leaves. -/
structure StopsAt (g : Generator) (dir : Path) (ts : List Target) (d after : Disk) (e : Error)
    (k : Nat) (t : Target) (dest : Path) (source : Error) (before : Disk) : Prop where
  position : ts[k]? = some t
  destination : t.destination dir = .ok dest
  error : e = .generation t.category t.template.name t.node source
  /-- The targets in front of it alone make a successful run. -/
  prefixRun : ∃ report, (g.run (.fixed (ts.take k)) dir).runOn d = (.ok report, before)
  /-- Only an attempt to write the file changes the disk. -/
  spoils : g.Spoils t dest before source after
  /-- What it changes are new directories above the file. -/
  frame : before.Frame (fun _ => False) (before.Above dest) after
  /-- What paths led to they lead to. -/
  found : ∀ p entry, before.look p = .ok entry → after.look p = .ok entry

theorem runOn_run_fixed {dir : Path} {ts : List Target} {planned : List (Target × Path)}
    (h : checkPaths dir [] ts = .ok planned) (d : Disk) :
    (g.run (.fixed ts) dir).runOn d = (g.saveAll planned).runOn d := by
  rw [runOn_run (Backend.readsOnly_fixed ts) rfl, h]

/-- The split of a plan at a position. -/
theorem split_of_planned {dir : Path} {ts : List Target} {before rest : List (Target × Path)}
    {x : Target × Path} (h : checkPaths dir [] ts = .ok (before ++ x :: rest)) :
    ts[before.length]? = some x.1 ∧
      checkPaths dir [] (ts.take before.length) = .ok before ∧
      ts.take (before.length + 1) = (before ++ [x]).map Prod.fst := by
  have hts := map_fst_of_checkPaths h
  have hlength : ((before ++ [x]).map Prod.fst).length = before.length + 1 := by simp
  have hsplit : (before ++ [x]).map Prod.fst ++ rest.map Prod.fst = ts := by
    rw [← hts, ← List.map_append, List.append_assoc, List.singleton_append]
  refine ⟨?_, ?_, ?_⟩
  · rw [← hts, List.getElem?_map, List.getElem?_append_right (Nat.le_refl _), Nat.sub_self]
    rfl
  · have htake := checkPaths_take h before.length
    rwa [List.take_left] at htake
  · rw [← hsplit]
    exact List.take_left' hlength

/-- A run that fails once its paths are checked stops at some target. The
targets in front of it are on the disk as a run of them alone leaves them, and
unless the file of that target cannot be written the disk is as that run leaves
it. If every step up in the output directory leaves a directory that is there
before the run, the destination of the target is as that run leaves it, and no
later destination is touched that has none of the destinations so far at or below
it. -/
theorem stopped_run_keeps_prefix {g : Generator} {b : Backend} {dir : Path} {d after : Disk}
    {ts : List Target} {planned : List (Target × Path)} {e : Error} (hb : b.ReadsOnly)
    (hplan : ((b.plan g).runOn d).1 = .ok ts) (hcheck : checkPaths dir [] ts = .ok planned)
    (hd : d.WellFormed) (hrun : (g.run b dir).runOn d = (.error e, after)) :
    ∃ k t dest source before, StopsAt g dir ts d after e k t dest source before ∧
      (d.Settled dir → before.Untouched after dest ∧
        ∀ s ∈ ts.drop (k + 1), ∀ q, s.destination dir = .ok q →
          (∀ u ∈ ts.take (k + 1), ∀ p, u.destination dir = .ok p →
            ¬ q.components <+: p.components) → d.Untouched after q) := by
  rw [runOn_run hb hplan, hcheck] at hrun
  obtain ⟨front, ⟨t, dest⟩, rest, report, before, rfl, hfront, hsave⟩ := saveAll_eq_error hrun
  obtain ⟨hposition, htake, hdone⟩ := split_of_planned hcheck
  have hdest := destination_of_checkPaths hcheck
  have hfrontChange := (g.steps_saveAll front d).changesAt
  have hbeforeFormed := g.wellFormed_saveAll front hd
  rw [hfront] at hfrontChange hbeforeFormed
  have hstep := g.step_saveTarget t dest before
  rw [hsave] at hstep
  obtain ⟨source, rfl, hspoils⟩ := hstep.spoils
  refine ⟨front.length, t, dest, source, before, ⟨hposition, ?_, rfl, ⟨report, ?_⟩, hspoils,
    hspoils.frame, fun p entry hlook => hspoils.frame.look_eq_ok hlook id⟩, fun hdir => ?_⟩
  · exact hdest (t, dest) (List.mem_append_right _ List.mem_cons_self)
  · exact (runOn_run_fixed htake d).trans hfront
  · have hchange := changesAt_snoc (x := (t, dest)) hfrontChange hstep
    have hsettled : d.Settled dest :=
      hdir.append_names (Target.components_destination
        (hdest (t, dest) (List.mem_append_right _ List.mem_cons_self))).1
    refine ⟨hspoils.frame.untouched_of_above hbeforeFormed (hsettled.frame hfrontChange),
      fun _ _ q hq hfree => ?_⟩
    have hsofar : ∀ y ∈ front ++ [(t, dest)], y.1.destination dir = .ok y.2 := by
      intro y hy
      refine hdest y ?_
      rw [List.append_cons]
      exact List.mem_append_left _ hy
    refine untouched_beside hd hdir hsofar hq (fun y hy => ?_) hchange
    exact hfree y.1 (hdone ▸ List.mem_map_of_mem hy) y.2 (hsofar y hy)

/-- A target in a folder. -/
def plainIn (folder filename : String) : Target :=
  { Target.plain filename "error.tpl" .always with subdir := folder }

/-- A file and one below a place where another file is. -/
def belowFile : List Target := [.plain "a" "error.tpl" .always, plainIn "b" "c"]

theorem stopped_run_keeps_first_file :
    ∃ e k t dest source before,
      StopsAt plain ⟨"out"⟩ belowFile shelf
        ((plain.run (.fixed belowFile) ⟨"out"⟩).runOn shelf).2 e k t dest source before ∧
      (shelf.Settled ⟨"out"⟩ →
        before.Untouched ((plain.run (.fixed belowFile) ⟨"out"⟩).runOn shelf).2 dest ∧
        ∀ s ∈ belowFile.drop (k + 1), ∀ q, s.destination ⟨"out"⟩ = .ok q →
          (∀ u ∈ belowFile.take (k + 1), ∀ p, u.destination ⟨"out"⟩ = .ok p →
            ¬ q.components <+: p.components) →
          shelf.Untouched ((plain.run (.fixed belowFile) ⟨"out"⟩).runOn shelf).2 q) := by
  have hcheck : checkPaths ⟨"out"⟩ [] belowFile =
      .ok (belowFile.zip [⟨"out/a"⟩, ⟨"out/b/c"⟩]) := by decide
  have hfail : ((plain.run (.fixed belowFile) ⟨"out"⟩).runOn shelf).1.toOption = none := by
    decide
  rcases hrun : (plain.run (.fixed belowFile) ⟨"out"⟩).runOn shelf with ⟨r, after⟩
  rw [hrun] at hfail
  cases r with
  | ok report => exact absurd hfail nofun
  | error e =>
      exact ⟨e, stopped_run_keeps_prefix (Backend.readsOnly_fixed _) rfl hcheck wellFormed_shelf
        hrun⟩

/-- A plan with a single target stops there, on the disk it starts on. -/
theorem StopsAt.of_single {dir dest : Path} {t u : Target} {d after before : Disk} {e : Error}
    {k : Nat} {source : Error} (h : StopsAt g dir [u] d after e k t dest source before) :
    t = u ∧ before = d := by
  have hposition := h.position
  cases k with
  | succ k => exact absurd hposition nofun
  | zero =>
      obtain ⟨report, hrun⟩ := h.prefixRun
      exact ⟨(Option.some.inj hposition).symm, (Prod.ext_iff.mp hrun).2.symm⟩

/-- A file that cannot be written in a folder, and one named like the folder. -/
def fileNamedLikeFolder : List Target := [plainIn "a" "\x00", .plain "a" "error.tpl" .always]

/-- A failed file can leave a directory in its own place, where the output
directory steps up out of a directory that the attempt makes; and it can leave
one in the place of a later target, if its folder has that place. -/
theorem stopped_run_makes_directory :
    (¬ ∀ (g : Generator) (b : Backend) (dir : Path) (d after : Disk) (ts : List Target)
      (planned : List (Target × Path)) (e : Error), b.ReadsOnly →
      ((b.plan g).runOn d).1 = .ok ts → checkPaths dir [] ts = .ok planned → d.WellFormed →
      (g.run b dir).runOn d = (.error e, after) →
        ∃ k t dest source before, StopsAt g dir ts d after e k t dest source before ∧
          before.Untouched after dest) ∧
    (¬ ∀ (g : Generator) (b : Backend) (dir : Path) (d after : Disk) (ts : List Target)
      (planned : List (Target × Path)) (e : Error), b.ReadsOnly →
      ((b.plan g).runOn d).1 = .ok ts → checkPaths dir [] ts = .ok planned → d.WellFormed →
      (g.run b dir).runOn d = (.error e, after) → d.Settled dir →
        ∃ k t dest source before, StopsAt g dir ts d after e k t dest source before ∧
          ∀ s ∈ ts.drop (k + 1), ∀ q, s.destination dir = .ok q → d.Untouched after q) := by
  have hbare : bare.WellFormed :=
    Disk.wellFormed_of_entries (by decide) (by decide)
  refine ⟨fun h => ?_, fun h => ?_⟩
  · have hdest : (Target.plain "x" "error.tpl" .always).destination ⟨"x/.."⟩ =
        .ok ⟨"x/../x"⟩ := by decide
    have hfail : ((plain.run (.fixed [.plain "x" "error.tpl" .always]) ⟨"x/.."⟩).runOn
        bare).1.toOption = none := by decide
    have hmade : ((plain.run (.fixed [.plain "x" "error.tpl" .always]) ⟨"x/.."⟩).runOn
        bare).2.find? (bare.placeOf ⟨"x/../x"⟩) ≠ bare.find? (bare.placeOf ⟨"x/../x"⟩) := by
      decide
    rcases hrun : (plain.run (.fixed [.plain "x" "error.tpl" .always]) ⟨"x/.."⟩).runOn bare
      with ⟨r, after⟩
    rw [hrun] at hfail hmade
    cases r with
    | ok report => exact absurd hfail nofun
    | error e =>
        obtain ⟨k, t, dest, source, before, hstops, -, hfind⟩ := h plain _ ⟨"x/.."⟩ bare after _
          [(.plain "x" "error.tpl" .always, ⟨"x/../x"⟩)] e (Backend.readsOnly_fixed _) rfl
          (by decide) hbare hrun
        obtain ⟨rfl, rfl⟩ := hstops.of_single
        obtain rfl := Except.ok.inj (hdest.symm.trans hstops.destination)
        have hplace := hfind []
        rw [List.append_nil] at hplace
        exact hmade hplace
  · have hdest : (Target.plain "a" "error.tpl" .always).destination ⟨"out"⟩ = .ok ⟨"out/a"⟩ := by
      decide
    have hfail : ((plain.run (.fixed fileNamedLikeFolder) ⟨"out"⟩).runOn bare).1.toOption =
        none := by decide +kernel
    have hfirst : ((plain.run (.fixed [plainIn "a" "\x00"]) ⟨"out"⟩).runOn bare).1.toOption =
        none := by decide
    have hmade : ((plain.run (.fixed fileNamedLikeFolder) ⟨"out"⟩).runOn bare).2.find?
        (bare.placeOf ⟨"out/a"⟩) ≠ bare.find? (bare.placeOf ⟨"out/a"⟩) := by decide +kernel
    rcases hrun : (plain.run (.fixed fileNamedLikeFolder) ⟨"out"⟩).runOn bare with ⟨r, after⟩
    rw [hrun] at hfail hmade
    cases r with
    | ok report => exact absurd hfail nofun
    | error e =>
        obtain ⟨k, t, dest, source, before, hstops, hlater⟩ := h plain _ ⟨"out"⟩ bare after _
          (fileNamedLikeFolder.zip [⟨"out/a/\x00"⟩, ⟨"out/a"⟩]) e (Backend.readsOnly_fixed _) rfl
          (by decide +kernel) hbare hrun (Disk.settled_of_no_parent (by decide +kernel))
        have hposition := hstops.position
        match k with
        | 0 =>
            obtain ⟨-, hfind⟩ := hlater _ List.mem_cons_self _ hdest
            have hplace := hfind []
            rw [List.append_nil] at hplace
            exact hmade hplace
        | 1 =>
            obtain ⟨report, hprefix⟩ := hstops.prefixRun
            have hreport : ((plain.run (.fixed [plainIn "a" "\x00"]) ⟨"out"⟩).runOn bare).1 =
                .ok report := congrArg Prod.fst hprefix
            rw [hreport] at hfirst
            exact absurd hfirst nofun
        | k + 2 => exact absurd hposition nofun

end Generator

end Scaffold
