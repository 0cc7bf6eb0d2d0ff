import Scaffold.Proofs.Generation.Interruption
import Scaffold.Proofs.Generation.Regeneration

/-!
# Files and directories of one plan

The check of a plan compares whole paths. A path can also stand in the way of
another one by being a directory on the way to it: then the file of the one is
refused, or the directory of the other is taken for a file that is there. In an
empty output directory, and with paths that are short enough, that is all that can
go wrong on the disk: a run writes every target exactly when all of them render and
no path lies above another.
-/

namespace Scaffold

open Scaffold.Action Scaffold.Path

/-! ## Output directories without anything in them -/

namespace Disk

variable {d e : Disk} {p : Path}

/-- A place for new files: nothing lies below it, no file is on the way to it, and
every step up on the way leaves a directory that is there. -/
structure Vacant (d : Disk) (p : Path) : Prop where
  settled : d.Settled p
  noFile : ∀ l, d.Along p l → ∀ content, d.find? l ≠ some (.file content)
  empty : ∀ name below, d.find? (d.placeOf p ++ name :: below) = none

theorem find?_of_below {l : Location} (h : d.below l = []) (name : String) (below : Location) :
    d.find? (l ++ name :: below) = none := by
  cases hfind : d.find? (l ++ name :: below) with
  | none => rfl
  | some entry =>
      unfold find? at hfind
      rw [if_neg (by simp)] at hfind
      have hlisted := List.filterMap_eq_nil_iff.mp h (l ++ name :: below, entry)
        (mem_of_lookup hfind)
      simp at hlisted

/-- An empty directory is such a place. -/
theorem vacant_of_look (hd : d.WellFormed) {l : Location} (hlook : d.look p = .ok (l, .directory))
    (hempty : d.below l = []) : d.Vacant p := by
  obtain ⟨hresolve, hfind⟩ := look_eq_ok_iff.mp hlook
  obtain rfl := resolve_eq_ok hresolve
  refine ⟨settled_of_resolve hd hresolve, fun l hl content hfile => ?_, find?_of_below hempty⟩
  rw [directory_of_along hd hresolve hfind hl] at hfile
  exact absurd hfile nofun

/-- A path that is refused as a whole has a NUL in it, no text or one that is too long. -/
theorem refusal?_eq_none (hnul : Char.ofNat 0 ∉ p.text.toList) (hne : p.text ≠ "")
    (hlimit : p.text.utf8ByteSize < pathLimit) : refusal? p = none := by
  unfold refusal?
  rw [if_neg (by simpa using hnul), if_neg hne, if_neg (Nat.not_le.mpr hlimit)]

end Disk

/-! ## Places of destinations -/

namespace Target

variable {t : Target} {dir p : Path} {d : Disk}

theorem placeOf_destination (h : t.destination dir = .ok p) (d : Disk) :
    d.placeOf p = d.placeOf dir ++ t.names := by
  unfold Disk.placeOf
  rw [(components_destination h).1, Disk.follow_append, Disk.follow_names]

/-- What lies above a destination is on the way to the output directory or is one of
the folders below it. -/
theorem above_destination (h : t.destination dir = .ok p) {l : Location} (hl : d.Above p l) :
    d.Along dir l ∨ ∃ name below, l = d.placeOf dir ++ name :: below ∧
      dir.components ++ (name :: below).map .name <+: p.components := by
  obtain ⟨cs, hcs, -, rfl⟩ := hl
  have hdir : dir.components <+: p.components :=
    (components_destination h).1 ▸ List.prefix_append _ _
  rcases List.prefix_or_prefix_of_prefix hcs hdir with hway | ⟨folders, rfl⟩
  · exact Or.inl ⟨cs, hway, rfl⟩
  · have hfolders := hcs
    rw [(components_destination h).1, List.prefix_append_right_inj, List.prefix_map_iff]
      at hfolders
    obtain ⟨names, -, rfl⟩ := hfolders
    cases names with
    | nil => exact Or.inl ⟨dir.components, List.prefix_rfl, by simp⟩
    | cons name below =>
        refine Or.inr ⟨name, below, ?_, hcs⟩
        rw [Disk.follow_append, Disk.follow_names]
        rfl

end Target

/-! ## Plans without paths above paths -/

namespace Generator

variable {g : Generator} {dir : Path} {d : Disk} {ts : List Target}

/-- A path that the file system accepts: no name in it is too long, nor is the whole
text, and there is no NUL in it. -/
structure Short (p : Path) : Prop where
  names : Disk.Fits p
  noNul : Char.ofNat 0 ∉ p.text.toList
  text : p.text.utf8ByteSize < Disk.pathLimit

theorem Short.refusal?_eq_none {t : Target} {p : Path} (h : Short p)
    (hdest : t.destination dir = .ok p) : Disk.refusal? p = none := by
  refine Disk.refusal?_eq_none h.noNul (fun hempty => ?_) h.text
  have hnames := (Target.components_destination hdest).1
  rw [components_of_empty hempty] at hnames
  obtain ⟨name, below, hcons⟩ := List.exists_cons_of_ne_nil t.names_ne_nil
  rw [hcons] at hnames
  exact absurd hnames (by simp)

/-- No planned path is a proper ancestor directory of another one. -/
def Coexist (planned : List (Target × Path)) : Prop :=
  ∀ x ∈ planned, ∀ y ∈ planned, x.2.components <+: y.2.components →
    x.2.components = y.2.components

/-- Every target that a run comes to is rendered and formatted. -/
def RendersAll (g : Generator) (planned : List (Target × Path)) (d : Disk) : Prop :=
  ∀ before x rest report mid, planned = before ++ x :: rest →
    (g.saveAll before).runOn d = (.ok report, mid) → ∃ text, g.Renders mid x text

/-- The text of a target on a disk, or why it has none. -/
def rendered (g : Generator) (x : Target × Path) (d : Disk) : Except Error String := do
  let c ← g.compiled x.1 d
  let raw ← g.tools.execute c x.1.context
  g.tools.formatter x.2 raw

theorem renders_of_rendered {x : Target × Path} {text : String} (h : g.rendered x d = .ok text) :
    g.Renders d x text := by
  unfold rendered at h
  cases hc : g.compiled x.1 d with
  | error e =>
      rw [hc] at h
      exact absurd h nofun
  | ok c =>
      rw [hc] at h
      cases hx : g.tools.execute c x.1.context with
      | error e =>
          change (g.tools.execute c x.1.context >>= _) = _ at h
          rw [hx] at h
          exact absurd h nofun
      | ok raw =>
          change (g.tools.execute c x.1.context >>= _) = _ at h
          rw [hx] at h
          exact ⟨c, raw, hc, hx, h⟩

theorem rendersAll_nil : g.RendersAll [] d := by
  intro before x rest report mid hsplit
  exact absurd hsplit (by simp)

theorem rendersAll_cons_iff {x : Target × Path} {rest : List (Target × Path)} :
    g.RendersAll (x :: rest) d ↔ (∃ text, g.Renders d x text) ∧
      ∀ saved mid, (g.saveTarget x.1 x.2).runOn d = (.ok saved, mid) → g.RendersAll rest mid := by
  constructor
  · intro h
    refine ⟨h [] x rest ⟨[], []⟩ d rfl rfl, fun saved mid hsave => ?_⟩
    intro before y after report last hsplit hrun
    refine h (x :: before) y after (report.record x.2 saved) last (by rw [hsplit]; rfl) ?_
    rw [saveAll_cons_of_ok hsave, hrun]
    rfl
  · rintro ⟨hx, hrest⟩ before y after report last hsplit hrun
    cases before with
    | nil =>
        obtain ⟨rfl, -⟩ := List.cons.inj hsplit
        obtain ⟨-, rfl⟩ := Prod.ext_iff.mp hrun
        exact hx
    | cons z before =>
        obtain ⟨rfl, htail⟩ := List.cons.inj hsplit
        obtain ⟨saved, mid, hsave, hnext⟩ := bind_eq_ok hrun
        obtain ⟨tail, m, hbefore, hlast⟩ := bind_eq_ok hnext
        obtain rfl : m = last := by cases saved <;> exact (Prod.ext_iff.mp hlast).2
        exact hrest saved mid hsave before y after tail m htail hbefore

/-- Two targets that render wherever they are saved. -/
theorem rendersAll_pair {x y : Target × Path} (text other : String)
    (hx : g.rendered x d = .ok text)
    (hy : g.rendered y ((g.saveTarget x.1 x.2).runOn d).2 = .ok other) :
    g.RendersAll [x, y] d := by
  refine rendersAll_cons_iff.mpr ⟨⟨text, renders_of_rendered hx⟩, fun saved mid hsave => ?_⟩
  rw [hsave] at hy
  exact rendersAll_cons_iff.mpr ⟨⟨other, renders_of_rendered hy⟩, fun _ _ _ => rendersAll_nil⟩

section Plan

variable {planned done rest : List (Target × Path)} {x : Target × Path} {m : Disk}

theorem apart_of_coexist (hcheck : checkPaths dir [] ts = .ok (done ++ x :: rest))
    (hcoexist : Coexist (done ++ x :: rest)) : ∀ y ∈ done,
      ¬ y.2.components <+: x.2.components ∧ ¬ x.2.components <+: y.2.components := by
  intro y hy
  have hdistinct := (List.pairwise_append.mp (distinct_of_checkPaths hcheck).2).2.2 y hy x
    List.mem_cons_self
  have hne : y.2.components ≠ x.2.components := by
    unfold Path.same at hdistinct
    simpa using hdistinct
  have hymem : y ∈ done ++ x :: rest := List.mem_append_left _ hy
  have hxmem : x ∈ done ++ x :: rest := List.mem_append_right _ List.mem_cons_self
  exact ⟨fun h => hne (hcoexist y hymem x hxmem h), fun h => hne (hcoexist x hxmem y hymem h).symm⟩

/-- The files that are done are not in the way of another one that lies below none of them. -/
theorem noFile_above (hd : d.WellFormed) (hvacant : d.Vacant dir)
    (hdone : ∀ y ∈ done, y.1.destination dir = .ok y.2) (hx : x.1.destination dir = .ok x.2)
    (hapart : ∀ y ∈ done, ¬ y.2.components <+: x.2.components)
    (hm : d.ChangesAt (· ∈ done.map Prod.snd) m) {l : Location} (hl : d.Above x.2 l)
    (content : ByteArray) : m.find? l ≠ some (.file content) := by
  intro hfile
  have hsource : d.find? l = some (.file content) ∨
      ∃ y ∈ done, l = d.placeOf dir ++ y.1.names := by
    by_cases hplace : ∃ p, p ∈ done.map Prod.snd ∧ l = d.placeOf p
    · obtain ⟨p, hp, rfl⟩ := hplace
      obtain ⟨y, hy, rfl⟩ := List.mem_map.mp hp
      exact Or.inr ⟨y, hy, Target.placeOf_destination (hdone y hy) d⟩
    · exact Or.inl (Disk.Frame.file hm hplace hfile)
  rcases Target.above_destination hx hl with hway | ⟨name, below, hfolder, hprefix⟩
  · rcases hsource with hsource | ⟨y, hy, hplace⟩
    · exact hvacant.noFile l hway content hsource
    -- a place on the way to the output directory that is missing does not lie below it
    · obtain ⟨cs, ⟨rest, hrest⟩, hcs⟩ := hway
      obtain ⟨name, below, hnames⟩ := List.exists_cons_of_ne_nil y.1.names_ne_nil
      have hnone : d.find? (Disk.follow d.workingDirectory cs) = none := by
        rw [← hcs, hplace, hnames]
        exact hvacant.empty name below
      have hlength := (Disk.prefix_placeOf_of_missing hd hvacant.settled hrest.symm hnone).length_le
      rw [← hcs, hplace, hnames, List.length_append, List.length_cons] at hlength
      omega
  · rcases hsource with hsource | ⟨y, hy, hplace⟩
    · rw [hfolder, hvacant.empty] at hsource
      exact absurd hsource nofun
    · have hnames := List.append_cancel_left (hfolder.symm.trans hplace)
      refine hapart y hy ?_
      rw [(Target.components_destination (hdone y hy)).1, ← hnames]
      exact hprefix

/-- Once some targets are done, the next one can be written and nothing is there that
it would be skipped for. -/
theorem writable_next (hd : d.WellFormed) (hvacant : d.Vacant dir)
    (hcheck : checkPaths dir [] ts = .ok (done ++ x :: rest))
    (hcoexist : Coexist (done ++ x :: rest)) (hshort : Short x.2)
    (hm : d.ChangesAt (· ∈ done.map Prod.snd) m) :
    m.Writable x.2 ∧ m.pathExists x.2 = false := by
  have hdest := destination_of_checkPaths hcheck
  have hdone : ∀ y ∈ done, y.1.destination dir = .ok y.2 := fun y hy =>
    hdest y (List.mem_append_left _ hy)
  have hx : x.1.destination dir = .ok x.2 :=
    hdest x (List.mem_append_right _ List.mem_cons_self)
  have hapart := apart_of_coexist hcheck hcoexist
  have hsettled : d.Settled x.2 :=
    hvacant.settled.append_names (Target.components_destination hx).1
  have hmissing : m.find? (m.placeOf x.2) = none := by
    obtain ⟨name, below, hnames⟩ := List.exists_cons_of_ne_nil x.1.names_ne_nil
    have hplace := (untouched_beside hd hvacant.settled hdone hx (fun y hy => (hapart y hy).2) hm).2 []
    rw [List.append_nil] at hplace
    rw [Disk.placeOf_congr hm.workingDirectory, hplace, Target.placeOf_destination hx, hnames]
    exact hvacant.empty name below
  refine ⟨⟨trimmed_of_destination hx, hshort.refusal?_eq_none hx, hshort.names,
    hsettled.frame hm, ?_, ?_⟩, Disk.pathExists_of_missing hmissing⟩
  · exact fun l hl => noFile_above hd hvacant hdone hx (fun y hy => (hapart y hy).1) hm
      (Disk.above_congr hm.workingDirectory hl)
  · rw [hmissing]
    exact nofun

/-- The targets that are left are all written. The induction is on them. -/
theorem saveAll_of_coexist (hd : d.WellFormed) (hvacant : d.Vacant dir)
    (hcheck : checkPaths dir [] ts = .ok (done ++ rest)) (hcoexist : Coexist (done ++ rest))
    (hshort : ∀ x ∈ rest, Short x.2) (hm : d.ChangesAt (· ∈ done.map Prod.snd) m)
    (hformed : m.WellFormed) (hrenders : g.RendersAll rest m) :
    ∃ after, (g.saveAll rest).runOn m = (.ok ⟨rest.map Prod.snd, []⟩, after) := by
  induction rest generalizing done m with
  | nil => exact ⟨m, rfl⟩
  | cons x rest ih =>
      obtain ⟨hwritable, hmissing⟩ :=
        writable_next hd hvacant hcheck hcoexist (hshort x List.mem_cons_self) hm
      obtain ⟨⟨text, htext⟩, htail⟩ := rendersAll_cons_iff.mp hrenders
      obtain ⟨next, hwrite⟩ := writeFile_ok hformed hwritable text
      have hkeeps : ¬ Keeps x.1 x.2 m := by
        rintro ⟨-, hexists⟩
        rw [hmissing] at hexists
        exact absurd hexists nofun
      have hsave : (g.saveTarget x.1 x.2).runOn m = (.ok .written, next) :=
        runOn_saveTarget_of_written htext hkeeps hwrite
      have hstep := g.step_saveTarget x.1 x.2 m
      rw [hsave] at hstep
      rw [List.append_cons] at hcheck hcoexist
      obtain ⟨after, hrest⟩ := ih hcheck hcoexist
        (fun y hy => hshort y (List.mem_cons_of_mem _ hy)) (changesAt_snoc hm hstep)
        (hstep.wellFormed hformed) (htail _ next hsave)
      refine ⟨after, ?_⟩
      rw [saveAll_cons_of_ok hsave, hrest]
      rfl

/-! ## Runs that write everything -/

/-- A run that writes all its targets writes the first one and then all others. -/
theorem saveAll_cons_written {after : Disk}
    (h : (g.saveAll (x :: rest)).runOn d = (.ok ⟨(x :: rest).map Prod.snd, []⟩, after)) :
    ∃ mid, (g.saveTarget x.1 x.2).runOn d = (.ok .written, mid) ∧
      (g.saveAll rest).runOn mid = (.ok ⟨rest.map Prod.snd, []⟩, after) := by
  rcases hsave : (g.saveTarget x.1 x.2).runOn d with ⟨r, mid⟩
  cases r with
  | error e =>
      rw [saveAll_cons, runOn_bind_of_error hsave] at h
      exact absurd h (by simp)
  | ok saved =>
      rw [saveAll_cons_of_ok hsave] at h
      obtain ⟨hresult, hafter⟩ := Prod.ext_iff.mp h
      cases hr : ((g.saveAll rest).runOn mid).1 with
      | error e =>
          rw [hr] at hresult
          exact absurd hresult (by simp [Except.map])
      | ok report =>
          rw [hr] at hresult
          have hreport := Except.ok.inj hresult
          cases saved with
          | skipped => exact absurd (congrArg Report.skipped hreport) (List.cons_ne_nil _ _)
          | written =>
              obtain ⟨written, skipped⟩ := report
              obtain ⟨hwritten, rfl⟩ := Report.mk.inj hreport
              obtain rfl := (List.cons.inj hwritten).2
              exact ⟨mid, rfl, Prod.ext hr hafter⟩

theorem rendersAll_of_written {after : Disk}
    (h : (g.saveAll planned).runOn d = (.ok ⟨planned.map Prod.snd, []⟩, after)) :
    g.RendersAll planned d := by
  induction planned generalizing d with
  | nil => exact rendersAll_nil
  | cons x rest ih =>
      obtain ⟨mid, hsave, hrest⟩ := saveAll_cons_written h
      refine rendersAll_cons_iff.mpr ⟨?_, fun saved next hnext => ?_⟩
      · have hstep := g.step_saveTarget x.1 x.2 d
        rw [hsave] at hstep
        cases hstep with
        | @written c raw text _ hc hk hx hf hw => exact ⟨text, c, raw, hc, hx, hf⟩
      · obtain ⟨-, rfl⟩ := Prod.ext_iff.mp (hsave.symm.trans hnext)
        exact ih hrest

/-- What is written is a file when the run is over. -/
theorem file_of_written {after : Disk}
    (h : (g.saveAll planned).runOn d = (.ok ⟨planned.map Prod.snd, []⟩, after)) :
    ∀ x ∈ planned, ∃ content, after.find? (d.placeOf x.2) = some (.file content) := by
  induction planned generalizing d with
  | nil => exact fun x hx => absurd hx List.not_mem_nil
  | cons x rest ih =>
      obtain ⟨mid, hsave, hrest⟩ := saveAll_cons_written h
      have hstep := g.step_saveTarget x.1 x.2 d
      rw [hsave] at hstep
      intro y hy
      rcases List.mem_cons.mp hy with rfl | hy
      · have hsteps := (g.steps_saveAll rest mid).changesAt
        rw [hrest] at hsteps
        cases hstep with
        | written hc hk hx hf hw => exact Disk.Frame.file_of_file hsteps (find?_of_writeFile hw)
      · rw [← Disk.placeOf_congr hstep.changesAt.workingDirectory]
        exact ih hrest y hy

theorem coexist_of_written {after : Disk} (hd : d.WellFormed)
    (hcheck : checkPaths dir [] ts = .ok planned)
    (h : (g.saveAll planned).runOn d = (.ok ⟨planned.map Prod.snd, []⟩, after)) :
    Coexist planned := by
  have hdest := destination_of_checkPaths hcheck
  have hformed := g.wellFormed_saveAll planned hd
  rw [h] at hformed
  intro x hx y hy hprefix
  obtain ⟨content, hfile⟩ := file_of_written h x hx
  obtain ⟨other, hbelow⟩ := file_of_written h y hy
  rw [Target.placeOf_destination (hdest x hx)] at hfile
  rw [Target.placeOf_destination (hdest y hy)] at hbelow
  rw [(Target.components_destination (hdest x hx)).1,
    (Target.components_destination (hdest y hy)).1] at hprefix ⊢
  rw [List.prefix_append_right_inj, List.prefix_map_iff] at hprefix
  obtain ⟨names, ⟨more, hmore⟩, hnames⟩ := hprefix
  obtain rfl := Target.map_name_inj hnames
  cases more with
  | nil => rw [← hmore, List.append_nil]
  | cons name more =>
      rw [← hmore, ← List.append_assoc] at hbelow
      rw [hformed.directory_above hbelow] at hfile
      exact absurd hfile nofun

/-- Where planned paths coexist, no names that lead to a target go on to another one. -/
theorem names_of_coexist (hcheck : checkPaths dir [] ts = .ok planned) (h : Coexist planned)
    {t u : Target} (ht : t ∈ ts) (hu : u ∈ ts) (hlead : t.names <+: u.names) :
    t.names = u.names := by
  have hdest := destination_of_checkPaths hcheck
  rw [← map_fst_of_checkPaths hcheck] at ht hu
  obtain ⟨x, hx, rfl⟩ := List.mem_map.mp ht
  obtain ⟨y, hy, rfl⟩ := List.mem_map.mp hu
  have hsame := h x hx y hy
  rw [(Target.components_destination (hdest x hx)).1,
    (Target.components_destination (hdest y hy)).1, List.prefix_append_right_inj] at hsame
  exact Target.map_name_inj (List.append_cancel_left (hsame (hlead.map _)))

end Plan

/-! ## Whole runs -/

/-- The paths of a plan that passes the check are different. If the output directory is
empty and the paths are short enough then the run writes every target, so that it
neither fails nor skips one, exactly when all targets render and no path is a proper
ancestor directory of another one. -/
theorem accepted_plan_written {b : Backend} {start : Disk} {planned : List (Target × Path)}
    (hplan : (b.plan g).runOn start = (.ok ts, d))
    (hcheck : checkPaths dir [] ts = .ok planned) :
    (planned.Pairwise fun x y => x.2.same y.2 = false) ∧
      (d.WellFormed → d.Vacant dir → (∀ x ∈ planned, Short x.2) →
        ((∃ after, (g.run b dir).runOn start = (.ok ⟨planned.map Prod.snd, []⟩, after)) ↔
          g.RendersAll planned d ∧ Coexist planned)) := by
  have hrun : (g.run b dir).runOn start = (g.saveAll planned).runOn d := by
    rw [run_eq, runOn_bind_of_ok (mapError_eq_ok.mpr hplan), hcheck,
      runOn_bind_of_ok (runOn_ofExcept _ d)]
  refine ⟨(distinct_of_checkPaths hcheck).2, fun hd hvacant hshort => ?_⟩
  rw [hrun]
  constructor
  · rintro ⟨after, hafter⟩
    exact ⟨rendersAll_of_written hafter, coexist_of_written hd hcheck hafter⟩
  · rintro ⟨hrenders, hcoexist⟩
    rw [← List.nil_append planned] at hcheck hcoexist
    exact saveAll_of_coexist hd hvacant hcheck hcoexist hshort (Disk.ChangesAt.refl d) hd hrenders

/-- A disk with a custom template and an empty output directory. -/
def opened : Disk := bare.set ["out"] .directory

theorem wellFormed_opened : opened.WellFormed :=
  Disk.wellFormed_of_entries (by decide) (by decide)

theorem vacant_opened : opened.Vacant ⟨"out"⟩ :=
  Disk.vacant_of_look (l := ["out"]) wellFormed_opened (by decide) (by decide)

theorem exists_of_fst {α β : Type} {p : α × β} {a : α} (h : p.1 = a) : ∃ b, p = (a, b) :=
  ⟨p.2, Prod.ext h rfl⟩

/-- A file in a folder and one beside the folder that is kept if it is there. -/
def besideFolder : List Target := [plainIn "a" "b", .plain "c" "error.tpl" .ifMissing]

theorem accepted_plan_written_besideFolder :
    checkPaths ⟨"out"⟩ [] besideFolder = .ok (besideFolder.zip [⟨"out/a/b"⟩, ⟨"out/c"⟩]) ∧
      plain.RendersAll (besideFolder.zip [⟨"out/a/b"⟩, ⟨"out/c"⟩]) opened ∧
      Coexist (besideFolder.zip [⟨"out/a/b"⟩, ⟨"out/c"⟩]) ∧
      ∃ after, (plain.run (.fixed besideFolder) ⟨"out"⟩).runOn opened =
        (.ok ⟨[⟨"out/a/b"⟩, ⟨"out/c"⟩], []⟩, after) := by
  have hcheck : checkPaths ⟨"out"⟩ [] besideFolder =
      .ok (besideFolder.zip [⟨"out/a/b"⟩, ⟨"out/c"⟩]) := by decide
  have hshort : ∀ x ∈ besideFolder.zip [⟨"out/a/b"⟩, ⟨"out/c"⟩], Short x.2 := by
    refine List.forall_mem_cons.mpr ⟨?_, List.forall_mem_singleton.mpr ?_⟩
    · exact ⟨by decide, by decide, by decide⟩
    · exact ⟨by decide, by decide, by decide⟩
  have hrenders : plain.RendersAll (besideFolder.zip [⟨"out/a/b"⟩, ⟨"out/c"⟩]) opened :=
    rendersAll_pair "hi" "hi" (by decide) (by decide)
  have hcoexist : Coexist (besideFolder.zip [⟨"out/a/b"⟩, ⟨"out/c"⟩]) := by
    unfold Coexist
    decide
  exact ⟨hcheck, hrenders, hcoexist,
    ((accepted_plan_written (b := .fixed besideFolder) rfl hcheck).2
      wellFormed_opened vacant_opened hshort).mpr ⟨hrenders, hcoexist⟩⟩

/-- A file, and another one below it. -/
def fileBelowFile : List Target := [.plain "a" "error.tpl" .always, plainIn "a" "b"]

/-- A file in a folder, and one named like the folder that is kept if it is there. -/
def fileOnFolder : List Target := [plainIn "a" "b", .plain "a" "error.tpl" .ifMissing]

def longName : String := String.ofList (List.replicate 250 'n')

theorem eq_of_mem_longName {c : Char} (h : c ∈ longName.toList) : c = 'n' := by
  have hchars : longName.toList = List.replicate 250 'n' := String.toList_ofList
  exact List.eq_of_mem_replicate (hchars ▸ h)

theorem isOrdinary_longName : IsOrdinary longName :=
  ⟨by decide +kernel, by decide +kernel, by decide +kernel,
    fun h => absurd (eq_of_mem_longName h) (by decide),
    fun h => absurd (eq_of_mem_longName h) (by decide)⟩

/-- A file below so many folders that its path is too long as a whole. -/
def fileFarBelow : Target :=
  plainIn (String.intercalate "/" (List.replicate 20 longName)) longName

def farNames : List String := List.replicate 20 longName ++ [longName]

theorem relativePath_fileFarBelow : fileFarBelow.relativePath =
    .ok ⟨String.intercalate "/" farNames⟩ := by
  refine Target.relativePath_of_ordinary (by simp) rfl (fun name hname => ?_) isOrdinary_longName
  rw [List.eq_of_mem_replicate hname]
  exact isOrdinary_longName

/-- What a run can ask of a plan that passes the check, but for the length of its paths
as a whole and for paths above paths. -/
structure Prepared (g : Generator) (dir : Path) (d : Disk) (ts : List Target)
    (planned : List (Target × Path)) : Prop where
  checked : checkPaths dir [] ts = .ok planned
  wellFormed : d.WellFormed
  vacant : d.Vacant dir
  names : ∀ x ∈ planned, Disk.Fits x.2
  noNul : ∀ x ∈ planned, Char.ofNat 0 ∉ x.2.text.toList
  renders : g.RendersAll planned d

theorem prepared_fileBelowFile :
    Prepared plain ⟨"out"⟩ opened fileBelowFile (fileBelowFile.zip [⟨"out/a"⟩, ⟨"out/a/b"⟩]) where
  checked := by decide
  wellFormed := wellFormed_opened
  vacant := vacant_opened
  names := by decide
  noNul := by decide
  renders := rendersAll_pair "hi" "hi" (by decide) (by decide)

theorem prepared_fileOnFolder :
    Prepared plain ⟨"out"⟩ opened fileOnFolder (fileOnFolder.zip [⟨"out/a/b"⟩, ⟨"out/a"⟩]) where
  checked := by decide
  wellFormed := wellFormed_opened
  vacant := vacant_opened
  names := by decide
  noNul := by decide
  renders := rendersAll_pair "hi" "hi" (by decide) (by decide)

/-! A path that is too long as a whole, though no name in it is. -/

/-- What is checked for one name is checked for all. -/
theorem forall_farNames {P : String → Prop} (h : P longName) : ∀ name ∈ farNames, P name := by
  intro name hname
  unfold farNames at hname
  rw [← List.replicate_succ'] at hname
  exact List.eq_of_mem_replicate hname ▸ h

theorem isSegment_farNames : ∀ name ∈ farNames, IsSegment name :=
  forall_farNames isOrdinary_longName.isSegment

def farPath : Path := (⟨"out"⟩ : Path).join ⟨String.intercalate "/" farNames⟩

theorem text_farPath : farPath.text = "out" ++ "/" ++ String.intercalate "/" farNames := by
  have hrelative := isAbsolute_intercalate (by simp [farNames]) isSegment_farNames
  unfold farPath join
  rw [hrelative, if_neg (by simp), if_neg (by decide)]

theorem tooLong_farPath : Disk.pathLimit ≤ farPath.text.utf8ByteSize := by
  have hlong : 250 ≤ longName.utf8ByteSize := by decide +kernel
  have hnames := Text.mul_le_utf8ByteSize_intercalate "/" (forall_farNames hlong)
  rw [show farNames.length = 21 by simp [farNames]] at hnames
  rw [text_farPath, String.utf8ByteSize_append]
  calc Disk.pathLimit
      ≤ 21 * 250 := by decide
    _ ≤ (String.intercalate "/" farNames).utf8ByteSize := hnames
    _ ≤ _ := Nat.le_add_left _ _

theorem refused_farPath : Disk.refusal? farPath ≠ none := by
  intro hnone
  unfold Disk.refusal? at hnone
  rw [if_pos tooLong_farPath] at hnone
  repeat
    split at hnone
    · exact absurd hnone nofun
  exact absurd hnone nofun

theorem fits_farPath : Disk.Fits farPath := by
  intro name hname
  have hcomponents : farPath.components = (⟨"out"⟩ : Path).components ++ farNames.map .name :=
    components_join_segment _ (by simp [farNames]) isSegment_farNames
  rw [hcomponents] at hname
  rcases List.mem_append.mp hname with hdir | hname
  · rw [Component.name.inj (List.mem_singleton.mp hdir)]
    decide
  · obtain ⟨other, hother, hname⟩ := List.mem_map.mp hname
    rw [← Component.name.inj hname]
    exact forall_farNames (P := fun name => name.utf8ByteSize ≤ Disk.nameLimit)
      (by decide +kernel) other hother

theorem noNul_farPath : Char.ofNat 0 ∉ farPath.text.toList := by
  intro hnul
  have hnames : Char.ofNat 0 ∈ (farPath.text.toList.filter (· != '/')) :=
    List.mem_filter.mpr ⟨hnul, by decide⟩
  rw [text_farPath, String.toList_append, List.filter_append, List.mem_append] at hnames
  rcases hnames with hfront | hnames
  · exact absurd hfront (by decide)
  · rw [show "/" = String.singleton '/' from rfl, Text.filter_intercalate] at hnames
    obtain ⟨name, hname, hmem⟩ := List.mem_flatMap.mp hnames
    refine forall_farNames (P := fun name => Char.ofNat 0 ∉ name.toList) (fun h => ?_)
      name hname (List.mem_filter.mp hmem).1
    exact absurd (eq_of_mem_longName h) (by decide)

theorem checkPaths_fileFarBelow :
    checkPaths ⟨"out"⟩ [] [fileFarBelow] = .ok [(fileFarBelow, farPath)] := by
  rw [checkPaths, relativePath_fileFarBelow]
  dsimp only
  rw [List.any_nil, if_neg (by simp)]
  rfl

theorem rendersAll_fileFarBelow : plain.RendersAll [(fileFarBelow, farPath)] opened := by
  have hrendered : plain.rendered (fileFarBelow, farPath) opened = .ok "hi" := by decide
  exact rendersAll_cons_iff.mpr ⟨⟨"hi", renders_of_rendered hrendered⟩, fun _ _ _ => rendersAll_nil⟩

theorem prepared_fileFarBelow :
    Prepared plain ⟨"out"⟩ opened [fileFarBelow] [(fileFarBelow, farPath)] where
  checked := checkPaths_fileFarBelow
  wellFormed := wellFormed_opened
  vacant := vacant_opened
  names x hx := by
    obtain rfl := List.mem_singleton.mp hx
    dsimp only
    exact fits_farPath
  noNul x hx := by
    obtain rfl := List.mem_singleton.mp hx
    dsimp only
    exact noNul_farPath
  renders := rendersAll_fileFarBelow

/-- The file of a target that renders is not written to a path that is refused. -/
theorem runOn_saveTarget_of_refused {t : Target} {dest : Path} {text : String}
    (hrenders : g.Renders d (t, dest) text) (hrefused : Disk.refusal? dest ≠ none) :
    ∃ path fault after, (g.saveTarget t dest).runOn d =
      (.error (attributeTo t (.io path fault)), after) := by
  obtain ⟨c, raw, hc, hx, hf⟩ := hrenders
  have hkeeps : ¬ Keeps t dest d := by
    rintro ⟨-, hexists⟩
    obtain ⟨l, entry, hlook⟩ := Disk.pathExists_iff.mp hexists
    exact hrefused (Disk.resolve_eq_ok_iff.mp (Disk.look_eq_ok_iff.mp hlook).1).1
  rcases hwrite : (writeFile dest text).runOn d with ⟨r, after⟩
  cases r with
  | ok done =>
      have hlook := Disk.look_of_readBytes (readBytes_of_writeFile hwrite)
      exact absurd (Disk.resolve_eq_ok_iff.mp (Disk.look_eq_ok_iff.mp hlook).1).1 hrefused
  | error e =>
      obtain ⟨path, fault, rfl⟩ := io_of_writeFile hwrite
      refine ⟨path, fault, after, ?_⟩
      dsimp only at hc hx hf
      rw [runOn_saveTarget, hc]
      dsimp only
      rw [runOn_save_of_not_kept hkeeps, hx, runOn_bind_of_ok (runOn_ofExcept _ d), hf,
        runOn_bind_of_ok (runOn_ofExcept _ d), runOn_bind_of_error hwrite]
      rfl

/-- A route beside a group whose folder has the name of the file of the route's handler. -/
def crossed : ApiSpec :=
  ⟨"greet", ⟨"greet", .empty,
    [⟨.empty, [⟨"get", "/ping", "PingHandler", none, none, .empty⟩]⟩,
      ⟨SortedMap.ofList [("group", "pinghandler.go")],
        [⟨"get", "/user", "UserHandler", none, none, .empty⟩]⟩]⟩⟩

theorem plans_crossed : ∃ ts after planned, (crossed.backend.plan plain).runOn opened =
    (.ok ts, after) ∧ checkPaths ⟨"out"⟩ [] ts = .ok planned ∧ ¬ Coexist planned := by
  -- the handler of the route without a folder, and that of the other one
  have hplans : plain.plans crossed.backend opened (fun ts =>
      ts[0]?.any fun t => ts[2]?.any fun u =>
        t.names.isPrefixOf u.names && t.names != u.names) = true := by
    decide
  obtain ⟨ts, after, planned, hplan, hcheck, habove⟩ := exists_of_plans hplans ⟨"out"⟩
  refine ⟨ts, after, planned, hplan, hcheck, fun hcoexist => ?_⟩
  obtain ⟨t, ht, hbelow⟩ := (Option.any_eq_true _ _).mp habove
  obtain ⟨u, hu, htu⟩ := (Option.any_eq_true _ _).mp hbelow
  obtain ⟨hlead, hdiffer⟩ := Bool.and_eq_true_iff.mp htu
  exact bne_iff_ne.mp hdiffer (names_of_coexist hcheck hcoexist (List.mem_of_getElem? ht)
    (List.mem_of_getElem? hu) (List.isPrefixOf_iff_prefix.mp hlead))

/-- The check lets through plans that cannot be written whole, also those of
specifications: a file above another one fails the run, a directory in the place of a
file that is kept if it is there has it reported as skipped, and a path can be too long
although its names are not. -/
theorem accepted_plan_in_its_own_way :
    (∃ ts after planned, (crossed.backend.plan plain).runOn opened = (.ok ts, after) ∧
      checkPaths ⟨"out"⟩ [] ts = .ok planned ∧ ¬ Coexist planned) ∧
    (∃ planned after, Prepared plain ⟨"out"⟩ opened fileBelowFile planned ∧
      (plain.run (.fixed fileBelowFile) ⟨"out"⟩).runOn opened =
        (.error (.generation .mongo "error.tpl" "b" (.io "out/a" .alreadyExists)), after)) ∧
    (∃ planned after, Prepared plain ⟨"out"⟩ opened fileOnFolder planned ∧
      (plain.run (.fixed fileOnFolder) ⟨"out"⟩).runOn opened =
        (.ok ⟨[⟨"out/a/b"⟩], [⟨"out/a"⟩]⟩, after)) ∧
    ∃ planned path fault after, Prepared plain ⟨"out"⟩ opened [fileFarBelow] planned ∧
      (plain.run (.fixed [fileFarBelow]) ⟨"out"⟩).runOn opened =
        (.error (.generation .mongo "error.tpl" longName (.io path fault)), after) := by
  obtain ⟨afterFailure, hfailure⟩ : ∃ after,
      (plain.run (.fixed fileBelowFile) ⟨"out"⟩).runOn opened =
        (.error (.generation .mongo "error.tpl" "b" (.io "out/a" .alreadyExists)), after) :=
    exists_of_fst (by decide +kernel)
  obtain ⟨afterSkip, hskip⟩ : ∃ after,
      (plain.run (.fixed fileOnFolder) ⟨"out"⟩).runOn opened =
        (.ok ⟨[⟨"out/a/b"⟩], [⟨"out/a"⟩]⟩, after) :=
    exists_of_fst (by decide +kernel)
  refine ⟨plans_crossed, ⟨_, _, prepared_fileBelowFile, hfailure⟩,
    ⟨_, _, prepared_fileOnFolder, hskip⟩, ?_⟩
  obtain ⟨⟨text, htext⟩, -⟩ := rendersAll_cons_iff.mp prepared_fileFarBelow.renders
  obtain ⟨path, fault, after, hsave⟩ := runOn_saveTarget_of_refused htext refused_farPath
  refine ⟨_, path, fault, after, prepared_fileFarBelow, ?_⟩
  rw [runOn_run_fixed prepared_fileFarBelow.checked, saveAll_cons, runOn_bind_of_error hsave]
  rfl

end Generator

end Scaffold
