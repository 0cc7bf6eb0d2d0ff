import Scaffold.Proofs.Generation.PathCheck

/-!
# What a report says

On a plan whose destinations keep apart, no step of a run sees what an earlier
one did: each finds its destination and its template as they were before the
run, and what it writes stays. A report is therefore an account of the disk
before the run, of the templates on it and of the files after it.
-/

namespace Scaffold

open Scaffold.Action Scaffold.Path

/-! ## The lists of a report -/

namespace Generator

theorem Steps.sublist_written {g : Generator} {planned : List (Target × Path)} {d after : Disk}
    {report : Report} (h : Steps g planned d (.ok report) after) :
    report.written.Sublist (planned.map Prod.snd) ∧
      report.skipped.Sublist (planned.map Prod.snd) ∧
      (report.written ++ report.skipped).Perm (planned.map Prod.snd) := by
  induction h using Steps.reportInduction with
  | done d => exact ⟨List.Sublist.slnil, List.Sublist.slnil, List.Perm.nil⟩
  | @next t dest rest d mid after saved tail hstep hrest ih =>
      rw [List.map_cons]
      obtain ⟨hwritten, hskipped, hperm⟩ := ih
      cases saved with
      | written => exact ⟨hwritten.cons_cons dest, hskipped.cons dest, hperm.cons dest⟩
      | skipped =>
          refine ⟨hwritten.cons dest, hskipped.cons_cons dest, ?_⟩
          exact List.perm_middle.trans (hperm.cons dest)

/-- Only written destinations change. -/
theorem Steps.changesAt_written {g : Generator} {planned : List (Target × Path)}
    {d after : Disk} {report : Report} (h : Steps g planned d (.ok report) after) :
    d.ChangesAt (· ∈ report.written) after := by
  induction h using Steps.reportInduction with
  | done d => exact Disk.ChangesAt.refl d
  | @next t dest rest d mid after saved tail hstep hrest ih =>
      cases saved with
      | written =>
          refine Disk.ChangesAt.trans (hstep.changesAt.mono fun p hp => ?_)
            (ih.mono fun p hp => List.mem_cons_of_mem _ hp)
          rw [hp]
          exact List.mem_cons_self
      | skipped =>
          obtain rfl := hstep.eq_of_skipped
          exact ih

/-! ## Plans that keep apart -/

/-- Where the custom template of a target lies. -/
def templatePath (g : Generator) (t : Target) : Path := g.repository.pathOf t.template

/-- A plan on a disk whose paths lead where they led however much of it is done:
they are settled, and no destination lies in another one or at or below the
custom template of a target. -/
structure Apart (g : Generator) (d : Disk) (planned : List (Target × Path)) : Prop where
  wellFormed : d.WellFormed
  settled : ∀ x ∈ planned, d.Settled x.2
  templates : ∀ x ∈ planned, d.Settled (g.templatePath x.1) ∧
    ∀ y ∈ planned, ¬ d.placeOf (g.templatePath x.1) <+: d.placeOf y.2
  separate : planned.Pairwise fun x y =>
    ¬ d.placeOf x.2 <+: d.placeOf y.2 ∧ ¬ d.placeOf y.2 <+: d.placeOf x.2

/-- What is written for a target: its text by the template it stands for on a
disk, as the formatter leaves it. -/
def Renders (g : Generator) (d : Disk) (x : Target × Path) (text : String) : Prop :=
  ∃ c raw, g.compiled x.1 d = .ok c ∧ g.tools.execute c x.1.context = .ok raw ∧
    g.tools.formatter x.2 raw = .ok text

theorem compiled_congr {g : Generator} {t : Target} {d e : Disk}
    (h : d.SameFile e (g.templatePath t)) : g.compiled t e = g.compiled t d :=
  sameAnswer_compile (Repository.textOf_congr h)

theorem keeps_congr {t : Target} {dest : Path} {d e : Disk} (h : d.SameLook e dest) :
    Keeps t dest e ↔ Keeps t dest d := by
  unfold Keeps
  rw [h.pathExists]

section Run

variable {g : Generator} {d : Disk} {before rest : List (Target × Path)} {x : Target × Path}

/-- The next target finds its destination and its template as they were at first. -/
theorem Apart.sameLook (h : Apart g d (before ++ x :: rest)) {mid : Disk}
    (hmid : d.ChangesAt (· ∈ before.map Prod.snd) mid) :
    d.SameLook mid x.2 ∧ d.SameLook mid (g.templatePath x.1) := by
  have hx : x ∈ before ++ x :: rest := List.mem_append_right _ List.mem_cons_self
  have hbefore : ∀ p ∈ before.map Prod.snd, ∃ y ∈ before, y.2 = p := fun p hp =>
    List.mem_map.mp hp
  have hsettled : ∀ p ∈ before.map Prod.snd, d.Settled p := by
    intro p hp
    obtain ⟨y, hy, rfl⟩ := hbefore p hp
    exact h.settled y (List.mem_append_left _ hy)
  obtain ⟨htemplate, hfree⟩ := h.templates x hx
  have hdest : ∀ p ∈ before.map Prod.snd, ¬ d.placeOf x.2 <+: d.placeOf p := by
    intro p hp
    obtain ⟨y, hy, rfl⟩ := hbefore p hp
    exact ((List.pairwise_append.mp h.separate).2.2 y hy x List.mem_cons_self).2
  have htext : ∀ p ∈ before.map Prod.snd, ¬ d.placeOf (g.templatePath x.1) <+: d.placeOf p := by
    intro p hp
    obtain ⟨y, hy, rfl⟩ := hbefore p hp
    exact hfree y (List.mem_append_left _ hy)
  exact ⟨hmid.sameLook h.wellFormed (h.settled x hx) (hmid.find?_eq h.wellFormed hsettled hdest),
    hmid.sameLook h.wellFormed htemplate (hmid.find?_eq h.wellFormed hsettled htext)⟩

/-- What a run comes to for a target: it is skipped for what was there before the
run, or else written with the text that it had before the run, which is there
after it. -/
def Outcome (g : Generator) (d after : Disk) (report : Report) (x : Target × Path) : Prop :=
  (x.2 ∈ report.skipped ∧ Keeps x.1 x.2 d) ∨
    (x.2 ∈ report.written ∧ ¬ Keeps x.1 x.2 d ∧
      ∃ text, g.Renders d x text ∧ after.readBytes x.2 = .ok text.toUTF8)

/-- Recording another target leaves an outcome as it is. -/
theorem Outcome.record {after : Disk} {report : Report} (h : Outcome g d after report x)
    (dest : Path) (saved : Saved) : Outcome g d after (report.record dest saved) x := by
  rcases h with ⟨hskipped, hk⟩ | ⟨hwritten, hk⟩
  · refine Or.inl ⟨?_, hk⟩
    cases saved with
    | written => exact hskipped
    | skipped => exact List.mem_cons_of_mem _ hskipped
  · refine Or.inr ⟨?_, hk⟩
    cases saved with
    | written => exact List.mem_cons_of_mem _ hwritten
    | skipped => exact hwritten

/-- One more target done: the disk has changed at one more destination. -/
theorem changesAt_snoc {mid next : Disk} {saved : Except Error Saved}
    (hmid : d.ChangesAt (· ∈ before.map Prod.snd) mid) (hstep : Step g x.1 x.2 mid saved next) :
    d.ChangesAt (· ∈ (before ++ [x]).map Prod.snd) next := by
  rw [List.map_append]
  refine Disk.ChangesAt.trans (hmid.mono fun p hp => List.mem_append_left _ hp)
    (hstep.changesAt.mono fun p hp => ?_)
  rw [hp]
  exact List.mem_append_right _ List.mem_cons_self

/-- What a step writes is still there when the rest of the plan is done. -/
theorem Step.outcome {mid next after : Disk} {saved : Saved} {r : Except Error Report}
    (h : Apart g d (before ++ x :: rest)) (hmid : d.ChangesAt (· ∈ before.map Prod.snd) mid)
    (hstep : Step g x.1 x.2 mid (.ok saved) next) (hrest : Steps g rest next r after)
    (tail : Report) : Outcome g d after (tail.record x.2 saved) x := by
  obtain ⟨hdest, htemplate⟩ := h.sameLook hmid
  have hnext := changesAt_snoc hmid hstep
  cases hstep with
  | kept hc hk => exact Or.inl ⟨List.mem_cons_self, (keeps_congr hdest).mp hk⟩
  | @written c raw text _ hc hk hx hf hw =>
      refine Or.inr ⟨List.mem_cons_self, mt (keeps_congr hdest).mpr hk, text, ?_, ?_⟩
      · exact ⟨c, raw, (compiled_congr htemplate.sameFile) ▸ hc, hx, hf⟩
      -- no target that is left has this place
      · refine Disk.Frame.readBytes hrest.changesAt (readBytes_of_writeFile hw) ?_
        rintro ⟨p, hp, hplace⟩
        obtain ⟨z, hz, rfl⟩ := List.mem_map.mp hp
        rw [Disk.placeOf_congr hnext.workingDirectory,
          Disk.placeOf_congr hnext.workingDirectory] at hplace
        have hseparate := (List.pairwise_append.mp h.separate).2.1
        refine ((List.pairwise_cons.mp hseparate).1 z hz).1 ?_
        exact hplace ▸ List.prefix_rfl

/-- Every target has its outcome. The induction is on the steps that are left;
`before` are the targets that are done. -/
theorem Steps.outcome {mid after : Disk} {report : Report} (h : Apart g d (before ++ rest))
    (hmid : d.ChangesAt (· ∈ before.map Prod.snd) mid)
    (hsteps : Steps g rest mid (.ok report) after) :
    ∀ y ∈ rest, Outcome g d after report y := by
  induction hsteps using Steps.reportInduction generalizing before with
  | done m => simp
  | @next t dest rest m next after saved tail hstep hrest ih =>
      have hapart : Apart g d ((before ++ [(t, dest)]) ++ rest) := by
        rw [List.append_assoc, List.singleton_append]
        exact h
      have hnext := changesAt_snoc (x := (t, dest)) hmid hstep
      intro y hy
      rcases List.mem_cons.mp hy with rfl | hy
      · exact Step.outcome h hmid hstep hrest tail
      · exact (ih hapart hnext y hy).record dest saved

end Run

/-! ## From paths to places -/

/-- A plan keeps apart whose destinations do not nest and lie outside the
directory of the custom templates, all steps up in that directory and in the
output directory being settled. -/
theorem apart_of_checkPaths {g : Generator} {dir : Path} {d : Disk} {ts : List Target}
    {planned : List (Target × Path)} (hcheck : checkPaths dir [] ts = .ok planned)
    (hd : d.WellFormed) (hdir : d.Settled dir) (hroot : d.Settled g.repository.root)
    (htemplates : ∀ t ∈ ts, Repository.Descends t.template.name)
    (hnested : ∀ x ∈ planned, ∀ y ∈ planned, x.2.components <+: y.2.components →
      x.2.components = y.2.components)
    (hoverlay : ∀ x ∈ planned, ¬ d.placeOf g.repository.root <+: d.placeOf x.2) :
    Apart g d planned := by
  have hdest := destination_of_checkPaths hcheck
  have hplace : ∀ x ∈ planned, x.2.components = dir.components ++ x.1.names.map .name ∧
      d.placeOf x.2 = d.placeOf dir ++ x.1.names := by
    intro x hx
    have hcomponents := (Target.components_destination (hdest x hx)).1
    refine ⟨hcomponents, ?_⟩
    rw [Disk.placeOf, hcomponents, Disk.follow_append, Disk.follow_names]
    rfl
  -- a place below another one belongs to a path below the other one
  have hstarts : ∀ x ∈ planned, ∀ y ∈ planned, d.placeOf x.2 <+: d.placeOf y.2 →
      x.2.same y.2 = true := by
    intro x hx y hy h
    rw [(hplace x hx).2, (hplace y hy).2, List.prefix_append_right_inj] at h
    refine beq_iff_eq.mpr (hnested x hx y hy ?_)
    rw [(hplace x hx).1, (hplace y hy).1, List.prefix_append_right_inj]
    exact h.map _
  refine ⟨hd, fun x hx => hdir.append_names (hplace x hx).1, fun x hx => ?_, ?_⟩
  · have hts : x.1 ∈ ts := map_fst_of_checkPaths hcheck ▸ List.mem_map_of_mem hx
    obtain ⟨names, hnames⟩ := g.repository.components_pathOf (htemplates x.1 hts)
    refine ⟨hroot.append_names hnames, fun y hy h => hoverlay y hy (List.IsPrefix.trans ?_ h)⟩
    unfold templatePath Disk.placeOf
    rw [hnames, Disk.follow_append, Disk.follow_names]
    exact List.prefix_append _ _
  · refine (distinct_of_checkPaths hcheck).2.imp_of_mem fun hx hy hdistinct =>
      ⟨fun h => ?_, fun h => ?_⟩
    · rw [hstarts _ hx _ hy h] at hdistinct
      exact absurd hdistinct (by simp)
    · have hsame := hstarts _ hy _ hx h
      unfold Path.same at hsame hdistinct
      rw [beq_iff_eq] at hsame
      rw [hsame, beq_self_eq_true] at hdistinct
      exact absurd hdistinct (by simp)

/-! ## Reports -/

theorem Apart.nodup {g : Generator} {d : Disk} {planned : List (Target × Path)}
    (h : Apart g d planned) : (planned.map Prod.snd).Nodup := by
  rw [List.Nodup, List.pairwise_map]
  refine h.separate.imp fun hxy heq => hxy.1 ?_
  exact heq ▸ List.prefix_rfl

theorem Apart.not_prefix {g : Generator} {d : Disk} {planned : List (Target × Path)}
    (h : Apart g d planned) {x y : Target × Path} (hx : x ∈ planned) (hy : y ∈ planned)
    (hne : x ≠ y) : ¬ d.placeOf x.2 <+: d.placeOf y.2 := by
  have hforward : planned.Pairwise fun x y => x ≠ y → ¬ d.placeOf x.2 <+: d.placeOf y.2 :=
    h.separate.imp fun hxy _ => hxy.1
  have hbackward : planned.Pairwise
      (flip fun x y => x ≠ y → ¬ d.placeOf x.2 <+: d.placeOf y.2) :=
    h.separate.imp fun hxy _ => hxy.2
  exact hforward.forall_of_forall_of_flip (fun x _ hself => absurd rfl hself) hbackward hx hy hne

theorem Steps.disjoint {g : Generator} {d after : Disk} {planned : List (Target × Path)}
    {report : Report} (h : Apart g d planned) (hsteps : Steps g planned d (.ok report) after) :
    ∀ p ∈ report.written, p ∉ report.skipped := by
  obtain ⟨-, -, hperm⟩ := hsteps.sublist_written
  have hnodup := List.nodup_append.mp (hperm.nodup_iff.mpr h.nodup)
  exact fun p hwritten hskipped => hnodup.2.2 p hwritten p hskipped rfl

/-- What was skipped is as it was, and so is everything below it. -/
theorem Steps.unchanged_of_skipped {g : Generator} {d after : Disk}
    {planned : List (Target × Path)} {report : Report} (h : Apart g d planned)
    (hsteps : Steps g planned d (.ok report) after) {x : Target × Path} (hx : x ∈ planned)
    (hskipped : x.2 ∈ report.skipped) :
    d.SameLook after x.2 ∧
      ∀ below, after.find? (d.placeOf x.2 ++ below) = d.find? (d.placeOf x.2 ++ below) := by
  have hsublist := hsteps.sublist_written.1
  have hsettled : ∀ p ∈ report.written, d.Settled p := by
    intro p hp
    obtain ⟨y, hy, rfl⟩ := List.mem_map.mp (hsublist.subset hp)
    exact h.settled y hy
  have hfree : ∀ below, ∀ p ∈ report.written, ¬ d.placeOf x.2 ++ below <+: d.placeOf p := by
    intro below p hp hstarts
    obtain ⟨y, hy, rfl⟩ := List.mem_map.mp (hsublist.subset hp)
    have hne : x ≠ y := fun heq => hsteps.disjoint h y.2 hp (heq ▸ hskipped)
    exact h.not_prefix hx hy hne ((List.prefix_append _ below).trans hstarts)
  have hfind : ∀ below, after.find? (d.placeOf x.2 ++ below) = d.find? (d.placeOf x.2 ++ below) :=
    fun below => hsteps.changesAt_written.find?_eq h.wellFormed hsettled (hfree below)
  refine ⟨hsteps.changesAt_written.sameLook h.wellFormed (h.settled x hx) ?_, hfind⟩
  have hplace := hfind []
  rwa [List.append_nil] at hplace

/-- A report that accounts for a run: for the destinations of the targets, for
what was there before and for what is there after. -/
structure Accounts (g : Generator) (dir : Path) (ts : List Target) (d after : Disk)
    (report : Report) (dests : List Path) : Prop where
  destinations : ts.map (·.destination dir) = dests.map .ok
  distinct : dests.Pairwise fun p q => p.same q = false
  writtenInOrder : report.written.Sublist dests
  skippedInOrder : report.skipped.Sublist dests
  disjoint : ∀ p ∈ report.written, p ∉ report.skipped
  complete : (report.written ++ report.skipped).Perm dests
  total : report.total = ts.length
  /-- A target is skipped exactly when its file was there and is to be kept. -/
  skipped : ∀ t ∈ ts, ∀ dest, t.destination dir = .ok dest →
    (dest ∈ report.skipped ↔ t.overwrite = .ifMissing ∧ d.pathExists dest = true)
  /-- What was skipped is as it was. -/
  unchanged : ∀ dest ∈ report.skipped, after.look dest = d.look dest ∧
    ∀ below, after.find? (d.placeOf dest ++ below) = d.find? (d.placeOf dest ++ below)
  /-- What was written holds the text of its target. -/
  written : ∀ t ∈ ts, ∀ dest, t.destination dir = .ok dest → dest ∈ report.written →
    ∃ text, g.Renders d (t, dest) text ∧ after.readBytes dest = .ok text.toUTF8

theorem map_destination_of_checkPaths {dir : Path} {ts : List Target}
    {planned : List (Target × Path)} (h : checkPaths dir [] ts = .ok planned) :
    ts.map (·.destination dir) = (planned.map Prod.snd).map .ok := by
  rw [← map_fst_of_checkPaths h, List.map_map, List.map_map]
  exact List.map_congr_left fun x hx => destination_of_checkPaths h x hx

/-- A chain of steps on a plan that keeps apart ends with a report that accounts
for it. -/
theorem Steps.accounts {g : Generator} {dir : Path} {ts : List Target} {d after : Disk}
    {planned : List (Target × Path)} {report : Report}
    (hcheck : checkPaths dir [] ts = .ok planned) (h : Apart g d planned)
    (hsteps : Steps g planned d (.ok report) after) :
    Accounts g dir ts d after report (planned.map Prod.snd) := by
  obtain ⟨hwritten, hskipped, hperm⟩ := hsteps.sublist_written
  have hdisjoint := hsteps.disjoint h
  have hstart : Apart g d ([] ++ planned) := h
  have houtcome := Steps.outcome hstart (Disk.ChangesAt.refl d) hsteps
  have hplanned : ∀ t ∈ ts, ∀ dest, t.destination dir = .ok dest → (t, dest) ∈ planned := by
    intro t ht dest hdest
    rw [← map_fst_of_checkPaths hcheck] at ht
    obtain ⟨x, hx, rfl⟩ := List.mem_map.mp ht
    rw [destination_of_checkPaths hcheck x hx] at hdest
    rw [← Except.ok.inj hdest]
    exact hx
  exact {
    destinations := map_destination_of_checkPaths hcheck
    distinct := List.pairwise_map.mpr (distinct_of_checkPaths hcheck).2
    writtenInOrder := hwritten
    skippedInOrder := hskipped
    disjoint := hdisjoint
    complete := hperm
    total := by
      have hlength := hperm.length_eq
      rw [List.length_append, List.length_map] at hlength
      rw [Report.total, hlength, ← map_fst_of_checkPaths hcheck, List.length_map]
    skipped := by
      intro t ht dest hdest
      rcases houtcome _ (hplanned t ht dest hdest) with ⟨hmem, hk⟩ | ⟨hmem, hk, -⟩
      · exact ⟨fun _ => hk, fun _ => hmem⟩
      · exact ⟨fun hmem' => absurd hmem' (hdisjoint dest hmem), fun hk' => absurd hk' hk⟩
    unchanged := by
      intro dest hdest
      obtain ⟨x, hx, rfl⟩ := List.mem_map.mp (hskipped.subset hdest)
      obtain ⟨hlook, hbelow⟩ := hsteps.unchanged_of_skipped h hx hdest
      refine ⟨?_, hbelow⟩
      rcases houtcome x hx with ⟨-, hk⟩ | ⟨hmem, -⟩
      · exact hlook.look_eq hk.2
      · exact absurd hdest (hdisjoint x.2 hmem)
    written := by
      intro t ht dest hdest hmem
      rcases houtcome _ (hplanned t ht dest hdest) with ⟨hmem', -⟩ | ⟨-, -, htext⟩
      · exact absurd hmem' (hdisjoint dest hmem)
      · exact htext }

/-- Every report accounts for its run, if every step up in the output directory
and in the directory of the custom templates leaves a directory that is there
before the run, the names of the templates do not climb, no destination lies in
another one and none lies among the custom templates. -/
theorem report_accounts_for_run {g : Generator} {b : Backend} {dir : Path} {d after : Disk}
    {ts : List Target} {report : Report} (hb : b.ReadsOnly)
    (hplan : ((b.plan g).runOn d).1 = .ok ts) (hd : d.WellFormed) (hdir : d.Settled dir)
    (hroot : d.Settled g.repository.root)
    (htemplates : ∀ t ∈ ts, Repository.Descends t.template.name)
    (hnested : ∀ t ∈ ts, ∀ s ∈ ts, ∀ p q, t.destination dir = .ok p → s.destination dir = .ok q →
      p.components <+: q.components → p.components = q.components)
    (hoverlay : ∀ t ∈ ts, ∀ p, t.destination dir = .ok p →
      ¬ d.placeOf g.repository.root <+: d.placeOf p)
    (hrun : (g.run b dir).runOn d = (.ok report, after)) :
    ∃ dests, Accounts g dir ts d after report dests := by
  rw [runOn_run hb hplan] at hrun
  cases hcheck : checkPaths dir [] ts with
  | error e =>
      rw [hcheck] at hrun
      exact absurd hrun (by simp)
  | ok planned =>
      rw [hcheck] at hrun
      dsimp only at hrun
      have hts : ∀ x ∈ planned, x.1 ∈ ts := fun x hx =>
        map_fst_of_checkPaths hcheck ▸ List.mem_map_of_mem hx
      have hdest := destination_of_checkPaths hcheck
      have hapart : Apart g d planned :=
        apart_of_checkPaths hcheck hd hdir hroot htemplates
          (fun x hx y hy => hnested x.1 (hts x hx) y.1 (hts y hy) x.2 y.2 (hdest x hx) (hdest y hy))
          (fun x hx => hoverlay x.1 (hts x hx) x.2 (hdest x hx))
      have hsteps := g.steps_saveAll planned d
      rw [hrun] at hsteps
      exact ⟨planned.map Prod.snd, hsteps.accounts hcheck hapart⟩

/-- A disk with a custom template and a file in the output directory. -/
def shelf : Disk where
  entries := [(["home"], .directory), (["home", "1.2.0"], .directory),
    (["home", "1.2.0", "mongo"], .directory),
    (["home", "1.2.0", "mongo", "error.tpl"], .file "hi".toUTF8),
    (["out"], .directory), (["out", "b"], .file "mine".toUTF8)]

theorem wellFormed_shelf : shelf.WellFormed :=
  Disk.wellFormed_of_entries (by decide) (by decide)

theorem destination_of_pair {t s : Target} {dir pt ps : Path} (ht : t.destination dir = .ok pt)
    (hs : s.destination dir = .ok ps) :
    ∀ u ∈ [t, s], ∀ p, u.destination dir = .ok p → p = pt ∨ p = ps := by
  intro u hu p hp
  rcases List.mem_cons.mp hu with rfl | hu
  · exact Or.inl (Except.ok.inj (hp.symm.trans ht))
  · rw [List.mem_singleton.mp hu] at hp
    exact Or.inr (Except.ok.inj (hp.symm.trans hs))

/-- A file that is always written and one that is kept. -/
def newAndKept : List Target :=
  [.plain "a" "error.tpl" .always, .plain "b" "error.tpl" .ifMissing]

theorem report_accounts_for_kept_file :
    ∃ dests, Accounts plain ⟨"out"⟩ newAndKept shelf
      ((plain.run (.fixed newAndKept) ⟨"out"⟩).runOn shelf).2
      ⟨[⟨"out/a"⟩], [⟨"out/b"⟩]⟩ dests := by
  have ha : (Target.plain "a" "error.tpl" .always).destination ⟨"out"⟩ = .ok ⟨"out/a"⟩ := by
    decide
  have hb : (Target.plain "b" "error.tpl" .ifMissing).destination ⟨"out"⟩ = .ok ⟨"out/b"⟩ := by
    decide
  have hdest := destination_of_pair ha hb
  have hreport : ((plain.run (.fixed newAndKept) ⟨"out"⟩).runOn shelf).1 =
      .ok ⟨[⟨"out/a"⟩], [⟨"out/b"⟩]⟩ := by decide
  have hroot : shelf.Settled plain.repository.root :=
    Disk.settled_of_no_parent (by decide)
  refine report_accounts_for_run (Backend.readsOnly_fixed _) rfl wellFormed_shelf
    (Disk.settled_of_no_parent (by decide)) hroot (by decide) ?_ ?_
    (Prod.ext hreport rfl)
  · intro t ht s hs p q hp hq
    rcases hdest t ht p hp with rfl | rfl <;> rcases hdest s hs q hq with rfl | rfl <;>
      decide
  · intro t ht p hp
    rcases hdest t ht p hp with rfl | rfl <;> decide

/-- A disk with a custom template and no output directory. -/
def bare : Disk where
  entries := [(["home"], .directory), (["home", "1.2.0"], .directory),
    (["home", "1.2.0", "mongo"], .directory),
    (["home", "1.2.0", "mongo", "error.tpl"], .file "hi".toUTF8)]

/-- A generator whose home is named through the output directory. -/
def roundabout : Generator := { plain with repository := ⟨⟨"/out/../home"⟩⟩ }

/-- Two files that are always written, the second with a template of its own. -/
def twoFiles (template : String) : List Target :=
  [.plain "a" "error.tpl" .always, .plain "b" template .always]

/-- Without its conditions on steps up the account fails. Through a directory
that the run itself makes, an output directory leads to a file that is then kept
although its path led nowhere before; custom templates appear in the middle of a
run in the same way; and a template whose name climbs can be a file that the run
wrote. -/
theorem report_misses_step_up :
    (¬ ∀ (g : Generator) (b : Backend) (dir : Path) (d after : Disk) (ts : List Target)
      (report : Report), b.ReadsOnly → ((b.plan g).runOn d).1 = .ok ts → d.WellFormed →
      (∀ t ∈ ts, ∀ s ∈ ts, ∀ p q, t.destination dir = .ok p → s.destination dir = .ok q →
        p.components <+: q.components → p.components = q.components) →
      (∀ t ∈ ts, ∀ p, t.destination dir = .ok p →
        ¬ d.placeOf g.repository.root <+: d.placeOf p) →
      (g.run b dir).runOn d = (.ok report, after) →
        ∃ dests, Accounts g dir ts d after report dests) ∧
    (((roundabout.run (.fixed (twoFiles "error.tpl")) ⟨"out"⟩).runOn bare).1 =
        .ok ⟨[⟨"out/a"⟩, ⟨"out/b"⟩], []⟩ ∧
      ((roundabout.run (.fixed (twoFiles "error.tpl")) ⟨"out"⟩).runOn bare).2.readText ⟨"out/b"⟩ =
        .ok "hi" ∧
      ((roundabout.repository.load ⟨.mongo, "error.tpl"⟩).runOn bare).1.map TemplateRecord.text ≠
        .ok "hi") ∧
    (((plain.run (.fixed (twoFiles "../../../out/a")) ⟨"out"⟩).runOn bare).1 =
        .ok ⟨[⟨"out/a"⟩, ⟨"out/b"⟩], []⟩ ∧
      ((plain.repository.load ⟨.mongo, "../../../out/a"⟩).runOn bare).1 =
        .error (.unknownTemplate "mongo" "../../../out/a")) := by
  refine ⟨fun h => ?_, ?_, ?_⟩
  · have ha : (Target.plain "a" "error.tpl" .always).destination ⟨"x/../out"⟩ =
        .ok ⟨"x/../out/a"⟩ := by decide
    have hb : (Target.plain "b" "error.tpl" .ifMissing).destination ⟨"x/../out"⟩ =
        .ok ⟨"x/../out/b"⟩ := by decide
    have hdest := destination_of_pair ha hb
    have hreport : ((plain.run (.fixed newAndKept) ⟨"x/../out"⟩).runOn shelf).1 =
        .ok ⟨[⟨"x/../out/a"⟩], [⟨"x/../out/b"⟩]⟩ := by decide +kernel
    have hnested : ∀ t ∈ newAndKept, ∀ s ∈ newAndKept, ∀ p q,
        t.destination ⟨"x/../out"⟩ = .ok p → s.destination ⟨"x/../out"⟩ = .ok q →
        p.components <+: q.components → p.components = q.components := by
      intro t ht s hs p q hp hq
      rcases hdest t ht p hp with rfl | rfl <;> rcases hdest s hs q hq with rfl | rfl <;>
        decide
    have hoverlay : ∀ t ∈ newAndKept, ∀ p, t.destination ⟨"x/../out"⟩ = .ok p →
        ¬ shelf.placeOf plain.repository.root <+: shelf.placeOf p := by
      intro t ht p hp
      rcases hdest t ht p hp with rfl | rfl <;> decide
    rcases hrun : (plain.run (.fixed newAndKept) ⟨"x/../out"⟩).runOn shelf with ⟨r, after⟩
    rw [hrun] at hreport
    obtain ⟨dests, haccounts⟩ := h plain _ ⟨"x/../out"⟩ shelf after _ _
      (Backend.readsOnly_fixed _) rfl wellFormed_shelf hnested hoverlay
      (hrun.trans (Prod.ext hreport rfl))
    have hskipped := (haccounts.skipped _ (List.mem_cons_of_mem _ List.mem_cons_self) _ hb).mp
      List.mem_cons_self
    have hmissing : shelf.pathExists ⟨"x/../out/b"⟩ = false := by decide
    rw [hmissing] at hskipped
    exact absurd hskipped.2 (by simp)
  · decide +kernel
  · decide +kernel

end Generator

end Scaffold
