import Scaffold.Proofs.Disk.Making
import Scaffold.Proofs.Generation.Attribution
import Scaffold.Proofs.Generation.Confinement
import Scaffold.Proofs.Template.Absence
import Scaffold.Proofs.Template.Effects

/-!
# Generating again

A run leaves a file for every target, and none of its files is a template of the
next run as long as the custom templates lie elsewhere. So a second run plans
the same targets with the same texts, unless a template asks the surroundings for
something that is not as it was. It writes the files that are always written as the
first run did, and it keeps all others with what their authors made of them.
-/

namespace Scaffold

open Scaffold.Action Scaffold.Path

namespace Disk

variable {d e : Disk} {p : Path}

/-- A change to what some files hold. -/
structure Edited (paths : Path → Prop) (d e : Disk) : Prop where
  workingDirectory : e.workingDirectory = d.workingDirectory
  entries : ∀ l, e.find? l = d.find? l ∨
    ((∃ p, paths p ∧ l = d.placeOf p) ∧
      ∃ old new, d.find? l = some (.file old) ∧ e.find? l = some (.file new))

theorem Edited.refl (paths : Path → Prop) (d : Disk) : Edited paths d d :=
  ⟨rfl, fun _ => Or.inl rfl⟩

theorem Edited.mono {paths paths' : Path → Prop} (h : Edited paths d e)
    (hpaths : ∀ p, paths p → paths' p) : Edited paths' d e :=
  ⟨h.workingDirectory, fun l => (h.entries l).imp_right fun ⟨⟨p, hp, hl⟩, hfiles⟩ =>
    ⟨⟨p, hpaths p hp, hl⟩, hfiles⟩⟩

theorem Edited.changesAt {paths : Path → Prop} (h : Edited paths d e) : d.ChangesAt paths e := by
  refine ⟨h.workingDirectory, fun l => ?_⟩
  rcases h.entries l with heq | ⟨hl, old, new, hold, hnew⟩
  · exact Or.inl heq
  · refine Or.inr (Or.inl ⟨hl, ?_, new, hnew⟩)
    rw [hold]
    exact nofun

theorem Edited.wellFormed {paths : Path → Prop} (h : Edited paths d e) (hd : d.WellFormed) :
    e.WellFormed := by
  refine ⟨fun l name entry hfind => ?_, ?_⟩
  · refine h.changesAt.directory ?_
    rcases h.entries (l ++ [name]) with heq | ⟨-, old, new, hold, -⟩
    · exact hd.parent l name entry (heq ▸ hfind)
    · exact hd.parent l name _ hold
  · rw [h.workingDirectory]
    exact h.changesAt.directory hd.workingDirectory

end Disk

/-! ## Templates that no run touches -/

namespace Generator

variable {g : Generator} {dir : Path} {d : Disk}

/-- The custom templates and the output directory lie apart. -/
def Separate (g : Generator) (dir : Path) (d : Disk) : Prop :=
  ¬ d.placeOf g.repository.root <+: d.placeOf dir ∧
    ¬ d.placeOf dir <+: d.placeOf g.repository.root

/-- No planned destination is the place of a builtin key. -/
theorem Separate.ne_placeOf {b : Backend} (h : g.Separate dir d) {key : TemplateKey}
    (hkey : key.isBuiltin = true) {dest : Path} (hdest : g.Planned b dir d dest) :
    d.placeOf (g.repository.pathOf key) ≠ d.placeOf dest := by
  obtain ⟨names, -, -, -, hplace⟩ := hdest.below
  obtain ⟨folders, hfolders⟩ :=
    g.repository.components_pathOf (Repository.descends_of_isBuiltin hkey)
  have hpath : d.placeOf (g.repository.pathOf key) = d.placeOf g.repository.root ++ folders := by
    unfold Disk.placeOf
    rw [hfolders, Disk.follow_append, Disk.follow_names]
  rw [hpath, hplace]
  intro heq
  rcases List.append_eq_append_iff.mp heq with ⟨more, hmore, -⟩ | ⟨more, hmore, -⟩
  · exact h.1 (hmore ▸ List.prefix_append _ _)
  · exact h.2 (hmore ▸ List.prefix_append _ _)

/-- Changes at planned destinations do not change what builtin keys stand for. -/
theorem sameTemplates_of_changesAt {b : Backend} {m : Disk} (hd : d.WellFormed)
    (hroot : d.Settled g.repository.root) (h : g.Separate dir d)
    (hm : d.ChangesAt (g.Planned b dir d) m) : g.SameTemplates d m := by
  intro key hkey
  obtain ⟨folders, hfolders⟩ :=
    g.repository.components_pathOf (Repository.descends_of_isBuiltin hkey)
  refine Repository.textOf_congr (hm.sameFile hd (hroot.append_names hfolders) ?_)
  rintro ⟨dest, hdest, heq⟩
  exact h.ne_placeOf hkey hdest heq

/-! ## What the first run leaves -/

/-- What a run leaves for a target: a template for it, something at its
destination, and the text of the target there if it is always written. -/
structure Left (g : Generator) (d after : Disk) (x : Target × Path) : Prop where
  compiled : ∃ c, g.compiled x.1 d = .ok c
  pathExists : after.pathExists x.2 = true
  always : x.1.overwrite = .always →
    ∃ text, g.Renders d x text ∧ after.readBytes x.2 = .ok text.toUTF8

/-- A chain of steps leaves that for every target, as long as no change at its
destinations touches the templates. The induction is on the steps. -/
theorem Steps.left {paths : Path → Prop} {planned : List (Target × Path)} {mid after : Disk}
    {report : Report} (hmid : d.ChangesAt paths mid)
    (hpaths : ∀ x ∈ planned, paths x.2)
    (hstable : ∀ m, d.ChangesAt paths m → ∀ x ∈ planned, g.compiled x.1 m = g.compiled x.1 d)
    (hplaces : planned.Pairwise fun x y => d.placeOf x.2 ≠ d.placeOf y.2)
    (hsteps : Steps g planned mid (.ok report) after) :
    ∀ x ∈ planned, g.Left d after x := by
  induction hsteps using Steps.reportInduction with
  | done m => exact fun x hx => absurd hx List.not_mem_nil
  | @next t dest rest m next after saved tail hstep hrest ih =>
      have hnext : d.ChangesAt paths next := hmid.trans (hstep.changesAt.mono fun p hp =>
        hp ▸ hpaths (t, dest) List.mem_cons_self)
      obtain ⟨hhead, hplaces⟩ := List.pairwise_cons.mp hplaces
      intro x hx
      rcases List.mem_cons.mp hx with rfl | hx
      · have hsame := hstable m hmid (t, dest) List.mem_cons_self
        cases hstep with
        | @kept c hc hk =>
            have halways : t.overwrite ≠ .always := by
              rw [hk.1]
              exact nofun
            exact ⟨⟨c, hsame ▸ hc⟩, hrest.changesAt.pathExists hk.2,
              fun h => absurd h halways⟩
        | @written c raw text after' hc hk hx hf hw =>
            have hread := readBytes_of_writeFile hw
            have hfree : ¬ ∃ p, p ∈ rest.map Prod.snd ∧ next.placeOf dest = next.placeOf p := by
              rintro ⟨p, hp, heq⟩
              obtain ⟨y, hy, rfl⟩ := List.mem_map.mp hp
              rw [Disk.placeOf_congr hnext.workingDirectory,
                Disk.placeOf_congr hnext.workingDirectory] at heq
              exact hhead y hy heq
            -- no target that is left has this place, so the text stays
            have hkept := Disk.Frame.readBytes hrest.changesAt hread hfree
            have hexists : after.pathExists dest = true :=
              Disk.pathExists_iff.mpr ⟨_, _, Disk.look_of_readBytes hkept⟩
            exact ⟨⟨c, hsame ▸ hc⟩, hexists, fun _ => ⟨text, ⟨c, raw, hsame ▸ hc, hx, hf⟩, hkept⟩⟩
      · exact ih hnext (fun y hy => hpaths y (List.mem_cons_of_mem _ hy))
          (fun k hk y hy => hstable k hk y (List.mem_cons_of_mem _ hy)) hplaces x hx

/-! ## What the second run does -/

theorem runOn_saveTarget_of_written {t : Target} {dest : Path} {m after : Disk} {text : String}
    (hrenders : g.Renders m (t, dest) text) (hk : ¬ Keeps t dest m)
    (hwrite : (writeFile dest text).runOn m = (.ok (), after)) :
    (g.saveTarget t dest).runOn m = (.ok .written, after) := by
  obtain ⟨c, raw, hc, hx, hf⟩ := hrenders
  rw [runOn_saveTarget, hc]
  dsimp only at hx hf ⊢
  rw [runOn_save_of_not_kept hk, hx, runOn_bind_of_ok (runOn_ofExcept _ m), hf,
    runOn_bind_of_ok (runOn_ofExcept _ m), runOn_bind_of_ok hwrite]
  rfl

/-- A target whose file can be kept, or be written again with its text. -/
structure Ready (g : Generator) (d m : Disk) (x : Target × Path) : Prop where
  compiled : ∃ c, g.compiled x.1 d = .ok c
  pathExists : m.pathExists x.2 = true
  always : x.1.overwrite = .always →
    x.2.Trimmed ∧ m.isFile x.2 = true ∧ ∃ text, g.Renders d x text

theorem Ready.frame {files directories : Location → Prop} {m next : Disk} {x : Target × Path}
    (h : g.Ready d m x) (hframe : m.Frame files directories next) : g.Ready d next x :=
  ⟨h.compiled, hframe.pathExists h.pathExists, fun halways =>
    ⟨(h.always halways).1, hframe.isFile (h.always halways).2.1, (h.always halways).2.2⟩⟩

theorem Renders.unique {x : Target × Path} {text other : String} (h : g.Renders d x text)
    (h' : g.Renders d x other) : text = other := by
  obtain ⟨c, raw, hc, hx, hf⟩ := h
  obtain ⟨c', raw', hc', hx', hf'⟩ := h'
  obtain rfl := Except.ok.inj (hc.symm.trans hc')
  obtain rfl := Except.ok.inj (hx.symm.trans hx')
  exact Except.ok.inj (hf.symm.trans hf')

/-- A target that is ready and always written is written again with its text, and nothing
else changes. -/
theorem Ready.written {t : Target} {dest : Path} {m : Disk} (h : g.Ready d m (t, dest))
    (hover : t.overwrite = .always) (hformed : m.WellFormed)
    (hsame : g.compiled t m = g.compiled t d) :
    ∃ text next, g.Renders d (t, dest) text ∧
      (g.saveTarget t dest).runOn m = (.ok .written, next) ∧
      next.WellFormed ∧ m.ChangesAt (· = dest) next ∧
      ∀ l, next.find? l = if l = m.placeOf dest then some (.file text.toUTF8) else m.find? l := by
  obtain ⟨htrimmed, hfile, text, hrenders⟩ := h.always hover
  obtain ⟨l, content, hlook⟩ := Disk.isFile_iff.mp hfile
  obtain ⟨next, hwrite, -, hfind⟩ := writeFile_of_file hformed htrimmed hlook text
  have hchange := changesAt_writeFile dest text m
  have hnextFormed := wellFormed_writeFile hformed dest text
  rw [hwrite] at hchange hnextFormed
  have hkeeps : ¬ Keeps t dest m := by
    rintro ⟨hmissing, -⟩
    rw [hover] at hmissing
    exact absurd hmissing nofun
  have hrendersNow : g.Renders m (t, dest) text := by
    obtain ⟨c, raw, hc, hx, hf⟩ := hrenders
    exact ⟨c, raw, hsame.trans hc, hx, hf⟩
  exact ⟨text, next, hrenders, runOn_saveTarget_of_written hrendersNow hkeeps hwrite,
    hnextFormed, hchange, hfind⟩

/-- The same generator when the surroundings give other answers. -/
def later (g : Generator) (world : String → Context → Template.World) : Generator :=
  { g with tools := { g.tools with world := world } }

/-- A template and a context that are rendered later as they are now: the template asks the
surroundings nothing, or they give the answers that they gave. -/
def SteadyFor (g : Generator) (world : String → Context → Template.World) (d : Disk)
    (key : TemplateKey) (context : Context) : Prop :=
  ∀ c, ((g.compile key).runOn d).1 = .ok c →
    c.tree.survey.AsksNothing ∨ world c.name context = g.tools.world c.name context

section Later

variable {world : String → Context → Template.World}

theorem gathered_of_compile {key : TemplateKey} {c : CompiledTemplate}
    (h : ((g.compile key).runOn d).1 = .ok c) : c.tree.Gathered := by
  rw [runOn_compile] at h
  dsimp only at h
  cases htext : g.repository.textOf d key with
  | error e =>
      rw [htext] at h
      cases h
  | ok text =>
      rw [htext] at h
      change (CompiledTemplate.compile key.text text).map _ = _ at h
      cases hcompile : CompiledTemplate.compile key.text text with
      | error e =>
          rw [hcompile] at h
          cases h
      | ok t =>
          rw [hcompile] at h
          obtain rfl := Except.ok.inj h
          have hgathered := CompiledTemplate.gathered_of_compile hcompile
          exact hgathered

theorem SteadyFor.execute_eq {key : TemplateKey} {context : Context} {c : CompiledTemplate}
    (h : g.SteadyFor world d key context) (hc : ((g.compile key).runOn d).1 = .ok c) :
    (g.later world).tools.execute c context = g.tools.execute c context := by
  unfold Tools.execute CompiledTemplate.execute
  rcases h c hc with hasks | hsame
  · have houtcome := CompiledTemplate.outcome?_of_asksNothing (gathered_of_compile hc) hasks
      context g.tools.engine (g.tools.world c.name context) (world c.name context)
    exact congrArg (Option.getD · _) houtcome
  · exact congrArg (fun w => (c.outcome? context g.tools.engine w).getD _) hsame

theorem SteadyFor.renders {x : Target × Path} {text : String}
    (h : g.SteadyFor world d x.1.template x.1.context) (hrenders : g.Renders d x text) :
    (g.later world).Renders d x text := by
  obtain ⟨c, raw, hc, hx, hf⟩ := hrenders
  exact ⟨c, raw, hc, (h.execute_eq hc).trans hx, hf⟩

theorem Left.later {after : Disk} {x : Target × Path} (h : g.Left d after x)
    (hsteady : x.1.overwrite = .always → g.SteadyFor world d x.1.template x.1.context) :
    (g.later world).Left d after x := by
  refine ⟨h.compiled, h.pathExists, fun halways => ?_⟩
  obtain ⟨text, hrenders, hread⟩ := h.always halways
  exact ⟨text, (hsteady halways).renders hrenders, hread⟩

end Later

/-! ## Both runs -/

theorem trimmed_of_destination {t : Target} {p : Path} (h : t.destination dir = .ok p) :
    p.Trimmed := by
  obtain ⟨relative, hrelative, rfl⟩ := Target.destination_eq_ok h
  obtain ⟨rfl, hordinary⟩ := Target.relativePath_eq_ok hrelative
  exact trimmed_join_segment dir t.names_ne_nil fun name hname => (hordinary name hname).isSegment

/-- A service without methods: its settings are all there is to write. -/
def idle : RpcSpec := ⟨"shop", ⟨"user", "pb", []⟩⟩

/-- A disk with a custom template for settings. -/
def adapted : Disk where
  entries := [(["home"], .directory), (["home", "1.2.0"], .directory),
    (["home", "1.2.0", "rpc"], .directory),
    (["home", "1.2.0", "rpc", "etc.tpl"], .file "custom".toUTF8)]

end Generator

end Scaffold
