import Scaffold.Proofs.Catalog.Overlay
import Scaffold.Proofs.Generation.Reporting
import Scaffold.Proofs.Generation.Supplies

/-!
# Runs without custom templates

Where no builtin key has a custom template, and none appears when directories
are made, every lookup of a run gives the builtin text, from the first fragment
to the last target: no file that a run writes can be the custom template of a
builtin key. What such a run can fail with are parameters, paths and the disk.
-/

namespace Scaffold

open Scaffold.Action Template

/-- The kinds of error that no template is to blame for: those of parameters,
of repeated paths and of the disk. -/
def Error.IsTemplateFree : Error → Prop
  | .config _ | .duplicatePath _ | .io _ _ => True
  | _ => False

/-! ## Disks without custom templates -/

/-- A disk on which no builtin key has a custom template. Nor does one appear
when directories are made: either all steps up on the way to the custom
templates leave directories that are there, or no file lies where the way ends. -/
structure Repository.Uncustomized (r : Repository) (d : Disk) : Prop where
  wellFormed : d.WellFormed
  noFile : ∀ key : TemplateKey, key.isBuiltin = true → d.isFile (r.pathOf key) = false
  lasting : d.Settled r.root ∨ ∀ key : TemplateKey, key.isBuiltin = true →
    ∀ content, d.find? (d.placeOf (r.pathOf key)) ≠ some (.file content)

section Lookups

variable {g : Generator} {r : Repository} {d e : Disk} {key : TemplateKey}

theorem Generator.runOn_compile_of_load {record : TemplateRecord}
    (h : (g.repository.load key).runOn d = (.ok record, d)) :
    (g.compile key).runOn d =
      ((CompiledTemplate.compile key.text record.text).map (·.requiring key.required), d) := by
  rw [runOn_compile, Repository.textOf, h]
  rfl

theorem Generator.runOn_compile_of_builtin {text : String} {t : CompiledTemplate}
    (hfile : d.isFile (g.repository.pathOf key) = false) (htext : key.builtinText? = some text)
    (hcompile : CompiledTemplate.compile key.text text = .ok t) :
    (g.compile key).runOn d = (.ok (t.requiring key.required), d) := by
  rw [runOn_compile_of_load (g.repository.runOn_load_of_builtin hfile htext), hcompile]
  rfl

theorem Generator.exists_renderFragment {context : Context}
    (hfile : d.isFile (g.repository.pathOf key) = false) (h : key.Serves context) (node : String) :
    ∃ out, (g.renderFragment key context node).runOn d = (.ok out, d) := by
  obtain ⟨text, t, out, htext, hcompile, hout⟩ := h.renders
  refine ⟨out, ?_⟩
  unfold renderFragment
  rw [mapError_eq_ok, runOn_bind_of_ok (runOn_compile_of_builtin hfile htext hcompile),
    Tools.execute, hout]
  rfl

end Lookups

/-! ## Plans -/

section Plans

variable {g : Generator} {d : Disk}

/-- Every method gives its logic, around the function that its fragment renders. -/
theorem RpcSpec.exists_planMethods (s : RpcSpec)
    (hfile : ∀ key : TemplateKey, key.isBuiltin = true → d.isFile (g.repository.pathOf key) = false)
    (ms : List RpcMethod) :
    ∃ ts, (s.planMethods g ms).runOn d = (.ok ts, d) ∧
      List.Forall₂ (fun m t => ∃ functions,
        (g.renderFragment functionKey (s.functionContext m) m.node).runOn d = (.ok functions, d) ∧
          t = s.logicTarget g m functions) ms ts := by
  induction ms with
  | nil => exact ⟨[], rfl, .nil⟩
  | cons m ms ih =>
      obtain ⟨rest, hrest, hall⟩ := ih
      obtain ⟨functions, hfunctions⟩ := Generator.exists_renderFragment (hfile _ rfl)
        (Specification.Fragment.function s m).serves m.node
      refine ⟨s.logicTarget g m functions :: rest, ?_, .cons ⟨functions, hfunctions, rfl⟩ hall⟩
      have hmethod : (s.planMethod g m).runOn d = (.ok (s.logicTarget g m functions), d) := by
        rw [planMethod, runOn_bind_of_ok hfunctions]
        rfl
      rw [planMethods, runOn_bind_of_ok hmethod, runOn_bind_of_ok hrest]
      rfl

/-- Every table gives its model, around the imports that its fragment renders. -/
theorem ModelSpec.exists_planTables (s : ModelSpec)
    (hfile : ∀ key : TemplateKey, key.isBuiltin = true → d.isFile (g.repository.pathOf key) = false)
    (tables : List Table) :
    ∃ ts, (s.planTables g tables).runOn d = (.ok ts, d) ∧
      List.Forall₂ (fun table t => ∃ imports,
        (g.renderFragment s.importKey (Context.ofList [("time", .bool table.usesTime)])
            table.node).runOn d = (.ok imports, d) ∧
          t = s.tableTarget g table imports) tables ts := by
  have hkey : s.importKey.isBuiltin = true := by
    unfold importKey
    split <;> rfl
  induction tables with
  | nil => exact ⟨[], rfl, .nil⟩
  | cons table tables ih =>
      obtain ⟨rest, hrest, hall⟩ := ih
      obtain ⟨imports, himports⟩ := Generator.exists_renderFragment (hfile _ hkey)
        (Specification.Fragment.imports s table).serves table.node
      refine ⟨s.tableTarget g table imports :: rest, ?_, .cons ⟨imports, himports, rfl⟩ hall⟩
      have htable : (s.planTable g table).runOn d = (.ok (s.tableTarget g table imports), d) := by
        rw [planTable, runOn_bind_of_ok himports]
        rfl
      rw [planTables, runOn_bind_of_ok htable, runOn_bind_of_ok hrest]
      rfl

/-- Planning fails for bad parameters only. -/
theorem Specification.config_of_plan (s : Specification) (h : g.repository.Uncustomized d)
    {e : Error} (hplan : ((s.backend.plan g).runOn d).1 = .error e) :
    ∃ detail, e = .config detail := by
  cases s with
  | api s => exact ApiSpec.config_of_targets hplan
  | rpc s =>
      obtain ⟨ts, hts, -⟩ := s.exists_planMethods h.noFile s.service.methods
      change ((s.planMethods g s.service.methods >>= fun targets =>
        pure (targets ++ [s.settingsTarget g])).runOn d).1 = _ at hplan
      rw [runOn_bind_of_ok hts] at hplan
      exact absurd hplan nofun
  | model s =>
      change ((if s.tables.isEmpty then throw _ else _ : Action (List Target)).runOn d).1 = _ at hplan
      split at hplan
      · exact ⟨_, (Except.error.inj hplan).symm⟩
      · obtain ⟨ts, hts, -⟩ := s.exists_planTables h.noFile s.tables
        rw [runOn_bind_of_ok hts] at hplan
        exact absurd hplan nofun
  | mongo s => exact MongoSpec.config_of_targets hplan
  | manifest s => exact absurd hplan nofun

end Plans

/-! ## Places -/

/-- The file of a target never has the name of a builtin key. -/
theorem Specification.Offers.filename_ne {g : Generator} {s : Specification} {t : Target}
    (h : s.Offers g t) {key : TemplateKey} (hkey : key.isBuiltin = true) :
    t.filename ≠ key.name := by
  have hend : ∃ ending ∈ [".go", ".yaml", "Dockerfile"],
      ∃ front : String, t.filename = front ++ ending := by
    cases h with
    | settings s => exact ⟨".yaml", by decide, _, rfl⟩
    | image s => exact ⟨"Dockerfile", by decide, "", rfl⟩
    | deployment s => exact ⟨".yaml", by decide, _, rfl⟩
    | _ => exact ⟨".go", by decide, _, rfl⟩
  have hnames : ∀ c ∈ Category.all, ∀ key ∈ c.keys, ∀ ending ∈ [".go", ".yaml", "Dockerfile"],
      ¬ ending.toList <:+ key.name.toList := by decide
  obtain ⟨ending, hending, front, hfront⟩ := hend
  intro heq
  refine hnames _ (Category.mem_all _) key (key.mem_keys hkey) ending hending ?_
  rw [← heq, hfront, String.toList_append]
  exact List.suffix_append _ _

/-- No target is saved where the custom template of a builtin key lies. -/
theorem Specification.Offers.placeOf_ne {g : Generator} {s : Specification} {t : Target}
    (h : s.Offers g t) {dir dest : Path} (hdest : t.destination dir = .ok dest)
    {key : TemplateKey} (hkey : key.isBuiltin = true) (d : Disk) :
    d.placeOf dest ≠ d.placeOf (g.repository.pathOf key) := by
  have hplace : d.placeOf dest = d.placeOf dir ++ t.folders ++ [t.filename] := by
    rw [Disk.placeOf, (Target.components_destination hdest).1, Disk.follow_append,
      Disk.follow_names, List.append_assoc]
    rfl
  rw [hplace, Repository.placeOf_pathOf (Repository.isSegment_of_isBuiltin hkey)]
  intro heq
  exact h.filename_ne hkey (List.singleton_inj.mp (List.append_inj' heq rfl).2)

/-- What is written elsewhere brings no custom template about. -/
theorem Repository.Uncustomized.changesAt {r : Repository} {d e : Disk} {dest : Path}
    (h : r.Uncustomized d) (he : e.WellFormed) (hchange : d.ChangesAt (· = dest) e)
    (hdest : ∀ key : TemplateKey, key.isBuiltin = true →
      d.placeOf dest ≠ d.placeOf (r.pathOf key)) : r.Uncustomized e := by
  have hplace : ∀ key : TemplateKey, key.isBuiltin = true →
      ¬ ∃ p, p = dest ∧ d.placeOf (r.pathOf key) = d.placeOf p := by
    rintro key hkey ⟨p, rfl, heq⟩
    exact hdest key hkey heq.symm
  rcases h.lasting with hroot | hmissing
  · refine ⟨he, fun key hkey => ?_, Or.inl (hroot.frame hchange)⟩
    obtain ⟨names, hnames⟩ := r.components_pathOf (descends_of_isBuiltin hkey)
    have hsettled : d.Settled (r.pathOf key) := hroot.append_names hnames
    exact (Disk.Frame.sameFile hchange h.wellFormed hsettled (hplace key hkey)).isFile.trans
      (h.noFile key hkey)
  · have hstill : ∀ key : TemplateKey, key.isBuiltin = true →
        ∀ content, e.find? (e.placeOf (r.pathOf key)) ≠ some (.file content) := by
      intro key hkey content hcontent
      rw [Disk.placeOf_congr hchange.workingDirectory] at hcontent
      exact hmissing key hkey content (Disk.Frame.file hchange (hplace key hkey) hcontent)
    exact ⟨he, fun key hkey => Disk.isFile_of_missing (hstill key hkey), Or.inr hstill⟩

/-! ## Steps -/

namespace Generator

variable {g : Generator} {s : Specification} {dir : Path} {d after : Disk}

theorem isTemplateFree_of_checkPaths {ts : List Target} {e : Error}
    (h : checkPaths dir [] ts = .error e) : e.rootCause.IsTemplateFree := by
  obtain ⟨t, -, source, rfl, hcomplaint⟩ := exists_complaint_of_checkPaths (seen_nil dir) h
  rcases hcomplaint with ⟨detail, -, rfl⟩ | ⟨relative, -, rfl⟩
  · trivial
  · trivial

/-- Where planning fails, so does the run, for bad parameters. -/
theorem isTemplateFree_of_plan (hd : g.repository.Uncustomized d) {e e' : Error}
    (hplan : ((s.backend.plan g).runOn d).1 = .error e')
    (hrun : (g.run s.backend dir).runOn d = (.error e, after)) : e.rootCause.IsTemplateFree := by
  obtain ⟨detail, rfl⟩ := s.config_of_plan hd hplan
  have hfail : (mapError (s.backend.plan g) (attributePlan s.backend)).runOn d =
      (.error (attributePlan s.backend (.config detail)), d) := by
    rw [runOn_mapError, (s.readsOnly_backend g).runOn_eq d, hplan]
    rfl
  rw [run_eq, runOn_bind_of_error hfail] at hrun
  obtain rfl := Except.error.inj (Prod.mk.inj hrun).1
  trivial

/-- A target of a specification fails to be saved on account of the disk only. -/
theorem Step.isTemplateFree_of_offers {t : Target} {dest : Path} {e : Error}
    (h : Step g t dest d (.error e) after) (hd : g.repository.Uncustomized d)
    (ht : s.Offers g t) (hformatter : g.tools.formatter = Formatter.none) :
    e.rootCause.IsTemplateFree := by
  obtain ⟨text, c, out, htext, hcompile, hout⟩ := ht.serves.renders
  have hc : g.compiled t d = .ok (c.requiring t.template.required) := by
    unfold compiled
    rw [runOn_compile_of_builtin (hd.noFile _ ht.isBuiltin) htext hcompile]
  cases h with
  | uncompiled hc' => exact absurd (hc.symm.trans hc') nofun
  | unrendered hc' hk hx =>
      obtain rfl := Except.ok.inj (hc.symm.trans hc')
      exact absurd ((hout _ _).symm.trans hx) nofun
  | unformatted hc' hk hx hf =>
      rw [hformatter] at hf
      exact absurd hf nofun
  | @unwritten c' raw text' source after hc' hk hx hf hw =>
      exact failsWith_writeFile (P := fun e => e.rootCause.IsTemplateFree)
        (fun _ _ => trivial) dest text' d source after hw

/-- Saving the targets of a specification in turn, from a disk without custom
templates. The invariant of the chain is that there still are none. -/
theorem Steps.isTemplateFree_of_offers {planned : List (Target × Path)} {e : Error}
    (h : Steps g planned d (.error e) after) (hd : g.repository.Uncustomized d)
    (hplanned : ∀ x ∈ planned, s.Offers g x.1 ∧ x.1.destination dir = .ok x.2)
    (hformatter : g.tools.formatter = Formatter.none) : e.rootCause.IsTemplateFree := by
  induction h using Steps.errorInduction with
  | stop hstep =>
      exact hstep.isTemplateFree_of_offers hd (hplanned _ List.mem_cons_self).1 hformatter
  | @next t dest rest d mid after saved hstep hrest ih =>
      obtain ⟨hoffers, hdest⟩ := hplanned _ List.mem_cons_self
      refine ih ?_ fun x hx => hplanned x (List.mem_cons_of_mem _ hx)
      exact hd.changesAt (hstep.wellFormed hd.wellFormed) hstep.changesAt
        fun key hkey => hoffers.placeOf_ne hdest hkey d

/-- Without custom templates and without a formatter, a run of any of the five
backends fails for parameters, for repeated paths and for what the disk refuses,
and for nothing else: all that a specification can plan serves its builtin
template. -/
theorem builtin_templates_never_fail (hd : g.repository.Uncustomized d)
    (hformatter : g.tools.formatter = Formatter.none) :
    (∀ dir after e, (g.run s.backend dir).runOn d = (.error e, after) →
      e.rootCause.IsTemplateFree) ∧
    (∀ ts, ((s.backend.plan g).runOn d).1 = .ok ts → ∀ t ∈ ts, t.template.Serves t.context) ∧
    ∀ key context, s.Fragment key context → key.Serves context := by
  have hoffers : ∀ ts, ((s.backend.plan g).runOn d).1 = .ok ts → ∀ t ∈ ts, s.Offers g t := by
    intro ts hts
    have hplan := (s.readsOnly_backend g).runOn_eq d
    rw [hts] at hplan
    exact Specification.offers_of_plan hplan
  refine ⟨fun dir after e hrun => ?_, fun ts hts t ht => (hoffers ts hts t ht).serves,
    fun key context h => h.serves⟩
  · cases hplan : ((s.backend.plan g).runOn d).1 with
    | error e' => exact isTemplateFree_of_plan hd hplan hrun
    | ok ts =>
        rw [runOn_run s.readsOnly_backend hplan] at hrun
        cases hcheck : checkPaths dir [] ts with
        | error e' =>
            rw [hcheck] at hrun
            obtain rfl := Except.error.inj (Prod.mk.inj hrun).1
            exact isTemplateFree_of_checkPaths hcheck
        | ok planned =>
            rw [hcheck] at hrun
            dsimp only at hrun
            have hsteps := g.steps_saveAll planned d
            rw [hrun] at hsteps
            have hplanned : ∀ x ∈ planned, s.Offers g x.1 ∧ x.1.destination dir = .ok x.2 :=
              fun x hx => ⟨hoffers ts hplan x.1
                (map_fst_of_checkPaths hcheck ▸ List.mem_map_of_mem hx),
                destination_of_checkPaths hcheck x hx⟩
            exact hsteps.isTemplateFree_of_offers hd hplanned hformatter

/-- A disk on which the custom template of the settings is a directory and no
file, and the output directory is a file. -/
def blocked : Disk where
  entries := [(["home"], .directory), (["home", "1.2.0"], .directory),
    (["home", "1.2.0", "rpc"], .directory), (["home", "1.2.0", "rpc", "etc.tpl"], .directory),
    (["out"], .file ByteArray.empty)]

/-- A service without methods: its settings are all there is to write. -/
def quiet : RpcSpec := ⟨"shop", ⟨"user", "pb", []⟩⟩

theorem uncustomized_blocked : plain.repository.Uncustomized blocked := by
  have hall : ∀ c ∈ Category.all, ∀ key ∈ c.keys,
      blocked.isFile (plain.repository.pathOf key) = false := by decide
  refine ⟨Disk.wellFormed_of_entries (by decide) (by decide),
    fun key hkey => hall _ (Category.mem_all _) key (key.mem_keys hkey), Or.inl ?_⟩
  exact Disk.settled_of_no_parent (by decide)

theorem builtin_templates_never_fail_quiet :
    ∃ e, (plain.run (Specification.rpc quiet).backend ⟨"out"⟩).runOn blocked = (.error e, blocked) ∧
      e.rootCause.IsTemplateFree ∧
      (quiet.settingsTarget plain).template.Serves (quiet.settingsTarget plain).context := by
  obtain ⟨hfails, hserves, -⟩ := builtin_templates_never_fail (s := .rpc quiet)
    uncustomized_blocked rfl
  have hrun : (plain.run (Specification.rpc quiet).backend ⟨"out"⟩).runOn blocked =
      (.error (.generation .rpc "etc.tpl" "service user" (.io "out/etc" .notADirectory)),
        blocked) := by decide +kernel
  exact ⟨_, hrun, hfails _ _ _ hrun, hserves _ rfl _ List.mem_cons_self⟩

/-! ## A custom template that appears -/

/-- A target that serves its builtin template is written where nothing is kept. -/
theorem runOn_saveTarget_of_serves {t : Target} {dest : Path}
    (hfile : d.isFile (g.repository.pathOf t.template) = false)
    (ht : t.template.Serves t.context) (hkeep : ¬ Keeps t dest d)
    (hformatter : g.tools.formatter = Formatter.none) :
    ∃ raw, ∀ e, (writeFile dest raw).runOn d = (.ok (), e) →
      (g.saveTarget t dest).runOn d = (.ok .written, e) := by
  obtain ⟨text, c, raw, htext, hcompile, hexecute⟩ := ht.renders
  refine ⟨raw, fun e hwrite => ?_⟩
  have hc : (g.compile t.template).runOn d = (.ok (c.requiring t.template.required), d) :=
    runOn_compile_of_builtin hfile htext hcompile
  have hraw : g.tools.execute (c.requiring t.template.required) t.context = .ok raw :=
    hexecute _ _
  have hformat : g.tools.formatter dest raw = .ok raw := by
    rw [hformatter]
    rfl
  rw [saveTarget_eq, mapError_eq_ok, runOn_bind_of_ok hc, runOn_save_of_not_kept hkeep, hraw,
    runOn_bind_of_ok (runOn_ofExcept _ d), hformat, runOn_bind_of_ok (runOn_ofExcept _ d),
    runOn_bind_of_ok hwrite]
  rfl

/-- A deployment with nothing special about it. -/
def shop : ManifestSpec where
  name := "shop"
  image := "shop"
  namespace_ := "default"
  port := none
  replicas := 1
  goVersion := "1"
  main := "."

/-- A disk with a custom template that cannot be read as one. -/
def misspelled : Disk where
  entries := [(["home"], .directory), (["home", "1.2.0"], .directory),
    (["home", "1.2.0", "kube"], .directory),
    (["home", "1.2.0", "kube", "deployment.tpl"], .file "\x7b% if %\x7d".toUTF8)]

theorem isFile_misspelled {key : TemplateKey} (h : key.isBuiltin = true) :
    misspelled.isFile (roundabout.repository.pathOf key) = false := by
  have hall : ∀ c ∈ Category.all, ∀ key ∈ c.keys,
      misspelled.isFile (roundabout.repository.pathOf key) = false := by decide
  exact hall _ (Category.mem_all _) key (key.mem_keys h)

/-- Once there is a directory `out` the path of that template resolves. -/
theorem compile_after_write (raw : String) :
    ∃ e detail, (writeFile ⟨"out/Dockerfile"⟩ raw).runOn misspelled = (.ok (), e) ∧
      (roundabout.compile ⟨.kube, "deployment.tpl"⟩).runOn e =
        (.error (.templateSyntax "kube/deployment.tpl" detail), e) := by
  have hmade : (makeDirectories ⟨"out"⟩).runOn misspelled =
      (.ok (), misspelled.set ["out"] .directory) := by decide
  have hresolve : (misspelled.set ["out"] .directory).resolve ⟨"out/Dockerfile"⟩ =
      .ok ["out", "Dockerfile"] := by decide +kernel
  have hnew : (misspelled.set ["out"] .directory).find? ["out", "Dockerfile"] = none := by
    decide
  have hup : (Path.mk "out/Dockerfile").parent? = some ⟨"out"⟩ := by decide
  have hlook : (misspelled.set ["out"] .directory).look
      (roundabout.repository.pathOf ⟨.kube, "deployment.tpl"⟩) =
        .ok (["home", "1.2.0", "kube", "deployment.tpl"], .file "\x7b% if %\x7d".toUTF8) := by
    decide
  have hframe := Disk.frame_set_file (by rw [hnew]; exact nofun) raw.toUTF8
  have hcustom := Repository.runOn_customText?_of_file (hframe.look_eq_ok hlook (by decide))
  have hcompile := runOn_compile_of_load (Repository.runOn_load_of_custom hcustom)
  have hrefused : (CompiledTemplate.compile "kube/deployment.tpl" "\x7b% if %\x7d").isOk = false := by
    decide +kernel
  obtain ⟨detail, hdetail⟩ := CompiledTemplate.templateSyntax_of_not_isOk hrefused
  refine ⟨_, detail, ?_, hcompile.trans ?_⟩
  · rw [writeFile_of_some hup, runOn_bind_of_ok hmade]
    exact runOn_writeBytes_of_ok
      (Disk.writeBytes_of_resolve hresolve (by rw [hnew]; exact nofun) raw.toUTF8)
  · have hname : TemplateKey.text ⟨.kube, "deployment.tpl"⟩ = "kube/deployment.tpl" := by
      decide
    rw [hname, hdetail]
    rfl

/-- Without its condition on steps up the statement fails: the first file makes the
directory that the path of the home steps up out of. -/
theorem run_blames_appearing_template :
    ¬ ∀ (g : Generator) (s : Specification) (dir : Path) (d after : Disk) (e : Error),
      d.WellFormed → (∀ key : TemplateKey, key.isBuiltin = true →
        d.isFile (g.repository.pathOf key) = false) → g.tools.formatter = Formatter.none →
      (g.run s.backend dir).runOn d = (.error e, after) → e.rootCause.IsTemplateFree := by
  intro h
  have hformed : misspelled.WellFormed :=
    Disk.wellFormed_of_entries (by decide) (by decide)
  have himage : shop.imageTarget.relativePath = .ok ⟨"Dockerfile"⟩ := by decide
  have hdeployment : (shop.deploymentTarget roundabout).relativePath = .ok ⟨"shop.yaml"⟩ := by
    decide
  have hapart : ((Path.mk "out").join ⟨"Dockerfile"⟩).same ((Path.mk "out").join ⟨"shop.yaml"⟩) =
      false := by decide
  have hcheck := checkPaths_pair himage hdeployment hapart
  have hdest : (Path.mk "out").join ⟨"Dockerfile"⟩ = ⟨"out/Dockerfile"⟩ := by decide
  have hkeep : ¬ Keeps shop.imageTarget ⟨"out/Dockerfile"⟩ misspelled := by
    rintro ⟨-, hexists⟩
    exact absurd hexists (by decide)
  obtain ⟨raw, hwritten⟩ := runOn_saveTarget_of_serves (isFile_misspelled rfl)
    (Specification.Offers.image (g := roundabout) shop).serves hkeep rfl
  obtain ⟨e, detail, hwrite, hcompile⟩ := compile_after_write raw
  have hrefused : (roundabout.saveTarget (shop.deploymentTarget roundabout)
      ((Path.mk "out").join ⟨"shop.yaml"⟩)).runOn e =
        (.error (attributeTo (shop.deploymentTarget roundabout)
          (.templateSyntax "kube/deployment.tpl" detail)), e) := by
    have htemplate : (shop.deploymentTarget roundabout).template = ⟨.kube, "deployment.tpl"⟩ := rfl
    rw [runOn_saveTarget, compiled, htemplate, hcompile]
  have hrun : (roundabout.run (Specification.manifest shop).backend ⟨"out"⟩).runOn misspelled =
      (.error (attributeTo (shop.deploymentTarget roundabout)
        (.templateSyntax "kube/deployment.tpl" detail)), e) := by
    rw [runOn_run (Specification.manifest shop).readsOnly_backend rfl, hcheck, hdest]
    dsimp only
    rw [saveAll_cons_of_ok (hwritten e hwrite), saveAll_cons, runOn_bind_of_error hrefused]
    rfl
  exact h roundabout (.manifest shop) ⟨"out"⟩ misspelled e _ hformed
    (fun key => isFile_misspelled) rfl hrun

end Generator

end Scaffold
