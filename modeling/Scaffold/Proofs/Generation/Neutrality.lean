import Mathlib.Control.Monad.Basic
import Scaffold.Proofs.Catalog.Initialization
import Scaffold.Proofs.Disk.Growth
import Scaffold.Proofs.Generation.Defaults
import Scaffold.Proofs.Generation.Regeneration

/-!
# Initialising is neutral

Initialising changes what is custom and what is builtin, but no text. So planning
gives the same targets before it and after it, and a run behind it does what it
would have done without it: the two runs save target after target on two disks of
which one holds more, nothing of it on the way to a destination.
-/

namespace Scaffold

open Scaffold.Action Scaffold.Path

/-! ## What is more -/

namespace Disk

/-- What a second disk holds where the first one holds nothing. -/
def added (d e : Disk) (l : Location) : Option Entry :=
  match d.find? l with
  | none => e.find? l
  | some _ => none

variable {d e : Disk} {l : Location} {entry : Entry}

theorem added_of_none (h : d.find? l = none) : d.added e l = e.find? l := by
  unfold added
  rw [h]

theorem find?_of_added (h : d.added e l = some entry) :
    d.find? l = none ∧ e.find? l = some entry := by
  unfold added at h
  cases hfind : d.find? l with
  | none => exact ⟨rfl, by rwa [hfind] at h⟩
  | some found =>
      rw [hfind] at h
      exact absurd h nofun

end Disk

namespace Repository

variable {r : Repository} {d e : Disk}

theorem Extended.grows (h : r.Extended d e) : Disk.Grows (d.added e) d e := by
  refine ⟨h.workingDirectory, fun l => ?_⟩
  cases hfind : d.find? l with
  | none => rw [Disk.added_of_none hfind, Option.none_or]
  | some entry => exact h.find?_of_some hfind

theorem placeOf_root_prefix_place (key : TemplateKey) : d.placeOf r.root <+: r.place d key := by
  unfold place categoryPlace
  rw [List.append_assoc]
  exact List.prefix_append _ _

end Repository

namespace Generator

variable {g : Generator} {dir : Path} {d e : Disk}

/-- No place is below the output directory and below the custom templates. -/
theorem Separate.not_prefix (h : g.Separate dir d) {l : Location} (hdir : d.placeOf dir <+: l)
    (hroot : d.placeOf g.repository.root <+: l) : False := by
  rcases List.prefix_or_prefix_of_prefix hdir hroot with hprefix | hprefix
  · exact h.2 hprefix
  · exact h.1 hprefix

/-- What initialising adds spares every planned destination. -/
theorem Separate.spares {b : Backend} {dest : Path} (h : g.Separate dir d) (hd : d.WellFormed)
    (hroot : d.Settled g.repository.root) (hdir : d.Settled dir)
    (hextended : g.repository.Extended d e) (hdest : g.Planned b dir d dest) :
    Disk.Spares (d.added e) d dest := by
  obtain ⟨names, -, -, hcomponents, hplace⟩ := hdest.below
  have hsettled := hdir.append_names hcomponents
  have hbelow : d.placeOf dir <+: d.placeOf dest := hplace ▸ List.prefix_append _ _
  have hway : ∀ l entry, d.added e l = some entry → ∃ key : TemplateKey,
      l <+: g.repository.place d key ∧
        ∀ content, e.find? l = some (.file content) → l = g.repository.place d key := by
    intro l entry hadded
    obtain ⟨hnone, hsome⟩ := Disk.find?_of_added hadded
    exact hextended.prefix_place hd hroot hnone (by rw [hsome]; exact nofun)
  obtain ⟨ts, -, t, -, hdestination⟩ := hdest
  refine ⟨trimmed_of_destination hdestination, hsettled, fun l hl content hadded => ?_, ?_⟩
  · obtain ⟨key, -, hfile⟩ := hway l _ hadded
    obtain ⟨hnone, hheld⟩ := Disk.find?_of_added hadded
    have hl' := Disk.prefix_placeOf_of_above hd hsettled hl hnone
    rw [hfile content hheld] at hl'
    exact h.not_prefix hbelow ((Repository.placeOf_root_prefix_place key).trans hl')
  · cases hadded : d.added e (d.placeOf dest) with
    | none => rfl
    | some entry =>
        obtain ⟨key, hprefix, -⟩ := hway _ entry hadded
        exact (h.not_prefix (hbelow.trans hprefix)
          (Repository.placeOf_root_prefix_place key)).elim

/-! ## Runs side by side -/

variable {more : Location → Option Entry}

theorem sameCourse_save {c : CompiledTemplate} {context : Context} {tools : Tools}
    {dest : Path} {overwrite : Overwrite} (h : Disk.Grows more d e) (hd : d.WellFormed)
    (he : e.WellFormed) (hdest : Disk.Spares more d dest) :
    SameCourse more d e (c.save context tools dest overwrite) := by
  have hexists := (h.sameLook hd hdest).pathExists
  by_cases hkept : overwrite = .ifMissing ∧ d.pathExists dest = true
  · obtain ⟨rfl, hkept⟩ := hkept
    unfold SameCourse
    rw [runOn_save_of_kept hkept, runOn_save_of_kept (hexists.trans hkept)]
    exact ⟨rfl, h⟩
  · unfold SameCourse
    rw [runOn_save_of_not_kept hkept, runOn_save_of_not_kept (hexists ▸ hkept)]
    refine sameCourse_bind_of_reads h (reads_ofExcept _) rfl fun raw _ => ?_
    refine sameCourse_bind_of_reads h (reads_ofExcept _) rfl fun text _ => ?_
    exact sameCourse_bind (sameCourse_writeFile h hd he hdest text) fun _ _ _ _ _ hgrows =>
      ⟨rfl, hgrows⟩

theorem sameCourse_saveTarget {t : Target} {dest : Path} (h : Disk.Grows more d e)
    (hd : d.WellFormed) (he : e.WellFormed) (hdest : Disk.Spares more d dest)
    (hcompiled : g.compiled t e = g.compiled t d) : SameCourse more d e (g.saveTarget t dest) := by
  rw [saveTarget_eq]
  refine sameCourse_mapError (sameCourse_bind_of_reads h (g.reads_compile t.template) ?_ ?_) _
  · exact hcompiled
  · exact fun c _ => sameCourse_save h hd he hdest

/-- Saving many targets takes the same course on both disks, as long as every target
stands for the same template however much of the plan is done. The induction is on
the plan, and the disks in between differ from the first ones at `paths` only. -/
theorem sameCourse_saveAll (paths : Path → Prop) {planned : List (Target × Path)} {m m' : Disk}
    (hstable : ∀ m m', d.ChangesAt paths m → e.ChangesAt paths m' → ∀ x ∈ planned,
      g.compiled x.1 m' = g.compiled x.1 m)
    (hpaths : ∀ x ∈ planned, paths x.2) (hspares : ∀ x ∈ planned, Disk.Spares more d x.2)
    (hm : d.ChangesAt paths m) (hm' : e.ChangesAt paths m') (hformed : m.WellFormed)
    (hformed' : m'.WellFormed) (h : Disk.Grows more m m') :
    SameCourse more m m' (g.saveAll planned) := by
  induction planned generalizing m m' with
  | nil => exact ⟨rfl, h⟩
  | cons head rest ih =>
      obtain ⟨t, dest⟩ := head
      have hhead := hspares (t, dest) List.mem_cons_self
      have hsame : g.compiled t m' = g.compiled t m :=
        hstable m m' hm hm' (t, dest) List.mem_cons_self
      rw [saveAll_cons]
      refine sameCourse_bind (sameCourse_saveTarget h hformed hformed' (hhead.frame hm) hsame)
        fun saved n n' hsave hsave' hgrows => ?_
      have hstep := g.step_saveTarget t dest m
      have hstep' := g.step_saveTarget t dest m'
      rw [hsave] at hstep
      rw [hsave'] at hstep'
      have hchange : ∀ p, p = dest → paths p := fun p hp =>
        hp ▸ hpaths (t, dest) List.mem_cons_self
      have htail := ih (fun m m' hm hm' x hx => hstable m m' hm hm' x (List.mem_cons_of_mem _ hx))
        (fun x hx => hpaths x (List.mem_cons_of_mem _ hx))
        (fun x hx => hspares x (List.mem_cons_of_mem _ hx))
        (hm.trans (hstep.changesAt.mono hchange)) (hm'.trans (hstep'.changesAt.mono hchange))
        (hstep.wellFormed hformed) (hstep'.wellFormed hformed') hgrows
      refine sameCourse_bind htail fun report k k' _ _ hgrows => ?_
      cases saved <;> exact ⟨rfl, hgrows⟩

/-! ## Runs behind initialising -/

section Extended

variable {s : Specification} (hd : d.WellFormed) (hroot : d.Settled g.repository.root)
  (hextended : g.repository.Extended d e)
include hd hroot hextended

theorem sameTemplates_of_extended : g.SameTemplates d e := fun _ hkey =>
  hextended.textOf_eq hd hroot (Repository.isSegment_of_isBuiltin hkey)

theorem sameAnswer_plan_of_extended : SameAnswer d e (s.backend.plan g) :=
  s.sameAnswer_plan (sameTemplates_of_extended hd hroot hextended)

/-- What is planned behind initialising is what was planned before it. -/
theorem planned_of_extended {dest : Path} (h : g.Planned s.backend dir d dest) :
    g.Planned s.backend dir e dest := by
  obtain ⟨ts, hts, hdest⟩ := h
  exact ⟨ts, (sameAnswer_plan_of_extended hd hroot hextended).trans hts, hdest⟩

/-- However much of a plan is done on either disk, its targets stand for the same
templates. -/
theorem compiled_of_extended {t : Target} {m m' : Disk} (he : e.WellFormed)
    (hseparate : g.Separate dir d) (ht : t.template.isBuiltin = true)
    (hm : d.ChangesAt (g.Planned s.backend dir d) m)
    (hm' : e.ChangesAt (g.Planned s.backend dir d) m') : g.compiled t m' = g.compiled t m := by
  have hseparate' : g.Separate dir e := by
    unfold Separate at hseparate ⊢
    rwa [Disk.placeOf_congr hextended.workingDirectory, Disk.placeOf_congr hextended.workingDirectory]
  have hlast : g.SameTemplates e m' :=
    sameTemplates_of_changesAt he (hroot.frame hextended.frame) hseparate'
      (hm'.mono fun _ => planned_of_extended hd hroot hextended)
  have hfirst : g.SameTemplates d m := sameTemplates_of_changesAt hd hroot hseparate hm
  refine sameAnswer_compile ?_
  calc g.repository.textOf m' t.template
      = g.repository.textOf e t.template := hlast _ ht
    _ = g.repository.textOf d t.template := sameTemplates_of_extended hd hroot hextended _ ht
    _ = g.repository.textOf m t.template := (hfirst _ ht).symm

theorem sameCourse_run (he : e.WellFormed) (hdir : d.Settled dir) (hseparate : g.Separate dir d) :
    SameCourse (d.added e) d e (g.run s.backend dir) := by
  have hgrows := hextended.grows
  have hplan := sameAnswer_plan_of_extended (s := s) hd hroot hextended
  have hreads := s.readsOnly_backend g
  rw [run_eq]
  refine sameCourse_bind_of_reads hgrows (reads_mapError hreads _) (sameAnswer_mapError hplan _)
    fun ts hts => ?_
  have hts : ((s.backend.plan g).runOn d).1 = .ok ts :=
    congrArg Prod.fst (mapError_eq_ok.mp (Prod.ext hts (reads_mapError hreads _ d)))
  refine sameCourse_bind_of_reads hgrows (reads_ofExcept _) rfl fun planned hplanned => ?_
  have hcheck : checkPaths dir [] ts = .ok planned := hplanned
  have hmem : ∀ x ∈ planned, x.1 ∈ ts := fun x hx =>
    map_fst_of_checkPaths hcheck ▸ List.mem_map_of_mem hx
  have hpaths : ∀ x ∈ planned, g.Planned s.backend dir d x.2 := fun x hx =>
    ⟨ts, hts, x.1, hmem x hx, destination_of_checkPaths hcheck x hx⟩
  have hoffers := Specification.offers_of_plan (Prod.ext hts (hreads d))
  have hspares : ∀ x ∈ planned, Disk.Spares (d.added e) d x.2 := fun x hx =>
    hseparate.spares hd hroot hdir hextended (hpaths x hx)
  exact sameCourse_saveAll (g.Planned s.backend dir d)
    (fun m m' hm hm' x hx =>
      compiled_of_extended hd hroot hextended he hseparate (hoffers x.1 (hmem x hx)).isBuiltin hm hm')
    hpaths hspares (Disk.ChangesAt.refl d) (Disk.ChangesAt.refl e) hd he hgrows

end Extended

end Generator

/-! ## Neutrality -/

namespace Repository

open Generator

/-- A disk `e` behind an attempt to initialise `d` that nothing but the origins of
templates tells from `d`. -/
structure Neutral (r : Repository) (d : Disk) (result : Except Error Nat) (e : Disk) : Prop where
  error : ∀ err, result = .error err → ∃ path fault, err = .io path fault
  kept : ∀ l entry, d.find? l = some entry → e.find? l = some entry
  texts : ∀ key : TemplateKey, IsSegment key.name → r.textOf e key = r.textOf d key
  plans : ∀ (g : Generator) (s : Specification), g.repository = r →
    SameAnswer d e (s.backend.plan g)
  /-- Apart from the custom templates the same files are generated, and the rest of
  the disk is as initialising left it. -/
  runs : ∀ (g : Generator) (s : Specification) (dir : Path), g.repository = r → d.Settled dir →
    g.Separate dir d → SameAnswer d e (g.run s.backend dir) ∧
      ∀ l, ((g.run s.backend dir).runOn e).2.find? l =
        (((g.run s.backend dir).runOn d).2.find? l).or (e.find? l)

/-- However far initialising gets, all that was there stays, and every key that names a
file goes on to stand for the same text or to fail in the same way. So every
specification is planned alike, and generated alike below every output directory that
lies apart from the custom templates. The steps up in the paths of the home and of the
output directory have to leave directories that are there. -/
theorem init_neutral {r : Repository} {cs : List Category} {d e : Disk} {result : Except Error Nat}
    (hd : d.WellFormed) (hroot : d.Settled r.root) (hinit : (r.init cs).runOn d = (result, e)) :
    r.Neutral d result e := by
  have hinitialized := initialized_init hd hroot cs
  rw [hinit] at hinitialized
  obtain ⟨he, hextended, herror⟩ := hinitialized
  refine ⟨herror, fun l entry => hextended.find?_of_some,
    fun key hname => hextended.textOf_eq hd hroot hname, ?_, ?_⟩
  · rintro g s rfl
    exact sameAnswer_plan_of_extended hd hroot hextended
  · rintro g s dir rfl hdir hseparate
    obtain ⟨hresult, hgrows⟩ := sameCourse_run (s := s) hd hroot hextended he hdir hseparate
    refine ⟨hresult, fun l => ?_⟩
    rw [hgrows.entries]
    cases hleft : ((g.run s.backend dir).runOn d).2.find? l with
    | some entry => rfl
    | none =>
        -- what is missing behind the run was missing before it
        have hnone : d.find? l = none := by
          cases hfind : d.find? l with
          | none => rfl
          | some entry =>
              rcases (changesAt_run g s.readsOnly_backend dir d).entries l with
                heq | ⟨-, -, content, heq⟩ | ⟨-, -, heq⟩ <;>
              · rw [hleft] at heq
                exact absurd heq (by simp [hfind])
        rw [Disk.added_of_none hnone]

theorem init_neutral_adapted : ∃ e,
    (plain.repository.init [.rpc, .mongo]).runOn Generator.adapted = (.ok 4, e) ∧
    plain.repository.Neutral Generator.adapted (.ok 4) e ∧
    SameAnswer Generator.adapted e (plain.run (Specification.rpc idle).backend ⟨"out"⟩) := by
  have hcount : ((plain.repository.init [.rpc, .mongo]).runOn Generator.adapted).1 = .ok 4 := by
    decide +kernel
  rcases hinit : (plain.repository.init [.rpc, .mongo]).runOn Generator.adapted with ⟨result, e⟩
  rw [hinit] at hcount
  obtain rfl : result = .ok 4 := hcount
  have hneutral := init_neutral (Disk.wellFormed_of_entries (by decide) (by decide))
    (Disk.settled_of_no_parent (by decide)) hinit
  have hseparate : plain.Separate ⟨"out"⟩ Generator.adapted := ⟨by decide, by decide⟩
  exact ⟨e, rfl, hneutral, (hneutral.runs plain (.rpc idle) ⟨"out"⟩ rfl
    (Disk.settled_of_no_parent (by decide)) hseparate).1⟩

/-! ## Hidden templates -/

/-- A disk with two custom templates, one of them for a builtin key. -/
def shared : Disk where
  entries := [(["h"], .directory), (["h", "1.2.0"], .directory), (["h", "1.2.0", "docker"], .directory),
    (["h", "1.2.0", "docker", "docker.tpl"], .file "mine".toUTF8),
    (["h", "1.2.0", "docker", "other.tpl"], .file "other".toUTF8)]

/-- A home whose path steps up out of a directory that is missing there. -/
def detour : Repository := ⟨⟨"x/../h"⟩⟩

/-- The directory that is made on the way lets the path lead to what was there. -/
theorem init_detour_shared : ∃ e, (detour.init [.docker]).runOn shared = (.ok 1, e) ∧
    e.find? ["h", "1.2.0", "docker", "docker.tpl"] = some (.file BuiltinText.dockerDocker.toUTF8) ∧
    detour.textOf e ⟨.docker, "other.tpl"⟩ = .ok "other" := by
  have hdone : ((detour.write ⟨.docker, "docker.tpl"⟩ BuiltinText.dockerDocker).runOn shared).1 =
      .ok () := by decide +kernel
  have htext : detour.textOf ((detour.write ⟨.docker, "docker.tpl"⟩
      BuiltinText.dockerDocker).runOn shared).2 ⟨.docker, "other.tpl"⟩ = .ok "other" := by
    decide +kernel
  rcases hwrite : (detour.write ⟨.docker, "docker.tpl"⟩ BuiltinText.dockerDocker).runOn shared with
    ⟨result, e⟩
  rw [hwrite] at hdone htext
  obtain rfl : result = .ok () := hdone
  have hplace : shared.placeOf (detour.pathOf ⟨.docker, "docker.tpl"⟩) =
      ["h", "1.2.0", "docker", "docker.tpl"] := by decide
  have hmissing : shared.isFile (detour.pathOf ⟨.docker, "docker.tpl"⟩) = false := by decide
  have hinit : detour.init [.docker] = detour.initKeys [⟨.docker, "docker.tpl"⟩] := rfl
  refine ⟨e, ?_, hplace ▸ find?_of_writeFile hwrite, htext⟩
  rw [hinit, runOn_initKeys_of_missing hmissing rfl, runOn_bind_of_ok hwrite]
  rfl

/-- A disk with a file from an earlier run. -/
def resumed : Disk where
  entries := [(["home"], .directory), (["home", "1.2.0"], .directory),
    (["home", "1.2.0", "docker"], .directory),
    (["home", "1.2.0", "docker", "docker.tpl"], .file "image".toUTF8),
    (["home", "1.2.0", "kube"], .directory),
    (["home", "1.2.0", "kube", "deployment.tpl"], .file "deployment".toUTF8),
    (["out"], .directory), (["out", "Dockerfile"], .file "mine".toUTF8)]

/-- An output directory whose path steps up out of the directory of a category. -/
def around : Path := ⟨"/home/1.2.0/rpc/../../../out"⟩

/-- The file is written over before that directory is made, and kept after it is. -/
theorem run_around_resumed :
    ((plain.run (Specification.manifest shop).backend around).runOn resumed).1 =
      .ok ⟨[around.join ⟨"Dockerfile"⟩, around.join ⟨"shop.yaml"⟩], []⟩ ∧
    ((plain.run (Specification.manifest shop).backend around).runOn
      ((plain.repository.init [.rpc]).runOn resumed).2).1 =
      .ok ⟨[around.join ⟨"shop.yaml"⟩], [around.join ⟨"Dockerfile"⟩]⟩ :=
  ⟨by decide +kernel, by decide +kernel⟩

/-- Initialising can write over a custom template, and make another one appear, if the
path of the home steps up out of a directory that initialising makes: it looks for a
template before that and writes it after. And if the path of the output directory does
so, a run finds files there that it does not find otherwise. -/
theorem init_overwrites_hidden :
    (¬ ∀ (r : Repository) (cs : List Category) (d e : Disk) (result : Except Error Nat),
      d.WellFormed → (r.init cs).runOn d = (result, e) →
        ∀ l content, d.find? l = some (.file content) → e.find? l = some (.file content)) ∧
    (¬ ∀ (r : Repository) (cs : List Category) (d e : Disk) (result : Except Error Nat),
      d.WellFormed → (r.init cs).runOn d = (result, e) →
        ∀ key : TemplateKey, IsSegment key.name → r.textOf e key = r.textOf d key) ∧
    ¬ ∀ (g : Generator) (s : Specification) (dir : Path) (cs : List Category) (d e : Disk)
      (result : Except Error Nat), d.WellFormed → d.Settled g.repository.root →
        (g.repository.init cs).runOn d = (result, e) → g.Separate dir d →
          SameAnswer d e (g.run s.backend dir) := by
  obtain ⟨e, hinit, hheld, htext⟩ := init_detour_shared
  have hformed : shared.WellFormed :=
    Disk.wellFormed_of_entries (by decide) (by decide)
  refine ⟨fun h => ?_, fun h => ?_, fun h => ?_⟩
  · have hkept := h detour [.docker] shared e _ hformed hinit
      ["h", "1.2.0", "docker", "docker.tpl"] "mine".toUTF8 (by decide)
    rw [hheld] at hkept
    have hsame := toUTF8_inj.mp (Entry.file.inj (Option.some.inj hkept))
    have hnewline : '\n' ∈ BuiltinText.dockerDocker.toList :=
      BuiltinText.newline_mem_ofLines _ _
    rw [hsame] at hnewline
    exact absurd hnewline (by decide)
  · have hunknown : detour.textOf shared ⟨.docker, "other.tpl"⟩ =
        .error (unknown ⟨.docker, "other.tpl"⟩) := by decide
    have hsame := h detour [.docker] shared e _ hformed hinit ⟨.docker, "other.tpl"⟩ (by decide)
    rw [htext, hunknown] at hsame
    exact absurd hsame nofun
  · obtain ⟨hbefore, hafter⟩ := run_around_resumed
    rcases hresumed : (plain.repository.init [.rpc]).runOn resumed with ⟨result, e⟩
    have hsame := h plain (.manifest shop) around [.rpc] resumed e result
      (Disk.wellFormed_of_entries (by decide) (by decide))
      (Disk.settled_of_no_parent (by decide)) hresumed
      ⟨by decide, by decide⟩
    rw [hresumed] at hafter
    unfold SameAnswer at hsame
    rw [hbefore, hafter] at hsame
    exact absurd (congrArg Report.skipped (Except.ok.inj hsame)) nofun

end Repository

end Scaffold
