import Mathlib.Data.Nat.Find
import Scaffold.Proofs.Generation.Interruption
import Scaffold.Proofs.Generation.Specifications

/-!
# Whom an error names

An error is attributed where it arises: by the fragment that fails while a plan
is made, by the plan itself, by the check of the paths or by the target that is
being saved. Whatever goes wrong in a run of a specification, one of them
speaks, and what it wraps is an error that nobody has attributed yet. Texts may be
formatted by programs of any kind, which come and go, fail in their own ways and
change the disk.
-/

namespace Scaffold

open Scaffold.Action

/-! ## Errors that name nothing yet -/

/-- An error with the name of what was being generated. -/
def Error.IsGeneration : Error → Prop
  | .generation _ _ _ _ => True
  | _ => False

theorem Error.IsTemplateKind.not_isGeneration {e : Error} (h : e.IsTemplateKind) :
    ¬ e.IsGeneration := by
  cases e <;> first | exact id | exact absurd h id

/-- Whatever becomes of a program that formats, what is said of it is a complaint about
the file. -/
theorem FormatterCommands.failsWith_piping (f : FormatterCommands) (launch : Launcher (StateM Disk))
    (path : Path) (text : String) :
    FailsWith (fun e => ∃ detail, e = .format path.text detail) (f.piping launch path text) := by
  intro d e after h
  change f.pipe launch path text d = _ at h
  unfold pipe at h
  cases hcommand : f.commandFor path with
  | none =>
      rw [hcommand] at h
      cases h
  | some command =>
      rw [hcommand] at h
      cases command with
      | nil => cases h
      | cons program args =>
          obtain ⟨h, -⟩ := Prod.ext_iff.mp h
          change (resultOf program _).mapError _ = _ at h
          unfold Except.mapError at h
          split at h
          · next detail _ => exact ⟨detail, (Except.error.inj h).symm⟩
          · cases h

/-! ## Fragments -/

/-- A text that is rendered while a plan is made. -/
structure PlannedFragment where
  key : TemplateKey
  context : Context
  node : String

def RpcSpec.function (s : RpcSpec) (m : RpcMethod) : PlannedFragment :=
  ⟨functionKey, s.functionContext m, m.node⟩

def ModelSpec.imports (s : ModelSpec) (t : Table) : PlannedFragment :=
  ⟨s.importKey, Context.ofList [("time", .bool t.usesTime)], t.node⟩

/-- The fragments of a specification in the order of its plan: the functions of
its methods or the imports of its tables. -/
def Specification.fragments : Specification → List PlannedFragment
  | .rpc s => s.service.methods.map s.function
  | .model s => s.tables.map s.imports
  | _ => []

namespace Generator

variable {g : Generator} {d after : Disk}

/-- The text of a fragment, or why it has none. -/
def fragmentText (g : Generator) (d : Disk) (f : PlannedFragment) : Except Error String :=
  ((g.compile f.key).runOn d).1 >>= fun template => g.tools.execute template f.context

theorem runOn_renderFragment (f : PlannedFragment) (d : Disk) :
    (g.renderFragment f.key f.context f.node).runOn d =
      ((g.fragmentText d f).mapError (.generation f.key.category f.key.name f.node), d) := by
  unfold renderFragment fragmentText
  rw [runOn_mapError, runOn_bind, (g.reads_compile f.key).runOn_eq d]
  cases ((g.compile f.key).runOn d).1 <;> rfl

theorem not_isGeneration_of_fragmentText {f : PlannedFragment} {e : Error}
    (h : g.fragmentText d f = .error e) : ¬ e.IsGeneration := by
  unfold fragmentText at h
  cases hc : ((g.compile f.key).runOn d).1 with
  | error e' =>
      rw [hc] at h
      obtain rfl := Except.error.inj h
      exact (g.failsWith_compile f.key d _ _ (Prod.ext hc rfl)).not_isGeneration
  | ok template =>
      rw [hc] at h
      exact (CompiledTemplate.isTemplateKind_of_execute h).not_isGeneration

/-- The first of some fragments that has no text, and why. -/
def FirstWithoutText (g : Generator) (d : Disk) (fs : List PlannedFragment)
    (f : PlannedFragment) (source : Error) : Prop :=
  ∃ before rest, fs = before ++ f :: rest ∧ (∀ x ∈ before, ∃ text, g.fragmentText d x = .ok text) ∧
    g.fragmentText d f = .error source

/-- What a fragment without a text fails with. -/
def failureOf (f : PlannedFragment) (source : Error) : Error :=
  .generation f.key.category f.key.name f.node source

theorem FirstWithoutText.cons {fs : List PlannedFragment} {head f : PlannedFragment}
    {source : Error} {text : String} (hhead : g.fragmentText d head = .ok text)
    (h : g.FirstWithoutText d fs f source) : g.FirstWithoutText d (head :: fs) f source := by
  obtain ⟨before, rest, rfl, hbefore, hf⟩ := h
  exact ⟨head :: before, rest, rfl, List.forall_mem_cons.mpr ⟨⟨text, hhead⟩, hbefore⟩, hf⟩

/-- A plan that renders one fragment for each of its items and makes a target of it. -/
structure PlansFragments {α : Type} (g : Generator) (fragment : α → PlannedFragment)
    (target : α → String → Target) (plan : List α → Action (List Target)) : Prop where
  nil : plan [] = pure []
  cons : ∀ x xs, plan (x :: xs) =
    (g.renderFragment (fragment x).key (fragment x).context (fragment x).node >>= fun text =>
      pure (target x text)) >>= fun t => plan xs >>= fun ts => pure (t :: ts)

section

variable {α : Type} {fragment : α → PlannedFragment} {target : α → String → Target}
  {plan : List α → Action (List Target)}

/-- Such a plan fails for the first fragment that has no text. -/
theorem PlansFragments.firstWithoutText (hplan : g.PlansFragments fragment target plan)
    {xs : List α} {e : Error} (h : (plan xs).runOn d = (.error e, after)) :
    ∃ f source, g.FirstWithoutText d (xs.map fragment) f source ∧ e = failureOf f source := by
  induction xs with
  | nil =>
      rw [hplan.nil] at h
      exact absurd (congrArg Prod.fst h) nofun
  | cons x xs ih =>
      have hrender := g.runOn_renderFragment (fragment x) d
      rw [hplan.cons] at h
      cases hx : g.fragmentText d (fragment x) with
      | error source =>
          rw [hx] at hrender
          rw [runOn_bind_of_error (runOn_bind_of_error hrender)] at h
          exact ⟨fragment x, source, ⟨[], xs.map fragment, rfl, List.forall_mem_nil _, hx⟩,
            (Except.error.inj (congrArg Prod.fst h)).symm⟩
      | ok text =>
          rw [hx] at hrender
          rw [runOn_bind_of_ok (x := target x text) (by rw [runOn_bind_of_ok hrender]; rfl)] at h
          rcases bind_eq_error h with hrest | ⟨ts, mid, -, hpure⟩
          · obtain ⟨f, source, hfirst, he⟩ := ih hrest
            exact ⟨f, source, hfirst.cons hx, he⟩
          · exact absurd (congrArg Prod.fst hpure) nofun

/-- Two generators for which the fragments come to the same make the same of such a plan. -/
theorem PlansFragments.congr {g' : Generator} {plan' : List α → Action (List Target)}
    (hplan : g.PlansFragments fragment target plan)
    (hplan' : g'.PlansFragments fragment target plan') {xs : List α}
    (h : ∀ x ∈ xs, g'.fragmentText d (fragment x) = g.fragmentText d (fragment x)) :
    (plan' xs).runOn d = (plan xs).runOn d := by
  induction xs with
  | nil => rw [hplan.nil, hplan'.nil]
  | cons x xs ih =>
      have hrest := ih fun y hy => h y (List.mem_cons_of_mem _ hy)
      have hreads := g.reads_renderFragment (fragment x).key (fragment x).context (fragment x).node
      have hrender : (g'.renderFragment (fragment x).key (fragment x).context
            (fragment x).node).runOn d =
          (g.renderFragment (fragment x).key (fragment x).context (fragment x).node).runOn d := by
        rw [runOn_renderFragment, runOn_renderFragment, h x List.mem_cons_self]
      rw [hplan.cons, hplan'.cons]
      refine (reads_bind hreads fun _ => reads_pure _).bind_congr
        (hreads.bind_congr hrender fun _ => rfl) fun t => ?_
      rw [runOn_bind, runOn_bind, hrest]

end

end Generator

/-! ## Plans -/

variable {g : Generator} {d : Disk}

theorem RpcSpec.plansFragments (s : RpcSpec) (g : Generator) :
    g.PlansFragments s.function (s.logicTarget g) (s.planMethods g) := ⟨rfl, fun _ _ => rfl⟩

theorem ModelSpec.plansFragments (s : ModelSpec) (g : Generator) :
    g.PlansFragments s.imports (s.tableTarget g) (s.planTables g) := ⟨rfl, fun _ _ => rfl⟩

/-- A plan that fails does so for a fragment, or it renders none and a parameter
is bad. -/
theorem Specification.plan_eq_error {s : Specification} {e : Error}
    (h : ((s.backend.plan g).runOn d).1 = .error e) :
    (∃ f source, g.FirstWithoutText d s.fragments f source ∧ e = Generator.failureOf f source) ∨
      s.fragments = [] ∧ ∃ detail, e = .config detail := by
  cases s with
  | api s => exact Or.inr ⟨rfl, ApiSpec.config_of_targets h⟩
  | rpc s =>
      rcases bind_eq_error (Prod.ext h rfl) with hmethods | ⟨ts, mid, -, hpure⟩
      · exact Or.inl ((s.plansFragments g).firstWithoutText hmethods)
      · exact absurd (congrArg Prod.fst hpure) nofun
  | model s =>
      change ((if s.tables.isEmpty then throw _ else _ : Action (List Target)).runOn d).1 = _ at h
      split at h
      · next hempty =>
        refine Or.inr ⟨?_, _, (Except.error.inj h).symm⟩
        rw [fragments, List.isEmpty_iff.mp hempty, List.map_nil]
      · rcases bind_eq_error (Prod.ext h rfl) with htables | ⟨ts, mid, -, hpure⟩
        · exact Or.inl ((s.plansFragments g).firstWithoutText htables)
        · exact absurd (congrArg Prod.fst hpure) nofun
  | mongo s => exact Or.inr ⟨rfl, MongoSpec.config_of_targets h⟩
  | manifest s => exact absurd h nofun

/-! ## Runs -/

namespace Generator

/-- Whom an error of a run names, and what it wraps. -/
inductive Blames (g : Generator) (formatting : Formatting) (s : Specification) (dir : Path)
    (d : Disk) : Category → String → String → Error → Prop
  /-- The plan, which renders no fragments. -/
  | specification {source : Error} (hfragments : s.fragments = [])
      (hplan : ((s.backend.plan g).runOn d).1 = .error source) :
      Blames g formatting s dir d s.backend.category "" (s.backend.name ++ " specification") source
  /-- The first fragment of the plan that has no text. -/
  | fragment {f : PlannedFragment} {source : Error}
      (hfirst : g.FirstWithoutText d s.fragments f source)
      (hplan : ((s.backend.plan g).runOn d).1 = .error (failureOf f source)) :
      Blames g formatting s dir d f.key.category f.key.name f.node source
  /-- The first target whose path is refused or repeated. -/
  | path {ts : List Target} {i : Nat} {t : Target} {source : Error}
      (hplan : ((s.backend.plan g).runOn d).1 = .ok ts) (hfirst : FirstFault ts i t)
      (hcomplaint : IsComplaint dir t source) :
      Blames g formatting s dir d t.category t.template.name t.node source
  /-- The first target that cannot be saved, once all paths have passed. -/
  | target {ts : List Target} {before rest : List (Target × Path)} {t : Target} {dest : Path}
      {report : Report} {mid after : Disk} {source : Error}
      (hplan : ((s.backend.plan g).runOn d).1 = .ok ts)
      (hpaths : checkPaths dir [] ts = .ok (before ++ (t, dest) :: rest))
      (hbefore : (g.saveAllWith formatting before).runOn d = (.ok report, mid))
      (hsave : (g.saveTargetWith formatting t dest).runOn mid =
        (.error (attributeTo t source), after)) :
      Blames g formatting s dir d t.category t.template.name t.node source

theorem IsComplaint.not_isGeneration {dir : Path} {t : Target} {source : Error}
    (h : IsComplaint dir t source) : ¬ source.IsGeneration := by
  rcases h with ⟨detail, -, rfl⟩ | ⟨relative, -, rfl⟩
  · exact id
  · exact id

/-- A check that complains does so about the first faulty target. -/
theorem exists_firstFault {dir : Path} {ts : List Target} {e : Error}
    (h : checkPaths dir [] ts = .error e) :
    ∃ i t source, FirstFault ts i t ∧ e = attributeTo t source ∧ IsComplaint dir t source := by
  classical
  have hfault : ∃ i t, FaultyAt ts i t := by
    by_contra hnone
    obtain ⟨planned, hplanned⟩ := checkPaths_of_noFault (seen_nil dir) fun i t hfault =>
      hnone ⟨i, t, hfault⟩
    exact absurd (h.symm.trans hplanned) nofun
  obtain ⟨t, ht⟩ := Nat.find_spec hfault
  have hfirst : FirstFault ts (Nat.find hfault) t :=
    ⟨ht, fun j hj s hs => Nat.find_min hfault hj ⟨s, hs⟩⟩
  obtain ⟨source, hsource, hcomplaint⟩ := checkPaths_of_firstFault (seen_nil dir) hfirst
  exact ⟨_, t, source, hfirst, Except.error.inj (h.symm.trans hsource), hcomplaint⟩

/-- Saving a target complains in the name of the target about something that names nothing. -/
theorem failsWith_saveTargetWith {formatting : Formatting}
    (hformatting : ∀ path text, FailsWith (¬ ·.IsGeneration) (formatting path text)) (t : Target)
    (dest : Path) :
    FailsWith (fun e => ∃ source, e = attributeTo t source ∧ ¬ source.IsGeneration)
      (g.saveTargetWith formatting t dest) := by
  refine failsWith_mapError (P := (¬ ·.IsGeneration)) ?_ fun source hsource => ⟨source, rfl, hsource⟩
  refine failsWith_bind ((g.failsWith_compile t.template).imp fun _ => (·.not_isGeneration))
    fun c => failsWith_bind (failsWith_ask _) fun found => ?_
  split
  · exact failsWith_pure _
  · refine failsWith_bind (failsWith_ofExcept fun e he => ?_) fun raw =>
      failsWith_bind (hformatting dest raw) fun text =>
      failsWith_bind (failsWith_writeFile (fun _ _ => id) dest text) fun _ => failsWith_pure _
    exact (CompiledTemplate.isTemplateKind_of_execute he).not_isGeneration

/-- Every error of a run names what was being generated, once: the specification, a
fragment of its plan or the first target that cannot be generated. Programs of all kinds can
format the texts, and they can read and change the disk. -/
theorem run_attributes_once (g : Generator) (commands : FormatterCommands)
    (launch : Launcher (StateM Disk)) (s : Specification) (dir : Path) {d after : Disk} {e : Error}
    (h : (g.runWith (commands.piping launch) s.backend dir).runOn d = (.error e, after)) :
    ∃ category template node source, e = .generation category template node source ∧
      ¬ source.IsGeneration ∧
      g.Blames (commands.piping launch) s dir d category template node source := by
  cases hplan : ((s.backend.plan g).runOn d).1 with
  | error source =>
      -- what planning fails with is wrapped unless a fragment has wrapped it
      have hrun : (g.runWith (commands.piping launch) s.backend dir).runOn d =
          (.error (attributePlan s.backend source), d) := by
        refine runOn_bind_of_error ?_
        rw [runOn_mapError, (s.readsOnly_backend g).runOn_eq, hplan]
        rfl
      obtain rfl := Except.error.inj (congrArg Prod.fst (hrun.symm.trans h))
      rcases Specification.plan_eq_error hplan with
        ⟨f, source, hfirst, rfl⟩ | ⟨hfragments, detail, rfl⟩
      · obtain ⟨before, rest, hsplit, hbefore, hf⟩ := hfirst
        exact ⟨_, _, _, source, rfl, not_isGeneration_of_fragmentText hf,
          .fragment ⟨before, rest, hsplit, hbefore, hf⟩ hplan⟩
      · exact ⟨_, _, _, _, rfl, id, .specification hfragments hplan⟩
  | ok ts =>
      rw [runOn_runWith s.readsOnly_backend hplan] at h
      cases hcheck : checkPaths dir [] ts with
      | error complaint =>
          rw [hcheck] at h
          obtain rfl := Except.error.inj (congrArg Prod.fst h)
          obtain ⟨i, t, source, hfirst, rfl, hcomplaint⟩ := exists_firstFault hcheck
          exact ⟨_, _, _, source, rfl, hcomplaint.not_isGeneration,
            .path hplan hfirst hcomplaint⟩
      | ok planned =>
          rw [hcheck] at h
          obtain ⟨before, ⟨t, dest⟩, rest, report, mid, rfl, hbefore, hsave⟩ :=
            saveAllWith_eq_error h
          have hcomplaints : ∀ path text,
              FailsWith (¬ ·.IsGeneration) (commands.piping launch path text) := by
            refine fun path text => (commands.failsWith_piping launch path text).imp ?_
            rintro _ ⟨detail, rfl⟩
            exact id
          obtain ⟨source, rfl, hsource⟩ :=
            failsWith_saveTargetWith hcomplaints t dest mid e after hsave
          exact ⟨_, _, _, source, rfl, hsource, .target hplan hcheck hbefore hsave⟩

/-- A run with commands is one with the programs of this library. -/
theorem run_eq_of_commands {commands : FormatterCommands}
    (h : g.tools.formatter = commands.formatter) (b : Backend) (dir : Path) :
    g.run b dir = g.runWith
      (commands.piping fun path argv input => pure (FormatterCommands.shells path argv input))
      b dir := by
  have hformatting : commands.formatter.formatting =
      commands.piping fun path argv input => pure (FormatterCommands.shells path argv input) := by
    funext path text d
    unfold Formatter.formatting FormatterCommands.formatter FormatterCommands.piping
      FormatterCommands.pipe FormatterCommands.start
    split
    · rfl
    · rfl
    · split <;> rfl
  rw [run, h, hformatting]

/-! ## A template of another category, and one that is spoilt -/

def gallery : ManifestSpec where
  name := "gallery"
  namespace_ := "default"
  replicas := 1
  image := "gallery"
  port := none
  goVersion := "1"
  main := "."

/-- A disk with a custom template for images that is no text. -/
def garbled : Disk where
  entries := [(["home"], .directory), (["home", "1.2.0"], .directory),
    (["home", "1.2.0", "docker"], .directory),
    (["home", "1.2.0", "docker", "docker.tpl"], .file ⟨#[0xff]⟩)]

def journal : MongoSpec where
  types := ["entry"]
  cache := false

/-- A disk with custom templates for the models of types and for their errors. -/
def tidy : Disk where
  entries := [(["home"], .directory), (["home", "1.2.0"], .directory),
    (["home", "1.2.0", "mongo"], .directory),
    (["home", "1.2.0", "mongo", "model.tpl"], .file "package model".toUTF8),
    (["home", "1.2.0", "mongo", "error.tpl"], .file "package model".toUTF8)]

def formatsGo : FormatterCommands := ⟨SortedMap.ofList [("go", ["gofmt"])]⟩

/-- A program that prints nothing and spoils a custom template. -/
def spoiling : Launcher (StateM Disk) := fun _ _ _ d =>
  (.ok ⟨none, .ok ⟨[], [], .exited 0, 0⟩⟩,
    d.set ["home", "1.2.0", "mongo", "error.tpl"] (.file ⟨#[0xff]⟩))

/-- The image of a deployment has a category of its own. A program that formats the first
file can be why the second one fails. -/
theorem run_attributes_once_to_image :
    (∃ source, ((plain.runWith (formatsGo.piping spoiling) (Specification.manifest gallery).backend
        ⟨"/out"⟩).runOn garbled).1 =
      .error (.generation .docker "docker.tpl" "service gallery" source) ∧
    ¬ source.IsGeneration ∧
    plain.Blames (formatsGo.piping spoiling) (.manifest gallery) ⟨"/out"⟩ garbled
      .docker "docker.tpl" "service gallery" source) ∧
    ∃ source, ((plain.runWith (formatsGo.piping spoiling) (Specification.mongo journal).backend
        ⟨"/out"⟩).runOn tidy).1 =
      .error (.generation .mongo "error.tpl" "errors" source) ∧
    ¬ source.IsGeneration ∧
    plain.Blames (formatsGo.piping spoiling) (.mongo journal) ⟨"/out"⟩ tidy
      .mongo "error.tpl" "errors" source := by
  constructor
  · have hrun : ((plain.runWith (formatsGo.piping spoiling) (Specification.manifest gallery).backend
          ⟨"/out"⟩).runOn garbled).1 =
        .error (.generation .docker "docker.tpl" "service gallery"
          (.io "/home/1.2.0/docker/docker.tpl" .invalidUtf8)) := by decide
    obtain ⟨category, template, node, source, he, hsource, hblames⟩ :=
      run_attributes_once plain formatsGo spoiling (.manifest gallery) ⟨"/out"⟩ (Prod.ext hrun rfl)
    obtain ⟨rfl, rfl, rfl, rfl⟩ := Error.generation.inj he
    exact ⟨_, hrun, hsource, hblames⟩
  · have hrun : ((plain.runWith (formatsGo.piping spoiling) (Specification.mongo journal).backend
          ⟨"/out"⟩).runOn tidy).1 =
        .error (.generation .mongo "error.tpl" "errors"
          (.io "/home/1.2.0/mongo/error.tpl" .invalidUtf8)) := by decide +kernel
    rcases hend : (plain.runWith (formatsGo.piping spoiling) (Specification.mongo journal).backend
      ⟨"/out"⟩).runOn tidy with ⟨r, after⟩
    rw [hend] at hrun
    obtain rfl : r = _ := hrun
    obtain ⟨category, template, node, source, he, hsource, hblames⟩ :=
      run_attributes_once plain formatsGo spoiling (.mongo journal) ⟨"/out"⟩ hend
    obtain ⟨rfl, rfl, rfl, rfl⟩ := Error.generation.inj he
    exact ⟨_, rfl, hsource, hblames⟩

end Generator

end Scaffold
