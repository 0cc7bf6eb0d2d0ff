import Scaffold.Proofs.Template.Survey

/-!
# What the scan of the conditions lists

The scan lists the root of every guarded path: of every path in a branch
condition or a loop container that is looked up where a failure is an answer.
It leaves out only the names that the template binds or tests, and what goes
through the filter `default`.
-/

namespace Scaffold.Template

namespace Survey

@[simp] theorem guarded_append (s t : Survey) : (s ++ t).guarded = s.guarded ++ t.guarded := rfl

end Survey

/-! ## Places that the scan does not read -/

mutual

theorem Expr.guarded_survey : ∀ (e : Expr) (tested : Bool), (e.survey tested false).guarded = []
  | .mk operand negated filters, tested => by
      have hfilters := guarded_surveyOfCalls filters
      have hoperand := Operand.guarded_survey operand
      cases operand <;> cases tested <;> cases negated <;>
        simp_all [Expr.survey, Survey.ofBare, Survey.ofPath, Survey.hide]

theorem Operand.guarded_survey : ∀ operand : Operand, (operand.survey false).guarded = []
  | .name path => rfl
  | .math _ left right => by
      simp [Operand.survey, Expr.guarded_survey left, Expr.guarded_survey right]
  | .logic _ left right => by
      simp [Operand.survey, Expr.guarded_survey left, Expr.guarded_survey right]
  | .member _ item container => by
      simp [Operand.survey, Expr.guarded_survey item, Expr.guarded_survey container]
  | .test _ _ _ args => by
      simp [Operand.survey, Survey.ofTest, guarded_surveyOfItems args]
  | .call (.mk _ args) => by simp [Operand.survey, Survey.ofFunction, guarded_surveyOfArgs args]
  | .expand _ _ args => by simp [Operand.survey, Survey.ofExpansion, guarded_surveyOfArgs args]
  | .list items => by simp [Operand.survey, guarded_surveyOfItems items]
  | .concat parts => by simp [Operand.survey, guarded_surveyOfParts parts]
  | .text _ | .int _ | .float _ | .bool _ => rfl

theorem guarded_surveyOfCalls : ∀ calls : List Call, (surveyOfCalls calls).guarded = []
  | [] => rfl
  | .mk _ args :: calls => by
      simp [surveyOfCalls, Survey.ofFilter, guarded_surveyOfArgs args, guarded_surveyOfCalls calls]

theorem guarded_surveyOfItems : ∀ items : List Expr, (surveyOfItems false items).guarded = []
  | [] => rfl
  | item :: items => by
      simp [surveyOfItems, Expr.guarded_survey item, guarded_surveyOfItems items]

theorem guarded_surveyOfParts : ∀ parts : List Operand, (surveyOfParts false parts).guarded = []
  | [] => rfl
  | part :: parts => by
      simp [surveyOfParts, Operand.guarded_survey part, guarded_surveyOfParts parts]

theorem guarded_surveyOfArgs : ∀ args : List (String × Expr), (surveyOfArgs false args).guarded = []
  | [] => rfl
  | (_, value) :: args => by
      simp [surveyOfArgs, Expr.guarded_survey value, guarded_surveyOfArgs args]

end

mutual

theorem Node.guarded_survey : ∀ node : Node, (node.survey false).guarded = []
  | .output e => Expr.guarded_survey e false
  | .assign _ _ e => by simp [Node.survey, Survey.ofBound, Expr.guarded_survey e]
  | .branch arms none => by simp [Node.survey, Survey.none, guarded_surveyOfArms arms]
  | .branch arms (some body) => by
      simp [Node.survey, guarded_surveyOfArms arms, guarded_surveyOfNodes body]
  | .loop _ _ container body none => by
      simp [Node.survey, Survey.ofBound, Survey.none, Expr.guarded_survey container,
        guarded_surveyOfNodes body]
  | .loop _ _ container body (some last) => by
      simp [Node.survey, Survey.ofBound, Expr.guarded_survey container,
        guarded_surveyOfNodes body, guarded_surveyOfNodes last]
  | .block _ body => guarded_surveyOfNodes body
  | .filtered filter body => by
      simp [Node.survey, guarded_surveyOfCalls, guarded_surveyOfNodes body]
  | .definition _ _ body => by simp [Node.survey, Survey.ofBound, guarded_surveyOfNodes body]
  | .text _ | .verbatim _ | .comment | .stop | .skip | .insert _ _ => rfl

theorem guarded_surveyOfNodes : ∀ nodes : List Node, (surveyOfNodes false nodes).guarded = []
  | [] => rfl
  | node :: nodes => by
      simp [surveyOfNodes, Node.guarded_survey node, guarded_surveyOfNodes nodes]

theorem guarded_surveyOfArms :
    ∀ arms : List (Expr × List Node), (surveyOfArms false arms).guarded = []
  | [] => rfl
  | (condition, body) :: arms => by
      simp [surveyOfArms, Expr.guarded_survey condition, guarded_surveyOfNodes body,
        guarded_surveyOfArms arms]

end

theorem Reads.mem_distinct {name : String} {names : List String} :
    name ∈ distinct names ↔ name ∈ names := by
  induction names with
  | nil => rfl
  | cons first names ih =>
      rw [distinct, List.mem_cons, List.mem_cons, List.mem_filter, ih]
      by_cases hfirst : name = first
      · simp [hfirst]
      · simp [hfirst]

/-! ## Places that it reads -/

/-- The scan of a part covers its survey for a name: it lists the name when the
name is the root of a guarded path, and takes it for tested only when a test is
about it. -/
structure Covers (name : String) (s : Survey) (r : Reads) : Prop where
  listed : ∀ path ∈ s.guarded, rootName path = name → name ∈ r.names
  tested : name ∈ r.tested → ∃ path ∈ s.tests, rootName path = name

namespace Covers

variable {name : String} {s t : Survey} {r q : Reads}

theorem of_unguarded (h : s.guarded = []) : Covers name s .none :=
  ⟨fun path hpath => absurd (h ▸ hpath) (by simp),
    fun htested => absurd htested (by simp [Reads.none])⟩

theorem append (h : Covers name s r) (h' : Covers name t q) : Covers name (s ++ t) (r ++ q) := by
  constructor
  · intro path hpath hroot
    rcases List.mem_append.mp hpath with hpath | hpath
    · exact List.mem_append_left _ (h.listed path hpath hroot)
    · exact List.mem_append_right _ (h'.listed path hpath hroot)
  · intro htested
    rcases List.mem_append.mp htested with htested | htested
    · obtain ⟨path, hpath, hroot⟩ := h.tested htested
      exact ⟨path, List.mem_append_left _ hpath, hroot⟩
    · obtain ⟨path, hpath, hroot⟩ := h'.tested htested
      exact ⟨path, List.mem_append_right _ hpath, hroot⟩

theorem append_unguarded (h : Covers name s r) (ht : t.guarded = []) : Covers name (s ++ t) r := by
  constructor
  · intro path hpath hroot
    rw [Survey.guarded_append, ht, List.append_nil] at hpath
    exact h.listed path hpath hroot
  · intro htested
    obtain ⟨path, hpath, hroot⟩ := h.tested htested
    exact ⟨path, List.mem_append_left _ hpath, hroot⟩

theorem unguarded_append (hs : s.guarded = []) (h : Covers name t r) : Covers name (s ++ t) r := by
  constructor
  · intro path hpath hroot
    rw [Survey.guarded_append, hs, List.nil_append] at hpath
    exact h.listed path hpath hroot
  · intro htested
    obtain ⟨path, hpath, hroot⟩ := h.tested htested
    exact ⟨path, List.mem_append_right _ hpath, hroot⟩

end Covers

theorem lacksDefault_filters {operand : Operand} {negated tested scanned : Bool}
    {filters : List Call}
    (h : ((Expr.mk operand negated filters).survey tested scanned).LacksDefault) :
    (surveyOfCalls filters).LacksDefault := by
  by_cases hpath : ∃ path, operand = .name path
  · obtain ⟨path, rfl⟩ := hpath
    rw [Expr.survey] at h
    have hfilters := h.right
    split at hfilters <;> exact hfilters
  · rw [survey_of_operand fun path he => hpath ⟨path, he⟩] at h
    exact h.right

/-- The filters of an expression without `default` do not keep the scan away. -/
theorem any_default_of_survey {calls : List Call} (h : (surveyOfCalls calls).LacksDefault) :
    (calls.any fun call => call.name == "default") = false := by
  induction calls with
  | nil => rfl
  | cons call calls ih =>
      obtain ⟨name, args⟩ := call
      rw [surveyOfCalls] at h
      have hname : name ≠ "default" := by
        rintro rfl
        exact h.left.left (List.mem_singleton.mpr rfl)
      have hrest := ih h.right
      rw [List.any_cons, hrest]
      simpa [Call.name] using hname

section

variable {locals : List String} {name : String}

theorem covers_name (hname : isOutside locals name = true) (path : String) (bare : Bool) :
    Covers name (if bare then .ofBare true path else .ofPath path)
      ((Operand.name path).reads locals) := by
  constructor
  · intro other hother hroot
    have hbare : other ∈ (Survey.ofBare true path).guarded := by
      cases bare with
      | true => exact hother
      | false => exact absurd hother (by simp [Survey.ofPath])
    unfold Survey.ofBare at hbare
    split at hbare
    · obtain rfl : other = path := by simpa using hbare
      subst hroot
      rw [Operand.reads, if_pos hname]
      exact List.mem_singleton.mpr rfl
    · exact absurd hbare (by simp)
  · intro htested
    rw [Operand.reads] at htested
    split at htested <;> exact absurd htested (by simp [Reads.none])

mutual

theorem Expr.covers (hname : isOutside locals name = true) : ∀ (e : Expr) (tested : Bool),
    (e.survey tested true).LacksDefault → Covers name (e.survey tested true) (e.reads locals)
  | .mk operand negated filters, tested, h => by
      have hreads : (Expr.mk operand negated filters).reads locals = operand.reads locals := by
        rw [Expr.reads, any_default_of_survey (lacksDefault_filters h), if_neg (by simp)]
      rw [hreads]
      by_cases hpath : ∃ path, operand = .name path
      · obtain ⟨path, rfl⟩ := hpath
        rw [Expr.survey]
        refine (covers_name hname path (tested || negated)).append_unguarded ?_
        split <;> exact guarded_surveyOfCalls filters
      · rw [survey_of_operand fun path he => hpath ⟨path, he⟩] at h ⊢
        exact (Operand.covers hname operand h.left).append_unguarded (guarded_surveyOfCalls filters)

theorem Operand.covers (hname : isOutside locals name = true) : ∀ operand : Operand,
    (operand.survey true).LacksDefault →
      Covers name (operand.survey true) (operand.reads locals)
  | .name path, _ => covers_name hname path false
  | .math _ left right, h => by
      rw [Operand.survey] at h ⊢
      exact (Expr.covers hname left false h.left).append
        (Expr.covers hname right false h.right)
  | .logic op left right, h => by
      rw [Operand.survey] at h ⊢
      exact (Expr.covers hname left _ h.left).append
        (Expr.covers hname right _ h.right)
  | .member _ item container, h => by
      rw [Operand.survey] at h ⊢
      exact (Expr.covers hname item false h.left).append
        (Expr.covers hname container false h.right)
  | .test path _ _ args, _ => by
      rw [Operand.survey]
      refine Covers.append_unguarded ⟨fun _ hpath => absurd hpath (by simp [Survey.ofTest]), ?_⟩
        (guarded_surveyOfItems args)
      intro htested
      obtain rfl : name = rootName path := by simpa [Operand.reads] using htested
      exact ⟨path, List.mem_singleton.mpr rfl, rfl⟩
  | .call (.mk _ args), h => Covers.unguarded_append rfl (coversArgs hname args h.right)
  | .expand _ _ args, _ =>
      Covers.of_unguarded (guarded_surveyOfArgs args)
  | .list items, h => coversItems hname items h
  | .concat parts, h => coversParts hname parts h
  | .text _, _ | .int _, _ | .float _, _ | .bool _, _ => Covers.of_unguarded rfl

theorem coversItems (hname : isOutside locals name = true) : ∀ items : List Expr,
    (surveyOfItems true items).LacksDefault →
      Covers name (surveyOfItems true items) (readsOfItems locals items)
  | [], _ => Covers.of_unguarded rfl
  | item :: items, h => by
      rw [surveyOfItems] at h ⊢
      exact (Expr.covers hname item false h.left).append
        (coversItems hname items h.right)

theorem coversParts (hname : isOutside locals name = true) : ∀ parts : List Operand,
    (surveyOfParts true parts).LacksDefault →
      Covers name (surveyOfParts true parts) (readsOfParts locals parts)
  | [], _ => Covers.of_unguarded rfl
  | part :: parts, h => by
      rw [surveyOfParts] at h ⊢
      exact (Operand.covers hname part h.left).append
        (coversParts hname parts h.right)

theorem coversArgs (hname : isOutside locals name = true) : ∀ args : List (String × Expr),
    (surveyOfArgs true args).LacksDefault →
      Covers name (surveyOfArgs true args) (readsOfArgs locals args)
  | [], _ => Covers.of_unguarded rfl
  | (_, value) :: args, h => by
      rw [surveyOfArgs] at h ⊢
      exact (Expr.covers hname value false h.left).append
        (coversArgs hname args h.right)

end

end

/-! ## Bodies -/

/-- A part whose scan can list a name: it gives the name no value and passes
nothing through `default`. -/
structure Survey.Outside (name : String) (s : Survey) : Prop where
  unbound : name ∉ s.bound
  lacksDefault : s.LacksDefault

namespace Survey.Outside

variable {name : String} {s t : Survey}

theorem left (h : (s ++ t).Outside name) : s.Outside name :=
  ⟨fun hmem => h.unbound (List.mem_append_left _ hmem), h.lacksDefault.left⟩

theorem right (h : (s ++ t).Outside name) : t.Outside name :=
  ⟨fun hmem => h.unbound (List.mem_append_right _ hmem), h.lacksDefault.right⟩

end Survey.Outside

section

variable {name : String}

theorem isOutside_of_not_mem {locals : List String} (h : isOutside [] name = true)
    (hlocals : name ∉ locals) : isOutside locals name = true := by
  unfold isOutside at h ⊢
  simpa [hlocals] using h

/-- Inside a loop the name is none of those that the loop gives values to. -/
theorem covers_loopHead {locals : List String} {key : Option String} {item : String}
    {container : Expr} (hname : isOutside [] name = true) (hlocals : name ∉ locals)
    (h : (Survey.ofBound (key.toList ++ [item, "loop"]) ++
      container.survey false true).Outside name) :
    name ∉ key.toList ++ item :: "loop" :: locals ∧
      Covers name (.ofBound (key.toList ++ [item, "loop"]) ++ container.survey false true)
        (container.reads locals) := by
  constructor
  · have hbound := h.left.unbound
    simp only [Survey.ofBound, List.mem_append, List.mem_cons, not_or] at hbound ⊢
    exact ⟨hbound.1, hbound.2.1, hbound.2.2.1, hlocals⟩
  · exact (Expr.covers (isOutside_of_not_mem hname hlocals) container false
      h.right.lacksDefault).unguarded_append rfl

mutual

/-- Behind a node the name is still none of the names that have values. -/
theorem Node.covers (hname : isOutside [] name = true) : ∀ (node : Node) (locals : List String),
    name ∉ locals → (node.survey true).Outside name →
      Covers name (node.survey true) (node.reads locals).1 ∧ name ∉ (node.reads locals).2
  | .output e, _, hlocals, _ => ⟨Covers.of_unguarded (Expr.guarded_survey e false), hlocals⟩
  | .assign _ target e, _, hlocals, h => by
      have htarget : name ≠ target := fun he => h.left.unbound (List.mem_singleton.mpr he)
      exact ⟨Covers.of_unguarded (Expr.guarded_survey e false),
        List.not_mem_cons_of_ne_of_not_mem htarget hlocals⟩
  | .branch arms none, locals, hlocals, h => by
      obtain ⟨harms, hbehind⟩ := coversArms hname arms locals hlocals h.left
      exact ⟨harms.append_unguarded rfl, hbehind⟩
  | .branch arms (some body), locals, hlocals, h => by
      obtain ⟨harms, hbehind⟩ := coversArms hname arms locals hlocals h.left
      obtain ⟨hbody, hlast⟩ := coversNodes hname body _ hbehind h.right
      exact ⟨harms.append hbody, hlast⟩
  -- what a loop gives values to is gone behind it, so its last body is read without
  | .loop key item container body none, locals, hlocals, h => by
      rw [Node.survey] at h ⊢
      obtain ⟨hinside, hhead⟩ := covers_loopHead hname hlocals h.left.left
      obtain ⟨hbody, -⟩ := coversNodes hname body _ hinside h.left.right
      exact ⟨(hhead.append hbody).append_unguarded rfl, hlocals⟩
  | .loop key item container body (some last), locals, hlocals, h => by
      rw [Node.survey] at h ⊢
      obtain ⟨hinside, hhead⟩ := covers_loopHead hname hlocals h.left.left
      obtain ⟨hbody, -⟩ := coversNodes hname body _ hinside h.left.right
      obtain ⟨hlast, hbehind⟩ := coversNodes hname last locals hlocals h.right
      exact ⟨(hhead.append hbody).append hlast, hbehind⟩
  | .block _ body, locals, hlocals, h => coversNodes hname body locals hlocals h
  | .filtered filter body, locals, hlocals, h => by
      obtain ⟨hbody, hbehind⟩ := coversNodes hname body locals hlocals h.right
      exact ⟨hbody.unguarded_append (guarded_surveyOfCalls [filter]), hbehind⟩
  | .definition _ _ body, locals, hlocals, _ =>
      ⟨Covers.of_unguarded (guarded_surveyOfNodes body), hlocals⟩
  | .text _, _, hlocals, _ | .verbatim _, _, hlocals, _ | .comment, _, hlocals, _
  | .stop, _, hlocals, _ | .skip, _, hlocals, _ | .insert _ _, _, hlocals, _ =>
      ⟨Covers.of_unguarded rfl, hlocals⟩

theorem coversNodes (hname : isOutside [] name = true) :
    ∀ (nodes : List Node) (locals : List String), name ∉ locals →
      (surveyOfNodes true nodes).Outside name →
      Covers name (surveyOfNodes true nodes) (readsOfNodes locals nodes).1 ∧
        name ∉ (readsOfNodes locals nodes).2
  | [], _, hlocals, _ => ⟨Covers.of_unguarded rfl, hlocals⟩
  | node :: nodes, locals, hlocals, h => by
      rw [surveyOfNodes] at h ⊢
      obtain ⟨hnode, hbehind⟩ := Node.covers hname node locals hlocals h.left
      obtain ⟨hnodes, hlast⟩ := coversNodes hname nodes _ hbehind h.right
      exact ⟨hnode.append hnodes, hlast⟩

theorem coversArms (hname : isOutside [] name = true) :
    ∀ (arms : List (Expr × List Node)) (locals : List String), name ∉ locals →
      (surveyOfArms true arms).Outside name →
      Covers name (surveyOfArms true arms) (readsOfArms locals arms).1 ∧
        name ∉ (readsOfArms locals arms).2
  | [], _, hlocals, _ => ⟨Covers.of_unguarded rfl, hlocals⟩
  | (condition, body) :: arms, locals, hlocals, h => by
      rw [surveyOfArms] at h ⊢
      have hcondition := Expr.covers (isOutside_of_not_mem hname hlocals) condition true
        h.left.left.lacksDefault
      obtain ⟨hbody, hbehind⟩ := coversNodes hname body locals hlocals h.left.right
      obtain ⟨harms, hlast⟩ := coversArms hname arms _ hbehind h.right
      exact ⟨(hcondition.append hbody).append harms, hlast⟩

end

end

/-- A guarded root that the template neither binds nor tests is listed. -/
theorem mem_conditionNames {nodes : List Node} {path : String}
    (hpath : path ∈ (surveyOfNodes true nodes).guarded)
    (hname : isOutside [] (rootName path) = true)
    (houtside : (surveyOfNodes true nodes).Outside (rootName path))
    (htested : ∀ tested ∈ (surveyOfNodes true nodes).tests, rootName tested ≠ rootName path) :
    rootName path ∈ conditionNames nodes := by
  obtain ⟨hcovers, -⟩ := coversNodes hname nodes [] List.not_mem_nil houtside
  have hlisted := hcovers.listed path hpath rfl
  have huntested : rootName path ∉ (readsOfNodes [] nodes).1.tested := by
    intro hmem
    obtain ⟨tested, hmem, hroot⟩ := hcovers.tested hmem
    exact htested tested hmem hroot
  unfold conditionNames Reads.required
  rw [List.mem_filter, Reads.mem_distinct]
  exact ⟨hlisted, by simpa using huntested⟩

end Scaffold.Template
