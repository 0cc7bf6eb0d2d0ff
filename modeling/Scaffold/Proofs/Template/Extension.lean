import Mathlib.Data.List.Forall2
import Scaffold.Proofs.Template.Survey
import Scaffold.Template.Rendering

/-!
# Rendering in a larger context

Of two stages that differ in one name of the context, the one that knows the
name renders what the other one renders, as long as no failure to look the name
up is an answer there. The parts of an expression agree as strictly as what
reads them needs: a condition needs its bare names to agree in failure too,
while the outermost output has to agree in success only.
-/

namespace Scaffold.Template

/-! ## Parts without silent defaults -/

/-- A part in which no failure to look up `x` is an answer. A strict one does
not look `x` up at all; `unmentioned` says that of the whole template, as the
definitions need it that the part expands. -/
structure Survey.Clear (x : String) (unmentioned : Prop) (strict : Bool) (s : Survey) : Prop where
  lacksDefault : s.LacksDefault
  undumped : "__tera_context" ∉ s.paths
  roots : isName x = true → ∀ path, path ∈ s.tests ∨ path ∈ s.guarded → rootName path ≠ x
  hidden : ∀ path ∈ s.hidden, ¬ Mentions x path
  hiddenExpansions : s.hiddenExpansions ≠ [] → unmentioned
  paths : strict = true → ∀ path ∈ s.paths, ¬ Mentions x path
  expansions : strict = true → s.expansions ≠ [] → unmentioned

theorem not_mentions_of_behindRoot {x path : String}
    (hroot : isName x = true → rootName path ≠ x)
    (h : ∀ inside ∈ Survey.behindRoot path, ¬ Mentions x inside) : ¬ Mentions x path := by
  unfold Survey.behindRoot at h
  by_cases hname : isName (rootName path) = true
  · rw [if_pos hname] at h
    intro hm
    cases hm with
    | root hx => exact hroot (hx ▸ hname) hx
    | odd hodd => exact absurd hname (by simp [hodd])
    | inner hmem hinside => exact h _ hmem hinside
  · rw [if_neg hname] at h
    exact h path (List.mem_singleton.mpr rfl)

namespace Survey.Clear

variable {x : String} {unmentioned : Prop} {strict : Bool} {s t : Survey} {path : String}

theorem left (h : (s ++ t).Clear x unmentioned strict) : s.Clear x unmentioned strict where
  lacksDefault := h.lacksDefault.left
  undumped hmem := h.undumped (mem_paths_append.mpr (Or.inl hmem))
  roots hx path hpath := h.roots hx path <|
    hpath.imp (List.mem_append_left _) (List.mem_append_left _)
  hidden path hpath := h.hidden path (List.mem_append_left _ hpath)
  hiddenExpansions hne := h.hiddenExpansions (List.append_ne_nil_of_left_ne_nil hne _)
  paths hstrict path hpath := h.paths hstrict path (mem_paths_append.mpr (Or.inl hpath))
  expansions hstrict hne := h.expansions hstrict (List.append_ne_nil_of_left_ne_nil hne _)

theorem right (h : (s ++ t).Clear x unmentioned strict) : t.Clear x unmentioned strict where
  lacksDefault := h.lacksDefault.right
  undumped hmem := h.undumped (mem_paths_append.mpr (Or.inr hmem))
  roots hx path hpath := h.roots hx path <|
    hpath.imp (List.mem_append_right _) (List.mem_append_right _)
  hidden path hpath := h.hidden path (List.mem_append_right _ hpath)
  hiddenExpansions hne := h.hiddenExpansions (List.append_ne_nil_of_right_ne_nil _ hne)
  paths hstrict path hpath := h.paths hstrict path (mem_paths_append.mpr (Or.inr hpath))
  expansions hstrict hne := h.expansions hstrict (List.append_ne_nil_of_right_ne_nil _ hne)

/-- What is hidden has to be clear strictly. -/
theorem of_hide (h : s.hide.Clear x unmentioned strict) : s.Clear x unmentioned true where
  lacksDefault := h.lacksDefault
  undumped hmem := h.undumped (List.mem_append_right _ (List.mem_append_right _ hmem))
  roots := h.roots
  hidden path hpath := h.hidden path (List.mem_append_left _ hpath)
  hiddenExpansions hne := h.hiddenExpansions (List.append_ne_nil_of_left_ne_nil hne _)
  paths _ path hpath := h.hidden path (List.mem_append_right _ hpath)
  expansions _ hne := h.hiddenExpansions (List.append_ne_nil_of_right_ne_nil _ hne)

theorem ne_dump (h : (Survey.ofPath path).Clear x unmentioned strict) : path ≠ "__tera_context" :=
  fun he => h.undumped (List.mem_singleton.mpr he.symm)

theorem not_mentions (h : (Survey.ofPath path).Clear x unmentioned strict) :
    strict = true → ¬ Mentions x path :=
  fun hstrict => h.paths hstrict path (List.mem_singleton.mpr rfl)

theorem ofPath (hdump : path ≠ "__tera_context") (h : ¬ Mentions x path) :
    (Survey.ofPath path).Clear x unmentioned true where
  lacksDefault := List.not_mem_nil
  undumped hmem := hdump (List.mem_singleton.mp hmem).symm
  roots _ _ hmem := absurd hmem (by simp [Survey.ofPath])
  hidden _ hmem := absurd hmem List.not_mem_nil
  hiddenExpansions hne := absurd rfl hne
  paths _ _ hmem := List.mem_singleton.mp hmem ▸ h
  expansions _ hne := absurd rfl hne

/-- A strictly clear part is clear. -/
theorem of_strict (h : s.Clear x unmentioned true) : s.Clear x unmentioned strict :=
  ⟨h.lacksDefault, h.undumped, h.roots, h.hidden, h.hiddenExpansions, fun _ => h.paths rfl,
    fun _ => h.expansions rfl⟩

theorem expands {name : String} (h : (Survey.ofExpansion name).Clear x unmentioned strict) :
    strict = true → unmentioned :=
  fun hstrict => h.expansions hstrict (List.cons_ne_nil name [])

theorem hereditary : Survey.Hereditary (Clear x unmentioned strict) :=
  ⟨left, right, fun h => of_strict (of_hide h)⟩

/-- A path without which there is an answer does not mention the name. -/
theorem of_bare {scanned : Bool} (h : (Survey.ofBare scanned path).Clear x unmentioned strict) :
    (Survey.ofPath path).Clear x unmentioned true := by
  unfold Survey.ofBare at h
  split at h
  · next hname =>
      have hroot := fun hx => h.roots hx path (Or.inr (List.mem_singleton.mpr rfl))
      refine ofPath (fun he => h.undumped (List.mem_append_left _ (List.mem_singleton.mpr he.symm)))
        (not_mentions_of_behindRoot hroot ?_)
      rw [behindRoot, if_pos (Bool.and_eq_true_iff.mp hname).2]
      exact h.hidden
  · exact ofPath (fun he => h.undumped (List.mem_singleton.mpr he.symm))
      (h.hidden path (List.mem_singleton.mpr rfl))

theorem of_test (h : (Survey.ofTest path).Clear x unmentioned strict) :
    (Survey.ofPath path).Clear x unmentioned true :=
  ofPath (fun he => h.undumped (List.mem_append_left _ (List.mem_singleton.mpr he.symm)))
    (not_mentions_of_behindRoot
      (fun hx => h.roots hx path (Or.inl (List.mem_singleton.mpr rfl))) h.hidden)

end Survey.Clear

/-! ## Stages -/

/-- Two stages for one template, of which the second one may know one more name.
The bodies that are reached by name agree. -/
structure StageExtends (x : String) (unmentioned : Prop) (stage stage' : Stage) : Prop where
  engine : stage'.engine = stage.engine
  template : stage'.template = stage.template
  tree : stage'.tree = stage.tree
  context : Extends x stage.context stage'.context
  bodies : ∀ {strict}, (strict = true → unmentioned) → ∀ {body}, body ∈ stage.tree.bodies →
    Agrees strict (stage.render body) (stage'.render body)

section

variable {x : String} {unmentioned : Prop} {strict : Bool} {stage stage' : Stage}

theorem sameResult_lookup (h : StageExtends x unmentioned stage stage') {path : String}
    (hclear : (Survey.ofPath path).Clear x unmentioned strict) (frames : List Frame) :
    SameResult strict (stage.lookup frames path) (stage'.lookup frames path) := by
  unfold Stage.lookup
  rw [if_neg hclear.ne_dump, if_neg hclear.ne_dump, h.template]
  exact sameResult_valueAt h.context _ path hclear.not_mentions

theorem agrees_find (h : StageExtends x unmentioned stage stage') {path : String}
    (hclear : (Survey.ofPath path).Clear x unmentioned strict) :
    Agrees strict (stage.find path) (stage'.find path) :=
  (Agrees.refl Eval.frames).bind fun frames => Agrees.ofExcept (sameResult_lookup h hclear frames)

theorem agrees_asks (h : StageExtends x unmentioned stage stage') {path : String} (name : String)
    (hclear : (Survey.ofPath path).Clear x unmentioned true) {args args' : Eval (List Value)}
    (hargs : Agrees strict args args') :
    Agrees strict (asks stage path name args) (asks stage' path name args') := by
  unfold asks
  refine (Agrees.refl _).bind fun test => (hargs.mapFault _).bind fun args =>
    (Agrees.refl Eval.frames).bind fun frames => ?_
  rw [(sameResult_lookup h hclear frames).eq]
  exact Agrees.refl _

/-! ## Steps of evaluation -/

/-- A name with filters behind it. Only `not` needs the name to agree in failure. -/
theorem agrees_settle {negated : Bool} {found found' : Except Fault Value}
    {filters filters' : Value → Eval Value} (hfound : SameResult strict found found')
    (hnegated : negated = true → SameResult true found found')
    (hfilters : ∀ v, Agrees strict (filters v) (filters' v)) :
    Agrees strict (settle negated found none filters) (settle negated found' none filters') := by
  cases found with
  | ok v =>
      obtain rfl : found' = .ok v := by
        rcases hfound with heq | ⟨-, fault, hfault⟩
        · exact heq
        · exact absurd hfault (by simp)
      cases v <;> exact (hfilters _).bind fun _ => Agrees.refl _
  | error fault =>
      cases negated with
      | true =>
          rw [(hnegated rfl).eq]
          exact Agrees.refl _
      | false =>
          rcases hfound with heq | ⟨hstrict, -⟩
          · rw [heq]
            exact Agrees.refl _
          · exact fun s => Or.inr ⟨hstrict, fun a after hrun => by cases hrun⟩

theorem agrees_applyMath (op : MathOp) (left right : Expr) {a a' b b' : NumberEval}
    (ha : Agrees strict a a') (hb : Agrees strict b b') :
    Agrees strict (applyMath op left right a b) (applyMath op left right a' b') :=
  ha.bind fun _ => hb.bind fun _ => Agrees.refl _

theorem agrees_decideLogic {op : LogicOp} {negated : Bool} {leftTruth leftTruth' : Eval Bool}
    {rightTruth rightTruth' : Eval Bool} {leftNumber leftNumber' : NumberEval}
    {rightNumber rightNumber' : NumberEval} {leftValue leftValue' : Eval Value}
    {rightValue rightValue' : Eval Value}
    (htruth : op.asksTruth = true →
      Agrees strict leftTruth leftTruth' ∧ Agrees strict rightTruth rightTruth')
    (hnumber : op.asksTruth = false →
      Agrees strict leftNumber leftNumber' ∧ Agrees strict rightNumber rightNumber')
    (hvalue : op.asksTruth = false →
      Agrees strict leftValue leftValue' ∧ Agrees strict rightValue rightValue') :
    Agrees strict
      (decideLogic op negated leftTruth rightTruth leftNumber rightNumber leftValue rightValue)
      (decideLogic op negated leftTruth' rightTruth' leftNumber' rightNumber' leftValue'
        rightValue') := by
  cases op with
  | or =>
      obtain ⟨hleft, hright⟩ := htruth rfl
      refine hleft.bind fun b => ?_
      cases b with
      | true => exact Agrees.refl _
      | false => exact hright.bind fun _ => Agrees.refl _
  | and =>
      obtain ⟨hleft, hright⟩ := htruth rfl
      refine hleft.bind fun b => ?_
      cases b with
      | true => exact hright.bind fun _ => Agrees.refl _
      | false => exact Agrees.refl _
  | eq | ne =>
      obtain ⟨hleft, hright⟩ := hvalue rfl
      exact hleft.bind fun _ => hright.bind fun _ => Agrees.refl _
  | lt | le | gt | ge =>
      obtain ⟨hleft, hright⟩ := hnumber rfl
      exact (hleft.bind fun _ => hright.bind fun _ => Agrees.refl _).bind fun _ => Agrees.refl _

/-- Arguments that are computed one by one, the same names in the same order. -/
def ArgsAgree (strict : Bool) (args args' : List (String × Eval Value)) : Prop :=
  List.Forall₂ (fun arg arg' => arg'.1 = arg.1 ∧ Agrees strict arg.2 arg'.2) args args'

theorem lookup_of_argsAgree {args args' : List (String × Eval Value)}
    (h : ArgsAgree strict args args') (name : String) :
    (args.lookup name = none ∧ args'.lookup name = none) ∨
      ∃ m m', args.lookup name = some m ∧ args'.lookup name = some m' ∧ Agrees strict m m' := by
  induction h with
  | nil => exact Or.inl ⟨rfl, rfl⟩
  | @cons arg arg' args args' hhead htail ih =>
      obtain ⟨key, m⟩ := arg
      obtain ⟨key', m'⟩ := arg'
      obtain ⟨rfl, hagrees⟩ : key' = key ∧ Agrees strict m m' := hhead
      rw [List.lookup_cons, List.lookup_cons]
      cases name == key' with
      | true => exact Or.inr ⟨m, m', rfl, rfl, hagrees⟩
      | false => exact ih

theorem agrees_bindParams {args args' : List (String × Eval Value)}
    (h : ArgsAgree strict args args') (name : String) (params : List (String × Option Operand)) :
    Agrees strict (bindParams name args params) (bindParams name args' params) := by
  induction params with
  | nil => exact Agrees.refl _
  | cons head params ih =>
      obtain ⟨param, default⟩ := head
      have hrest : ∀ v : Value, Agrees strict
          (do return (param, v) :: (← bindParams name args params))
          (do return (param, v) :: (← bindParams name args' params)) :=
        fun v => ih.bind fun _ => Agrees.refl _
      unfold bindParams
      rcases lookup_of_argsAgree h param with ⟨hnone, hnone'⟩ | ⟨m, m', hsome, hsome', hagrees⟩
      · rw [hnone, hnone']
        cases default with
        | none => exact (Agrees.refl _).bind hrest
        | some operand => cases operand <;> exact (Agrees.refl _).bind hrest
      · rw [hsome, hsome']
        exact hagrees.bind hrest

theorem body_mem_bodies {space name : String} {d : Definition}
    (h : findDefinition stage space name = .ok d) : d.body ∈ stage.tree.bodies := by
  have hmem : d ∈ stage.tree.definitions := by
    unfold findDefinition at h
    split at h
    · split at h
      · next d' hd =>
          obtain rfl : d' = d := Except.ok.inj h
          exact List.mem_of_find?_eq_some hd
      · exact absurd h (by simp)
    · exact absurd h (by simp)
  exact List.mem_cons_of_mem _ (List.mem_append_right _ (List.mem_map.mpr ⟨d, hmem, rfl⟩))

/-- A definition takes the names of its body from its arguments and the context. -/
theorem agrees_expandDefinition (h : StageExtends x unmentioned stage stage')
    (hunmentioned : strict = true → unmentioned) (space name : String)
    {args args' : List (String × Eval Value)} (hargs : ArgsAgree strict args args') :
    Agrees strict (expandDefinition stage space name args)
      (expandDefinition stage' space name args') := by
  have hsame : findDefinition stage' space name = findDefinition stage space name := by
    unfold findDefinition
    rw [h.tree, h.template]
  unfold expandDefinition
  rw [hsame, h.engine]
  cases hfound : findDefinition stage space name with
  | error fault => exact Agrees.refl _
  | ok d =>
      have hbody := h.bodies hunmentioned (body_mem_bodies hfound)
      show Agrees strict
        (do
          Eval.push ⟨.definition space name,
            ← bindParams name args (stage.engine.arrange d.params)⟩
          let text ← stage.render d.body
          Eval.pop
          return text)
        (do
          Eval.push ⟨.definition space name,
            ← bindParams name args' (stage.engine.arrange d.params)⟩
          let text ← stage'.render d.body
          Eval.pop
          return text)
      exact (agrees_bindParams hargs name _).bind fun _ =>
        (Agrees.refl _).bind fun _ => hbody.bind fun _ => Agrees.refl _

/-! ## Expressions from their parts -/

theorem defaultOf_eq_none {filters : List Call} (h : (surveyOfCalls filters).LacksDefault) :
    defaultOf stage filters = none := by
  cases filters with
  | nil => rfl
  | cons call calls =>
      obtain ⟨name, args⟩ := call
      have hname : name ≠ "default" := by
        rintro rfl
        exact h.left.left (List.mem_singleton.mpr rfl)
      rw [defaultOf, if_neg hname]

theorem value_of_operand {operand : Operand} (h : ∀ path, operand ≠ .name path) (negated : Bool)
    (filters : List Call) :
    (Expr.mk operand negated filters).value stage =
      (do
        let v ← operand.base stage negated
        return negate negated (← applyFilters stage v filters)) := by
  rw [Expr.value]
  exact h

theorem truth_of_operand {operand : Operand} (h : ∀ path, operand ≠ .name path)
    (hconcat : ∀ parts, operand ≠ .concat parts) (negated : Bool) (filters : List Call) :
    (Expr.mk operand negated filters).truth stage = operand.truth stage negated := by
  rw [Expr.truth]
  · exact h
  · exact hconcat

theorem number_of_operand (operand : Operand) (negated : Bool) :
    (Expr.mk operand negated []).number stage = operand.number stage := by
  rw [Expr.number]
  exact if_pos rfl

/-- With filters the number is the value. -/
theorem number_of_filters (operand : Operand) (negated : Bool) (call : Call) (calls : List Call) :
    (Expr.mk operand negated (call :: calls)).number stage =
      (do
        let v ← (Expr.mk operand negated (call :: calls)).value stage
        if v.isNumber then return some v
        else throw (.other "Tried to do math with an expression not resulting in a number")) := by
  cases operand <;> simp [Expr.number, Expr.value]

theorem agrees_apply (h : StageExtends x unmentioned stage stage') {name : String}
    {args : List (String × Expr)}
    (hargs : Agrees strict (argValues stage args) (argValues stage' args)) (v : Value) :
    Agrees strict ((Call.mk name args).apply stage v) ((Call.mk name args).apply stage' v) := by
  unfold Call.apply
  rw [h.engine]
  cases stage.engine.filter? name with
  | none => exact Agrees.refl _
  | some f => exact (hargs.mapFault _).bind fun _ => Agrees.refl _

theorem agrees_callValue {name : String} {args : List (String × Expr)}
    (hargs : Agrees strict (argValues stage args) (argValues stage' args)) :
    Agrees strict ((Call.mk name args).value stage) ((Call.mk name args).value stage') := by
  unfold Call.value
  cases invoke? name with
  | none => exact Agrees.refl _
  | some f => exact (hargs.mapFault _).bind fun _ => Agrees.refl _

/-- A name with filters, where `not` needs it to agree in failure. -/
theorem agrees_named (h : StageExtends x unmentioned stage stage') {path : String}
    {negated : Bool} {filters : List Call}
    (hpath : (Survey.ofPath path).Clear x unmentioned strict)
    (hnegated : negated = true → (Survey.ofPath path).Clear x unmentioned true)
    (hdefault : (surveyOfCalls filters).LacksDefault)
    (hfilters : ∀ v, Agrees strict (applyFilters stage v filters) (applyFilters stage' v filters))
    (frames : List Frame) :
    Agrees strict
      (settle negated (stage.lookup frames path) (defaultOf stage filters)
        fun v => applyFilters stage v filters)
      (settle negated (stage'.lookup frames path) (defaultOf stage' filters)
        fun v => applyFilters stage' v filters) := by
  rw [defaultOf_eq_none hdefault, defaultOf_eq_none hdefault]
  exact agrees_settle (sameResult_lookup h hpath frames)
    (fun hnot => sameResult_lookup h (hnegated hnot) frames) hfilters

/-- An operand is as clear as the expression that it is the head of. -/
theorem clear_operand {operand : Operand} {negated scanned : Bool} {filters : List Call}
    (hclear : ((Expr.mk operand negated filters).survey false scanned).Clear x unmentioned strict) :
    (operand.survey scanned).Clear x unmentioned strict := by
  by_cases hpath : ∃ path, operand = .name path
  · obtain ⟨path, rfl⟩ := hpath
    rw [Expr.survey] at hclear
    cases negated with
    | true => exact (Survey.Clear.of_bare hclear.left).of_strict
    | false => exact hclear.left
  · rw [survey_of_operand fun path he => hpath ⟨path, he⟩] at hclear
    exact hclear.left

theorem clear_sides {op : LogicOp} {left right : Expr} {tested scanned : Bool}
    (hclear : (left.survey op.asksTruth scanned ++
      right.survey op.asksTruth scanned).Clear x unmentioned strict)
    (hop : op.asksTruth = tested) :
    (left.survey tested scanned).Clear x unmentioned strict ∧
      (right.survey tested scanned).Clear x unmentioned strict := by
  subst hop
  exact ⟨hclear.left, hclear.right⟩

/-- The value of an expression agrees when its parts do. -/
theorem agrees_value_of_parts (h : StageExtends x unmentioned stage stage') {operand : Operand}
    {negated scanned : Bool} {filters : List Call}
    (hclear : ((Expr.mk operand negated filters).survey false scanned).Clear x unmentioned strict)
    (hbase : (operand.survey scanned).Clear x unmentioned strict →
      Agrees strict (operand.base stage negated) (operand.base stage' negated))
    (hfilters : (surveyOfCalls filters).Clear x unmentioned strict → ∀ v,
      Agrees strict (applyFilters stage v filters) (applyFilters stage' v filters)) :
    Agrees strict ((Expr.mk operand negated filters).value stage)
      ((Expr.mk operand negated filters).value stage') := by
  by_cases hpath : ∃ path, operand = .name path
  · obtain ⟨path, rfl⟩ := hpath
    rw [Expr.survey] at hclear
    have hcalls : (surveyOfCalls filters).Clear x unmentioned strict := hclear.right
    rw [Expr.value, Expr.value]
    cases negated with
    | true =>
        have hbare := Survey.Clear.of_bare hclear.left
        exact (Agrees.refl Eval.frames).bind (agrees_named h hbare.of_strict (fun _ => hbare)
          hcalls.lacksDefault (hfilters hcalls))
    | false =>
        exact (Agrees.refl Eval.frames).bind (agrees_named h hclear.left
          (fun hnot => absurd hnot (by simp)) hcalls.lacksDefault (hfilters hcalls))
  · have hother : ∀ path, operand ≠ .name path := fun path he => hpath ⟨path, he⟩
    rw [survey_of_operand hother] at hclear
    rw [value_of_operand hother, value_of_operand hother]
    exact (hbase hclear.left).bind fun v =>
      (hfilters hclear.right v).bind fun _ => Agrees.refl _

end

/-! ## Expressions -/

section

variable {x : String} {unmentioned : Prop} {stage stage' : Stage}

-- the survey of an expression holds those of its parts, so a clear one leaves the parts clear
mutual

theorem Expr.agrees_value (h : StageExtends x unmentioned stage stage') :
    ∀ (e : Expr) {scanned strict : Bool}, (e.survey false scanned).Clear x unmentioned strict →
      Agrees strict (e.value stage) (e.value stage')
  | .mk operand negated filters, _, _, hclear =>
      agrees_value_of_parts h hclear (Operand.agrees_base h operand negated)
        (fun hcalls v => agrees_applyFilters h filters v hcalls)

theorem Expr.agrees_truth (h : StageExtends x unmentioned stage stage') :
    ∀ (e : Expr) {scanned strict : Bool}, (e.survey true scanned).Clear x unmentioned strict →
      Agrees strict (e.truth stage) (e.truth stage')
  | .mk operand negated filters, _, _, hclear => by
      cases operand with
      | name path =>
          rw [Expr.survey] at hclear
          have hbare := Survey.Clear.of_bare hclear.left
          have hcalls := Survey.Clear.of_hide hclear.right
          -- any failure is an answer here, so name and filters have to agree strictly
          rw [Expr.truth, Expr.truth]
          refine (Agrees.refl Eval.frames).bind fun frames =>
            Agrees.bind (Agrees.outcome ?_) fun _ => Agrees.refl _
          exact agrees_named h hbare (fun _ => hbare) hcalls.lacksDefault
            (fun v => agrees_applyFilters h filters v hcalls) frames
      | concat parts =>
          rw [survey_of_operand (by simp), Operand.survey] at hclear
          rw [Expr.truth, Expr.truth]
          refine (agrees_joinParts h parts hclear.left).bind fun s => ?_
          exact (agrees_applyFilters h filters (.text s) hclear.right).bind fun _ => Agrees.refl _
      | _ =>
          rw [survey_of_operand (by simp)] at hclear
          rw [truth_of_operand (by simp) (by simp), truth_of_operand (by simp) (by simp)]
          exact Operand.agrees_truth h _ negated hclear.left

theorem Expr.agrees_number (h : StageExtends x unmentioned stage stage') :
    ∀ (e : Expr) {scanned strict : Bool}, (e.survey false scanned).Clear x unmentioned strict →
      Agrees strict (e.number stage) (e.number stage')
  | .mk operand negated [], _, _, hclear => by
      rw [number_of_operand, number_of_operand]
      exact Operand.agrees_number h operand (clear_operand hclear)
  | .mk operand negated (call :: calls), _, _, hclear => by
      rw [number_of_filters, number_of_filters]
      exact (agrees_value_of_parts h hclear (Operand.agrees_base h operand negated)
        (fun hcalls v => agrees_applyFilters h (call :: calls) v hcalls)).bind fun _ =>
          Agrees.refl _

theorem Operand.agrees_base (h : StageExtends x unmentioned stage stage') :
    ∀ (operand : Operand) (negated : Bool) {scanned strict : Bool},
      (operand.survey scanned).Clear x unmentioned strict →
      Agrees strict (operand.base stage negated) (operand.base stage' negated)
  | .name path, _, _, _, hclear => by
      rw [Operand.survey] at hclear
      rw [Operand.base, Operand.base]
      exact agrees_find h hclear
  | .math op left right, _, _, _, hclear => by
      rw [Operand.survey] at hclear
      rw [Operand.base, Operand.base]
      have hmath := agrees_applyMath op left right
        (Expr.agrees_number h left hclear.left) (Expr.agrees_number h right hclear.right)
      exact (hmath.mapFault _).bind fun _ => Agrees.refl _
  | .logic op left right, negated, _, _, hclear => by
      rw [Operand.survey] at hclear
      rw [Operand.base, Operand.base]
      refine Agrees.bind (?_ : Agrees _ _ _) fun _ => Agrees.refl _
      exact agrees_decideLogic
        (fun hop => ⟨Expr.agrees_truth h left (clear_sides hclear hop).1,
          Expr.agrees_truth h right (clear_sides hclear hop).2⟩)
        (fun hop => ⟨Expr.agrees_number h left (clear_sides hclear hop).1,
          Expr.agrees_number h right (clear_sides hclear hop).2⟩)
        (fun hop => ⟨Expr.agrees_value h left (clear_sides hclear hop).1,
          Expr.agrees_value h right (clear_sides hclear hop).2⟩)
  | .member _ item container, _, _, _, hclear => by
      rw [Operand.survey] at hclear
      rw [Operand.base, Operand.base]
      exact (Expr.agrees_value h item hclear.left).bind fun _ =>
        (Expr.agrees_value h container hclear.right).bind fun _ => Agrees.refl _
  | .test path _ name args, _, _, _, hclear => by
      rw [Operand.survey] at hclear
      rw [Operand.base, Operand.base]
      exact (agrees_asks h name (Survey.Clear.of_test hclear.left)
        (agrees_valuesOf h args hclear.right)).bind fun _ => Agrees.refl _
  | .call (.mk _ args), _, _, _, hclear => by
      rw [Operand.survey] at hclear
      rw [Operand.base, Operand.base]
      exact agrees_callValue (agrees_argValues h args hclear.right)
  | .expand space name args, _, _, _, hclear => by
      rw [Operand.survey] at hclear
      rw [Operand.base, Operand.base]
      exact (agrees_expandDefinition h hclear.left.expands space name
        (argsAgree_argsOf h args hclear.right)).bind fun _ => Agrees.refl _
  | .list items, _, _, _, hclear => by
      rw [Operand.survey] at hclear
      rw [Operand.base, Operand.base]
      exact (agrees_valuesOf h items hclear).bind fun _ => Agrees.refl _
  | .concat parts, _, _, _, hclear => by
      rw [Operand.survey] at hclear
      rw [Operand.base, Operand.base]
      exact (agrees_joinParts h parts hclear).bind fun _ => Agrees.refl _
  | .text _, _, _, _, _ | .int _, _, _, _, _ | .float _, _, _, _, _ | .bool _, _, _, _, _ => by
      rw [Operand.base, Operand.base]
      exact Agrees.refl _

theorem Operand.agrees_truth (h : StageExtends x unmentioned stage stage') :
    ∀ (operand : Operand) (negated : Bool) {scanned strict : Bool},
      (operand.survey scanned).Clear x unmentioned strict →
      Agrees strict (operand.truth stage negated) (operand.truth stage' negated)
  | .math op left right, _, _, _, hclear => by
      rw [Operand.survey] at hclear
      rw [Operand.truth, Operand.truth]
      exact (agrees_applyMath op left right (Expr.agrees_number h left hclear.left)
        (Expr.agrees_number h right hclear.right)).bind fun _ => Agrees.refl _
  | .logic op left right, negated, _, _, hclear => by
      rw [Operand.survey] at hclear
      rw [Operand.truth, Operand.truth]
      exact agrees_decideLogic
        (fun hop => ⟨Expr.agrees_truth h left (clear_sides hclear hop).1,
          Expr.agrees_truth h right (clear_sides hclear hop).2⟩)
        (fun hop => ⟨Expr.agrees_number h left (clear_sides hclear hop).1,
          Expr.agrees_number h right (clear_sides hclear hop).2⟩)
        (fun hop => ⟨Expr.agrees_value h left (clear_sides hclear hop).1,
          Expr.agrees_value h right (clear_sides hclear hop).2⟩)
  | .member _ item container, _, _, _, hclear => by
      rw [Operand.survey] at hclear
      rw [Operand.truth, Operand.truth]
      exact (Expr.agrees_value h item hclear.left).bind fun _ =>
        (Expr.agrees_value h container hclear.right).bind fun _ => Agrees.refl _
  | .test path _ name args, _, _, _, hclear => by
      rw [Operand.survey] at hclear
      rw [Operand.truth, Operand.truth]
      exact (agrees_asks h name (Survey.Clear.of_test hclear.left)
        (agrees_valuesOf h args hclear.right)).bind fun _ => Agrees.refl _
  | .call (.mk _ args), _, _, _, hclear => by
      rw [Operand.survey] at hclear
      rw [Operand.truth, Operand.truth]
      exact (agrees_callValue (agrees_argValues h args hclear.right)).bind fun _ => Agrees.refl _
  | .expand space name args, _, _, _, hclear => by
      rw [Operand.survey] at hclear
      rw [Operand.truth, Operand.truth]
      exact (agrees_expandDefinition h hclear.left.expands space name
        (argsAgree_argsOf h args hclear.right)).bind fun _ => Agrees.refl _
  | .name _, _, _, _, _ | .list _, _, _, _, _ | .concat _, _, _, _, _ | .text _, _, _, _, _
  | .int _, _, _, _, _ | .float _, _, _, _, _ | .bool _, _, _, _, _ => by
      rw [Operand.truth, Operand.truth]
      exact Agrees.refl _

theorem Operand.agrees_number (h : StageExtends x unmentioned stage stage') :
    ∀ (operand : Operand) {scanned strict : Bool},
      (operand.survey scanned).Clear x unmentioned strict →
      Agrees strict (operand.number stage) (operand.number stage')
  | .name path, _, _, hclear => by
      rw [Operand.survey] at hclear
      rw [Operand.number, Operand.number]
      exact (agrees_find h hclear).bind fun _ => Agrees.refl _
  | .math op left right, _, _, hclear => by
      rw [Operand.survey] at hclear
      rw [Operand.number, Operand.number]
      exact agrees_applyMath op left right
        (Expr.agrees_number h left hclear.left) (Expr.agrees_number h right hclear.right)
  | .call (.mk _ args), _, _, hclear => by
      rw [Operand.survey] at hclear
      rw [Operand.number, Operand.number]
      exact (agrees_callValue (agrees_argValues h args hclear.right)).bind fun _ => Agrees.refl _
  | .int _, _, _, _ | .float _, _, _, _ | .text _, _, _, _ | .bool _, _, _, _
  | .concat _, _, _, _ | .test _ _ _ _, _, _, _ | .logic _ _ _, _, _, _ | .member _ _ _, _, _, _
  | .expand _ _ _, _, _, _ | .list _, _, _, _ => by
      rw [Operand.number, Operand.number]
      exact Agrees.refl _

theorem agrees_applyFilters (h : StageExtends x unmentioned stage stage') :
    ∀ (calls : List Call) (v : Value) {strict : Bool},
      (surveyOfCalls calls).Clear x unmentioned strict →
      Agrees strict (applyFilters stage v calls) (applyFilters stage' v calls)
  | [], _, _, _ => by
      rw [applyFilters, applyFilters]
      exact Agrees.refl _
  | .mk name args :: calls, v, _, hclear => by
      rw [surveyOfCalls] at hclear
      rw [applyFilters, applyFilters]
      split
      · exact agrees_applyFilters h calls v hclear.right
      · exact (agrees_apply h (agrees_argValues h args hclear.left.right) v).bind fun v =>
          agrees_applyFilters h calls v hclear.right

theorem agrees_valuesOf (h : StageExtends x unmentioned stage stage') :
    ∀ (items : List Expr) {scanned strict : Bool},
      (surveyOfItems scanned items).Clear x unmentioned strict →
      Agrees strict (valuesOf stage items) (valuesOf stage' items)
  | [], _, _, _ => by
      rw [valuesOf, valuesOf]
      exact Agrees.refl _
  | item :: items, _, _, hclear => by
      rw [surveyOfItems] at hclear
      rw [valuesOf, valuesOf]
      exact (Expr.agrees_value h item hclear.left).bind fun _ =>
        (agrees_valuesOf h items hclear.right).bind fun _ => Agrees.refl _

theorem agrees_joinParts (h : StageExtends x unmentioned stage stage') :
    ∀ (parts : List Operand) {scanned strict : Bool},
      (surveyOfParts scanned parts).Clear x unmentioned strict →
      Agrees strict (joinParts stage parts) (joinParts stage' parts)
  | [], _, _, _ => by
      rw [joinParts, joinParts]
      exact Agrees.refl _
  | part :: parts, _, _, hclear => by
      rw [surveyOfParts] at hclear
      have hrest : ∀ s : String, Agrees _
          (do return s ++ (← joinParts stage parts)) (do return s ++ (← joinParts stage' parts)) :=
        fun s => (agrees_joinParts h parts hclear.right).bind fun _ => Agrees.refl _
      have hpart := hclear.left
      rw [joinParts.eq_def stage, joinParts.eq_def stage']
      cases part with
      | name path =>
          rw [Operand.survey] at hpart
          exact (agrees_find h hpart).bind fun v => (Agrees.refl _).bind hrest
      | call call =>
          obtain ⟨name, args⟩ := call
          rw [Operand.survey] at hpart
          exact (agrees_callValue (agrees_argValues h args hpart.right)).bind fun v =>
            (Agrees.refl _).bind hrest
      | _ => exact (Agrees.refl _).bind hrest

theorem agrees_argValues (h : StageExtends x unmentioned stage stage') :
    ∀ (args : List (String × Expr)) {scanned strict : Bool},
      (surveyOfArgs scanned args).Clear x unmentioned strict →
      Agrees strict (argValues stage args) (argValues stage' args)
  | [], _, _, _ => by
      rw [argValues, argValues]
      exact Agrees.refl _
  | (_, value) :: args, _, _, hclear => by
      rw [surveyOfArgs] at hclear
      rw [argValues, argValues]
      exact (Expr.agrees_value h value hclear.left).bind fun _ =>
        (agrees_argValues h args hclear.right).bind fun _ => Agrees.refl _

theorem argsAgree_argsOf (h : StageExtends x unmentioned stage stage') :
    ∀ (args : List (String × Expr)) {scanned strict : Bool},
      (surveyOfArgs scanned args).Clear x unmentioned strict →
      ArgsAgree strict (argsOf stage args) (argsOf stage' args)
  | [], _, _, _ => by
      rw [argsOf, argsOf]
      exact List.Forall₂.nil
  | (_, value) :: args, _, _, hclear => by
      rw [surveyOfArgs] at hclear
      rw [argsOf, argsOf]
      exact List.Forall₂.cons ⟨rfl, Expr.agrees_value h value hclear.left⟩
        (argsAgree_argsOf h args hclear.right)

end

end

end Scaffold.Template
