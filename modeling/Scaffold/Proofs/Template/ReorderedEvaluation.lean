import Scaffold.Proofs.Template.Matching
import Scaffold.Proofs.Template.Reordering

/-!
# Evaluating reordered expressions

An expression and a reordering of it match: they have the same value, truth and number,
or no value, no truth and no number. Arguments are looked up by name, so that only the
order in which they are computed can make a difference. It makes none for constants, and
where no definition is expanded and the surroundings are asked nothing it can only change
which failure comes first.
-/

namespace Scaffold.Template

/-! ## Leeways -/

/-- A text, a number or a truth value as it stands. -/
inductive Expr.IsLiteral : Expr → Prop
  | text (s : String) (negated : Bool) : IsLiteral (.mk (.text s) negated [])
  | int (n : Int) (negated : Bool) : IsLiteral (.mk (.int n) negated [])
  | float (x : Binary64) (negated : Bool) : IsLiteral (.mk (.float x) negated [])
  | bool (b : Bool) (negated : Bool) : IsLiteral (.mk (.bool b) negated [])

/-- An expression that expands no definition and asks the surroundings nothing. -/
def Expr.Effectless (e : Expr) : Prop := (e.survey false false).Effectless

/-- A leeway that is used only where exchanges do not show: beside a literal, or, if it does
not matter which failure comes first, where no definition is expanded and nothing is asked. -/
def Leeway.Sound (l : Leeway) : Prop := ∀ {e f : Expr}, l.swaps e f →
  e.IsLiteral ∨ f.IsLiteral ∨ (l.faithful = false ∧ e.Effectless ∧ f.Effectless)

theorem Expr.IsLiteral.exists_value {e : Expr} (h : e.IsLiteral) (stage : Stage) :
    ∃ v, e.value stage = pure v := by
  cases h with
  | text s negated => exact ⟨negate negated (.text s), rfl⟩
  | int n negated => exact ⟨negate negated (.int n), rfl⟩
  | float x negated => exact ⟨negate negated (.float x), rfl⟩
  | bool b negated => exact ⟨negate negated (.bool b), rfl⟩

section

variable {l : Leeway} {stage stage' : Stage}

theorem argValues_pair (m n : String) (e f : Expr) (args : List (String × Expr)) :
    argValues stage ((m, e) :: (n, f) :: args) =
      (do
        let v ← e.value stage
        let w ← f.value stage
        let rest ← argValues stage args
        return (m, v) :: (n, w) :: rest) := by
  rw [argValues, argValues]
  simp only [bind_assoc, pure_bind]

/-- Two neighbouring arguments change places. -/
theorem matches_swap (hsound : l.Sound) {m n : String} (hnames : m ≠ n) {e f : Expr}
    (hswap : l.swaps e f) (args : List (String × Expr)) :
    Matches l.faithful SameLookups (argValues stage ((m, e) :: (n, f) :: args))
      (argValues stage ((n, f) :: (m, e) :: args)) := by
  have hrest : ∀ {faithful : Bool} (v w : Value), Matches faithful SameLookups
      (do let rest ← argValues stage args; return (m, v) :: (n, w) :: rest)
      (do let rest ← argValues stage args; return (n, w) :: (m, v) :: rest) :=
    fun v w => (Matches.refl _).andThen fun rest => .pure (SameLookups.swap hnames v w rest)
  rw [argValues_pair, argValues_pair]
  rcases hsound hswap with he | hf | ⟨hfaithful, he, hf⟩
  · obtain ⟨v, hv⟩ := he.exists_value stage
    rw [hv]
    exact Matches.pure_exchange v _ hrest
  · obtain ⟨w, hw⟩ := hf.exists_value stage
    rw [hw]
    exact Matches.exchange_pure _ w hrest
  · rw [hfaithful]
    exact Matches.exchange (Expr.still he) (Expr.still hf) hrest

/-- Exchanged arguments have the same values under the same names. -/
theorem Exchanged.argValues (hsound : l.Sound) {args args' : List (String × Expr)}
    (h : Exchanged l args args') :
    Matches l.faithful SameLookups (argValues stage args) (Template.argValues stage args') := by
  induction h with
  | refl args => exact (Matches.refl _).imp fun _ _ heq => heq ▸ SameLookups.refl _
  | cons arg _ ih =>
      rw [Template.argValues, Template.argValues]
      exact (Matches.refl _).andThen fun v => ih.bind fun _ _ hsame => .pure (hsame.cons _)
  | swap args hnames hswap => exact matches_swap hsound hnames hswap args
  | trans _ _ ih ih' => exact ih.trans ih' fun _ _ _ => SameLookups.trans

theorem Exchanged.lookup_argsOf {args args' : List (String × Expr)} (h : Exchanged l args args')
    (name : String) : (argsOf stage args').lookup name = (argsOf stage args).lookup name := by
  induction h with
  | refl args => rfl
  | cons arg _ ih => rw [argsOf, argsOf, List.lookup_cons, List.lookup_cons, ih]
  | @swap m n e f args hnames _ =>
      simp only [argsOf, List.lookup_cons]
      by_cases hm : name = m
      · subst hm
        rw [beq_self_eq_true, beq_eq_false_iff_ne.mpr hnames]
      · rw [beq_eq_false_iff_ne.mpr hm]
  | trans _ _ ih ih' => exact ih'.trans ih

theorem Exchanged.argNamed {args args' : List (String × Expr)} (h : Exchanged l args args')
    (wanted : String) :
    Template.argNamed stage wanted args' = Template.argNamed stage wanted args := by
  induction h with
  | refl args => rfl
  | cons arg _ ih => rw [Template.argNamed, Template.argNamed, ih]
  | @swap m n e f args hnames _ =>
      simp only [Template.argNamed]
      by_cases hm : m = wanted
      · rw [if_pos hm, if_pos hm, if_neg fun hn => hnames (hm.trans hn.symm)]
      · rw [if_neg hm, if_neg hm]
  | trans _ _ ih ih' => exact ih'.trans ih

/-! ## Stages -/

/-- Two stages for a template and a reordering of it. The bodies that are reached by name
match. -/
structure StageReordered (l : Leeway) (stage stage' : Stage) : Prop where
  engine : stage'.engine = stage.engine
  template : stage'.template = stage.template
  context : stage'.context = stage.context
  tree : stage.tree.Reordered l stage'.tree
  bodies : ∀ {body body'}, NodesReordered l body body' →
    Matches l.faithful Eq (stage.render body) (stage'.render body')

theorem StageReordered.lookup (h : StageReordered l stage stage') (frames : List Frame)
    (path : String) : stage'.lookup frames path = stage.lookup frames path := by
  unfold Stage.lookup
  rw [h.template, h.context]

theorem StageReordered.find (h : StageReordered l stage stage') (path : String) :
    stage'.find path = stage.find path := by
  unfold Stage.find
  simp only [h.lookup]

/-! ## Steps of evaluation -/

theorem matches_asks (h : StageReordered l stage stage') (path name : String)
    {args args' : Eval (List Value)} (hargs : Matches l.faithful Eq args args') :
    Matches l.faithful Eq (asks stage path name args) (asks stage' path name args') := by
  unfold asks
  simp only [h.lookup]
  exact (Matches.refl _).andThen fun _ => (hargs.mapFault _).andThen fun _ => .refl _

theorem matches_settle {faithful negated : Bool} (found : Except Fault Value)
    {default default' : Option (Eval Value)} {filters filters' : Value → Eval Value}
    (hdefault : Option.Rel (Matches faithful Eq) default default')
    (hfilters : ∀ v, Matches faithful Eq (filters v) (filters' v)) :
    Matches faithful Eq (settle negated found default filters)
      (settle negated found default' filters') := by
  have hnegate : ∀ v, Matches faithful Eq (do return negate negated (← filters v))
      (do return negate negated (← filters' v)) :=
    fun v => (hfilters v).andThen fun _ => .refl _
  cases hdefault with
  | none =>
      cases found with
      | ok v => cases v <;> exact hnegate _
      | error fault => exact .refl _
  | some hm =>
      cases found with
      | ok v =>
          cases v
          case null => exact hm.andThen hnegate
          all_goals exact hnegate _
      | error fault => exact hm.andThen hnegate

/-- The remainder alone quotes its sides. -/
theorem matches_applyMath {op : MathOp} {left left' right right' : Expr}
    (hquoted : op = .rem → l.faithful = true → divisionOf left' right' = divisionOf left right)
    {a a' b b' : NumberEval} (ha : Matches l.faithful Eq a a') (hb : Matches l.faithful Eq b b') :
    Matches l.faithful Eq (applyMath op left right a b) (applyMath op left' right' a' b') := by
  refine ha.andThen fun x => hb.andThen fun y => ?_
  cases x with
  | none => exact .refl _
  | some x =>
      cases y with
      | none => exact .refl _
      | some y =>
          cases op with
          | rem =>
              show Matches l.faithful Eq (Eval.ofExcept (remainder left right x y))
                (Eval.ofExcept (remainder left' right' x y))
              unfold remainder
              split
              · split
                · split
                  · exact .ofExcept_error fun hf => by rw [hquoted rfl hf]
                  · exact .refl _
                · exact .refl _
              · exact .refl _
          | _ => exact .refl _

theorem matches_decideLogic {faithful : Bool} (op : LogicOp) (negated : Bool)
    {leftTruth leftTruth' rightTruth rightTruth' : Eval Bool}
    {leftNumber leftNumber' rightNumber rightNumber' : NumberEval}
    {leftValue leftValue' rightValue rightValue' : Eval Value}
    (hleft : Matches faithful Eq leftValue leftValue' ∧ Matches faithful Eq leftTruth leftTruth' ∧
      Matches faithful Eq leftNumber leftNumber')
    (hright : Matches faithful Eq rightValue rightValue' ∧
      Matches faithful Eq rightTruth rightTruth' ∧ Matches faithful Eq rightNumber rightNumber') :
    Matches faithful Eq
      (decideLogic op negated leftTruth rightTruth leftNumber rightNumber leftValue rightValue)
      (decideLogic op negated leftTruth' rightTruth' leftNumber' rightNumber' leftValue'
        rightValue') := by
  obtain ⟨hleftValue, hleftTruth, hleftNumber⟩ := hleft
  obtain ⟨hrightValue, hrightTruth, hrightNumber⟩ := hright
  cases op with
  | or =>
      refine hleftTruth.andThen fun b => ?_
      cases b with
      | true => exact .refl _
      | false => exact hrightTruth.andThen fun _ => .refl _
  | and =>
      refine hleftTruth.andThen fun b => ?_
      cases b with
      | true => exact hrightTruth.andThen fun _ => .refl _
      | false => exact .refl _
  | eq | ne => exact hleftValue.andThen fun _ => hrightValue.andThen fun _ => .refl _
  | lt | le | gt | ge =>
      exact (hleftNumber.andThen fun _ => hrightNumber.andThen fun _ => .refl _).andThen
        fun _ => .refl _

theorem matches_bindParams {faithful : Bool} {args args' : List (String × Eval Value)}
    (h : ∀ name, Option.Rel (Matches faithful Eq) (args.lookup name) (args'.lookup name))
    (name : String) (params : List (String × Option Operand)) :
    Matches faithful Eq (bindParams name args params) (bindParams name args' params) := by
  induction params with
  | nil => exact .refl _
  | cons head params ih =>
      obtain ⟨param, default⟩ := head
      have hrest : ∀ v : Value, Matches faithful Eq
          (do return (param, v) :: (← bindParams name args params))
          (do return (param, v) :: (← bindParams name args' params)) :=
        fun v => ih.andThen fun _ => .refl _
      have hparam := h param
      unfold bindParams
      generalize args.lookup param = arg, args'.lookup param = arg' at hparam
      cases hparam with
      | some hm => exact hm.andThen hrest
      | none =>
          cases default with
          | none => exact (Matches.refl _).andThen hrest
          | some operand => cases operand <;> exact (Matches.refl _).andThen hrest

/-- The definitions of a name are both there or both missing. -/
theorem find?_definitions {l : Leeway} (name : String) {ds ds' : List Definition}
    (h : List.Forall₂
      (fun d d' => d'.name = d.name ∧ d'.params = d.params ∧ NodesReordered l d.body d'.body)
      ds ds') :
    Option.Rel (fun d d' => d'.params = d.params ∧ NodesReordered l d.body d'.body)
      (ds.find? (·.name == name)) (ds'.find? (·.name == name)) := by
  induction h with
  | nil => exact .none
  | @cons d d' ds ds' hd _ ih =>
      obtain ⟨hname, hparams, hbody⟩ := hd
      rw [List.find?_cons, List.find?_cons, hname]
      cases d.name == name with
      | true => exact .some ⟨hparams, hbody⟩
      | false => exact ih

theorem matches_expandDefinition (h : StageReordered l stage stage') (space name : String)
    {args args' : List (String × Eval Value)}
    (hargs : ∀ name, Option.Rel (Matches l.faithful Eq) (args.lookup name) (args'.lookup name)) :
    Matches l.faithful Eq (expandDefinition stage space name args)
      (expandDefinition stage' space name args') := by
  have hfound := find?_definitions name h.tree.definitions
  unfold expandDefinition findDefinition
  rw [h.template, h.engine]
  generalize stage.tree.definitions.find? (·.name == name) = found,
    stage'.tree.definitions.find? (·.name == name) = found' at hfound
  split
  · cases hfound with
    | none => exact .ofExcept_error fun _ => rfl
    | @some d d' hd =>
        obtain ⟨hparams, hbody⟩ := hd
        show Matches l.faithful Eq
          (do
            Eval.push ⟨.definition space name,
              ← bindParams name args (stage.engine.arrange d.params)⟩
            let text ← stage.render d.body
            Eval.pop
            return text)
          (do
            Eval.push ⟨.definition space name,
              ← bindParams name args' (stage.engine.arrange d'.params)⟩
            let text ← stage'.render d'.body
            Eval.pop
            return text)
        rw [hparams]
        exact (matches_bindParams hargs name _).andThen fun _ =>
          (Matches.refl _).andThen fun _ => (h.bodies hbody).andThen fun _ => .refl _
  · exact .ofExcept_error fun _ => rfl

theorem matches_callValue (name : String) {args args' : List (String × Expr)}
    (hargs : Matches l.faithful SameLookups (argValues stage args) (argValues stage' args')) :
    Matches l.faithful Eq ((Call.mk name args).value stage)
      ((Call.mk name args').value stage') := by
  rw [Call.value, Call.value]
  cases hf : invoke? name with
  | none => exact .refl _
  | some f =>
      refine (hargs.mapFault _).bind fun vs vs' hsame => ?_
      rw [Function.invoke_congr hf hsame]
      exact .refl _

theorem matches_apply (h : StageReordered l stage stage') (name : String)
    {args args' : List (String × Expr)}
    (hargs : Matches l.faithful SameLookups (argValues stage args) (argValues stage' args'))
    (v : Value) :
    Matches l.faithful Eq ((Call.mk name args).apply stage v)
      ((Call.mk name args').apply stage' v) := by
  rw [Call.apply, Call.apply, h.engine]
  cases hf : stage.engine.filter? name with
  | none => exact .refl _
  | some f =>
      refine (hargs.mapFault _).bind fun vs vs' hsame => ?_
      rw [Filter.byName_of_engine hf v hsame]
      exact .refl _

/-! ## Expressions from their parts -/

theorem Operand.Reordered.ne_name {operand operand' : Operand} (h : operand.Reordered l operand')
    (hne : ∀ path, operand ≠ .name path) : ∀ path, operand' ≠ .name path := by
  rintro path rfl
  cases h
  exact hne path rfl

theorem Operand.Reordered.ne_concat {operand operand' : Operand}
    (h : operand.Reordered l operand') (hne : ∀ parts, operand ≠ .concat parts) :
    ∀ parts, operand' ≠ .concat parts := by
  rintro parts rfl
  cases h
  exact hne _ rfl

theorem matches_value_of_parts (h : StageReordered l stage stage') {operand operand' : Operand}
    {negated : Bool} {filters filters' : List Call} (hoperand : operand.Reordered l operand')
    (hbase : Matches l.faithful Eq (operand.base stage negated) (operand'.base stage' negated))
    (hdefault : Option.Rel (Matches l.faithful Eq) (defaultOf stage filters)
      (defaultOf stage' filters'))
    (hfilters : ∀ v, Matches l.faithful Eq (applyFilters stage v filters)
      (applyFilters stage' v filters')) :
    Matches l.faithful Eq ((Expr.mk operand negated filters).value stage)
      ((Expr.mk operand' negated filters').value stage') := by
  by_cases hpath : ∃ path, operand = .name path
  · obtain ⟨path, rfl⟩ := hpath
    cases hoperand
    rw [Expr.value, Expr.value]
    refine (Matches.refl _).andThen fun frames => ?_
    rw [h.lookup]
    exact matches_settle _ hdefault hfilters
  · have hother : ∀ path, operand ≠ .name path := fun path he => hpath ⟨path, he⟩
    rw [value_of_operand hother, value_of_operand (hoperand.ne_name hother)]
    exact hbase.andThen fun v => (hfilters v).andThen fun _ => .refl _

theorem applyFilters_cons (v : Value) (name : String) (args : List (String × Expr))
    (calls : List Call) :
    applyFilters stage v (.mk name args :: calls) =
      if name = "safe" ∨ name = "default" then applyFilters stage v calls
      else (Call.mk name args).apply stage v >>= fun w => applyFilters stage w calls := by
  rw [applyFilters]
  split
  · next h =>
      have hname : name = "safe" ∨ name = "default" :=
        (Bool.or_eq_true_iff.mp h).imp of_decide_eq_true of_decide_eq_true
      exact (if_pos hname).symm
  · next h =>
      refine (if_neg fun hname : name = "safe" ∨ name = "default" => h ?_).symm
      exact Bool.or_eq_true_iff.mpr (hname.imp (fun hsafe => decide_eq_true hsafe)
        fun hdefault => decide_eq_true hdefault)

/-- The truth of a joined text with filters behind it. -/
theorem truth_of_concat (parts : List Operand) (negated : Bool) (filters : List Call) :
    (Expr.mk (.concat parts) negated filters).truth stage =
      (do
        let v ← (Operand.concat parts).base stage negated
        match ← applyFilters stage v filters with
        | .text s => return (s != "") != negated
        | _ => throw (.other "a joined text was made into another value")) := by
  have hjoin (k : Value → Eval Bool) :
      (joinParts stage parts >>= fun text => pure (Value.text text)) >>= k =
        joinParts stage parts >>= fun text => k (.text text) := by
    simp only [bind_assoc, pure_bind]
  rw [Expr.truth, Operand.base]
  refine Eq.trans ?_ (hjoin _).symm
  rfl

theorem matches_truth_of_parts (h : StageReordered l stage stage') {operand operand' : Operand}
    {negated : Bool} {filters filters' : List Call} (hoperand : operand.Reordered l operand')
    (hbase : Matches l.faithful Eq (operand.base stage negated) (operand'.base stage' negated))
    (htruth : Matches l.faithful Eq (operand.truth stage negated)
      (operand'.truth stage' negated))
    (hdefault : Option.Rel (Matches l.faithful Eq) (defaultOf stage filters)
      (defaultOf stage' filters'))
    (hfilters : ∀ v, Matches l.faithful Eq (applyFilters stage v filters)
      (applyFilters stage' v filters')) :
    Matches l.faithful Eq ((Expr.mk operand negated filters).truth stage)
      ((Expr.mk operand' negated filters').truth stage') := by
  by_cases hpath : ∃ path, operand = .name path
  · obtain ⟨path, rfl⟩ := hpath
    cases hoperand
    rw [Expr.truth, Expr.truth]
    refine (Matches.refl _).andThen fun frames => ?_
    rw [h.lookup]
    -- any failure counts as false, and so the failures need not be the same
    refine (matches_settle _ hdefault hfilters).outcome.bind fun r r' hr => .pure ?_
    rw [hr]
  · have hother : ∀ path, operand ≠ .name path := fun path he => hpath ⟨path, he⟩
    by_cases hjoined : ∃ parts, operand = .concat parts
    · obtain ⟨parts, rfl⟩ := hjoined
      cases hoperand
      rw [truth_of_concat, truth_of_concat]
      exact hbase.andThen fun v => (hfilters v).andThen fun _ => .refl _
    · have hunjoined : ∀ parts, operand ≠ .concat parts := fun parts he => hjoined ⟨parts, he⟩
      rw [truth_of_operand hother hunjoined,
        truth_of_operand (hoperand.ne_name hother) (hoperand.ne_concat hunjoined)]
      exact htruth

theorem matches_number_of_parts {operand operand' : Operand} {negated : Bool}
    {filters filters' : List Call} (hfilters : CallsReordered l filters filters')
    (hnumber : Matches l.faithful Eq (operand.number stage) (operand'.number stage'))
    (hvalue : Matches l.faithful Eq ((Expr.mk operand negated filters).value stage)
      ((Expr.mk operand' negated filters').value stage')) :
    Matches l.faithful Eq ((Expr.mk operand negated filters).number stage)
      ((Expr.mk operand' negated filters').number stage') := by
  cases hfilters with
  | nil =>
      rw [number_of_operand, number_of_operand]
      exact hnumber
  | cons hargs hcalls =>
      rw [number_of_filters, number_of_filters]
      exact hvalue.andThen fun _ => .refl _

theorem PartsReordered.map_eq {α : Type} {f : Operand → α}
    (hf : ∀ {part part' : Operand}, part.Reordered l part' → f part' = f part)
    {parts parts' : List Operand} (h : PartsReordered l parts parts') :
    parts'.map f = parts.map f := by
  cases h with
  | nil => rfl
  | cons hpart hparts => rw [List.map_cons, List.map_cons, hf hpart, hparts.map_eq hf]

theorem matches_joinParts_cons {part part' : Operand} (hpart : part.Reordered l part')
    (hbase : Matches l.faithful Eq (part.base stage true) (part'.base stage' true))
    {parts parts' : List Operand}
    (hparts : Matches l.faithful Eq (joinParts stage parts) (joinParts stage' parts')) :
    Matches l.faithful Eq (joinParts stage (part :: parts)) (joinParts stage' (part' :: parts')) := by
  have hrest : ∀ s : String, Matches l.faithful Eq
      (do return s ++ (← joinParts stage parts)) (do return s ++ (← joinParts stage' parts')) :=
    fun s => hparts.andThen fun _ => .refl _
  rw [joinParts.eq_def stage, joinParts.eq_def stage']
  cases hpart with
  | name path =>
      rw [Operand.base, Operand.base] at hbase
      exact hbase.andThen fun v => (Matches.refl _).andThen hrest
  | call hargs =>
      rw [Operand.base, Operand.base] at hbase
      exact hbase.andThen fun v => (Matches.refl _).andThen hrest
  | _ => exact (Matches.refl _).andThen hrest

/-- A joined text is quoted by its texts and paths, which do not change. -/
theorem PartsReordered.joinedOutline {parts parts' : List Operand}
    (h : PartsReordered l parts parts') :
    Template.joinedOutline parts' = Template.joinedOutline parts := by
  refine congrArg (String.intercalate " ~ ") (h.map_eq fun hpart => ?_)
  cases hpart <;> rfl

end

/-! ## Expressions -/

section

variable {l : Leeway} {stage stage' : Stage}

mutual

theorem Expr.Reordered.matches (hsound : l.Sound) (h : StageReordered l stage stage') :
    ∀ {e e' : Expr}, e.Reordered l e' → Matches l.faithful Eq (e.value stage) (e'.value stage') ∧
      Matches l.faithful Eq (e.truth stage) (e'.truth stage') ∧
      Matches l.faithful Eq (e.number stage) (e'.number stage')
  | _, _, .mk hoperand hfilters => by
      have hparts := hoperand.matches hsound h
      have happlied := hfilters.applyFilters hsound h
      have hdefault := hfilters.defaultOf hsound h
      have hvalue := fun negated =>
        matches_value_of_parts h hoperand (hparts negated).1 hdefault happlied
      exact ⟨hvalue _,
        matches_truth_of_parts h hoperand (hparts _).1 (hparts _).2.1 hdefault happlied,
        matches_number_of_parts hfilters (hparts true).2.2 (hvalue _)⟩

theorem Operand.Reordered.matches (hsound : l.Sound) (h : StageReordered l stage stage') :
    ∀ {operand operand' : Operand}, operand.Reordered l operand' → ∀ negated : Bool,
      Matches l.faithful Eq (operand.base stage negated) (operand'.base stage' negated) ∧
      Matches l.faithful Eq (operand.truth stage negated) (operand'.truth stage' negated) ∧
      Matches l.faithful Eq (operand.number stage) (operand'.number stage')
  | _, _, .math hleft hright hquoted, _ => by
      have hmath := matches_applyMath hquoted (hleft.matches hsound h).2.2
        (hright.matches hsound h).2.2
      simp only [Operand.base, Operand.truth, Operand.number]
      exact ⟨(hmath.mapFault _).andThen fun _ => .refl _, hmath.andThen fun _ => .refl _, hmath⟩
  | _, _, .logic hleft hright, negated => by
      have hlogic := fun op => matches_decideLogic op negated (hleft.matches hsound h)
        (hright.matches hsound h)
      simp only [Operand.base, Operand.truth, Operand.number]
      exact ⟨(hlogic _).andThen fun _ => .refl _, hlogic _, .refl _⟩
  | _, _, .member hitem hcontainer, _ => by
      have hi := (hitem.matches hsound h).1
      have hc := (hcontainer.matches hsound h).1
      simp only [Operand.base, Operand.truth, Operand.number]
      exact ⟨hi.andThen fun _ => hc.andThen fun _ => .refl _,
        hi.andThen fun _ => hc.andThen fun _ => .refl _, .refl _⟩
  | _, _, .test hargs, _ => by
      have hasks := fun path name => matches_asks h path name (hargs.valuesOf hsound h)
      simp only [Operand.base, Operand.truth, Operand.number]
      exact ⟨(hasks _ _).andThen fun _ => .refl _, (hasks _ _).andThen fun _ => .refl _, .refl _⟩
  | _, _, .call hargs, _ => by
      have hcall := fun name => matches_callValue name (hargs.argValues hsound h)
      simp only [Operand.base, Operand.truth, Operand.number]
      exact ⟨hcall _, (hcall _).andThen fun _ => .refl _, (hcall _).andThen fun _ => .refl _⟩
  | _, _, .expand hargs, _ => by
      have hexpand := fun space name =>
        matches_expandDefinition h space name (hargs.lookup_argsOf hsound h)
      simp only [Operand.base, Operand.truth, Operand.number]
      exact ⟨(hexpand _ _).andThen fun _ => .refl _, (hexpand _ _).andThen fun _ => .refl _,
        .refl _⟩
  | _, _, .list hitems, _ => by
      simp only [Operand.base, Operand.truth, Operand.number]
      exact ⟨(hitems.valuesOf hsound h).andThen fun _ => .refl _, .refl _, .refl _⟩
  | _, _, .concat hparts, _ => by
      simp only [Operand.base, Operand.truth, Operand.number, hparts.joinedOutline]
      exact ⟨(hparts.joinParts hsound h).andThen fun _ => .refl _, .refl _, .refl _⟩
  | _, _, .name path, _ => by
      simp only [Operand.base, Operand.truth, Operand.number, h.find]
      exact ⟨.refl _, .refl _, .refl _⟩
  | _, _, .text _, _ | _, _, .int _, _ | _, _, .float _, _ | _, _, .bool _, _ => by
      simp only [Operand.base, Operand.truth, Operand.number]
      exact ⟨.refl _, .refl _, .refl _⟩

theorem CallsReordered.applyFilters (hsound : l.Sound) (h : StageReordered l stage stage') :
    ∀ {calls calls' : List Call}, CallsReordered l calls calls' → ∀ v : Value,
      Matches l.faithful Eq (applyFilters stage v calls) (Template.applyFilters stage' v calls')
  | _, _, .nil, _ => by
      rw [Template.applyFilters, Template.applyFilters]
      exact .refl _
  | _, _, .cons hargs hcalls, v => by
      rw [applyFilters_cons, applyFilters_cons]
      split_ifs
      · exact hcalls.applyFilters hsound h v
      · exact (matches_apply h _ (hargs.argValues hsound h) v).andThen fun v =>
          hcalls.applyFilters hsound h v

theorem CallsReordered.defaultOf (hsound : l.Sound) (h : StageReordered l stage stage') :
    ∀ {calls calls' : List Call}, CallsReordered l calls calls' →
      Option.Rel (Matches l.faithful Eq) (defaultOf stage calls)
        (Template.defaultOf stage' calls')
  | _, _, .nil => .none
  | _, _, .cons hargs _ => by
      rw [Template.defaultOf, Template.defaultOf]
      split_ifs
      · exact .some (hargs.argNamed hsound h "value")
      · exact .none

theorem ItemsReordered.valuesOf (hsound : l.Sound) (h : StageReordered l stage stage') :
    ∀ {items items' : List Expr}, ItemsReordered l items items' →
      Matches l.faithful Eq (valuesOf stage items) (Template.valuesOf stage' items')
  | _, _, .nil => by
      rw [Template.valuesOf, Template.valuesOf]
      exact .refl _
  | _, _, .cons hitem hitems => by
      rw [Template.valuesOf, Template.valuesOf]
      exact (hitem.matches hsound h).1.andThen fun _ =>
        (hitems.valuesOf hsound h).andThen fun _ => .refl _

theorem PartsReordered.joinParts (hsound : l.Sound) (h : StageReordered l stage stage') :
    ∀ {parts parts' : List Operand}, PartsReordered l parts parts' →
      Matches l.faithful Eq (joinParts stage parts) (Template.joinParts stage' parts')
  | _, _, .nil => by
      rw [Template.joinParts, Template.joinParts]
      exact .refl _
  | _, _, .cons hpart hparts => matches_joinParts_cons hpart (hpart.matches hsound h true).1
      (hparts.joinParts hsound h)

theorem ArgsReordered.argValues (hsound : l.Sound) (h : StageReordered l stage stage') :
    ∀ {args args' : List (String × Expr)}, ArgsReordered l args args' →
      Matches l.faithful SameLookups (argValues stage args) (Template.argValues stage' args')
  | _, _, .mk heach hexchanged => (heach.argValues hsound h).trans (hexchanged.argValues hsound)
      fun _ _ _ => SameLookups.trans

theorem EachReordered.argValues (hsound : l.Sound) (h : StageReordered l stage stage') :
    ∀ {args args' : List (String × Expr)}, EachReordered l args args' →
      Matches l.faithful SameLookups (argValues stage args) (Template.argValues stage' args')
  | _, _, .nil => by
      rw [Template.argValues, Template.argValues]
      exact .pure (.refl _)
  | _, _, .cons he hargs => by
      rw [Template.argValues, Template.argValues]
      exact (he.matches hsound h).1.andThen fun v =>
        (hargs.argValues hsound h).bind fun _ _ hsame => .pure (hsame.cons _)

theorem ArgsReordered.lookup_argsOf (hsound : l.Sound) (h : StageReordered l stage stage') :
    ∀ {args args' : List (String × Expr)}, ArgsReordered l args args' → ∀ name : String,
      Option.Rel (Matches l.faithful Eq) ((argsOf stage args).lookup name)
        ((argsOf stage' args').lookup name)
  | _, _, .mk heach hexchanged, name => by
      rw [hexchanged.lookup_argsOf name]
      exact heach.lookup_argsOf hsound h name

theorem EachReordered.lookup_argsOf (hsound : l.Sound) (h : StageReordered l stage stage') :
    ∀ {args args' : List (String × Expr)}, EachReordered l args args' → ∀ name : String,
      Option.Rel (Matches l.faithful Eq) ((argsOf stage args).lookup name)
        ((argsOf stage' args').lookup name)
  | _, _, .nil, _ => .none
  | _, _, .cons he hargs, name => by
      rw [argsOf, argsOf, List.lookup_cons, List.lookup_cons]
      split
      · exact .some (he.matches hsound h).1
      · exact hargs.lookup_argsOf hsound h name

theorem ArgsReordered.argNamed (hsound : l.Sound) (h : StageReordered l stage stage') :
    ∀ {args args' : List (String × Expr)}, ArgsReordered l args args' → ∀ wanted : String,
      Matches l.faithful Eq (argNamed stage wanted args) (Template.argNamed stage' wanted args')
  | _, _, .mk heach hexchanged, wanted => by
      rw [hexchanged.argNamed wanted]
      exact heach.argNamed hsound h wanted

theorem EachReordered.argNamed (hsound : l.Sound) (h : StageReordered l stage stage') :
    ∀ {args args' : List (String × Expr)}, EachReordered l args args' → ∀ wanted : String,
      Matches l.faithful Eq (argNamed stage wanted args) (Template.argNamed stage' wanted args')
  | _, _, .nil, _ => by
      rw [Template.argNamed, Template.argNamed]
      exact .refl _
  | _, _, .cons he hargs, wanted => by
      rw [Template.argNamed, Template.argNamed]
      split_ifs
      · exact (he.matches hsound h).1
      · exact hargs.argNamed hsound h wanted

end

end

end Scaffold.Template
