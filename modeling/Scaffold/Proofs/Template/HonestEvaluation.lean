import Scaffold.Proofs.Template.Extension
import Scaffold.Proofs.Template.QuietTests
import Scaffold.Proofs.Template.TagTexts

/-!
# Evaluation that fails honestly

Evaluation gives plain values of plain ones and keeps the frames plain, and where it fails,
the failure is honest about the frames that it leaves. What a template writes has to be
plain for that. The text of a rendered body matters only where it becomes a value.
-/

namespace Scaffold.Template

open Text

/-! ## Numbers -/

/-- A number that may be missing. -/
def PlainNumber (n : Option Value) : Prop := ∀ v ∈ n, v.Plain

section

variable {left right : Expr} {a b : Value}

theorem plainNumber_some {v : Value} (hv : v.Plain) : PlainNumber (some v) :=
  fun _ hw => Option.some.inj hw ▸ hv

theorem plainNumber_none : PlainNumber none := fun _ hw => absurd hw nofun

theorem meets_outOfBounds {sign range : String} (hsign : Unticked sign) (hrange : Unticked range)
    (a b : Int) : Meets PlainNumber Fault.Quiet (outOfBounds sign a b range) :=
  Fault.quiet_of_unticked (unticked_between (unticked_between
    (unticked_between (unticked_toString_int a) (by decide) hsign) (by decide)
    (unticked_toString_int b)) (by decide) hrange)

theorem meets_finite (x : Binary64) : Meets PlainNumber Fault.Quiet (finite x) := by
  unfold finite
  split
  · exact plainNumber_some (.float x)
  · exact plainNumber_none

theorem meets_arithmetic {sign : String} (hsign : Unticked sign) (exact_ : Int → Int → Int)
    (rounded : Binary64 → Binary64 → Binary64) :
    Meets PlainNumber Fault.Quiet (arithmetic sign exact_ rounded a b) := by
  unfold arithmetic
  dsimp only
  repeat' split
  all_goals first
    | exact plainNumber_some (.int _)
    | exact meets_outOfBounds hsign (by decide) _ _
    | exact meets_finite _
    | exact plainNumber_none

theorem meets_remainder (hleft : Unticked left.detail) (hright : Unticked right.detail) :
    Meets PlainNumber Fault.Quiet (remainder left right a b) := by
  have hdivision : Unticked (divisionOf left right) :=
    unticked_between hleft (by decide) hright
  unfold remainder
  repeat' split
  all_goals first
    | exact plainNumber_some (.int _)
    | exact Fault.quiet_of_unticked (unticked_append.mpr ⟨by decide, hdivision⟩)
    | exact meets_finite _
    | exact plainNumber_none

theorem meets_quotient : Meets PlainNumber Fault.Quiet (quotient a b) := by
  unfold quotient
  dsimp only
  repeat' split
  all_goals first
    | exact plainNumber_some (.int _)
    | exact meets_finite _
    | exact plainNumber_none

theorem meets_apply (op : MathOp) (hleft : Unticked left.detail) (hright : Unticked right.detail) :
    Meets PlainNumber Fault.Quiet (op.apply left right a b) := by
  cases op with
  | add => exact meets_arithmetic (by decide) _ _
  | sub => exact meets_arithmetic (by decide) _ _
  | mul => exact meets_arithmetic (by decide) _ _
  | div => exact meets_quotient
  | rem => exact meets_remainder hleft hright

end

section

variable {template : String} {context : SortedMap Value} {left right : Expr}

theorem honest_applyMath (op : MathOp) (hleft : Unticked left.detail)
    (hright : Unticked right.detail) {a b : NumberEval}
    (ha : HonestRun template context PlainNumber a) (hb : HonestRun template context PlainNumber b) :
    HonestRun template context PlainNumber (applyMath op left right a b) := by
  refine ha.bind fun x _ => hb.bind fun y _ => ?_
  split
  · exact .ofExcept (meets_apply op hleft hright)
  · exact .pure plainNumber_none

theorem honest_numberOrFail {place : String} (hplace : Silent
    (place ++ " was used in a math operation but is not a number")) {v : Value} (hv : v.Plain) :
    HonestRun template context PlainNumber (numberOrFail place v) := by
  unfold numberOrFail
  split
  · exact .pure (plainNumber_some hv)
  · exact .throw (Fault.quiet_other hplace)

/-! ## Comparison -/

theorem honest_compareNumbers (op : LogicOp) {a b : NumberEval}
    (ha : HonestRun template context PlainNumber a)
    (hb : HonestRun template context PlainNumber b) :
    HonestRun template context (fun _ => True) (compareNumbers op a b) := by
  refine ha.bind fun x _ => hb.bind fun y _ => ?_
  split
  · split <;> exact .pure trivial
  · exact .throw (Fault.quiet_of_unticked (by decide))

theorem honest_decideLogic {op : LogicOp} {negated : Bool} {leftTruth rightTruth : Eval Bool}
    {leftNumber rightNumber : NumberEval} {leftValue rightValue : Eval Value}
    (hleftTruth : HonestRun template context (fun _ => True) leftTruth)
    (hrightTruth : HonestRun template context (fun _ => True) rightTruth)
    (hleftNumber : HonestRun template context PlainNumber leftNumber)
    (hrightNumber : HonestRun template context PlainNumber rightNumber)
    (hleftValue : HonestRun template context Value.Plain leftValue)
    (hrightValue : HonestRun template context Value.Plain rightValue) :
    HonestRun template context (fun _ => True) (decideLogic op negated leftTruth rightTruth
      leftNumber rightNumber leftValue rightValue) := by
  cases op with
  | or =>
      refine hleftTruth.bind fun b _ => ?_
      cases b with
      | true => exact .pure trivial
      | false => exact hrightTruth.bind fun _ _ => .pure trivial
  | and =>
      refine hleftTruth.bind fun b _ => ?_
      cases b with
      | true => exact hrightTruth.bind fun _ _ => .pure trivial
      | false => exact .pure trivial
  | eq | ne => exact hleftValue.bind fun _ _ => hrightValue.bind fun _ _ => .pure trivial
  | lt | le | gt | ge =>
      exact (honest_compareNumbers _ hleftNumber hrightNumber).bind fun _ _ => .pure trivial

theorem meets_holds {item container : Value} (hitem : item.Plain) :
    Meets (fun _ => True) Fault.Quiet (holds item container) := by
  have hquoted : ∀ {after : String}, Unticked after →
      (Fault.other ("Tried to check if " ++ item.detail ++ after)).Quiet := fun hafter =>
    Fault.quiet_of_unticked (unticked_between (by decide) hitem.detail hafter)
  unfold holds
  split
  · trivial
  · trivial
  · exact hquoted (by decide)
  · trivial
  · exact hquoted (by decide)
  · exact Fault.quiet_other (silent_words _ (by decide))

theorem quiet_unknown (kind : Callable) {name : String} (hname : Unticked name) :
    (Fault.unknown kind name).Quiet := by
  have hsilent : Silent (Fault.unknown kind name).message := silent_of_unticked
    (unticked_between (unticked_append.mpr ⟨unticked_title kind, by decide⟩) hname (by decide))
  exact ⟨hsilent, hsilent⟩

theorem meets_findTest {name : String} (hname : Unticked name) :
    Meets Test.Quiet Fault.Quiet (findTest name) := by
  unfold findTest
  split
  · next test htest => exact Test.quiet_of_test? htest
  · exact quiet_unknown .test hname

/-! ## Names -/

theorem plain_negate (negated : Bool) {v : Value} (hv : v.Plain) : (negate negated v).Plain := by
  unfold negate
  split
  · exact .bool _
  · exact hv

theorem honest_settle {negated : Bool} {found : Except Fault Value} {default : Option (Eval Value)}
    {filters : Value → Eval Value} {s : Situation} (hs : s.Plain)
    (hfound : Meets Value.Plain (Honest template context s.frames) found)
    (hdefault : ∀ d ∈ default, HonestRun template context Value.Plain d)
    (hfilters : ∀ v, v.Plain → HonestRun template context Value.Plain (filters v)) :
    HonestOn template context Value.Plain (settle negated found default filters) s := by
  have hfiltered : ∀ v : Value, v.Plain → HonestRun template context Value.Plain
      (do return negate negated (← filters v)) := fun v hv =>
    (hfilters v hv).bind fun _ hw => .pure (plain_negate negated hw)
  unfold settle
  split
  · next d => exact (hdefault d rfl).bind hfiltered s hs
  · next v _ => exact hfiltered v hfound s hs
  · next d => exact (hdefault d rfl).bind hfiltered s hs
  · split
    · exact HonestRun.pure (.bool true) s hs
    · exact .ofExcept hs hfound

/-- The text of a part of a joined text. -/
theorem honest_joinedText {place : String} (hplace : Unticked place) {v : Value} (hv : v.Plain) :
    HonestRun template context Unticked (joinedText place v) := by
  unfold joinedText
  split
  · exact .pure (Value.plain_text.mp hv)
  · exact .pure (unticked_toString_int _)
  · exact .pure hv.shown
  · exact .throw (Fault.quiet_of_unticked (unticked_append.mpr ⟨by decide, hplace⟩))

end

/-! ## Stages -/

/-- A rendered text, plain where rendered texts become values. -/
def Captured (captures : Bool) (text : String) : Prop := captures = true → Unticked text

/-- A stage on which nothing that explanations quote passes for their own words, and where
bodies that are reached by name are rendered honestly. -/
structure Stage.Plain (captures : Bool) (stage : Stage) : Prop where
  engine : stage.engine.Plain
  template : IsNamed stage.template
  context : PlainEntries stage.context.entries
  params : ∀ d ∈ stage.tree.definitions, AllPlain captures (writesOfParams d.params)
  bodies : ∀ body ∈ stage.tree.bodies,
    HonestRun stage.template stage.context (Captured captures) (stage.render body)

section

variable {captures : Bool} {stage : Stage} {path name : String} {frames : List Frame}

theorem meets_lookup (h : stage.Plain captures) (hframes : PlainFrames frames)
    (hpath : IsNamed path) :
    Meets Value.Plain (Honest stage.template stage.context frames) (stage.lookup frames path) := by
  unfold Stage.lookup
  split
  · exact .text (unticked_dump h.context hframes)
  · exact meets_valueAt h.template.1 h.context hframes (Nat.lt_succ_self _) hpath

theorem honest_find (h : stage.Plain captures) (hpath : IsNamed path) :
    HonestRun stage.template stage.context Value.Plain (stage.find path) :=
  .read fun _ hs => .ofExcept hs (meets_lookup h hs.frames hpath)

theorem honest_asks (h : stage.Plain captures) (hpath : IsNamed path) (hname : Unticked name)
    {args : Eval (List Value)} (hargs : HonestRun stage.template stage.context
      (fun args => ∀ arg ∈ args, arg.Plain) args) :
    HonestRun stage.template stage.context (fun _ => True) (asks stage path name args) := by
  refine (HonestRun.ofExcept (meets_findTest hname)).bind fun test htest => ?_
  refine (hargs.call .test hname).bind fun args hargs => .read fun s hs => ?_
  have hvalue : ∀ w ∈ (stage.lookup s.frames path).toOption, w.Plain := by
    have hlookup := meets_lookup h hs.frames hpath
    intro w hw
    cases hfound : stage.lookup s.frames path with
    | ok v =>
        rw [hfound] at hlookup hw
        exact Option.some.inj hw ▸ hlookup
    | error f =>
        rw [hfound] at hw
        exact absurd hw nofun
  exact (HonestRun.ofExcept (htest _ _ hvalue hargs)).call .test hname s hs

/-! ## Definitions -/

theorem quiet_noMacro {space : String} (hspace : Unticked space) (hname : Unticked name)
    {template : String} (htemplate : IsNamed template) :
    (Fault.other ("Macro \x60" ++ space ++ "::" ++ name ++ "\x60 not found in template \x60" ++
      template ++ "\x60")).Quiet :=
  Fault.quiet_other (silent_wording [.words "Macro \x60", .quoted, .words "::", .quoted,
    .words "\x60 not found in template \x60", .named, .words "\x60"] [space, name, template]
    (by decide) ⟨hspace, hname, htemplate, rfl⟩)

theorem quiet_noNamespace {space template : String} (hspace : Unticked space)
    (htemplate : IsNamed template) :
    (Fault.other ("Macro namespace \x60" ++ space ++ "\x60 was not found in template \x60" ++
      template ++ "\x60. Have you maybe forgotten to import it, or misspelled it?")).Quiet :=
  Fault.quiet_other (silent_wording [.words "Macro namespace \x60", .quoted,
    .words "\x60 was not found in template \x60", .named,
    .words "\x60. Have you maybe forgotten to import it, or misspelled it?"] [space, template]
    (by decide) ⟨hspace, htemplate, rfl⟩)

theorem meets_findDefinition (htemplate : IsNamed stage.template) {space : String}
    (hspace : Unticked space) (hname : Unticked name) :
    Meets (fun d => d ∈ stage.tree.definitions) Fault.Quiet (findDefinition stage space name) := by
  unfold findDefinition
  split
  · split
    · next d hd => exact List.mem_of_find?_eq_some hd
    · exact quiet_noMacro hspace hname htemplate
  · exact quiet_noNamespace hspace htemplate

theorem quiet_noParameter (hname : Unticked name) {param : String} (hparam : IsNamed param) :
    (Fault.other ("Macro \x60" ++ name ++ "\x60 is missing the argument \x60" ++ param ++
      "\x60")).Quiet :=
  Fault.quiet_other (silent_wording [.words "Macro \x60", .quoted,
    .words "\x60 is missing the argument \x60", .named, .words "\x60"] [name, param]
    (by decide) ⟨hname, hparam, rfl⟩)

theorem honest_bindParams {template : String} {context : SortedMap Value} (hname : Unticked name)
    {args : List (String × Eval Value)}
    (hargs : ∀ arg ∈ args, HonestRun template context Value.Plain arg.2)
    {params : List (String × Option Operand)}
    (hparams : AllPlain captures (writesOfParams params)) :
    HonestRun template context PlainEntries (bindParams name args params) := by
  induction params with
  | nil => exact .pure (List.forall_mem_nil _)
  | cons head params ih =>
      obtain ⟨param, default⟩ := head
      rw [writesOfParams, allPlain_cons, allPlain_append] at hparams
      have hparam : IsNamed param := hparams.1
      have hrest : ∀ v : Value, v.Plain → HonestRun template context PlainEntries
          (do return (param, v) :: (← bindParams name args params)) := fun v hv =>
        (ih hparams.2.2).bind fun bound hbound =>
          .pure (List.forall_mem_cons.mpr ⟨⟨hparam.1, hv⟩, hbound⟩)
      unfold bindParams
      dsimp only
      split
      · next m hm => exact (hargs _ (mem_of_lookup hm)).bind hrest
      · next s _ =>
        have hs : Unticked s := hparams.2.1 (.tag s) (List.mem_singleton.mpr rfl)
        exact (HonestRun.pure (.text hs)).bind hrest
      · exact (HonestRun.pure (.int _)).bind hrest
      · exact (HonestRun.pure (.float _)).bind hrest
      · exact (HonestRun.pure (.bool _)).bind hrest
      · exact (HonestRun.throw (quiet_noParameter hname hparam)).bind hrest

/-- The text that a definition expands to is plain, for it becomes a value. -/
theorem honest_expandDefinition (h : stage.Plain captures) (hcaptures : captures = true)
    {space : String} (hspace : Unticked space) (hname : IsWord name)
    {args : List (String × Eval Value)}
    (hargs : ∀ arg ∈ args, HonestRun stage.template stage.context Value.Plain arg.2) :
    HonestRun stage.template stage.context Unticked (expandDefinition stage space name args) := by
  refine (HonestRun.ofExcept (meets_findDefinition h.template hspace hname.2.1)).bind fun d hd => ?_
  have hbody : d.body ∈ stage.tree.bodies :=
    List.mem_cons_of_mem _ (List.mem_append_right _ (List.mem_map.mpr ⟨d, hd, rfl⟩))
  have hparams : AllPlain captures (writesOfParams (stage.engine.arrange d.params)) :=
    allPlain_writesOfParams.mpr fun param hparam => allPlain_writesOfParams.mp (h.params d hd)
      param ((stage.engine.arrange_perm d.params).mem_iff.mp hparam)
  refine (honest_bindParams hname.2.1 hargs hparams).bind fun bound hbound => ?_
  have hframe : Frame.Plain ⟨.definition space name, bound⟩ := ⟨hbound, hspace, hname⟩
  refine (HonestRun.push hframe).bind fun _ _ => ?_
  exact (h.bodies d.body hbody).bind fun text htext =>
    HonestRun.pop.bind fun _ _ => .pure (htext hcaptures)

/-! ## Expressions from their parts -/

theorem honest_value_of_parts (h : stage.Plain captures) {operand : Operand} {negated : Bool}
    {filters : List Call} (hwrites : AllPlain captures operand.writes)
    (hbase : HonestRun stage.template stage.context Value.Plain (operand.base stage negated))
    (hdefault : ∀ d ∈ defaultOf stage filters,
      HonestRun stage.template stage.context Value.Plain d)
    (hfilters : ∀ v, v.Plain →
      HonestRun stage.template stage.context Value.Plain (applyFilters stage v filters)) :
    HonestRun stage.template stage.context Value.Plain
      ((Expr.mk operand negated filters).value stage) := by
  by_cases hpath : ∃ path, operand = .name path
  · obtain ⟨path, rfl⟩ := hpath
    rw [Operand.writes, allPlain_cons] at hwrites
    rw [Expr.value]
    exact .read fun _ hs =>
      honest_settle hs (meets_lookup h hs.frames hwrites.1) hdefault hfilters
  · rw [value_of_operand fun path he => hpath ⟨path, he⟩]
    exact hbase.bind fun v hv => (hfilters v hv).bind fun _ hw => .pure (plain_negate negated hw)

/-- A function computes a plain value of plain ones, or it asks the surroundings for one. -/
theorem honest_invoke {template : String} {context : SortedMap Value} {f : Args → Eval Value}
    (hf : invoke? name = some f) {args : Args} (hargs : PlainEntries args) :
    HonestRun template context Value.Plain (f args) := by
  unfold invoke? at hf
  split at hf
  · next g hg =>
      obtain rfl := Option.some.inj hf
      exact .ofExcept (Function.meets_of_function? hg hargs)
  · split at hf
    · obtain rfl := Option.some.inj hf
      exact .ask hargs.given
    · exact absurd hf nofun

theorem honest_callValue (hname : Unticked name) {args : List (String × Expr)}
    (hargs : HonestRun stage.template stage.context PlainEntries (argValues stage args)) :
    HonestRun stage.template stage.context Value.Plain ((Call.mk name args).value stage) := by
  unfold Call.value
  cases hf : invoke? name with
  | none => exact .throw (quiet_unknown .function hname)
  | some f =>
      exact (hargs.call .function hname).bind fun args hargs =>
        (honest_invoke hf hargs).call .function hname

theorem honest_apply (h : stage.Plain captures) (hname : Unticked name) {args : List (String × Expr)}
    (hargs : HonestRun stage.template stage.context PlainEntries (argValues stage args)) {v : Value}
    (hv : v.Plain) :
    HonestRun stage.template stage.context Value.Plain ((Call.mk name args).apply stage v) := by
  unfold Call.apply
  cases hf : stage.engine.filter? name with
  | none => exact .throw (quiet_unknown .filter hname)
  | some f =>
      exact (hargs.call .filter hname).bind fun args hargs =>
        (HonestRun.ofExcept (h.engine.filter hf v args hv hargs)).call .filter hname

theorem unticked_joinedOutline {parts : List Operand}
    (h : AllPlain captures (writesOfParts parts)) : Unticked (joinedOutline parts) := by
  unfold joinedOutline
  refine unticked_intercalate (by decide) fun text htext => ?_
  induction parts with
  | nil => exact absurd htext List.not_mem_nil
  | cons part parts ih =>
      rw [writesOfParts, allPlain_append] at h
      rcases List.mem_cons.mp htext with rfl | htext
      · dsimp only
        split
        · next s =>
          have hs : Unticked s := h.1 (.tag s) (List.mem_singleton.mpr rfl)
          exact unticked_between (by decide) hs (by decide)
        · next path =>
          have hpath : IsNamed path := h.1 (.path path) (List.mem_singleton.mpr rfl)
          exact hpath.1
        · decide
      · exact ih h.2 htext

/-! ## Expressions -/

-- the induction is on the syntax; what a call of a definition does lies in the bodies that
-- the stage knows, which are honest by assumption
mutual

theorem Expr.honest_value (h : stage.Plain captures) : ∀ e : Expr, AllPlain captures e.writes →
    HonestRun stage.template stage.context Value.Plain (e.value stage)
  | .mk operand negated filters, hwrites => by
      rw [Expr.writes, allPlain_append] at hwrites
      exact honest_value_of_parts h hwrites.1 (operand.honest_base h negated hwrites.1)
        (honest_defaultOf h filters hwrites.2)
        (honest_applyFilters h filters hwrites.2)

theorem Expr.honest_truth (h : stage.Plain captures) : ∀ e : Expr, AllPlain captures e.writes →
    HonestRun stage.template stage.context (fun _ => True) (e.truth stage)
  | .mk operand negated filters, hwrites => by
      rw [Expr.writes, allPlain_append] at hwrites
      cases operand with
      | name path =>
          rw [Operand.writes, allPlain_cons] at hwrites
          rw [Expr.truth]
          -- any failure is an answer here
          exact .read fun s hs => (honest_settle hs
            (meets_lookup h hs.frames hwrites.1.1) (honest_defaultOf h filters hwrites.2)
            (honest_applyFilters h filters hwrites.2)).outcome.bind fun _ _ => .pure trivial
      | concat parts =>
          rw [Operand.writes] at hwrites
          rw [Expr.truth]
          refine (honest_joinParts h parts hwrites.1).bind fun s hs => ?_
          refine (honest_applyFilters h filters hwrites.2 _ (.text hs)).bind fun v _ => ?_
          split
          · exact .pure trivial
          · exact .throw (Fault.quiet_of_unticked (by decide))
      | _ =>
          rw [truth_of_operand (by simp) (by simp)]
          exact Operand.honest_truth h _ negated hwrites.1

theorem Expr.honest_number (h : stage.Plain captures) : ∀ e : Expr, AllPlain captures e.writes →
    HonestRun stage.template stage.context PlainNumber (e.number stage)
  | .mk operand negated [], hwrites => by
      rw [Expr.writes, allPlain_append] at hwrites
      rw [number_of_operand]
      exact operand.honest_number h hwrites.1
  | .mk operand negated (call :: calls), hwrites => by
      rw [Expr.writes, allPlain_append] at hwrites
      rw [number_of_filters]
      refine (honest_value_of_parts h hwrites.1 (operand.honest_base h negated hwrites.1)
        (honest_defaultOf h (call :: calls) hwrites.2)
        (honest_applyFilters h (call :: calls) hwrites.2)).bind fun v hv => ?_
      split
      · exact .pure (plainNumber_some hv)
      · exact .throw (Fault.quiet_of_unticked (by decide))

theorem Operand.honest_base (h : stage.Plain captures) : ∀ (operand : Operand) (negated : Bool),
    AllPlain captures operand.writes →
    HonestRun stage.template stage.context Value.Plain (operand.base stage negated)
  | .text s, _, hwrites => by
      have hs : Unticked s := hwrites (.tag s) (List.mem_singleton.mpr rfl)
      exact .pure (.text hs)
  | .int n, _, _ => .pure (.int n)
  | .float x, _, _ => .pure (.float x)
  | .bool b, _, _ => .pure (.bool b)
  | .name path, _, hwrites => by
      rw [Operand.writes, allPlain_cons] at hwrites
      rw [Operand.base]
      exact honest_find h hwrites.1
  | .math op left right, _, hwrites => by
      rw [Operand.writes, allPlain_append] at hwrites
      rw [Operand.base]
      refine (honest_applyMath op (left.unticked_detail hwrites.1) (right.unticked_detail hwrites.2)
        (left.honest_number h hwrites.1) (right.honest_number h hwrites.2)).bare.bind fun n hn => ?_
      cases n with
      | some v => exact .pure (hn v rfl)
      | none => exact .pure (.text (by decide))
  | .logic op left right, negated, hwrites => by
      rw [Operand.writes, allPlain_append] at hwrites
      rw [Operand.base]
      exact (honest_decideLogic (left.honest_truth h hwrites.1) (right.honest_truth h hwrites.2)
        (left.honest_number h hwrites.1) (right.honest_number h hwrites.2)
        (left.honest_value h hwrites.1) (right.honest_value h hwrites.2)).bind
          fun b _ => .pure (.bool b)
  | .member absent item container, _, hwrites => by
      rw [Operand.writes, allPlain_append] at hwrites
      rw [Operand.base]
      exact (item.honest_value h hwrites.1).bind fun v hv =>
        (container.honest_value h hwrites.2).bind fun _ _ =>
          (HonestRun.ofExcept (meets_holds hv)).bind fun _ _ => .pure (.bool _)
  | .test path absent name args, _, hwrites => by
      rw [Operand.writes, allPlain_cons, allPlain_cons] at hwrites
      rw [Operand.base]
      exact (honest_asks h hwrites.1 hwrites.2.1 (honest_valuesOf h args hwrites.2.2)).bind
        fun _ _ => .pure (.bool _)
  | .call (.mk name args), _, hwrites => by
      rw [Operand.writes, Call.writes, allPlain_cons] at hwrites
      rw [Operand.base]
      exact honest_callValue hwrites.1 (honest_argValues h args hwrites.2)
  | .expand space name args, _, hwrites => by
      rw [Operand.writes, allPlain_cons, allPlain_cons, allPlain_cons] at hwrites
      rw [Operand.base]
      exact (honest_expandDefinition h hwrites.1 hwrites.2.1 hwrites.2.2.1
        (honest_argsOf h args hwrites.2.2.2)).bind fun _ htext => .pure (.text htext)
  | .list items, _, hwrites => by
      rw [Operand.writes] at hwrites
      rw [Operand.base]
      exact (honest_valuesOf h items hwrites).bind fun _ hitems => .pure (.list hitems)
  | .concat parts, _, hwrites => by
      rw [Operand.writes] at hwrites
      rw [Operand.base]
      exact (honest_joinParts h parts hwrites).bind fun _ htext => .pure (.text htext)

theorem Operand.honest_truth (h : stage.Plain captures) : ∀ (operand : Operand) (negated : Bool),
    AllPlain captures operand.writes →
    HonestRun stage.template stage.context (fun _ => True) (operand.truth stage negated)
  | .text _, _, _ | .int _, _, _ | .float _, _, _ | .bool _, _, _ => .pure trivial
  | .math op left right, _, hwrites => by
      rw [Operand.writes, allPlain_append] at hwrites
      rw [Operand.truth]
      refine (honest_applyMath op (left.unticked_detail hwrites.1) (right.unticked_detail hwrites.2)
        (left.honest_number h hwrites.1) (right.honest_number h hwrites.2)).bind fun n _ => ?_
      split <;> exact .pure trivial
  | .logic op left right, negated, hwrites => by
      rw [Operand.writes, allPlain_append] at hwrites
      rw [Operand.truth]
      exact honest_decideLogic (left.honest_truth h hwrites.1) (right.honest_truth h hwrites.2)
        (left.honest_number h hwrites.1) (right.honest_number h hwrites.2)
        (left.honest_value h hwrites.1) (right.honest_value h hwrites.2)
  | .member absent item container, _, hwrites => by
      rw [Operand.writes, allPlain_append] at hwrites
      rw [Operand.truth]
      exact (item.honest_value h hwrites.1).bind fun v hv =>
        (container.honest_value h hwrites.2).bind fun _ _ =>
          (HonestRun.ofExcept (meets_holds hv)).bind fun _ _ => .pure trivial
  | .test path absent name args, _, hwrites => by
      rw [Operand.writes, allPlain_cons, allPlain_cons] at hwrites
      rw [Operand.truth]
      exact (honest_asks h hwrites.1 hwrites.2.1 (honest_valuesOf h args hwrites.2.2)).bind
        fun _ _ => .pure trivial
  | .call (.mk name args), _, hwrites => by
      rw [Operand.writes, Call.writes, allPlain_cons] at hwrites
      have hname : Unticked name := hwrites.1
      rw [Operand.truth]
      refine (honest_callValue hwrites.1 (honest_argValues h args hwrites.2)).bind fun v _ => ?_
      split
      · exact .pure trivial
      · exact .throw (Fault.quiet_other (silent_wording [.words "Function \x60", .quoted,
          .words "\x60 was used in a logic operation but is not returning a bool"] [name]
          (by decide) ⟨hname, rfl⟩))
  | .expand space name args, _, hwrites => by
      rw [Operand.writes, allPlain_cons, allPlain_cons, allPlain_cons] at hwrites
      rw [Operand.truth]
      exact (honest_expandDefinition h hwrites.1 hwrites.2.1 hwrites.2.2.1
        (honest_argsOf h args hwrites.2.2.2)).bind fun _ _ => .pure trivial
  | .name _, _, _ | .list _, _, _ | .concat _, _, _ =>
      .throw (Fault.quiet_of_unticked (by decide))

theorem Operand.honest_number (h : stage.Plain captures) : ∀ operand : Operand,
    AllPlain captures operand.writes →
    HonestRun stage.template stage.context PlainNumber (operand.number stage)
  | .int n, _ => .pure (plainNumber_some (.int n))
  | .float x, _ => .pure (plainNumber_some (.float x))
  | .name path, hwrites => by
      rw [Operand.writes, allPlain_cons] at hwrites
      have hpath : IsNamed path := hwrites.1
      rw [Operand.number]
      exact (honest_find h hpath).bind fun v hv => honest_numberOrFail
        (silent_wording [.words "Variable \x60", .quoted, .words "\x60",
          .words " was used in a math operation but is not a number"] [path] (by decide)
          ⟨hpath.1, rfl⟩) hv
  | .math op left right, hwrites => by
      rw [Operand.writes, allPlain_append] at hwrites
      rw [Operand.number]
      exact honest_applyMath op (left.unticked_detail hwrites.1) (right.unticked_detail hwrites.2)
        (left.honest_number h hwrites.1) (right.honest_number h hwrites.2)
  | .call (.mk name args), hwrites => by
      rw [Operand.writes, Call.writes, allPlain_cons] at hwrites
      have hname : Unticked name := hwrites.1
      rw [Operand.number]
      exact (honest_callValue hwrites.1 (honest_argValues h args hwrites.2)).bind fun v hv =>
        honest_numberOrFail (silent_wording [.words "Function \x60", .quoted, .words "\x60",
          .words " was used in a math operation but is not a number"] [name] (by decide)
          ⟨hname, rfl⟩) hv
  | .text s, hwrites => by
      have hs : Unticked s := hwrites (.tag s) (List.mem_singleton.mpr rfl)
      exact .throw (Fault.quiet_other (silent_wording
        [.words "Tried to do math with a string: \x60", .quoted, .words "\x60"] [s]
        (by decide) ⟨hs, rfl⟩))
  | .bool _, _ => .throw (Fault.quiet_of_unticked (by decide))
  | .concat parts, hwrites => by
      rw [Operand.writes] at hwrites
      exact .throw (Fault.quiet_of_unticked
        (unticked_append.mpr ⟨by decide, unticked_joinedOutline hwrites⟩))
  | .test path _ name args, hwrites => by
      rw [Operand.writes, allPlain_cons, allPlain_cons] at hwrites
      exact .throw (Fault.quiet_of_unticked (unticked_append.mpr ⟨by decide, hwrites.2.1⟩))
  | .logic _ _ _, _ | .member _ _ _, _ | .expand _ _ _, _ | .list _, _ =>
      .throw (Fault.quiet_of_unticked (by decide))

theorem honest_defaultOf (h : stage.Plain captures) : ∀ filters : List Call,
    AllPlain captures (writesOfCalls filters) →
    ∀ d ∈ defaultOf stage filters, HonestRun stage.template stage.context Value.Plain d
  | [], _, _, hd => absurd hd (by simp [defaultOf])
  | .mk name args :: _, hwrites, d, hd => by
      rw [writesOfCalls, Call.writes, allPlain_append, allPlain_cons] at hwrites
      rw [defaultOf] at hd
      split at hd
      · obtain rfl := Option.some.inj hd
        exact honest_argNamed h args hwrites.1.2
      · exact absurd hd nofun

theorem honest_applyFilters (h : stage.Plain captures) : ∀ calls : List Call,
    AllPlain captures (writesOfCalls calls) → ∀ v : Value, v.Plain →
    HonestRun stage.template stage.context Value.Plain (applyFilters stage v calls)
  | [], _, v, hv => by
      rw [applyFilters]
      exact .pure hv
  | .mk name args :: calls, hwrites, v, hv => by
      rw [writesOfCalls, Call.writes, allPlain_append, allPlain_cons] at hwrites
      rw [applyFilters]
      split
      · exact honest_applyFilters h calls hwrites.2 v hv
      · exact (honest_apply h hwrites.1.1 (honest_argValues h args hwrites.1.2) hv).bind
          fun v hv => honest_applyFilters h calls hwrites.2 v hv

theorem honest_valuesOf (h : stage.Plain captures) : ∀ items : List Expr,
    AllPlain captures (writesOfItems items) →
    HonestRun stage.template stage.context (fun values => ∀ v ∈ values, v.Plain)
      (valuesOf stage items)
  | [], _ => .pure (List.forall_mem_nil _)
  | item :: items, hwrites => by
      rw [writesOfItems, allPlain_append] at hwrites
      rw [valuesOf]
      exact (item.honest_value h hwrites.1).bind fun v hv =>
        (honest_valuesOf h items hwrites.2).bind fun values hvalues =>
          .pure (List.forall_mem_cons.mpr ⟨hv, hvalues⟩)

theorem honest_joinParts (h : stage.Plain captures) : ∀ parts : List Operand,
    AllPlain captures (writesOfParts parts) →
    HonestRun stage.template stage.context Unticked (joinParts stage parts)
  | [], _ => .pure unticked_empty
  | part :: parts, hwrites => by
      rw [writesOfParts, allPlain_append] at hwrites
      have hrest : ∀ s : String, Unticked s → HonestRun stage.template stage.context Unticked
          (do return s ++ (← joinParts stage parts)) := fun s hs =>
        (honest_joinParts h parts hwrites.2).bind fun _ hmore =>
          .pure (unticked_append.mpr ⟨hs, hmore⟩)
      have hpart := hwrites.1
      rw [joinParts.eq_def stage]
      cases part with
      | text s =>
          have hs : Unticked s := hpart (.tag s) (List.mem_singleton.mpr rfl)
          exact (HonestRun.pure hs).bind hrest
      | int n => exact (HonestRun.pure (unticked_toString_int n)).bind hrest
      | float x => exact (HonestRun.pure (unticked_positional x)).bind hrest
      | name path =>
          rw [Operand.writes, allPlain_cons] at hpart
          have hpath : IsNamed path := hpart.1
          exact (honest_find h hpath).bind fun v hv =>
            (honest_joinedText (unticked_append.mpr ⟨by decide, hpath.1⟩) hv).bind hrest
      | call call =>
          obtain ⟨name, args⟩ := call
          rw [Operand.writes, Call.writes, allPlain_cons] at hpart
          have hname : Unticked name := hpart.1
          exact (honest_callValue hpart.1 (honest_argValues h args hpart.2)).bind fun v hv =>
            (honest_joinedText (unticked_append.mpr ⟨by decide, hname⟩) hv).bind hrest
      | _ => exact (HonestRun.throw (Fault.quiet_of_unticked (by decide))).bind hrest

theorem honest_argValues (h : stage.Plain captures) : ∀ args : List (String × Expr),
    AllPlain captures (writesOfArgs args) →
    HonestRun stage.template stage.context PlainEntries (argValues stage args)
  | [], _ => .pure (List.forall_mem_nil _)
  | (name, value) :: args, hwrites => by
      rw [writesOfArgs, allPlain_cons, allPlain_append] at hwrites
      rw [argValues]
      exact (value.honest_value h hwrites.2.1).bind fun v hv =>
        (honest_argValues h args hwrites.2.2).bind fun more hmore =>
          .pure (List.forall_mem_cons.mpr ⟨⟨hwrites.1, hv⟩, hmore⟩)

theorem honest_argsOf (h : stage.Plain captures) : ∀ args : List (String × Expr),
    AllPlain captures (writesOfArgs args) → ∀ arg ∈ argsOf stage args,
      HonestRun stage.template stage.context Value.Plain arg.2
  | [], _ => List.forall_mem_nil _
  | (name, value) :: args, hwrites => by
      rw [writesOfArgs, allPlain_cons, allPlain_append] at hwrites
      rw [argsOf]
      exact List.forall_mem_cons.mpr
        ⟨value.honest_value h hwrites.2.1, honest_argsOf h args hwrites.2.2⟩

theorem honest_argNamed (h : stage.Plain captures) : ∀ args : List (String × Expr),
    AllPlain captures (writesOfArgs args) →
    HonestRun stage.template stage.context Value.Plain (argNamed stage "value" args)
  | [], _ => .throw (Fault.quiet_other (silent_wording
      [.words "The \x60default\x60 filter requires a \x60", .words "value",
        .words "\x60 argument."] [] (by decide) rfl))
  | (name, value) :: args, hwrites => by
      rw [writesOfArgs, allPlain_cons, allPlain_append] at hwrites
      rw [argNamed]
      split
      · exact value.honest_value h hwrites.2.1
      · exact honest_argNamed h args hwrites.2.2

end

end

end Scaffold.Template
