import Scaffold.Proofs.Template.Extension
import Scaffold.Template.Compiled

/-!
# Effects of evaluation

A property of computations that every step of evaluation keeps is a property of every
expression. The survey of an expression says what effects it can have: only the expansion of
a definition changes the frames, and only a few functions ask the surroundings. So an
expression that does neither leaves the situation as it is, and a template that asks nothing
is rendered alike in all surroundings.
-/

namespace Scaffold.Template

variable {α β : Type}

/-! ## Properties that evaluation keeps -/

/-- A property of computations that the steps of evaluation keep. -/
structure Kept (Φ : ∀ α : Type, Eval α → Prop) : Prop where
  ofExcept : ∀ {α : Type} (r : Except Fault α), Φ α (Eval.ofExcept r)
  frames : Φ (List Frame) Eval.frames
  bind : ∀ {α β : Type} {m : Eval α} {k : α → Eval β}, Φ α m → (∀ a, Φ β (k a)) → Φ β (m >>= k)
  mapFault : ∀ {α : Type} {m : Eval α} (f : Fault → Fault), Φ α m → Φ α (m.mapFault f)
  outcome : ∀ {α : Type} {m : Eval α}, Φ α m → Φ (Except Fault α) m.outcome

/-- A property that calls and expansions keep too, on a stage and in parts of which `P`
holds. -/
structure KeptOn (stage : Stage) (P : Survey → Prop) (Φ : ∀ α : Type, Eval α → Prop) : Prop
    extends Kept Φ where
  invoke : ∀ {name : String} {f : Args → Eval Value}, P (.ofFunction name) →
    invoke? name = some f → ∀ args, Φ Value (f args)
  expand : ∀ {space name : String} {args : List (String × Eval Value)},
    P (.ofExpansion name) → (∀ param m, args.lookup param = some m → Φ Value m) →
      Φ String (expandDefinition stage space name args)

namespace Kept

variable {Φ : ∀ α : Type, Eval α → Prop} (h : Kept Φ)

include h

theorem pure (a : α) : Φ α (Pure.pure a) := h.ofExcept (.ok a)

theorem throw (fault : Fault) : Φ α (throw fault) := h.ofExcept (.error fault)

theorem find (stage : Stage) (path : String) : Φ Value (stage.find path) :=
  h.bind h.frames fun _ => h.ofExcept _

theorem numberOrFail (place : String) (v : Value) :
    Φ (Option Value) (Template.numberOrFail place v) := by
  unfold Template.numberOrFail
  split
  · exact h.pure _
  · exact h.throw _

theorem applyMath (op : MathOp) (left right : Expr) {a b : NumberEval} (ha : Φ _ a) (hb : Φ _ b) :
    Φ (Option Value) (Template.applyMath op left right a b) := by
  refine h.bind ha fun x => h.bind hb fun y => ?_
  split
  · exact h.ofExcept _
  · exact h.pure _

theorem compareNumbers (op : LogicOp) {a b : NumberEval} (ha : Φ _ a) (hb : Φ _ b) :
    Φ Bool (Template.compareNumbers op a b) := by
  refine h.bind ha fun x => h.bind hb fun y => ?_
  split
  · split <;> exact h.pure _
  · exact h.throw _

theorem decideLogic (op : LogicOp) (negated : Bool) {leftTruth rightTruth : Eval Bool}
    {leftNumber rightNumber : NumberEval} {leftValue rightValue : Eval Value}
    (hleft : Φ _ leftValue ∧ Φ _ leftTruth ∧ Φ _ leftNumber)
    (hright : Φ _ rightValue ∧ Φ _ rightTruth ∧ Φ _ rightNumber) :
    Φ Bool (Template.decideLogic op negated leftTruth rightTruth leftNumber rightNumber leftValue
      rightValue) := by
  obtain ⟨hleftValue, hleftTruth, hleftNumber⟩ := hleft
  obtain ⟨hrightValue, hrightTruth, hrightNumber⟩ := hright
  cases op with
  | or | and =>
      refine h.bind hleftTruth fun b => ?_
      cases b
      all_goals first | exact h.pure _ | exact h.bind hrightTruth fun _ => h.pure _
  | eq | ne => exact h.bind hleftValue fun _ => h.bind hrightValue fun _ => h.pure _
  | lt | le | gt | ge =>
      exact h.bind (h.compareNumbers _ hleftNumber hrightNumber) fun _ => h.pure _

theorem settle (negated : Bool) (found : Except Fault Value) {default : Option (Eval Value)}
    {filters : Value → Eval Value} (hdefault : ∀ m, default = some m → Φ _ m)
    (hfilters : ∀ v, Φ _ (filters v)) :
    Φ Value (Template.settle negated found default filters) := by
  unfold Template.settle
  split
  · exact h.bind (hdefault _ rfl) fun v => h.bind (hfilters v) fun _ => h.pure _
  · exact h.bind (hfilters _) fun _ => h.pure _
  · exact h.bind (hdefault _ rfl) fun v => h.bind (hfilters v) fun _ => h.pure _
  · split
    · exact h.pure _
    · exact h.throw _

theorem asks (stage : Stage) (path name : String) {args : Eval (List Value)} (hargs : Φ _ args) :
    Φ Bool (Template.asks stage path name args) :=
  h.bind (h.ofExcept _) fun _ => h.bind (h.mapFault _ hargs) fun _ =>
    h.bind h.frames fun _ => h.mapFault _ (h.ofExcept _)

theorem joinedText (place : String) (v : Value) : Φ String (Template.joinedText place v) := by
  unfold Template.joinedText
  split
  · exact h.pure _
  · exact h.pure _
  · exact h.pure _
  · exact h.throw _

theorem bindParams (name : String) {args : List (String × Eval Value)}
    (hargs : ∀ param m, args.lookup param = some m → Φ Value m)
    (params : List (String × Option Operand)) :
    Φ (List (String × Value)) (Template.bindParams name args params) := by
  induction params with
  | nil => exact h.pure []
  | cons head params ih =>
      obtain ⟨param, default⟩ := head
      unfold Template.bindParams
      have hrest : ∀ v : Value, Φ (List (String × Value))
          (do return (param, v) :: (← Template.bindParams name args params)) :=
        fun v => h.bind ih fun _ => h.pure _
      cases harg : args.lookup param with
      | some m => exact h.bind (hargs param m harg) hrest
      | none =>
          cases default with
          | none => exact h.bind (h.throw _) hrest
          | some operand =>
              cases operand
              case text | int | float | bool => exact h.bind (h.pure _) hrest
              all_goals exact h.bind (h.throw _) hrest

end Kept

namespace KeptOn

variable {stage : Stage} {P : Survey → Prop} {Φ : ∀ α : Type, Eval α → Prop}

section

variable (h : KeptOn stage P Φ)

include h

theorem callValue {name : String} {args : List (String × Expr)} (hname : P (.ofFunction name))
    (hargs : Φ _ (argValues stage args)) : Φ Value ((Call.mk name args).value stage) := by
  rw [Call.value]
  split
  · exact h.throw _
  · next f hf =>
      exact h.bind (h.mapFault _ hargs) fun args => h.mapFault _ (h.invoke hname hf args)

theorem apply {name : String} {args : List (String × Expr)} (hargs : Φ _ (argValues stage args))
    (v : Value) : Φ Value ((Call.mk name args).apply stage v) := by
  rw [Call.apply]
  split
  · exact h.throw _
  · exact h.bind (h.mapFault _ hargs) fun _ => h.mapFault _ (h.ofExcept _)

/-- The value of an expression, which a named path takes from the frames. -/
theorem value_of_parts {operand : Operand} {negated : Bool} {filters : List Call}
    (hbase : Φ _ (operand.base stage negated))
    (hdefault : ∀ m, defaultOf stage filters = some m → Φ _ m)
    (hfilters : ∀ v, Φ _ (applyFilters stage v filters)) :
    Φ Value ((Expr.mk operand negated filters).value stage) := by
  by_cases hpath : ∃ path, operand = .name path
  · obtain ⟨path, rfl⟩ := hpath
    rw [Expr.value]
    exact h.bind h.frames fun _ => h.settle _ _ hdefault hfilters
  · rw [value_of_operand fun path he => hpath ⟨path, he⟩]
    exact h.bind hbase fun v => h.bind (hfilters v) fun _ => h.pure _

end

/-- What is true of an expression is true of its parts. -/
theorem of_parts (hP : Survey.Hereditary P) {operand : Operand} {negated tested scanned : Bool}
    {filters : List Call} (hexpr : P ((Expr.mk operand negated filters).survey tested scanned)) :
    ((∀ path, operand ≠ .name path) → P (operand.survey scanned)) ∧ P (surveyOfCalls filters) := by
  by_cases hpath : ∃ path, operand = .name path
  · obtain ⟨path, rfl⟩ := hpath
    refine ⟨fun hne => absurd rfl (hne path), ?_⟩
    rw [Expr.survey] at hexpr
    cases tested with
    | true => exact hP.hidden (hP.right hexpr)
    | false => exact hP.right hexpr
  · rw [survey_of_operand fun path he => hpath ⟨path, he⟩] at hexpr
    exact ⟨fun _ => hP.left hexpr, hP.right hexpr⟩

-- the three ways to ask for an expression call each other, so they are taken together
mutual

/-- Whatever an expression is asked for, the answer has the property. -/
theorem expr (h : KeptOn stage P Φ) (hP : Survey.Hereditary P) :
    ∀ (e : Expr) {tested scanned : Bool}, P (e.survey tested scanned) →
      Φ _ (e.value stage) ∧ Φ _ (e.truth stage) ∧ Φ _ (e.number stage)
  | .mk operand negated filters, _, _, hexpr => by
      obtain ⟨hoperand, hcalls⟩ := of_parts hP hexpr
      have hparts : Φ _ (operand.base stage negated) ∧ Φ _ (operand.truth stage negated) ∧
          Φ _ (operand.number stage) := by
        by_cases hpath : ∃ path, operand = .name path
        · obtain ⟨path, rfl⟩ := hpath
          rw [Operand.base, Operand.truth, Operand.number]
          exact ⟨h.find stage path, h.throw _,
            h.bind (h.find stage path) fun v => h.numberOrFail _ v⟩
        · have hother : ∀ path, operand ≠ .name path := fun path he => hpath ⟨path, he⟩
          exact operand_of h hP operand hother (hoperand hother) negated
      obtain ⟨hbase, htruth, hnumber⟩ := hparts
      have hfilters := filters_of h hP filters hcalls
      have hdefault := default_of h hP filters hcalls
      have hvalue := h.value_of_parts hbase hdefault hfilters
      refine ⟨hvalue, ?_, ?_⟩
      · cases operand with
        | name path =>
            rw [Expr.truth]
            exact h.bind h.frames fun _ =>
              h.bind (h.outcome (h.settle _ _ hdefault hfilters)) fun _ => h.pure _
        | concat parts =>
            rw [Expr.truth]
            refine h.bind (joinParts h hP parts (hoperand (by simp))) fun s =>
              h.bind (hfilters _) fun v => ?_
            split
            · exact h.pure _
            · exact h.throw _
        | _ =>
            rw [truth_of_operand (by simp) (by simp)]
            exact htruth
      · cases filters with
        | nil =>
            rw [number_of_operand]
            exact hnumber
        | cons call calls =>
            rw [number_of_filters]
            refine h.bind hvalue fun v => ?_
            split
            · exact h.pure _
            · exact h.throw _

theorem operand_of (h : KeptOn stage P Φ) (hP : Survey.Hereditary P) :
    ∀ (operand : Operand) {scanned : Bool}, (∀ path, operand ≠ .name path) →
      P (operand.survey scanned) → ∀ negated : Bool,
      Φ _ (operand.base stage negated) ∧ Φ _ (operand.truth stage negated) ∧
        Φ _ (operand.number stage)
  | .math op left right, _, _, hsurvey, _ => by
      rw [Operand.survey] at hsurvey
      rw [Operand.base, Operand.truth, Operand.number]
      have hmath := h.applyMath op left right (expr h hP left (hP.left hsurvey)).2.2
        (expr h hP right (hP.right hsurvey)).2.2
      refine ⟨h.bind (h.mapFault _ hmath) fun v => ?_, h.bind hmath fun v => ?_, hmath⟩
      · cases v <;> exact h.pure _
      · split <;> exact h.pure _
  | .logic op left right, _, _, hsurvey, negated => by
      rw [Operand.survey] at hsurvey
      rw [Operand.base, Operand.truth, Operand.number]
      have hlogic := h.decideLogic op negated (expr h hP left (hP.left hsurvey))
        (expr h hP right (hP.right hsurvey))
      exact ⟨h.bind hlogic fun _ => h.pure _, hlogic, h.throw _⟩
  | .member _ item container, _, _, hsurvey, _ => by
      rw [Operand.survey] at hsurvey
      rw [Operand.base, Operand.truth, Operand.number]
      have hitem := (expr h hP item (hP.left hsurvey)).1
      have hcontainer := (expr h hP container (hP.right hsurvey)).1
      exact ⟨h.bind hitem fun _ => h.bind hcontainer fun _ => h.bind (h.ofExcept _)
          fun _ => h.pure _,
        h.bind hitem fun _ => h.bind hcontainer fun _ => h.bind (h.ofExcept _)
          fun _ => h.pure _, h.throw _⟩
  | .test path _ name args, _, _, hsurvey, _ => by
      rw [Operand.survey] at hsurvey
      rw [Operand.base, Operand.truth, Operand.number]
      have hasks := h.asks stage path name (valuesOf h hP args (hP.right hsurvey))
      exact ⟨h.bind hasks fun _ => h.pure _, h.bind hasks fun _ => h.pure _, h.throw _⟩
  | .call (.mk name args), _, _, hsurvey, _ => by
      rw [Operand.survey] at hsurvey
      rw [Operand.base, Operand.truth, Operand.number]
      have hcall := h.callValue (hP.left hsurvey) (argValues h hP args (hP.right hsurvey))
      refine ⟨hcall, h.bind hcall fun v => ?_, h.bind hcall fun v => h.numberOrFail _ v⟩
      split
      · exact h.pure _
      · exact h.throw _
  | .expand space name args, _, _, hsurvey, _ => by
      rw [Operand.survey] at hsurvey
      rw [Operand.base, Operand.truth, Operand.number]
      have hexpand : Φ String (expandDefinition stage space name (Template.argsOf stage args)) :=
        h.expand (hP.left hsurvey) (argsOf h hP args (hP.right hsurvey))
      exact ⟨h.bind hexpand fun _ => h.pure _, h.bind hexpand fun _ => h.pure _, h.throw _⟩
  | .list items, _, _, hsurvey, _ => by
      rw [Operand.survey] at hsurvey
      rw [Operand.base, Operand.truth, Operand.number]
      exact ⟨h.bind (valuesOf h hP items hsurvey) fun _ => h.pure _, h.throw _, h.throw _⟩
  | .concat parts, _, _, hsurvey, _ => by
      rw [Operand.survey] at hsurvey
      rw [Operand.base, Operand.truth, Operand.number]
      exact ⟨h.bind (joinParts h hP parts hsurvey) fun _ => h.pure _, h.throw _, h.throw _⟩
  | .name path, _, hother, _, _ => absurd rfl (hother path)
  | .text _, _, _, _, _ | .bool _, _, _, _, _ => by
      rw [Operand.base, Operand.truth, Operand.number]
      exact ⟨h.pure _, h.pure _, h.throw _⟩
  | .int _, _, _, _, _ | .float _, _, _, _, _ => by
      rw [Operand.base, Operand.truth, Operand.number]
      exact ⟨h.pure _, h.pure _, h.pure _⟩

theorem filters_of (h : KeptOn stage P Φ) (hP : Survey.Hereditary P) : ∀ (calls : List Call),
    P (surveyOfCalls calls) → ∀ v, Φ _ (applyFilters stage v calls)
  | [], _, v => by
      rw [applyFilters]
      exact h.pure _
  | .mk name args :: calls, hcalls, v => by
      rw [surveyOfCalls] at hcalls
      rw [applyFilters]
      split
      · exact filters_of h hP calls (hP.right hcalls) v
      · exact h.bind (h.apply (argValues h hP args (hP.right (hP.left hcalls))) v) fun v =>
          filters_of h hP calls (hP.right hcalls) v

theorem default_of (h : KeptOn stage P Φ) (hP : Survey.Hereditary P) : ∀ (calls : List Call),
    P (surveyOfCalls calls) → ∀ m, defaultOf stage calls = some m → Φ _ m
  | [], _, _, hm => by
      rw [defaultOf] at hm
      exact absurd hm (by simp)
  | .mk name args :: calls, hcalls, m, hm => by
      rw [surveyOfCalls] at hcalls
      rw [defaultOf] at hm
      split at hm
      · obtain rfl := Option.some.inj hm
        exact argNamed h hP "value" args (hP.right (hP.left hcalls))
      · exact absurd hm (by simp)

theorem valuesOf (h : KeptOn stage P Φ) (hP : Survey.Hereditary P) :
    ∀ (items : List Expr) {scanned : Bool}, P (surveyOfItems scanned items) →
      Φ _ (Template.valuesOf stage items)
  | [], _, _ => by
      rw [Template.valuesOf]
      exact h.pure _
  | item :: items, _, hitems => by
      rw [surveyOfItems] at hitems
      rw [Template.valuesOf]
      exact h.bind (expr h hP item (hP.left hitems)).1 fun _ =>
        h.bind (valuesOf h hP items (hP.right hitems)) fun _ => h.pure _

theorem joinParts (h : KeptOn stage P Φ) (hP : Survey.Hereditary P) :
    ∀ (parts : List Operand) {scanned : Bool}, P (surveyOfParts scanned parts) →
      Φ _ (Template.joinParts stage parts)
  | [], _, _ => by
      rw [Template.joinParts]
      exact h.pure _
  | part :: parts, _, hparts => by
      rw [surveyOfParts] at hparts
      have hrest : ∀ s : String, Φ String (do return s ++ (← Template.joinParts stage parts)) :=
        fun s => h.bind (joinParts h hP parts (hP.right hparts)) fun _ => h.pure _
      have hpart := hP.left hparts
      rw [joinParts.eq_def]
      cases part with
      | name path => exact h.bind (h.find stage path) fun v => h.bind (h.joinedText _ v) hrest
      | call call =>
          obtain ⟨name, args⟩ := call
          rw [Operand.survey] at hpart
          exact h.bind (h.callValue (hP.left hpart) (argValues h hP args (hP.right hpart)))
            fun v => h.bind (h.joinedText _ v) hrest
      | text | int | float => exact h.bind (h.pure _) hrest
      | _ => exact h.bind (h.throw _) hrest

theorem argValues (h : KeptOn stage P Φ) (hP : Survey.Hereditary P) :
    ∀ (args : List (String × Expr)) {scanned : Bool}, P (surveyOfArgs scanned args) →
      Φ _ (Template.argValues stage args)
  | [], _, _ => by
      rw [Template.argValues]
      exact h.pure _
  | (_, e) :: args, _, hargs => by
      rw [surveyOfArgs] at hargs
      rw [Template.argValues]
      exact h.bind (expr h hP e (hP.left hargs)).1 fun _ =>
        h.bind (argValues h hP args (hP.right hargs)) fun _ => h.pure _

theorem argsOf (h : KeptOn stage P Φ) (hP : Survey.Hereditary P) :
    ∀ (args : List (String × Expr)) {scanned : Bool}, P (surveyOfArgs scanned args) →
      ∀ param m, (Template.argsOf stage args).lookup param = some m → Φ Value m
  | [], _, _, _, _, hm => by
      rw [Template.argsOf] at hm
      exact absurd hm (by simp)
  | (name, e) :: args, _, hargs, param, m, hm => by
      rw [surveyOfArgs] at hargs
      rw [Template.argsOf, List.lookup_cons] at hm
      split at hm
      · obtain rfl := Option.some.inj hm
        exact (expr h hP e (hP.left hargs)).1
      · exact argsOf h hP args (hP.right hargs) param m hm

theorem argNamed (h : KeptOn stage P Φ) (hP : Survey.Hereditary P) (wanted : String) :
    ∀ (args : List (String × Expr)) {scanned : Bool}, P (surveyOfArgs scanned args) →
      Φ _ (Template.argNamed stage wanted args)
  | [], _, _ => by
      rw [Template.argNamed]
      exact h.throw _
  | (name, e) :: args, _, hargs => by
      rw [surveyOfArgs] at hargs
      rw [Template.argNamed]
      split
      · exact (expr h hP e (hP.left hargs)).1
      · exact argNamed h hP wanted args (hP.right hargs)

end

end KeptOn

/-! ## Expressions without effects -/

/-- A computation that comes to an end and leaves the situation as it was, also when it
fails. -/
def Still (m : Eval α) : Prop := ∀ s, ∃ r, m.runOn s = some (r, s)

/-- A part that expands no definition and asks the surroundings nothing. -/
structure Survey.Effectless (s : Survey) : Prop where
  expandsNothing : s.expansions = []
  asksNothing : s.AsksNothing

theorem Survey.hereditary_effectless : Hereditary Effectless where
  left h := ⟨(List.append_eq_nil_iff.mp h.expandsNothing).1,
    h.asksNothing.left⟩
  right h := ⟨(List.append_eq_nil_iff.mp h.expandsNothing).2,
    h.asksNothing.right⟩
  hidden h := ⟨h.expandsNothing, h.asksNothing⟩

/-- A function that is not there for the surroundings computes its value. -/
theorem invoke_of_asksNothing {name : String} (h : (Survey.ofFunction name).AsksNothing)
    {f : Args → Eval Value} (hf : invoke? name = some f) (args : Args) :
    ∃ r, f args = Eval.ofExcept r := by
  have hname : Function.asking.contains name = false := by
    rw [← Bool.not_eq_true, List.contains_iff_mem]
    exact h name (List.mem_singleton.mpr rfl)
  unfold invoke? at hf
  split at hf
  · next g _ =>
      obtain rfl := Option.some.inj hf
      exact ⟨g args, rfl⟩
  · rw [hname] at hf
    exact absurd hf (by simp)

theorem Still.ofExcept (r : Except Fault α) : Still (Eval.ofExcept r) := fun _ => ⟨r, rfl⟩

theorem keptOn_still (stage : Stage) : KeptOn stage Survey.Effectless fun _ m => Still m where
  ofExcept := .ofExcept
  frames s := ⟨.ok s.frames, rfl⟩
  bind {_ _ m k} hm hk s := by
    rw [Eval.runOn_bind]
    obtain ⟨r, hr⟩ := hm s
    rw [hr]
    cases r with
    | ok a => exact hk a s
    | error fault => exact ⟨.error fault, rfl⟩
  mapFault {_ m} f hm s := by
    rw [Eval.runOn_mapFault]
    obtain ⟨r, hr⟩ := hm s
    exact ⟨r.mapError f, by rw [hr]; rfl⟩
  outcome {_ m} hm s := by
    rw [Eval.runOn_outcome]
    obtain ⟨r, hr⟩ := hm s
    exact ⟨.ok r, by rw [hr]; rfl⟩
  invoke hname hf args := by
    obtain ⟨r, hr⟩ := invoke_of_asksNothing hname.asksNothing hf args
    exact hr ▸ .ofExcept r
  expand hname _ := absurd hname.expandsNothing (List.cons_ne_nil _ [])

/-- An expression without effects leaves the situation as it is. -/
theorem Expr.still {stage : Stage} {e : Expr} {tested scanned : Bool}
    (h : (e.survey tested scanned).Effectless) : Still (e.value stage) :=
  ((keptOn_still stage).expr Survey.hereditary_effectless e h).1

/-! ## Templates that ask nothing -/

/-- A computation that goes alike in all surroundings and leaves them as they are. -/
def Deaf (m : Eval α) : Prop := ∀ (frames : List Frame) (world world' : World),
  m.runOn ⟨frames, world'⟩ = (m.runOn ⟨frames, world⟩).map fun (r, after) =>
    (r, ⟨after.frames, world'⟩)

namespace Deaf

theorem ofExcept (r : Except Fault α) : Deaf (Eval.ofExcept r) := fun _ _ _ => rfl

theorem pure (a : α) : Deaf (Pure.pure a) := .ofExcept (.ok a)

theorem throw (fault : Fault) : Deaf (throw fault : Eval α) := .ofExcept (.error fault)

theorem frames : Deaf Eval.frames := fun _ _ _ => rfl

theorem update (f : List Frame → List Frame) : Deaf (Eval.update f) := fun _ _ _ => rfl

theorem endless : Deaf (Eval.endless : Eval α) := fun _ _ _ => rfl

theorem bind {m : Eval α} {k : α → Eval β} (hm : Deaf m) (hk : ∀ a, Deaf (k a)) :
    Deaf (m >>= k) := by
  intro frames world world'
  rw [Eval.runOn_bind, Eval.runOn_bind, hm frames world world']
  match m.runOn ⟨frames, world⟩ with
  | some (.ok a, after) => exact hk a after.frames after.world world'
  | some (.error fault, after) => rfl
  | none => rfl

theorem mapFault {m : Eval α} (f : Fault → Fault) (hm : Deaf m) : Deaf (m.mapFault f) := by
  intro frames world world'
  rw [Eval.runOn_mapFault, Eval.runOn_mapFault, hm frames world world', Option.map_map,
    Option.map_map]
  rfl

theorem outcome {m : Eval α} (hm : Deaf m) : Deaf m.outcome := by
  intro frames world world'
  rw [Eval.runOn_outcome, Eval.runOn_outcome, hm frames world world', Option.map_map,
    Option.map_map]
  rfl

theorem change (fault : Fault) (f : List Frame → Option (List Frame)) :
    Deaf (Eval.change fault f) := by
  refine frames.bind fun before => ?_
  split
  · exact .update _
  · exact .throw _

end Deaf

/-- A stage on which the bodies that are reached by name ask nothing. -/
def Stage.IsDeaf (stage : Stage) : Prop :=
  ∀ body ∈ stage.tree.bodies, Deaf (stage.render body)

section

variable {stage : Stage}

theorem kept_deaf : Kept fun _ m => Deaf m := ⟨.ofExcept, .frames, .bind, .mapFault, .outcome⟩

theorem keptOn_deaf (h : stage.IsDeaf) : KeptOn stage Survey.AsksNothing fun _ m => Deaf m where
  toKept := kept_deaf
  invoke hname hf args := by
    obtain ⟨r, hr⟩ := invoke_of_asksNothing hname hf args
    exact hr ▸ .ofExcept r
  expand {space name args} _ hargs := by
    unfold expandDefinition
    cases hfound : findDefinition stage space name with
    | error fault => exact .throw fault
    | ok d =>
        have hbody := h d.body (body_mem_bodies hfound)
        exact (kept_deaf.bindParams name hargs _).bind fun _ => (Deaf.update _).bind fun _ =>
          hbody.bind fun _ => (Deaf.update _).bind fun _ => .pure _

theorem Expr.deaf (h : stage.IsDeaf) (e : Expr) {tested scanned : Bool}
    (hasks : (e.survey tested scanned).AsksNothing) :
    Deaf (e.value stage) ∧ Deaf (e.truth stage) := by
  obtain ⟨hvalue, htruth, -⟩ := (keptOn_deaf h).expr Survey.AsksNothing.hereditary e hasks
  exact ⟨hvalue, htruth⟩

theorem deaf_renderRounds {body : Eval String} (h : Deaf body) (rounds : Nat) :
    Deaf (renderRounds body rounds) := by
  induction rounds with
  | zero => exact .pure ""
  | succ rounds ih =>
      rw [renderRounds]
      refine h.bind fun text => Deaf.frames.bind fun frames => ?_
      split
      · exact .pure _
      · exact (Deaf.change _ _).bind fun _ => ih.bind fun _ => .pure _

theorem deaf_applySection (h : stage.IsDeaf) {filter : Call}
    (hasks : (surveyOfCalls [filter]).AsksNothing) (text : String) :
    Deaf (applySection stage filter text) := by
  obtain ⟨name, args⟩ := filter
  have hargs := (keptOn_deaf h).argValues Survey.AsksNothing.hereditary args
    hasks.left.right
  unfold applySection
  split
  · exact .pure _
  · exact ((keptOn_deaf h).apply hargs _).bind fun _ => .pure _

theorem deaf_loop {key : Option String} {item : String} {container : Expr} {body : List Node}
    {otherwise : Option (List Node)} (hcontainer : Deaf (container.value stage))
    (hbody : Deaf (renderNodes stage body))
    (hotherwise : ∀ last, otherwise = some last → Deaf (renderNodes stage last)) :
    Deaf ((Node.loop key item container body otherwise).render stage) := by
  rw [Node.render.eq_def]
  refine (Deaf.ofExcept _).bind fun place => hcontainer.bind fun v =>
    (Deaf.ofExcept _).bind fun items => ?_
  split
  · cases otherwise with
    | none => exact .pure _
    | some last => exact hotherwise last rfl
  · exact (Deaf.update _).bind fun _ => (deaf_renderRounds hbody _).bind fun _ =>
      (Deaf.update _).bind fun _ => .pure _

mutual

/-- A node without questions is rendered alike in all surroundings. -/
theorem Node.deaf (h : stage.IsDeaf) : ∀ (node : Node) {scanned : Bool},
    (node.survey scanned).AsksNothing → Deaf (node.render stage)
  | .output e, _, hasks => by
      rw [Node.survey] at hasks
      rw [Node.render]
      exact (e.deaf h hasks).1.bind fun _ => .pure _
  | .assign _ _ e, _, hasks => by
      rw [Node.survey] at hasks
      rw [Node.render]
      exact (e.deaf h hasks.right).1.bind fun _ =>
        (Deaf.update _).bind fun _ => .pure _
  | .branch arms none, _, hasks => by
      rw [Node.survey] at hasks
      rw [Node.render]
      refine (deaf_renderArms h arms hasks.left).bind fun chosen => ?_
      cases chosen <;> exact .pure _
  | .branch arms (some body), _, hasks => by
      rw [Node.survey] at hasks
      rw [Node.render]
      refine (deaf_renderArms h arms hasks.left).bind fun chosen => ?_
      cases chosen with
      | some text => exact .pure _
      | none => exact deaf_renderNodes h body hasks.right
  | .loop key item container body none, _, hasks => by
      rw [Node.survey] at hasks
      exact deaf_loop (container.deaf h hasks.left.left.right).1
        (deaf_renderNodes h body hasks.left.right) (fun _ he => absurd he (by simp))
  | .loop key item container body (some last), _, hasks => by
      rw [Node.survey] at hasks
      have hlast := deaf_renderNodes h last hasks.right
      exact deaf_loop (container.deaf h hasks.left.left.right).1
        (deaf_renderNodes h body hasks.left.right) (fun _ he => Option.some.inj he ▸ hlast)
  | .block name body, _, hasks => by
      rw [Node.survey] at hasks
      rw [Node.render]
      cases hbody : stage.tree.blocks.lookup name with
      | some body => exact h body (block_mem_bodies hbody)
      | none => exact deaf_renderNodes h body hasks
  | .filtered filter body, _, hasks => by
      rw [Node.survey] at hasks
      rw [Node.render]
      exact (deaf_renderNodes h body hasks.right).bind
        (deaf_applySection h hasks.left)
  | .insert names optional, _, _ => by
      rw [Node.render]
      split
      · exact (Deaf.update _).bind fun _ => (h _ List.mem_cons_self).bind fun _ =>
          (Deaf.update _).bind fun _ => .pure _
      · split
        · exact .pure _
        · exact .throw _
  | .stop, _, _ | .skip, _, _ => by
      rw [Node.render]
      exact (Deaf.change _ _).bind fun _ => .pure _
  | .definition _ _ _, _, _ | .text _, _, _ | .verbatim _, _, _ | .comment, _, _ => by
      rw [Node.render]
      exact .pure _

theorem deaf_renderNodes (h : stage.IsDeaf) : ∀ (nodes : List Node) {scanned : Bool},
    (surveyOfNodes scanned nodes).AsksNothing → Deaf (renderNodes stage nodes)
  | [], _, _ => by
      rw [renderNodes]
      exact .pure _
  | node :: nodes, _, hasks => by
      rw [surveyOfNodes] at hasks
      rw [renderNodes]
      refine (node.deaf h hasks.left).bind fun text => Deaf.frames.bind fun frames => ?_
      split
      · exact (deaf_renderNodes h nodes hasks.right).bind fun _ => .pure _
      · exact .pure _

theorem deaf_renderArms (h : stage.IsDeaf) : ∀ (arms : List (Expr × List Node)) {scanned : Bool},
    (surveyOfArms scanned arms).AsksNothing → Deaf (renderArms stage arms)
  | [], _, _ => by
      rw [renderArms]
      exact .pure _
  | (condition, body) :: arms, _, hasks => by
      rw [surveyOfArms] at hasks
      rw [renderArms]
      refine (condition.deaf h hasks.left.left).2.bind fun holds => ?_
      split
      · exact (deaf_renderNodes h body hasks.left.right).bind fun _ => .pure _
      · exact deaf_renderArms h arms hasks.right

end

end

/-- The stages of a template that asks nothing, by induction on how deep bodies nest. -/
theorem deaf_stageAt {tree : Tree} (hgathered : tree.Gathered) (hasks : tree.survey.AsksNothing)
    (engine : Engine) (template : String) (context : SortedMap Value) (depth : Nat) :
    (stageAt engine template tree context depth).IsDeaf := by
  induction depth with
  | zero => exact fun _ _ => .endless
  | succ depth ih =>
      intro body hbody
      obtain ⟨scanned, hinside⟩ :=
        survey_bodies Survey.AsksNothing.hereditary hgathered hasks hbody
      exact deaf_renderNodes ih body hinside

theorem render_of_asksNothing {tree : Tree} (hgathered : tree.Gathered)
    (hasks : tree.survey.AsksNothing) (template : String) (context : SortedMap Value)
    (engine : Engine) (world world' : World) :
    tree.render template context engine world' =
      (tree.render template context engine world).map fun (r, after) =>
        (r, ⟨after.frames, world'⟩) := by
  unfold Tree.render
  split
  · exact deaf_renderNodes (deaf_stageAt hgathered hasks engine template context engine.depth)
      tree.nodes hasks [⟨.whole, []⟩] world world'
  · rfl

end Scaffold.Template

namespace Scaffold.CompiledTemplate

/-- A template that asks nothing has the same outcome in all surroundings. -/
theorem outcome?_of_asksNothing {t : CompiledTemplate} (hgathered : t.tree.Gathered)
    (hasks : t.tree.survey.AsksNothing) (context : Context) (engine : Template.Engine)
    (world world' : Template.World) :
    t.outcome? context engine world' = t.outcome? context engine world := by
  unfold outcome?
  split
  · rfl
  · rw [Template.render_of_asksNothing hgathered hasks t.name context.values engine world world',
      Option.map_map]
    refine congrArg (Option.map · _) (funext fun result => ?_)
    obtain ⟨r, after⟩ := result
    cases r <;> rfl

end Scaffold.CompiledTemplate
