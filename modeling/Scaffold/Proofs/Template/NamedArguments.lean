import Scaffold.Proofs.Traversal
import Scaffold.Template.Evaluation

/-!
# Arguments by name

Filters and functions ask for their arguments by name. So their results, and the questions
that they ask the surroundings, do not depend on the order in which the arguments are listed.
-/

namespace Scaffold.Template

/-- Arguments with the same values under the same names. -/
def SameLookups (args args' : Args) : Prop := ∀ name, args'.lookup name = args.lookup name

namespace SameLookups

variable {args args' args'' : Args}

theorem refl (args : Args) : SameLookups args args := fun _ => rfl

theorem trans (h : SameLookups args args') (h' : SameLookups args' args'') :
    SameLookups args args'' := fun name => (h' name).trans (h name)

theorem cons (arg : String × Value) (h : SameLookups args args') :
    SameLookups (arg :: args) (arg :: args') := by
  intro name
  rw [List.lookup_cons, List.lookup_cons, h name]

theorem swap {m n : String} (hnames : m ≠ n) (v w : Value) (args : Args) :
    SameLookups ((m, v) :: (n, w) :: args) ((n, w) :: (m, v) :: args) := by
  intro name
  simp only [List.lookup_cons]
  by_cases hm : name = m
  · subst hm
    rw [beq_self_eq_true, beq_eq_false_iff_ne.mpr hnames]
  · rw [beq_eq_false_iff_ne.mpr hm]

end SameLookups

/-! ## Filters -/

namespace Filter

/-- A filter that asks for its arguments by name. -/
def ByName (f : Filter) : Prop := ∀ (v : Value) {args args' : Args}, SameLookups args args' →
  f v args' = f v args

section

variable {α : Type} {filter name expected : String} {read : Value → Option α} {args args' : Args}

theorem argument_congr (h : SameLookups args args') :
    argument filter name expected read args' = argument filter name expected read args := by
  unfold argument
  rw [h name]

theorem required_congr (h : SameLookups args args') :
    required filter name expected read args' = required filter name expected read args := by
  unfold required
  rw [argument_congr h]

theorem optional_congr (h : SameLookups args args') (default : α) :
    optional filter name expected read default args' =
      optional filter name expected read default args := by
  unfold optional
  rw [argument_congr h]

end

section

variable {name : String}

theorem byName_onText {f : String → Args → Except Fault Value}
    (h : ∀ (s : String) {args args' : Args}, SameLookups args args' → f s args' = f s args) :
    (onText name f).ByName := by
  intro v args args' hargs
  cases v with
  | text s => exact h s hargs
  | _ => rfl

theorem byName_onList {f : List Value → Args → Except Fault Value}
    (h : ∀ (items : List Value) {args args' : Args}, SameLookups args args' →
      f items args' = f items args) : (onList name f).ByName := by
  intro v args args' hargs
  cases v with
  | list items => exact h items hargs
  | _ => rfl

/-- A filter that asks for no arguments. -/
theorem byName_onTextAlone {f : String → Value} : (onTextAlone name f).ByName :=
  byName_onText fun _ _ _ _ => rfl

variable {items : List Value} {s : String} {args args' : Args}

theorem truncate_congr (h : SameLookups args args') : truncate s args' = truncate s args := by
  unfold truncate
  rw [optional_congr h, optional_congr h]

theorem indent_congr (h : SameLookups args args') : indent s args' = indent s args := by
  unfold indent
  rw [optional_congr h, optional_congr h, optional_congr h]

theorem trimCopies_congr {trim : String → String → String} (h : SameLookups args args') :
    trimCopies name trim s args' = trimCopies name trim s args := by
  unfold trimCopies
  rw [required_congr h]

theorem replaceText_congr (h : SameLookups args args') :
    replaceText s args' = replaceText s args := by
  unfold replaceText
  rw [required_congr h, required_congr h]

theorem split_congr (h : SameLookups args args') : split s args' = split s args := by
  unfold split
  rw [required_congr h]

theorem byName_int : ByName int := by
  intro v args args' h
  unfold int
  rw [optional_congr h, optional_congr h]

theorem byName_float : ByName float := by
  intro v args args' h
  unfold float
  rw [optional_congr h]

theorem byName_round : ByName round := by
  intro v args args' h
  unfold round
  rw [optional_congr h, optional_congr h]

theorem byName_pluralize : ByName pluralize := by
  intro v args args' h
  unfold pluralize
  rw [optional_congr h, optional_congr h]

theorem nth_congr (h : SameLookups args args') : nth items args' = nth items args := by
  unfold nth
  rw [required_congr h]

theorem join_congr (h : SameLookups args args') : join items args' = join items args := by
  unfold join
  rw [optional_congr h]

theorem sort_congr (h : SameLookups args args') : sort items args' = sort items args := by
  unfold sort
  rw [optional_congr h]

theorem unique_congr (h : SameLookups args args') : unique items args' = unique items args := by
  unfold unique
  rw [optional_congr h, optional_congr h]

theorem slice_congr (h : SameLookups args args') : slice items args' = slice items args := by
  unfold slice
  rw [argument_congr h, argument_congr h]

theorem concat_congr (h : SameLookups args args') : concat items args' = concat items args := by
  unfold concat
  rw [h "with"]

theorem map_congr (h : SameLookups args args') : map items args' = map items args := by
  unfold map
  rw [required_congr h]

theorem filter_congr (h : SameLookups args args') : filter items args' = filter items args := by
  unfold filter
  rw [required_congr h, h "value"]

theorem groupBy_congr (h : SameLookups args args') : groupBy items args' = groupBy items args := by
  unfold groupBy
  rw [argument_congr h]

theorem byName_get : ByName get := by
  intro v args args' h
  unfold get
  rw [required_congr h, h "default"]

theorem byName_jsonEncode : ByName jsonEncode := by
  intro v args args' h
  unfold jsonEncode
  rw [h "pretty"]

end

/-- Every filter of the language asks for its arguments by name. -/
theorem byName_of_filter? {name : String} {f : Filter} (h : filter? name = some f) :
    f.ByName := by
  have hall : ∀ entry ∈ all, entry.2.ByName := by
    unfold all
    simp only [List.forall_mem_cons]
    refine ⟨byName_onTextAlone, byName_onTextAlone, byName_onTextAlone, byName_onTextAlone,
      byName_onTextAlone, byName_onText fun _ _ _ => trimCopies_congr,
      byName_onText fun _ _ _ => trimCopies_congr, byName_onTextAlone, byName_onTextAlone,
      byName_onText fun _ _ _ => truncate_congr, byName_onTextAlone, byName_onTextAlone,
      byName_onTextAlone, byName_onTextAlone, byName_onTextAlone, byName_onTextAlone,
      byName_onTextAlone, byName_onText fun _ _ _ => indent_congr,
      byName_onText fun _ _ _ => replaceText_congr, byName_onText fun _ _ _ => split_congr,
      byName_int, byName_float, byName_round, fun _ _ _ _ => rfl, byName_pluralize,
      byName_onList fun _ _ _ _ => rfl, byName_onList fun _ _ _ _ => rfl,
      byName_onList fun _ _ _ => nth_congr, byName_onList fun _ _ _ => join_congr,
      byName_onList fun _ _ _ => sort_congr, byName_onList fun _ _ _ => unique_congr,
      byName_onList fun _ _ _ => slice_congr, byName_onList fun _ _ _ => concat_congr,
      byName_onList fun _ _ _ => map_congr, byName_onList fun _ _ _ => filter_congr,
      byName_onList fun _ _ _ => groupBy_congr, fun _ _ _ _ => rfl, fun _ _ _ _ => rfl,
      byName_get, byName_jsonEncode, fun _ _ _ _ => rfl, List.forall_mem_nil _⟩
  exact hall _ (mem_of_lookup h)

/-- So does every filter of an engine. -/
theorem byName_of_engine {engine : Engine} {name : String} {f : Filter}
    (h : engine.filter? name = some f) : f.ByName := by
  unfold Engine.filter? at h
  split at h
  · next g hg =>
      obtain rfl := Option.some.inj h
      exact byName_of_filter? hg
  · obtain ⟨g, -, rfl⟩ := Option.map_eq_some_iff.mp h
    intro v args args' hargs
    exact congrArg (g v) (funext hargs)

end Filter

/-! ## Functions -/

namespace Function

variable {args args' : Args}

theorem natural_congr {name : String} {default : Option Nat} (h : SameLookups args args') :
    natural name default args' = natural name default args := by
  unfold natural
  rw [h name]

theorem range_congr (h : SameLookups args args') : range args' = range args := by
  unfold range
  rw [natural_congr h, natural_congr h, natural_congr h]

theorem failing_congr (h : SameLookups args args') : failing args' = failing args := by
  unfold failing
  rw [h "message"]

/-- Every function asks for its arguments by name. -/
theorem congr_of_function? {name : String} {f : Function} (h : function? name = some f)
    (hargs : SameLookups args args') : f args' = f args := by
  have hall : ∀ entry ∈ all, entry.2 args' = entry.2 args := by
    unfold all
    simp only [List.forall_mem_cons]
    exact ⟨range_congr hargs, failing_congr hargs, List.forall_mem_nil _⟩
  exact hall _ (mem_of_lookup h)

/-- What a function does is done with the values of its arguments. -/
theorem invoke_congr {name : String} {f : Args → Eval Value} (h : invoke? name = some f)
    (hargs : SameLookups args args') : f args' = f args := by
  unfold invoke? at h
  split at h
  · next g hg =>
      obtain rfl := Option.some.inj h
      exact congrArg Eval.ofExcept (congr_of_function? hg hargs)
  · split at h
    · obtain rfl := Option.some.inj h
      have hgiven : (args'.lookup ·) = (args.lookup ·) := funext hargs
      exact congrArg (fun given => Eval.ask ⟨name, given⟩) hgiven
    · exact absurd h (by simp)

end Function

end Scaffold.Template
