import Scaffold.Proofs.Catalog.Builtins
import Scaffold.Proofs.Generation.Specifications

/-!
# What plans supply

The context of every target and of every fragment that a specification can plan
gives values of the right shapes to the variables of its template, in the order
in which these are required. So the builtin templates render them all.
-/

namespace Scaffold

open Text Template

/-! ## Contexts of lists -/

theorem Context.get?_ofList {entries : List (String × Value)}
    (h : (entries.map (·.1)).Nodup) (k : String) : (ofList entries).get? k = entries.lookup k := by
  unfold ofList
  rw [lookup_foldl get?_insert h]
  exact Option.or_none

/-- Names that differ stand in a context as they are given. -/
theorem Context.entries_ofList {entries : List (String × Value)}
    (h : (entries.map (·.1)).Nodup) : (ofList entries).entries = entries := by
  have hinsert : ∀ (key : String) (v : Value) (before : List (String × Value)),
      key ∉ before.map (·.1) → insertEntry key v before = before ++ [(key, v)] := by
    intro key v before hkey
    induction before with
    | nil => rfl
    | cons entry before ih =>
        rw [List.map_cons, List.mem_cons, not_or] at hkey
        rw [insertEntry, if_neg (Ne.symm hkey.1), ih hkey.2, List.cons_append]
  have hfold : ∀ (later : List (String × Value)) (c : Context),
      ((c.entries ++ later).map (·.1)).Nodup →
        (later.foldl (fun c entry => c.insert entry.1 entry.2) c).entries = c.entries ++ later := by
    intro later
    induction later with
    | nil => simp
    | cons entry later ih =>
        intro c hnodup
        have hentry : (c.insert entry.1 entry.2).entries = c.entries ++ [entry] := by
          refine hinsert _ _ _ fun hmem => ?_
          rw [List.map_append, List.nodup_append] at hnodup
          exact hnodup.2.2 _ hmem _ (by simp) rfl
        have happend : c.entries ++ [entry] ++ later = c.entries ++ entry :: later := by simp
        rw [List.foldl_cons, ih _ (by rw [hentry, happend]; exact hnodup), hentry, happend]
  exact hfold entries empty h

theorem nodup_required {key : TemplateKey} (h : key.isBuiltin = true) : key.required.Nodup := by
  have hall : ∀ c ∈ Category.all, ∀ t ∈ c.builtins, t.required.Nodup := by decide +kernel
  obtain ⟨t, ht⟩ := Option.isSome_iff_exists.mp h
  unfold TemplateKey.required
  rw [ht]
  exact hall _ (Category.mem_all _) t (List.mem_of_find?_eq_some ht)

/-- A list of entries meets the signature of a key when it names the required
variables in their order and gives tables to those that are looped over. -/
theorem met_ofList {key : TemplateKey} {entries : List (String × Value)}
    (hkey : key.isBuiltin = true) (hnames : entries.map (·.1) = key.required)
    (htables : ∀ table ∈ key.tables,
      ∃ v, entries.lookup table.1 = some v ∧ (Shape.rows table.2).Fits v) :
    key.signature.Met (Context.ofList entries).values := by
  intro name shape hshape
  obtain ⟨required, hrequired, heq⟩ := List.mem_map.mp (mem_of_lookup hshape)
  obtain ⟨rfl, rfl⟩ := Prod.mk.inj heq
  rw [Context.get?_values, Context.get?_ofList (hnames ▸ nodup_required hkey)]
  cases htable : key.tables.lookup required with
  | some columns => exact htables _ (mem_of_lookup htable)
  | none =>
      rw [← hnames] at hrequired
      obtain ⟨entry, hentry, rfl⟩ := List.mem_map.mp hrequired
      obtain ⟨v, hv⟩ := Option.isSome_iff_exists.mp
        (List.lookup_isSome_iff.mpr ⟨entry, hentry, beq_self_eq_true entry.1⟩)
      exact ⟨v, hv, trivial⟩

/-! ## Tables -/

theorem fits_texts (items : List String) : (Shape.rows []).Fits (.texts items) :=
  ⟨items.map .text, rfl, fun _ _ _ hcolumn => absurd hcolumn List.not_mem_nil⟩

/-- A path of one step leads to the field that it names. -/
theorem Value.at?_ofFields {fields : List (String × Value)} (h : (fields.map (·.1)).Nodup)
    {name : String} {step : List Char} (hstep : steps name = [step]) (hkey : stepKey step = name) :
    (ofFields fields).at? name = fields.lookup name := by
  have hput : ∀ (sorted : List (String × Value)) (key k : String) (v : Value),
      (SortedMap.insertKey key v sorted).lookup k = if k = key then some v else sorted.lookup k :=
    fun sorted key k v => SortedMap.lookup_insertKey key k v sorted
  have hfold := @lookup_foldl Value _ (fun sorted k => sorted.lookup k) _ hput fields h [] name
  rw [List.lookup_nil, Option.or_none] at hfold
  unfold at?
  rw [hstep, List.foldlM_cons, hkey]
  unfold ofFields child?
  dsimp only
  rw [hfold]
  cases fields.lookup name <;> rfl

theorem Column.at?_value (c : Column) {column : String}
    (h : column ∈ ["name", "type_name", "column", "comment"]) : c.value.at? column =
      List.lookup column [("name", .text (camelCase c.name)), ("type_name", .text (trim c.typeName)),
        ("column", .text c.name), ("comment", .text ((c.comment.map trim).getD ""))] := by
  have hsteps : ∀ column ∈ ["name", "type_name", "column", "comment"],
      Value.steps column = [column.toList] ∧ Value.stepKey column.toList = column := by
    decide +kernel
  obtain ⟨hstep, hkey⟩ := hsteps column h
  exact Value.at?_ofFields (by simp) hstep hkey

theorem hasColumns_value (c : Column) :
    HasColumns ["name", "type_name", "column", "comment"] c.value := by
  intro column hcolumn
  rw [c.at?_value hcolumn, List.lookup_isSome_iff]
  simpa using hcolumn

theorem fits_columns (columns : List Column) :
    (Shape.rows ["name", "type_name", "column", "comment"]).Fits
      (.list (columns.map Column.value)) := by
  refine ⟨_, rfl, fun item hitem => ?_⟩
  obtain ⟨c, -, rfl⟩ := List.mem_map.mp hitem
  exact hasColumns_value c

/-! ## Targets and fragments -/

/-- The fragments that a specification can render while it plans. -/
inductive Specification.Fragment : Specification → TemplateKey → Context → Prop
  | function (s : RpcSpec) (m : RpcMethod) :
      Fragment (.rpc s) RpcSpec.functionKey (s.functionContext m)
  | imports (s : ModelSpec) (t : Table) :
      Fragment (.model s) s.importKey (.ofList [("time", .bool t.usesTime)])

/-- The context of every fragment serves its template. -/
theorem Specification.Fragment.serves {s : Specification} {key : TemplateKey} {context : Context}
    (h : s.Fragment key context) : key.Serves context := by
  cases h with
  | function s m => exact TemplateKey.serves_of_met rfl (met_ofList rfl rfl (List.forall_mem_nil _))
  | imports s t =>
      unfold ModelSpec.importKey
      split
      · exact TemplateKey.serves_of_met rfl (met_ofList rfl rfl (List.forall_mem_nil _))
      · exact TemplateKey.serves_of_met rfl (met_ofList rfl rfl (List.forall_mem_nil _))

/-- The context of every target meets the signature of its template. -/
theorem Specification.Offers.met {g : Generator} {s : Specification} {t : Target}
    (h : s.Offers g t) : t.template.signature.Met t.context.values := by
  cases h with
  | handler s group r base =>
      exact met_ofList rfl rfl (List.forall_mem_singleton.mpr ⟨_, rfl, fits_texts _⟩)
  | apiLogic s group r base =>
      exact met_ofList rfl rfl (List.forall_mem_singleton.mpr ⟨_, rfl, fits_texts _⟩)
  | rpcLogic s m functions =>
      exact met_ofList rfl rfl (List.forall_mem_singleton.mpr ⟨_, rfl, fits_texts _⟩)
  | settings s => exact met_ofList rfl rfl (List.forall_mem_nil _)
  | table s t imports =>
      exact met_ofList rfl rfl (List.forall_mem_singleton.mpr ⟨_, rfl, fits_columns _⟩)
  | vars s => exact met_ofList rfl rfl (List.forall_mem_nil _)
  | type s typeName => exact met_ofList rfl rfl (List.forall_mem_nil _)
  | errors s =>
      have hempty : Context.empty = Context.ofList [] := rfl
      unfold MongoSpec.errorsTarget
      dsimp only
      rw [hempty]
      exact met_ofList rfl rfl (List.forall_mem_nil _)
  | image s => exact met_ofList rfl rfl (List.forall_mem_nil _)
  | deployment s => exact met_ofList rfl rfl (List.forall_mem_nil _)

theorem Specification.Offers.serves {g : Generator} {s : Specification} {t : Target}
    (h : s.Offers g t) : t.template.Serves t.context :=
  TemplateKey.serves_of_met h.isBuiltin h.met

end Scaffold
