import Scaffold.Proofs.Catalog.Initialization
import Scaffold.Proofs.Generation.Completeness
import Scaffold.Proofs.Template.ImportLists
import Scaffold.Text.Property

/-!
# The import of package time

The model of a table imports package `time` if a type of a column has `time.Time` in it. A
type refers to the package where `time.` stands and no longer name ends in it, and neither
follows from the other: the package has other types than `Time`, and other packages have
names that end in `time`. The block is known to the last character, so that it can be said for
which tables the import is missing, and for which it is not used.
-/

namespace Scaffold

open Text Template BuiltinText

/-! ## References to a package -/

/-- A letter, a digit, an underscore or a dot, in front of which a name does not begin. -/
def isNamePart (c : Char) : Bool :=
  if c.toNat < 0x80 then c.isAlphanum || c = '_' || c = '.'
  else (Property.part "l").has c.toNat || Property.digits.has c.toNat

/-- The name of a package with its dot stands in a type, and is not the end of a longer name. -/
def RefersTo (package type : String) : Prop :=
  ∃ before after, type = before ++ (package ++ "." ++ after) ∧
    ∀ c ∈ before.toList.getLast?, isNamePart c = false

/-- A reference is found by looking at every place of the type. -/
theorem refersTo_iff {package type : String} : RefersTo package type ↔
    ∃ n < type.toList.length + 1, (package ++ ".").toList <+: type.toList.drop n ∧
      (type.toList.take n).getLast?.any isNamePart = false := by
  simp only [Option.any_eq_false]
  constructor
  · rintro ⟨before, after, rfl, hbefore⟩
    refine ⟨before.toList.length, ?_, ⟨after.toList, ?_⟩, ?_⟩
    · simp only [String.toList_append, List.length_append]
      omega
    · simp
    · simpa using hbefore
  · rintro ⟨n, -, ⟨after, hafter⟩, hbefore⟩
    refine ⟨String.ofList (type.toList.take n), String.ofList after, String.toList_inj.mp ?_, ?_⟩
    · rw [String.toList_append, String.toList_append, String.toList_ofList, String.toList_ofList,
        hafter, List.take_append_drop]
    · rwa [String.toList_ofList]

instance RefersTo.decidable (package type : String) : Decidable (RefersTo package type) :=
  decidable_of_iff' _ refersTo_iff

theorem contains_iff {pat s : String} :
    contains pat s = true ↔ ∃ before after, s = before ++ (pat ++ after) := by
  constructor
  · intro h
    obtain ⟨⟨before, after⟩, hcut⟩ := Option.isSome_iff_exists.mp h
    refine ⟨String.ofList before, String.ofList after, String.toList_inj.mp ?_⟩
    simpa using eq_of_cutAt hcut
  · rintro ⟨before, after, rfl⟩
    rw [contains, Option.isSome_iff_ne_none]
    intro hnone
    exact cutAt_eq_none_iff.mp hnone before.toList after.toList (by simp)

namespace Table

variable {t : Table}

/-- The text `time.` stands in the type of a column, with something in front of it and something
behind it. -/
def Places (t : Table) (before after : String) : Prop :=
  ∃ c ∈ t.columns, c.typeName = before ++ ("time." ++ after)

/-- The type of some column refers to package time. -/
def RefersToTime (t : Table) : Prop := ∃ c ∈ t.columns, RefersTo "time" c.typeName

instance RefersToTime.decidable (t : Table) : Decidable t.RefersToTime :=
  inferInstanceAs (Decidable (∃ c ∈ t.columns, RefersTo "time" c.typeName))

/-- The type of some column has the text `time.Time` in it, whatever is around it. -/
def SpellsTime (t : Table) : Prop := ∃ before after, t.Places before ("Time" ++ after)

theorem usesTime_iff : t.usesTime = true ↔ t.SpellsTime := by
  unfold usesTime SpellsTime Places
  simp only [List.any_eq_true, contains_iff]
  constructor
  · rintro ⟨c, hc, before, after, htype⟩
    exact ⟨before, after, c, hc, htype.trans (String.toList_inj.mp (by simp))⟩
  · rintro ⟨before, after, c, hc, htype⟩
    exact ⟨c, hc, before, after, htype.trans (String.toList_inj.mp (by simp))⟩

theorem refersToTime_iff : t.RefersToTime ↔ ∃ before after, t.Places before after ∧
    ∀ c ∈ before.toList.getLast?, isNamePart c = false := by
  constructor
  · rintro ⟨c, hc, before, after, htype, hbefore⟩
    exact ⟨before, after, ⟨c, hc, htype⟩, hbefore⟩
  · rintro ⟨before, after, ⟨c, hc, htype⟩, hbefore⟩
    exact ⟨c, hc, before, after, htype, hbefore⟩

end Table

/-! ## The block of a model -/

namespace ModelSpec

/-- What every model imports, with a cache or without one. -/
def fixedImports (cache : Bool) : List String :=
  ["database/sql", "fmt", "strings", "github.com/zeromicro/go-zero/core/stores/builder"] ++
    (if cache then ["github.com/zeromicro/go-zero/core/stores/cache"] else []) ++
    ["github.com/zeromicro/go-zero/core/stores/sqlc",
      "github.com/zeromicro/go-zero/core/stores/sqlx"]

/-- The lines of the import block of a model, between the one that opens it and the one that
closes it. -/
def importsLines (cache time : Bool) : List String :=
  ((fixedImports cache).take 3 ++ if time then ["time"] else []).map importLine ++
    "" :: ((fixedImports cache).drop 3).map importLine

/-- The import block of a model. -/
def importsText (cache time : Bool) : String :=
  ofLines ("import (" :: (importsLines cache time ++ [")"]))

theorem quotable_fixedImports (cache : Bool) : ∀ path ∈ fixedImports cache, Quotable path := by
  have hall : ∀ path ∈ fixedImports cache, '\n' ∉ path.toList ∧ '"' ∉ path.toList := by
    cases cache <;> decide
  exact fun path hpath => ⟨(hall path hpath).1, (hall path hpath).2⟩

/-- The paths of the block are the fixed ones, with time among them or not. -/
theorem importedPaths_importsText (cache time : Bool) :
    importedPaths (importsText cache time) = (fixedImports cache).take 3 ++
      (if time then ["time"] else []) ++ (fixedImports cache).drop 3 := by
  have hfront : ∀ path ∈ (fixedImports cache).take 3 ++ if time then ["time"] else [],
      Quotable path := by
    refine List.forall_mem_append.mpr
      ⟨fun path hpath => quotable_fixedImports cache path (List.mem_of_mem_take hpath), ?_⟩
    cases time with
    | true => exact List.forall_mem_singleton.mpr ⟨by decide, by decide⟩
    | false => exact List.forall_mem_nil _
  have hback : ∀ path ∈ (fixedImports cache).drop 3, Quotable path :=
    fun path hpath => quotable_fixedImports cache path (List.mem_of_mem_drop hpath)
  have hblock : importBlock (importsText cache time) = importsLines cache time := by
    have hread := @importBlock_ofLines [] (importsLines cache time) []
      ?_ (List.forall_mem_nil _) ?_
    · rwa [List.append_nil, String.ofList_toList] at hread
    · rw [List.nil_append, importsLines]
      exact List.forall_mem_append.mpr
        ⟨List.forall_mem_map.mpr fun path h => newline_not_mem_importLine (hfront path h).unbroken,
          List.forall_mem_cons.mpr ⟨by decide, List.forall_mem_map.mpr fun path h =>
            newline_not_mem_importLine (hback path h).unbroken⟩⟩
    · rw [importsLines]
      exact List.forall_mem_append.mpr
        ⟨List.forall_mem_map.mpr fun path _ => (importLine_ne path).2,
          List.forall_mem_cons.mpr ⟨by decide, List.forall_mem_map.mpr fun path _ =>
            (importLine_ne path).2⟩⟩
  have hempty : importOf? "" = none := by decide
  rw [importedPaths, hblock, importsLines, List.filterMap_append, List.filterMap_cons, hempty,
    filterMap_importLine hfront, filterMap_importLine hback]

/-- The builtin template of the imports, by whether there is a cache. -/
def importTemplate : Bool → String
  | true => modelImport
  | false => modelImportNoCache

theorem importLine_spelled {path : String} {cs : List Char} (h : path = String.ofList cs) :
    importLine path = String.ofList ('\t' :: '"' :: (cs ++ ['"'])) := by
  rw [importLine, h]
  exact String.toList_inj.mp (by simp)

/-- The template is sketched as the block, with time and without it. -/
theorem sketch_importTemplate (cache time : Bool) :
    (nodesOfChars? (importTemplate cache).toList).bind (sketchOf? [("time", time)]) =
      some (literalOutline (importsText cache time)) := by
  -- both sides are read line by line, as the characters of a long text take long to find
  cases cache <;> cases time <;>
  · apply Spelled.read fun cs => (nodesOfChars? cs).bind (sketchOf? [("time", _)])
    · repeat
        apply Spelled.cons
        · exact rfl
      exact Spelled.nil
    · apply Eq.symm
      apply Spelled.read fun cs => some (cs.map Item.char)
      · repeat
          apply Spelled.cons
          · first
            | exact importLine_spelled rfl
            | exact rfl
        exact Spelled.nil
      · decide +kernel

variable (s : ModelSpec) {g : Generator} {d : Disk}

/-- From the builtin templates the block of a model is known to the last character. -/
theorem renderFragment_imports (hfile : d.isFile (g.repository.pathOf s.importKey) = false)
    (t : Table) :
    (g.renderFragment s.importKey (Context.ofList [("time", .bool t.usesTime)]) t.node).runOn d =
      (.ok (importsText s.cache t.usesTime), d) := by
  have hbuiltin : s.importKey.builtinText? = some (importTemplate s.cache) := by
    unfold importKey
    cases s.cache <;> rfl
  obtain ⟨nodes, hnodes, hsketch⟩ :=
    Option.bind_eq_some_iff.mp (sketch_importTemplate s.cache t.usesTime)
  have htime : (Context.ofList [("time", .bool t.usesTime)]).get? "time" =
      some (.bool t.usesTime) := Context.get?_ofList (by simp) _
  have htruths : ∀ entry ∈ [("time", t.usesTime)],
      (View.ofContext (Context.ofList [("time", .bool t.usesTime)]).values
        entry.1).isTruthy = entry.2 := by
    refine List.forall_mem_singleton.mpr ?_
    rw [View.ofContext, Context.get?_values, htime]
    rfl
  have hmet := (Specification.Fragment.imports s t).serves.met
  rw [Generator.renderFragment_of_nodes (Repository.textOf_of_builtin hfile hbuiltin) hbuiltin
    hnodes hmet, nodesSay_of_sketch? htruths nodes hsketch, seen_literalOutline,
    String.ofList_toList]

theorem planTable_runOn (hfile : d.isFile (g.repository.pathOf s.importKey) = false) (t : Table) :
    (s.planTable g t).runOn d =
      (.ok (s.tableTarget g t (importsText s.cache t.usesTime)), d) := by
  unfold planTable
  rw [Action.runOn_bind_of_ok (s.renderFragment_imports hfile t)]
  rfl

end ModelSpec

/-- What the import block of a table says of package time. -/
structure Table.ImportsTime (t : Table) (cache : Bool) (block : String) : Prop where
  listed_iff : "time" ∈ importedPaths block ↔ t.SpellsTime
  once : (importedPaths block).count "time" ≤ 1
  others : (importedPaths block).filter (· != "time") = ModelSpec.fixedImports cache
  /-- The import is missing where the columns use other types of the package only. -/
  missing_iff : t.RefersToTime ∧ "time" ∉ importedPaths block ↔
    t.RefersToTime ∧ ∀ before after, ¬ t.Places before ("Time" ++ after)
  /-- It is not used where `time.` is the end of a longer name throughout. -/
  unused_iff : "time" ∈ importedPaths block ∧ ¬ t.RefersToTime ↔
    t.SpellsTime ∧ ∀ before after, t.Places before after →
      ∃ c ∈ before.toList.getLast?, isNamePart c = true
  exact_iff : ("time" ∈ importedPaths block ↔ t.RefersToTime) ↔ (t.SpellsTime ↔ t.RefersToTime)
  /-- It is right where `Time` follows on the name of the package and on no longer name. -/
  exact_of_places : (∀ before after, t.Places before after → ((∃ more, after = "Time" ++ more) ↔
      ∀ c ∈ before.toList.getLast?, isNamePart c = false)) →
    ("time" ∈ importedPaths block ↔ t.RefersToTime)

theorem Table.importsTime (t : Table) (cache : Bool) :
    t.ImportsTime cache (ModelSpec.importsText cache t.usesTime) := by
  have hlisted : "time" ∈ importedPaths (ModelSpec.importsText cache t.usesTime) ↔ t.SpellsTime := by
    rw [← usesTime_iff, ModelSpec.importedPaths_importsText]
    cases t.usesTime <;> cases cache <;> decide
  constructor
  · exact hlisted
  · rw [ModelSpec.importedPaths_importsText]
    cases t.usesTime <;> cases cache <;> decide
  · rw [ModelSpec.importedPaths_importsText]
    cases t.usesTime <;> cases cache <;> decide
  · rw [hlisted, SpellsTime]
    simp only [not_exists]
  · rw [hlisted, refersToTime_iff]
    simp only [not_exists, not_and, not_forall, Bool.not_eq_false, exists_prop]
  · rw [hlisted]
  · intro hplaces
    rw [hlisted, refersToTime_iff]
    constructor
    · rintro ⟨before, after, hplace⟩
      exact ⟨before, _, hplace, (hplaces before _ hplace).mp ⟨after, rfl⟩⟩
    · rintro ⟨before, after, hplace, hbefore⟩
      obtain ⟨more, rfl⟩ := (hplaces before after hplace).mpr hbefore
      exact ⟨before, more, hplace⟩

/-- Where the block of imports comes from the builtin template, every table of a specification
with a cache or without one is planned with a block that lists package time if and only if
`time.Time` stands in the type of a column, at most once, and beside it what every model imports.
The block is the one that the types of the columns ask for exactly where a column spells
`time.Time` if and only if a column refers to the package. -/
theorem ModelSpec.time_imported_exactly (s : ModelSpec) (g : Generator) {d : Disk}
    (hfile : d.isFile (g.repository.pathOf s.importKey) = false) (t : Table) :
    ∃ block, (g.renderFragment s.importKey (Context.ofList [("time", .bool t.usesTime)])
        t.node).runOn d = (.ok block, d) ∧
      (s.planTable g t).runOn d = (.ok (s.tableTarget g t block), d) ∧
      (s.tableTarget g t block).context.get? "imports" = some (.text block) ∧
      t.ImportsTime s.cache block :=
  ⟨_, s.renderFragment_imports hfile t, s.planTable_runOn hfile t,
    Context.get?_ofList (by simp) _, t.importsTime s.cache⟩

namespace ModelSpec

/-- A table with one column, of some type. -/
def stamped (type : String) : Table := ⟨"stamp", [⟨"at", type, none⟩]⟩

/-- A model with a table for each of some types. -/
def stamps (cache : Bool) (types : List String) : ModelSpec := ⟨"model", cache, types.map stamped⟩

/-- A slice of pointers to the type is found, and a number needs no import. -/
theorem time_imported_exactly_stamped :
    Generator.blocked.isFile
      (Generator.plain.repository.pathOf (stamps true ["[]*time.Time", "uint64"]).importKey) =
        false ∧
    (∃ block, ((stamps true ["[]*time.Time", "uint64"]).planTable Generator.plain
          (stamped "[]*time.Time")).runOn Generator.blocked =
        (.ok ((stamps true ["[]*time.Time", "uint64"]).tableTarget .plain
          (stamped "[]*time.Time") block), Generator.blocked) ∧
      "time" ∈ importedPaths block ∧ (stamped "[]*time.Time").RefersToTime) ∧
    ∃ block, ((stamps true ["[]*time.Time", "uint64"]).planTable Generator.plain
          (stamped "uint64")).runOn Generator.blocked =
        (.ok ((stamps true ["[]*time.Time", "uint64"]).tableTarget .plain
          (stamped "uint64") block), Generator.blocked) ∧
      "time" ∉ importedPaths block ∧ ¬ (stamped "uint64").RefersToTime := by
  have hfile : Generator.blocked.isFile
      (Generator.plain.repository.pathOf (stamps true ["[]*time.Time", "uint64"]).importKey) =
        false := Generator.uncustomized_blocked.noFile _ rfl
  obtain ⟨block, -, hplan, -, himports⟩ := time_imported_exactly
    (stamps true ["[]*time.Time", "uint64"]) .plain hfile (stamped "[]*time.Time")
  obtain ⟨block', -, hplan', -, himports'⟩ := time_imported_exactly
    (stamps true ["[]*time.Time", "uint64"]) .plain hfile (stamped "uint64")
  refine ⟨hfile, ⟨block, hplan, ?_, by decide⟩, block', hplan', fun hmem => ?_, by decide⟩
  · exact himports.listed_iff.mpr (Table.usesTime_iff.mp (by decide))
  · exact absurd (Table.usesTime_iff.mpr (himports'.listed_iff.mp hmem)) (by decide)

/-- A package with a name that ends in `time` brings an import that is not used, and a duration
of package time comes without the import that it needs. -/
theorem time_imported_for_mytime :
    (∃ block, ((stamps false ["mytime.Time", "time.Duration"]).planTable Generator.plain
          (stamped "mytime.Time")).runOn Generator.blocked =
        (.ok ((stamps false ["mytime.Time", "time.Duration"]).tableTarget .plain
          (stamped "mytime.Time") block), Generator.blocked) ∧
      "time" ∈ importedPaths block ∧ ¬ (stamped "mytime.Time").RefersToTime) ∧
    ∃ block, ((stamps false ["mytime.Time", "time.Duration"]).planTable Generator.plain
          (stamped "time.Duration")).runOn Generator.blocked =
        (.ok ((stamps false ["mytime.Time", "time.Duration"]).tableTarget .plain
          (stamped "time.Duration") block), Generator.blocked) ∧
      "time" ∉ importedPaths block ∧ (stamped "time.Duration").RefersToTime := by
  have hfile : Generator.blocked.isFile
      (Generator.plain.repository.pathOf (stamps false ["mytime.Time", "time.Duration"]).importKey) =
        false := Generator.uncustomized_blocked.noFile _ rfl
  refine ⟨⟨_, planTable_runOn _ hfile _, ?_, by decide⟩,
    _, planTable_runOn _ hfile _, fun hmem => ?_, by decide⟩
  · exact (Table.importsTime _ _).listed_iff.mpr (Table.usesTime_iff.mp (by decide))
  · exact absurd (Table.usesTime_iff.mpr ((Table.importsTime _ _).listed_iff.mp hmem)) (by decide)

end ModelSpec

end Scaffold
