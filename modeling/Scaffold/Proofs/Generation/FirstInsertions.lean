import Mathlib.Data.Finset.Card
import Scaffold.Proofs.Generation.Packages
import Scaffold.Proofs.Template.Paths
import Scaffold.Proofs.Traversal
import Scaffold.Template.Compiled

/-!
# The order of first insertion

Imports and the names of a context stand in the order in which each was first inserted.
Inserting one again moves nothing: an import set stays as it is, and a context takes the new
value at the old place. A template only sees which values the names of a context have, so two
histories of insertions that end in the same values render alike.
-/

namespace Scaffold

/-- The texts of a list, each once, in the order in which they first stand in it. -/
structure ListsFirsts (given listed : List String) : Prop where
  mem_iff : ∀ a, a ∈ listed ↔ a ∈ given
  ordered : listed.Pairwise fun a b => given.idxOf a < given.idxOf b

/-- The value is what was last inserted under the name. -/
def LastUnder (key : String) (value : Value) (entries : List (String × Value)) : Prop :=
  ∃ before after, entries = before ++ (key, value) :: after ∧ ∀ entry ∈ after, entry.1 ≠ key

/-! ## Lists of first places -/

namespace ListsFirsts

variable {given listed listed' : List String}

theorem nil : ListsFirsts [] [] := by
  constructor
  · simp
  · exact List.Pairwise.nil

theorem nodup (h : ListsFirsts given listed) : listed.Nodup := by
  refine h.ordered.imp ?_
  rintro a b hlt rfl
  exact Nat.lt_irrefl _ hlt

/-- There is one such list. -/
theorem unique (h : ListsFirsts given listed) (h' : ListsFirsts given listed') :
    listed = listed' := by
  have hperm : listed.Perm listed' := by
    rw [List.perm_ext_iff_of_nodup h.nodup h'.nodup]
    intro a
    rw [h.mem_iff, h'.mem_iff]
  refine hperm.eq_of_pairwise ?_ h.ordered h'.ordered
  intro a b _ _ hab hba
  exact absurd hab (Nat.lt_asymm hba)

theorem iff_eq (h : ListsFirsts given listed) :
    ListsFirsts given listed' ↔ listed = listed' := by
  constructor
  · intro h'
    exact h.unique h'
  · rintro rfl
    exact h

theorem length_eq (h : ListsFirsts given listed) : listed.length = given.toFinset.card := by
  rw [← List.toFinset_card_of_nodup h.nodup]
  congr 1
  ext a
  simp [h.mem_iff]

/-- One more text goes to the end, unless it was listed before. -/
theorem concat (h : ListsFirsts given listed) (a : String) :
    ListsFirsts (given ++ [a]) (if a ∈ listed then listed else listed ++ [a]) := by
  -- the places of what was given before are the same in the longer list
  have hplace : ∀ b ∈ listed, (given ++ [a]).idxOf b = given.idxOf b := by
    intro b hb
    rw [List.idxOf_append, if_pos ((h.mem_iff b).mp hb)]
  have hordered : listed.Pairwise fun b c => (given ++ [a]).idxOf b < (given ++ [a]).idxOf c := by
    refine h.ordered.imp_of_mem ?_
    intro b c hb hc hlt
    rwa [hplace b hb, hplace c hc]
  by_cases ha : a ∈ listed
  · rw [if_pos ha]
    refine ⟨fun b => ?_, hordered⟩
    rw [List.mem_append, List.mem_singleton, h.mem_iff]
    constructor
    · exact Or.inl
    · rintro (hb | rfl)
      · exact hb
      · exact (h.mem_iff b).mp ha
  · rw [if_neg ha]
    constructor
    · intro b
      simp [h.mem_iff]
    · refine List.pairwise_append.mpr ⟨hordered, List.pairwise_singleton _ _, ?_⟩
      intro b hb c hc
      rw [List.mem_singleton.mp hc, hplace b hb, List.idxOf_append,
        if_neg (mt (h.mem_iff a).mpr ha)]
      have hlt := List.idxOf_lt_length_iff.mpr ((h.mem_iff b).mp hb)
      omega

end ListsFirsts

/-! ## Imports -/

namespace ImportSet

theorem listsFirsts_ofList (adds : List String) : ListsFirsts adds (ofList adds).paths := by
  induction adds using List.reverseRecOn with
  | nil => exact .nil
  | append_singleton adds path ih =>
      rw [ofList_concat, paths_add]
      exact ih.concat path

theorem quoted_inj {s s' : ImportSet} : s.quoted = s'.quoted ↔ s.paths = s'.paths :=
  quotation_injective.list_map.eq_iff

theorem nodup_quoted (s : ImportSet) : s.quoted.Nodup :=
  s.distinct.map quotation_injective

end ImportSet

/-! ## Contexts -/

namespace Context

theorem keys_insert (c : Context) (key : String) (value : Value) :
    (c.insert key value).keys = if key ∈ c.keys then c.keys else c.keys ++ [key] :=
  keys_insertEntry key value c.entries

theorem ofList_concat (entries : List (String × Value)) (entry : String × Value) :
    ofList (entries ++ [entry]) = (ofList entries).insert entry.1 entry.2 := by
  unfold ofList
  rw [List.foldl_append]
  rfl

theorem listsFirsts_ofList (entries : List (String × Value)) :
    ListsFirsts (entries.map (·.1)) (ofList entries).keys := by
  induction entries using List.reverseRecOn with
  | nil => exact .nil
  | append_singleton entries entry ih =>
      rw [ofList_concat, keys_insert, List.map_append]
      exact ih.concat entry.1

/-- The last insertions stand in front when a history is read backwards. -/
theorem get?_ofList_reverse (entries : List (String × Value)) (key : String) :
    (ofList entries).get? key = entries.reverse.lookup key := by
  induction entries using List.reverseRecOn with
  | nil => rfl
  | append_singleton entries entry ih =>
      obtain ⟨name, value⟩ := entry
      rw [ofList_concat, get?_insert, List.reverse_append, List.reverse_singleton,
        List.singleton_append, List.lookup_cons, ih]
      by_cases h : key = name
      · simp [h]
      · have hne : (key == name) = false := by simpa using h
        rw [if_neg h, hne]

theorem get?_ofList_iff {entries : List (String × Value)} {key : String} {value : Value} :
    (ofList entries).get? key = some value ↔ LastUnder key value entries := by
  rw [get?_ofList_reverse, List.lookup_eq_some_iff]
  constructor
  · rintro ⟨after, before, hsplit, hafter⟩
    refine ⟨before.reverse, after.reverse, ?_, ?_⟩
    · have hentries := congrArg List.reverse hsplit
      simpa using hentries
    · intro entry hentry he
      have hne := hafter entry (List.mem_reverse.mp hentry)
      simp [he] at hne
  · rintro ⟨before, after, rfl, hafter⟩
    refine ⟨after.reverse, before.reverse, by simp, ?_⟩
    intro entry hentry
    simpa using (hafter entry (List.mem_reverse.mp hentry)).symm

theorem contains_iff_mem_keys (c : Context) (key : String) :
    c.contains key = true ↔ key ∈ c.keys := by
  unfold contains
  rw [← not_iff_not, Bool.not_eq_true, Option.isSome_eq_false_iff, Option.isNone_iff_eq_none,
    get?, List.lookup_eq_none_iff, keys, List.mem_map]
  constructor
  · rintro h ⟨entry, hentry, rfl⟩
    simpa using h entry hentry
  · intro h entry hentry
    have hne : key ≠ entry.1 := fun he => h ⟨entry, hentry, he.symm⟩
    simpa using hne

end Context

/-! ## Templates -/

namespace SortedMap

variable {α : Type}

/-- The entries of a map are what it gives. -/
theorem mem_entries_iff (m : SortedMap α) (key : String) (value : α) :
    (key, value) ∈ m.entries ↔ m.get? key = some value := by
  constructor
  · intro h
    obtain ⟨before, after, hsplit⟩ := List.append_of_mem h
    refine List.lookup_eq_some_iff.mpr ⟨before, after, hsplit, ?_⟩
    -- the keys increase, so none in front of an entry is its own
    have hincreasing := m.increasing
    rw [hsplit] at hincreasing
    intro entry hentry
    have hlt : entry.1 < key :=
      (List.pairwise_append.mp hincreasing).2.2 entry hentry _ List.mem_cons_self
    have hne : key ≠ entry.1 := fun he => String.lt_irrefl key (he ▸ hlt)
    simpa using hne
  · exact mem_of_lookup

/-- Maps that give the same values are the same. -/
theorem eq_of_get? {m m' : SortedMap α} (h : ∀ key, m.get? key = m'.get? key) : m = m' := by
  have hnodup : ∀ m : SortedMap α, m.entries.Nodup := by
    intro m
    refine m.increasing.imp ?_
    rintro entry entry' hlt rfl
    exact String.lt_irrefl _ hlt
  have hperm : m.entries.Perm m'.entries := by
    rw [List.perm_ext_iff_of_nodup (hnodup m) (hnodup m')]
    rintro ⟨key, value⟩
    rw [mem_entries_iff, mem_entries_iff, h]
  refine eq_of_entries (hperm.eq_of_pairwise ?_ m.increasing m'.increasing)
  intro entry entry' _ _ hlt hlt'
  exact absurd hlt (String.lt_asymm hlt')

end SortedMap

/-- What an engine makes of a template in some surroundings depends on the values of the
names alone. -/
theorem CompiledTemplate.execute_congr (t : CompiledTemplate) {c c' : Context}
    (h : ∀ key, c.get? key = c'.get? key) (engine : Template.Engine) (world : Template.World) :
    t.execute c engine world = t.execute c' engine world := by
  have hvalues : c.values = c'.values := by
    apply SortedMap.eq_of_get?
    intro key
    rw [Context.get?_values, Context.get?_values, h]
  have hmissing : t.firstMissing? c = t.firstMissing? c' := by
    unfold firstMissing? Context.contains
    simp only [h]
  unfold execute outcome?
  rw [hvalues, hmissing]

/-! ## Histories of insertions -/

/-- Whatever is added to the imports of a file, they stand each once in the order in which they
were first added, and so do their quotations, which tell them apart. Whatever is inserted into
a context, its names stand in the order in which they were first inserted, each with the value
that was inserted last, and all histories with the same last values render alike, on every
engine and in all surroundings. -/
theorem insertions_keep_first_order :
    (∀ adds : List String,
      (∀ listed, ListsFirsts adds listed ↔ (ImportSet.ofList adds).paths = listed) ∧
      (∀ path, (ImportSet.ofList adds).contains path = true ↔ path ∈ adds) ∧
      (ImportSet.ofList adds).size = adds.toFinset.card ∧
      (ImportSet.ofList adds).quoted =
        (ImportSet.ofList adds).paths.map (fun path => "\"" ++ path ++ "\"") ∧
      (ImportSet.ofList adds).quoted.Nodup) ∧
    (∀ adds adds' : List String, (ImportSet.ofList adds).quoted = (ImportSet.ofList adds').quoted ↔
      (ImportSet.ofList adds).paths = (ImportSet.ofList adds').paths) ∧
    (∀ entries : List (String × Value),
      (∀ listed, ListsFirsts (entries.map (·.1)) listed ↔
        (Context.ofList entries).keys = listed) ∧
      (∀ key value, (Context.ofList entries).get? key = some value ↔
        LastUnder key value entries) ∧
      (∀ key, (Context.ofList entries).contains key = true ↔ key ∈ entries.map (·.1))) ∧
    ∀ entries entries' : List (String × Value),
      (∀ key value, LastUnder key value entries ↔ LastUnder key value entries') →
        ∀ (t : CompiledTemplate) (engine : Template.Engine) (world : Template.World),
          t.execute (Context.ofList entries) engine world =
            t.execute (Context.ofList entries') engine world := by
  refine ⟨fun adds => ?_, fun adds adds' => ImportSet.quoted_inj, fun entries => ?_, ?_⟩
  · have hfirsts := ImportSet.listsFirsts_ofList adds
    refine ⟨fun listed => hfirsts.iff_eq, fun path => ?_, hfirsts.length_eq, rfl,
      ImportSet.nodup_quoted _⟩
    unfold ImportSet.contains
    rw [List.contains_iff_mem, hfirsts.mem_iff]
  · have hfirsts := Context.listsFirsts_ofList entries
    refine ⟨fun listed => hfirsts.iff_eq, fun key value => Context.get?_ofList_iff, fun key => ?_⟩
    rw [Context.contains_iff_mem_keys, hfirsts.mem_iff]
  · intro entries entries' hlast t engine world
    refine t.execute_congr (fun key => ?_) engine world
    apply Option.ext
    intro value
    rw [Context.get?_ofList_iff, Context.get?_ofList_iff, hlast]

/-- A tag that is null at first, and another order of the same names. -/
def retagged : List (String × Value) :=
  [("tag", .null), ("port", .null), ("pkg", .text "api"), ("tag", .text "users")]

def tagged : List (String × Value) :=
  [("pkg", .text "api"), ("tag", .text "users"), ("port", .null)]

theorem insertions_keep_first_order_tags :
    (∀ key value, LastUnder key value retagged ↔ LastUnder key value tagged) ∧
    (Context.ofList retagged).keys = ["tag", "port", "pkg"] ∧
    (Context.ofList retagged).get? "port" = some .null ∧
    (Context.ofList tagged).keys = ["pkg", "tag", "port"] ∧
    ∀ (t : CompiledTemplate) (engine : Template.Engine) (world : Template.World),
      t.execute (Context.ofList retagged) engine world =
        t.execute (Context.ofList tagged) engine world := by
  have hlast : ∀ key value, LastUnder key value retagged ↔ LastUnder key value tagged := by
    intro key value
    rw [← Context.get?_ofList_iff, ← Context.get?_ofList_iff, Context.get?_ofList_reverse,
      Context.get?_ofList_reverse]
    -- the two histories only differ in the order of names and in a tag that did not last
    by_cases htag : key = "tag"
    · subst htag
      rfl
    · by_cases hport : key = "port"
      · subst hport
        rfl
      · have hother : (key == "tag") = false := by simpa using htag
        have hother' : (key == "port") = false := by simpa using hport
        simp [retagged, tagged, List.lookup_cons, hother, hother']
  obtain ⟨-, -, hcontext, hexecute⟩ := insertions_keep_first_order
  obtain ⟨hkeys, hget, -⟩ := hcontext retagged
  refine ⟨hlast, by decide, ?_, by decide, hexecute _ _ hlast⟩
  exact (hget _ _).mpr ⟨[("tag", .null)], [("pkg", .text "api"), ("tag", .text "users")], rfl,
    by decide⟩

end Scaffold
