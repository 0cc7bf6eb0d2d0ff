import Scaffold.Proofs.Generation.Packages
import Scaffold.Proofs.Generation.Quotes

/-!
# The most specific annotation

The chain of a node asks its own annotations first and then those of what it belongs to. The
first one that says anything under a name counts, and annotations that say nothing, because
they lack the name or give it a text of blanks or quotes alone, hide nothing. So a chain can be
cut anywhere. The folder of a node follows from what its chain says: it lies below the default
one, by a name without slashes at its ends, or is the default one.
-/

namespace Scaffold

open Text

namespace Annotations

/-- Annotations say nothing under a name: they lack it, or unquoting leaves nothing of its text. -/
def Silent (key : String) (a : Annotations) : Prop :=
  ∀ text, a.get? key = some text → unquote text = ""

/-- What the first annotations of a chain say under a name that are not silent on it. -/
def FirstSaid (key value : String) (chain : List Annotations) : Prop :=
  ∃ before a after, chain = before ++ a :: after ∧ (∀ b ∈ before, Silent key b) ∧
    value ≠ "" ∧ ∃ text, a.get? key = some text ∧ unquote text = value

/-! ## Texts that say nothing -/

section

variable {cs : List Char} {key : String} {a : Annotations} {chain : List Annotations}

theorem withoutQuote_eq_iff {kept : List Char} (hkept : kept.head? ≠ some '"' → kept = []) :
    withoutQuote cs = kept ↔ cs = '"' :: kept ∨ kept = [] ∧ cs = [] := by
  cases cs with
  | nil =>
      rw [withoutQuote_of_head (by simp)]
      simp [eq_comm]
  | cons c cs =>
      by_cases hc : c = '"'
      · subst hc
        rw [withoutQuote_cons]
        simp
      · have hhead : (c :: cs).head? ≠ some '"' := by simpa using hc
        rw [withoutQuote_of_head hhead]
        constructor
        · rintro rfl
          exact absurd (hkept hhead) (List.cons_ne_nil c cs)
        · rintro (h | ⟨-, h⟩)
          · exact absurd (List.cons.inj h).1 hc
          · exact absurd h (List.cons_ne_nil c cs)

theorem unquoteChars_eq_nil_iff :
    unquoteChars cs = [] ↔ cs = [] ∨ cs = ['"'] ∨ cs = ['"', '"'] := by
  have hreversed : ∀ ds : List Char, withoutQuote ds.reverse = [] ↔ ds = ['"'] ∨ ds = [] := by
    intro ds
    rw [withoutQuote_eq_iff (fun _ => rfl), List.reverse_eq_nil_iff,
      List.reverse_eq_iff, List.reverse_singleton]
    simp
  rw [unquoteChars_eq, List.reverse_eq_nil_iff, hreversed, withoutQuote_eq_iff (by simp),
    withoutQuote_eq_iff (fun _ => rfl)]
  constructor
  · rintro ((h | ⟨h, -⟩) | h | ⟨-, h⟩)
    · exact Or.inr (Or.inr h)
    · exact absurd h (by simp)
    · exact Or.inr (Or.inl h)
    · exact Or.inl h
  · rintro (h | h | h)
    · exact Or.inr (Or.inr ⟨rfl, h⟩)
    · exact Or.inr (Or.inl h)
    · exact Or.inl (Or.inl h)

/-- Unquoting leaves nothing of blanks, nor of one quote or two with blanks around them. -/
theorem unquote_eq_empty_iff (s : String) :
    unquote s = "" ↔ (∀ c ∈ s.toList, isBlank c = true) ∨ trim s = "\"" ∨ trim s = "\"\"" := by
  have htrim : trim s = "" ↔ ∀ c ∈ s.toList, isBlank c = true := trimWhere_eq_empty_iff isBlank s
  have hquote : trim s = "\"" ↔ (trim s).toList = ['"'] := String.toList_inj.symm
  have hquotes : trim s = "\"\"" ↔ (trim s).toList = ['"', '"'] := String.toList_inj.symm
  rw [unquote, String.ofList_eq_empty_iff, unquoteChars_eq_nil_iff, String.toList_eq_nil_iff, htrim,
    hquote, hquotes]

theorem silent_iff : Silent key a ↔ a.get? key = none ∨ ∃ text, a.get? key = some text ∧
    ((∀ c ∈ text.toList, isBlank c = true) ∨ trim text = "\"" ∨ trim text = "\"\"") := by
  unfold Silent
  cases h : a.get? key with
  | none => simp
  | some text => simp [unquote_eq_empty_iff]

/-! ## Chains -/

theorem lookup_append (key : String) (chain later : List Annotations) :
    lookup key (chain ++ later) = (lookup key chain).or (lookup key later) := by
  unfold lookup
  rw [List.filterMap_append, List.map_append, List.find?_append]

theorem lookup_cons_of_silent (h : Silent key a) (chain : List Annotations) :
    lookup key (a :: chain) = lookup key chain := by
  unfold lookup
  cases hget : a.get? key with
  | none => simp only [List.filterMap_cons, hget]
  | some text =>
      have hempty := h text hget
      simp [hget, hempty]

theorem lookup_cons_of_said {text : String} (hget : a.get? key = some text)
    (hsaid : unquote text ≠ "") (chain : List Annotations) :
    lookup key (a :: chain) = some (unquote text) := by
  unfold lookup
  simp [hget, hsaid]

/-- Annotations are silent, or a chain that begins with them says what they say. -/
theorem silent_or_said (key : String) (a : Annotations) :
    Silent key a ∨ ∃ text, a.get? key = some text ∧ unquote text ≠ "" := by
  cases hget : a.get? key with
  | none =>
      refine Or.inl fun text h => ?_
      rw [hget] at h
      exact absurd h nofun
  | some text =>
      by_cases hempty : unquote text = ""
      · refine Or.inl fun text' h => ?_
        rw [hget] at h
        rwa [← Option.some.inj h]
      · exact Or.inr ⟨text, rfl, hempty⟩

theorem lookup_eq_none_iff : lookup key chain = none ↔ ∀ a ∈ chain, Silent key a := by
  induction chain with
  | nil => simp [lookup]
  | cons a chain ih =>
      rcases silent_or_said key a with hsilent | ⟨text, hget, hsaid⟩
      · rw [lookup_cons_of_silent hsilent, ih, List.forall_mem_cons]
        simp [hsilent]
      · rw [lookup_cons_of_said hget hsaid]
        simp only [reduceCtorEq, List.forall_mem_cons, false_iff, not_and]
        intro hsilent
        exact absurd (hsilent text hget) hsaid

theorem lookup_eq_some_iff {value : String} :
    lookup key chain = some value ↔ FirstSaid key value chain := by
  constructor
  · intro h
    -- silent annotations at the head join the ones that were passed over before
    induction chain with
    | nil => exact absurd h (by simp [lookup])
    | cons a chain ih =>
        rcases silent_or_said key a with hsilent | ⟨text, hget, hsaid⟩
        · rw [lookup_cons_of_silent hsilent] at h
          obtain ⟨before, a', after, rfl, hbefore, hrest⟩ := ih h
          exact ⟨a :: before, a', after, rfl, List.forall_mem_cons.mpr ⟨hsilent, hbefore⟩, hrest⟩
        · rw [lookup_cons_of_said hget hsaid] at h
          obtain rfl := Option.some.inj h
          exact ⟨[], a, chain, rfl, List.forall_mem_nil _, hsaid, text, hget, rfl⟩
  · rintro ⟨before, a, after, rfl, hbefore, hsaid, text, hget, rfl⟩
    rw [lookup_append, lookup_eq_none_iff.mpr hbefore, Option.none_or,
      lookup_cons_of_said hget hsaid]

theorem lookup_of_silent (h : Silent key a) (before after : List Annotations) :
    lookup key (before ++ a :: after) = lookup key (before ++ after) := by
  rw [lookup_append, lookup_append, lookup_cons_of_silent h]

end

/-! ## Folders -/

/-- A folder has a name at its end where the default one has. -/
theorem packageOf_folder {default : String} (h : Layout.packageOf default ≠ "")
    (chain : List Annotations) : Layout.packageOf (folder default chain) ≠ "" := by
  obtain ⟨hne, hlast⟩ := Layout.packageOf_ne_empty_iff.mp h
  exact Layout.packageOf_ne_empty_iff.mpr ⟨folder_ne_empty hne chain, getLast?_folder hlast chain⟩

/-- A chain gives what the first annotations say that are not silent, and nothing where all are
silent: those that lack the name, or give it blanks, or nothing but quotes. They can stand
anywhere in a chain and hide nothing, and a chain in two parts gives what the first one does, or
else what the second one does. The folder of a chain is the default one or lies right below it,
by the name that the chain gives without the slashes around it, and ends in a name where the
default one does. -/
theorem specific_annotations_first :
    (∀ key value chain, lookup key chain = some value ↔ FirstSaid key value chain) ∧
    (∀ key chain, lookup key chain = none ↔ ∀ a ∈ chain, Silent key a) ∧
    (∀ key a, Silent key a ↔ a.get? key = none ∨ ∃ text, a.get? key = some text ∧
      ((∀ c ∈ text.toList, isBlank c = true) ∨ trim text = "\"" ∨ trim text = "\"\"")) ∧
    (∀ key a before after, Silent key a →
      lookup key (before ++ a :: after) = lookup key (before ++ after)) ∧
    (∀ key chain later,
      lookup key (chain ++ later) = (lookup key chain).or (lookup key later)) ∧
    ∀ default chain,
      ((folder default chain = default ∧
          ∀ value, lookup groupKey chain = some value → ∀ c ∈ value.toList, c = '/') ∨
        ∃ name, name ≠ "" ∧ name.toList.head? ≠ some '/' ∧ name.toList.getLast? ≠ some '/' ∧
          folder default chain = default ++ "/" ++ name ∧
          ∃ value, lookup groupKey chain = some value ∧ ∃ front back : List Char,
            value.toList = front ++ (name.toList ++ back) ∧
              (∀ c ∈ front, c = '/') ∧ ∀ c ∈ back, c = '/') ∧
      (Layout.packageOf default ≠ "" → Layout.packageOf (folder default chain) ≠ "") := by
  refine ⟨fun _ _ _ => lookup_eq_some_iff, fun _ _ => lookup_eq_none_iff, fun _ _ => silent_iff,
    fun _ _ before after h => lookup_of_silent h before after, lookup_append, ?_⟩
  intro default chain
  exact ⟨folder_cases default chain, fun h => packageOf_folder h chain⟩

/-- A route with nothing between the quotes, and a group with a folder. -/
def quotedGroup : Annotations := SortedMap.ofList [("group", " \"\" ")]

def adminGroup : Annotations := SortedMap.ofList [("group", "\"/admin/\"")]

theorem specific_annotations_first_admin :
    Silent groupKey quotedGroup ∧ lookup groupKey [quotedGroup, adminGroup] = some "/admin/" ∧
    Layout.packageOf "internal/handler" ≠ "" ∧
    Layout.packageOf (folder "internal/handler" [quotedGroup, adminGroup]) ≠ "" := by
  obtain ⟨-, -, hsilent, hhidden, -, hfolder⟩ := specific_annotations_first
  have hquoted : Silent groupKey quotedGroup :=
    (hsilent _ _).mpr (Or.inr ⟨" \"\" ", by decide, Or.inr (Or.inr (by decide))⟩)
  have hpackage : Layout.packageOf "internal/handler" ≠ "" := by decide
  refine ⟨hquoted, ?_, hpackage, (hfolder _ _).2 hpackage⟩
  exact (hhidden groupKey quotedGroup [] [adminGroup] hquoted).trans (by decide)

end Annotations

end Scaffold
