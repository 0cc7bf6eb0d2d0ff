import Scaffold.Number.Shortest
import Scaffold.Proofs.Text.Capitals
import Scaffold.Proofs.Text.Digits
import Scaffold.Proofs.Text.Splitting
import Scaffold.Proofs.Text.Trimming
import Scaffold.Text.Cluster
import Scaffold.Text.Literal

/-!
# Texts without backticks

No conversion, no cut and no other way to put texts together makes a backtick: every
backtick of a result was one of the texts that it is made of.
-/

namespace Scaffold.Text

/-- A text without backticks. -/
def Unticked (s : String) : Prop := '\x60' ∉ s.toList

instance (s : String) : Decidable (Unticked s) := inferInstanceAs (Decidable ('\x60' ∉ s.toList))

/-! ## Putting together and taking apart -/

section

variable {s t : String} {cs : List Char} {pieces : List String}

@[simp] theorem unticked_ofList : Unticked (String.ofList cs) ↔ '\x60' ∉ cs := by
  rw [Unticked, String.toList_ofList]

@[simp] theorem unticked_append : Unticked (s ++ t) ↔ Unticked s ∧ Unticked t := by
  rw [Unticked, String.toList_append, List.mem_append, not_or]
  rfl

@[simp] theorem unticked_empty : Unticked "" := by decide

theorem unticked_of_subset (h : t.toList ⊆ s.toList) (hs : Unticked s) : Unticked t :=
  fun ht => hs (h ht)

theorem unticked_singleton {c : Char} (h : c ≠ '\x60') : Unticked (String.singleton c) := by
  rw [Unticked, String.toList_singleton, List.mem_singleton]
  exact fun heq => h heq.symm

theorem unticked_join (h : ∀ piece ∈ pieces, Unticked piece) : Unticked (String.join pieces) := by
  induction pieces with
  | nil => exact unticked_empty
  | cons piece pieces ih =>
      rw [String.join_cons, unticked_append]
      exact ⟨h piece List.mem_cons_self, ih fun p hp => h p (List.mem_cons_of_mem _ hp)⟩

theorem unticked_intercalate (hs : Unticked s) (h : ∀ piece ∈ pieces, Unticked piece) :
    Unticked (String.intercalate s pieces) := by
  induction pieces with
  | nil => exact unticked_empty
  | cons piece pieces ih =>
      have hpiece := h piece List.mem_cons_self
      have hpieces := ih fun p hp => h p (List.mem_cons_of_mem _ hp)
      by_cases hne : pieces = []
      · rw [hne, String.intercalate_singleton]
        exact hpiece
      · rw [String.intercalate_cons_of_ne_nil hne, unticked_append, unticked_append]
        exact ⟨⟨hpiece, hs⟩, hpieces⟩

/-- A text between two others. -/
theorem unticked_between {before after : String} (hbefore : Unticked before) (hs : Unticked s)
    (hafter : Unticked after) : Unticked (before ++ s ++ after) :=
  unticked_append.mpr ⟨unticked_append.mpr ⟨hbefore, hs⟩, hafter⟩

/-- Items written one after the other with a separator between them. -/
theorem unticked_separated {α : Type} {w : List α → String} {f : α → String} {sep : String}
    (hnil : w [] = "") (hone : ∀ a, w [a] = f a)
    (hmore : ∀ a b items, w (a :: b :: items) = f a ++ sep ++ w (b :: items))
    (hsep : Unticked sep) {items : List α} (h : ∀ a ∈ items, Unticked (f a)) :
    Unticked (w items) := by
  induction items with
  | nil =>
      rw [hnil]
      exact unticked_empty
  | cons a items ih =>
      have ha := h a List.mem_cons_self
      cases items with
      | nil =>
          rw [hone]
          exact ha
      | cons b items =>
          rw [hmore, unticked_append]
          exact ⟨unticked_append.mpr ⟨ha, hsep⟩, ih fun c hc => h c (List.mem_cons_of_mem _ hc)⟩

end

/-! ## Trimming -/

section

variable {s : String}

theorem Unticked.trimStart (h : Unticked s) : Unticked (trimStart s) := by
  refine unticked_of_subset ?_ h
  rw [Text.trimStart, trimStartWhere, String.toList_ofList]
  exact (List.dropWhile_sublist _).subset

theorem Unticked.trimEnd (h : Unticked s) : Unticked (trimEnd s) :=
  unticked_of_subset (trimEndWhere_subset _ _) h

theorem Unticked.trim (h : Unticked s) : Unticked (trim s) :=
  unticked_of_subset (trimWhere_subset isBlank s) h

theorem trimStartCopies_go_suffix (pat : String) (fuel : Nat) (cs : List Char) :
    trimStartCopies.go pat fuel cs <:+ cs := by
  induction fuel generalizing cs with
  | zero => exact List.suffix_refl cs
  | succ fuel ih =>
      unfold trimStartCopies.go
      split
      · next rest hrest =>
        split
        · rw [stripPrefixChars_eq_some_iff.mp hrest]
          exact (ih rest).trans (List.suffix_append _ _)
        · exact List.suffix_refl cs
      · exact List.suffix_refl cs

theorem trimStartCopies_subset (pat s : String) : (trimStartCopies pat s).toList ⊆ s.toList := by
  rw [trimStartCopies, String.toList_ofList]
  exact (trimStartCopies_go_suffix _ _ _).subset

theorem Unticked.trimStartCopies (h : Unticked s) (pat : String) :
    Unticked (trimStartCopies pat s) :=
  unticked_of_subset (trimStartCopies_subset pat s) h

theorem Unticked.trimEndCopies (h : Unticked s) (pat : String) :
    Unticked (trimEndCopies pat s) := by
  refine unticked_of_subset ?_ h
  intro c hc
  rw [Text.trimEndCopies, String.toList_ofList, List.mem_reverse] at hc
  have hmem := trimStartCopies_subset _ _ hc
  rwa [String.toList_ofList, List.mem_reverse] at hmem

theorem Unticked.stripSuffix (h : Unticked s) (pat : String) : Unticked (stripSuffix pat s) := by
  unfold Text.stripSuffix
  split
  · next rest hrest =>
    refine unticked_ofList.mpr fun hmem => h ?_
    rw [← List.mem_reverse, stripPrefixChars_eq_some_iff.mp hrest]
    exact List.mem_append_right _ (List.mem_reverse.mp hmem)
  · exact h

end

/-! ## Splitting and replacing -/

section

variable {s t pat : String}

theorem Unticked.of_mem_splitOn (h : Unticked s) (sep : Char) :
    ∀ piece ∈ splitOn sep s, Unticked piece := by
  intro piece hpiece
  obtain ⟨cs, hcs, rfl⟩ := List.mem_map.mp hpiece
  exact unticked_ofList.mpr fun hmem => h (subset_of_mem_splitCharsWhere hcs hmem)

theorem subset_of_mem_splitText_go {fuel : Nat} {cs piece : List Char}
    (h : piece ∈ splitText.go pat fuel cs) : piece ⊆ cs := by
  induction fuel generalizing cs with
  | zero => rw [List.mem_singleton.mp h]; exact List.Subset.refl cs
  | succ fuel ih =>
      unfold splitText.go at h
      split at h
      · next before after hcut =>
        rw [eq_of_cutAt hcut]
        rcases List.mem_cons.mp h with rfl | h
        · exact List.subset_append_left _ _
        · exact List.Subset.trans (ih h)
            (List.subset_append_of_subset_right _ (List.subset_append_right _ _))
      · rw [List.mem_singleton.mp h]
        exact List.Subset.refl cs

theorem Unticked.of_mem_splitText (h : Unticked s) : ∀ piece ∈ splitText pat s, Unticked piece := by
  intro piece hpiece
  unfold splitText at hpiece
  split at hpiece
  · rcases List.mem_append.mp hpiece with hpiece | hpiece
    · rcases List.mem_cons.mp hpiece with rfl | hpiece
      · exact unticked_empty
      · obtain ⟨c, hc, rfl⟩ := List.mem_map.mp hpiece
        exact unticked_singleton fun heq => h (heq ▸ hc)
    · rw [List.mem_singleton.mp hpiece]
      exact unticked_empty
  · obtain ⟨cs, hcs, rfl⟩ := List.mem_map.mp hpiece
    exact unticked_ofList.mpr fun hmem => h (subset_of_mem_splitText_go hcs hmem)

theorem Unticked.replace (h : Unticked s) (ht : Unticked t) : Unticked (replace pat t s) :=
  unticked_intercalate ht h.of_mem_splitText

theorem dropReturn_subset (cs : List Char) : dropReturn cs ⊆ cs := by
  unfold dropReturn
  split
  · next rest hrest =>
    intro c hc
    rw [← List.mem_reverse, hrest]
    exact List.mem_cons_of_mem _ (List.mem_reverse.mp hc)
  · exact List.Subset.refl cs

theorem Unticked.of_mem_lines (h : Unticked s) : ∀ line ∈ lines s, Unticked line := by
  have hpieces : ∀ piece ∈ splitCharsWhere (· == '\n') s.toList, '\x60' ∉ piece :=
    fun piece hpiece hmem => h (subset_of_mem_splitCharsWhere hpiece hmem)
  have hended : ∀ line ∈ (splitCharsWhere (· == '\n') s.toList).dropLast.map
      (fun piece => String.ofList (dropReturn piece)), Unticked line := by
    intro line hline
    obtain ⟨piece, hpiece, rfl⟩ := List.mem_map.mp hline
    exact unticked_ofList.mpr fun hmem =>
      hpieces piece ((List.dropLast_sublist _).subset hpiece) (dropReturn_subset piece hmem)
  intro line hline
  unfold lines at hline
  dsimp only at hline
  split at hline
  · exact hended line hline
  · exact hended line hline
  · next last hne hlast =>
    rcases List.mem_append.mp hline with hline | hline
    · exact hended line hline
    · rw [List.mem_singleton.mp hline]
      exact unticked_ofList.mpr (hpieces last (List.mem_of_getLast? hlast))

theorem Unticked.of_mem_clusters (h : Unticked s) : ∀ cluster ∈ clusters s, Unticked cluster := by
  intro cluster hcluster
  obtain ⟨cs, hcs, rfl⟩ := List.mem_map.mp hcluster
  refine unticked_ofList.mpr fun hmem => h ?_
  rw [← flatten_clusterChars s.toList]
  exact List.mem_flatten.mpr ⟨cs, hcs, hmem⟩

end

/-! ## Case -/

section

variable {s : String}

theorem isCaseless_backtick : isCaseless '\x60' = true := by decide +kernel

theorem backtick_of_mem_upperChar {c : Char} (h : '\x60' ∈ upperChar c) : c = '\x60' :=
  (eq_of_mem_cases_of_isCaseless isCaseless_backtick).2 h

theorem Unticked.toLower (h : Unticked s) : Unticked (toLower s) :=
  unticked_ofList.mpr fun hmem => h (mem_of_mem_lowerChars isCaseless_backtick hmem)

theorem Unticked.toUpper (h : Unticked s) : Unticked (toUpper s) := by
  refine unticked_ofList.mpr fun hmem => h ?_
  obtain ⟨c, hc, hmem⟩ := List.mem_flatMap.mp hmem
  rwa [backtick_of_mem_upperChar hmem] at hc

end

/-! ## Numbers -/

theorem not_mem_of_digits {cs : List Char} (h : ∀ c ∈ cs, isAsciiDigit c = true) :
    '\x60' ∉ cs := fun hmem => absurd (h _ hmem) (by decide)

theorem unticked_toString_nat (n : Nat) : Unticked (toString n) := by
  have hdigits : (toString n).toList = Nat.toDigits 10 n := String.toList_ofList
  rw [Unticked, hdigits]
  exact not_mem_of_digits fun c => isAsciiDigit_of_mem_toDigits

theorem unticked_toString_int (n : Int) : Unticked (toString n) := by
  cases n with
  | ofNat n => exact unticked_toString_nat n
  | negSucc n => exact unticked_append.mpr ⟨by decide, unticked_toString_nat (n + 1)⟩

section

open Number

theorem unticked_zeros (n : Nat) : Unticked (zeros n) :=
  unticked_ofList.mpr fun hmem => absurd (List.eq_of_mem_replicate hmem) (by decide)

theorem unticked_positionalText {digits : String} (h : Unticked digits) (point : Int) :
    Unticked (positionalText digits point) := by
  unfold positionalText
  dsimp only
  split
  · simp [unticked_zeros, h, show Unticked "0." by decide]
  · split
    · have htake : '\x60' ∉ digits.toList.take point.toNat := fun hmem =>
        h (List.mem_of_mem_take hmem)
      have hdrop : '\x60' ∉ digits.toList.drop point.toNat := fun hmem =>
        h (List.mem_of_mem_drop hmem)
      simp [htake, hdrop, show Unticked "." by decide]
    · simp [unticked_zeros, h]

theorem unticked_signText (x : Binary64) : Unticked (signText x) := by
  unfold signText
  split <;> decide

theorem unticked_positional (x : Binary64) : Unticked (positional x) := by
  have hsign := unticked_signText x
  unfold positional
  split
  · split
    · decide
    · exact unticked_append.mpr ⟨hsign, by decide⟩
  · split
    · exact unticked_append.mpr ⟨hsign, by decide⟩
    · exact unticked_append.mpr ⟨hsign, unticked_positionalText (unticked_toString_nat _) _⟩

theorem unticked_scientific (x : Binary64) : Unticked (scientific x) := by
  have hsign := unticked_signText x
  unfold scientific
  split
  · decide
  · split
    · exact unticked_append.mpr ⟨hsign, by decide⟩
    · dsimp only
      have hdigits := unticked_toString_nat (shortest x.significand x.exponent).digits
      refine unticked_append.mpr ⟨hsign, ?_⟩
      split
      · exact unticked_append.mpr ⟨unticked_positionalText hdigits _, by decide⟩
      · split
        · exact unticked_positionalText hdigits _
        · have hpower : ∀ point : Int, Unticked ((if 0 < point then "+" else "") ++
              toString (point - 1)) := fun point =>
            unticked_append.mpr ⟨by split <;> decide, unticked_toString_int _⟩
          split
          · next one hone =>
            rw [Unticked, hone] at hdigits
            exact unticked_append.mpr ⟨unticked_append.mpr
              ⟨unticked_singleton fun heq => hdigits (heq ▸ List.mem_cons_self), by decide⟩,
              hpower _⟩
          · next first rest hne hrest =>
            rw [Unticked, hrest] at hdigits
            refine unticked_append.mpr ⟨unticked_append.mpr ⟨unticked_append.mpr
              ⟨unticked_append.mpr ⟨unticked_singleton fun heq => ?_, by decide⟩, ?_⟩,
              by decide⟩, hpower _⟩
            · exact hdigits (heq ▸ List.mem_cons_self)
            · exact unticked_ofList.mpr fun hmem => hdigits (List.mem_cons_of_mem _ hmem)
          · decide

end

/-! ## Literals -/

theorem unticked_hexText (n : Nat) : Unticked (hexText n) := by
  have hdigit : ∀ d < 16, '\x60' ∉ [Nat.digitChar d] := by decide
  refine unticked_ofList.mpr ?_
  induction n using Nat.strongRecOn with
  | ind n ih =>
      by_cases hn : n < 16
      · rw [Nat.toDigits_of_lt_base hn]
        exact hdigit n hn
      · rw [Nat.toDigits_of_base_le (by decide) (by omega), List.mem_append, not_or]
        exact ⟨ih (n / 16) (by omega), hdigit (n % 16) (by omega)⟩

theorem unticked_literalChar {c : Char} (h : c ≠ '\x60') : Unticked (literalChar c) := by
  have hhex := unticked_hexText c.toNat
  unfold literalChar
  repeat' split
  any_goals decide
  · exact unticked_append.mpr ⟨unticked_append.mpr ⟨by decide, hhex⟩, by decide⟩
  · exact unticked_singleton h

theorem Unticked.literal {s : String} (h : Unticked s) : Unticked (literal s) := by
  unfold Text.literal
  refine unticked_append.mpr ⟨unticked_append.mpr ⟨by decide, unticked_join ?_⟩, by decide⟩
  intro piece hpiece
  obtain ⟨c, hc, rfl⟩ := List.mem_map.mp hpiece
  exact unticked_literalChar fun heq => h (heq ▸ hc)

end Scaffold.Text
