import Scaffold.Generation.Annotations
import Scaffold.Proofs.Text.Splitting
import Scaffold.Proofs.Text.Trimming

/-!
# Quotes around annotations

The text of an annotation can stand between double quotes, which do not belong to it. The
two ends are looked at one after the other and not together, so a quote that stands at one
end alone is taken for half of a pair, and a text that is one quote loses it. Every other
text loses what surrounds it and nothing else.
-/

namespace Scaffold

open Text

namespace Annotations

/-- What stands between the quotes around a text, or the text itself without such a pair. -/
def unpaired (s : String) : String :=
  if 2 ≤ s.length ∧ startsWith "\"" s = true ∧ endsWith "\"" s = true then
    String.ofList (s.toList.drop 1).dropLast
  else s

/-- Quotes stand at both ends of a text or at neither, and no quote is both ends. -/
structure QuotesPaired (s : String) : Prop where
  agree : startsWith "\"" s = endsWith "\"" s
  apart : s ≠ "\""

/-- The texts that a chain has for a name, the most specific first. -/
def given (key : String) (chain : List Annotations) : List String :=
  chain.filterMap fun a => a.get? key

/-! ## The two ends of a text -/

section

variable {cs : List Char} {s : String}

theorem startsWith_quote_iff : startsWith "\"" s = true ↔ s.toList.head? = some '"' := by
  rw [startsWith_iff, List.head?_eq_some_iff]
  exact ⟨fun ⟨rest, h⟩ => ⟨rest, h.symm⟩, fun ⟨rest, h⟩ => ⟨rest, h.symm⟩⟩

theorem endsWith_quote_iff : endsWith "\"" s = true ↔ s.toList.getLast? = some '"' := by
  rw [endsWith_iff, List.getLast?_eq_some_iff]
  constructor
  · rintro ⟨before, rfl⟩
    exact ⟨before.toList, String.toList_append⟩
  · rintro ⟨before, h⟩
    exact ⟨String.ofList before, String.toList_inj.mp (by simp [h])⟩

/-- A text with a quote at its start and another one at its end. -/
theorem exists_between (hlength : 2 ≤ s.length) (hstart : startsWith "\"" s = true)
    (hend : endsWith "\"" s = true) : ∃ inner, s = "\"" ++ inner ++ "\"" := by
  obtain ⟨rest, hrest⟩ := List.head?_eq_some_iff.mp (startsWith_quote_iff.mp hstart)
  have hlast := endsWith_quote_iff.mp hend
  have hne : rest ≠ [] := by
    rintro rfl
    rw [← String.length_toList, hrest] at hlength
    exact absurd hlength (by decide)
  rw [hrest, List.getLast?_cons_of_ne_nil hne] at hlast
  obtain ⟨inner, rfl⟩ := List.getLast?_eq_some_iff.mp hlast
  exact ⟨String.ofList inner, String.toList_inj.mp (by simp [hrest])⟩

theorem unpaired_between (inner : String) : unpaired ("\"" ++ inner ++ "\"") = inner := by
  have hstart : startsWith "\"" ("\"" ++ inner ++ "\"") = true :=
    startsWith_quote_iff.mpr (by simp)
  have hend : endsWith "\"" ("\"" ++ inner ++ "\"") = true := endsWith_iff.mpr ⟨_, rfl⟩
  have hlength : 2 ≤ ("\"" ++ inner ++ "\"").length := by
    rw [String.length_append, String.length_append]
    have hquote : "\"".length = 1 := rfl
    omega
  rw [unpaired, if_pos ⟨hlength, hstart, hend⟩]
  simp

/-! ## Unquoting -/

/-- The characters without a quote at their start. -/
def withoutQuote (cs : List Char) : List Char := (stripPrefixChars ['"'] cs).getD cs

theorem withoutQuote_cons (cs : List Char) : withoutQuote ('"' :: cs) = cs := rfl

theorem withoutQuote_of_head (h : cs.head? ≠ some '"') : withoutQuote cs = cs := by
  cases cs with
  | nil => rfl
  | cons c cs =>
      have hc : ¬ '"' = c := fun he => h (by rw [he]; rfl)
      rw [withoutQuote, stripPrefixChars, if_neg hc]
      rfl

theorem length_withoutQuote (cs : List Char) : (withoutQuote cs).length ≤ cs.length := by
  by_cases h : cs.head? = some '"'
  · obtain ⟨rest, rfl⟩ := List.head?_eq_some_iff.mp h
    exact Nat.le_succ _
  · exact Nat.le_of_eq (congrArg List.length (withoutQuote_of_head h))

theorem withoutQuote_subset (cs : List Char) : withoutQuote cs ⊆ cs := by
  unfold withoutQuote
  cases h : stripPrefixChars ['"'] cs with
  | none => exact List.Subset.refl cs
  | some rest =>
      rw [stripPrefixChars_eq_some_iff.mp h]
      exact List.subset_append_right _ rest

/-- The ends are looked at one after the other. -/
theorem unquoteChars_eq (cs : List Char) :
    unquoteChars cs = (withoutQuote (withoutQuote cs).reverse).reverse := by
  unfold unquoteChars withoutQuote
  dsimp only
  generalize (stripPrefixChars ['"'] cs).getD cs = ds
  cases stripPrefixChars ['"'] ds.reverse with
  | none => exact (List.reverse_reverse ds).symm
  | some rest => rfl

/-- Unquoting gives nothing but characters of the text. -/
theorem unquote_subset (s : String) : (unquote s).toList ⊆ s.toList := by
  rw [unquote, String.toList_ofList, unquoteChars_eq]
  intro c hc
  have hfront := withoutQuote_subset _ (List.mem_reverse.mp hc)
  exact trimWhere_subset isBlank s (withoutQuote_subset _ (List.mem_reverse.mp hfront))

theorem unquoteChars_between (inner : List Char) :
    unquoteChars ('"' :: (inner ++ ['"'])) = inner := by
  rw [unquoteChars_eq, withoutQuote_cons, List.reverse_concat, withoutQuote_cons,
    List.reverse_reverse]

theorem unquoteChars_of_ends (hhead : cs.head? ≠ some '"') (hlast : cs.getLast? ≠ some '"') :
    unquoteChars cs = cs := by
  rw [unquoteChars_eq, withoutQuote_of_head hhead,
    withoutQuote_of_head (by rwa [List.head?_reverse]), List.reverse_reverse]

/-- A quote at an end is taken off, whatever the other end is. -/
theorem length_unquoteChars_lt (h : cs.head? = some '"' ∨ cs.getLast? = some '"') :
    (unquoteChars cs).length < cs.length := by
  rw [unquoteChars_eq, List.length_reverse]
  by_cases hhead : cs.head? = some '"'
  · obtain ⟨rest, rfl⟩ := List.head?_eq_some_iff.mp hhead
    have hrest : (withoutQuote rest.reverse).length ≤ rest.reverse.length :=
      length_withoutQuote rest.reverse
    rw [List.length_reverse] at hrest
    exact Nat.lt_succ_of_le hrest
  · obtain ⟨init, rfl⟩ := List.getLast?_eq_some_iff.mp (h.resolve_left hhead)
    rw [withoutQuote_of_head hhead, List.reverse_concat, withoutQuote_cons, List.length_reverse,
      List.length_append]
    exact Nat.lt_succ_self _

theorem unquote_eq_unpaired_iff (s : String) :
    unquote s = unpaired (trim s) ↔ QuotesPaired (trim s) := by
  unfold unquote
  generalize trim s = t
  -- with a pair the text is a quotation, and without one no character may be lost
  by_cases hpair : 2 ≤ t.length ∧ startsWith "\"" t = true ∧ endsWith "\"" t = true
  · obtain ⟨hlength, hstart, hend⟩ := hpair
    obtain ⟨inner, rfl⟩ := exists_between hlength hstart hend
    have hinner : unquoteChars ("\"" ++ inner ++ "\"").toList = inner.toList := by
      rw [String.toList_append, String.toList_append]
      exact unquoteChars_between inner.toList
    rw [hinner, unpaired_between, String.ofList_toList]
    refine iff_of_true rfl ⟨hstart.trans hend.symm, fun hone => ?_⟩
    rw [hone] at hlength
    exact absurd hlength (by decide)
  · rw [unpaired, if_neg hpair]
    constructor
    · intro h
      have hkept : unquoteChars t.toList = t.toList := by
        rw [← String.toList_ofList (l := unquoteChars t.toList), h]
      have hends : ¬ (t.toList.head? = some '"' ∨ t.toList.getLast? = some '"') := fun hends =>
        Nat.ne_of_lt (length_unquoteChars_lt hends) (congrArg List.length hkept)
      rw [not_or, ← startsWith_quote_iff, ← endsWith_quote_iff] at hends
      refine ⟨by simp [hends.1, hends.2], ?_⟩
      rintro rfl
      exact hends.1 (by decide)
    · rintro ⟨hagree, hapart⟩
      have hstart : startsWith "\"" t ≠ true := by
        intro hstart
        have hshort : t.length < 2 := by
          rw [← hagree] at hpair
          exact Nat.lt_of_not_le fun hlength => hpair ⟨hlength, hstart, hstart⟩
        obtain ⟨rest, hrest⟩ := List.head?_eq_some_iff.mp (startsWith_quote_iff.mp hstart)
        rw [← String.length_toList, hrest, List.length_cons] at hshort
        obtain rfl : rest = [] := List.length_eq_zero_iff.mp (by omega)
        exact hapart (String.toList_inj.mp hrest)
      have hend : endsWith "\"" t ≠ true := hagree ▸ hstart
      rw [unquoteChars_of_ends (mt startsWith_quote_iff.mpr hstart)
        (mt endsWith_quote_iff.mpr hend), String.ofList_toList]

end

/-! ## Looking annotations up -/

/-- Unquoting takes a pair of quotes off a trimmed text and nothing else exactly where quotes
stand at both of its ends or at neither, and it is not one quote. A chain all of whose texts
for a name are like that is looked up without the loss of a quote. -/
theorem unquoting_takes_pairs (s key : String) (chain : List Annotations) :
    (unquote s = unpaired (trim s) ↔ QuotesPaired (trim s)) ∧
    ((∀ text ∈ given key chain, QuotesPaired (trim text)) →
      lookup key chain =
        ((given key chain).map fun text => unpaired (trim text)).find? (· != "")) := by
  refine ⟨unquote_eq_unpaired_iff s, fun hpaired => ?_⟩
  have hunquoted : (given key chain).map unquote =
      (given key chain).map fun text => unpaired (trim text) :=
    List.map_congr_left fun text htext => (unquote_eq_unpaired_iff text).mpr (hpaired text htext)
  rw [← hunquoted]
  rfl

/-- A route that is silent on its summary, and a group that speaks between quotes. -/
def quotedSummaries : List Annotations :=
  [SortedMap.ofList [("summary", "\"\"")], SortedMap.ofList [("summary", " \"Say \"hi\"\" ")]]

theorem unquoting_takes_pairs_summary :
    (∀ text ∈ given "summary" quotedSummaries, QuotesPaired (trim text)) ∧
      lookup "summary" quotedSummaries = some "Say \"hi\"" := by
  have hpaired : ∀ text ∈ given "summary" quotedSummaries, QuotesPaired (trim text) := by
    change ∀ text ∈ ["\"\"", " \"Say \"hi\"\" "], QuotesPaired (trim text)
    exact List.forall_mem_cons.mpr ⟨⟨by decide, by decide⟩,
      List.forall_mem_singleton.mpr ⟨by decide, by decide⟩⟩
  have hfound := (unquoting_takes_pairs "" "summary" quotedSummaries).2 hpaired
  exact ⟨hpaired, hfound.trans (by decide)⟩

/-- A quotation at the end of a text loses its quote, and one quote is lost altogether. -/
theorem unquoting_breaks_quotations :
    unquote "Say \"hi\"" = "Say \"hi" ∧ unpaired (trim "Say \"hi\"") = "Say \"hi\"" ∧
    unquote "\"" = "" ∧ unpaired (trim "\"") = "\"" ∧
    lookup "summary" [SortedMap.ofList [("summary", "Say \"hi\"")]] = some "Say \"hi" ∧
    ¬ ∀ s, unquote s = unpaired (trim s) := by
  have hquotation : unquote "Say \"hi\"" = "Say \"hi" := by decide
  have hunpaired : unpaired (trim "Say \"hi\"") = "Say \"hi\"" := by decide
  refine ⟨hquotation, hunpaired, by decide, by decide, by decide, fun h => ?_⟩
  have hsame := (hquotation.symm.trans (h _)).trans hunpaired
  exact absurd hsame (by decide)

end Annotations

end Scaffold
