import Scaffold.Text.Cut

/-!
# Splitting at a character

Splitting turns joined texts back into their pieces: `splitCharsWhere` is a
homomorphism from texts with a separator between them to lists of pieces, so
`splitOn` undoes `String.intercalate` on pieces that hold no separator.
-/

namespace Scaffold.Text

/-! ## Separators as seams -/

theorem splitCharsWhere_cons (p : Char → Bool) (c : Char) (cs : List Char) :
    ∃ line lines, splitCharsWhere p cs = line :: lines ∧ splitCharsWhere p (c :: cs) =
      if p c then [] :: line :: lines else (c :: line) :: lines := by
  obtain ⟨line, lines, hlines⟩ := List.exists_cons_of_ne_nil (splitCharsWhere_ne_nil p cs)
  refine ⟨line, lines, hlines, ?_⟩
  rw [splitCharsWhere, hlines]

theorem splitCharsWhere_append (p : Char → Bool) (sep : Char) (hsep : p sep = true)
    (before after : List Char) :
    splitCharsWhere p (before ++ sep :: after) =
      splitCharsWhere p before ++ splitCharsWhere p after := by
  induction before with
  | nil =>
      obtain ⟨piece, pieces, h, hcons⟩ := splitCharsWhere_cons p sep after
      rw [List.nil_append, hcons, if_pos hsep, h]
      rfl
  | cons c before ih =>
      obtain ⟨piece, pieces, h, -⟩ := splitCharsWhere_cons p c before
      rw [h] at ih
      by_cases hc : p c = true
      · simp [splitCharsWhere, ih, h, hc]
      · simp [splitCharsWhere, ih, h, hc]

theorem splitCharsWhere_of_forall_not {p : Char → Bool} {cs : List Char}
    (h : ∀ c ∈ cs, p c = false) : splitCharsWhere p cs = [cs] := by
  induction cs with
  | nil => rfl
  | cons c cs ih =>
      have hc : p c = false := h c List.mem_cons_self
      have hcs := ih fun d hd => h d (List.mem_cons_of_mem _ hd)
      simp [splitCharsWhere, hcs, hc]

theorem splitCharsWhere_of_not_mem {sep : Char} {cs : List Char} (h : sep ∉ cs) :
    splitCharsWhere (· == sep) cs = [cs] :=
  splitCharsWhere_of_forall_not fun c hc => by
    have hne : c ≠ sep := fun e => h (e ▸ hc)
    simpa using hne

theorem subset_of_mem_splitCharsWhere {p : Char → Bool} {cs piece : List Char}
    (h : piece ∈ splitCharsWhere p cs) : piece ⊆ cs := by
  induction cs generalizing piece with
  | nil =>
      rw [splitCharsWhere, List.mem_singleton] at h
      rw [h]
      exact List.Subset.refl []
  | cons d ds ih =>
      have hlater : ∀ q ∈ splitCharsWhere p ds, q ⊆ d :: ds := fun q hq =>
        List.subset_cons_of_subset d (ih hq)
      unfold splitCharsWhere at h
      split at h
      · rw [List.mem_singleton.mp h]
        exact List.nil_subset _
      · next first rest hsplit =>
        have hfirst : first ⊆ ds := ih (hsplit ▸ List.mem_cons_self)
        split at h
        · rcases List.mem_cons.mp h with rfl | h
          · exact List.nil_subset _
          · exact hlater piece (hsplit ▸ h)
        · rcases List.mem_cons.mp h with rfl | h
          · exact List.cons_subset_cons d hfirst
          · exact hlater piece (hsplit ▸ List.mem_cons_of_mem _ h)

/-! ## Splitting texts -/

theorem splitOn_ne_nil (sep : Char) (s : String) : splitOn sep s ≠ [] := by
  simpa [splitOn] using splitCharsWhere_ne_nil _ s.toList

theorem splitOn_append (sep : Char) (s t : String) :
    splitOn sep (s ++ String.singleton sep ++ t) = splitOn sep s ++ splitOn sep t := by
  have h := splitCharsWhere_append (· == sep) sep (by simp) s.toList t.toList
  simp [splitOn, h]

theorem splitOn_of_not_mem {sep : Char} {s : String} (h : sep ∉ s.toList) :
    splitOn sep s = [s] := by
  have hs : splitCharsWhere (· == sep) s.toList = [s.toList] := splitCharsWhere_of_not_mem h
  simp [splitOn, hs]

/-- A front without a separator belongs to the first piece. -/
theorem splitOn_front {sep : Char} {front : String} (h : sep ∉ front.toList) (s : String) :
    ∃ piece pieces, splitOn sep s = piece :: pieces ∧
      splitOn sep (front ++ s) = (front ++ piece) :: pieces := by
  obtain ⟨piece, pieces, hpieces⟩ :=
    List.exists_cons_of_ne_nil (splitCharsWhere_ne_nil (· == sep) s.toList)
  have hfront : ∀ cs : List Char, sep ∉ cs →
      splitCharsWhere (· == sep) (cs ++ s.toList) = (cs ++ piece) :: pieces := by
    intro cs hcs
    induction cs with
    | nil => exact hpieces
    | cons c cs ih =>
        rw [List.mem_cons, not_or] at hcs
        have hc : (c == sep) = false := by simpa using Ne.symm hcs.1
        rw [List.cons_append, splitCharsWhere, ih hcs.2, hc]
        rfl
  refine ⟨String.ofList piece, pieces.map String.ofList, ?_, ?_⟩
  · rw [splitOn, hpieces, List.map_cons]
  · rw [splitOn, String.toList_append, hfront _ h, List.map_cons, String.ofList_append,
      String.ofList_toList]

/-- There is one piece more than there are separators. -/
theorem length_splitOn (sep : Char) (s : String) :
    (splitOn sep s).length = s.toList.count sep + 1 := by
  unfold splitOn
  rw [List.length_map]
  induction s.toList with
  | nil => rfl
  | cons c cs ih =>
      obtain ⟨piece, pieces, hpieces, hcons⟩ := splitCharsWhere_cons (· == sep) c cs
      rw [hpieces] at ih
      rw [hcons, List.count_cons]
      by_cases hc : (c == sep) = true
      · rw [if_pos hc, if_pos hc, List.length_cons, ih]
      · rw [if_neg hc, if_neg hc, Nat.add_zero, ← ih]
        rfl

/-- No piece holds the separator. -/
theorem not_mem_of_mem_splitOn {sep : Char} {s piece : String} (h : piece ∈ splitOn sep s) :
    sep ∉ piece.toList := by
  obtain ⟨cs, hcs, rfl⟩ := List.mem_map.mp h
  intro hsep
  have hnot := not_of_mem_splitCharsWhere hcs (by simpa using hsep)
  simp at hnot

/-- The last piece of a text that does not end in a separator is not empty. -/
theorem splitOn_last {sep : Char} {s : String} (hne : s ≠ "")
    (hlast : s.toList.getLast? ≠ some sep) :
    ∃ before last, splitOn sep s = before ++ [last] ∧ last ≠ "" := by
  by_cases hmem : sep ∈ s.toList
  · obtain ⟨after, before, hsplit, hafter⟩ :=
      List.eq_append_cons_of_mem (List.mem_reverse.mpr hmem)
    have hs : s = String.ofList before.reverse ++ String.singleton sep ++
        String.ofList after.reverse := by
      refine String.toList_inj.mp ?_
      have hr := congrArg List.reverse hsplit
      simpa using hr
    refine ⟨splitOn sep (String.ofList before.reverse), String.ofList after.reverse, ?_, ?_⟩
    · have hpiece : sep ∉ (String.ofList after.reverse).toList := by simpa using hafter
      rw [hs, splitOn_append, splitOn_of_not_mem hpiece]
    · intro hempty
      rw [hempty, String.append_empty] at hs
      exact hlast (by rw [hs]; simp)
  · exact ⟨[], s, splitOn_of_not_mem hmem, hne⟩

/-- Joined pieces come back as they were. -/
theorem splitOn_intercalate {sep : Char} {pieces : List String} (hne : pieces ≠ [])
    (h : ∀ piece ∈ pieces, sep ∉ piece.toList) :
    splitOn sep (String.intercalate (String.singleton sep) pieces) = pieces := by
  induction pieces with
  | nil => exact absurd rfl hne
  | cons first rest ih =>
      have hfirst := splitOn_of_not_mem (h first List.mem_cons_self)
      by_cases hrest : rest = []
      · subst hrest
        rw [String.intercalate_singleton]
        exact hfirst
      · have hpieces := ih hrest fun piece hp => h piece (List.mem_cons_of_mem _ hp)
        rw [String.intercalate_cons_of_ne_nil hrest, splitOn_append, hfirst, hpieces]
        rfl

theorem intercalate_splitOn (sep : Char) (s : String) :
    String.intercalate (String.singleton sep) (splitOn sep s) = s := by
  refine String.toList_inj.mp ?_
  rw [String.toList_intercalate, splitOn, List.map_map]
  have hmap : (splitCharsWhere (· == sep) s.toList).map (String.toList ∘ String.ofList) =
      splitCharsWhere (· == sep) s.toList := by
    rw [show String.toList ∘ String.ofList = id from funext fun cs => String.toList_ofList,
      List.map_id]
  rw [hmap, String.toList_singleton, intercalate_splitCharsWhere]

/-- What joined pieces hold besides separators is what they hold themselves. -/
theorem filter_intercalate (sep : Char) (pieces : List String) :
    (String.intercalate (String.singleton sep) pieces).toList.filter (· != sep) =
      pieces.flatMap fun piece => piece.toList.filter (· != sep) := by
  induction pieces with
  | nil => rfl
  | cons piece pieces ih =>
      by_cases hpieces : pieces = []
      · simp [hpieces]
      · rw [String.intercalate_cons_of_ne_nil hpieces, String.toList_append,
          String.toList_append, List.filter_append, List.filter_append, ih, List.flatMap_cons]
        simp

/-- Empty pieces hold nothing. -/
theorem flatMap_filter_ne_empty (f : Char → Bool) (pieces : List String) :
    (pieces.filter (· != "")).flatMap (fun piece => piece.toList.filter f) =
      pieces.flatMap fun piece => piece.toList.filter f := by
  induction pieces with
  | nil => rfl
  | cons piece pieces ih =>
      by_cases hpiece : piece = ""
      · simp [hpiece, ih]
      · simp [hpiece, ih]

/-- Joined texts have at least the bytes of their pieces. -/
theorem mul_le_utf8ByteSize_intercalate (sep : String) {n : Nat} {pieces : List String}
    (h : ∀ piece ∈ pieces, n ≤ piece.utf8ByteSize) :
    pieces.length * n ≤ (String.intercalate sep pieces).utf8ByteSize := by
  induction pieces with
  | nil =>
      rw [List.length_nil, Nat.zero_mul]
      exact Nat.zero_le _
  | cons piece pieces ih =>
      have hpiece := h piece List.mem_cons_self
      by_cases hpieces : pieces = []
      · simpa [hpieces] using hpiece
      · have hrest := ih fun other hother => h other (List.mem_cons_of_mem _ hother)
        rw [String.intercalate_cons_of_ne_nil hpieces, String.utf8ByteSize_append,
          String.utf8ByteSize_append, List.length_cons, Nat.succ_mul]
        omega

/-! ## Prefixes and suffixes -/

theorem startsWith_iff {pat s : String} : startsWith pat s = true ↔ pat.toList <+: s.toList := by
  unfold startsWith
  rw [Option.isSome_iff_exists]
  constructor
  · rintro ⟨rest, h⟩
    exact ⟨rest, (stripPrefixChars_eq_some_iff.mp h).symm⟩
  · rintro ⟨rest, h⟩
    exact ⟨rest, stripPrefixChars_eq_some_iff.mpr h.symm⟩

theorem endsWith_iff {pat s : String} : endsWith pat s = true ↔ ∃ before, s = before ++ pat := by
  unfold endsWith
  rw [Option.isSome_iff_exists]
  constructor
  · rintro ⟨rest, h⟩
    refine ⟨String.ofList rest.reverse, String.toList_inj.mp ?_⟩
    have hr := congrArg List.reverse (stripPrefixChars_eq_some_iff.mp h)
    simpa using hr
  · rintro ⟨before, rfl⟩
    exact ⟨before.toList.reverse, stripPrefixChars_eq_some_iff.mpr (by simp)⟩

/-! ## First places -/

section

variable {pat cs before after : List Char}

/-- A cut comes at the first of all places. -/
theorem length_le_of_cutAt (h : cutAt pat cs = some (before, after)) {b a : List Char}
    (hcs : cs = b ++ (pat ++ a)) : before.length ≤ b.length := by
  induction cs generalizing before b with
  | nil =>
      have hbefore := eq_of_cutAt h
      rw [(List.append_eq_nil_iff.mp hbefore.symm).1]
      exact Nat.zero_le _
  | cons c cs ih =>
      unfold cutAt at h
      split at h
      · obtain ⟨rfl, -⟩ : [] = before ∧ _ := by simpa using h
        exact Nat.zero_le _
      · next hstrip =>
        obtain ⟨⟨before', after'⟩, hcut, hparts⟩ := Option.map_eq_some_iff.mp h
        obtain ⟨rfl, rfl⟩ : c :: before' = before ∧ after' = after := by simpa using hparts
        cases b with
        | nil =>
            rw [List.nil_append] at hcs
            rw [stripPrefixChars_eq_some_iff.mpr hcs] at hstrip
            exact absurd hstrip (Option.some_ne_none _)
        | cons d b =>
            exact Nat.succ_le_succ (ih hcut (List.cons.inj hcs).2)

theorem cutAt_eq_none_iff : cutAt pat cs = none ↔ ∀ b a, cs ≠ b ++ (pat ++ a) := by
  constructor
  · intro h b a hcs
    induction b generalizing cs with
    | nil =>
        rw [List.nil_append] at hcs
        cases cs with
        | nil =>
            obtain ⟨rfl, -⟩ := List.append_eq_nil_iff.mp hcs.symm
            exact absurd h (by simp [cutAt])
        | cons c cs =>
            rw [cutAt, stripPrefixChars_eq_some_iff.mpr hcs] at h
            exact absurd h (Option.some_ne_none _)
    | cons d b ih =>
        rw [hcs, List.cons_append, cutAt] at h
        split at h
        · exact absurd h (Option.some_ne_none _)
        · exact ih (Option.map_eq_none_iff.mp h) rfl
  · intro h
    cases hcut : cutAt pat cs with
    | none => rfl
    | some parts => exact absurd (eq_of_cutAt hcut) (h parts.1 parts.2)

end

end Scaffold.Text
