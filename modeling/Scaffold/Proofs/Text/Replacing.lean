import Scaffold.Text.Cut

/-!
# Replacing behind a stem

A pattern that starts with a character that a stem lacks is found behind the
stem or not at all, so replacing it leaves the stem as it is and can change the
character behind it in one way only.
-/

namespace Scaffold.Text

/-- Where a pattern starts with a character that the stem lacks, a cut comes
behind the stem. -/
theorem cutAt_append {p : Char} {pat stem : List Char} (h : p ∉ stem) (cs : List Char) :
    cutAt (p :: pat) (stem ++ cs) =
      (cutAt (p :: pat) cs).map fun (before, after) => (stem ++ before, after) := by
  induction stem with
  | nil => simp
  | cons c stem ih =>
      have hc : p ≠ c := fun e => h (e ▸ List.mem_cons_self)
      have hstem := ih (List.not_mem_of_not_mem_cons h)
      rw [List.cons_append, cutAt, stripPrefixChars, if_neg hc]
      dsimp only
      rw [hstem, Option.map_map]
      rfl

theorem cutAt_of_not_mem {p : Char} (pat : List Char) {stem : List Char} (h : p ∉ stem) :
    cutAt (p :: pat) stem = none := by
  have happend : cutAt (p :: pat) (stem ++ []) = _ := cutAt_append h []
  rw [List.append_nil] at happend
  rw [happend]
  rfl

/-- A text that starts with a stem and goes on with one of some characters. -/
def Stemmed (stem : String) (seams : Char → Prop) (s : String) : Prop :=
  ∃ c rest, s.toList = stem.toList ++ c :: rest ∧ seams c

theorem toList_intercalate_cons {sep piece : String} {pieces : List String} (h : pieces ≠ []) :
    (String.intercalate sep (piece :: pieces)).toList =
      piece.toList ++ (sep.toList ++ (String.intercalate sep pieces).toList) := by
  rw [String.intercalate_cons_of_ne_nil h, String.toList_append, String.toList_append,
    List.append_assoc]

theorem splitText_go_ne_nil (pat : String) (fuel : Nat) (cs : List Char) :
    splitText.go pat fuel cs ≠ [] := by
  cases fuel with
  | zero => simp [splitText.go]
  | succ fuel =>
      unfold splitText.go
      split <;> simp

/-- Replacing changes nothing without a copy of the pattern, and else puts the
new text behind what comes before the first copy. -/
theorem toList_replace {pat : String} (by_ s : String) (hpat : pat.toList ≠ []) :
    (cutAt pat.toList s.toList = none ∧ Text.replace pat by_ s = s) ∨
      ∃ before after later, cutAt pat.toList s.toList = some (before, after) ∧
        (Text.replace pat by_ s).toList = before ++ (by_.toList ++ later) := by
  have hempty : pat.isEmpty = false := by
    rw [String.isEmpty_eq_false_iff]
    exact fun he => hpat (by rw [he]; rfl)
  unfold Text.replace splitText
  rw [hempty, if_neg (by simp)]
  cases hs : s.toList with
  | nil =>
      refine Or.inl ⟨?_, ?_⟩
      · rw [cutAt, if_neg (by simpa using hpat)]
      · have hnil : s = "" := String.toList_eq_nil_iff.mp hs
        rw [hnil]
        rfl
  | cons c cs =>
      rw [List.length_cons, splitText.go]
      cases hcut : cutAt pat.toList (c :: cs) with
      | none =>
          refine Or.inl ⟨rfl, ?_⟩
          rw [← hs]
          simp
      | some parts =>
          obtain ⟨before, after⟩ := parts
          let pieces := (splitText.go pat cs.length after).map String.ofList
          have hne : pieces ≠ [] := fun he =>
            splitText_go_ne_nil pat cs.length after (List.map_eq_nil_iff.mp he)
          refine Or.inr ⟨before, after, (String.intercalate by_ pieces).toList, rfl, ?_⟩
          dsimp only
          rw [List.map_cons, toList_intercalate_cons hne, String.toList_ofList]

/-- Replacing keeps the stem of a text, and the character behind it unless the
pattern starts there. -/
theorem Stemmed.replace {stem s pat by_ : String} {seams seams' : Char → Prop} {p : Char}
    {ps : List Char} (h : Stemmed stem seams s) (hpat : pat.toList = p :: ps)
    (hp : p ∉ stem.toList) (hkeep : ∀ c, seams c → seams' c ∨ c = p ∧ ps = [])
    (hnew : seams p → ∃ q qs, by_.toList = q :: qs ∧ seams' q) :
    Stemmed stem seams' (Text.replace pat by_ s) := by
  obtain ⟨c, rest, hs, hc⟩ := h
  have hcut : cutAt pat.toList s.toList =
      (cutAt (p :: ps) (c :: rest)).map fun (before, after) => (stem.toList ++ before, after) := by
    rw [hs, hpat, cutAt_append hp]
  -- a pattern of one character is found wherever that character stands
  have hfound : c = p ∧ ps = [] → cutAt (p :: ps) (c :: rest) = some ([], rest) := by
    rintro ⟨rfl, rfl⟩
    rw [cutAt, stripPrefixChars, if_pos rfl, stripPrefixChars]
  have hne : pat.toList ≠ [] := by simp [hpat]
  rcases toList_replace by_ s hne with ⟨hnone, heq⟩ | ⟨before, after, later, hsome, heq⟩
  · rw [heq]
    refine ⟨c, rest, hs, (hkeep c hc).resolve_right fun hsame => ?_⟩
    rw [hcut, hfound hsame] at hnone
    exact absurd hnone (by simp)
  · rw [hcut] at hsome
    obtain ⟨⟨before', after'⟩, hcut', hparts⟩ := Option.map_eq_some_iff.mp hsome
    obtain ⟨rfl, rfl⟩ : stem.toList ++ before' = before ∧ after' = after := by simpa using hparts
    have hsplit := eq_of_cutAt hcut'
    cases before' with
    | nil =>
        rw [List.nil_append, List.cons_append] at hsplit
        obtain ⟨rfl, -⟩ := List.cons.inj hsplit
        obtain ⟨q, qs, hq, hseam⟩ := hnew hc
        refine ⟨q, qs ++ later, ?_, hseam⟩
        rw [heq, hq, List.append_nil, List.cons_append]
    | cons d before' =>
        obtain ⟨rfl, -⟩ := List.cons.inj hsplit
        refine ⟨c, before' ++ (by_.toList ++ later), ?_, (hkeep c hc).resolve_right fun hsame => ?_⟩
        · rw [heq, List.append_assoc, List.cons_append]
        · rw [hfound hsame] at hcut'
          exact absurd hcut' (by simp)

theorem replace_of_not_mem {s pat by_ : String} {p : Char} {ps : List Char}
    (hpat : pat.toList = p :: ps) (hp : p ∉ s.toList) : Text.replace pat by_ s = s := by
  have hne : pat.toList ≠ [] := by simp [hpat]
  rcases toList_replace by_ s hne with ⟨-, heq⟩ | ⟨before, after, later, hsome, -⟩
  · exact heq
  · rw [hpat, cutAt_of_not_mem ps hp] at hsome
    exact absurd hsome (by simp)

end Scaffold.Text
