import Mathlib.Data.List.Forall2
import Scaffold.Proofs.Text.Splitting

/-!
# Lines with remarks

A line of code can end in a remark, which two slashes set off. A remark without a line break
stays on its line, so a text has as many lines with its remarks as it has without them, and
each line is that of the code with a remark behind it or with none. A break in a remark makes
one more line, whatever stands there.
-/

namespace Scaffold

open Text

/-- A line of code, alone or with a remark at its end. -/
inductive Remarked (code : String) : String → Prop
  | bare : Remarked code code
  | remark (gap text : String) (hgap : gap = "" ∨ gap = " ") :
      Remarked code (code ++ gap ++ "// " ++ text)

/-- Slashes and what stands behind them. -/
def IsRemark (cs : List Char) : Prop :=
  ∃ gap : String, (gap = "" ∨ gap = " ") ∧ (gap ++ "// ").toList <+: cs

/-- The lines of some code, some of which end in remarks. -/
def RemarkedLines (code text : List Char) : Prop :=
  List.Forall₂ (fun line line' => ∃ remark, line' = line ++ remark ∧
      (remark = [] ∨ IsRemark remark))
    (splitCharsWhere (· == '\n') code) (splitCharsWhere (· == '\n') text)

/-- Pieces of code, each with what ends its last line. -/
def withRemarks (pieces : List (List Char × List Char)) (rest : List Char) : List Char :=
  pieces.foldr (fun piece cs => piece.1 ++ (piece.2 ++ '\n' :: cs)) rest

/-- The code of some pieces without what ends their last lines. -/
def withoutRemarks (pieces : List (List Char × List Char)) (rest : List Char) : List Char :=
  withRemarks (pieces.map fun piece => (piece.1, [])) rest

/-- How many line breaks stand in some texts. -/
def breaks (texts : List String) : Nat := (texts.flatMap String.toList).count '\n'

/-- How many line breaks stand behind the code of some pieces. -/
def breaksBehind (pieces : List (List Char × List Char)) : Nat :=
  (pieces.flatMap (·.2)).count '\n'

section

variable {code text code' text' remark : List Char} {pieces : List (List Char × List Char)}

theorem isRemark_append (rest : List Char) : IsRemark ("// ".toList ++ rest) :=
  ⟨"", .inl rfl, List.prefix_append _ _⟩

theorem isRemark_gap_append (rest : List Char) : IsRemark (" // ".toList ++ rest) :=
  ⟨" ", .inr rfl, List.prefix_append _ _⟩

theorem RemarkedLines.refl (code : List Char) : RemarkedLines code code :=
  List.forall₂_same.mpr fun line _ => ⟨[], (List.append_nil line).symm, .inl rfl⟩

/-- More in front of some code changes none of its remarks. -/
theorem RemarkedLines.prepend (h : RemarkedLines code text) (front : List Char) :
    RemarkedLines (front ++ code) (front ++ text) := by
  -- a break starts one more line on both sides, any other character lengthens the first ones
  induction front with
  | nil => exact h
  | cons c front ih =>
      obtain ⟨line, lines, hlines, hcode⟩ := splitCharsWhere_cons (· == '\n') c (front ++ code)
      obtain ⟨line', lines', hlines', htext⟩ := splitCharsWhere_cons (· == '\n') c (front ++ text)
      unfold RemarkedLines at ih ⊢
      rw [hlines, hlines'] at ih
      rw [List.cons_append, List.cons_append, hcode, htext]
      obtain ⟨⟨remark, rfl, hremark⟩, hrest⟩ := List.forall₂_cons.mp ih
      by_cases hc : (c == '\n') = true
      · rw [if_pos hc, if_pos hc]
        exact .cons ⟨[], rfl, .inl rfl⟩ ih
      · rw [if_neg hc, if_neg hc]
        exact .cons ⟨remark, rfl, hremark⟩ hrest

/-- A remark stands on one line. -/
theorem remarkedLines_remark (hremark : IsRemark remark) (hbreak : '\n' ∉ remark) :
    RemarkedLines [] remark := by
  have hsingle : splitCharsWhere (· == '\n') remark = [remark] :=
    splitCharsWhere_of_not_mem hbreak
  unfold RemarkedLines
  rw [hsingle]
  exact .cons ⟨remark, rfl, .inr hremark⟩ .nil

/-- What stands on lines of their own has its own remarks. -/
theorem RemarkedLines.append (h : RemarkedLines code text) (h' : RemarkedLines code' text') :
    RemarkedLines (code ++ '\n' :: code') (text ++ '\n' :: text') := by
  unfold RemarkedLines
  rw [splitCharsWhere_append _ '\n' rfl, splitCharsWhere_append _ '\n' rfl]
  exact List.rel_append h h'

theorem breaksBehind_cons (piece : List Char × List Char) :
    breaksBehind (piece :: pieces) = piece.2.count '\n' + breaksBehind pieces := by
  rw [breaksBehind, List.flatMap_cons, List.count_append]
  rfl

/-- The code of some pieces is that of any others with the same code. -/
theorem withoutRemarks_congr {pieces' : List (List Char × List Char)}
    (h : pieces'.map (·.1) = pieces.map (·.1)) (rest : List Char) :
    withoutRemarks pieces' rest = withoutRemarks pieces rest := by
  have hmap : ∀ pieces : List (List Char × List Char), withoutRemarks pieces rest =
      withRemarks ((pieces.map (·.1)).map fun code => (code, [])) rest := by
    intro pieces
    rw [List.map_map]
    rfl
  rw [hmap, hmap, h]

/-- Remarks without line breaks stand at the ends of lines of code. -/
theorem remarkedLines_withRemarks (hremarks : ∀ piece ∈ pieces, piece.2 = [] ∨ IsRemark piece.2)
    (hbreaks : breaksBehind pieces = 0) (rest : List Char) :
    RemarkedLines (withoutRemarks pieces rest) (withRemarks pieces rest) := by
  induction pieces with
  | nil => exact .refl rest
  | cons piece pieces ih =>
      obtain ⟨hpiece, hpieces⟩ := List.forall_mem_cons.mp hremarks
      rw [breaksBehind_cons] at hbreaks
      obtain ⟨hnone, hmore⟩ := Nat.add_eq_zero_iff.mp hbreaks
      have hremark : RemarkedLines [] piece.2 := by
        rcases hpiece with hempty | hremark
        · rw [hempty]
          exact .refl []
        · exact remarkedLines_remark hremark (List.count_eq_zero.mp hnone)
      exact (hremark.append (ih hpieces hmore)).prepend piece.1

theorem count_withRemarks (pieces : List (List Char × List Char)) (rest : List Char) :
    (withRemarks pieces rest).count '\n' =
      (withoutRemarks pieces rest).count '\n' + breaksBehind pieces := by
  induction pieces with
  | nil => rfl
  | cons piece pieces ih =>
      have hcons : withRemarks (piece :: pieces) rest =
          piece.1 ++ (piece.2 ++ '\n' :: withRemarks pieces rest) := rfl
      have hbare : withoutRemarks (piece :: pieces) rest =
          piece.1 ++ '\n' :: withoutRemarks pieces rest := rfl
      rw [hcons, hbare, breaksBehind_cons]
      simp only [List.count_append, List.count_cons, ih]
      omega

theorem RemarkedLines.lines (h : RemarkedLines code text) :
    List.Forall₂ Remarked (splitOn '\n' (String.ofList code))
      (splitOn '\n' (String.ofList text)) := by
  unfold splitOn
  rw [String.toList_ofList, String.toList_ofList, List.forall₂_map_left_iff,
    List.forall₂_map_right_iff]
  refine h.imp ?_
  rintro line line' ⟨remark, rfl, rfl | ⟨gap, hgap, rest, rfl⟩⟩
  · rw [List.append_nil]
    exact .bare
  · rw [String.ofList_append, String.ofList_append, String.ofList_toList, ← String.append_assoc,
      ← String.append_assoc]
    exact .remark gap _ hgap

/-- What stands behind the last line break of a remark is a line of its own. -/
theorem mem_lines_of_break {line : List Char} (hbreak : '\n' ∉ line)
    (front code before : List Char) (more : List (List Char × List Char)) (back : List Char) :
    String.ofList line ∈ splitOn '\n' (String.ofList
      (front ++ withRemarks ((code, before ++ '\n' :: line) :: more) back)) := by
  have hchars : front ++ withRemarks ((code, before ++ '\n' :: line) :: more) back =
      (front ++ (code ++ before)) ++ '\n' :: (line ++ '\n' :: withRemarks more back) := by
    change front ++ (code ++ ((before ++ '\n' :: line) ++ '\n' :: withRemarks more back)) = _
    simp only [List.append_assoc, List.cons_append]
  unfold splitOn
  rw [hchars, String.toList_ofList, splitCharsWhere_append _ '\n' rfl,
    splitCharsWhere_append _ '\n' rfl, splitCharsWhere_of_not_mem hbreak]
  simp

end

end Scaffold
