import Mathlib.Order.PiLex
import Scaffold.Proofs.Text.Digits
import Scaffold.Proofs.Traversal
import Scaffold.Version

/-!
# The order of versions

Versions of any lengths are compared in one reference order: a version is the
endless sequence of its numbers, zeros after the last one, and sequences compare
at the first place where they differ. So the comparison is a strict order on all
texts. Malformed texts take no part in it; well-formed ones that it does not tell
apart are those that differ in zeros only, in front of a segment or as segments
at the end.
-/

namespace Scaffold.Version

open Text

/-! ## The reference order -/

/-- The numbers of a version without end, compared at the first difference. -/
def sequence (numbers : List Nat) : Lex (Nat → Nat) := toLex fun i => numbers.getD i 0

theorem sequence_nil : sequence [] = sequence [0] := by
  funext i
  cases i <;> rfl

theorem sequence_cons_lt {a b : Nat} {as bs : List Nat} :
    sequence (b :: bs) < sequence (a :: as) ↔
      b < a ∨ b = a ∧ sequence bs < sequence as := by
  constructor
  · rintro ⟨i, hbefore, hat⟩
    -- the first difference lies at the head or in the rest
    cases i with
    | zero => exact Or.inl hat
    | succ i =>
        refine Or.inr ⟨hbefore 0 (Nat.succ_pos i), i, fun j hj => ?_, hat⟩
        exact hbefore (j + 1) (Nat.succ_lt_succ hj)
  · rintro (hlt | ⟨rfl, i, hbefore, hat⟩)
    · exact ⟨0, fun j hj => absurd hj (Nat.not_lt_zero j), hlt⟩
    · refine ⟨i + 1, fun j hj => ?_, hat⟩
      cases j with
      | zero => rfl
      | succ j => exact hbefore j (Nat.lt_of_succ_lt_succ hj)

theorem not_lt_sequence_nil (bs : List Nat) : ¬ sequence bs < sequence [] := by
  rintro ⟨i, -, hat⟩
  exact absurd hat (Nat.not_lt_zero _)

/-- Filling up with zeros amounts to comparing endless sequences. -/
theorem segmentsGreater_iff {as bs : List Nat} :
    segmentsGreater as bs = true ↔ sequence bs < sequence as := by
  induction as generalizing bs with
  | nil =>
      rw [segmentsGreater]
      exact iff_of_false Bool.false_ne_true (not_lt_sequence_nil bs)
  | cons a as ih =>
      cases bs with
      | nil =>
          -- a version that has ended goes on with zeros, so only these are below it
          rw [segmentsGreater, sequence_nil, sequence_cons_lt, Bool.or_eq_true, decide_eq_true_eq,
            ih]
          constructor
          · rintro (hlt | hrest)
            · exact Or.inl hlt
            · rcases Nat.eq_zero_or_pos a with rfl | hpos
              · exact Or.inr ⟨rfl, hrest⟩
              · exact Or.inl hpos
          · rintro (hlt | ⟨-, hrest⟩)
            · exact Or.inl hlt
            · exact Or.inr hrest
      | cons b bs =>
          rw [segmentsGreater, sequence_cons_lt, Bool.or_eq_true, Bool.and_eq_true,
            decide_eq_true_eq, beq_iff_eq, ih, eq_comm (a := a)]

/-! ## Versions as they are written -/

/-- What stands between the points of a version, blanks at its ends aside. -/
def segments (version : String) : List (List Char) :=
  splitCharsWhere (· == '.') (trimChars version.toList)

/-- Every segment is a number below 2^64 that decimal digits write. An empty text
has one segment, which is empty. -/
def WellFormed (version : String) : Prop :=
  ∀ segment ∈ segments version,
    segment ≠ [] ∧ (∀ c ∈ segment, isAsciiDigit c = true) ∧ digitsValue segment < 2 ^ 64

instance (version : String) : Decidable (WellFormed version) :=
  inferInstanceAs (Decidable (∀ segment ∈ segments version, _))

/-- The segment at a place, a zero where the version has ended. -/
def segmentAt (version : String) (i : Nat) : List Char := ((segments version)[i]?).getD ['0']

/-- Well-formed versions that differ at most in zero segments at the end and in
zeros in front of a segment. -/
structure Same (a b : String) : Prop where
  left : WellFormed a
  right : WellFormed b
  segments : ∀ i, significant (segmentAt a i) = significant (segmentAt b i)

theorem parseSegment?_eq_some {segment : List Char} {n : Nat} :
    parseSegment? segment = some n ↔ (segment ≠ [] ∧ (∀ c ∈ segment, isAsciiDigit c = true) ∧
      digitsValue segment < 2 ^ 64) ∧ n = digitsValue segment := by
  unfold parseSegment?
  split
  · next h =>
    refine iff_of_false nofun ?_
    rintro ⟨⟨hne, hdigits, -⟩, -⟩
    rw [Bool.or_eq_true, List.isEmpty_iff, Bool.not_eq_true', List.all_eq_false] at h
    rcases h with rfl | ⟨c, hc, hdigit⟩
    · exact hne rfl
    · exact hdigit (hdigits c hc)
  · next h =>
    rw [Bool.or_eq_true, not_or, List.isEmpty_iff, Bool.not_eq_true', Bool.not_eq_false,
      List.all_eq_true] at h
    split
    · next hle =>
      have hlt : digitsValue segment < 2 ^ 64 := Nat.lt_succ_of_le hle
      rw [Option.some.injEq]
      exact ⟨fun e => ⟨⟨h.1, h.2, hlt⟩, e.symm⟩, fun e => e.2.symm⟩
    · next hgt =>
      refine iff_of_false nofun ?_
      rintro ⟨⟨-, -, hlt⟩, -⟩
      exact hgt (Nat.le_of_lt_succ hlt)

theorem parse?_eq_some {version : String} {numbers : List Nat} :
    parse? version = some numbers ↔
      WellFormed version ∧ numbers = (segments version).map digitsValue :=
  mapM_eq_some_iff_map fun _ _ => parseSegment?_eq_some

/-- The place of a version in the reference order. -/
def reference (version : String) : Lex (Nat → Nat) :=
  sequence ((segments version).map digitsValue)

/-- A version is greater than another one when both are well-formed and it comes
later in the reference order. -/
theorem isGreater_iff {a b : String} :
    isGreater a b = true ↔ WellFormed a ∧ WellFormed b ∧ reference b < reference a := by
  unfold isGreater
  constructor
  · intro h
    split at h
    · next as bs has hbs =>
      obtain ⟨ha, rfl⟩ := parse?_eq_some.mp has
      obtain ⟨hb, rfl⟩ := parse?_eq_some.mp hbs
      exact ⟨ha, hb, segmentsGreater_iff.mp h⟩
    · exact absurd h nofun
  · rintro ⟨ha, hb, hlt⟩
    rw [parse?_eq_some.mpr ⟨ha, rfl⟩, parse?_eq_some.mpr ⟨hb, rfl⟩]
    exact segmentsGreater_iff.mpr hlt

theorem reference_apply (version : String) (i : Nat) :
    ofLex (reference version) i = digitsValue (segmentAt version i) := by
  show ((segments version).map digitsValue).getD i 0 = _
  rw [List.getD_eq_getElem?_getD, List.getElem?_map, segmentAt]
  cases (segments version)[i]? <;> rfl

theorem WellFormed.isDigit_segmentAt {version : String} (h : WellFormed version) (i : Nat) :
    ∀ c ∈ segmentAt version i, isAsciiDigit c = true := by
  unfold segmentAt
  cases hi : (segments version)[i]? with
  | none => simp [isAsciiDigit]
  | some segment => exact (h segment (List.mem_of_getElem? hi)).2.1

/-- Versions in the same place differ in zeros only. -/
theorem reference_eq_iff {a b : String} (ha : WellFormed a) (hb : WellFormed b) :
    reference a = reference b ↔ Same a b := by
  constructor
  · intro h
    refine ⟨ha, hb, fun i => ?_⟩
    rw [← digitsValue_eq_iff (ha.isDigit_segmentAt i) (hb.isDigit_segmentAt i),
      ← reference_apply, ← reference_apply, h]
  · intro h
    refine ofLex_inj.mp (funext fun i => ?_)
    rw [reference_apply, reference_apply,
      digitsValue_eq_iff (ha.isDigit_segmentAt i) (hb.isDigit_segmentAt i)]
    exact h.segments i

/-! ## The comparison -/

/-- Exactly one of three statements holds. -/
def ExactlyOne (p q r : Prop) : Prop :=
  (p ∧ ¬ q ∧ ¬ r) ∨ (¬ p ∧ q ∧ ¬ r) ∨ (¬ p ∧ ¬ q ∧ r)

theorem exactlyOne_of_wellFormed {a b : String} (ha : WellFormed a) (hb : WellFormed b) :
    ExactlyOne (isGreater a b = true) (isGreater b a = true) (Same a b) := by
  rw [isGreater_iff, isGreater_iff, ← reference_eq_iff ha hb]
  rcases lt_trichotomy (reference a) (reference b) with hlt | heq | hgt
  · exact Or.inr (Or.inl ⟨fun h => lt_asymm hlt h.2.2, ⟨hb, ha, hlt⟩, hlt.ne⟩)
  · exact Or.inr (Or.inr ⟨fun h => h.2.2.ne' heq, fun h => h.2.2.ne heq, heq⟩)
  · exact Or.inl ⟨⟨ha, hb, hgt⟩, fun h => lt_asymm hgt h.2.2, hgt.ne'⟩

theorem same_equivalence :
    Equivalence fun a b : {version : String // WellFormed version} => Same a b where
  refl a := ⟨a.2, a.2, fun _ => rfl⟩
  symm h := ⟨h.right, h.left, fun i => (h.segments i).symm⟩
  trans h k := ⟨h.left, k.right, fun i => (h.segments i).trans (k.segments i)⟩

theorem Same.isGreater_eq {a b : String} (h : Same a b) (c : String) :
    isGreater a c = isGreater b c ∧ isGreater c a = isGreater c b := by
  have href := (reference_eq_iff h.left h.right).mpr h
  constructor
  · rw [Bool.eq_iff_iff, isGreater_iff, isGreater_iff, href]
    exact ⟨fun k => ⟨h.right, k.2⟩, fun k => ⟨h.left, k.2⟩⟩
  · rw [Bool.eq_iff_iff, isGreater_iff, isGreater_iff, href]
    exact ⟨fun k => ⟨k.1, h.right, k.2.2⟩, fun k => ⟨k.1, h.left, k.2.2⟩⟩

/-- The comparison is a strict order on all texts that nothing malformed takes
part in. On well-formed versions it leaves no two apart but those that differ in
zeros only, and these are interchangeable. -/
theorem isGreater_strict_weak_order :
    (∀ a, isGreater a a = false) ∧
    (∀ a b, isGreater a b = true → isGreater b a = false) ∧
    (∀ a b c, isGreater a b = true → isGreater b c = true → isGreater a c = true) ∧
    (∀ a b, ¬ WellFormed a ∨ ¬ WellFormed b → isGreater a b = false) ∧
    (∀ a b, WellFormed a → WellFormed b →
      ExactlyOne (isGreater a b = true) (isGreater b a = true) (Same a b)) ∧
    (Equivalence fun a b : {version : String // WellFormed version} => Same a b) ∧
    (∀ a b c, Same a b →
      isGreater a c = isGreater b c ∧ isGreater c a = isGreater c b) := by
  refine ⟨fun a => ?_, fun a b hab => ?_, fun a b c hab hbc => ?_, fun a b h => ?_,
    fun a b ha hb => exactlyOne_of_wellFormed ha hb, same_equivalence,
    fun a b c h => h.isGreater_eq c⟩
  · rw [← Bool.not_eq_true, isGreater_iff]
    rintro ⟨-, -, hlt⟩
    exact lt_irrefl _ hlt
  · rw [← Bool.not_eq_true]
    intro hba
    exact lt_asymm (isGreater_iff.mp hab).2.2 (isGreater_iff.mp hba).2.2
  · obtain ⟨ha, hb, hlt⟩ := isGreater_iff.mp hab
    obtain ⟨-, hc, hlt'⟩ := isGreater_iff.mp hbc
    exact isGreater_iff.mpr ⟨ha, hc, hlt'.trans hlt⟩
  · rw [← Bool.not_eq_true, isGreater_iff]
    rintro ⟨ha, hb, -⟩
    exact h.elim (· ha) (· hb)

end Scaffold.Version
