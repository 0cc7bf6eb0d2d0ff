import Mathlib.Data.List.Induction
import Mathlib.Data.Nat.Digits.Defs
import Scaffold.Text.Digit

/-!
# Digits and the numbers that they write

A number has one decimal form without zeros in front: digits that write the same
number are equal once these zeros are gone.
-/

namespace Scaffold.Text

theorem isAsciiDigit_iff {c : Char} : isAsciiDigit c = true ↔ 48 ≤ c.toNat ∧ c.toNat ≤ 57 := by
  unfold isAsciiDigit
  rw [Bool.and_eq_true, decide_eq_true_eq, decide_eq_true_eq]
  exact Iff.rfl

theorem digitsValue_eq (cs : List Char) : digitsValue cs = Nat.ofDigitChars 10 cs 0 :=
  Nat.ofDigitChars_eq_foldl.symm

/-! ## The decimal form of a number -/

theorem digitsValue_toDigits (n : Nat) : digitsValue (Nat.toDigits 10 n) = n := by
  rw [digitsValue_eq]
  exact Nat.ofDigitChars_ten_toDigits

theorem isAsciiDigit_of_mem_toDigits {n : Nat} {c : Char} (h : c ∈ Nat.toDigits 10 n) :
    isAsciiDigit c = true := by
  have hdigit := Nat.isDigit_of_mem_toDigits (by omega) (by omega) h
  rw [isAsciiDigit_iff]
  simpa [Char.isDigit, UInt32.le_iff_toNat_le] using hdigit

theorem head_toDigits_ne_zero {n : Nat} (h : 0 < n) : (Nat.toDigits 10 n).head? ≠ some '0' := by
  have hdigit : ∀ d < 10, 0 < d → Nat.digitChar d ≠ '0' := by decide
  induction n using Nat.strongRecOn with
  | ind n ih =>
      by_cases hn : n < 10
      · rw [Nat.toDigits_of_lt_base hn, List.head?_cons]
        exact fun heq => hdigit n hn h (Option.some.inj heq)
      · have hfront := ih (n / 10) (by omega) (by omega)
        obtain ⟨c, cs, hcs⟩ :=
          List.exists_cons_of_ne_nil (Nat.toDigits_ne_nil (n := n / 10) (b := 10))
        rw [Nat.toDigits_of_base_le (by omega) (by omega), hcs]
        rw [hcs] at hfront
        exact hfront

/-! ## Zeros in front -/

/-- The digits from the first one on that is not zero. -/
def significant (cs : List Char) : List Char := cs.dropWhile (· == '0')

theorem digitsValue_significant (cs : List Char) : digitsValue (significant cs) = digitsValue cs := by
  induction cs with
  | nil => rfl
  | cons c cs ih =>
      by_cases hc : c = '0'
      · subst hc
        simpa [significant, digitsValue] using ih
      · simp [significant, hc]

/-- The digits as numbers, the last one first. -/
def digitNumbers (cs : List Char) : List Nat := (cs.map fun c => c.toNat - 48).reverse

theorem digitsValue_eq_ofDigits (cs : List Char) :
    digitsValue cs = Nat.ofDigits 10 (digitNumbers cs) := by
  induction cs using List.reverseRecOn with
  | nil => rfl
  | append_singleton cs c ih =>
      have hvalue : digitsValue (cs ++ [c]) = 10 * digitsValue cs + (c.toNat - 48) := by
        simp [digitsValue]
      have hnumbers : digitNumbers (cs ++ [c]) = (c.toNat - 48) :: digitNumbers cs := by
        simp [digitNumbers]
      rw [hvalue, hnumbers, Nat.ofDigits_cons, ih, Nat.add_comm]

theorem digitNumbers_inj {cs ds : List Char} (hcs : ∀ c ∈ cs, isAsciiDigit c = true)
    (hds : ∀ d ∈ ds, isAsciiDigit d = true) (h : digitNumbers cs = digitNumbers ds) : cs = ds := by
  have hmap := List.reverse_inj.mp h
  induction cs generalizing ds with
  | nil => exact (List.map_eq_nil_iff.mp hmap.symm).symm
  | cons c cs ih =>
      cases ds with
      | nil => simp at hmap
      | cons d ds =>
          obtain ⟨hhead, htail⟩ := List.cons.inj hmap
          dsimp only at hhead
          have hc := isAsciiDigit_iff.mp (hcs c List.mem_cons_self)
          have hd := isAsciiDigit_iff.mp (hds d List.mem_cons_self)
          have hcd : c = d := Char.toNat_inj.mp (by omega)
          have hrest : cs = ds := ih (fun e he => hcs e (List.mem_cons_of_mem _ he))
            (fun e he => hds e (List.mem_cons_of_mem _ he)) (congrArg List.reverse htail) htail
          rw [hcd, hrest]

theorem digits_digitsValue {cs : List Char} (hcs : ∀ c ∈ cs, isAsciiDigit c = true) :
    Nat.digits 10 (digitsValue cs) = digitNumbers (significant cs) := by
  have hsignificant : ∀ c ∈ significant cs, isAsciiDigit c = true := fun c hc =>
    hcs c ((List.dropWhile_suffix _).subset hc)
  rw [← digitsValue_significant, digitsValue_eq_ofDigits]
  apply Nat.digits_ofDigits 10 (by omega)
  · intro n hn
    obtain ⟨c, hc, rfl⟩ := List.mem_map.mp (List.mem_reverse.mp hn)
    have := isAsciiDigit_iff.mp (hsignificant c hc)
    omega
  · intro hne
    -- the last number is that of the first digit, which is no zero
    unfold digitNumbers at hne ⊢
    rw [List.getLast_reverse, List.head_map]
    intro hzero
    have hne' : significant cs ≠ [] := by
      intro he
      simp [he] at hne
    have hhead := isAsciiDigit_iff.mp (hsignificant _ (List.head_mem hne'))
    have hnot := List.head_dropWhile_not (· == '0') hne'
    have hchar : (significant cs).head hne' = '0' := Char.toNat_inj.mp (by
      show _ = 48
      omega)
    unfold significant at hchar
    rw [hchar] at hnot
    simp at hnot

/-- Apart from zeros in front, a number is written in one way only. -/
theorem digitsValue_eq_iff {cs ds : List Char} (hcs : ∀ c ∈ cs, isAsciiDigit c = true)
    (hds : ∀ d ∈ ds, isAsciiDigit d = true) :
    digitsValue cs = digitsValue ds ↔ significant cs = significant ds := by
  constructor
  · intro h
    apply digitNumbers_inj
    · exact fun c hc => hcs c ((List.dropWhile_suffix _).subset hc)
    · exact fun d hd => hds d ((List.dropWhile_suffix _).subset hd)
    · rw [← digits_digitsValue hcs, ← digits_digitsValue hds, h]
  · intro h
    rw [← digitsValue_significant cs, ← digitsValue_significant ds, h]

end Scaffold.Text
