import Scaffold.Proofs.Traversal
import Scaffold.Text.LetterCase

/-!
# Capitals and lower case

The characters that lower case changes are listed in runs, and none of the runs is
shifted onto another one. So what lower case gives stays as it is in lower case. A
title can be led back to its word where the capital in front is a single character
that has the first letter of the word as its lower case.
-/

namespace Scaffold.Text

/-! ## ASCII -/

/-- What holds of the ASCII characters holds of every character that is one. -/
theorem forall_ascii {P : Char → Prop} (h : ∀ n < 128, P (Char.ofNat n)) {c : Char}
    (hc : c.toNat < 0x80) : P c := by
  have hn := h c.toNat hc
  rwa [Char.ofNat_toNat] at hn

theorem lowerChar_of_ascii {c : Char} (h : c.toNat < 0x80) : lowerChar c = [c.toLower] := by
  unfold lowerChar
  rw [if_pos h]

theorem lowerChar_toLower_of_ascii {c : Char} (h : c.toNat < 0x80) :
    lowerChar c.toLower = [c.toLower] :=
  forall_ascii (P := fun c => lowerChar c.toLower = [c.toLower]) (by decide) h

/-! ## Texts in lower case -/

/-- A text in lower case. -/
def IsLowered (cs : List Char) : Prop := ∀ x ∈ cs, lowerChar x = [x]

theorem lowerChar_sigma : lowerChar 'Σ' ≠ ['Σ'] := by decide

namespace IsLowered

variable {cs : List Char}

theorem flatMap_lowerChar (h : IsLowered cs) : cs.flatMap lowerChar = cs := by
  induction cs with
  | nil => rfl
  | cons c cs ih =>
      rw [List.flatMap_cons, h c List.mem_cons_self,
        ih fun x hx => h x (List.mem_cons_of_mem _ hx), List.singleton_append]

/-- Lower case leaves a text in lower case as it is: no capital sigma stands in it. -/
theorem lowerChars_eq (h : IsLowered cs) (before : List Char) : lowerChars before cs = cs := by
  induction cs generalizing before with
  | nil => rfl
  | cons c cs ih =>
      have hc := h c List.mem_cons_self
      have hsigma : c ≠ 'Σ' := by
        rintro rfl
        exact lowerChar_sigma hc
      unfold lowerChars
      rw [if_neg hsigma, hc, ih fun x hx => h x (List.mem_cons_of_mem _ hx),
        List.singleton_append]

end IsLowered

/-! ## Titles -/

theorem convertWith_ne_nil {runs : List (Nat × Nat × Nat × Int)} {long : List (Nat × List Nat)}
    (h : ∀ entry ∈ long, entry.2 ≠ []) (c : Char) : convertWith runs long c ≠ [] := by
  unfold convertWith
  cases hlong : long.lookup c.toNat with
  | none => exact List.cons_ne_nil _ _
  | some codes =>
      have hcodes := h _ (mem_of_lookup hlong)
      simpa using hcodes

theorem lowerChar_ne_nil (c : Char) : lowerChar c ≠ [] := by
  unfold lowerChar
  split
  · exact List.cons_ne_nil _ _
  · exact convertWith_ne_nil (by decide) c

theorem upperChar_ne_nil (c : Char) : upperChar c ≠ [] := by
  unfold upperChar
  split
  · exact List.cons_ne_nil _ _
  · exact convertWith_ne_nil (by decide) c

/-- A word that comes back from its title has a single capital in front, which leads back. -/
theorem exists_capital {w : List Char} (hne : w ≠ []) (h : untitleChars (titleChars w) = w) :
    ∃ c u rest, w = c :: rest ∧ upperChar c = [u] ∧ lowerChar u = [c] := by
  obtain ⟨c, rest, rfl⟩ := List.exists_cons_of_ne_nil hne
  obtain ⟨u, more, hupper⟩ := List.exists_cons_of_ne_nil (upperChar_ne_nil c)
  obtain ⟨l, others, hlower⟩ := List.exists_cons_of_ne_nil (lowerChar_ne_nil u)
  simp only [titleChars, hupper, List.cons_append, untitleChars, hlower, List.cons.injEq] at h
  obtain ⟨rfl, hrest⟩ := h
  -- what the capital and its lower case have besides would make the word longer
  have hlength := congrArg List.length hrest
  simp only [List.length_append] at hlength
  have hothers : others = [] := List.length_eq_zero_iff.mp (by omega)
  have hmore : more = [] := List.length_eq_zero_iff.mp (by omega)
  exact ⟨l, u, rest, rfl, by rw [hupper, hmore], by rw [hlower, hothers]⟩

/-- Words of ASCII characters come back from their titles. -/
theorem untitle_title_of_ascii {w : List Char} (hascii : ∀ x ∈ w, x.toNat < 0x80)
    (hlower : IsLowered w) : untitleChars (titleChars w) = w := by
  cases w with
  | nil => rfl
  | cons c rest =>
      have hcheck := forall_ascii (P := fun c => lowerChar c = [c] →
        upperChar c = [c.toUpper] ∧ lowerChar c.toUpper = [c]) (by decide)
        (hascii c List.mem_cons_self)
      obtain ⟨hupper, hback⟩ := hcheck (hlower c List.mem_cons_self)
      simp [titleChars, untitleChars, hupper, hback]

/-! ## Runs and where they lead -/

theorem inRun_iff {n first last step : Nat} :
    inRun n (first, last, step) = true ↔ first ≤ n ∧ n ≤ last ∧ (n - first) % step = 0 := by
  simp [inRun, and_assoc]

/-- A shift that is there comes from a run. -/
theorem exists_run_of_shiftOf {runs : List (Nat × Nat × Nat × Int)} {n : Nat}
    (h : shiftOf runs n ≠ 0) : ∃ first last step, (first, last, step, shiftOf runs n) ∈ runs ∧
      inRun n (first, last, step) = true := by
  induction runs with
  | nil => exact absurd rfl h
  | cons run runs ih =>
      obtain ⟨first, last, step, shift⟩ := run
      unfold shiftOf at h ⊢
      by_cases hrun : inRun n (first, last, step) = true
      · rw [if_pos hrun]
        exact ⟨first, last, step, List.mem_cons_self, hrun⟩
      · rw [if_neg hrun] at h ⊢
        obtain ⟨first, last, step, hmem, hn⟩ := ih h
        exact ⟨first, last, step, List.mem_cons_of_mem _ hmem, hn⟩

/-- Runs without a number do not shift it. -/
theorem shiftOf_eq_zero_of_forall {runs : List (Nat × Nat × Nat × Int)} {n : Nat}
    (h : ∀ run ∈ runs, inRun n (run.1, run.2.1, run.2.2.1) = false) : shiftOf runs n = 0 := by
  refine Decidable.byContradiction fun hne => ?_
  obtain ⟨first, last, step, hmem, hn⟩ := exists_run_of_shiftOf hne
  have hout : inRun n (first, last, step) = false := h _ hmem
  rw [hout] at hn
  exact absurd hn nofun

/-- The characters that lower case changes, as runs. -/
def lowerRuns : List (Nat × Nat × Nat × Int) :=
  LetterTable.toLower ++ LetterTable.toLowerLong.map fun (n, _) => (n, n, 1, (0 : Int))

/-- A number in none of the runs that lower case changes. -/
def IsSettled (n : Nat) : Prop :=
  ∀ run ∈ lowerRuns, inRun n (run.1, run.2.1, run.2.2.1) = false

theorem IsSettled.shiftOf_eq_zero {n : Nat} (h : IsSettled n) :
    shiftOf LetterTable.toLower n = 0 :=
  shiftOf_eq_zero_of_forall fun run hrun => h run (List.mem_append_left _ hrun)

theorem lookup_toLowerLong {n : Nat} (h : inRun n (0x130, 0x130, 1) = false) :
    LetterTable.toLowerLong.lookup n = none := by
  have hne : (n == 0x130) = false := by
    rw [beq_eq_false_iff_ne]
    rintro rfl
    exact absurd h (by decide)
  simp [LetterTable.toLowerLong, List.lookup_cons, hne]

theorem lowerChar_of_ascii_of_not_upper : ∀ n < 128, inRun n (0x41, 0x5a, 1) = false →
    lowerChar (Char.ofNat n) = [Char.ofNat n] := by
  decide

theorem lowerChar_long : ∀ entry ∈ LetterTable.toLowerLong, ∀ n ∈ entry.2,
    lowerChar (Char.ofNat n) = [Char.ofNat n] := by
  decide

theorem toNat_ofNat_of_isValidChar {n : Nat} (h : n.isValidChar) : (Char.ofNat n).toNat = n := by
  have hchar : Char.ofNat n = Char.ofNatAux n h := dif_pos h
  rw [hchar]
  rfl

theorem ofNat_of_not_isValidChar {n : Nat} (h : ¬ n.isValidChar) : Char.ofNat n = Char.ofNat 0 := by
  unfold Char.ofNat
  rw [dif_neg h]
  rfl

/-- A character outside the runs is in lower case. -/
theorem IsSettled.lowerChar_ofNat {n : Nat} (h : IsSettled n) :
    lowerChar (Char.ofNat n) = [Char.ofNat n] := by
  by_cases hvalid : n.isValidChar
  · have hn : (Char.ofNat n).toNat = n := toNat_ofNat_of_isValidChar hvalid
    by_cases hascii : n < 0x80
    · exact lowerChar_of_ascii_of_not_upper n hascii
        (h (0x41, 0x5a, 1, 0x20) (List.mem_append_left _ List.mem_cons_self))
    · have hlong : LetterTable.toLowerLong.lookup n = none :=
        lookup_toLowerLong (h (0x130, 0x130, 1, 0) (List.mem_append_right _ List.mem_cons_self))
      unfold lowerChar convertWith
      rw [hn, if_neg hascii, hlong, h.shiftOf_eq_zero, Int.add_zero, Int.toNat_natCast]
  · rw [ofNat_of_not_isValidChar hvalid]
    decide

/-- Whether a run has nothing from `a` to `b`, of every other number there if `step` is 2. -/
def isApart (a b step : Nat) (run : Nat × Nat × Nat × Int) : Bool :=
  !(Nat.ble run.1 b && Nat.ble a run.2.1) ||
    (run.2.2.1 == 2 && (step == 2 || a == b) && a % 2 != run.1 % 2)

theorem not_inRun_of_isApart {a b step m : Nat} {run : Nat × Nat × Nat × Int}
    (h : isApart a b step run = true) (ha : a ≤ m) (hb : m ≤ b)
    (hstep : step = 2 → m % 2 = a % 2) : inRun m (run.1, run.2.1, run.2.2.1) = false := by
  obtain ⟨first, last, step', shift⟩ := run
  rw [Bool.eq_false_iff]
  intro (hm : inRun m (first, last, step') = true)
  obtain ⟨hfirst, hlast, hmod⟩ := inRun_iff.mp hm
  have hmeets : (Nat.ble first b && Nat.ble a last) = true := by
    rw [Bool.and_eq_true, Nat.ble_eq, Nat.ble_eq]
    exact ⟨Nat.le_trans hfirst hb, Nat.le_trans ha hlast⟩
  simp only [isApart, hmeets, Bool.not_true, Bool.false_or, Bool.and_eq_true, Bool.or_eq_true,
    beq_iff_eq, bne_iff_ne, ne_eq] at h
  obtain ⟨⟨rfl, hsteps⟩, hparity⟩ := h
  rcases hsteps with hsteps | hsingle
  · have := hstep hsteps
    omega
  · omega

/-- Whether a run is shifted onto none of the runs. -/
def leadsOut (runs : List (Nat × Nat × Nat × Int)) : Nat × Nat × Nat × Int → Bool
  | (first, last, step, shift) => 0 ≤ (first : Int) + shift &&
    runs.all (isApart ((first : Int) + shift).toNat ((last : Int) + shift).toNat step)

/-- Checked once for each two runs, not for each character that they hold. -/
theorem leadsOut_lowerRuns : LetterTable.toLower.all (leadsOut lowerRuns) = true := by
  decide +kernel

/-- A run that leads out of some runs shifts its numbers to where none of these has any. -/
theorem not_inRun_of_leadsOut {runs : List (Nat × Nat × Nat × Int)} {first last step n : Nat}
    {shift : Int} (hout : leadsOut runs (first, last, step, shift) = true)
    (hn : inRun n (first, last, step) = true) :
    ∀ run ∈ runs, inRun ((n : Int) + shift).toNat (run.1, run.2.1, run.2.2.1) = false := by
  intro run hrun
  obtain ⟨hfirst, hlast, hmod⟩ := inRun_iff.mp hn
  simp only [leadsOut, Bool.and_eq_true, decide_eq_true_eq] at hout
  refine not_inRun_of_isApart (List.all_eq_true.mp hout.2 run hrun) ?_ ?_ ?_
  · omega
  · omega
  · rintro rfl
    omega

/-- A character that the runs shift is shifted out of them. -/
theorem isSettled_of_shifted {n : Nat} (h : shiftOf LetterTable.toLower n ≠ 0) :
    IsSettled ((n : Int) + shiftOf LetterTable.toLower n).toNat := by
  obtain ⟨first, last, step, hmem, hn⟩ := exists_run_of_shiftOf h
  exact not_inRun_of_leadsOut (List.all_eq_true.mp leadsOut_lowerRuns _ hmem) hn

/-- What lower case gives is in lower case. -/
theorem isLowered_lowerChar (c : Char) : IsLowered (lowerChar c) := by
  intro x h
  by_cases hascii : c.toNat < 0x80
  · rw [lowerChar_of_ascii hascii, List.mem_singleton] at h
    rw [h]
    exact lowerChar_toLower_of_ascii hascii
  · have hconvert : lowerChar c = convertWith LetterTable.toLower LetterTable.toLowerLong c := by
      unfold lowerChar
      rw [if_neg hascii]
    cases hlong : LetterTable.toLowerLong.lookup c.toNat with
    | some codes =>
        rw [hconvert, convertWith, hlong] at h
        obtain ⟨n, hn, rfl⟩ := List.mem_map.mp h
        exact lowerChar_long _ (mem_of_lookup hlong) n hn
    | none =>
        rw [convertWith, hlong] at hconvert
        rw [hconvert, List.mem_singleton] at h
        by_cases hshift : shiftOf LetterTable.toLower c.toNat = 0
        · rw [hshift, Int.add_zero, Int.toNat_natCast, Char.ofNat_toNat] at h hconvert
          rw [h, hconvert]
        · rw [h]
          exact (isSettled_of_shifted hshift).lowerChar_ofNat

/-! ## Characters that only come from themselves -/

/-- Whether a run is shifted past the numbers from `a` to `b`. -/
def leadsPast (a b : Nat) : Nat × Nat × Nat × Int → Bool
  | (first, last, _, shift) => (last : Int) + shift < a || (b : Int) < first + shift

/-- Where no run and no list of codes leads, a character comes from itself alone. -/
theorem eq_of_mem_convertWith {runs : List (Nat × Nat × Nat × Int)}
    {long : List (Nat × List Nat)} {a b : Nat} (hruns : runs.all (leadsPast a b) = true)
    (hlong : ∀ entry ∈ long, ∀ n ∈ entry.2, (Char.ofNat n).toNat < a ∨ b < (Char.ofNat n).toNat)
    (hpos : a ≠ 0) {x c : Char} (h : x ∈ convertWith runs long c) (ha : a ≤ x.toNat)
    (hb : x.toNat ≤ b) : x = c := by
  unfold convertWith at h
  cases hfound : long.lookup c.toNat with
  | some codes =>
      rw [hfound] at h
      obtain ⟨n, hn, rfl⟩ := List.mem_map.mp h
      have := hlong _ (mem_of_lookup hfound) n hn
      omega
  | none =>
      rw [hfound] at h
      obtain rfl := List.mem_singleton.mp h
      by_cases hshift : shiftOf runs c.toNat = 0
      · rw [hshift, Int.add_zero, Int.toNat_natCast, Char.ofNat_toNat]
      · obtain ⟨first, last, step, hmem, hn⟩ := exists_run_of_shiftOf hshift
        obtain ⟨hfirst, hlast, -⟩ := inRun_iff.mp hn
        have hpast := List.all_eq_true.mp hruns _ hmem
        simp only [leadsPast, Bool.or_eq_true, decide_eq_true_eq] at hpast
        by_cases hvalid : ((c.toNat : Int) + shiftOf runs c.toNat).toNat.isValidChar
        · rw [toNat_ofNat_of_isValidChar hvalid] at ha hb
          omega
        · rw [ofNat_of_not_isValidChar hvalid] at ha
          exact absurd ha (by simpa using hpos)

theorem toLower_cases {c : Char} (h : c.toNat < 0x80) :
    c.toLower = c ∨ 0x61 ≤ c.toLower.toNat ∧ c.toLower.toNat ≤ 0x7a :=
  forall_ascii (P := fun c => c.toLower = c ∨ 0x61 ≤ c.toLower.toNat ∧ c.toLower.toNat ≤ 0x7a)
    (by decide) h

theorem eq_of_mem_lowerChar {a b : Nat} (hruns : LetterTable.toLower.all (leadsPast a b) = true)
    (hlong : ∀ entry ∈ LetterTable.toLowerLong, ∀ n ∈ entry.2,
      (Char.ofNat n).toNat < a ∨ b < (Char.ofNat n).toNat)
    (hpos : a ≠ 0) {x c : Char} (h : x ∈ lowerChar c) (ha : a ≤ x.toNat)
    (hb : x.toNat ≤ b) : x = c := by
  unfold lowerChar at h
  split at h
  · next hascii =>
    obtain rfl := List.mem_singleton.mp h
    rcases toLower_cases hascii with hself | ⟨hfirst, hlast⟩
    · exact hself
    · -- the capitals of ASCII are the first of the runs
      have hpast : leadsPast a b (0x41, 0x5a, 1, 0x20) = true :=
        List.all_eq_true.mp hruns _ List.mem_cons_self
      simp only [leadsPast, Bool.or_eq_true, decide_eq_true_eq] at hpast
      omega
  · exact eq_of_mem_convertWith hruns hlong hpos h ha hb

theorem toUpper_cases {c : Char} (h : c.toNat < 0x80) :
    c.toUpper = c ∨ 0x41 ≤ c.toUpper.toNat ∧ c.toUpper.toNat ≤ 0x5a :=
  forall_ascii (P := fun c => c.toUpper = c ∨ 0x41 ≤ c.toUpper.toNat ∧ c.toUpper.toNat ≤ 0x5a)
    (by decide) h

theorem eq_of_mem_upperChar {a b : Nat} (hruns : LetterTable.toUpper.all (leadsPast a b) = true)
    (hlong : ∀ entry ∈ LetterTable.toUpperLong, ∀ n ∈ entry.2,
      (Char.ofNat n).toNat < a ∨ b < (Char.ofNat n).toNat)
    (hpos : a ≠ 0) {x c : Char} (h : x ∈ upperChar c) (ha : a ≤ x.toNat)
    (hb : x.toNat ≤ b) : x = c := by
  unfold upperChar at h
  split at h
  · next hascii =>
    obtain rfl := List.mem_singleton.mp h
    rcases toUpper_cases hascii with hself | ⟨hfirst, hlast⟩
    · exact hself
    · -- the small letters of ASCII are the first of the runs
      have hpast : leadsPast a b (0x61, 0x7a, 1, -0x20) = true :=
        List.all_eq_true.mp hruns _ List.mem_cons_self
      simp only [leadsPast, Bool.or_eq_true, decide_eq_true_eq] at hpast
      omega
  · exact eq_of_mem_convertWith hruns hlong hpos h ha hb

/-- Whether no run and no list of codes leads to a character, nor the end of a word. -/
def isCaseless (x : Char) : Bool :=
  x.toNat != 0 && x != 'σ' && x != 'ς' &&
    LetterTable.toLower.all (leadsPast x.toNat x.toNat) &&
    LetterTable.toUpper.all (leadsPast x.toNat x.toNat) &&
    (LetterTable.toLowerLong ++ LetterTable.toUpperLong).all fun entry =>
      entry.2.all fun n => (Char.ofNat n).toNat != x.toNat

section

variable {x c : Char} {before cs : List Char} (hx : isCaseless x = true)

include hx

theorem eq_of_mem_cases_of_isCaseless : (x ∈ lowerChar c → c = x) ∧ (x ∈ upperChar c → c = x) := by
  simp only [isCaseless, Bool.and_eq_true, bne_iff_ne, ne_eq, List.all_eq_true,
    List.mem_append] at hx
  obtain ⟨⟨⟨⟨⟨hpos, -⟩, -⟩, hlower⟩, hupper⟩, hlong⟩ := hx
  have hpast : ∀ entry : Nat × List Nat,
      entry ∈ LetterTable.toLowerLong ∨ entry ∈ LetterTable.toUpperLong → ∀ n ∈ entry.2,
        (Char.ofNat n).toNat < x.toNat ∨ x.toNat < (Char.ofNat n).toNat :=
    fun entry hentry n hn => Nat.lt_or_gt_of_ne (hlong entry hentry n hn)
  exact ⟨fun h => (eq_of_mem_lowerChar (List.all_eq_true.mpr hlower)
      (fun entry hentry => hpast entry (.inl hentry)) hpos h (Nat.le_refl _) (Nat.le_refl _)).symm,
    fun h => (eq_of_mem_upperChar (List.all_eq_true.mpr hupper)
      (fun entry hentry => hpast entry (.inr hentry)) hpos h (Nat.le_refl _) (Nat.le_refl _)).symm⟩

theorem mem_of_mem_titleChars (h : x ∈ titleChars cs) : x ∈ cs := by
  cases cs with
  | nil => exact h
  | cons c cs =>
      rcases List.mem_append.mp h with h | h
      · exact (eq_of_mem_cases_of_isCaseless hx).2 h ▸ List.mem_cons_self
      · exact List.mem_cons_of_mem _ h

theorem mem_of_mem_lowerChars (h : x ∈ lowerChars before cs) : x ∈ cs := by
  have hsigmas : x ≠ 'σ' ∧ x ≠ 'ς' := by
    simp only [isCaseless, Bool.and_eq_true, bne_iff_ne] at hx
    exact ⟨hx.1.1.1.1.2, hx.1.1.1.2⟩
  induction cs generalizing before with
  | nil => exact h
  | cons c cs ih =>
      unfold lowerChars at h
      rcases List.mem_append.mp h with h | h
      · have hc : x ∈ lowerChar c := by
          split at h
          · split at h
            · exact absurd (List.mem_singleton.mp h) hsigmas.2
            · exact absurd (List.mem_singleton.mp h) hsigmas.1
          · exact h
        exact (eq_of_mem_cases_of_isCaseless hx).1 hc ▸ List.mem_cons_self
      · exact List.mem_cons_of_mem _ (ih h)

end

end Scaffold.Text
