import Scaffold.Proofs.Text.Pieces

/-!
# Titles that stay

What upper case gives stays as it is in upper case, so a title is its own title. A capital
that upper case gives leads to one letter in lower case, and from there back to itself.
The runs of the tables are compared with one another, as those of lower case are; the few
letters that lead to the capital of another one are looked at one by one.
-/

namespace Scaffold.Text

/-! ## Capitals stay capitals -/

/-- The characters that upper case changes, as runs. -/
def upperRuns : List (Nat × Nat × Nat × Int) :=
  LetterTable.toUpper ++ LetterTable.toUpperLong.map fun (n, _) => (n, n, 1, (0 : Int))

/-- A number in none of the runs that upper case changes. -/
def IsRaised (n : Nat) : Prop :=
  ∀ run ∈ upperRuns, inRun n (run.1, run.2.1, run.2.2.1) = false

theorem IsRaised.shiftOf_eq_zero {n : Nat} (h : IsRaised n) :
    shiftOf LetterTable.toUpper n = 0 :=
  shiftOf_eq_zero_of_forall fun run hrun => h run (List.mem_append_left _ hrun)

theorem IsRaised.lookup_toUpperLong {n : Nat} (h : IsRaised n) :
    LetterTable.toUpperLong.lookup n = none := by
  refine List.lookup_eq_none_iff.mpr fun entry hentry => ?_
  rw [bne_iff_ne]
  rintro rfl
  have hout : inRun entry.1 (entry.1, entry.1, 1) = false :=
    h _ (List.mem_append_right _ (List.mem_map_of_mem hentry))
  simp [inRun] at hout

theorem upperChar_of_ascii_of_not_lower : ∀ n < 128, inRun n (0x61, 0x7a, 1) = false →
    upperChar (Char.ofNat n) = [Char.ofNat n] := by
  decide

/-- A character outside the runs is in upper case. -/
theorem IsRaised.upperChar_ofNat {n : Nat} (h : IsRaised n) :
    upperChar (Char.ofNat n) = [Char.ofNat n] := by
  by_cases hvalid : n.isValidChar
  · have hn : (Char.ofNat n).toNat = n := toNat_ofNat_of_isValidChar hvalid
    by_cases hascii : n < 0x80
    · exact upperChar_of_ascii_of_not_lower n hascii
        (h (0x61, 0x7a, 1, -0x20) (List.mem_append_left _ List.mem_cons_self))
    · unfold upperChar convertWith
      rw [hn, if_neg hascii, h.lookup_toUpperLong, h.shiftOf_eq_zero, Int.add_zero,
        Int.toNat_natCast]
  · rw [ofNat_of_not_isValidChar hvalid]
    decide

theorem leadsOut_upperRuns : LetterTable.toUpper.all (leadsOut upperRuns) = true := by
  decide +kernel

theorem upperChar_long : ∀ entry ∈ LetterTable.toUpperLong, ∀ n ∈ entry.2,
    upperChar (Char.ofNat n) = [Char.ofNat n] := by
  decide +kernel

theorem upperChar_of_ascii {c : Char} (h : c.toNat < 0x80) : upperChar c = [c.toUpper] := by
  unfold upperChar
  rw [if_pos h]

/-- How upper case finds what a character beyond ASCII becomes: in the list of those that become
several, in a run, or nowhere. -/
theorem upperChar_cases {c : Char} (h : ¬ c.toNat < 0x80) :
    (∃ codes, (c.toNat, codes) ∈ LetterTable.toUpperLong ∧ upperChar c = codes.map Char.ofNat) ∨
      (∃ first last step shift, (first, last, step, shift) ∈ LetterTable.toUpper ∧
        inRun c.toNat (first, last, step) = true ∧
        upperChar c = [Char.ofNat ((c.toNat : Int) + shift).toNat]) ∨
      upperChar c = [c] := by
  unfold upperChar convertWith
  rw [if_neg h]
  cases hlong : LetterTable.toUpperLong.lookup c.toNat with
  | some codes => exact .inl ⟨codes, mem_of_lookup hlong, rfl⟩
  | none =>
      by_cases hshift : shiftOf LetterTable.toUpper c.toNat = 0
      · refine .inr (.inr ?_)
        dsimp only
        rw [hshift, Int.add_zero, Int.toNat_natCast, Char.ofNat_toNat]
      · obtain ⟨first, last, step, hmem, hn⟩ := exists_run_of_shiftOf hshift
        exact .inr (.inl ⟨first, last, step, _, hmem, hn, rfl⟩)

/-- What upper case gives is in upper case. -/
theorem upperChar_of_mem_upperChar {c u : Char} (h : u ∈ upperChar c) : upperChar u = [u] := by
  by_cases hascii : c.toNat < 0x80
  · rw [upperChar_of_ascii hascii, List.mem_singleton] at h
    rw [h]
    exact forall_ascii (P := fun c => upperChar c.toUpper = [c.toUpper]) (by decide) hascii
  · rcases upperChar_cases hascii with ⟨codes, hmem, hc⟩ | ⟨_, _, _, _, hmem, hn, hc⟩ | hc
    · rw [hc] at h
      obtain ⟨n, hn, rfl⟩ := List.mem_map.mp h
      exact upperChar_long _ hmem n hn
    · rw [hc, List.mem_singleton] at h
      rw [h]
      exact IsRaised.upperChar_ofNat
        (not_inRun_of_leadsOut (List.all_eq_true.mp leadsOut_upperRuns _ hmem) hn)
    · have hself := hc
      rw [hc, List.mem_singleton] at h
      rw [h, hself]

/-- A title is its own title. -/
theorem titleChars_titleChars (cs : List Char) : titleChars (titleChars cs) = titleChars cs := by
  cases cs with
  | nil => rfl
  | cons c cs =>
      obtain ⟨u, more, hupper⟩ := List.exists_cons_of_ne_nil (upperChar_ne_nil c)
      have hu : upperChar u = [u] :=
        upperChar_of_mem_upperChar (by rw [hupper]; exact List.mem_cons_self)
      simp [titleChars, hupper, hu]

theorem title_title (s : String) : title (title s) = title s := by
  rw [title, title, String.toList_ofList, titleChars_titleChars]

theorem title_eq_empty_iff {s : String} : title s = "" ↔ s = "" := by
  constructor
  · intro h
    have hchars : titleChars s.toList = [] := by simpa [title] using congrArg String.toList h
    cases hs : s.toList with
    | nil => exact String.toList_eq_nil_iff.mp hs
    | cons c cs =>
        rw [hs, titleChars] at hchars
        exact absurd (List.append_eq_nil_iff.mp hchars).1 (upperChar_ne_nil c)
  · rintro rfl
    rfl

/-! ## Capitals lead back -/

/-- A character leads to one in lower case, from which upper case leads back to it. -/
def LeadsBack (u : Char) : Prop :=
  ∃ l, lowerChar u = [l] ∧ upperChar l = [u] ∧ (l = u ∨ isLower l = true)

/-- Whether all that upper case makes of a character leads back. -/
def comesBack (c : Char) : Bool :=
  (upperChar c).all fun u => match lowerChar u with
    | [l] => upperChar l == [u] && (l == u || isLower l)
    | _ => false

theorem leadsBack_of_comesBack {c u : Char} (h : comesBack c = true) (hu : u ∈ upperChar c) :
    LeadsBack u := by
  have hback := List.all_eq_true.mp h u hu
  split at hback
  · next l hlower =>
    simp only [Bool.and_eq_true, Bool.or_eq_true, beq_iff_eq] at hback
    exact ⟨l, hlower, hback.1, hback.2⟩
  · exact absurd hback nofun

/-- Whether a run holds the numbers from one to another one in steps. -/
def holdsRun (run : Nat × Nat × Nat) (first last step : Nat) : Bool :=
  Nat.ble run.1 first && Nat.ble last run.2.1 && (first - run.1) % run.2.2 == 0 &&
    (first == last || step % run.2.2 == 0)

theorem inRun_of_holdsRun {run : Nat × Nat × Nat} {first last step n : Nat}
    (h : holdsRun run first last step = true) (hn : inRun n (first, last, step) = true) :
    inRun n run = true := by
  obtain ⟨start, stop, stride⟩ := run
  obtain ⟨hfirst, hlast, hmod⟩ := inRun_iff.mp hn
  simp only [holdsRun, Bool.and_eq_true, Bool.or_eq_true, Nat.ble_eq, beq_iff_eq] at h
  obtain ⟨⟨⟨hstart, hend⟩, hoffset⟩, hsteps⟩ := h
  refine inRun_iff.mpr ⟨by omega, by omega, ?_⟩
  rcases hsteps with rfl | hsteps
  · have hself : n = first := by omega
    rw [hself, hoffset]
  · have hsum : n - start = (first - start) + (n - first) := by omega
    have hdvd : stride ∣ n - first :=
      Nat.dvd_trans (Nat.dvd_of_mod_eq_zero hsteps) (Nat.dvd_of_mod_eq_zero hmod)
    rw [hsum]
    exact Nat.mod_eq_zero_of_dvd (Nat.dvd_add (Nat.dvd_of_mod_eq_zero hoffset) hdvd)

theorem shiftOf_of_first {front back : List (Nat × Nat × Nat × Int)}
    {first last step n : Nat} {shift : Int}
    (hfront : ∀ run ∈ front, inRun n (run.1, run.2.1, run.2.2.1) = false)
    (hn : inRun n (first, last, step) = true) :
    shiftOf (front ++ (first, last, step, shift) :: back) n = shift := by
  induction front with
  | nil =>
      rw [List.nil_append, shiftOf, if_pos hn]
  | cons run front ih =>
      obtain ⟨hrun, hrest⟩ := List.forall_mem_cons.mp hfront
      obtain ⟨first', last', step', shift'⟩ := run
      rw [List.cons_append, shiftOf, if_neg (by rw [hrun]; exact Bool.false_ne_true), ih hrest]

/-- Whether the numbers from one to another one are characters beyond ASCII, other than the
one capital that becomes two characters in lower case. -/
def convertsAlone (first last step : Nat) : Bool :=
  Nat.ble 0x80 first && (Nat.ble last 0xd7ff || Nat.ble 0xe000 first && Nat.ble last 0x10ffff) &&
    isApart first last step (0x130, 0x130, 1, 0)

/-- Lower case shifts such a character as the runs do. -/
theorem lowerChar_of_convertsAlone {first last step n : Nat}
    (h : convertsAlone first last step = true) (hn : inRun n (first, last, step) = true) :
    lowerChar (Char.ofNat n) = [Char.ofNat ((n : Int) + shiftOf LetterTable.toLower n).toNat] := by
  obtain ⟨hfirst, hlast, hmod⟩ := inRun_iff.mp hn
  simp only [convertsAlone, Bool.and_eq_true, Bool.or_eq_true, Nat.ble_eq] at h
  obtain ⟨⟨hascii, hvalid⟩, hapart⟩ := h
  have hvalid : n.isValidChar := by
    rcases hvalid with hvalid | hvalid
    · exact .inl (by omega)
    · exact .inr ⟨by omega, by omega⟩
  have hone : inRun n (0x130, 0x130, 1) = false :=
    not_inRun_of_isApart hapart hfirst hlast (by rintro rfl; omega)
  unfold lowerChar convertWith
  rw [toNat_ofNat_of_isValidChar hvalid, if_neg (by omega), lookup_toLowerLong hone]

/-- Whether the first run of lower case that meets the image of a run of upper case leads all
of it back, and to letters in lower case. -/
def runLeadsBack : Nat × Nat × Nat × Int → Bool
  | (first, last, step, shift) =>
    let low := ((first : Int) + shift).toNat
    let high := ((last : Int) + shift).toNat
    decide (0 ≤ (first : Int) + shift) && convertsAlone low high step &&
      (match LetterTable.toLower.find? fun run => !isApart low high step run with
      | some (first', last', step', shift') =>
        holdsRun (first', last', step') low high step && shift' == -shift
      | none => false) &&
      LetterTable.lowercase.any (holdsRun · first last step)

/-- Where a run is too short to be compared, its characters are looked at. -/
def charsLeadBack : Nat × Nat × Nat × Int → Bool
  | (first, last, _, _) =>
    Nat.ble last (first + 1) && comesBack (Char.ofNat first) && comesBack (Char.ofNat last)

theorem all_lead_back : LetterTable.toUpper.all (fun run =>
    Nat.ble run.2.1 0x7f || runLeadsBack run || charsLeadBack run) = true := by
  decide +kernel

theorem comesBack_long : ∀ entry ∈ LetterTable.toUpperLong,
    comesBack (Char.ofNat entry.1) = true := by
  decide +kernel

theorem comesBack_of_charsLeadBack {c : Char} {first last step : Nat} {shift : Int}
    (h : charsLeadBack (first, last, step, shift) = true)
    (hn : inRun c.toNat (first, last, step) = true) : comesBack c = true := by
  obtain ⟨hfirst, hlast, -⟩ := inRun_iff.mp hn
  simp only [charsLeadBack, Bool.and_eq_true, Nat.ble_eq] at h
  obtain ⟨⟨hshort, hback⟩, hback'⟩ := h
  rcases (by omega : c.toNat = first ∨ c.toNat = last) with hc | hc
  · rwa [← hc, Char.ofNat_toNat] at hback
  · rwa [← hc, Char.ofNat_toNat] at hback'

/-- A character that a run of upper case shifts is led back, and is in lower case. -/
theorem leadsBack_of_runLeadsBack {c : Char} {first last step : Nat} {shift : Int}
    (h : runLeadsBack (first, last, step, shift) = true)
    (hn : inRun c.toNat (first, last, step) = true) (hascii : ¬ c.toNat < 0x80)
    (hc : upperChar c = [Char.ofNat ((c.toNat : Int) + shift).toNat]) :
    LeadsBack (Char.ofNat ((c.toNat : Int) + shift).toNat) := by
  obtain ⟨hfirst, hlast, hmod⟩ := inRun_iff.mp hn
  simp only [runLeadsBack, Bool.and_eq_true, decide_eq_true_eq] at h
  obtain ⟨⟨⟨hpos, halone⟩, hfound⟩, hlower⟩ := h
  -- the image of the number stands in the image of the run
  have himage : inRun ((c.toNat : Int) + shift).toNat
      (((first : Int) + shift).toNat, ((last : Int) + shift).toNat, step) = true := by
    refine inRun_iff.mpr ⟨by omega, by omega, ?_⟩
    have hoffset : ((c.toNat : Int) + shift).toNat - ((first : Int) + shift).toNat =
        c.toNat - first := by omega
    rw [hoffset, hmod]
  have hback : shiftOf LetterTable.toLower ((c.toNat : Int) + shift).toNat = -shift := by
    split at hfound
    · next first' last' step' shift' hfind =>
      obtain ⟨hholds, hshift⟩ := Bool.and_eq_true _ _ ▸ hfound
      obtain rfl := beq_iff_eq.mp hshift
      obtain ⟨-, front, back, hruns, hfront⟩ := List.find?_eq_some_iff_append.mp hfind
      obtain ⟨hlow, hhigh, hstep⟩ := inRun_iff.mp himage
      rw [hruns]
      refine shiftOf_of_first (fun run hrun => ?_) (inRun_of_holdsRun hholds himage)
      have hapart := hfront run hrun
      rw [Bool.not_not] at hapart
      refine not_inRun_of_isApart hapart hlow hhigh ?_
      rintro rfl
      omega
    · exact absurd hfound nofun
  refine ⟨c, ?_, hc, .inr ?_⟩
  · have hself : ((((c.toNat : Int) + shift).toNat : Int) + -shift).toNat = c.toNat := by omega
    rw [lowerChar_of_convertsAlone halone himage, hback, hself, Char.ofNat_toNat]
  · obtain ⟨run, hrun, hholds⟩ := List.any_eq_true.mp hlower
    unfold isLower
    rw [if_neg hascii]
    exact List.any_eq_true.mpr ⟨run, hrun, inRun_of_holdsRun hholds hn⟩

/-- What upper case makes of a character in lower case leads back. -/
theorem leadsBack_of_mem_upperChar {c u : Char} (hlower : lowerChar c = [c])
    (h : u ∈ upperChar c) : LeadsBack u := by
  by_cases hascii : c.toNat < 0x80
  · exact leadsBack_of_comesBack (forall_ascii (P := fun c => comesBack c = true) (by decide) hascii) h
  · rcases upperChar_cases hascii with ⟨codes, hmem, hc⟩ | ⟨_, _, _, _, hmem, hn, hc⟩ | hc
    · refine leadsBack_of_comesBack ?_ h
      have hback := comesBack_long _ hmem
      rwa [Char.ofNat_toNat] at hback
    · have hrun := List.all_eq_true.mp all_lead_back _ hmem
      rw [Bool.or_eq_true, Bool.or_eq_true, Nat.ble_eq] at hrun
      rcases hrun with (hsmall | hrun) | hrun
      · obtain ⟨-, hlast, -⟩ := inRun_iff.mp hn
        exact absurd hascii (not_not.mpr (Nat.lt_succ_of_le (Nat.le_trans hlast hsmall)))
      · rw [hc, List.mem_singleton] at h
        exact h ▸ leadsBack_of_runLeadsBack hrun hn hascii hc
      · exact leadsBack_of_comesBack (comesBack_of_charsLeadBack hrun hn) h
    · rw [hc, List.mem_singleton] at h
      subst h
      exact ⟨u, hlower, hc, .inl rfl⟩

/-! ## Letters in upper case -/

/-- Whether numbers in steps meet nothing of a run, of a single one also by being odd or even. -/
def isMissed (first last step : Nat) (run : Nat × Nat × Nat × Int) : Bool :=
  isApart first last step run || (step == 2 && run.1 == run.2.1 && first % 2 != run.1 % 2)

theorem not_inRun_of_isMissed {first last step n : Nat} {run : Nat × Nat × Nat × Int}
    (h : isMissed first last step run = true) (hn : inRun n (first, last, step) = true) :
    inRun n (run.1, run.2.1, run.2.2.1) = false := by
  obtain ⟨hfirst, hlast, hmod⟩ := inRun_iff.mp hn
  simp only [isMissed, Bool.or_eq_true, Bool.and_eq_true, beq_iff_eq, bne_iff_ne, ne_eq] at h
  rcases h with hapart | ⟨⟨rfl, hsingle⟩, hparity⟩
  · exact not_inRun_of_isApart hapart hfirst hlast (by rintro rfl; omega)
  · rw [Bool.eq_false_iff]
    intro hrun
    obtain ⟨hstart, hend, -⟩ := inRun_iff.mp hrun
    omega

theorem uppercase_is_missed : LetterTable.uppercase.all (fun (first, last, step) =>
    upperRuns.all (isMissed first last step)) = true := by
  decide +kernel

/-- A letter in upper case stays as it is. -/
theorem upperChar_of_isUpper {u : Char} (h : isUpper u = true) : upperChar u = [u] := by
  by_cases hascii : u.toNat < 0x80
  · exact forall_ascii (P := fun u => isUpper u = true → upperChar u = [u]) (by decide) hascii h
  · unfold isUpper at h
    rw [if_neg hascii] at h
    obtain ⟨run, hrun, hn⟩ := List.any_eq_true.mp h
    have hmissed := List.all_eq_true.mp (List.all_eq_true.mp uppercase_is_missed run hrun)
    have hraised : IsRaised u.toNat := fun other hother =>
      not_inRun_of_isMissed (hmissed other hother) hn
    have hself := IsRaised.upperChar_ofNat hraised
    rwa [Char.ofNat_toNat] at hself

/-! ## Separators -/

theorem separatorRuns_lead_past_upper : ∀ run ∈ separatorRuns, run.1 ≠ 0 ∧
    LetterTable.toUpper.all (leadsPast run.1 run.2) = true ∧
    ∀ entry ∈ LetterTable.toUpperLong, ∀ n ∈ entry.2,
      (Char.ofNat n).toNat < run.1 ∨ run.2 < (Char.ofNat n).toNat := by
  decide +kernel

/-- Upper case makes a separator of nothing but itself. -/
theorem eq_of_mem_upperChar_of_isWordSeparator {c x : Char} (hx : isWordSeparator x = true)
    (h : x ∈ upperChar c) : x = c := by
  obtain ⟨run, hrun, hfirst, hlast⟩ := exists_separatorRun hx
  obtain ⟨hpos, hruns, hlong⟩ := separatorRuns_lead_past_upper run hrun
  exact eq_of_mem_upperChar hruns hlong hpos h hfirst hlast

theorem not_isBlank_of_mem_upperChar {c x : Char} (hc : isBlank c = false)
    (h : x ∈ upperChar c) : isBlank x = false := by
  refine Bool.eq_false_iff.mpr fun hx => ?_
  have hseparator : isWordSeparator x = true := by simp [isWordSeparator, hx]
  obtain rfl := eq_of_mem_upperChar_of_isWordSeparator hseparator h
  rw [hc] at hx
  exact Bool.false_ne_true hx

end Scaffold.Text
