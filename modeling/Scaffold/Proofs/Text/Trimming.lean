import Scaffold.Text.Blank

/-!
# Trimmed texts

Trimming takes characters from the ends of a text until one is left that stays. So it keeps
every front that has none to take, leaves a text as it is whose ends stay, and gives nothing
but characters of the text.
-/

namespace Scaffold.Text

/-! ## Fronts that stay -/

theorem dropEndWhile_append {p : Char → Bool} {front : List Char}
    (hfront : ∃ last, front.getLast? = some last ∧ p last = false) (cs : List Char) :
    dropEndWhile p (front ++ cs) = front ++ dropEndWhile p cs := by
  obtain ⟨last, hlast, hp⟩ := hfront
  obtain ⟨init, rfl⟩ := List.getLast?_eq_some_iff.mp hlast
  unfold dropEndWhile
  rw [List.reverse_append, List.dropWhile_append]
  split
  · next hempty =>
    rw [List.isEmpty_iff.mp hempty, List.reverse_nil, List.append_nil, List.reverse_append,
      List.reverse_singleton, List.singleton_append, List.dropWhile_cons_of_neg (by simp [hp])]
    simp
  · simp

/-- Trimming keeps a front that it has nothing to take from. -/
theorem trimWhere_append {p : Char → Bool} {front : String}
    (hhead : ∃ first, front.toList.head? = some first ∧ p first = false)
    (hlast : ∃ last, front.toList.getLast? = some last ∧ p last = false) (s : String) :
    ∃ rest, trimWhere p (front ++ s) = front ++ rest := by
  obtain ⟨first, hfirst, hp⟩ := hhead
  obtain ⟨tail, htail⟩ := List.head?_eq_some_iff.mp hfirst
  have hkeep : (front.toList ++ s.toList).dropWhile p = front.toList ++ s.toList := by
    rw [htail, List.cons_append, List.dropWhile_cons_of_neg (by simp [hp])]
  refine ⟨String.ofList (dropEndWhile p s.toList), String.toList_inj.mp ?_⟩
  unfold trimWhere
  rw [String.toList_append, hkeep, dropEndWhile_append hlast]
  simp

/-- Neither blanks nor slashes are taken from a front that has none at its ends. -/
theorem exists_trimmed_append {front : String}
    (hhead : ∃ first, front.toList.head? = some first ∧ isBlank first = false ∧ first ≠ '/')
    (hlast : ∃ last, front.toList.getLast? = some last ∧ isBlank last = false ∧ last ≠ '/')
    (rest : String) :
    ∃ rest', trimWhere (· == '/') (trim (front ++ rest)) = front ++ rest' := by
  obtain ⟨first, hfirst, hblank, hslash⟩ := hhead
  obtain ⟨last, hend, hblank', hslash'⟩ := hlast
  obtain ⟨unblanked, hunblanked⟩ : ∃ unblanked, trim (front ++ rest) = front ++ unblanked :=
    trimWhere_append ⟨first, hfirst, hblank⟩ ⟨last, hend, hblank'⟩ rest
  rw [hunblanked]
  exact trimWhere_append ⟨first, hfirst, by simpa using hslash⟩ ⟨last, hend, by simpa using hslash'⟩
    unblanked

/-! ## Characters -/

theorem dropEndWhile_subset (p : Char → Bool) (cs : List Char) : dropEndWhile p cs ⊆ cs := by
  intro c hc
  rw [dropEndWhile, List.mem_reverse] at hc
  exact List.mem_reverse.mp ((List.dropWhile_sublist p).subset hc)

theorem trimWhere_subset (p : Char → Bool) (s : String) : (trimWhere p s).toList ⊆ s.toList := by
  rw [trimWhere, String.toList_ofList]
  exact fun c hc => (List.dropWhile_sublist _).subset (dropEndWhile_subset _ _ hc)

theorem trimEndWhere_subset (p : Char → Bool) (s : String) :
    (trimEndWhere p s).toList ⊆ s.toList := by
  rw [trimEndWhere, String.toList_ofList]
  exact dropEndWhile_subset _ _

/-! ## Ends -/

theorem head?_trimWhere (p : Char → Bool) (s : String) {c : Char}
    (h : (trimWhere p s).toList.head? = some c) : p c = false := by
  have hprefix : (trimWhere p s).toList <+: s.toList.dropWhile p := by
    unfold trimWhere dropEndWhile
    rw [String.toList_ofList, ← List.reverse_suffix, List.reverse_reverse]
    exact List.dropWhile_suffix p
  obtain ⟨rest, hrest⟩ := hprefix
  have hnot := List.head?_dropWhile_not p s.toList
  rw [← hrest, List.head?_append, h] at hnot
  simpa using hnot

theorem getLast?_dropEndWhile (p : Char → Bool) (cs : List Char) {c : Char}
    (h : (dropEndWhile p cs).getLast? = some c) : p c = false := by
  rw [dropEndWhile, List.getLast?_reverse] at h
  have hnot := List.head?_dropWhile_not p cs.reverse
  rw [h] at hnot
  simpa using hnot

theorem getLast?_trimWhere (p : Char → Bool) (s : String) {c : Char}
    (h : (trimWhere p s).toList.getLast? = some c) : p c = false := by
  rw [trimWhere, String.toList_ofList] at h
  exact getLast?_dropEndWhile p _ h

theorem getLast?_trimEndWhere (p : Char → Bool) (s : String) {c : Char}
    (h : (trimEndWhere p s).toList.getLast? = some c) : p c = false := by
  rw [trimEndWhere, String.toList_ofList] at h
  exact getLast?_dropEndWhile p _ h

/-- What trimming takes from the end of a text is all of one kind. -/
theorem exists_end_of_trimEndWhere (p : Char → Bool) (s : String) :
    ∃ cut, s.toList = (trimEndWhere p s).toList ++ cut ∧ ∀ c ∈ cut, p c = true := by
  refine ⟨(s.toList.reverse.takeWhile p).reverse, ?_, fun c hc => ?_⟩
  · rw [trimEndWhere, String.toList_ofList, dropEndWhile, ← List.reverse_append,
      List.takeWhile_append_dropWhile, List.reverse_reverse]
  · exact List.all_eq_true.mp List.all_takeWhile c (List.mem_reverse.mp hc)

/-- What trimming takes from the two ends of a text is all of one kind. -/
theorem exists_ends_of_trimWhere (p : Char → Bool) (s : String) :
    ∃ front back : List Char, s.toList = front ++ ((trimWhere p s).toList ++ back) ∧
      (∀ c ∈ front, p c = true) ∧ ∀ c ∈ back, p c = true := by
  obtain ⟨back, hback, hcut⟩ := exists_end_of_trimEndWhere p (String.ofList (s.toList.dropWhile p))
  refine ⟨s.toList.takeWhile p, back, ?_, fun c hc => ?_, hcut⟩
  · have hstart : s.toList.dropWhile p = (trimWhere p s).toList ++ back := by
      simpa [trimEndWhere, trimWhere] using hback
    rw [← hstart, List.takeWhile_append_dropWhile]
  · exact List.all_eq_true.mp List.all_takeWhile c hc

/-- Nothing is left of a text that is all to be trimmed, and of no other. -/
theorem trimWhere_eq_empty_iff (p : Char → Bool) (s : String) :
    trimWhere p s = "" ↔ ∀ c ∈ s.toList, p c = true := by
  constructor
  · intro h c hc
    obtain ⟨front, back, hs, hfront, hback⟩ := exists_ends_of_trimWhere p s
    rw [hs, h] at hc
    rcases List.mem_append.mp hc with hc | hc
    · exact hfront c hc
    · exact hback c (by simpa using hc)
  · intro h
    cases hleft : (trimWhere p s).toList with
    | nil => exact String.toList_eq_nil_iff.mp hleft
    | cons first rest =>
        have hkept : p first = false := head?_trimWhere p s (by rw [hleft]; rfl)
        have hmem : first ∈ s.toList :=
          trimWhere_subset p s (by rw [hleft]; exact List.mem_cons_self)
        rw [h first hmem] at hkept
        exact absurd hkept nofun

theorem dropWhile_of_head {p : Char → Bool} {cs : List Char}
    (h : ∀ c, cs.head? = some c → p c = false) : cs.dropWhile p = cs := by
  cases cs with
  | nil => rfl
  | cons c cs => exact List.dropWhile_cons_of_neg (by simp [h c rfl])

theorem prefix_trimWhere {p : Char → Bool} {s : String}
    (h : ∀ c, s.toList.head? = some c → p c = false) : (trimWhere p s).toList <+: s.toList := by
  unfold trimWhere dropEndWhile
  rw [dropWhile_of_head h, String.toList_ofList, ← List.reverse_suffix, List.reverse_reverse]
  exact List.dropWhile_suffix p

theorem dropEndWhile_of_last {p : Char → Bool} {cs : List Char}
    (h : ∀ c, cs.getLast? = some c → p c = false) : dropEndWhile p cs = cs := by
  have hend : cs.reverse.dropWhile p = cs.reverse :=
    dropWhile_of_head fun c hc => h c (by rwa [List.head?_reverse] at hc)
  rw [dropEndWhile, hend, List.reverse_reverse]

theorem trimWhere_of_ends {p : Char → Bool} {s : String}
    (hhead : ∀ c, s.toList.head? = some c → p c = false)
    (hlast : ∀ c, s.toList.getLast? = some c → p c = false) : trimWhere p s = s := by
  unfold trimWhere
  rw [dropWhile_of_head hhead, dropEndWhile_of_last hlast, String.ofList_toList]

theorem getLast?_of_dropWhile {p : Char → Bool} {cs : List Char} {c : Char}
    (h : (cs.dropWhile p).getLast? = some c) : cs.getLast? = some c := by
  obtain ⟨cut, hcut⟩ := List.dropWhile_suffix p (l := cs)
  rw [← hcut, List.getLast?_append, h, Option.some_or]

/-- A back with nothing to take from its ends stays, and what the front ends in does too. -/
theorem trimChars_append {front back : List Char}
    (hseam : ∀ c, front.getLast? = some c → isBlank c = false)
    (hhead : ∀ c, back.head? = some c → isBlank c = false)
    (hlast : ∀ c, back.getLast? = some c → isBlank c = false) :
    trimChars (front ++ back) = front.dropWhile isBlank ++ back := by
  have hstart : (front ++ back).dropWhile isBlank = front.dropWhile isBlank ++ back := by
    rw [List.dropWhile_append]
    split
    · next hblank => rw [List.isEmpty_iff.mp hblank, dropWhile_of_head hhead, List.nil_append]
    · rfl
  have hend : ∀ c, (front.dropWhile isBlank ++ back).getLast? = some c → isBlank c = false := by
    intro c hc
    rw [List.getLast?_append] at hc
    rcases Option.or_eq_some_iff.mp hc with hc | ⟨-, hc⟩
    · exact hlast c hc
    · exact hseam c (getLast?_of_dropWhile hc)
  rw [trimChars, hstart, dropEndWhile_of_last hend]

/-- One more blank at the end of a text is trimmed with the others. -/
theorem trimChars_concat (cs : List Char) {c : Char} (hc : isBlank c = true) :
    trimChars (cs ++ [c]) = trimChars cs := by
  unfold trimChars dropEndWhile
  rw [List.dropWhile_append]
  split
  · next hempty =>
    rw [List.isEmpty_iff.mp hempty, List.dropWhile_cons_of_pos hc]
    rfl
  · rw [List.reverse_concat, List.dropWhile_cons_of_pos hc]

/-- Trimming takes the blanks around a text and stops at its ends. -/
theorem trim_surrounded {lead s tail : String} (hlead : ∀ c ∈ lead.toList, isBlank c = true)
    (htail : ∀ c ∈ tail.toList, isBlank c = true)
    (hhead : ∃ c, s.toList.head? = some c ∧ isBlank c = false)
    (hlast : ∃ c, s.toList.getLast? = some c ∧ isBlank c = false) :
    trim (lead ++ s ++ tail) = s := by
  obtain ⟨first, hfirst, hsolid⟩ := hhead
  have hstart : (s.toList ++ tail.toList).dropWhile isBlank = s.toList ++ tail.toList := by
    refine dropWhile_of_head fun c hc => ?_
    rw [List.head?_append, hfirst, Option.some_or] at hc
    exact Option.some.inj hc ▸ hsolid
  have hend : dropEndWhile isBlank tail.toList = [] := by
    have hall : (tail.toList.reverse ++ []).dropWhile isBlank = [] :=
      List.dropWhile_append_of_pos fun c hc => htail c (List.mem_reverse.mp hc)
    rw [dropEndWhile, ← List.append_nil tail.toList.reverse, hall, List.reverse_nil]
  refine String.toList_inj.mp ?_
  rw [toList_trim, String.toList_append, String.toList_append, List.append_assoc, trimChars,
    List.dropWhile_append_of_pos hlead, hstart, dropEndWhile_append hlast, hend, List.append_nil]

end Scaffold.Text
