import Scaffold.Proofs.Text.Titles

/-!
# Camel case of camel case

A name in camel case has no separators left, so its words can be found again only by its
capitals. Spelling it in camel case once more keeps the capitals that begin a word and lowers
all others, which were the first letters of words too: `AB` is the camel case of `a_b`, and its
one word is an acronym. Such a capital is gone then, and what is left stays as it is.
-/

namespace Scaffold

open Text

/-! ## The characters of camel case -/

/-- A character as camel case has it: no separator, with one character in lower case, from
which upper case leads back if it is a capital. -/
structure IsCamelChar (u : Char) : Prop where
  solid : isWordSeparator u = false
  lowers : ∃ l, lowerChar u = [l] ∧ (l = u ∨ isLower l = true) ∧
    (isUpper u = true → upperChar l = [u])

theorem not_isWordSeparator_of_mem_upperChar {c u : Char} (hc : isWordSeparator c = false)
    (h : u ∈ upperChar c) : isWordSeparator u = false := by
  refine Bool.eq_false_iff.mpr fun hu => ?_
  obtain rfl := eq_of_mem_upperChar_of_isWordSeparator hu h
  rw [hc] at hu
  exact absurd hu nofun

theorem isCamelChar_of_lowered {c : Char} (hsolid : isWordSeparator c = false)
    (h : lowerChar c = [c]) : IsCamelChar c :=
  ⟨hsolid, c, h, .inl rfl, upperChar_of_isUpper⟩

theorem isCamelChar_of_leadsBack {u : Char} (hsolid : isWordSeparator u = false)
    (h : LeadsBack u) : IsCamelChar u := by
  obtain ⟨l, hlower, hupper, hsmall⟩ := h
  exact ⟨hsolid, l, hlower, hsmall, fun _ => hupper⟩

/-- A text with such characters only, the first of which leads back in any case. -/
structure IsCamel (cs : List Char) : Prop where
  all : ∀ u ∈ cs, IsCamelChar u
  head : ∀ u, cs.head? = some u → LeadsBack u

theorem isCamel_titleChars {cs : List Char} (hsolid : ∀ c ∈ cs, isWordSeparator c = false)
    (hlower : IsLowered cs) : IsCamel (titleChars cs) := by
  cases cs with
  | nil => exact ⟨List.forall_mem_nil _, nofun⟩
  | cons c rest =>
      have hback : ∀ u ∈ upperChar c, LeadsBack u := fun u =>
        leadsBack_of_mem_upperChar (hlower c List.mem_cons_self)
      constructor
      · intro u hu
        rcases List.mem_append.mp hu with hu | hu
        · exact isCamelChar_of_leadsBack
            (not_isWordSeparator_of_mem_upperChar (hsolid c List.mem_cons_self) hu) (hback u hu)
        · exact isCamelChar_of_lowered (hsolid u (List.mem_cons_of_mem _ hu))
            (hlower u (List.mem_cons_of_mem _ hu))
      · intro u hu
        obtain ⟨v, more, hupper⟩ := List.exists_cons_of_ne_nil (upperChar_ne_nil c)
        rw [titleChars, hupper, List.cons_append, List.head?_cons] at hu
        obtain rfl := Option.some.inj hu
        exact hback v (by rw [hupper]; exact List.mem_cons_self)

theorem IsCamel.append {cs ds : List Char} (hcs : IsCamel cs) (hds : IsCamel ds) :
    IsCamel (cs ++ ds) := by
  refine ⟨List.forall_mem_append.mpr ⟨hcs.all, hds.all⟩, fun u hu => ?_⟩
  rw [List.head?_append] at hu
  rcases Option.or_eq_some_iff.mp hu with hu | ⟨-, hu⟩
  · exact hcs.head u hu
  · exact hds.head u hu

theorem isCamel_camelCase (name : String) : IsCamel (camelCase name).toList := by
  rw [toList_camelCase]
  have hwords : ∀ word ∈ (splitWords name).map String.toList, IsCamel (titleChars word) := by
    refine List.forall_mem_map.mpr fun word hword => ?_
    exact isCamel_titleChars ((splitWords_spell_pieces name).2.1 word hword).2
      (isLowered_of_mem_splitWords hword).2
  generalize (splitWords name).map String.toList = words at hwords ⊢
  induction words with
  | nil => exact ⟨List.forall_mem_nil _, nofun⟩
  | cons word words ih =>
      obtain ⟨hword, hrest⟩ := List.forall_mem_cons.mp hwords
      rw [List.flatMap_cons]
      exact hword.append (ih hrest)

/-! ## Spelling it again -/

/-- The first character that a character has in lower case. -/
def smallOf (c : Char) : Char := (lowerChar c).headD c

theorem IsCamelChar.lowerChar_eq {u : Char} (h : IsCamelChar u) : lowerChar u = [smallOf u] := by
  obtain ⟨l, hlower, -⟩ := h.lowers
  rw [smallOf, hlower]
  rfl

/-- Characters behind another one, with their capitals lowered where no word begins. -/
def respelled (prev : Char) : List Char → List Char
  | [] => []
  | c :: cs =>
    (if isUpper c && breaksAfter prev cs.head? then c else smallOf c) :: respelled c cs

theorem titleChars_append {current : List Char} (h : current ≠ []) (more : List Char) :
    titleChars (current ++ more) = titleChars current ++ more := by
  obtain ⟨c, cs, rfl⟩ := List.exists_cons_of_ne_nil h
  rw [List.cons_append, titleChars, titleChars, List.append_assoc]

/-- The words of what follows go on from the word that has begun. -/
theorem titles_wordsFrom {current cs : List Char} {prev : Char} (hcurrent : current ≠ [])
    (h : ∀ c ∈ cs, IsCamelChar c) : (wordsFrom current (some prev) cs).flatMap titleChars =
      titleChars current ++ respelled prev cs := by
  induction cs generalizing current prev with
  | nil => simp [wordsFrom, hcurrent, respelled]
  | cons c cs ih =>
      obtain ⟨hc, hcs⟩ := List.forall_mem_cons.mp h
      have hsmall := hc.lowerChar_eq
      have hbegun : current.isEmpty = false := by simpa using hcurrent
      unfold wordsFrom respelled
      rw [if_neg (by rw [hc.solid]; exact Bool.false_ne_true), hbegun, Bool.not_false,
        Bool.and_true, Option.any_some]
      split
      · next hcut =>
        obtain ⟨l, hlower, -, hback⟩ := hc.lowers
        have htitle : titleChars (lowerChar c) = [c] := by
          rw [hlower, titleChars, hback (Bool.and_eq_true _ _ ▸ hcut).1, List.append_nil]
        rw [List.flatMap_cons, ih (lowerChar_ne_nil c) hcs, htitle, List.singleton_append]
      · rw [ih (List.append_ne_nil_of_left_ne_nil hcurrent _) hcs, titleChars_append hcurrent,
          hsmall, List.append_assoc, List.singleton_append]

/-- Camel case keeps the first character of a name in camel case and respells the others. -/
theorem toList_camelCase_of_isCamel {name : String} {c : Char} {cs : List Char}
    (hname : name.toList = c :: cs) (h : IsCamel name.toList) :
    (camelCase name).toList = c :: respelled c cs := by
  rw [hname] at h
  obtain ⟨hc, hcs⟩ := List.forall_mem_cons.mp h.all
  obtain ⟨l, hlower, hback, -⟩ := h.head c rfl
  have hwords : (splitWords name).map String.toList = wordsFrom (lowerChar c) (some c) cs := by
    have hfirst : wordsFrom [] none (c :: cs) = wordsFrom (lowerChar c) (some c) cs := by
      rw [wordsFrom, if_neg (by rw [hc.solid]; exact Bool.false_ne_true), if_neg (by simp),
        List.nil_append]
    rw [splitWords, hname, hfirst]
    simp
  rw [toList_camelCase, hwords, titles_wordsFrom (lowerChar_ne_nil c) hcs, hlower, titleChars,
    hback, List.append_nil, List.singleton_append]

/-! ## Which capitals stay -/

theorem length_respelled (prev : Char) (cs : List Char) :
    (respelled prev cs).length = cs.length := by
  induction cs generalizing prev with
  | nil => rfl
  | cons c cs ih => rw [respelled, List.length_cons, List.length_cons, ih]

theorem getElem?_respelled {prev p c : Char} {cs : List Char} {i : Nat} (hc : cs[i]? = some c)
    (hp : (prev :: cs)[i]? = some p) : (respelled prev cs)[i]? =
      some (if isUpper c && breaksAfter p cs[i + 1]? then c else smallOf c) := by
  induction cs generalizing prev i with
  | nil => exact absurd hc nofun
  | cons d cs ih =>
      rw [respelled]
      cases i with
      | zero =>
          obtain rfl := Option.some.inj hc
          obtain rfl := Option.some.inj hp
          rw [List.getElem?_cons_zero, List.getElem?_cons_succ, List.head?_eq_getElem?]
      | succ i =>
          rw [List.getElem?_cons_succ] at hc hp ⊢
          rw [List.getElem?_cons_succ]
          exact ih hc hp

/-- A text in which the capitals that begin no word are lowered, and nothing else is new. -/
structure Relowered (cs ds : List Char) : Prop where
  length_eq : ds.length = cs.length
  kept : ∀ i c, cs[i]? = some c → i = 0 ∨ CutAt cs i → ds[i]? = some c
  lowered : ∀ i c, cs[i]? = some c → 0 < i → ¬ CutAt cs i →
    ∃ l, lowerChar c = [l] ∧ ds[i]? = some l

/-- Every character that lower case changes begins a word, except perhaps the first one. -/
def ShowsWords (cs : List Char) : Prop :=
  ∀ i c, 0 < i → cs[i]? = some c → lowerChar c ≠ [c] → CutAt cs i

theorem IsCamel.relowered {name : String} (h : IsCamel name.toList) :
    Relowered name.toList (camelCase name).toList := by
  cases hname : name.toList with
  | nil =>
      obtain rfl : name = "" := String.toList_eq_nil_iff.mp hname
      exact ⟨rfl, nofun, nofun⟩
  | cons first cs =>
      rw [toList_camelCase_of_isCamel hname h]
      rw [hname] at h
      have hsolid : ∀ k, ¬ SeparatorAt (first :: cs) k := by
        rintro k ⟨c, hc, hseparator⟩
        rw [(h.all c (List.mem_of_getElem? hc)).solid] at hseparator
        exact absurd hseparator nofun
      -- behind the first character, what is respelled is decided by whether there is a cut
      have hlater : ∀ i c, (first :: cs)[i + 1]? = some c →
          ∃ keeps : Bool, (keeps = true ↔ CutAt (first :: cs) (i + 1)) ∧
            (first :: respelled first cs)[i + 1]? = some (if keeps then c else smallOf c) := by
        intro i c hc
        have hlt : i + 1 < (first :: cs).length := (List.getElem?_eq_some_iff.mp hc).1
        have hp : (first :: cs)[i]? = some (first :: cs)[i] := List.getElem?_eq_getElem (by omega)
        refine ⟨isUpper c && breaksAfter (first :: cs)[i] (first :: cs)[i + 1 + 1]?, ?_, ?_⟩
        · rw [cutAt_iff hc (Nat.succ_pos i) hp (hsolid i), Bool.and_eq_true]
        · rw [List.getElem?_cons_succ] at hc ⊢
          exact getElem?_respelled hc hp
      constructor
      · rw [List.length_cons, List.length_cons, length_respelled]
      · rintro (_ | i) c hc hcut
        · exact hc
        · obtain ⟨keeps, hkeeps, hspelled⟩ := hlater i c hc
          rw [hspelled, if_pos (hkeeps.mpr (hcut.resolve_left (Nat.succ_ne_zero i)))]
      · rintro (_ | i) c hc hpos hcut
        · exact absurd hpos (Nat.lt_irrefl 0)
        · obtain ⟨keeps, hkeeps, hspelled⟩ := hlater i c hc
          refine ⟨smallOf c, (h.all c (List.mem_of_getElem? hc)).lowerChar_eq, ?_⟩
          rw [hspelled, if_neg (mt hkeeps.mp hcut)]

section

variable {cs ds : List Char}

theorem Relowered.eq_iff (h : Relowered cs ds) : ds = cs ↔ ShowsWords cs := by
  constructor
  · rintro rfl i c hpos hc hchanges
    refine Classical.byContradiction fun hcut => ?_
    obtain ⟨l, hlower, hl⟩ := h.lowered i c hc hpos hcut
    obtain rfl := Option.some.inj (hc.symm.trans hl)
    exact hchanges hlower
  · intro hshows
    refine List.ext_getElem? fun i => ?_
    cases hc : cs[i]? with
    | none =>
        rw [List.getElem?_eq_none_iff] at hc ⊢
        rwa [h.length_eq]
    | some c =>
        by_cases hkept : i = 0 ∨ CutAt cs i
        · exact h.kept i c hc hkept
        · obtain ⟨hpos, hcut⟩ := not_or.mp hkept
          obtain ⟨l, hlower, hl⟩ := h.lowered i c hc (Nat.pos_of_ne_zero hpos) hcut
          have hself : lowerChar c = [c] := Classical.byContradiction fun hchanges =>
            hcut (hshows i c (Nat.pos_of_ne_zero hpos) hc hchanges)
          rw [hl, List.singleton_inj.mp (hlower.symm.trans hself)]

/-- What stands at a position afterwards was there before, or is a small letter. -/
theorem Relowered.exists_at (h : Relowered cs ds) (hcs : IsCamel cs) {i : Nat} {c : Char}
    (hc : cs[i]? = some c) : ∃ d, ds[i]? = some d ∧ (d = c ∨ isLower d = true) := by
  by_cases hkept : i = 0 ∨ CutAt cs i
  · exact ⟨c, h.kept i c hc hkept, .inl rfl⟩
  · obtain ⟨hpos, hcut⟩ := not_or.mp hkept
    obtain ⟨l, hlower, hl⟩ := h.lowered i c hc (Nat.pos_of_ne_zero hpos) hcut
    obtain ⟨l', hlower', hsmall, -⟩ := (hcs.all c (List.mem_of_getElem? hc)).lowers
    obtain rfl := List.singleton_inj.mp (hlower.symm.trans hlower')
    exact ⟨l, hl, hsmall⟩

/-- Every capital that is left begins a word still. -/
theorem Relowered.showsWords (h : Relowered cs ds) (hcs : IsCamel cs) (hds : IsCamel ds) :
    ShowsWords ds := by
  intro i d hpos hd hchanges
  have hcut : CutAt cs i := by
    refine Classical.byContradiction fun hcut => ?_
    obtain ⟨c, hc⟩ : ∃ c, cs[i]? = some c :=
      ⟨_, List.getElem?_eq_getElem (h.length_eq ▸ (List.getElem?_eq_some_iff.mp hd).1)⟩
    obtain ⟨l, hlower, hl⟩ := h.lowered i c hc hpos hcut
    obtain rfl := Option.some.inj (hd.symm.trans hl)
    exact hchanges (isLowered_lowerChar c d (by rw [hlower]; exact List.mem_cons_self))
  obtain ⟨c, prev, hc, hupper, -, hprev, -, hbreaks⟩ := id hcut
  obtain rfl := Option.some.inj ((h.kept i c hc (.inr hcut)).symm.trans hd)
  -- the character in front and the one behind may only have become small letters
  obtain ⟨prev', hprev', hfront⟩ := h.exists_at hcs hprev
  refine ⟨c, prev', hd, hupper, hpos, hprev',
    (hds.all prev' (List.mem_of_getElem? hprev')).solid, ?_⟩
  rcases hfront with rfl | hsmall
  · rcases hbreaks with hlower | hdigit | ⟨hcapital, next, hnext, hlower⟩
    · exact .inl hlower
    · exact .inr (.inl hdigit)
    · obtain ⟨next', hnext', hback⟩ := h.exists_at hcs hnext
      refine .inr (.inr ⟨hcapital, next', hnext', ?_⟩)
      rcases hback with rfl | hsmall
      · exact hlower
      · exact hsmall
  · exact .inl hsmall

end

theorem relowered_camelCase (name : String) :
    Relowered (camelCase name).toList (camelCase (camelCase name)).toList :=
  (isCamel_camelCase name).relowered

/-- A name in camel case is its own camel case exactly where all its capitals but the first
begin words. -/
theorem camelCase_camelCase_iff (name : String) :
    camelCase (camelCase name) = camelCase name ↔ ShowsWords (camelCase name).toList := by
  rw [← String.toList_inj, (relowered_camelCase name).eq_iff]

/-- From the second time on camel case changes nothing. -/
theorem camelCase_camelCase_camelCase (name : String) :
    camelCase (camelCase (camelCase name)) = camelCase (camelCase name) := by
  rw [camelCase_camelCase_iff]
  exact (relowered_camelCase name).showsWords (isCamel_camelCase name)
    (isCamel_camelCase (camelCase name))

end Scaffold
