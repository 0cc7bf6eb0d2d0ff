import Scaffold.Naming
import Scaffold.Proofs.Text.Capitals

/-!
# Two spellings of the same words

A name has a camel case and a file name, both spelled from its words. Camel case
drops the places where words end. A style without a separator drops them as well,
and what it writes can be read off the camel case; for any other style the camel
case has to show where words begin, by a capital.
-/

namespace Scaffold

open Text

/-! ## Separators -/

/-- The characters that separate words, as runs. -/
def separatorRuns : List (Nat × Nat) :=
  [(0x9, 0xd), (0x20, 0x20), (0x2d, 0x2e), (0x5f, 0x5f), (0x85, 0x85), (0xa0, 0xa0),
    (0x1680, 0x1680), (0x2000, 0x200a), (0x2028, 0x2029), (0x202f, 0x202f), (0x205f, 0x205f),
    (0x3000, 0x3000)]

theorem exists_separatorRun {c : Char} (h : isWordSeparator c = true) :
    ∃ run ∈ separatorRuns, run.1 ≤ c.toNat ∧ c.toNat ≤ run.2 := by
  have hcode : c.toNat = 0x5f ∨ c.toNat = 0x2d ∨ c.toNat = 0x2e ∨ isBlank c = true := by
    simp only [isWordSeparator, Bool.or_eq_true, decide_eq_true_eq] at h
    rcases h with ((rfl | rfl) | rfl) | h
    · exact .inl rfl
    · exact .inr (.inl rfl)
    · exact .inr (.inr (.inl rfl))
    · exact .inr (.inr (.inr h))
  simp only [isBlank, Bool.or_eq_true, Bool.and_eq_true, decide_eq_true_eq, beq_iff_eq] at hcode
  simp only [separatorRuns, List.mem_cons, List.not_mem_nil, or_false, exists_eq_or_imp,
    exists_eq_left]
  omega

/-- No separator is a letter in lower case. -/
theorem isLower_of_isWordSeparator {c : Char} (h : isWordSeparator c = true) :
    isLower c = false := by
  have hall : ∀ run ∈ separatorRuns, ∀ k ≤ run.2 - run.1,
      isLower (Char.ofNat (run.1 + k)) = false := by
    decide
  obtain ⟨run, hrun, hfirst, hlast⟩ := exists_separatorRun h
  have hc := hall run hrun (c.toNat - run.1) (Nat.sub_le_sub_right hlast _)
  rwa [Nat.add_sub_cancel' hfirst, Char.ofNat_toNat] at hc

/-! ## The words of an identifier -/

/-- Before a word has begun it does not matter what stands in front. -/
theorem wordsFrom_nil (prev prev' : Option Char) (cs : List Char) :
    wordsFrom [] prev cs = wordsFrom [] prev' cs := by
  cases cs with
  | nil => rfl
  | cons c cs => simp [wordsFrom]

/-- A separator parts words and leaves those on both sides as they are. -/
theorem wordsFrom_append {sep : Char} (hsep : isWordSeparator sep = true) (current : List Char)
    (prev : Option Char) (cs ds : List Char) :
    wordsFrom current prev (cs ++ sep :: ds) =
      wordsFrom current prev cs ++ wordsFrom [] none ds := by
  induction cs generalizing current prev with
  | nil =>
      simp only [List.nil_append, wordsFrom, hsep, if_true, wordsFrom_nil (some sep) none]
      split <;> rfl
  | cons c cs ih =>
      -- what follows a character matters only for whether it is in lower case
      have hnext : ∀ prev,
          breaksAfter prev (cs ++ sep :: ds).head? = breaksAfter prev cs.head? := by
        intro prev
        cases cs with
        | nil => simp [breaksAfter, isLower_of_isWordSeparator hsep]
        | cons next cs => rfl
      rw [List.cons_append, wordsFrom, wordsFrom]
      simp only [hnext, ih]
      split
      · split <;> rfl
      · split <;> rfl

theorem splitWords_append_separator {sep : Char} (hsep : isWordSeparator sep = true)
    {a b last : String} (h : last.toList = sep :: b.toList) :
    splitWords (a ++ last) = splitWords a ++ splitWords b := by
  unfold splitWords
  rw [String.toList_append, h, wordsFrom_append hsep, List.map_append]

theorem splitWords_append {a b last : String} (h : last.toList = '_' :: b.toList) :
    splitWords (a ++ last) = splitWords a ++ splitWords b :=
  splitWords_append_separator (by decide) h

/-- Every word holds something, and only what comes of lower case. -/
theorem forall_mem_wordsFrom {P : Char → Prop} {cs : List Char}
    (h : ∀ c ∈ cs, ∀ x ∈ lowerChar c, P x) {current : List Char} {prev : Option Char}
    (hcurrent : ∀ x ∈ current, P x) :
    ∀ w ∈ wordsFrom current prev cs, w ≠ [] ∧ ∀ x ∈ w, P x := by
  induction cs generalizing current prev with
  | nil =>
      intro w hw
      unfold wordsFrom at hw
      split at hw
      · exact absurd hw List.not_mem_nil
      · next hempty =>
        obtain rfl := List.mem_singleton.mp hw
        exact ⟨by simpa using hempty, hcurrent⟩
  | cons c cs ih =>
      have hc : ∀ x ∈ lowerChar c, P x := h c List.mem_cons_self
      have hcs : ∀ d ∈ cs, ∀ x ∈ lowerChar d, P x := fun d hd => h d (List.mem_cons_of_mem _ hd)
      intro w hw
      unfold wordsFrom at hw
      split at hw
      · split at hw
        · exact ih hcs (fun x hx => absurd hx List.not_mem_nil) w hw
        · next hempty =>
          rcases List.mem_cons.mp hw with rfl | hw
          · exact ⟨by simpa using hempty, hcurrent⟩
          · exact ih hcs (fun x hx => absurd hx List.not_mem_nil) w hw
      · split at hw
        · next hbreak =>
          rcases List.mem_cons.mp hw with rfl | hw
          · refine ⟨?_, hcurrent⟩
            rintro rfl
            simp at hbreak
          · exact ih hcs hc w hw
        · refine ih hcs (fun x hx => ?_) w hw
          rcases List.mem_append.mp hx with hx | hx
          · exact hcurrent x hx
          · exact hc x hx

theorem isLowered_of_mem_splitWords {name word : String} (h : word ∈ splitWords name) :
    word.toList ≠ [] ∧ IsLowered word.toList := by
  obtain ⟨w, hw, rfl⟩ := List.mem_map.mp h
  rw [String.toList_ofList]
  exact forall_mem_wordsFrom (fun c _ => isLowered_lowerChar c)
    (fun x hx => absurd hx List.not_mem_nil) w hw

/-- A name of ASCII characters has words that come back from their titles. -/
theorem untitle_title_of_mem_splitWords {name word : String} (hascii : isAscii name = true)
    (h : word ∈ splitWords name) : untitle (title word) = word := by
  have hlow := (isLowered_of_mem_splitWords h).2
  obtain ⟨w, hw, rfl⟩ := List.mem_map.mp h
  rw [String.toList_ofList] at hlow
  have hchars : ∀ x ∈ w, x.toNat < 0x80 := by
    refine (forall_mem_wordsFrom (fun c hc x hx => ?_) (fun x hx => absurd hx List.not_mem_nil)
      w hw).2
    have hsmall : c.toNat < 0x80 := by simpa using List.all_eq_true.mp hascii c hc
    rw [lowerChar_of_ascii hsmall, List.mem_singleton] at hx
    rw [hx]
    exact forall_ascii (P := fun c => c.toLower.toNat < 0x80) (by decide) hsmall
  unfold untitle title
  rw [String.toList_ofList, String.toList_ofList, untitle_title_of_ascii hchars hlow]

/-! ## Camel case -/

/-- A word in lower case that begins with a letter of a single capital, which leads
back to it. -/
inductive Returns : List Char → Prop
  | intro {c u : Char} {rest : List Char} (capital : upperChar c = [u])
      (back : lowerChar u = [c]) (lowered : IsLowered (c :: rest)) : Returns (c :: rest)

theorem returns_of_mem_splitWords {name word : String} (h : word ∈ splitWords name)
    (hback : untitle (title word) = word) : Returns word.toList := by
  obtain ⟨hne, hlow⟩ := isLowered_of_mem_splitWords h
  have hchars : untitleChars (titleChars word.toList) = word.toList := by
    simpa [untitle, title] using congrArg String.toList hback
  obtain ⟨c, u, rest, hword, hcapital, hu⟩ := exists_capital hne hchars
  rw [hword] at hlow ⊢
  exact .intro hcapital hu hlow

theorem toList_camelCase (name : String) :
    (camelCase name).toList = ((splitWords name).map String.toList).flatMap titleChars := by
  simp [camelCase, title, List.flatMap_map]

theorem camelCase_append_separator {sep : Char} (hsep : isWordSeparator sep = true)
    {name last tail : String} (h : tail.toList = sep :: last.toList) :
    camelCase (name ++ tail) = camelCase name ++ camelCase last := by
  unfold camelCase
  rw [splitWords_append_separator hsep h, List.map_append, String.join_append]

theorem camelCase_append {name last tail : String} (h : tail.toList = '_' :: last.toList) :
    camelCase (name ++ tail) = camelCase name ++ camelCase last :=
  camelCase_append_separator (by decide) h

section Titles

variable {w : List Char} {ws vs : List (List Char)}

theorem Returns.lowered (h : Returns w) : IsLowered w := by
  obtain ⟨-, -, hlow⟩ := h
  exact hlow

theorem Returns.title_ne_nil (h : Returns w) : titleChars w ≠ [] := by
  obtain ⟨hcapital, -, -⟩ := h
  simp [titleChars, hcapital]

/-- A title in lower case is the word. -/
theorem Returns.flatMap_lowerChar (h : Returns w) : (titleChars w).flatMap lowerChar = w := by
  obtain ⟨hcapital, hback, hlow⟩ := h
  have hrest := IsLowered.flatMap_lowerChar fun x hx => hlow x (List.mem_cons_of_mem _ hx)
  simp [titleChars, hcapital, hback, hrest]

/-- A word that its title does not show as it is gets another letter in front. -/
theorem Returns.head_title (h : Returns w) (hshown : titleChars w ≠ w) :
    ∃ u rest, titleChars w = u :: rest ∧ lowerChar u ≠ [u] := by
  obtain @⟨c, u, rest, hcapital, hback, -⟩ := h
  refine ⟨u, rest, by simp [titleChars, hcapital], fun hself => hshown ?_⟩
  obtain rfl : c = u := List.cons.inj (hback.symm.trans hself) |>.1
  simp [titleChars, hcapital]

/-- Titles in lower case are the words, one after the other. -/
theorem flatMap_lowerChar_titles (h : ∀ w ∈ ws, Returns w) :
    (ws.flatMap titleChars).flatMap lowerChar = ws.flatten := by
  induction ws with
  | nil => rfl
  | cons w ws ih =>
      rw [List.flatMap_cons, List.flatMap_append, (h w List.mem_cons_self).flatMap_lowerChar,
        ih fun v hv => h v (List.mem_cons_of_mem _ hv), List.flatten_cons]

theorem eq_nil_of_titles (hws : ∀ w ∈ ws, Returns w) (h : ws.flatMap titleChars = []) :
    ws = [] := by
  cases ws with
  | nil => rfl
  | cons w ws =>
      rw [List.flatMap_cons] at h
      exact absurd (List.append_eq_nil_iff.mp h).1 (hws w List.mem_cons_self).title_ne_nil

/-- Titles that differ from their words begin with a letter that is not in lower case. -/
theorem head_titles (hws : ∀ w ∈ ws, Returns w) (hshown : ∀ w ∈ ws, titleChars w ≠ w) :
    ∀ u ∈ (ws.flatMap titleChars).head?, lowerChar u ≠ [u] := by
  intro u hu
  cases ws with
  | nil => exact absurd hu nofun
  | cons w ws =>
      obtain ⟨u', rest, htitle, hne⟩ :=
        (hws w List.mem_cons_self).head_title (hshown w List.mem_cons_self)
      rw [List.flatMap_cons, htitle] at hu
      obtain rfl := Option.some.inj hu
      exact hne

/-- A text in lower case ends where the next letter is not. -/
theorem lowered_append_inj {cs ds more others : List Char} (hcs : IsLowered cs)
    (hds : IsLowered ds) (hmore : ∀ u ∈ more.head?, lowerChar u ≠ [u])
    (hothers : ∀ u ∈ others.head?, lowerChar u ≠ [u]) (h : cs ++ more = ds ++ others) :
    cs = ds ∧ more = others := by
  induction cs generalizing ds with
  | nil =>
      cases ds with
      | nil => exact ⟨rfl, h⟩
      | cons d ds =>
          obtain rfl : more = d :: (ds ++ others) := h
          exact absurd (hds d List.mem_cons_self) (hmore d rfl)
  | cons c cs ih =>
      cases ds with
      | nil =>
          obtain rfl : c :: (cs ++ more) = others := h
          exact absurd (hcs c List.mem_cons_self) (hothers c rfl)
      | cons d ds =>
          obtain ⟨rfl, htail⟩ := List.cons.inj h
          obtain ⟨rfl, hrest⟩ := ih (fun x hx => hcs x (List.mem_cons_of_mem _ hx))
            (fun x hx => hds x (List.mem_cons_of_mem _ hx)) htail
          exact ⟨rfl, hrest⟩

/-- Words are read back from their titles when all titles but the first show where a
word begins. -/
theorem titles_inj (hws : ∀ w ∈ ws, Returns w) (hvs : ∀ v ∈ vs, Returns v)
    (hwshown : ∀ w ∈ ws.tail, titleChars w ≠ w) (hvshown : ∀ v ∈ vs.tail, titleChars v ≠ v)
    (h : ws.flatMap titleChars = vs.flatMap titleChars) : ws = vs := by
  induction ws generalizing vs with
  | nil => exact (eq_nil_of_titles hvs h.symm).symm
  | cons w ws ih =>
      cases vs with
      | nil => exact eq_nil_of_titles hws h
      | cons v vs =>
          have hws' : ∀ x ∈ ws, Returns x := fun x hx => hws x (List.mem_cons_of_mem _ hx)
          have hvs' : ∀ x ∈ vs, Returns x := fun x hx => hvs x (List.mem_cons_of_mem _ hx)
          obtain @⟨c, u, rest, hcapital, hback, hlow⟩ := hws w List.mem_cons_self
          obtain @⟨c', u', rest', hcapital', hback', hlow'⟩ := hvs v List.mem_cons_self
          simp only [List.flatMap_cons, titleChars, hcapital, hcapital', List.cons_append,
            List.nil_append] at h
          obtain ⟨rfl, htail⟩ := List.cons.inj h
          -- one capital leads back to one letter, and both words end where the next one shows
          obtain rfl : c = c' := List.cons.inj (hback.symm.trans hback') |>.1
          obtain ⟨rfl, hmore⟩ := lowered_append_inj
            (fun x hx => hlow x (List.mem_cons_of_mem _ hx))
            (fun x hx => hlow' x (List.mem_cons_of_mem _ hx))
            (head_titles hws' hwshown) (head_titles hvs' hvshown) htail
          rw [ih hws' hvs' (fun x hx => hwshown x (List.mem_of_mem_tail hx))
            (fun x hx => hvshown x (List.mem_of_mem_tail hx)) hmore]

end Titles

/-! ## File names -/

/-- How a word in lower case is spelled. -/
def WordCase.spell : WordCase → List Char → List Char
  | .lower => id
  | .upper => fun w => w.flatMap upperChar
  | .title => titleChars

theorem WordCase.toList_apply (letters : WordCase) {word : String} (h : IsLowered word.toList) :
    (letters.apply word).toList = letters.spell word.toList := by
  cases letters with
  | lower => simp [apply, spell, toLower, h.lowerChars_eq]
  | upper => simp [apply, spell, toUpper]
  | title => simp [apply, spell, toLower, Text.title, h.lowerChars_eq]

/-- What a style without a separator makes of a camel case. -/
def WordCase.respell : WordCase → WordCase → List Char → List Char
  | .lower, .lower => fun name => name.flatMap lowerChar
  | .lower, _ => untitleChars
  | .title, .lower => fun name => titleChars (name.flatMap lowerChar)
  | .title, _ => id
  | .upper, _ => fun name => (name.flatMap lowerChar).flatMap upperChar

/-- Words spelled one after the other can be read off their camel case, unless some of
them are all capitals and others are not. -/
theorem WordCase.respell_titles {first rest : WordCase}
    (hcapitals : first = .upper ↔ rest = .upper) {w : List Char} {ws : List (List Char)}
    (h : ∀ v ∈ w :: ws, Returns v) :
    first.respell rest ((w :: ws).flatMap titleChars) =
      first.spell w ++ ws.flatMap rest.spell := by
  have hlower := flatMap_lowerChar_titles h
  rw [List.flatten_cons, ← List.flatMap_id] at hlower
  obtain @⟨c, u, tail, hcapital, hback, -⟩ := h w List.mem_cons_self
  cases first with
  | lower =>
      cases rest with
      | lower => exact hlower
      | title =>
          simp [respell, spell, untitleChars, titleChars, hcapital, hback]
      | upper => exact absurd (hcapitals.mpr rfl) (by decide)
  | title =>
      cases rest with
      | lower =>
          change titleChars ((((c :: tail) :: ws).flatMap titleChars).flatMap lowerChar) =
            titleChars (c :: tail) ++ ws.flatMap id
          rw [hlower]
          simp [titleChars, hcapital]
      | title => rfl
      | upper => exact absurd (hcapitals.mpr rfl) (by decide)
  | upper =>
      obtain rfl : rest = .upper := hcapitals.mp rfl
      change List.flatMap upperChar _ =
        List.flatMap upperChar _ ++ ws.flatMap (List.flatMap upperChar)
      rw [hlower, List.flatMap_append, List.flatMap_assoc]
      rfl

namespace NamingStyle

variable {style : NamingStyle} {name other last : String}

/-- A style that drops the ends of words, as camel case does, and capitalizes the first
word as a whole exactly when it does so with the others. -/
def Flat (style : NamingStyle) : Prop :=
  style.separator = "" ∧ (style.first = .upper ↔ style.rest = .upper)

/-- A name whose camel case a style can follow: its words come back from their titles, and
unless the style drops the ends of words as well, titles show where the later ones begin. -/
structure Follows (style : NamingStyle) (name : String) : Prop where
  returns : ∀ word ∈ splitWords name, untitle (title word) = word
  shown : style.Flat ∨ ∀ word ∈ (splitWords name).tail, title word ≠ word

theorem follows_of_ascii (hflat : style.Flat) (hascii : isAscii name = true) :
    style.Follows name :=
  ⟨fun _ => untitle_title_of_mem_splitWords hascii, .inl hflat⟩

/-- A single word that comes back from its title is followed by every style. -/
theorem follows_of_word {word : String} (hword : splitWords word = [word])
    (hback : untitle (title word) = word) : style.Follows word := by
  refine ⟨fun w hw => ?_, .inr fun w hw => ?_⟩
  · rw [hword, List.mem_singleton] at hw
    rw [hw, hback]
  · rw [hword] at hw
    exact absurd hw List.not_mem_nil

theorem Follows.returns_chars (h : style.Follows name) :
    ∀ w ∈ (splitWords name).map String.toList, Returns w := by
  intro w hw
  obtain ⟨word, hword, rfl⟩ := List.mem_map.mp hw
  exact returns_of_mem_splitWords hword (h.returns word hword)

/-- A flat style spells words from their camel case. -/
theorem Flat.toList_joined (hflat : style.Flat) {words : List String}
    (h : ∀ w ∈ words.map String.toList, Returns w) :
    (style.joined words).toList =
      style.first.respell style.rest ((words.map String.toList).flatMap titleChars) := by
  obtain ⟨hseparator, hcapitals⟩ := hflat
  cases words with
  | nil =>
      cases style.first <;> cases style.rest <;> rfl
  | cons word words =>
      have hword : IsLowered word.toList := (h _ List.mem_cons_self).lowered
      have hspell : ∀ w ∈ words, (style.rest.apply w).toList = style.rest.spell w.toList :=
        fun w hw => style.rest.toList_apply
          (h _ (List.mem_map_of_mem (List.mem_cons_of_mem _ hw))).lowered
      rw [List.map_cons, WordCase.respell_titles hcapitals h]
      simp only [joined, hseparator, String.empty_append, String.toList_append,
        String.toList_join, List.flatMap_map, style.first.toList_apply hword]
      rw [List.flatMap_def, List.map_congr_left hspell, List.flatMap_def]

theorem words_eq_of_camelCase (hname : style.Follows name) (hother : style.Follows other)
    (hflat : ¬ style.Flat) (h : camelCase name = camelCase other) :
    splitWords name = splitWords other := by
  have hshown : ∀ {name}, style.Follows name →
      ∀ w ∈ ((splitWords name).map String.toList).tail, titleChars w ≠ w := by
    intro name hname w hw hself
    rw [← List.map_tail] at hw
    obtain ⟨word, hword, rfl⟩ := List.mem_map.mp hw
    refine (hname.shown.resolve_left hflat) word hword ?_
    rw [title, hself, String.ofList_toList]
  have hchars := congrArg String.toList h
  rw [toList_camelCase, toList_camelCase] at hchars
  exact (List.map_inj_right fun _ _ => String.toList_inj.mp).mp
    (titles_inj hname.returns_chars hother.returns_chars (hshown hname) (hshown hother) hchars)

theorem Flat.toList_joined_append (hflat : style.Flat) {tail : String}
    (htail : tail.toList = '_' :: last.toList) (hlast : style.Follows last)
    (hname : style.Follows name) :
    (style.joined (splitWords (name ++ tail))).toList = style.first.respell style.rest
      ((camelCase name).toList ++ (camelCase last).toList) := by
  have hreturns : ∀ w ∈ (splitWords name ++ splitWords last).map String.toList, Returns w := by
    rw [List.map_append]
    exact List.forall_mem_append.mpr ⟨hname.returns_chars, hlast.returns_chars⟩
  rw [splitWords_append htail, hflat.toList_joined hreturns, List.map_append,
    List.flatMap_append, toList_camelCase, toList_camelCase]

/-- Names of one camel case have one file name in every style that follows them, behind
whatever word their files have in common. -/
theorem format_eq_of_camelCase {tail : String} (htail : tail.toList = '_' :: last.toList)
    (hlast : style.Follows last) (hname : style.Follows name)
    (hother : style.Follows other) (h : camelCase name = camelCase other) :
    style.format (name ++ tail) = style.format (other ++ tail) := by
  have hjoined : style.joined (splitWords (name ++ tail)) =
      style.joined (splitWords (other ++ tail)) := by
    by_cases hflat : style.Flat
    -- a flat style spells words that differ in where they end only in one way
    · rw [← String.toList_inj, hflat.toList_joined_append htail hlast hname,
        hflat.toList_joined_append htail hlast hother, h]
    -- for the others the words themselves can be read off the camel case
    · rw [splitWords_append htail, splitWords_append htail,
        words_eq_of_camelCase hname hother hflat h]
  rw [format, format, hjoined]

end NamingStyle

end Scaffold
