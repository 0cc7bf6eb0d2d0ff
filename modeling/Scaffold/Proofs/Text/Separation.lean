import Scaffold.Proofs.Text.Pieces

/-!
# Styles that keep words apart

A style with separators between its words writes names that have the same words again:
the separators end words where the words ended, and a word in lower case or with a
capital in front is cut nowhere. So such a style can be applied before any other one,
and twice as well as once.
-/

namespace Scaffold

open Text

/-! ## Words and what stands between them -/

/-- Separators in front of a text add no word. -/
theorem wordsFrom_separators {seps : List Char} (h : ∀ c ∈ seps, isWordSeparator c = true)
    (prev : Option Char) (cs : List Char) :
    wordsFrom [] prev (seps ++ cs) = wordsFrom [] none cs := by
  induction seps generalizing prev with
  | nil => exact wordsFrom_nil prev none cs
  | cons c seps ih =>
      obtain ⟨hc, hseps⟩ := List.forall_mem_cons.mp h
      rw [List.cons_append, wordsFrom, if_pos hc, if_pos List.isEmpty_nil, ih hseps]

/-- Texts with separators between them have the words of the first and then those of
the second. -/
theorem splitWords_append_separators {a sep b : String} (hne : sep ≠ "")
    (h : ∀ c ∈ sep.toList, isWordSeparator c = true) :
    splitWords (a ++ (sep ++ b)) = splitWords a ++ splitWords b := by
  obtain ⟨c, seps, hsep⟩ := List.exists_cons_of_ne_nil (mt String.toList_eq_nil_iff.mp hne)
  rw [hsep] at h
  obtain ⟨hc, hseps⟩ := List.forall_mem_cons.mp h
  have hrest : splitWords (String.ofList seps ++ b) = splitWords b := by
    unfold splitWords
    rw [String.toList_append, String.toList_ofList, wordsFrom_separators hseps]
  rw [splitWords_append_separator (b := String.ofList seps ++ b) hc (by simp [hsep]), hrest]

/-- Characters that are neither separators nor capitals go on with the word that was begun. -/
theorem wordsFrom_of_solid {cs : List Char}
    (h : ∀ c ∈ cs, isWordSeparator c = false ∧ isUpper c = false) {current : List Char}
    (hcurrent : current ≠ []) (prev : Option Char) :
    wordsFrom current prev cs = [current ++ cs.flatMap lowerChar] := by
  induction cs generalizing current prev with
  | nil => simp [wordsFrom, hcurrent]
  | cons c cs ih =>
      obtain ⟨⟨hseparator, hupper⟩, hcs⟩ := List.forall_mem_cons.mp h
      have hgrown : current ++ lowerChar c ≠ [] := by simp [hcurrent]
      rw [wordsFrom, if_neg (by simp [hseparator]), if_neg (by simp [hupper]), ih hcs hgrown,
        List.flatMap_cons, List.append_assoc]

/-- A text is one word when nothing behind its first character separates or is a capital. -/
theorem wordsFrom_single {c : Char} {cs : List Char} (hc : isWordSeparator c = false)
    (h : ∀ x ∈ cs, isWordSeparator x = false ∧ isUpper x = false) :
    wordsFrom [] none (c :: cs) = [lowerChar c ++ cs.flatMap lowerChar] := by
  rw [wordsFrom, if_neg (by simp [hc]), if_neg (by simp), List.nil_append,
    wordsFrom_of_solid h (lowerChar_ne_nil c)]

/-! ## Words of ASCII characters -/

/-- A character of the words of ASCII names: in lower case, and no separator. -/
structure IsWordChar (c : Char) : Prop where
  ascii : c.toNat < 0x80
  lowered : lowerChar c = [c]
  solid : isWordSeparator c = false

namespace IsWordChar

variable {c : Char}

theorem not_isUpper (h : IsWordChar c) : isUpper c = false :=
  forall_ascii (P := fun c => lowerChar c = [c] → isUpper c = false) (by decide) h.ascii h.lowered

/-- A capital leads back to the letter, and is no separator either. -/
theorem capital (h : IsWordChar c) :
    ∃ u, upperChar c = [u] ∧ lowerChar u = [c] ∧ isWordSeparator u = false := by
  have hcheck := forall_ascii (P := fun c => lowerChar c = [c] → isWordSeparator c = false →
    upperChar c = [c.toUpper] ∧ lowerChar c.toUpper = [c] ∧
      isWordSeparator c.toUpper = false) (by decide) h.ascii
  exact ⟨c.toUpper, hcheck h.lowered h.solid⟩

end IsWordChar

/-- A word of an ASCII name. -/
def IsAsciiWord (word : String) : Prop := word ≠ "" ∧ ∀ c ∈ word.toList, IsWordChar c

theorem isAsciiWord_of_mem_splitWords {identifier word : String}
    (hascii : isAscii identifier = true) (h : word ∈ splitWords identifier) :
    IsAsciiWord word := by
  obtain ⟨hne, hlow⟩ := isLowered_of_mem_splitWords h
  obtain ⟨w, hw, rfl⟩ := List.mem_map.mp h
  rw [String.toList_ofList] at hne hlow
  refine ⟨mt String.toList_eq_nil_iff.mpr (by simpa using hne), fun x hx => ?_⟩
  rw [String.toList_ofList] at hx
  -- the words one after the other are the identifier in lower case without separators
  have hmem : x ∈ (wordsFrom [] none identifier.toList).flatten :=
    List.mem_flatten.mpr ⟨w, hw, hx⟩
  rw [flatten_wordsFrom, List.nil_append] at hmem
  obtain ⟨c, hc, hxc⟩ := List.mem_flatMap.mp hmem
  obtain ⟨hc, hsolid⟩ := List.mem_filter.mp hc
  have hsmall : c.toNat < 0x80 := by simpa using List.all_eq_true.mp hascii c hc
  refine ⟨?_, hlow x hx, not_isWordSeparator_of_mem_lowerChar (by simpa using hsolid) hxc⟩
  rw [lowerChar_of_ascii hsmall, List.mem_singleton] at hxc
  rw [hxc]
  exact forall_ascii (P := fun c => c.toLower.toNat < 0x80) (by decide) hsmall

namespace IsAsciiWord

variable {word : String}

theorem isLowered (h : IsAsciiWord word) : IsLowered word.toList :=
  fun c hc => (h.2 c hc).lowered

theorem exists_cons (h : IsAsciiWord word) : ∃ c cs, word.toList = c :: cs ∧ IsWordChar c ∧
    ∀ x ∈ cs, isWordSeparator x = false ∧ isUpper x = false := by
  obtain ⟨hne, hchars⟩ := h
  obtain ⟨c, cs, hword⟩ := List.exists_cons_of_ne_nil (mt String.toList_eq_nil_iff.mp hne)
  rw [hword] at hchars
  obtain ⟨hc, hcs⟩ := List.forall_mem_cons.mp hchars
  exact ⟨c, cs, hword, hc, fun x hx => ⟨(hcs x hx).solid, (hcs x hx).not_isUpper⟩⟩

/-- A word is the only word of itself, in lower case and with a capital in front. -/
theorem splitWords_apply (h : IsAsciiWord word) {letters : WordCase}
    (hletters : letters ≠ .upper) : splitWords (letters.apply word) = [word] := by
  have hlow := h.isLowered
  have happly := letters.toList_apply hlow
  obtain ⟨c, cs, hword, hc, hcs⟩ := h.exists_cons
  have hlower := hlow.flatMap_lowerChar
  rw [hword] at happly hlower
  unfold splitWords
  rw [happly]
  cases letters with
  | upper => exact absurd rfl hletters
  | lower =>
      have hsingle := wordsFrom_single hc.solid hcs
      rw [← List.flatMap_cons, hlower] at hsingle
      rw [WordCase.spell, id, hsingle, List.map_singleton, ← hword, String.ofList_toList]
  | title =>
      obtain ⟨u, hcapital, hback, hsolid⟩ := hc.capital
      have hsingle := wordsFrom_single hsolid hcs
      rw [hback, ← hc.lowered, ← List.flatMap_cons, hlower] at hsingle
      rw [WordCase.spell, titleChars, hcapital, List.singleton_append, hsingle,
        List.map_singleton, ← hword, String.ofList_toList]

end IsAsciiWord

/-! ## Styles with separators -/

namespace NamingStyle

/-- A style that writes words in lower case or with a capital in front, separators between
them and nothing around them. -/
structure Separates (style : NamingStyle) : Prop where
  lead_eq : style.lead = ""
  tail_eq : style.tail = ""
  first_ne : style.first ≠ .upper
  rest_ne : style.rest ≠ .upper
  separator_ne : style.separator ≠ ""
  separators : ∀ c ∈ style.separator.toList, isWordSeparator c = true

variable {style : NamingStyle} {identifier : String}

/-- The words behind the first one come back, each from behind its separator. -/
theorem Separates.splitWords_later (h : style.Separates) {words : List String}
    (hwords : ∀ word ∈ words, IsAsciiWord word) (before : String) :
    splitWords (before ++ String.join (words.map fun w => style.separator ++ style.rest.apply w)) =
      splitWords before ++ words := by
  induction words generalizing before with
  | nil => simp
  | cons word words ih =>
      obtain ⟨hword, hwords⟩ := List.forall_mem_cons.mp hwords
      rw [List.map_cons, String.join_cons, ← String.append_assoc, ih hwords,
        splitWords_append_separators h.separator_ne h.separators,
        hword.splitWords_apply h.rest_ne, List.append_assoc, List.singleton_append]

theorem Separates.splitWords_joined (h : style.Separates) {words : List String}
    (hwords : ∀ word ∈ words, IsAsciiWord word) : splitWords (style.joined words) = words := by
  cases words with
  | nil => rfl
  | cons word words =>
      obtain ⟨hword, hwords⟩ := List.forall_mem_cons.mp hwords
      rw [joined, h.splitWords_later hwords, hword.splitWords_apply h.first_ne,
        List.singleton_append]

/-- An ASCII name has the same words in a style that separates them. So every style makes
of the name in that style what it makes of the name itself, and that style leaves its own
names as they are. -/
theorem separated_style_keeps_words (hstyle : style.Separates)
    (hascii : isAscii identifier = true) :
    splitWords (style.format identifier) = splitWords identifier ∧
      (∀ other : NamingStyle,
        other.format (style.format identifier) = other.format identifier) ∧
      style.format (style.format identifier) = style.format identifier := by
  have hwords : splitWords (style.format identifier) = splitWords identifier := by
    rw [format, hstyle.lead_eq, hstyle.tail_eq, String.empty_append, String.append_empty]
    exact hstyle.splitWords_joined fun _ => isAsciiWord_of_mem_splitWords hascii
  have hformat : ∀ other : NamingStyle,
      other.format (style.format identifier) = other.format identifier := by
    intro other
    change other.lead ++ other.joined (splitWords (style.format identifier)) ++ other.tail = _
    rw [hwords]
    rfl
  exact ⟨hwords, hformat, hformat style⟩

/-- Titles with an underscore and a hyphen between them. -/
def underlinedTitles : NamingStyle := ⟨"Go_-Zero", "", .title, "_-", .title, ""⟩

theorem separated_style_keeps_server : parse? "Go_-Zero" = some underlinedTitles ∧
    underlinedTitles.Separates ∧ isAscii "HTTPServer v2Api#x" = true ∧
    splitWords (underlinedTitles.format "HTTPServer v2Api#x") =
      splitWords "HTTPServer v2Api#x" ∧
    NamingStyle.default.format (underlinedTitles.format "HTTPServer v2Api#x") =
      NamingStyle.default.format "HTTPServer v2Api#x" := by
  have hseparates : underlinedTitles.Separates := by
    have hall : underlinedTitles.separator.toList.all isWordSeparator = true := by decide
    exact ⟨rfl, rfl, by decide, by decide, by decide, List.all_eq_true.mp hall⟩
  have hascii : isAscii "HTTPServer v2Api#x" = true := by decide
  obtain ⟨hwords, hformat, -⟩ := separated_style_keeps_words hseparates hascii
  exact ⟨by decide, hseparates, hascii, hwords, hformat _⟩

end NamingStyle

end Scaffold
