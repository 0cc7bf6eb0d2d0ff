import Scaffold.Proofs.Text.Words

/-!
# Words as pieces of an identifier

The words of an identifier are read from left to right, with a look at the character
before and the one behind. The same words are found by looking at the whole identifier
at once: its pieces are the stretches of positions that hold no separator and that no
cut divides, and the words are the pieces in lower case.
-/

namespace Scaffold

open Text

/-! ## Pieces -/

/-- A character that belongs to no word stands at a position. -/
def SeparatorAt (cs : List Char) (i : Nat) : Prop :=
  ∃ c, cs[i]? = some c ∧ isWordSeparator c = true

/-- A capital begins a word right behind another one: behind a small letter or a digit,
and behind a capital when a small letter follows. -/
def CutAt (cs : List Char) (i : Nat) : Prop :=
  ∃ c prev, cs[i]? = some c ∧ isUpper c = true ∧ 0 < i ∧ cs[i - 1]? = some prev ∧
    isWordSeparator prev = false ∧
      (isLower prev = true ∨ isAsciiDigit prev = true ∨
        isUpper prev = true ∧ ∃ next, cs[i + 1]? = some next ∧ isLower next = true)

/-- A stretch of positions that begins where a word can begin and that nothing divides. -/
structure IsStretch (cs : List Char) (start stop : Nat) : Prop where
  first : start = 0 ∨ SeparatorAt cs (start - 1) ∨ CutAt cs start
  solid : ∀ i, start ≤ i → i < stop → ¬ SeparatorAt cs i
  uncut : ∀ i, start < i → i < stop → ¬ CutAt cs i

/-- A stretch that is not empty and goes on as far as it can. -/
structure IsPiece (cs : List Char) (start stop : Nat) : Prop extends IsStretch cs start stop where
  nonempty : start < stop
  last : stop = cs.length ∨ SeparatorAt cs stop ∨ CutAt cs stop

/-- The characters from a position up to another one. -/
def slice (cs : List Char) (start stop : Nat) : List Char := (cs.drop start).take (stop - start)

section

variable {cs : List Char} {start stop i : Nat} {c : Char}

theorem SeparatorAt.lt (h : SeparatorAt cs i) : i < cs.length := by
  obtain ⟨c, hc, -⟩ := h
  exact (List.getElem?_eq_some_iff.mp hc).1

theorem CutAt.lt (h : CutAt cs i) : i < cs.length := by
  obtain ⟨c, prev, hc, -⟩ := h
  exact (List.getElem?_eq_some_iff.mp hc).1

theorem le_length_of_last (h : stop = cs.length ∨ SeparatorAt cs stop ∨ CutAt cs stop) :
    stop ≤ cs.length := by
  rcases h with hlast | hlast | hlast
  · exact Nat.le_of_eq hlast
  · exact Nat.le_of_lt hlast.lt
  · exact Nat.le_of_lt hlast.lt

theorem IsPiece.le_length (h : IsPiece cs start stop) : stop ≤ cs.length :=
  le_length_of_last h.last

/-- A piece that begins inside a stretch begins with it. -/
theorem IsPiece.start_eq {a b : Nat} (h : IsPiece cs a b) (hstretch : IsStretch cs start stop)
    (hstart : start ≤ a) (hstop : a < stop) : a = start := by
  refine Decidable.byContradiction fun hne => ?_
  rcases h.first with hfirst | hfirst | hfirst
  · omega
  · exact hstretch.solid (a - 1) (by omega) (by omega) hfirst
  · exact hstretch.uncut a (by omega) hstop hfirst

/-- A piece ends nowhere inside a stretch. -/
theorem IsPiece.stop_le {b : Nat} (h : IsPiece cs start b) (hstretch : IsStretch cs start stop)
    (hstop : stop ≤ cs.length) : stop ≤ b := by
  refine Decidable.byContradiction fun hlt => ?_
  have hnonempty := h.nonempty
  rcases h.last with hlast | hlast | hlast
  · omega
  · exact hstretch.solid b (by omega) (by omega) hlast
  · exact hstretch.uncut b (by omega) (by omega) hlast

/-- Two pieces with a position in common are one. -/
theorem IsPiece.eq_of_meets {a b : Nat} (h : IsPiece cs a b) (hpiece : IsPiece cs start stop)
    (hstart : start ≤ a) (hstop : a < stop) : (a, b) = (start, stop) := by
  obtain rfl := h.start_eq hpiece.toIsStretch hstart hstop
  rw [Nat.le_antisymm (hpiece.stop_le h.toIsStretch h.le_length)
    (h.stop_le hpiece.toIsStretch hpiece.le_length)]

/-- No piece begins at a separator. -/
theorem IsPiece.lt_of_separatorAt {a b : Nat} (h : IsPiece cs a b) (hat : SeparatorAt cs i)
    (hle : i ≤ a) : i < a := by
  refine Nat.lt_of_le_of_ne hle ?_
  rintro rfl
  exact h.solid i (Nat.le_refl i) h.nonempty hat

theorem slice_self (cs : List Char) (start : Nat) : slice cs start start = [] := by
  simp [slice]

theorem slice_succ (hstart : start ≤ i) (hc : cs[i]? = some c) :
    slice cs start (i + 1) = slice cs start i ++ [c] := by
  have hdrop : (cs.drop start)[i - start]? = some c := by
    rw [List.getElem?_drop, Nat.add_sub_cancel' hstart, hc]
  rw [slice, slice, Nat.succ_sub hstart, List.take_add_one, hdrop]
  rfl

theorem mem_slice (h : c ∈ slice cs start stop) :
    ∃ i, start ≤ i ∧ i < stop ∧ cs[i]? = some c := by
  obtain ⟨n, hn⟩ := List.mem_iff_getElem?.mp h
  rw [slice, List.getElem?_take] at hn
  split at hn
  · next hlt =>
    rw [List.getElem?_drop] at hn
    exact ⟨start + n, by omega, by omega, hn⟩
  · exact absurd hn nofun

end

/-! ## Separators -/

theorem separatorRuns_lead_past : ∀ run ∈ separatorRuns, run.1 ≠ 0 ∧
    LetterTable.toLower.all (leadsPast run.1 run.2) = true ∧
    ∀ entry ∈ LetterTable.toLowerLong, ∀ n ∈ entry.2,
      (Char.ofNat n).toNat < run.1 ∨ run.2 < (Char.ofNat n).toNat := by
  decide +kernel

/-- Lower case makes a separator of nothing but itself. -/
theorem not_isWordSeparator_of_mem_lowerChar {c x : Char} (hc : isWordSeparator c = false)
    (h : x ∈ lowerChar c) : isWordSeparator x = false := by
  refine Bool.eq_false_iff.mpr fun hx => ?_
  obtain ⟨run, hrun, hfirst, hlast⟩ := exists_separatorRun hx
  obtain ⟨hpos, hruns, hlong⟩ := separatorRuns_lead_past run hrun
  obtain rfl := eq_of_mem_lowerChar hruns hlong hpos h hfirst hlast
  rw [hc] at hx
  exact absurd hx nofun

/-! ## Words -/

/-- The characters from one position up to another, in lower case. -/
def lowered (cs : List Char) (span : Nat × Nat) : List Char :=
  (slice cs span.1 span.2).flatMap lowerChar

/-- Words that are the pieces from a position on, each once and in their order. -/
def SpellPieces (cs : List Char) (start : Nat) (words : List (List Char)) : Prop :=
  ∃ spans : List (Nat × Nat), spans.Pairwise (fun s t => s.2 ≤ t.1) ∧
    (∀ a b, (a, b) ∈ spans ↔ start ≤ a ∧ IsPiece cs a b) ∧ words = spans.map (lowered cs)

section

variable {cs : List Char} {start k next : Nat} {words : List (List Char)}

/-- Positions where no piece begins can be left out. -/
theorem SpellPieces.skip (h : SpellPieces cs next words) (hle : start ≤ next)
    (hskip : ∀ a b, IsPiece cs a b → start ≤ a → next ≤ a) : SpellPieces cs start words := by
  obtain ⟨spans, hordered, hmem, hwords⟩ := h
  refine ⟨spans, hordered, fun a b => ?_, hwords⟩
  rw [hmem]
  exact ⟨fun ⟨ha, hpiece⟩ => ⟨Nat.le_trans hle ha, hpiece⟩,
    fun ⟨ha, hpiece⟩ => ⟨hskip a b hpiece ha, hpiece⟩⟩

/-- A piece in front of the others. -/
theorem SpellPieces.cons (h : SpellPieces cs next words) (hpiece : IsPiece cs start k)
    (hle : k ≤ next) (hskip : ∀ a b, IsPiece cs a b → k ≤ a → next ≤ a) :
    SpellPieces cs start (lowered cs (start, k) :: words) := by
  obtain ⟨spans, hordered, hmem, rfl⟩ := h
  refine ⟨(start, k) :: spans, List.pairwise_cons.mpr ⟨fun span hspan => ?_, hordered⟩,
    fun a b => ?_, rfl⟩
  · exact Nat.le_trans hle ((hmem span.1 span.2).mp hspan).1
  · rw [List.mem_cons, hmem]
    constructor
    · rintro (heq | ⟨ha, hother⟩)
      · obtain ⟨rfl, rfl⟩ := Prod.mk.inj heq
        exact ⟨Nat.le_refl _, hpiece⟩
      · have hnonempty := hpiece.nonempty
        exact ⟨by omega, hother⟩
    · rintro ⟨ha, hother⟩
      rcases Nat.lt_or_ge a k with hlt | hge
      · exact .inl (hother.eq_of_meets hpiece ha hlt)
      · exact .inr ⟨hskip a b hother hge, hother⟩

theorem lowered_eq_nil_iff (hle : start ≤ k) (hk : k ≤ cs.length) :
    lowered cs (start, k) = [] ↔ start = k := by
  unfold lowered
  rw [List.flatMap_eq_nil_iff]
  constructor
  · intro h
    refine Decidable.byContradiction fun hne => ?_
    have hslice : slice cs start k ≠ [] := by
      refine List.ne_nil_of_length_pos ?_
      rw [slice, List.length_take, List.length_drop]
      omega
    obtain ⟨c, rest, hcons⟩ := List.exists_cons_of_ne_nil hslice
    exact lowerChar_ne_nil c (h c (hcons ▸ List.mem_cons_self))
  · rintro rfl
    rw [slice_self]
    exact fun c hc => absurd hc List.not_mem_nil

/-- Behind the last character there are no pieces. -/
theorem spellPieces_end : SpellPieces cs cs.length [] := by
  refine ⟨[], List.Pairwise.nil, fun a b => ?_, rfl⟩
  refine ⟨fun h => absurd h List.not_mem_nil, fun ⟨ha, hpiece⟩ => ?_⟩
  have hbound := hpiece.le_length
  have hnonempty := hpiece.nonempty
  omega

/-- A stretch that goes no further is the piece in front of the others, unless it is empty. -/
theorem SpellPieces.close (h : SpellPieces cs next words) (hle : start ≤ k) (hnext : k ≤ next)
    (hstretch : IsStretch cs start k) (hlast : k = cs.length ∨ SeparatorAt cs k ∨ CutAt cs k)
    (hskip : ∀ a b, IsPiece cs a b → k ≤ a → next ≤ a) :
    SpellPieces cs start
      (if (lowered cs (start, k)).isEmpty then words else lowered cs (start, k) :: words) := by
  have hk := le_length_of_last hlast
  by_cases hempty : start = k
  · rw [(lowered_eq_nil_iff hle hk).mpr hempty, hempty]
    exact h.skip hnext hskip
  · have hne : lowered cs (start, k) ≠ [] := mt (lowered_eq_nil_iff hle hk).mp hempty
    rw [if_neg (by simpa using hne)]
    exact h.cons ⟨hstretch, by omega, hlast⟩ hnext hskip

theorem lowered_succ {c : Char} (hle : start ≤ k) (hc : cs[k]? = some c) :
    lowered cs (start, k + 1) = lowered cs (start, k) ++ lowerChar c := by
  rw [lowered, slice_succ hle hc, List.flatMap_append, List.flatMap_singleton]
  rfl

/-- One more character belongs to a stretch when it is no separator and no cut stands
in front of it. -/
theorem IsStretch.succ (h : IsStretch cs start k) (hseparator : ¬ SeparatorAt cs k)
    (hcut : start < k → ¬ CutAt cs k) : IsStretch cs start (k + 1) where
  first := h.first
  solid i hi hlt := by
    rcases Nat.lt_succ_iff_lt_or_eq.mp hlt with hlt | rfl
    · exact h.solid i hi hlt
    · exact hseparator
  uncut i hi hlt := by
    rcases Nat.lt_succ_iff_lt_or_eq.mp hlt with hlt | rfl
    · exact h.uncut i hi hlt
    · exact hcut hi

/-- A stretch that has only begun. -/
theorem isStretch_self (hfirst : k = 0 ∨ SeparatorAt cs (k - 1) ∨ CutAt cs k) :
    IsStretch cs k k where
  first := hfirst
  solid i hi hlt := by omega
  uncut i hi hlt := by omega

/-- Behind a character of a word the scan cuts where the identifier does. -/
theorem cutAt_iff {c prev : Char} (hc : cs[k]? = some c) (hpos : 0 < k)
    (hprev : cs[k - 1]? = some prev) (hsolid : ¬ SeparatorAt cs (k - 1)) :
    CutAt cs k ↔ isUpper c = true ∧ breaksAfter prev cs[k + 1]? = true := by
  have hword : isWordSeparator prev = false :=
    Bool.eq_false_iff.mpr fun hseparator => hsolid ⟨prev, hprev, hseparator⟩
  unfold CutAt breaksAfter
  rw [hc, hprev]
  simp only [Bool.or_eq_true, Bool.and_eq_true, Option.any_eq_true, or_assoc]
  constructor
  · rintro ⟨_, _, ⟨⟩, hupper, -, ⟨⟩, -, hbreaks⟩
    exact ⟨hupper, hbreaks⟩
  · rintro ⟨hupper, hbreaks⟩
    exact ⟨c, prev, rfl, hupper, hpos, rfl, hword, hbreaks⟩

/-- The scan asks for a cut only when a word has begun, and then nothing separates the
character from the one before it. -/
theorem asks_for_cut_iff {c : Char} {prev : Option Char} (hstretch : IsStretch cs start k)
    (hle : start ≤ k) (hc : cs[k]? = some c) (hprev : 0 < k → prev = cs[k - 1]?) :
    (isUpper c && !(lowered cs (start, k)).isEmpty && prev.any (breaksAfter · cs[k + 1]?)) = true ↔
      start < k ∧ CutAt cs k := by
  have hlt : k < cs.length := (List.getElem?_eq_some_iff.mp hc).1
  have hempty := lowered_eq_nil_iff hle (Nat.le_of_lt hlt)
  by_cases hbegun : start < k
  · have hprevious : cs[k - 1]? = some cs[k - 1] := List.getElem?_eq_getElem (by omega)
    have hne : lowered cs (start, k) ≠ [] := mt hempty.mp (Nat.ne_of_lt hbegun)
    rw [hprev (by omega), hprevious,
      cutAt_iff hc (by omega) hprevious (hstretch.solid (k - 1) (by omega) (by omega))]
    simp [hbegun, hne]
  · rw [hempty.mpr (by omega)]
    simp [hbegun]

/-- The scan reads the pieces of what is left, behind the stretch that it has read. -/
theorem spellPieces_wordsFrom {prev : Option Char} {rest : List Char} (hrest : cs.drop k = rest)
    (hk : k ≤ cs.length) (hle : start ≤ k) (hstretch : IsStretch cs start k)
    (hprev : 0 < k → prev = cs[k - 1]?) :
    SpellPieces cs start (wordsFrom (lowered cs (start, k)) prev rest) := by
  induction rest generalizing k start prev with
  | nil =>
      obtain rfl : k = cs.length := Nat.le_antisymm hk (List.drop_eq_nil_iff.mp hrest)
      exact spellPieces_end.close hle (Nat.le_refl _) hstretch (.inl rfl) fun _ _ _ ha => ha
  | cons c rest ih =>
      have hc : cs[k]? = some c := by
        rw [← Nat.add_zero k, ← List.getElem?_drop, hrest]
        rfl
      have hlt : k < cs.length := (List.getElem?_eq_some_iff.mp hc).1
      have hdrop : cs.drop (k + 1) = rest := by
        rw [← List.tail_drop, hrest, List.tail_cons]
      have hnext : rest.head? = cs[k + 1]? := by rw [← hdrop, List.head?_drop]
      have hbehind : 0 < k + 1 → some c = cs[k + 1 - 1]? := fun _ => hc.symm
      unfold wordsFrom
      by_cases hseparator : isWordSeparator c = true
      · -- the word ends here, and the next one begins behind the separator at the earliest
        rw [if_pos hseparator]
        have hat : SeparatorAt cs k := ⟨c, hc, hseparator⟩
        have hlater := ih hdrop hlt (Nat.le_refl _) (isStretch_self (.inr (.inl hat))) hbehind
        rw [(lowered_eq_nil_iff (Nat.le_refl _) hlt).mpr rfl] at hlater
        exact hlater.close hle (Nat.le_succ k) hstretch (.inr (.inl hat))
          fun _ _ hpiece => hpiece.lt_of_separatorAt hat
      · rw [if_neg hseparator, hnext]
        have hsolid : ¬ SeparatorAt cs k := by
          rintro ⟨d, hd, hword⟩
          obtain rfl := Option.some.inj (hc.symm.trans hd)
          exact hseparator hword
        have hasks := asks_for_cut_iff hstretch hle hc hprev
        by_cases hcuts : start < k ∧ CutAt cs k
        · -- the character is the first one of the next word
          rw [if_pos (hasks.mpr hcuts)]
          have hlater := ih hdrop hlt (Nat.le_succ k)
            (isStretch_self (.inr (.inr hcuts.2)) |>.succ hsolid (by omega)) hbehind
          rw [lowered_succ (Nat.le_refl k) hc, (lowered_eq_nil_iff (Nat.le_refl k) hk).mpr rfl,
            List.nil_append] at hlater
          exact hlater.cons ⟨hstretch, hcuts.1, .inr (.inr hcuts.2)⟩ (Nat.le_refl k)
            fun _ _ _ ha => ha
        · rw [if_neg (mt hasks.mp hcuts), ← lowered_succ hle hc]
          exact ih hdrop hlt (Nat.le_succ_of_le hle)
            (hstretch.succ hsolid fun hlt hat => hcuts ⟨hlt, hat⟩) hbehind

/-- The scan drops the separators and keeps everything else in its place. -/
theorem flatten_wordsFrom (current : List Char) (prev : Option Char) (cs : List Char) :
    (wordsFrom current prev cs).flatten =
      current ++ (cs.filter fun c => !isWordSeparator c).flatMap lowerChar := by
  induction cs generalizing current prev with
  | nil =>
      unfold wordsFrom
      split
      · next hempty => simp [List.isEmpty_iff.mp hempty]
      · simp
  | cons c cs ih =>
      unfold wordsFrom
      split
      · next hseparator =>
        rw [List.filter_cons_of_neg (by simpa using hseparator)]
        split
        · next hempty => rw [ih, List.isEmpty_iff.mp hempty]
        · rw [List.flatten_cons, ih, List.nil_append]
      · next hseparator =>
        rw [List.filter_cons_of_pos (by simpa using hseparator), List.flatMap_cons]
        split
        · rw [List.flatten_cons, ih]
        · rw [ih, List.append_assoc]

theorem IsPiece.lowered_ne_nil {stop : Nat} (h : IsPiece cs start stop) :
    lowered cs (start, stop) ≠ [] := fun hnil =>
  Nat.ne_of_lt h.nonempty
    ((lowered_eq_nil_iff (Nat.le_of_lt h.nonempty) h.le_length).mp hnil)

theorem IsPiece.not_isWordSeparator {stop : Nat} (h : IsPiece cs start stop) {x : Char}
    (hx : x ∈ lowered cs (start, stop)) : isWordSeparator x = false := by
  obtain ⟨c, hc, hx⟩ := List.mem_flatMap.mp hx
  obtain ⟨i, hstart, hstop, hi⟩ := mem_slice hc
  refine not_isWordSeparator_of_mem_lowerChar (Bool.eq_false_iff.mpr fun hseparator => ?_) hx
  exact h.solid i hstart hstop ⟨c, hi, hseparator⟩

end

/-- The words of an identifier are its pieces in lower case, each once and in their
order. So no word is empty or holds a separator, and the words one after the other are
the identifier in lower case without its separators. -/
theorem splitWords_spell_pieces (identifier : String) :
    (∃ spans : List (Nat × Nat), spans.Pairwise (fun s t => s.2 ≤ t.1) ∧
      (∀ start stop, (start, stop) ∈ spans ↔ IsPiece identifier.toList start stop) ∧
      splitWords identifier =
        spans.map fun span => String.ofList (lowered identifier.toList span)) ∧
    (∀ word ∈ splitWords identifier,
      word.toList ≠ [] ∧ ∀ c ∈ word.toList, isWordSeparator c = false) ∧
    (splitWords identifier).flatMap String.toList =
      (identifier.toList.filter fun c => !isWordSeparator c).flatMap lowerChar := by
  have hspell : SpellPieces identifier.toList 0 (wordsFrom [] none identifier.toList) := by
    have h : SpellPieces identifier.toList 0
        (wordsFrom (lowered identifier.toList (0, 0)) none identifier.toList) :=
      spellPieces_wordsFrom List.drop_zero (Nat.zero_le _) (Nat.le_refl 0)
        (isStretch_self (.inl rfl)) (fun h => absurd h (Nat.lt_irrefl 0))
    rwa [(lowered_eq_nil_iff (Nat.le_refl 0) (Nat.zero_le _)).mpr rfl] at h
  obtain ⟨spans, hordered, hmem, hwords⟩ := hspell
  refine ⟨⟨spans, hordered, fun start stop => ?_, ?_⟩, fun word hword => ?_, ?_⟩
  · rw [hmem]
    exact and_iff_right (Nat.zero_le start)
  · rw [splitWords, hwords, List.map_map]
    rfl
  · obtain ⟨letters, hletters, rfl⟩ := List.mem_map.mp hword
    rw [hwords] at hletters
    obtain ⟨⟨start, stop⟩, hspan, rfl⟩ := List.mem_map.mp hletters
    have hpiece := ((hmem start stop).mp hspan).2
    rw [String.toList_ofList]
    exact ⟨hpiece.lowered_ne_nil, fun c => hpiece.not_isWordSeparator⟩
  · rw [splitWords, List.flatMap_map]
    simpa [List.flatMap_id] using flatten_wordsFrom [] none identifier.toList

end Scaffold
