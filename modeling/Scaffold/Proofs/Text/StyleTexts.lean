import Scaffold.Proofs.Text.Words

/-!
# Texts of styles

The text of a style writes `go` and `zero` in one of three cases each, with anything in
front, between and behind. Reading one takes the first place where the letters of a marker
stand, in whatever case, for the marker. So it refuses a text that has the letters in some
other case first, or those of `zero` before those of `go`, and reads every other one.
-/

namespace Scaffold

open Text

/-! ## Letters in whatever case -/

/-- The letters of a marker, given in capitals. -/
def SpellsMarker (marker m : List Char) : Prop := m.map Char.toUpper = marker

/-- The letters of a marker stand somewhere in a text. -/
def HoldsMarker (marker cs : List Char) : Prop := marker <:+: cs.map Char.toUpper

/-- The first place of a marker in a text, with what stands in front and behind. -/
structure FirstAt (marker cs before m after : List Char) : Prop where
  eq_append : cs = before ++ (m ++ after)
  spells : SpellsMarker marker m
  first : ¬ HoldsMarker marker before

section

variable {marker cs before m after : List Char}

theorem holds_append (h : SpellsMarker marker m) : HoldsMarker marker (before ++ (m ++ after)) := by
  refine ⟨before.map Char.toUpper, after.map Char.toUpper, ?_⟩
  rw [List.map_append, List.map_append, show m.map Char.toUpper = marker from h,
    List.append_assoc]

theorem SpellsMarker.length_eq (h : SpellsMarker marker m) : m.length = marker.length := by
  rw [← show m.map Char.toUpper = marker from h, List.length_map]

/-- Where a marker is found, it stands for the first time. -/
theorem firstAt_of_markerIndex? {n : Nat} (hne : marker ≠ [])
    (h : markerIndex? marker cs = some n) :
    ∃ before m after, FirstAt marker cs before m after ∧ before.length = n := by
  induction cs generalizing n with
  | nil => exact absurd h nofun
  | cons c cs ih =>
      unfold markerIndex? at h
      split at h
      · next hhere =>
        obtain rfl := Option.some.inj h
        refine ⟨[], (c :: cs).take marker.length, (c :: cs).drop marker.length,
          ⟨?_, hhere, ?_⟩, rfl⟩
        · rw [List.nil_append, List.take_append_drop]
        · intro hholds
          exact hne (List.infix_nil.mp hholds)
      · next hhere =>
        obtain ⟨n', hn', rfl⟩ := Option.map_eq_some_iff.mp h
        obtain ⟨before, m, after, ⟨rfl, hspells, hfirst⟩, rfl⟩ := ih hn'
        refine ⟨c :: before, m, after, ⟨rfl, hspells, fun hholds => ?_⟩, rfl⟩
        rcases List.infix_cons_iff.mp hholds with hstart | hlater
        · -- a marker at the head of what stands in front would have been found there
          refine hhere ?_
          have hprefix : marker <+: (c :: (before ++ (m ++ after))).map Char.toUpper := by
            refine hstart.trans ?_
            rw [List.map_cons, List.map_append, ← List.cons_append]
            exact List.prefix_append _ _
          rw [List.map_take]
          exact (List.prefix_iff_eq_take.mp hprefix).symm
        · exact hfirst hlater

/-- A text of different letters does not begin anew before it has ended. -/
theorem take_append_ne_self {p rest : List Char} (hnodup : marker.Nodup) (hp : p ≠ [])
    (hshort : p.length < marker.length) :
    (p ++ (marker ++ rest)).take marker.length ≠ marker := by
  intro h
  obtain ⟨a, p, rfl⟩ := List.exists_cons_of_ne_nil hp
  obtain ⟨c, letters, rfl⟩ : ∃ c letters, marker = c :: letters :=
    List.exists_cons_of_length_pos (Nat.zero_lt_of_lt hshort)
  obtain ⟨k, hk⟩ := Nat.exists_eq_add_of_lt hshort
  have hlength : (c :: letters).length = (a :: p).length + (k + 1) := by omega
  rw [hlength, List.take_length_add_append, List.cons_append, List.cons_append,
    List.take_succ_cons] at h
  obtain ⟨rfl, hrest⟩ := List.cons.inj h
  have hmem : a ∈ letters := by
    rw [← hrest]
    exact List.mem_append_right _ List.mem_cons_self
  exact (List.nodup_cons.mp hnodup).1 hmem

/-- The letters of a marker all differ, so its first place is where it is found. -/
theorem FirstAt.markerIndex?_eq (h : FirstAt marker cs before m after) (hne : marker ≠ [])
    (hnodup : marker.Nodup) : markerIndex? marker cs = some before.length := by
  obtain ⟨rfl, hspells, hfirst⟩ := h
  induction before with
  | nil =>
      obtain ⟨c, m, rfl⟩ : ∃ c m', m = c :: m' := by
        refine List.exists_cons_of_ne_nil fun hm => hne ?_
        rw [← show m.map Char.toUpper = marker from hspells, hm]
        rfl
      have hhere : (((c :: m) ++ after).take marker.length).map Char.toUpper = marker := by
        rw [← hspells.length_eq, List.take_left' rfl]
        exact hspells
      rw [List.cons_append] at hhere
      rw [List.nil_append, List.cons_append, markerIndex?, if_pos hhere]
      rfl
  | cons b before ih =>
      have hlater : ¬ HoldsMarker marker before := fun hholds =>
        hfirst (List.infix_cons_iff.mpr (.inr hholds))
      have hnot : ((b :: (before ++ (m ++ after))).take marker.length).map Char.toUpper ≠
          marker := by
        rw [List.map_take, ← List.cons_append, List.map_append, List.map_append,
          show m.map Char.toUpper = marker from hspells]
        by_cases hshort : ((b :: before).map Char.toUpper).length < marker.length
        · exact take_append_ne_self hnodup (by simp) hshort
        · intro hhere
          rw [List.take_append_of_le_length (Nat.le_of_not_lt hshort)] at hhere
          exact hfirst (hhere ▸ (List.take_prefix _ _).isInfix)
      rw [List.cons_append, markerIndex?, if_neg hnot, ih hlater]
      rfl

theorem exists_markerIndex? (hne : marker ≠ []) (h : HoldsMarker marker cs) :
    ∃ n, markerIndex? marker cs = some n := by
  induction cs with
  | nil => exact absurd (List.infix_nil.mp h) hne
  | cons c cs ih =>
      unfold markerIndex?
      split
      · exact ⟨0, rfl⟩
      · next hhere =>
        rcases List.infix_cons_iff.mp h with hstart | hlater
        · rw [List.map_take] at hhere
          exact absurd (List.prefix_iff_eq_take.mp hstart).symm hhere
        · obtain ⟨n, hn⟩ := ih hlater
          exact ⟨n + 1, by rw [hn]; rfl⟩

/-- There is only one first place. -/
theorem FirstAt.unique {before' m' after' : List Char} (h : FirstAt marker cs before m after)
    (h' : FirstAt marker cs before' m' after') (hne : marker ≠ []) (hnodup : marker.Nodup) :
    before = before' ∧ m = m' := by
  have hlength : before.length = before'.length :=
    Option.some.inj ((h.markerIndex?_eq hne hnodup).symm.trans (h'.markerIndex?_eq hne hnodup))
  have heq := h.eq_append.symm.trans h'.eq_append
  obtain ⟨hbefore, hrest⟩ := List.append_inj heq hlength
  exact ⟨hbefore, (List.append_inj hrest
    (h.spells.length_eq.trans h'.spells.length_eq.symm)).1⟩

/-- What is met in a part of a text stands in it for the first time there as well. -/
theorem FirstAt.append (h : FirstAt marker cs before m after) (more : List Char) :
    FirstAt marker (cs ++ more) before m (after ++ more) := by
  refine ⟨?_, h.spells, h.first⟩
  rw [h.eq_append, List.append_assoc, List.append_assoc]

theorem exists_firstAt (hne : marker ≠ []) (h : HoldsMarker marker cs) :
    ∃ before m after, FirstAt marker cs before m after := by
  obtain ⟨n, hn⟩ := exists_markerIndex? hne h
  obtain ⟨before, m, after, hfirst, -⟩ := firstAt_of_markerIndex? hne hn
  exact ⟨before, m, after, hfirst⟩

end

/-! ## The two markers -/

def goLetters : List Char := ['G', 'O']

def zeroLetters : List Char := ['Z', 'E', 'R', 'O']

def goMarkers : List String := ["go", "Go", "GO"]

def zeroMarkers : List String := ["zero", "Zero", "ZERO"]

/-- The ways to write capitals in capitals and small letters. -/
def casings : List Char → List (List Char)
  | [] => [[]]
  | c :: cs => (casings cs).flatMap fun rest => [c :: rest, c.toLower :: rest]

theorem mem_casings {m : List Char} (h : ∀ c ∈ m, c.toNat < 0x80) :
    m ∈ casings (m.map Char.toUpper) := by
  induction m with
  | nil => exact List.mem_singleton_self _
  | cons c m ih =>
      obtain ⟨hc, hm⟩ := List.forall_mem_cons.mp h
      have hcase : c = c.toUpper ∨ c = c.toUpper.toLower :=
        forall_ascii (P := fun c => c = c.toUpper ∨ c = c.toUpper.toLower) (by decide) hc
      rw [List.map_cons, casings, List.mem_flatMap]
      refine ⟨m, ih hm, ?_⟩
      rcases hcase with hcase | hcase
      · rw [← hcase]
        exact List.mem_cons_self
      · rw [← hcase]
        exact List.mem_cons_of_mem _ (List.mem_singleton_self _)

/-- A marker shows the case that writes it. -/
theorem ofMarker?_go : ∀ m ∈ casings goLetters,
    (∀ letters, WordCase.ofMarker? m = some letters → String.ofList m = letters.apply "go") ∧
      ((WordCase.ofMarker? m).isSome = true ↔ String.ofList m ∈ goMarkers) := by
  decide

theorem ofMarker?_zero : ∀ m ∈ casings zeroLetters,
    (∀ letters, WordCase.ofMarker? m = some letters → String.ofList m = letters.apply "zero") ∧
      ((WordCase.ofMarker? m).isSome = true ↔ String.ofList m ∈ zeroMarkers) := by
  decide

/-! ## Texts of styles -/

namespace NamingStyle

/-- What no text of a style may hold anything else than. -/
def IsPlainText (source : String) : Prop :=
  isAscii source = true ∧ '/' ∉ source.toList ∧ '\\' ∉ source.toList

/-- A text with a `go` and behind it a `zero`, in the cases that count, and with anything
around them. -/
def IsStyleText (source : String) : Prop :=
  IsPlainText source ∧ ∃ lead go separator zero tail, go ∈ goMarkers ∧ zero ∈ zeroMarkers ∧
    source = lead ++ go ++ separator ++ zero ++ tail

/-- Where the letters of a marker stand first they are in a case that counts, and those of
`zero` stand behind those of `go`. -/
structure FirstMarkersCount (source : String) : Prop where
  go : ∀ lead m after, FirstAt goLetters source.toList lead m after → String.ofList m ∈ goMarkers
  zero : ∀ ahead m tail, FirstAt zeroLetters source.toList ahead m tail →
    String.ofList m ∈ zeroMarkers ∧ HoldsMarker goLetters ahead

/-- The parts of a style with its markers, in the cases that they show. -/
def spelled (style : NamingStyle) : String :=
  style.lead ++ style.first.apply "go" ++ style.separator ++ style.rest.apply "zero" ++ style.tail

variable {source : String} {lead go after ahead zero tail : List Char}

/-- The parts of a text around the first place of a marker. -/
theorem parts_of_firstAt {marker cs before m after : List Char}
    (h : FirstAt marker cs before m after) :
    cs.take before.length = before ∧ (cs.drop before.length).take marker.length = m ∧
      cs.drop (before.length + marker.length) = after := by
  rw [← h.spells.length_eq, h.eq_append]
  refine ⟨List.take_left' rfl, ?_, ?_⟩
  · rw [List.drop_left' rfl, List.take_left' rfl]
  · rw [← List.drop_drop, List.drop_left' rfl, List.drop_left' rfl]

/-- A plain text with the letters of both markers is read at their first places. -/
theorem parse?_of_firstAt (hplain : IsPlainText source)
    (hgo : FirstAt goLetters source.toList lead go after)
    (hzero : FirstAt zeroLetters source.toList ahead zero tail) :
    parse? source = if ahead.length < lead.length + 2 then none else
      (WordCase.ofMarker? go).bind fun first => (WordCase.ofMarker? zero).map fun rest =>
        ⟨source, String.ofList lead, first, String.ofList (ahead.drop (lead.length + 2)), rest,
          String.ofList tail⟩ := by
  obtain ⟨hascii, hslash, hbackslash⟩ := hplain
  have hgoAt : markerIndex? ['G', 'O'] source.toList = some lead.length :=
    hgo.markerIndex?_eq (by decide) (by decide)
  have hzeroAt : markerIndex? ['Z', 'E', 'R', 'O'] source.toList = some ahead.length :=
    hzero.markerIndex?_eq (by decide) (by decide)
  have hclean : (!isAscii source || source.toList.any fun c => c = '/' || c = '\\') = false := by
    rw [hascii, Bool.not_true, Bool.false_or, List.any_eq_false]
    rintro c hc hslashes
    rcases (by simpa using hslashes : c = '/' ∨ c = '\\') with rfl | rfl
    · exact hslash hc
    · exact hbackslash hc
  obtain ⟨hlead, hgoText, -⟩ := parts_of_firstAt hgo
  obtain ⟨-, hzeroText, htail⟩ := parts_of_firstAt hzero
  unfold parse?
  dsimp only
  rw [hclean, if_neg Bool.false_ne_true, hgoAt, hzeroAt]
  dsimp only
  by_cases horder : ahead.length < lead.length + 2
  · rw [if_pos horder, if_pos horder]
  · have hseparator : (source.toList.drop (lead.length + 2)).take
        (ahead.length - (lead.length + 2)) = ahead.drop (lead.length + 2) := by
      rw [hzero.eq_append, List.drop_append_of_le_length (Nat.le_of_not_lt horder),
        List.take_left' List.length_drop]
    rw [if_neg horder, if_neg horder]
    simp only [goLetters, zeroLetters, List.length_cons, List.length_nil, Nat.zero_add,
      Nat.reduceAdd] at hgoText hzeroText htail
    rw [hgoText, hzeroText, htail, hlead, hseparator]
    cases WordCase.ofMarker? go <;> cases WordCase.ofMarker? zero <;> rfl

theorem exists_firstAt_of_parse? {style : NamingStyle} (h : parse? source = some style) :
    IsPlainText source ∧ (∃ lead go after, FirstAt goLetters source.toList lead go after) ∧
      ∃ ahead zero tail, FirstAt zeroLetters source.toList ahead zero tail := by
  unfold parse? at h
  dsimp only at h
  split at h
  · exact absurd h nofun
  · next hclean =>
    simp only [Bool.or_eq_true, Bool.not_eq_true', List.any_eq_true, decide_eq_true_eq,
      not_or, not_exists, not_and, Bool.not_eq_false] at hclean
    split at h
    · next goAt zeroAt hgoAt hzeroAt =>
      obtain ⟨lead, go, after, hgo, -⟩ := firstAt_of_markerIndex? (by decide) hgoAt
      obtain ⟨ahead, zero, tail, hzero, -⟩ := firstAt_of_markerIndex? (by decide) hzeroAt
      exact ⟨⟨hclean.1, fun hc => (hclean.2 _ hc).1 rfl, fun hc => (hclean.2 _ hc).2 rfl⟩,
        ⟨lead, go, after, hgo⟩, ahead, zero, tail, hzero⟩
    · exact absurd h nofun

theorem mem_casings_of_firstAt {marker cs before m after : List Char}
    (hascii : ∀ c ∈ cs, c.toNat < 0x80) (h : FirstAt marker cs before m after) :
    m ∈ casings marker := by
  have hm : ∀ c ∈ m, c.toNat < 0x80 := by
    intro c hc
    refine hascii c ?_
    rw [h.eq_append]
    exact List.mem_append_right _ (List.mem_append_left _ hc)
  have hmem := mem_casings hm
  rwa [show m.map Char.toUpper = marker from h.spells] at hmem

/-- Letters of a marker in front of a place end before it. -/
theorem prefix_of_holds {marker cs before m after ahead rest : List Char}
    (h : FirstAt marker cs before m after) (hcs : cs = ahead ++ rest) (hne : marker ≠ [])
    (hnodup : marker.Nodup) (hholds : HoldsMarker marker ahead) :
    before ++ m <+: ahead := by
  obtain ⟨before', m', after', hfirst⟩ := exists_firstAt hne hholds
  obtain ⟨rfl, rfl⟩ := h.unique (hcs ▸ hfirst.append rest) hne hnodup
  rw [hfirst.eq_append, ← List.append_assoc]
  exact List.prefix_append _ _

/-- The parts of a text that is read, up to its markers. -/
theorem exists_parts_of_parse? {style : NamingStyle} (h : parse? source = some style) :
    IsPlainText source ∧ ∃ go zero,
      FirstAt goLetters source.toList style.lead.toList go
        (style.separator.toList ++ (zero ++ style.tail.toList)) ∧
      FirstAt zeroLetters source.toList (style.lead.toList ++ (go ++ style.separator.toList)) zero
        style.tail.toList ∧
      String.ofList go = style.first.apply "go" ∧ String.ofList zero = style.rest.apply "zero" ∧
      String.ofList go ∈ goMarkers ∧ String.ofList zero ∈ zeroMarkers ∧ style.source = source := by
  obtain ⟨hplain, ⟨lead, go, after, hgo⟩, ahead, zero, tail, hzero⟩ := exists_firstAt_of_parse? h
  have hascii : ∀ c ∈ source.toList, c.toNat < 0x80 := by
    simpa [isAscii] using hplain.1
  obtain ⟨hgoCase, hgoMarker⟩ := ofMarker?_go go (mem_casings_of_firstAt hascii hgo)
  obtain ⟨hzeroCase, hzeroMarker⟩ := ofMarker?_zero zero (mem_casings_of_firstAt hascii hzero)
  rw [parse?_of_firstAt hplain hgo hzero] at h
  split at h
  · exact absurd h nofun
  · next horder =>
    obtain ⟨first, hfirst, h⟩ := Option.bind_eq_some_iff.mp h
    obtain ⟨rest, hrest, rfl⟩ := Option.map_eq_some_iff.mp h
    -- the first marker ends before the second one begins, and the separator lies between
    have hlength : (lead ++ go).length ≤ ahead.length := by
      rw [List.length_append, hgo.spells.length_eq]
      exact Nat.le_of_not_lt horder
    have hfront : lead ++ go <+: source.toList := by
      rw [hgo.eq_append, ← List.append_assoc]
      exact List.prefix_append _ _
    have hahead : ahead <+: source.toList := by
      rw [hzero.eq_append]
      exact List.prefix_append _ _
    have hprefix : lead ++ go <+: ahead := List.prefix_of_prefix_length_le hfront hahead hlength
    obtain ⟨separator, rfl⟩ := hprefix
    have hseparator : (lead ++ go ++ separator).drop (lead.length + 2) = separator := by
      refine List.drop_left' ?_
      rw [List.length_append, hgo.spells.length_eq]
      rfl
    dsimp only
    rw [hseparator, String.toList_ofList, String.toList_ofList, String.toList_ofList]
    have hcs := hzero.eq_append
    refine ⟨hplain, go, zero, ⟨?_, hgo.spells, hgo.first⟩, ?_, hgoCase first hfirst,
      hzeroCase rest hrest, hgoMarker.mp ?_, hzeroMarker.mp ?_, rfl⟩
    · rw [hcs]
      simp only [List.append_assoc]
    · rw [← List.append_assoc]
      exact hzero
    · rw [hfirst]
      rfl
    · rw [hrest]
      rfl

theorem IsStyleText.holds (h : IsStyleText source) :
    HoldsMarker goLetters source.toList ∧ HoldsMarker zeroLetters source.toList := by
  obtain ⟨-, lead, go, separator, zero, tail, hgo, hzero, rfl⟩ := h
  have hspellsGo : ∀ m ∈ goMarkers, m.toList.map Char.toUpper = goLetters := by decide
  have hspellsZero : ∀ m ∈ zeroMarkers, m.toList.map Char.toUpper = zeroLetters := by decide
  constructor
  · have hholds : HoldsMarker goLetters (lead.toList ++ (go.toList ++ (separator.toList ++
        (zero.toList ++ tail.toList)))) := holds_append (hspellsGo go hgo)
    simpa using hholds
  · have hholds : HoldsMarker zeroLetters ((lead.toList ++ (go.toList ++ separator.toList)) ++
        (zero.toList ++ tail.toList)) := holds_append (hspellsZero zero hzero)
    simpa using hholds

/-- The texts that are read are those of the documented form whose first markers count, and
what is read has their parts, each marker in the case that it shows. -/
theorem style_texts_are_read (source : String) :
    ((parse? source).isSome = true ↔ IsStyleText source ∧ FirstMarkersCount source) ∧
      ∀ style, parse? source = some style → style.source = source ∧ style.spelled = source := by
  constructor
  · constructor
    · intro h
      obtain ⟨style, hstyle⟩ := Option.isSome_iff_exists.mp h
      obtain ⟨hplain, go, zero, hgo, hzero, -, -, hgoMarker, hzeroMarker, -⟩ :=
        exists_parts_of_parse? hstyle
      refine ⟨⟨hplain, style.lead, String.ofList go, style.separator, String.ofList zero,
        style.tail, hgoMarker, hzeroMarker, ?_⟩, ?_, ?_⟩
      · rw [← String.toList_inj, hgo.eq_append]
        simp
      · intro lead m after hfirst
        obtain ⟨-, rfl⟩ := hgo.unique hfirst (by decide) (by decide)
        exact hgoMarker
      · intro ahead m tail hfirst
        obtain ⟨rfl, rfl⟩ := hzero.unique hfirst (by decide) (by decide)
        exact ⟨hzeroMarker, holds_append hgo.spells⟩
    · rintro ⟨htext, hfirstGo, hfirstZero⟩
      obtain ⟨hholdsGo, hholdsZero⟩ := htext.holds
      obtain ⟨lead, go, after, hgo⟩ := exists_firstAt (by decide) hholdsGo
      obtain ⟨ahead, zero, tail, hzero⟩ := exists_firstAt (by decide) hholdsZero
      obtain ⟨hzeroMarker, hbefore⟩ := hfirstZero ahead zero tail hzero
      -- the letters of `go` in front of those of `zero` are the first ones
      have hlength : lead.length + 2 ≤ ahead.length := by
        have hprefix := prefix_of_holds hgo hzero.eq_append (by decide) (by decide) hbefore
        have hle := hprefix.length_le
        rwa [List.length_append, hgo.spells.length_eq] at hle
      have hascii : ∀ c ∈ source.toList, c.toNat < 0x80 := by
        simpa [isAscii] using htext.1.1
      obtain ⟨first, hfirst⟩ := Option.isSome_iff_exists.mp
        ((ofMarker?_go go (mem_casings_of_firstAt hascii hgo)).2.mpr
          (hfirstGo lead go after hgo))
      obtain ⟨rest, hrest⟩ := Option.isSome_iff_exists.mp
        ((ofMarker?_zero zero (mem_casings_of_firstAt hascii hzero)).2.mpr hzeroMarker)
      rw [parse?_of_firstAt htext.1 hgo hzero, if_neg (Nat.not_lt.mpr hlength), hfirst, hrest]
      rfl
  · intro style h
    obtain ⟨-, go, zero, hgo, -, hgoCase, hzeroCase, -, -, hsource⟩ := exists_parts_of_parse? h
    refine ⟨hsource, ?_⟩
    rw [← String.toList_inj, spelled, ← hgoCase, ← hzeroCase, hgo.eq_append]
    simp

theorem style_texts_are_read_framed :
    parse? "x_Go#ZEROgo" = some ⟨"x_Go#ZEROgo", "x_", .title, "#", .upper, "go"⟩ ∧
      spelled ⟨"x_Go#ZEROgo", "x_", .title, "#", .upper, "go"⟩ = "x_Go#ZEROgo" ∧
      IsStyleText "x_Go#ZEROgo" ∧ FirstMarkersCount "x_Go#ZEROgo" := by
  have hread : parse? "x_Go#ZEROgo" = some ⟨"x_Go#ZEROgo", "x_", .title, "#", .upper, "go"⟩ := by
    decide
  have hsome : (parse? "x_Go#ZEROgo").isSome = true := by
    rw [hread]
    rfl
  have hspelled := ((style_texts_are_read "x_Go#ZEROgo").2 _ hread).2
  exact ⟨hread, hspelled, (style_texts_are_read "x_Go#ZEROgo").1.mp hsome⟩

/-- Letters of a marker in front of it, as they may stand there, keep a text from being
read, whether they are those of the other marker or are in a case that does not count. -/
theorem style_texts_are_refused :
    (IsStyleText "zero_go_zero" ∧ parse? "zero_go_zero" = none) ∧
      (IsStyleText "gO_go_zero" ∧ parse? "gO_go_zero" = none) ∧
      (IsStyleText "go_zerO_zero" ∧ parse? "go_zerO_zero" = none) := by
  have hplain : ∀ source ∈ ["zero_go_zero", "gO_go_zero", "go_zerO_zero"],
      isAscii source = true ∧ '/' ∉ source.toList ∧ '\\' ∉ source.toList := by
    decide
  simp only [List.forall_mem_cons] at hplain
  obtain ⟨hother, hcase, hlater, -⟩ := hplain
  refine ⟨⟨⟨hother, "zero_", "go", "_", "zero", "", ?_⟩, ?_⟩,
    ⟨⟨hcase, "gO_", "go", "_", "zero", "", ?_⟩, ?_⟩,
    ⟨⟨hlater, "", "go", "_zerO_", "zero", "", ?_⟩, ?_⟩⟩ <;> decide

end NamingStyle

end Scaffold
