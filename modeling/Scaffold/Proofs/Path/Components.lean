import Scaffold.Path
import Scaffold.Proofs.Text.Splitting

/-!
# Components of paths

The components of a path are a function of its segments: the first segment says
whether the path starts at the root or with a dot, every other one is a name,
a step up or nothing. So the components of a joined path are those of its parts
and the parent of a path lacks exactly the last component.
-/

namespace Scaffold.Path

open Text

/-! ## From segments to components -/

/-- The component that the start of a path adds to those of its segments. -/
def leadOf : List String → List Component
  | "" :: _ :: _ => [.root]
  | "." :: _ => [.here]
  | _ => []

def componentsOf (segments : List String) : List Component :=
  leadOf segments ++ segments.filterMap componentOf

theorem segments_ne_nil (p : Path) : p.segments ≠ [] := splitOn_ne_nil _ _

theorem text_eq_empty_iff (p : Path) : p.text = "" ↔ p.segments = [""] := by
  constructor
  · intro h
    unfold segments
    rw [h]
    rfl
  · intro h
    have hj := congrArg (fun pieces => ['/'].intercalate (pieces.map String.toList)) h
    simp only [segments, splitOn, List.map_map] at hj
    rw [show (String.toList ∘ String.ofList) = id from funext fun cs => String.toList_ofList,
      List.map_id, intercalate_splitCharsWhere] at hj
    exact String.toList_inj.mp hj

/-- A path is absolute when its first segment is empty and not its only one. -/
theorem isAbsolute_iff (p : Path) :
    p.isAbsolute = true ↔ ∃ segment rest, p.segments = "" :: segment :: rest := by
  unfold isAbsolute segments
  rw [startsWith_iff]
  constructor
  · rintro ⟨rest, h⟩
    obtain ⟨first, more, hr⟩ :=
      List.exists_cons_of_ne_nil (splitCharsWhere_ne_nil (· == '/') rest)
    refine ⟨String.ofList first, more.map String.ofList, ?_⟩
    have hs : p.text.toList = [] ++ '/' :: rest := h.symm
    have hsplit := splitCharsWhere_append (· == '/') '/' (by rfl) [] rest
    rw [splitOn, hs, hsplit, hr]
    rfl
  · rintro ⟨segment, rest, h⟩
    cases hcs : p.text.toList with
    | nil => simp [splitOn, hcs, splitCharsWhere] at h
    | cons c cs =>
        by_cases hc : c = '/'
        · subst hc
          exact ⟨cs, rfl⟩
        · obtain ⟨first, more, hr⟩ :=
            List.exists_cons_of_ne_nil (splitCharsWhere_ne_nil (· == '/') cs)
          simp [splitOn, hcs, splitCharsWhere, hr, hc, String.ofList_eq_empty_iff] at h

theorem components_eq (p : Path) : p.components = componentsOf p.segments := by
  unfold components componentsOf
  by_cases habs : p.isAbsolute = true
  · obtain ⟨segment, rest, h⟩ := (isAbsolute_iff p).mp habs
    simp [habs, h, leadOf]
  · simp only [habs, Bool.false_eq_true, if_false]
    by_cases hdot : p.segments.head? = some "."
    · obtain ⟨rest, h⟩ := List.head?_eq_some_iff.mp hdot
      simp [h, leadOf]
    · have hlead : leadOf p.segments = [] := by
        unfold leadOf
        split
        · next segment rest h => exact absurd ((isAbsolute_iff p).mpr ⟨segment, rest, h⟩) habs
        · next rest h => exact absurd (by rw [h]; rfl) hdot
        · rfl
      rw [hlead]
      simp [hdot]

theorem components_of_empty {p : Path} (h : p.text = "") : p.components = [] := by
  rw [components_eq, (text_eq_empty_iff p).mp h]
  rfl

theorem componentOf_eq_some {segment : String} {c : Component} (h : componentOf segment = some c) :
    c = .parent ∨ c = .name segment := by
  unfold componentOf at h
  split at h
  · exact absurd h (by simp)
  · split at h
    · exact Or.inl (Option.some.inj h).symm
    · exact Or.inr (Option.some.inj h).symm

/-- Segments without a step up are names. -/
theorem names_of_no_parent {segments : List String}
    (h : Component.parent ∉ segments.filterMap componentOf) :
    ∃ names : List String, segments.filterMap componentOf = names.map .name := by
  induction segments with
  | nil => exact ⟨[], rfl⟩
  | cons segment segments ih =>
      cases hc : componentOf segment with
      | none =>
          rw [List.filterMap_cons_none hc] at h ⊢
          exact ih h
      | some c =>
          rw [List.filterMap_cons_some hc] at h ⊢
          obtain ⟨names, hnames⟩ := ih (List.not_mem_of_not_mem_cons h)
          rcases componentOf_eq_some hc with rfl | rfl
          · exact absurd List.mem_cons_self h
          · exact ⟨segment :: names, by rw [hnames, List.map_cons]⟩

/-- Only the first component can be a root or a dot. -/
theorem eq_nil_of_components {p : Path} {before rest : List Component} {c : Component}
    (h : p.components = before ++ c :: rest) (hc : c = .root ∨ c = .here) : before = [] := by
  have hinner : c ∉ p.segments.filterMap componentOf := by
    intro hmem
    obtain ⟨segment, -, hsegment⟩ := List.mem_filterMap.mp hmem
    rcases componentOf_eq_some hsegment with rfl | rfl
    · exact absurd hc (by simp)
    · exact absurd hc (by simp)
  have hlength : (leadOf p.segments).length ≤ 1 := by
    unfold leadOf
    split <;> simp
  rw [components_eq, componentsOf] at h
  rcases List.append_eq_append_iff.mp h with ⟨more, -, hmore⟩ | ⟨more, hlead, hmore⟩
  · rw [hmore] at hinner
    exact absurd (List.mem_append_right more List.mem_cons_self) hinner
  · cases more with
    | nil =>
        rw [List.nil_append] at hmore
        exact absurd (hmore ▸ List.mem_cons_self) hinner
    | cons first more =>
        rw [hlead, List.length_append, List.length_cons] at hlength
        exact List.eq_nil_of_length_eq_zero (by omega)

/-- What follows a path with a slash does not change how it starts. -/
theorem leadOf_append {segments : List String} (hne : segments ≠ []) (hempty : segments ≠ [""])
    (more : List String) : leadOf (segments ++ more) = leadOf segments := by
  match segments with
  | [] => exact absurd rfl hne
  | [first] =>
      have hfirst : first ≠ "" := fun h => hempty (by rw [h])
      by_cases hdot : first = "."
      · subst hdot
        rfl
      · unfold leadOf
        split <;> simp_all
  | first :: second :: rest =>
      unfold leadOf
      split <;> simp_all

/-- How a path starts does not depend on its last segment, if it has others. -/
theorem leadOf_last {segments : List String} (hne : segments ≠ []) (last other : String) :
    leadOf (segments ++ [last]) = leadOf (segments ++ [other]) := by
  by_cases hempty : segments = [""]
  · subst hempty
    rfl
  · rw [leadOf_append hne hempty, leadOf_append hne hempty]

/-- Trailing segments without a component do not count. -/
theorem componentsOf_append_blank {segments : List String} (hne : segments ≠ [])
    (hempty : segments ≠ [""]) {blank : String} (hblank : componentOf blank = none) :
    componentsOf (segments ++ [blank]) = componentsOf segments := by
  unfold componentsOf
  rw [leadOf_append hne hempty, List.filterMap_append]
  simp [hblank]

/-! ## Joined paths -/

/-- A path that has to be looked at from some directory. -/
theorem segments_join {p q : Path} (hq : q.isAbsolute = false) (hp : p.text ≠ "") :
    ∃ front, (p.join q).segments = front ++ q.segments ∧ front ≠ [] ∧
      (front ≠ [""] → p.components = componentsOf front) ∧
      (front = [""] → p.components = [.root]) := by
  unfold join
  simp only [hq, Bool.false_eq_true, if_false, hp, decide_false, Bool.false_or]
  by_cases hend : endsWith "/" p.text = true
  · -- the text of `p` brings the slash along
    obtain ⟨before, hbefore⟩ := endsWith_iff.mp hend
    have hsegments : p.segments = splitOn '/' before ++ [""] := by
      have happend := splitOn_append '/' before ""
      rw [String.append_empty] at happend
      unfold segments
      rw [hbefore]
      exact happend
    refine ⟨splitOn '/' before, ?_, splitOn_ne_nil _ _, ?_, ?_⟩
    · rw [if_pos hend]
      unfold segments
      rw [hbefore]
      exact splitOn_append '/' before q.text
    · intro hne
      rw [components_eq, hsegments]
      exact componentsOf_append_blank (splitOn_ne_nil _ _) hne rfl
    · intro he
      rw [components_eq, hsegments, he]
      rfl
  · refine ⟨p.segments, ?_, p.segments_ne_nil, fun _ => components_eq p, ?_⟩
    · rw [if_neg hend]
      exact splitOn_append '/' p.text q.text
    · intro he
      exact absurd ((text_eq_empty_iff p).mpr he) hp

/-- The components of a joined path are those of its parts, the dot at the start
of the second part aside. -/
theorem components_join {p q : Path} (hq : q.isAbsolute = false)
    (hlead : p.text = "" → leadOf q.segments = []) :
    (p.join q).components = p.components ++ q.segments.filterMap componentOf := by
  by_cases hp : p.text = ""
  · have hjoin : p.join q = q := by
      unfold join
      simp [hq, hp]
    rw [hjoin, components_of_empty hp, components_eq q, componentsOf, hlead hp]
  · obtain ⟨front, hsegments, hne, hfront, hroot⟩ := segments_join hq hp
    rw [components_eq, hsegments, componentsOf, List.filterMap_append]
    by_cases he : front = [""]
    · obtain ⟨first, rest, hr⟩ := List.exists_cons_of_ne_nil q.segments_ne_nil
      rw [hroot he, he, hr]
      rfl
    · rw [hfront he, leadOf_append hne he, componentsOf, List.append_assoc]

/-! ## Parents -/

/-- The segments of a text that is kept with its last character first. -/
def segmentsOfReversed (cs : List Char) : List String := splitOn '/' (String.ofList cs.reverse)

theorem segmentsOfReversed_of_not_mem {last : List Char} (h : '/' ∉ last) :
    segmentsOfReversed last = [String.ofList last.reverse] := by
  unfold segmentsOfReversed
  exact splitOn_of_not_mem (by simpa using h)

theorem segmentsOfReversed_append (last init : List Char) (h : '/' ∉ last) :
    segmentsOfReversed (last ++ '/' :: init) =
      segmentsOfReversed init ++ [String.ofList last.reverse] := by
  have htext : String.ofList (last ++ '/' :: init).reverse =
      String.ofList init.reverse ++ String.singleton '/' ++ String.ofList last.reverse :=
    String.toList_inj.mp (by simp)
  rw [← segmentsOfReversed_of_not_mem h]
  unfold segmentsOfReversed
  rw [htext, splitOn_append]

theorem segmentsOfReversed_ne_nil (cs : List Char) : segmentsOfReversed cs ≠ [] :=
  splitOn_ne_nil _ _

theorem segmentsOfReversed_ne_empty {cs : List Char} (h : cs ≠ []) :
    segmentsOfReversed cs ≠ [""] := by
  intro he
  have htext := (text_eq_empty_iff ⟨String.ofList cs.reverse⟩).mpr he
  rw [String.ofList_eq_empty_iff, List.reverse_eq_nil_iff] at htext
  exact h htext

/-- A slash at the end does not count. -/
theorem componentsOf_slash {cs : List Char} (h : cs ≠ []) :
    componentsOf (segmentsOfReversed ('/' :: cs)) = componentsOf (segmentsOfReversed cs) := by
  have hsplit := segmentsOfReversed_append [] cs (by simp)
  rw [List.nil_append] at hsplit
  rw [hsplit]
  exact componentsOf_append_blank (segmentsOfReversed_ne_nil cs)
    (segmentsOfReversed_ne_empty h) rfl

theorem componentsOf_dropSlashes {cs : List Char} (h : cs.dropWhile (· == '/') ≠ []) :
    componentsOf (segmentsOfReversed (cs.dropWhile (· == '/'))) =
      componentsOf (segmentsOfReversed cs) := by
  induction cs with
  | nil => exact absurd rfl h
  | cons c cs ih =>
      by_cases hc : c = '/'
      · subst hc
        have hdrop : ('/' :: cs).dropWhile (· == '/') = cs.dropWhile (· == '/') := by simp
        rw [hdrop] at h ⊢
        have hcs : cs ≠ [] := by
          rintro rfl
          exact h rfl
        rw [ih h, componentsOf_slash hcs]
      · rw [List.dropWhile_cons_of_neg (by simpa using hc)]

theorem componentsOf_trimTail (cs : List Char) :
    componentsOf (segmentsOfReversed (trimTail cs)) = componentsOf (segmentsOfReversed cs) := by
  fun_induction trimTail cs with
  | case1 cs h =>
      have hcs : cs = [] := by simpa using h
      subst hcs
      rfl
  | case2 cs h ih =>
      rw [ih, componentsOf_slash (by simpa using h)]
  | case3 => rfl
  | case4 cs h ih =>
      have hcs : cs ≠ [] := by simpa using h
      have hsplit := segmentsOfReversed_append ['.'] cs (by decide)
      rw [ih, show '.' :: '/' :: cs = ['.'] ++ '/' :: cs from rfl, hsplit]
      exact (componentsOf_append_blank (segmentsOfReversed_ne_nil cs)
        (segmentsOfReversed_ne_empty hcs) rfl).symm
  | case5 cs h1 h2 h3 => rfl

/-- Where trimming stops, the text ends in a component. -/
theorem trimTail_stops (cs : List Char) :
    trimTail cs = ['/'] ∨
      (∀ rest, trimTail cs ≠ '/' :: rest) ∧ ∀ rest, trimTail cs ≠ '.' :: '/' :: rest := by
  fun_induction trimTail cs with
  | case1 => exact Or.inl rfl
  | case2 cs h ih => exact ih
  | case3 => exact Or.inl rfl
  | case4 cs h ih => exact ih
  | case5 cs h1 h2 h3 =>
      refine Or.inr ⟨fun rest e => h1 rest e, fun rest e => ?_⟩
      exact h3 rest e

theorem segmentsOfReversed_reverse (p : Path) :
    segmentsOfReversed p.text.toList.reverse = p.segments := by
  simp [segmentsOfReversed, segments]

/-- A segment that is neither empty nor a dot has one component. -/
theorem componentOf_isSome {segment : String} (hempty : segment ≠ "") (hdot : segment ≠ ".") :
    ∃ c, componentOf segment = some c := by
  unfold componentOf
  by_cases hup : segment = ".."
  · exact ⟨.parent, by simp [hup]⟩
  · exact ⟨.name segment, by simp [hempty, hdot, hup]⟩

/-- A path of one segment is one component. -/
theorem componentsOf_singleton {last : String} (hempty : last ≠ "") :
    ∃ c, componentsOf [last] = [c] := by
  by_cases hdot : last = "."
  · exact ⟨.here, by rw [hdot]; rfl⟩
  · obtain ⟨c, hc⟩ := componentOf_isSome hempty hdot
    refine ⟨c, ?_⟩
    have hlead : leadOf [last] = [] := by
      unfold leadOf
      split <;> simp_all
    rw [componentsOf, hlead, List.filterMap_cons, hc]
    rfl

/-- A last segment behind a slash is one component more. -/
theorem componentsOf_append_last {segments : List String} (hne : segments ≠ []) {last : String}
    (hempty : last ≠ "") (hdot : last ≠ ".") :
    ∃ c, componentsOf (segments ++ [last]) = componentsOf (segments ++ [""]) ++ [c] := by
  obtain ⟨c, hc⟩ := componentOf_isSome hempty hdot
  refine ⟨c, ?_⟩
  rw [componentsOf, componentsOf, leadOf_last hne last "", List.filterMap_append,
    List.filterMap_append, List.filterMap_cons, hc]
  simp [componentOf]

/-- The parent lacks exactly the last component. -/
theorem components_of_parent? {p up : Path} (h : p.parent? = some up) :
    ∃ c, p.components = up.components ++ [c] := by
  have hp : componentsOf (segmentsOfReversed (trimTail p.text.toList.reverse)) =
      p.components := by
    rw [componentsOf_trimTail, segmentsOfReversed_reverse, components_eq]
  have hstops := trimTail_stops p.text.toList.reverse
  unfold parent? at h
  generalize trimTail p.text.toList.reverse = body at hp hstops h
  simp only [Bool.or_eq_true, decide_eq_true_eq] at h
  split at h
  · exact absurd h (by simp)
  · next hbody =>
    rw [not_or] at hbody
    obtain ⟨hslash, hdotSlash⟩ := hstops.resolve_left hbody.2
    have hsplit := List.takeWhile_append_dropWhile (p := (· != '/')) (l := body)
    have hlast : '/' ∉ body.takeWhile (· != '/') := fun hm => by
      simpa using List.all_eq_true.mp List.all_takeWhile _ hm
    generalize body.takeWhile (· != '/') = last at hsplit hlast
    cases hdrop : body.dropWhile (· != '/') with
    | nil =>
        -- the whole of the path is one segment
        rw [hdrop] at h hsplit
        obtain rfl : (⟨""⟩ : Path) = up := Option.some.inj h
        rw [List.append_nil] at hsplit
        subst hsplit
        rw [← hp, segmentsOfReversed_of_not_mem hlast]
        exact componentsOf_singleton (by simpa [String.ofList_eq_empty_iff] using hbody.1)
    | cons slash init =>
        have hhead := List.head?_dropWhile_not (· != '/') body
        rw [hdrop] at h hhead hsplit
        obtain rfl : slash = '/' := by simpa using hhead
        obtain rfl := Option.some.inj h
        have hne : String.ofList last.reverse ≠ "" := by
          rw [ne_eq, String.ofList_eq_empty_iff, List.reverse_eq_nil_iff]
          rintro rfl
          exact hslash init hsplit.symm
        have hdot : String.ofList last.reverse ≠ "." := by
          intro he
          have hlist := congrArg (List.reverse ∘ String.toList) he
          have hone : last = ['.'] := by simpa using hlist
          exact hdotSlash init (by rw [← hsplit, hone]; rfl)
        have hup : (⟨String.ofList (trimTail ('/' :: init)).reverse⟩ : Path).components =
            componentsOf (segmentsOfReversed init ++ [""]) := by
          have hseams := segmentsOfReversed_append [] init (by simp)
          rw [components_eq]
          exact (componentsOf_trimTail ('/' :: init)).trans (congrArg componentsOf hseams)
        rw [hup, ← hp, ← hsplit, segmentsOfReversed_append last init hlast]
        exact componentsOf_append_last (segmentsOfReversed_ne_nil init) hne hdot

/-! ## Single names -/

/-- A text that is one component of a path and leads down. -/
def IsSegment (name : String) : Prop :=
  name ≠ "" ∧ name ≠ "." ∧ name ≠ ".." ∧ '/' ∉ name.toList

instance (name : String) : Decidable (IsSegment name) :=
  inferInstanceAs (Decidable (_ ∧ _))

/-- What a file or a folder below a directory can be called: a text that leads
neither upwards nor elsewhere nor further down. -/
def IsOrdinary (name : String) : Prop :=
  name ≠ "" ∧ name ≠ "." ∧ name ≠ ".." ∧ '/' ∉ name.toList ∧ '\\' ∉ name.toList

instance (name : String) : Decidable (IsOrdinary name) :=
  inferInstanceAs (Decidable (_ ∧ _))

theorem IsOrdinary.isSegment {name : String} (h : IsOrdinary name) : IsSegment name :=
  ⟨h.1, h.2.1, h.2.2.1, h.2.2.2.1⟩

theorem componentOf_segment {name : String} (h : IsSegment name) :
    componentOf name = some (.name name) := by
  obtain ⟨hempty, hdot, hup, -⟩ := h
  simp [componentOf, hempty, hdot, hup]

theorem filterMap_segment {names : List String} (h : ∀ name ∈ names, IsSegment name) :
    names.filterMap componentOf = names.map .name := by
  induction names with
  | nil => rfl
  | cons name names ih =>
      rw [List.filterMap_cons, componentOf_segment (h name List.mem_cons_self)]
      simp [ih fun n hn => h n (List.mem_cons_of_mem _ hn)]

theorem leadOf_segment {names : List String} (h : ∀ name ∈ names, IsSegment name) :
    leadOf names = [] := by
  unfold leadOf
  split
  · exact absurd rfl (h "" List.mem_cons_self).1
  · exact absurd rfl (h "." List.mem_cons_self).2.1
  · rfl

/-- The path of segments, one below the other. -/
theorem components_intercalate {names : List String} (hne : names ≠ [])
    (h : ∀ name ∈ names, IsSegment name) :
    (⟨String.intercalate "/" names⟩ : Path).segments = names ∧
      (⟨String.intercalate "/" names⟩ : Path).components = names.map .name := by
  have hsegments : (⟨String.intercalate "/" names⟩ : Path).segments = names :=
    splitOn_intercalate hne fun name hn => (h name hn).2.2.2
  refine ⟨hsegments, ?_⟩
  rw [components_eq, hsegments, componentsOf, leadOf_segment h, filterMap_segment h]
  rfl

theorem isAbsolute_intercalate {names : List String} (hne : names ≠ [])
    (h : ∀ name ∈ names, IsSegment name) :
    (⟨String.intercalate "/" names⟩ : Path).isAbsolute = false := by
  rw [Bool.eq_false_iff]
  intro habs
  obtain ⟨segment, rest, hs⟩ := (isAbsolute_iff _).mp habs
  rw [(components_intercalate hne h).1] at hs
  exact (h "" (by rw [hs]; exact List.mem_cons_self)).1 rfl

/-- Segments lead straight down from whatever they are joined to. -/
theorem components_join_segment (dir : Path) {names : List String} (hne : names ≠ [])
    (h : ∀ name ∈ names, IsSegment name) :
    (dir.join ⟨String.intercalate "/" names⟩).components =
      dir.components ++ names.map .name := by
  obtain ⟨hsegments, -⟩ := components_intercalate hne h
  rw [components_join (isAbsolute_intercalate hne h) fun _ => by
    rw [hsegments]; exact leadOf_segment h, hsegments, filterMap_segment h]

end Scaffold.Path
