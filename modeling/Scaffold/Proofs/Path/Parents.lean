import Scaffold.Proofs.Path.Components

/-!
# Parents as texts

The parent of a path is a shorter text that the path starts with. It is trimmed:
no slash and no dot that says nothing stands at its end, so its last segment is
its last component.
-/

namespace Scaffold.Path

open Text

theorem trimTail_suffix (cs : List Char) : trimTail cs <:+ cs := by
  fun_induction trimTail cs with
  | case1 cs h =>
      obtain rfl : cs = [] := by simpa using h
      exact List.suffix_rfl
  | case2 cs h ih => exact ih.trans (List.suffix_cons _ _)
  | case3 => exact List.suffix_cons _ _
  | case4 cs h ih => exact ih.trans ((List.suffix_cons _ _).trans (List.suffix_cons _ _))
  | case5 cs h1 h2 h3 => exact List.suffix_rfl

theorem trimTail_trimTail (cs : List Char) : trimTail (trimTail cs) = trimTail cs := by
  rcases trimTail_stops cs with h | ⟨hslash, hdot⟩
  · rw [h]
    rfl
  · generalize trimTail cs = body at hslash hdot
    fun_cases trimTail body with
    | case1 cs h => exact absurd rfl (hslash cs)
    | case2 cs h => exact absurd rfl (hslash cs)
    | case3 => exact absurd rfl (hdot [])
    | case4 cs h => exact absurd rfl (hdot cs)
    | case5 => rfl

/-- A path without a slash or a blank dot at its end, unless it is the root. -/
def Trimmed (p : Path) : Prop := trimTail p.text.toList.reverse = p.text.toList.reverse

instance (p : Path) : Decidable p.Trimmed := inferInstanceAs (Decidable (_ = _))

section Parent

variable {p up : Path}

/-- The parent is what stands in front of a slash, trimmed, or the empty path. -/
theorem reverse_of_parent? (h : p.parent? = some up) :
    ∃ rest, rest <:+ p.text.toList.reverse ∧ rest.length < p.text.length ∧
      up.text.toList.reverse = trimTail rest := by
  have hsuffix := trimTail_suffix p.text.toList.reverse
  have hstops := trimTail_stops p.text.toList.reverse
  unfold parent? at h
  generalize trimTail p.text.toList.reverse = body at hsuffix hstops h
  simp only [Bool.or_eq_true, decide_eq_true_eq] at h
  split at h
  · exact absurd h nofun
  · next hbody =>
    rw [not_or] at hbody
    obtain ⟨hslash, -⟩ := hstops.resolve_left hbody.2
    have hup : up.text.toList.reverse = trimTail (body.dropWhile (· != '/')) := by
      split at h
      · next hdrop =>
        rw [hdrop, ← Option.some.inj h]
        rfl
      · next rest hdrop =>
        rw [← Option.some.inj h]
        simp
    refine ⟨body.dropWhile (· != '/'), (List.dropWhile_suffix _).trans hsuffix, ?_, hup⟩
    have hlength := hsuffix.length_le
    rw [List.length_reverse, String.length_toList] at hlength
    cases body with
    | nil => exact absurd rfl hbody.1
    | cons c rest =>
        have hc : c ≠ '/' := fun hc => hslash rest (hc ▸ rfl)
        have hrest := (List.dropWhile_suffix (· != '/') (l := rest)).length_le
        rw [List.dropWhile_cons_of_pos (by simpa using hc)]
        rw [List.length_cons] at hlength
        omega

theorem trimmed_of_parent? (h : p.parent? = some up) : up.Trimmed := by
  obtain ⟨rest, -, -, hrest⟩ := reverse_of_parent? h
  rw [Trimmed, hrest, trimTail_trimTail]

theorem prefix_of_parent? (h : p.parent? = some up) : up.text.toList <+: p.text.toList := by
  obtain ⟨rest, hsuffix, -, hrest⟩ := reverse_of_parent? h
  rw [← List.reverse_suffix, hrest]
  exact (trimTail_suffix rest).trans hsuffix

theorem length_of_parent? (h : p.parent? = some up) : up.text.length < p.text.length := by
  obtain ⟨rest, -, hlength, hrest⟩ := reverse_of_parent? h
  have hle := (trimTail_suffix rest).length_le
  rw [← hrest, List.length_reverse, String.length_toList] at hle
  omega

/-- Only the empty path and the root have no parent. -/
theorem parent?_eq_none (hp : p.Trimmed) (h : p.parent? = none) : p.text = "" ∨ p.text = "/" := by
  unfold parent? at h
  rw [hp] at h
  simp only [Bool.or_eq_true, decide_eq_true_eq] at h
  split at h
  · next hbody =>
    rcases hbody with hnil | hroot
    · rw [List.reverse_eq_nil_iff] at hnil
      exact Or.inl (String.toList_inj.mp hnil)
    · rw [List.reverse_eq_iff] at hroot
      exact Or.inr (String.toList_inj.mp hroot)
  · split at h <;> exact absurd h nofun

/-! ## Last segments -/

/-- The last segment of a trimmed path is a component, unless it is all there is. -/
theorem last_of_trimmed (hp : p.Trimmed) {front : List String} {last : String}
    (hroot : p.text ≠ "/") (hfront : front ≠ []) (h : p.segments = front ++ [last]) :
    ∃ c, componentOf last = some c := by
  have hstops := trimTail_stops p.text.toList.reverse
  rw [hp] at hstops
  rw [← segmentsOfReversed_reverse] at h
  have hone : p.text.toList.reverse ≠ ['/'] := by
    intro he
    rw [List.reverse_eq_iff] at he
    exact hroot (String.toList_inj.mp he)
  obtain ⟨hslash, hdot⟩ := hstops.resolve_left hone
  generalize p.text.toList.reverse = body at h hslash hdot
  have hsplit := List.takeWhile_append_dropWhile (p := (· != '/')) (l := body)
  have hends : '/' ∉ body.takeWhile (· != '/') := fun hm => by
    simpa using List.all_eq_true.mp List.all_takeWhile _ hm
  generalize body.takeWhile (· != '/') = ends at hsplit hends
  -- read from its end, the path has a last segment up to the first slash
  cases hdrop : body.dropWhile (· != '/') with
  | nil =>
      -- without a slash it would be the only segment
      rw [hdrop, List.append_nil] at hsplit
      rw [← hsplit, segmentsOfReversed_of_not_mem hends] at h
      have hlength := congrArg List.length h
      have hpos := List.length_pos_iff.mpr hfront
      simp only [List.length_append, List.length_singleton] at hlength
      omega
  | cons slash init =>
      have hhead := List.head?_dropWhile_not (· != '/') body
      rw [hdrop] at hhead hsplit
      obtain rfl : slash = '/' := by simpa using hhead
      rw [← hsplit, segmentsOfReversed_append ends init hends] at h
      obtain ⟨-, hlast⟩ := List.append_inj' h rfl
      rw [← List.singleton_inj.mp hlast]
      refine componentOf_isSome ?_ ?_
      · rw [ne_eq, String.ofList_eq_empty_iff, List.reverse_eq_nil_iff]
        rintro rfl
        exact hslash init hsplit.symm
      · intro he
        have hlist := congrArg (List.reverse ∘ String.toList) he
        have hends : ends = ['.'] := by simpa using hlist
        exact hdot init (by rw [← hsplit, hends]; rfl)

/-- A path is trimmed if its last segment is a component. -/
theorem trimmed_of_last {front : List String} {last : String} {c : Component}
    (h : p.segments = front ++ [last]) (hc : componentOf last = some c) : p.Trimmed := by
  -- what could be trimmed at the end makes a last segment that is no component
  have hblank : ∀ cs, (p.text.toList.reverse = '/' :: cs → last = "") ∧
      (p.text.toList.reverse = '.' :: '/' :: cs → last = ".") := by
    intro cs
    rw [← segmentsOfReversed_reverse] at h
    constructor
    · intro hcs
      have happend := segmentsOfReversed_append [] cs (by simp)
      rw [hcs, ← List.nil_append ('/' :: cs), happend] at h
      exact (List.singleton_inj.mp (List.append_inj' h rfl).2).symm
    · intro hcs
      have happend := segmentsOfReversed_append ['.'] cs (by decide)
      rw [hcs, show '.' :: '/' :: cs = ['.'] ++ '/' :: cs from rfl, happend] at h
      exact (List.singleton_inj.mp (List.append_inj' h rfl).2).symm
  unfold Trimmed
  generalize p.text.toList.reverse = body at hblank
  fun_cases trimTail body with
  | case1 cs h =>
      rw [(hblank cs).1 rfl] at hc
      exact absurd hc nofun
  | case2 cs h =>
      rw [(hblank cs).1 rfl] at hc
      exact absurd hc nofun
  | case3 =>
      rw [(hblank []).2 rfl] at hc
      exact absurd hc nofun
  | case4 cs h =>
      rw [(hblank cs).2 rfl] at hc
      exact absurd hc nofun
  | case5 => rfl

end Parent

/-- A joined path starts with the text of the path it lies below. -/
theorem text_join_of_relative (p : Path) {q : Path} (hq : q.isAbsolute = false) :
    p.text.toList <+: (p.join q).text.toList := by
  unfold join
  rw [hq, if_neg Bool.false_ne_true]
  split
  · rw [String.toList_append]
    exact List.prefix_append _ _
  · rw [String.toList_append, String.toList_append, List.append_assoc]
    exact List.prefix_append _ _

/-- Segments leave nothing to trim. -/
theorem trimmed_join_segment (dir : Path) {names : List String} (hne : names ≠ [])
    (h : ∀ name ∈ names, IsSegment name) :
    (dir.join ⟨String.intercalate "/" names⟩).Trimmed := by
  obtain ⟨hsegments, -⟩ := components_intercalate hne h
  have hrelative := isAbsolute_intercalate hne h
  have hlast : names = names.dropLast ++ [names.getLast hne] :=
    (List.dropLast_concat_getLast hne).symm
  have hc := componentOf_segment (h _ (List.getLast_mem hne))
  by_cases hempty : dir.text = ""
  · have hjoin : dir.join ⟨String.intercalate "/" names⟩ = ⟨String.intercalate "/" names⟩ := by
      unfold join
      rw [hrelative, hempty]
      simp
    rw [hjoin]
    exact trimmed_of_last (hsegments.trans hlast) hc
  · obtain ⟨front, hfront, -⟩ := segments_join hrelative hempty
    have hsplit : front ++ (⟨String.intercalate "/" names⟩ : Path).segments =
        (front ++ names.dropLast) ++ [names.getLast hne] := by
      rw [List.append_assoc, ← hlast, hsegments]
    exact trimmed_of_last (hfront.trans hsplit) hc

end Scaffold.Path
