import Scaffold.Proofs.Text.Splitting
import Scaffold.Proofs.Text.Trimming

/-!
# Last segments of paths

The last segment of a path stands behind its last slash, slashes at the end of the path
aside. A path has one such segment. Where the segment has no blanks around it, the path keeps
it when blanks are trimmed; where it has some, it takes part in the trimming.
-/

namespace Scaffold.Text

/-- The name that a path ends in, with nothing but slashes behind it. -/
def IsLastSegment (path name : String) : Prop :=
  ∃ front slashes : List Char, path.toList = front ++ (name.toList ++ slashes) ∧
    (∀ c ∈ front.getLast?, c = '/') ∧ '/' ∉ name.toList ∧ (∀ c ∈ slashes, c = '/') ∧
    (name = "" → front = [])

/-- The characters between the last two places where slashes stand. -/
def lastSegmentChars (cs : List Char) : List Char :=
  ((cs.reverse.dropWhile (· == '/')).takeWhile (· != '/')).reverse

section

variable {path name : String}

theorem takeWhile_slash {cs rest : List Char} (hcs : '/' ∉ cs) (hrest : ∀ c ∈ rest.head?, c = '/') :
    (cs ++ rest).takeWhile (· != '/') = cs := by
  have hall : ∀ c ∈ cs, (c != '/') = true := fun c hc => by
    have hne : c ≠ '/' := fun he => hcs (he ▸ hc)
    simpa using hne
  rw [List.takeWhile_append_of_pos hall]
  cases rest with
  | nil => simp
  | cons c rest =>
      obtain rfl := hrest c (by simp)
      simp

/-- A last segment is what stands there. -/
theorem IsLastSegment.toList_eq (h : IsLastSegment path name) :
    name.toList = lastSegmentChars path.toList := by
  obtain ⟨front, slashes, hpath, hfront, hname, hslashes, hempty⟩ := h
  have hdrop : ∀ c ∈ slashes.reverse, (c == '/') = true := fun c hc => by
    simpa using hslashes c (List.mem_reverse.mp hc)
  have hhead : ∀ c ∈ front.reverse.head?, c = '/' := by
    rwa [List.head?_reverse]
  unfold lastSegmentChars
  rw [hpath, List.reverse_append, List.reverse_append, List.append_assoc,
    List.dropWhile_append_of_pos hdrop]
  by_cases hnone : name = ""
  · rw [hempty hnone, hnone]
    rfl
  · -- seen from the end, the name stops the slashes and the front stops the name
    have hstop : ∀ c, (name.toList.reverse ++ front.reverse).head? = some c → (c == '/') = false := by
      obtain ⟨last, init, hlast⟩ := List.exists_cons_of_ne_nil fun he : name.toList.reverse = [] =>
        hnone (String.toList_eq_nil_iff.mp (List.reverse_eq_nil_iff.mp he))
      intro c hc
      rw [hlast] at hc
      obtain rfl : last = c := Option.some.inj hc
      have hne : last ≠ '/' := fun he =>
        hname (List.mem_reverse.mp (hlast ▸ he ▸ List.mem_cons_self))
      simpa using hne
    rw [dropWhile_of_head hstop, takeWhile_slash (mt List.mem_reverse.mp hname) hhead,
      List.reverse_reverse]

theorem IsLastSegment.unique {other : String} (h : IsLastSegment path name)
    (hother : IsLastSegment path other) : name = other :=
  String.toList_inj.mp (h.toList_eq.trans hother.toList_eq.symm)

/-! ## The last piece -/

/-- What stands in front of the last of some joined pieces ends in the separator. -/
theorem exists_front_of_intercalate (sep : Char) (before : List String) (last : String) :
    ∃ front : List Char,
      (String.intercalate (String.singleton sep) (before ++ [last])).toList = front ++ last.toList ∧
        ∀ c ∈ front.getLast?, c = sep := by
  induction before with
  | nil => exact ⟨[], by simp, nofun⟩
  | cons piece before ih =>
      obtain ⟨front, hfront, hlast⟩ := ih
      refine ⟨piece.toList ++ sep :: front, ?_, ?_⟩
      · rw [List.cons_append, String.intercalate_cons_of_ne_nil (by simp), String.toList_append,
          hfront]
        simp
      · intro c hc
        rw [List.getLast?_append, List.getLast?_cons] at hc
        cases hend : front.getLast? with
        | none => simpa [hend, eq_comm] using hc
        | some d => exact hlast c (by simpa [hend] using hc)

/-- The last piece behind slashes, with none at the end of the path, is its last segment. -/
theorem isLastSegment_getLast (path : String) : IsLastSegment path
    (((splitOn '/' (trimEndWhere (· == '/') path)).getLast?).getD "") := by
  obtain ⟨slashes, hpath, hslashes⟩ := exists_end_of_trimEndWhere (· == '/') path
  have hend : ∀ c, (trimEndWhere (· == '/') path).toList.getLast? = some c → (c == '/') = false :=
    fun _ => getLast?_trimEndWhere _ path
  have hall : ∀ c ∈ slashes, c = '/' := fun c hc => by simpa using hslashes c hc
  generalize trimEndWhere (· == '/') path = stem at hpath hend
  by_cases hempty : stem = ""
  · subst hempty
    exact ⟨[], slashes, hpath, nofun, by decide, hall, fun _ => rfl⟩
  · have hlast : stem.toList.getLast? ≠ some '/' := fun h => absurd (hend _ h) (by decide)
    obtain ⟨before, last, hsplit, hne⟩ := splitOn_last hempty hlast
    obtain ⟨front, hfront, hseam⟩ := exists_front_of_intercalate '/' before last
    rw [← hsplit, intercalate_splitOn] at hfront
    have hmem : last ∈ splitOn '/' stem := by
      rw [hsplit]
      exact List.mem_concat_self
    have hname : '/' ∉ last.toList := not_mem_of_mem_splitOn hmem
    rw [hsplit, List.getLast?_concat, Option.getD_some]
    exact ⟨front, slashes, by rw [hpath, hfront, List.append_assoc], hseam, hname, hall,
      fun he => absurd he hne⟩

/-! ## Trimming -/

/-- A path keeps a last segment that has no blanks around it. -/
theorem IsLastSegment.trim (h : IsLastSegment path name) (hname : trim name = name) :
    IsLastSegment (trim path) name := by
  obtain ⟨front, slashes, hpath, hfront, hsolid, hslashes, hempty⟩ := h
  have hslash : isBlank '/' = false := by decide
  have hends : trimWhere isBlank name = name := hname
  have hhead : ∀ c, (name.toList ++ slashes).head? = some c → isBlank c = false := by
    intro c hc
    rw [List.head?_append] at hc
    rcases Option.or_eq_some_iff.mp hc with hc | ⟨-, hc⟩
    · exact head?_trimWhere isBlank name (by rwa [hends])
    · rwa [hslashes c (List.mem_of_head? hc)]
  have hlast : ∀ c, (name.toList ++ slashes).getLast? = some c → isBlank c = false := by
    intro c hc
    rw [List.getLast?_append] at hc
    rcases Option.or_eq_some_iff.mp hc with hc | ⟨-, hc⟩
    · rwa [hslashes c (List.mem_of_getLast? hc)]
    · exact getLast?_trimWhere isBlank name (by rwa [hends])
  have hseam : ∀ c, front.getLast? = some c → isBlank c = false := fun c hc => by
    rwa [hfront c hc]
  refine ⟨front.dropWhile isBlank, slashes, ?_, fun c hc => ?_, hsolid, hslashes, fun he => ?_⟩
  · rw [toList_trim, hpath, trimChars_append hseam hhead hlast]
  · exact hfront c (getLast?_of_dropWhile hc)
  · rw [hempty he]
    rfl

end

end Scaffold.Text
