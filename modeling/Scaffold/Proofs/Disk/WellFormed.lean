import Scaffold.Proofs.Disk.Settled

/-!
# Disks stay well-formed

A path that resolves ends in a directory that exists or one name below such a
one. So whatever is made at a resolved place lies in a directory, and every way
of writing leaves a well-formed disk well-formed.
-/

namespace Scaffold

open Scaffold.Path

namespace Disk

variable {d e : Disk}

/-! ## Resolved places -/

/-- A location that is a directory or lies directly in one. -/
def Reached (d : Disk) (l : Location) : Prop :=
  d.find? l = some .directory ∨ ∃ m name, l = m ++ [name] ∧ d.find? m = some .directory

theorem reached_of_step (hd : d.WellFormed) {at_ next : Location} {segment : String}
    (h : d.step at_ segment = .ok next) : d.Reached next := by
  obtain ⟨hdir, rfl⟩ := step_eq_ok h
  cases hc : componentOf segment with
  | none => exact Or.inl hdir
  | some c =>
      rcases componentOf_eq_some hc with rfl | rfl
      · refine Or.inl ?_
        change d.find? at_.dropLast = _
        rcases List.eq_nil_or_concat at_ with rfl | ⟨m, name, rfl⟩
        · exact hdir
        · rw [List.concat_eq_append] at hdir ⊢
          rw [List.dropLast_concat]
          exact hd.parent m name _ hdir
      · exact Or.inr ⟨at_, segment, rfl, hdir⟩

theorem reached_of_walk (hd : d.WellFormed) {at_ l : Location} {segments : List String}
    (hstart : d.Reached at_) (h : d.walk at_ segments = .ok l) : d.Reached l := by
  induction segments generalizing at_ with
  | nil => exact Except.ok.inj h ▸ hstart
  | cons segment rest ih =>
      obtain ⟨next, hstep, hrest⟩ := walk_cons_eq_ok.mp h
      exact ih (reached_of_step hd hstep) hrest

theorem reached_of_resolve (hd : d.WellFormed) {p : Path} {l : Location}
    (h : d.resolve p = .ok l) : d.Reached l := by
  refine reached_of_walk hd (Or.inl ?_) (resolve_eq_ok_iff.mp h).2
  unfold start
  split
  · exact find?_nil d
  · exact hd.workingDirectory

/-! ## Entries that are set -/

/-- Setting an entry in a directory keeps a disk well-formed, unless it puts
something else in the place of a directory. -/
theorem WellFormed.set (hd : d.WellFormed) {l : Location} {entry : Entry} (hl : d.Reached l)
    (hdir : d.find? l ≠ some .directory) : (d.set l entry).WellFormed := by
  have hne : l ≠ [] := by
    rintro rfl
    exact hdir (find?_nil d)
  have hkeep : ∀ k, d.find? k = some .directory → (d.set l entry).find? k = some .directory := by
    intro k hk
    rw [find?_set d l k entry hne, if_neg ?_]
    · exact hk
    · rintro rfl
      exact hdir hk
  refine ⟨fun k name found hfound => hkeep k ?_, hkeep _ hd.workingDirectory⟩
  rw [find?_set d l _ entry hne] at hfound
  split at hfound
  · next heq =>
    obtain ⟨m, last, rfl, hm⟩ := hl.resolve_left hdir
    rwa [(List.append_inj' heq rfl).1]
  · exact hd.parent k name found hfound

theorem WellFormed.makeDirectory (hd : d.WellFormed) {p : Path} (h : d.makeDirectory p = .ok e) :
    e.WellFormed := by
  obtain ⟨hnone, rfl⟩ := makeDirectory_eq_ok h
  have hresolve : d.resolve (withoutTrailingSlashes p) = .ok (d.placeOf p) := by
    unfold Disk.makeDirectory at h
    split at h
    · exact absurd h (by simp)
    · next l hl =>
      rw [hl, resolve_eq_ok hl, placeOf, components_withoutTrailingSlashes]
      rfl
  exact hd.set (reached_of_resolve hd hresolve) (by simp [hnone])

theorem WellFormed.makeDirectoriesWithin (depth : Nat) (hd : d.WellFormed) (p : Path) :
    (makeDirectoriesWithin depth d p).2.WellFormed :=
  makeDirectoriesWithin_keeps Disk.WellFormed (fun _ => True) (fun _ _ => trivial)
    (fun _ hm hmade => hm.makeDirectory hmade) depth trivial hd

theorem WellFormed.writeBytes (hd : d.WellFormed) {p : Path} {content : ByteArray}
    (h : d.writeBytes p content = .ok e) : e.WellFormed := by
  obtain ⟨hresolve, hdir, rfl⟩ := writeBytes_eq_ok h
  exact hd.set (reached_of_resolve hd hresolve) hdir

/-! ## Entries that are removed -/

theorem lookup_filter_outside (l k : Location) (entries : List (Location × Entry)) :
    (entries.filter fun (k, _) => !l.isPrefixOf k).lookup k =
      if l <+: k then none else entries.lookup k := by
  induction entries with
  | nil => simp
  | cons head rest ih =>
      obtain ⟨m, entry⟩ := head
      by_cases hm : l <+: m
      · rw [List.filter_cons_of_neg (by simpa using hm), ih]
        by_cases hk : l <+: k
        · rw [if_pos hk, if_pos hk]
        · have hne : (k == m) = false := by
            rw [beq_eq_false_iff_ne]
            rintro rfl
            exact hk hm
          rw [if_neg hk, if_neg hk, List.lookup_cons, hne]
      · have hkeep : l.isPrefixOf m = false := by
          rw [Bool.eq_false_iff, ne_eq, List.isPrefixOf_iff_prefix]
          exact hm
        rw [List.filter_cons_of_pos (by simpa using hkeep), List.lookup_cons, List.lookup_cons, ih]
        by_cases hk : k = m
        · subst hk
          rw [beq_self_eq_true]
          exact (if_neg hm).symm
        · have hne : (k == m) = false := beq_eq_false_iff_ne.mpr hk
          rw [hne]

theorem find?_removeTree (d : Disk) {l : Location} (hl : l ≠ []) (k : Location) :
    (d.removeTree l).find? k = if l <+: k then none else d.find? k := by
  unfold find? removeTree
  by_cases hk : k = []
  · subst hk
    rw [if_pos rfl, if_pos rfl, if_neg fun h => hl (List.prefix_nil.mp h)]
  · rw [if_neg hk, if_neg hk]
    exact lookup_filter_outside l k d.entries

/-- Removing everything at and below a location keeps a disk well-formed, unless
the working directory goes with it. -/
theorem WellFormed.removeTree (hd : d.WellFormed) {l : Location} (hl : l ≠ [])
    (hwd : ¬ l <+: d.workingDirectory) : (d.removeTree l).WellFormed := by
  refine ⟨fun k name entry hfind => ?_, ?_⟩
  · rw [find?_removeTree d hl] at hfind ⊢
    split at hfind
    · exact absurd hfind nofun
    · next hk =>
      rw [if_neg fun h => hk (h.trans (List.prefix_append _ _))]
      exact hd.parent k name entry hfind
  · change (d.removeTree l).find? d.workingDirectory = _
    rw [find?_removeTree d hl, if_neg hwd]
    exact hd.workingDirectory

end Disk

namespace Action

theorem wellFormed_makeDirectories {d : Disk} (hd : d.WellFormed) (p : Path) :
    ((makeDirectories p).runOn d).2.WellFormed := by
  have h := hd.makeDirectoriesWithin (p.text.length + 1) p
  unfold runOn makeDirectories Disk.makeDirectories
  split
  · next he =>
    rw [he] at h
    exact h
  · next he =>
    rw [he] at h
    exact h

theorem wellFormed_writeBytes {d : Disk} (hd : d.WellFormed) (p : Path) (content : ByteArray) :
    ((writeBytes p content).runOn d).2.WellFormed := by
  unfold runOn writeBytes change
  split
  · next he => exact hd.writeBytes he
  · exact hd

/-- Writing a file keeps a disk well-formed, whether or not it succeeds. -/
theorem wellFormed_writeFile {d : Disk} (hd : d.WellFormed) (p : Path) (text : String) :
    ((writeFile p text).runOn d).2.WellFormed := by
  cases hup : p.parent? with
  | none =>
      rw [writeFile_of_none hup]
      exact wellFormed_writeBytes hd p _
  | some up =>
      rw [writeFile_of_some hup]
      exact bind_keeps (wellFormed_makeDirectories hd up) fun _ e he =>
        wellFormed_writeBytes he p _

end Action

end Scaffold
