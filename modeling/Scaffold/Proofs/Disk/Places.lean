import Scaffold.Disk
import Scaffold.Proofs.Path.Components
import Scaffold.Proofs.Traversal

/-!
# Places of paths

Without links a path leads to one place whatever the disk holds: its names lead
down and its steps up lead back. `placeOf` is that place; resolving a path can
fail, but it never leads anywhere else.
-/

namespace Scaffold.Disk

open Scaffold.Path

/-! ## Following components -/

/-- Where components lead, every directory on the way taken to exist. -/
def follow (at_ : Location) : List Component → Location
  | [] => at_
  | .root :: cs => follow [] cs
  | .here :: cs => follow at_ cs
  | .parent :: cs => follow at_.dropLast cs
  | .name text :: cs => follow (at_ ++ [text]) cs

theorem follow_append (at_ : Location) (cs more : List Component) :
    follow at_ (cs ++ more) = follow (follow at_ cs) more := by
  induction cs generalizing at_ with
  | nil => rfl
  | cons c cs ih => cases c <;> exact ih _

theorem follow_names (at_ : Location) (names : List String) :
    follow at_ (names.map .name) = at_ ++ names := by
  induction names generalizing at_ with
  | nil => simp [follow]
  | cons name names ih =>
      rw [List.map_cons, follow, ih, List.append_assoc, List.singleton_append]

/-- The place of a path, whether or not anything lies there. -/
def placeOf (d : Disk) (p : Path) : Location := follow d.workingDirectory p.components

theorem placeOf_congr {d e : Disk} (h : e.workingDirectory = d.workingDirectory) (p : Path) :
    e.placeOf p = d.placeOf p := by
  unfold placeOf
  rw [h]

theorem follow_start (d : Disk) (p : Path) :
    follow (d.start p).1 ((d.start p).2.filterMap componentOf) = d.placeOf p := by
  unfold placeOf start
  rw [components_eq]
  by_cases habs : p.isAbsolute = true
  · obtain ⟨segment, rest, h⟩ := (isAbsolute_iff p).mp habs
    simp [habs, h, componentsOf, leadOf, componentOf, follow]
  · have hlead : leadOf p.segments = [] ∨ leadOf p.segments = [.here] := by
      unfold leadOf
      split
      · next segment rest h => exact absurd ((isAbsolute_iff p).mpr ⟨segment, rest, h⟩) habs
      · exact Or.inr rfl
      · exact Or.inl rfl
    rw [if_neg habs, componentsOf, follow_append]
    rcases hlead with h | h
    · rw [h]
      rfl
    · rw [h]
      rfl

/-! ## Resolving -/

/-- A step succeeds from directories only and leads where its component does. -/
theorem step_eq_ok {d : Disk} {at_ next : Location} {segment : String}
    (h : d.step at_ segment = .ok next) :
    d.find? at_ = some .directory ∧ next = follow at_ (componentOf segment).toList := by
  unfold step at h
  split at h
  · exact absurd h (by simp)
  · exact absurd h (by simp)
  · next hdir =>
    refine ⟨hdir, ?_⟩
    unfold componentOf
    split at h
    · next hc =>
      rw [if_pos hc]
      exact (Except.ok.inj h).symm
    · next hc =>
      rw [if_neg hc]
      split at h
      · next hup =>
        rw [if_pos hup]
        exact (Except.ok.inj h).symm
      · next hup =>
        rw [if_neg hup]
        split at h
        · exact absurd h (by simp)
        · exact (Except.ok.inj h).symm

theorem walk_cons_eq_ok {d : Disk} {at_ l : Location} {segment : String} {rest : List String} :
    d.walk at_ (segment :: rest) = .ok l ↔
      ∃ next, d.step at_ segment = .ok next ∧ d.walk next rest = .ok l := by
  rw [walk]
  cases d.step at_ segment with
  | ok next => simp
  | error fault => simp

theorem filterMap_componentOf_cons (segment : String) (rest : List String) :
    (segment :: rest).filterMap componentOf =
      (componentOf segment).toList ++ rest.filterMap componentOf := by
  rw [List.filterMap_cons]
  cases componentOf segment <;> rfl

theorem walk_eq_ok {d : Disk} {at_ l : Location} {segments : List String}
    (h : d.walk at_ segments = .ok l) : l = follow at_ (segments.filterMap componentOf) := by
  induction segments generalizing at_ with
  | nil => exact (Except.ok.inj h).symm
  | cons segment rest ih =>
      obtain ⟨next, hstep, hrest⟩ := walk_cons_eq_ok.mp h
      rw [filterMap_componentOf_cons, follow_append, ← (step_eq_ok hstep).2]
      exact ih hrest

/-- Every location on the way to a path is a directory. -/
theorem directory_of_walk {d : Disk} {at_ l : Location} {segments : List String}
    (h : d.walk at_ segments = .ok l) {before after : List String} {segment : String}
    (hsplit : segments = before ++ segment :: after) :
    d.find? (follow at_ (before.filterMap componentOf)) = some .directory := by
  induction before generalizing at_ segments with
  | nil =>
      subst hsplit
      obtain ⟨next, hstep, -⟩ := walk_cons_eq_ok.mp h
      exact (step_eq_ok hstep).1
  | cons first before ih =>
      subst hsplit
      obtain ⟨next, hstep, hrest⟩ := walk_cons_eq_ok.mp h
      rw [filterMap_componentOf_cons, follow_append, ← (step_eq_ok hstep).2]
      exact ih hrest rfl

/-- A walk that one disk allows is possible on every disk with the same
directories on the way. -/
theorem walk_transfer {d e : Disk} {at_ l : Location} {segments : List String}
    (h : d.walk at_ segments = .ok l)
    (hdirs : ∀ before segment after, segments = before ++ segment :: after →
      e.find? (follow at_ (before.filterMap componentOf)) = some .directory) :
    e.walk at_ segments = .ok l := by
  induction segments generalizing at_ with
  | nil => exact h
  | cons segment rest ih =>
      obtain ⟨next, hstep, hrest⟩ := walk_cons_eq_ok.mp h
      have hd := (step_eq_ok hstep).1
      have he : e.find? at_ = some .directory := hdirs [] segment rest rfl
      refine walk_cons_eq_ok.mpr ⟨next, ?_, ih hrest ?_⟩
      · unfold step at hstep ⊢
        rw [hd] at hstep
        rw [he]
        exact hstep
      · intro before other after hsplit
        have hnext := hdirs (segment :: before) other after (by rw [hsplit]; rfl)
        rw [filterMap_componentOf_cons, follow_append, ← (step_eq_ok hstep).2] at hnext
        exact hnext

theorem resolve_eq_ok_iff {d : Disk} {p : Path} {l : Location} :
    d.resolve p = .ok l ↔ refusal? p = none ∧ d.walk (d.start p).1 (d.start p).2 = .ok l := by
  unfold resolve
  cases refusal? p with
  | none => simp
  | some fault => simp

theorem resolve_eq_ok {d : Disk} {p : Path} {l : Location} (h : d.resolve p = .ok l) :
    l = d.placeOf p := by
  rw [walk_eq_ok (resolve_eq_ok_iff.mp h).2, follow_start]

theorem look_eq_ok_iff {d : Disk} {p : Path} {l : Location} {entry : Entry} :
    d.look p = .ok (l, entry) ↔ d.resolve p = .ok l ∧ d.find? l = some entry := by
  unfold look
  cases d.resolve p with
  | error fault => simp
  | ok m =>
      simp only [Except.ok.injEq]
      constructor
      · intro h
        cases hm : d.find? m with
        | none => simp [hm] at h
        | some found =>
            obtain ⟨rfl, rfl⟩ : m = l ∧ found = entry := by simpa [hm] using h
            exact ⟨rfl, hm⟩
      · rintro ⟨rfl, h⟩
        simp [h]

/-! ## Well-formed disks -/

/-- What every disk satisfies that comes from a file system. -/
structure WellFormed (d : Disk) : Prop where
  /-- Whatever exists lies in a directory. -/
  parent : ∀ l name entry, d.find? (l ++ [name]) = some entry → d.find? l = some .directory
  workingDirectory : d.find? d.workingDirectory = some .directory

/-- Whatever something lies below is a directory. -/
theorem WellFormed.directory_above {d : Disk} (hd : d.WellFormed) {l more : Location} {name : String}
    {entry : Entry} (h : d.find? (l ++ name :: more) = some entry) :
    d.find? l = some .directory := by
  induction more generalizing l name with
  | nil => exact hd.parent l name entry h
  | cons next more ih =>
      rw [List.append_cons] at h
      exact hd.parent l name _ (ih h)

/-- A disk is well-formed if each of its entries is checked to lie in a directory. -/
theorem wellFormed_of_entries {d : Disk}
    (h : d.entries.all (fun e => d.isDirectoryAt e.1.dropLast) = true)
    (hwd : d.isDirectoryAt d.workingDirectory = true) : d.WellFormed := by
  refine ⟨fun l name entry hfind => ?_, by simpa [isDirectoryAt] using hwd⟩
  have hlookup : d.entries.lookup (l ++ [name]) = some entry := by
    unfold find? at hfind
    rwa [if_neg (by simp)] at hfind
  have hentry := List.all_eq_true.mp h _ (mem_of_lookup hlookup)
  rw [List.dropLast_concat] at hentry
  simpa [isDirectoryAt] using hentry

/-- A path is settled when every step up in it leaves a directory that exists. -/
def Settled (d : Disk) (p : Path) : Prop :=
  ∀ before after, p.components = before ++ .parent :: after →
    d.find? (follow d.workingDirectory before) = some .directory

theorem settled_of_no_parent {d : Disk} {p : Path} (h : Component.parent ∉ p.components) :
    d.Settled p := by
  intro before after hsplit
  rw [hsplit] at h
  exact absurd (List.mem_append_right before List.mem_cons_self) h

/-- The steps up can be checked one by one. -/
theorem settled_iff_take {d : Disk} {p : Path} :
    (∀ n < p.components.length, p.components[n]? = some .parent →
      d.find? (follow d.workingDirectory (p.components.take n)) = some .directory) ↔
      d.Settled p := by
  constructor
  · intro h before after hsplit
    have hlength : before.length < p.components.length := by
      rw [hsplit]
      simp
    have hup := h before.length hlength (by simp [hsplit])
    rwa [hsplit, List.take_left' rfl] at hup
  · intro h n _ hn
    obtain ⟨hlength, hup⟩ := List.getElem?_eq_some_iff.mp hn
    refine h _ (p.components.drop (n + 1)) ?_
    rw [← hup, List.getElem_cons_drop, List.take_append_drop]

instance (d : Disk) (p : Path) : Decidable (d.Settled p) := decidable_of_iff _ settled_iff_take

end Scaffold.Disk
