import Scaffold.Generation.Generator
import Scaffold.Proofs.Path.Components

/-!
# Where targets lie

A target is accepted exactly through its names: the folders of its directory
and then its file. Each is an ordinary name, so the destination lies straight
below the output directory, and two destinations are the same path exactly when
their names are the same.
-/

namespace Scaffold

open Scaffold.Path Text

namespace Target

/-- The names that lead from the output directory to the file. -/
def names (t : Target) : List String := t.folders ++ [t.filename]

/-- Where the file lies, or why it cannot lie there. -/
def destination (t : Target) (dir : Path) : Except Error Path := t.relativePath.map dir.join

theorem names_ne_nil (t : Target) : t.names ≠ [] := by simp [names]

theorem mem_folders {t : Target} {name : String} (h : name ∈ t.folders) :
    name ≠ "" ∧ '/' ∉ name.toList := by
  obtain ⟨hmem, hne⟩ := List.mem_filter.mp h
  exact ⟨by simpa using hne, not_mem_of_mem_splitOn hmem⟩

theorem isOrdinary_of_confinedFolder {name : String} (hne : name ≠ "") (hslash : '/' ∉ name.toList)
    (h : isConfinedFolder name = true) : IsOrdinary name := by
  unfold isConfinedFolder at h
  simp only [Bool.and_eq_true, bne_iff_ne, Bool.not_eq_true', List.contains_eq_mem,
    decide_eq_false_iff_not] at h
  exact ⟨hne, h.1.2, h.1.1, hslash, h.2⟩

theorem isOrdinary_of_confinedFile {name : String} (h : isConfinedFile name = true) :
    IsOrdinary name := by
  unfold isConfinedFile at h
  simp only [Bool.and_eq_true, bne_iff_ne, Bool.not_eq_true', List.contains_eq_mem,
    decide_eq_false_iff_not] at h
  exact ⟨h.1.1.1.1, h.1.1.2, h.1.1.1.2, h.1.2, h.2⟩

theorem isOrdinary_names {t : Target} (hfolders : t.folders.all isConfinedFolder = true)
    (hfile : isConfinedFile t.filename = true) : ∀ name ∈ t.names, IsOrdinary name := by
  intro name hname
  rcases List.mem_append.mp hname with hfolder | hname
  · obtain ⟨hne, hslash⟩ := mem_folders hfolder
    exact isOrdinary_of_confinedFolder hne hslash (List.all_eq_true.mp hfolders name hfolder)
  · rw [List.mem_singleton.mp hname]
    exact isOrdinary_of_confinedFile hfile

/-- The path that ordinary names make consists of them again, so it gives no reason of its own
to refuse a target. -/
theorem relativePath_eq (t : Target) : t.relativePath =
    if t.folders.all isConfinedFolder then
      if isConfinedFile t.filename then .ok ⟨String.intercalate "/" t.names⟩
      else .error (t.escapes "file")
    else .error (t.escapes "directory") := by
  unfold relativePath
  split
  · next hfolders =>
    split
    · next hfile =>
      have hordinary := isOrdinary_names hfolders hfile
      have hcomponents :
          (⟨String.intercalate "/" t.names⟩ : Path).components.all (·.isName) = true := by
        have hsegment : ∀ name ∈ t.names, IsSegment name :=
          fun name hname => (hordinary name hname).isSegment
        rw [(components_intercalate t.names_ne_nil hsegment).2]
        simp [Component.isName]
      exact if_pos hcomponents
    · rfl
  · rfl

/-- An accepted path is the names joined, all of them ordinary. -/
theorem relativePath_eq_ok {t : Target} {p : Path} (h : t.relativePath = .ok p) :
    p = ⟨String.intercalate "/" t.names⟩ ∧ ∀ name ∈ t.names, IsOrdinary name := by
  rw [relativePath_eq] at h
  split at h
  · next hfolders =>
    split at h
    · next hfile => exact ⟨(Except.ok.inj h).symm, isOrdinary_names hfolders hfile⟩
    · exact absurd h (by simp)
  · exact absurd h (by simp)

/-- Ordinary names are accepted. -/
theorem relativePath_of_names {t : Target} (h : ∀ name ∈ t.names, IsOrdinary name) :
    t.relativePath = .ok ⟨String.intercalate "/" t.names⟩ := by
  have hfolders : t.folders.all isConfinedFolder = true := by
    rw [List.all_eq_true]
    intro name hname
    obtain ⟨-, hdot, hup, -, hback⟩ := h name (List.mem_append_left _ hname)
    simp [isConfinedFolder, hdot, hup, hback]
  have hfile : isConfinedFile t.filename = true := by
    obtain ⟨hempty, hdot, hup, hslash, hback⟩ := h t.filename List.mem_concat_self
    simp [isConfinedFile, hempty, hdot, hup, hslash, hback]
  rw [relativePath_eq, if_pos hfolders, if_pos hfile]

/-- Ordinary names with slashes between them are accepted as a directory. -/
theorem relativePath_of_ordinary {t : Target} {names : List String} (hne : names ≠ [])
    (hsubdir : t.subdir = String.intercalate "/" names) (hnames : ∀ name ∈ names, IsOrdinary name)
    (hfile : IsOrdinary t.filename) :
    t.relativePath = .ok ⟨String.intercalate "/" (names ++ [t.filename])⟩ := by
  have hfolders : t.folders = names := by
    have hslashless : ∀ name ∈ names, '/' ∉ name.toList :=
      fun name hname => (hnames name hname).isSegment.2.2.2
    have hpieces := splitOn_intercalate hne hslashless
    unfold folders
    rw [hsubdir]
    change (splitOn '/' (String.intercalate (String.singleton '/') names)).filter _ = _
    rw [hpieces]
    exact List.filter_eq_self.mpr fun name hname => by simpa using (hnames name hname).1
  have hordinary : ∀ name ∈ t.names, IsOrdinary name := by
    intro name hname
    rw [Target.names, hfolders] at hname
    rcases List.mem_append.mp hname with hname | hname
    · exact hnames name hname
    · rwa [List.mem_singleton.mp hname]
  have hpath := relativePath_of_names hordinary
  rwa [Target.names, hfolders] at hpath

/-- A target is refused for a folder or for its file. -/
theorem relativePath_eq_escapes {t : Target} {e : Error} (h : t.relativePath = .error e) :
    e = t.escapes "directory" ∨ e = t.escapes "file" := by
  rw [relativePath_eq] at h
  split at h
  · split at h
    · exact absurd h (by simp)
    · exact Or.inr (Except.error.inj h).symm
  · exact Or.inl (Except.error.inj h).symm

/-- A refused path is a matter of parameters. -/
theorem relativePath_eq_error {t : Target} {e : Error} (h : t.relativePath = .error e) :
    ∃ detail, e = .config detail := by
  rcases relativePath_eq_escapes h with rfl | rfl
  · exact ⟨_, rfl⟩
  · exact ⟨_, rfl⟩

theorem components_relativePath {t : Target} {p : Path} (h : t.relativePath = .ok p) :
    p.components = t.names.map .name := by
  obtain ⟨rfl, hordinary⟩ := relativePath_eq_ok h
  exact (components_intercalate t.names_ne_nil fun n hn => (hordinary n hn).isSegment).2

theorem destination_eq_ok {t : Target} {dir p : Path} (h : t.destination dir = .ok p) :
    ∃ relative, t.relativePath = .ok relative ∧ p = dir.join relative := by
  unfold destination at h
  cases hr : t.relativePath with
  | error e =>
      rw [hr] at h
      exact absurd h (by simp [Except.map])
  | ok relative =>
      rw [hr] at h
      exact ⟨relative, rfl, (Except.ok.inj h).symm⟩

/-- A destination is the output directory followed by the names. -/
theorem components_destination {t : Target} {dir p : Path} (h : t.destination dir = .ok p) :
    p.components = dir.components ++ t.names.map .name ∧ ∀ name ∈ t.names, IsOrdinary name := by
  obtain ⟨relative, hr, rfl⟩ := destination_eq_ok h
  obtain ⟨rfl, hordinary⟩ := relativePath_eq_ok hr
  exact ⟨components_join_segment dir t.names_ne_nil fun n hn => (hordinary n hn).isSegment,
    hordinary⟩

theorem map_name_inj {names others : List String}
    (h : names.map Component.name = others.map Component.name) : names = others :=
  (List.map_inj_right fun _ _ he => Component.name.inj he).mp h

/-- Accepted paths are the same exactly where the names are. -/
theorem same_relativePath_iff {t s : Target} {p q : Path} (hp : t.relativePath = .ok p)
    (hq : s.relativePath = .ok q) : p.same q = true ↔ t.names = s.names := by
  unfold Path.same
  rw [beq_iff_eq, components_relativePath hp, components_relativePath hq]
  constructor
  · exact map_name_inj
  · intro h
    rw [h]

/-- The output directory does not matter for whether two destinations agree. -/
theorem same_destination_iff {t s : Target} {dir p q : Path} (hp : t.destination dir = .ok p)
    (hq : s.destination dir = .ok q) : p.same q = true ↔ t.names = s.names := by
  unfold Path.same
  rw [beq_iff_eq, (components_destination hp).1, (components_destination hq).1]
  constructor
  · intro h
    exact map_name_inj (List.append_cancel_left h)
  · intro h
    rw [h]

end Target

end Scaffold
