import Mathlib.Data.List.Induction
import Scaffold.Proofs.Generation.PathCheck

/-!
# Which targets are accepted

A target is accepted for what is written in it: its file has an ordinary name, and so has
every folder of its directory, where slashes that stand side by side or at an end count for
nothing. The path of an accepted target consists of these names, and no two targets of a run
may have the same ones.
-/

namespace Scaffold

open Scaffold.Action Scaffold.Path Text

namespace Target

/-- What is written in a target leads neither up nor elsewhere. -/
structure Confined (t : Target) : Prop where
  subdir : ∀ segment ∈ splitOn '/' t.subdir, segment ≠ "" →
    segment ≠ "." ∧ segment ≠ ".." ∧ '\\' ∉ segment.toList
  filename : t.filename ≠ "" ∧ t.filename ≠ "." ∧ t.filename ≠ ".." ∧
    '/' ∉ t.filename.toList ∧ '\\' ∉ t.filename.toList

section

variable {s t : Target}

theorem mem_folders_iff {name : String} :
    name ∈ t.folders ↔ name ∈ splitOn '/' t.subdir ∧ name ≠ "" := by
  simp [folders]

theorem confined_iff_names : t.Confined ↔ ∀ name ∈ t.names, IsOrdinary name := by
  constructor
  · rintro ⟨hsubdir, hfile⟩ name hname
    rcases List.mem_append.mp hname with hfolder | hname
    · obtain ⟨hmem, hne⟩ := mem_folders_iff.mp hfolder
      obtain ⟨hdot, hup, hback⟩ := hsubdir name hmem hne
      exact ⟨hne, hdot, hup, not_mem_of_mem_splitOn hmem, hback⟩
    · rw [List.mem_singleton.mp hname]
      exact hfile
  · intro h
    constructor
    · intro segment hmem hne
      have hfolder : segment ∈ t.folders := mem_folders_iff.mpr ⟨hmem, hne⟩
      obtain ⟨-, hdot, hup, -, hback⟩ := h segment (List.mem_append_left _ hfolder)
      exact ⟨hdot, hup, hback⟩
    · exact h t.filename List.mem_concat_self

theorem exists_relativePath_iff : (∃ p, t.relativePath = .ok p) ↔ t.Confined := by
  rw [confined_iff_names]
  constructor
  · rintro ⟨p, hp⟩
    exact (relativePath_eq_ok hp).2
  · intro h
    exact ⟨_, relativePath_of_names h⟩

theorem samePath_iff_names (hs : s.Confined) (ht : t.Confined) :
    s.SamePath t ↔ s.names = t.names := by
  obtain ⟨p, hp⟩ := exists_relativePath_iff.mpr hs
  obtain ⟨q, hq⟩ := exists_relativePath_iff.mpr ht
  rw [← same_relativePath_iff hp hq]
  constructor
  · rintro ⟨p', q', hp', hq', hsame⟩
    rw [hp] at hp'
    rw [hq] at hq'
    cases hp'
    cases hq'
    exact hsame
  · intro hsame
    exact ⟨p, q, hp, hq, hsame⟩

/-! ## Slashes -/

theorem folders_append (t : Target) (front back : String) :
    { t with subdir := front ++ "/" ++ back }.folders =
      { t with subdir := front }.folders ++ { t with subdir := back }.folders := by
  have hsplit := splitOn_append '/' front back
  unfold folders
  rw [← List.filter_append, ← hsplit]
  rfl

/-- A run of slashes separates as one slash does. -/
theorem folders_slashes (t : Target) (front back : String) (n : Nat) :
    { t with subdir := front ++ String.ofList (List.replicate (n + 1) '/') ++ back }.folders =
      { t with subdir := front }.folders ++ { t with subdir := back }.folders := by
  induction n generalizing front with
  | zero => exact t.folders_append front back
  | succ n ih =>
      -- the first slash of the run ends the front, and nothing stands behind it there
      have hfirst : front ++ String.ofList (List.replicate (n + 2) '/') ++ back =
          front ++ "/" ++ String.ofList (List.replicate (n + 1) '/') ++ back := by
        apply String.toList_inj.mp
        simp [List.replicate_succ]
      have hfront := t.folders_append front ""
      rw [String.append_empty] at hfront
      rw [hfirst, ih, hfront]
      simp [folders, splitOn, splitCharsWhere]

end

end Target

/-! ## Repetitions -/

/-- The first target of a plan with the names of an earlier one. -/
structure FirstRepeat (ts earlier : List Target) (t : Target) : Prop where
  split : ∃ later, ts = earlier ++ t :: later
  fresh : earlier.Pairwise fun s s' => s.names ≠ s'.names
  repeated : ∃ s ∈ earlier, s.names = t.names

theorem exists_firstRepeat_iff {ts : List Target} :
    (∃ earlier t, FirstRepeat ts earlier t) ↔ ¬ ts.Pairwise fun s s' => s.names ≠ s'.names := by
  constructor
  · rintro ⟨earlier, t, ⟨later, rfl⟩, -, s, hs, hnames⟩ hfresh
    exact (List.pairwise_append.mp hfresh).2.2 s hs t List.mem_cons_self hnames
  · intro hrepeated
    -- the shortest front with a repetition ends in the target that is looked for
    induction ts using List.reverseRecOn with
    | nil => exact absurd List.Pairwise.nil hrepeated
    | append_singleton ts t ih =>
        by_cases hfresh : ts.Pairwise fun s s' => s.names ≠ s'.names
        · refine ⟨ts, t, ⟨[], rfl⟩, hfresh, ?_⟩
          by_contra hnone
          refine hrepeated (List.pairwise_append.mpr ⟨hfresh, List.pairwise_singleton _ _, ?_⟩)
          intro s hs s' hs' hnames
          rw [List.mem_singleton.mp hs'] at hnames
          exact hnone ⟨s, hs, hnames⟩
        · obtain ⟨earlier, s, ⟨later, rfl⟩, hearlier, hsame⟩ := ih hfresh
          exact ⟨earlier, s, ⟨later ++ [t], by simp⟩, hearlier, hsame⟩

theorem FirstRepeat.firstFault {ts earlier : List Target} {t : Target}
    (h : FirstRepeat ts earlier t) (hconfined : ∀ t ∈ ts, t.Confined) :
    FirstFault ts earlier.length t := by
  obtain ⟨⟨later, rfl⟩, hfresh, s, hs, hnames⟩ := h
  have ht : t ∈ earlier ++ t :: later := List.mem_append_right _ List.mem_cons_self
  have hearlier : ∀ s ∈ earlier, s ∈ earlier ++ t :: later :=
    fun s hs => List.mem_append_left _ hs
  constructor
  · refine ⟨by simp, Or.inr ⟨s, by simpa using hs, ?_⟩⟩
    exact (Target.samePath_iff_names (hconfined s (hearlier s hs)) (hconfined t ht)).mpr hnames
  · rintro j hj s' ⟨hget, hfault⟩
    have hs' : s' ∈ earlier ++ t :: later := List.mem_of_getElem? hget
    rcases hfault with ⟨e, he⟩ | ⟨s, hs, hsame⟩
    · obtain ⟨p, hp⟩ := Target.exists_relativePath_iff.mpr (hconfined s' hs')
      rw [hp] at he
      exact absurd he nofun
    · -- both stand in front of the first repetition, one behind the other
      rw [List.getElem?_append_left hj] at hget
      rw [List.nil_append, List.take_append_of_le_length (Nat.le_of_lt hj)] at hs
      have hback : s' ∈ earlier.drop j := by
        refine List.mem_of_getElem? (i := 0) ?_
        rw [List.getElem?_drop, Nat.add_zero, hget]
      rw [← List.take_append_drop j earlier, List.pairwise_append] at hfresh
      have hfront := hearlier s (List.mem_of_mem_take hs)
      exact hfresh.2.2 s hs s' hback
        ((Target.samePath_iff_names (hconfined s hfront) (hconfined s' hs')).mp hsame)

namespace Generator

/-- A target is accepted exactly where every name in it is confined, and its path consists of
the names of its directory, without the empty ones, and of its file. Two accepted paths are the
same exactly where these names are, whatever the output directory and however many slashes
separate them. A run on accepted targets reports the first one with the names of an earlier one
and changes nothing, and goes on to save them all where there is none. -/
theorem accepted_exactly_confined :
    (∀ t : Target, ((∃ p, t.relativePath = .ok p) ↔ t.Confined) ∧
      ∀ e, t.relativePath = .error e → e = t.escapes "directory" ∨ e = t.escapes "file") ∧
    (∀ (t : Target) (p : Path), t.relativePath = .ok p →
      p.components = ((splitOn '/' t.subdir).filter (· != "") ++ [t.filename]).map .name ∧
        ∀ name ∈ t.names, IsOrdinary name) ∧
    (∀ (s t : Target) (dir p q : Path), s.destination dir = .ok p → t.destination dir = .ok q →
      (p.same q = true ↔ s.names = t.names)) ∧
    (∀ (t : Target) (front back : String) (n : Nat),
      { t with subdir := front ++ String.ofList (List.replicate (n + 1) '/') ++ back }.folders =
        { t with subdir := front }.folders ++ { t with subdir := back }.folders) ∧
    (∀ ts, (∃ earlier t, FirstRepeat ts earlier t) ↔
      ¬ ts.Pairwise fun s s' => s.names ≠ s'.names) ∧
    ∀ (ts : List Target) (g : Generator) (b : Backend) (dir : Path) (d : Disk), b.ReadsOnly →
      ((b.plan g).runOn d).1 = .ok ts → (∀ t ∈ ts, t.Confined) →
        (∀ earlier t, FirstRepeat ts earlier t → ∃ dest, t.destination dir = .ok dest ∧
          (g.run b dir).runOn d = (.error
            (.generation t.category t.template.name t.node (.duplicatePath dest.text)), d)) ∧
        ((ts.Pairwise fun s s' => s.names ≠ s'.names) → ∃ planned, planned.map Prod.fst = ts ∧
          (∀ p ∈ planned, p.1.destination dir = .ok p.2) ∧
          (g.run b dir).runOn d = (g.saveAll planned).runOn d) := by
  refine ⟨fun t => ⟨Target.exists_relativePath_iff, fun e => Target.relativePath_eq_escapes⟩,
    fun t p hp => ?_, fun s t dir p q hp hq => Target.same_destination_iff hp hq,
    Target.folders_slashes, fun ts => exists_firstRepeat_iff, ?_⟩
  · exact ⟨Target.components_relativePath hp, (Target.relativePath_eq_ok hp).2⟩
  · intro ts g b dir d hb hplan hconfined
    constructor
    · intro earlier t hrepeat
      obtain ⟨source, hcheck, hcomplaint⟩ :=
        checkPaths_of_firstFault (seen_nil dir) (hrepeat.firstFault hconfined)
      have ht : t ∈ ts := by
        obtain ⟨later, rfl⟩ := hrepeat.split
        exact List.mem_append_right _ List.mem_cons_self
      obtain ⟨p, hp⟩ := Target.exists_relativePath_iff.mpr (hconfined t ht)
      rcases hcomplaint with ⟨detail, hrefused, -⟩ | ⟨relative, hrelative, rfl⟩
      · rw [hp] at hrefused
        exact absurd hrefused nofun
      · refine ⟨dir.join relative, ?_, ?_⟩
        · rw [Target.destination, hrelative]
          rfl
        · rw [runOn_run hb hplan, hcheck]
          rfl
    · intro hfresh
      have haccepted : ∀ t ∈ ts, ∃ p, t.relativePath = .ok p :=
        fun t ht => Target.exists_relativePath_iff.mpr (hconfined t ht)
      obtain ⟨planned, hcheck⟩ := checkPaths_of_names dir haccepted hfresh
      refine ⟨planned, map_fst_of_checkPaths hcheck, destination_of_checkPaths hcheck, ?_⟩
      rw [runOn_run hb hplan, hcheck]

/-- Two ways to write one folder are accepted, and a run refuses the second one. -/
theorem accepted_exactly_confined_slashes :
    (∀ t ∈ [handlerIn "api", handlerIn "/api//"], t.Confined) ∧
    FirstRepeat [handlerIn "api", handlerIn "/api//"] [handlerIn "api"] (handlerIn "/api//") ∧
    ∃ dest, (handlerIn "/api//").destination ⟨"out"⟩ = .ok dest ∧
      (plain.run (.fixed [handlerIn "api", handlerIn "/api//"]) ⟨"out"⟩).runOn {} =
        (.error (.generation .api "user.tpl" "route" (.duplicatePath dest.text)), {}) := by
  obtain ⟨haccepted, -, -, -, -, hrun⟩ := accepted_exactly_confined
  have hconfined : ∀ t ∈ [handlerIn "api", handlerIn "/api//"], t.Confined := by
    intro t ht
    refine (haccepted t).1.mp ⟨⟨"api/user.go"⟩, ?_⟩
    simp only [List.mem_cons, List.not_mem_nil, or_false] at ht
    rcases ht with rfl | rfl
    · decide
    · decide
  have hrepeat : FirstRepeat [handlerIn "api", handlerIn "/api//"] [handlerIn "api"]
      (handlerIn "/api//") :=
    ⟨⟨[], rfl⟩, List.pairwise_singleton _ _, handlerIn "api", List.mem_cons_self, by decide⟩
  exact ⟨hconfined, hrepeat, (hrun _ plain _ ⟨"out"⟩ {} (Backend.readsOnly_fixed _) rfl
    hconfined).1 _ _ hrepeat⟩

end Generator

end Scaffold
