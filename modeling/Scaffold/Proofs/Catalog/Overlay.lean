import Scaffold.Proofs.Catalog.Lookup
import Scaffold.Proofs.Disk.Making

/-!
# The custom templates as a map

The custom templates of a repository are a map from keys to texts. A disk
represents a map when the directories of the categories hold the files of its
texts and nothing else; lookups on the disk are then lookups in the map, and
writing or removing a file changes the map at one key.
-/

namespace Scaffold

open Scaffold.Action Scaffold.Path

/-- The custom text of every key that has one. -/
abbrev Overlay := TemplateKey → Option String

def Overlay.set (m : Overlay) (key : TemplateKey) (text : Option String) : Overlay :=
  fun other => if other = key then text else m other

/-- What a key stands for: its custom text, else its builtin one. -/
def Overlay.record (m : Overlay) (key : TemplateKey) : Except Error TemplateRecord :=
  match m key with
  | some text => .ok ⟨key, text, .custom⟩
  | none =>
    match key.builtinText? with
    | some text => .ok ⟨key, text, .builtin⟩
    | none => .error (Repository.unknown key)

namespace Repository

variable {r : Repository} {d e : Disk} {m : Overlay} {key : TemplateKey}

/-! ## Places -/

/-- Where the custom templates of a category lie. -/
def categoryPlace (r : Repository) (d : Disk) (c : Category) : Location :=
  d.placeOf r.root ++ [c.name]

/-- Where the custom template of a key lies. -/
def place (r : Repository) (d : Disk) (key : TemplateKey) : Location :=
  r.categoryPlace d key.category ++ [key.name]

theorem categoryPlace_congr (h : e.workingDirectory = d.workingDirectory) (c : Category) :
    r.categoryPlace e c = r.categoryPlace d c := by
  unfold categoryPlace
  rw [Disk.placeOf_congr h]

theorem place_congr (h : e.workingDirectory = d.workingDirectory) (key : TemplateKey) :
    r.place e key = r.place d key := by
  unfold place
  rw [categoryPlace_congr h]

theorem categoryName_injective : ∀ c c' : Category, c.name = c'.name → c = c' := by
  intro c c'
  cases c <;> cases c' <;> decide

theorem categoryPlace_prefix_place {c : Category} :
    r.categoryPlace d c <+: r.place d key ↔ key.category = c := by
  unfold place categoryPlace
  rw [List.append_assoc, List.prefix_append_right_inj]
  constructor
  · rintro ⟨rest, hrest⟩
    exact (categoryName_injective _ _ (List.cons.inj hrest).1).symm
  · rintro rfl
    exact List.prefix_append _ _

theorem place_prefix_place {other : TemplateKey} :
    r.place d other <+: r.place d key ↔ key = other := by
  constructor
  · intro h
    have hlength : (r.place d other).length = (r.place d key).length := by
      simp [place, categoryPlace]
    have heq := h.eq_of_length hlength
    unfold place categoryPlace at heq
    obtain ⟨hcategory, hname⟩ := List.append_inj' heq rfl
    have hc := categoryName_injective _ _ (List.singleton_inj.mp (List.append_inj' hcategory rfl).2)
    obtain ⟨c, name⟩ := key
    obtain ⟨c', name'⟩ := other
    rw [TemplateKey.mk.injEq]
    exact ⟨hc.symm, (List.singleton_inj.mp hname).symm⟩
  · rintro rfl
    exact List.prefix_rfl

/-! ## Paths -/

theorem directoryOf_eq_join (r : Repository) (c : Category) :
    r.directoryOf c = r.root.join ⟨String.intercalate "/" [c.name]⟩ := by
  rw [String.intercalate_singleton]
  rfl

theorem pathOf_eq_join (r : Repository) (key : TemplateKey) :
    r.pathOf key = (r.directoryOf key.category).join ⟨String.intercalate "/" [key.name]⟩ := by
  rw [String.intercalate_singleton]
  rfl

theorem segment_singleton {name : String} (h : IsSegment name) : ∀ n ∈ [name], IsSegment n := by
  simpa using h

theorem components_pathOf_of_segment (h : IsSegment key.name) :
    (r.pathOf key).components = (r.directoryOf key.category).components ++ [.name key.name] := by
  rw [pathOf_eq_join]
  exact components_join_segment _ (List.cons_ne_nil _ _) (segment_singleton h)

theorem placeOf_directoryOf (c : Category) : d.placeOf (r.directoryOf c) = r.categoryPlace d c := by
  unfold Disk.placeOf
  rw [components_directoryOf, Disk.follow_append]
  rfl

theorem placeOf_pathOf (h : IsSegment key.name) : d.placeOf (r.pathOf key) = r.place d key := by
  unfold Disk.placeOf place
  rw [components_pathOf_of_segment h, Disk.follow_append, ← placeOf_directoryOf]
  rfl

theorem trimmed_directoryOf (c : Category) : (r.directoryOf c).Trimmed := by
  rw [directoryOf_eq_join]
  exact trimmed_join_segment _ (List.cons_ne_nil _ _) (segment_singleton (isOrdinary_name c).isSegment)

theorem trimmed_pathOf (h : IsSegment key.name) : (r.pathOf key).Trimmed := by
  rw [pathOf_eq_join]
  exact trimmed_join_segment _ (List.cons_ne_nil _ _) (segment_singleton h)

theorem settled_directoryOf (h : d.Settled r.root) (c : Category) : d.Settled (r.directoryOf c) := by
  have hcomponents : (r.directoryOf c).components = r.root.components ++ [c.name].map .name :=
    components_directoryOf r c
  exact h.append_names hcomponents

theorem settled_pathOf (h : d.Settled r.root) (hname : IsSegment key.name) :
    d.Settled (r.pathOf key) := by
  have hcomponents : (r.pathOf key).components =
      (r.directoryOf key.category).components ++ [key.name].map .name :=
    components_pathOf_of_segment hname
  exact (settled_directoryOf h key.category).append_names hcomponents

/-! ## Representation -/

/-- A key whose custom template can have a file: its name is that of a file, and
the path to it is not too long. -/
structure Usable (r : Repository) (key : TemplateKey) : Prop where
  segment : IsSegment key.name
  allowed : Disk.refusal? (r.pathOf key) = none
  fits : Disk.Fits (r.pathOf key)

instance (r : Repository) (key : TemplateKey) : Decidable (r.Usable key) :=
  decidable_of_iff (IsSegment key.name ∧ Disk.refusal? (r.pathOf key) = none ∧
    Disk.Fits (r.pathOf key)) ⟨fun h => ⟨h.1, h.2.1, h.2.2⟩, fun h => ⟨h.1, h.2, h.3⟩⟩

/-- The disk holds the texts of a map in the directories of the categories and
nothing else there. No file is on the way to these directories, and the way
does not lead through one of them. -/
structure Represents (r : Repository) (d : Disk) (m : Overlay) : Prop where
  wellFormed : d.WellFormed
  settled : d.Settled r.root
  noFile : ∀ l, d.Along r.root l → ∀ content, d.find? l ≠ some (.file content)
  aside : ∀ l, d.Along r.root l → ∀ c, ¬ r.categoryPlace d c <+: l
  categories : ∀ c content, d.find? (r.categoryPlace d c) ≠ some (.file content)
  texts : ∀ key, d.find? (r.place d key) = (m key).map fun text => .file text.toUTF8

/-- Directories that hold nothing but files with texts represent some map. -/
theorem exists_represents (hd : d.WellFormed) (hsettled : d.Settled r.root)
    (hnoFile : ∀ l, d.Along r.root l → ∀ content, d.find? l ≠ some (.file content))
    (haside : ∀ l, d.Along r.root l → ∀ c, ¬ r.categoryPlace d c <+: l)
    (hcategories : ∀ c content, d.find? (r.categoryPlace d c) ≠ some (.file content))
    (htexts : ∀ key entry, d.find? (r.place d key) = some entry →
      ∃ text : String, entry = .file text.toUTF8) :
    ∃ m, r.Represents d m := by
  have htext : ∀ key, ∃ text : Option String,
      d.find? (r.place d key) = text.map fun text => .file text.toUTF8 := by
    intro key
    cases hfind : d.find? (r.place d key) with
    | none => exact ⟨none, rfl⟩
    | some entry =>
        obtain ⟨text, rfl⟩ := htexts key entry hfind
        exact ⟨some text, rfl⟩
  obtain ⟨m, hm⟩ := Classical.axiomOfChoice htext
  exact ⟨m, hd, hsettled, hnoFile, haside, hcategories, hm⟩

/-- A change to the custom templates: what lies elsewhere stays, but for new
directories on the way to them. -/
structure Elsewhere (r : Repository) (d e : Disk) : Prop where
  workingDirectory : e.workingDirectory = d.workingDirectory
  entries : ∀ l, e.find? l = d.find? l ∨ (∃ c, r.categoryPlace d c <+: l) ∨
    (d.Along r.root l ∧ d.find? l = none ∧ e.find? l = some .directory)

theorem Elsewhere.refl (r : Repository) (d : Disk) : r.Elsewhere d d := ⟨rfl, fun _ => Or.inl rfl⟩

theorem Elsewhere.trans {f : Disk} (h : r.Elsewhere d e) (h' : r.Elsewhere e f) :
    r.Elsewhere d f := by
  refine ⟨h'.workingDirectory.trans h.workingDirectory, fun l => ?_⟩
  rcases h'.entries l with heq | ⟨c, hc⟩ | ⟨halong, hnone, hdir⟩
  · rcases h.entries l with heq' | hc | ⟨halong, hnone, hdir⟩
    · exact Or.inl (heq.trans heq')
    · exact Or.inr (Or.inl hc)
    · exact Or.inr (Or.inr ⟨halong, hnone, heq.trans hdir⟩)
  · exact Or.inr (Or.inl ⟨c, categoryPlace_congr h.workingDirectory c ▸ hc⟩)
  · rcases h.entries l with heq' | hc | ⟨-, -, hdir'⟩
    · exact Or.inr (Or.inr ⟨Disk.along_congr h.workingDirectory halong, heq' ▸ hnone, hdir⟩)
    · exact Or.inr (Or.inl hc)
    · rw [hnone] at hdir'
      exact absurd hdir' nofun

/-! ## Looking up -/

theorem Represents.look_pathOf (h : r.Represents d m) (hkey : r.Usable key) {text : String}
    (htext : m key = some text) :
    d.look (r.pathOf key) = .ok (r.place d key, .file text.toUTF8) := by
  rw [← placeOf_pathOf hkey.segment]
  refine Disk.look_of_find? h.wellFormed (trimmed_pathOf hkey.segment) hkey.allowed hkey.fits
    (settled_pathOf h.settled hkey.segment) ?_
  rw [placeOf_pathOf hkey.segment, h.texts, htext]
  rfl

theorem Represents.isFile_pathOf (h : r.Represents d m) (hkey : r.Usable key) :
    d.isFile (r.pathOf key) = (m key).isSome := by
  rw [Bool.eq_iff_iff, Disk.isFile_iff]
  constructor
  · rintro ⟨l, content, hlook⟩
    obtain ⟨hresolve, hfind⟩ := Disk.look_eq_ok_iff.mp hlook
    rw [Disk.resolve_eq_ok hresolve, placeOf_pathOf hkey.segment, h.texts] at hfind
    cases htext : m key with
    | none =>
        rw [htext] at hfind
        exact absurd hfind nofun
    | some text => rfl
  · intro hsome
    obtain ⟨text, htext⟩ := Option.isSome_iff_exists.mp hsome
    exact ⟨_, _, h.look_pathOf hkey htext⟩

theorem Represents.runOn_customText? (h : r.Represents d m) (hkey : r.Usable key) :
    (r.customText? key).runOn d = (.ok (m key), d) := by
  cases htext : m key with
  | none =>
      refine runOn_customText?_of_missing ?_
      rw [h.isFile_pathOf hkey, htext]
      rfl
  | some text => exact runOn_customText?_of_file (h.look_pathOf hkey htext)

theorem Represents.runOn_load (h : r.Represents d m) (hkey : r.Usable key) :
    (r.load key).runOn d = (m.record key, d) := by
  unfold load Overlay.record
  rw [runOn_bind_of_ok (h.runOn_customText? hkey)]
  cases m key with
  | some text => rfl
  | none =>
      dsimp only
      cases key.builtinText? <;> rfl

/-! ## Writing -/

theorem above_pathOf (hname : IsSegment key.name) {l : Location} (h : d.Above (r.pathOf key) l) :
    d.Along r.root l ∨ l = r.categoryPlace d key.category := by
  obtain ⟨cs, hcs, hne, rfl⟩ := h
  rw [components_pathOf_of_segment hname] at hcs hne
  have hdirectory := (List.prefix_concat_iff.mp hcs).resolve_left hne
  rw [components_directoryOf] at hdirectory
  rcases List.prefix_concat_iff.mp hdirectory with rfl | hroot
  · refine Or.inr ?_
    rw [← placeOf_directoryOf, Disk.placeOf, components_directoryOf]
  · exact Or.inl ⟨cs, hroot, rfl⟩

theorem Represents.writable (h : r.Represents d m) (hkey : r.Usable key) :
    d.Writable (r.pathOf key) := by
  refine ⟨trimmed_pathOf hkey.segment, hkey.allowed, hkey.fits, settled_pathOf h.settled hkey.segment,
    fun l hl content => ?_, ?_⟩
  · rcases above_pathOf hkey.segment hl with halong | rfl
    · exact h.noFile l halong content
    · exact h.categories _ content
  · rw [placeOf_pathOf hkey.segment, h.texts]
    cases m key with
    | none => exact nofun
    | some text => exact nofun

/-- A location above a custom template where nothing lies is above its place. -/
theorem Represents.length_of_above (h : r.Represents d m) (hname : IsSegment key.name)
    {l : Location} (hl : d.Above (r.pathOf key) l) (hnone : d.find? l = none) :
    l.length < (r.place d key).length := by
  have hsettled := settled_pathOf h.settled hname
  have hstarts := Disk.prefix_placeOf_of_above h.wellFormed hsettled hl hnone
  have hne := Disk.ne_placeOf_of_above h.wellFormed hsettled hl hnone []
  rw [placeOf_pathOf hname] at hstarts
  rw [placeOf_pathOf hname, List.append_nil] at hne
  exact Nat.lt_of_le_of_ne hstarts.length_le fun heq => hne (hstarts.eq_of_length heq)

/-- Writing the custom template of a key changes its place and makes directories above it. -/
theorem frame_write (hname : IsSegment key.name) (text : String) (d : Disk) :
    Disk.Frame (· = r.place d key) (d.Above (r.pathOf key)) d ((r.write key text).runOn d).2 := by
  refine Disk.Frame.mono (changesAt_writeFile (r.pathOf key) text d) ?_ ?_
  · rintro l ⟨p, rfl, hl⟩
    exact hl.trans (placeOf_pathOf hname)
  · rintro l ⟨p, rfl, hl⟩
    exact hl

/-- A change at the place of a key and above it happens inside the directories of
the categories or on the way to them. -/
theorem elsewhere_of_frame (hname : IsSegment key.name)
    (h : Disk.Frame (· = r.place d key) (d.Above (r.pathOf key)) d e) : r.Elsewhere d e := by
  refine ⟨h.workingDirectory, fun l => ?_⟩
  rcases h.entries l with heq | ⟨rfl, -⟩ | ⟨habove, hnone, hdir⟩
  · exact Or.inl heq
  · exact Or.inr (Or.inl ⟨key.category, categoryPlace_prefix_place.mpr rfl⟩)
  · rcases above_pathOf hname habove with halong | rfl
    · exact Or.inr (Or.inr ⟨halong, hnone, hdir⟩)
    · exact Or.inr (Or.inl ⟨key.category, List.prefix_rfl⟩)

/-- Such a change leaves the places of the other keys alone. -/
theorem Represents.find?_place (h : r.Represents d m) (hname : IsSegment key.name)
    (hframe : Disk.Frame (· = r.place d key) (d.Above (r.pathOf key)) d e)
    {other : TemplateKey} (hother : other ≠ key) :
    e.find? (r.place d other) = d.find? (r.place d other) := by
  refine hframe.find?_eq (fun heq => ?_) fun hnone habove => ?_
  · have hstarts : r.place d other <+: r.place d key := by
      have hsame : r.place d other = r.place d key := heq
      exact hsame ▸ List.prefix_rfl
    exact hother (place_prefix_place.mp hstarts).symm
  · have hlength := h.length_of_above hname habove hnone
    simp [place, categoryPlace] at hlength

theorem Represents.write (h : r.Represents d m) (hkey : r.Usable key) (text : String) :
    ∃ e, (r.write key text).runOn d = (.ok (), e) ∧
      r.Represents e (m.set key (some text)) ∧ r.Elsewhere d e := by
  obtain ⟨e, hwrite⟩ := writeFile_ok h.wellFormed (h.writable hkey) text
  have hrun : (r.write key text).runOn d = (.ok (), e) := hwrite
  have hframe := r.frame_write hkey.segment text d
  have hformed := wellFormed_writeFile h.wellFormed (r.pathOf key) text
  have hfile := find?_of_writeFile hwrite
  rw [hrun] at hframe
  rw [hwrite] at hformed
  rw [placeOf_pathOf hkey.segment] at hfile
  have hwd := hframe.workingDirectory
  refine ⟨e, hrun, ⟨hformed, h.settled.frame hframe, fun l hl content hcontent => ?_,
    fun l hl c => ?_, fun c content hcontent => ?_, fun other => ?_⟩,
    elsewhere_of_frame hkey.segment hframe⟩
  · have halong := Disk.along_congr hwd hl
    refine h.noFile l halong content (hframe.file (fun heq => ?_) hcontent)
    exact h.aside l halong key.category (heq ▸ categoryPlace_prefix_place.mpr rfl)
  · rw [categoryPlace_congr hwd]
    exact h.aside l (Disk.along_congr hwd hl) c
  · rw [categoryPlace_congr hwd] at hcontent
    refine h.categories c content (hframe.file (fun heq => ?_) hcontent)
    have hlength := congrArg List.length heq
    simp [place, categoryPlace] at hlength
  · rw [place_congr hwd]
    unfold Overlay.set
    by_cases hother : other = key
    · rw [hother, if_pos rfl, hfile]
      rfl
    · rw [if_neg hother, ← h.texts]
      exact h.find?_place hkey.segment hframe hother

/-! ## Removing -/

/-- Removing what lies at or below a place in the directory of a category. -/
theorem Represents.removeTree (h : r.Represents d m) {l : Location} {c : Category}
    (hl : r.categoryPlace d c <+: l) {m' : Overlay}
    (hm' : ∀ key, m' key = if l <+: r.place d key then none else m key) :
    r.Represents (d.removeTree l) m' ∧ r.Elsewhere d (d.removeTree l) := by
  have hne : l ≠ [] := by
    rintro rfl
    have hlength := hl.length_le
    simp [categoryPlace] at hlength
  have hfind : ∀ k, (d.removeTree l).find? k = if l <+: k then none else d.find? k :=
    Disk.find?_removeTree d hne
  -- nothing on the way to the directories of the categories is removed
  have hway : ∀ k, d.Along r.root k → (d.removeTree l).find? k = d.find? k := by
    intro k hk
    rw [hfind, if_neg fun hstarts => h.aside k hk c (hl.trans hstarts)]
  have hstart : d.Along r.root d.workingDirectory := ⟨[], List.nil_prefix, rfl⟩
  have hwd : ¬ l <+: d.workingDirectory := fun hstarts =>
    h.aside _ hstart c (hl.trans hstarts)
  refine ⟨⟨h.wellFormed.removeTree hne hwd, ?_, fun k hk content hcontent => ?_, h.aside,
    fun c' content hcontent => ?_, fun key => ?_⟩, ⟨rfl, fun k => ?_⟩⟩
  · intro before after hsplit
    have halong : d.Along r.root (Disk.follow d.workingDirectory before) :=
      ⟨before, hsplit ▸ List.prefix_append _ _, rfl⟩
    exact (hway _ halong).trans (h.settled before after hsplit)
  · exact h.noFile k hk content ((hway k hk).symm.trans hcontent)
  · rw [hfind] at hcontent
    split at hcontent
    · exact absurd hcontent nofun
    · exact h.categories c' content hcontent
  · change (d.removeTree l).find? (r.place d key) = _
    rw [hfind, hm']
    split
    · rfl
    · exact h.texts key
  · rw [hfind]
    split
    · next hstarts => exact Or.inr (Or.inl ⟨c, hl.trans hstarts⟩)
    · exact Or.inl rfl

end Repository

end Scaffold
