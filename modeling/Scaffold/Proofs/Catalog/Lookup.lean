import Scaffold.Catalog.Repository
import Scaffold.Proofs.Disk.Settled

/-!
# What a key stands for

Looking a key up only reads, and it reads one path: the text does not change
while that path leads to the same entry. The path of a key whose name does not
climb lies below the directory of the custom templates.
-/

namespace Scaffold

open Scaffold.Action Scaffold.Path

namespace Repository

theorem fromUTF8?_toUTF8 (s : String) : String.fromUTF8? s.toUTF8 = some s := by
  unfold String.fromUTF8?
  exact dif_pos s.isValidUTF8

theorem eq_toUTF8_of_fromUTF8? {content : ByteArray} {text : String}
    (h : String.fromUTF8? content = some text) : content = text.toUTF8 := by
  unfold String.fromUTF8? at h
  split at h
  · rw [← Option.some.inj h]
    rfl
  · exact absurd h nofun

theorem toUTF8_inj {s t : String} : s.toUTF8 = t.toUTF8 ↔ s = t := by
  constructor
  · intro h
    have hsome := congrArg String.fromUTF8? h
    rw [fromUTF8?_toUTF8, fromUTF8?_toUTF8] at hsome
    exact Option.some.inj hsome
  · exact congrArg _

theorem reads_customText? (r : Repository) (key : TemplateKey) : Reads (r.customText? key) := by
  unfold customText? isCustom
  refine reads_bind (reads_ask _) fun custom => ?_
  cases custom with
  | true => exact reads_bind (reads_readText _) fun _ => reads_pure _
  | false => exact reads_pure _

theorem reads_load (r : Repository) (key : TemplateKey) : Reads (r.load key) := by
  unfold load
  refine reads_bind (reads_customText? r key) fun custom => ?_
  cases custom with
  | some text => exact reads_pure _
  | none =>
      dsimp only
      split
      · exact reads_pure _
      · exact reads_throw _

/-- Two disks that agree on the file of a key agree on what it stands for. -/
theorem sameAnswer_customText? {r : Repository} {key : TemplateKey} {d e : Disk}
    (h : d.SameFile e (r.pathOf key)) : SameAnswer d e (r.customText? key) := by
  unfold customText? isCustom
  refine sameAnswer_bind (reads_ask _) (congrArg Except.ok h.isFile) fun custom hcustom => ?_
  cases custom with
  | false => exact sameAnswer_pure d e _
  | true =>
      have hread : SameAnswer d e (Action.readText (r.pathOf key)) := by
        unfold SameAnswer
        rw [runOn_readText, runOn_readText, h.readText (Except.ok.inj hcustom)]
      exact sameAnswer_bind (reads_readText _) hread fun _ _ => sameAnswer_pure d e _

theorem sameAnswer_load {r : Repository} {key : TemplateKey} {d e : Disk}
    (h : d.SameFile e (r.pathOf key)) : SameAnswer d e (r.load key) := by
  unfold load
  refine sameAnswer_bind (reads_customText? r key) (sameAnswer_customText? h) fun custom _ => ?_
  cases custom with
  | some text => exact sameAnswer_pure d e _
  | none =>
      dsimp only
      split
      · exact sameAnswer_pure d e _
      · exact sameAnswer_throw d e _

/-- The text that a key stands for, or why it stands for none. -/
def textOf (r : Repository) (d : Disk) (key : TemplateKey) : Except Error String :=
  ((r.load key).runOn d).1.map (·.text)

theorem textOf_congr {r : Repository} {key : TemplateKey} {d e : Disk}
    (h : d.SameFile e (r.pathOf key)) : r.textOf e key = r.textOf d key :=
  congrArg (Except.map _) (sameAnswer_load h)

/-- The custom text of a key is what its file holds. -/
theorem runOn_customText?_of_file {r : Repository} {key : TemplateKey} {d : Disk} {l : Location}
    {text : String} (h : d.look (r.pathOf key) = .ok (l, .file text.toUTF8)) :
    (r.customText? key).runOn d = (.ok (some text), d) := by
  have hfile : d.isFile (r.pathOf key) = true := Disk.isFile_iff.mpr ⟨l, _, h⟩
  have hread : d.readText (r.pathOf key) = .ok text := by
    unfold Disk.readText
    rw [Disk.readBytes_of_look h]
    dsimp only
    rw [fromUTF8?_toUTF8]
  have hrun : (Action.readText (r.pathOf key)).runOn d = (.ok text, d) := by
    rw [runOn_readText, hread]
    rfl
  unfold customText? isCustom
  rw [runOn_bind_of_ok (runOn_ask _ d), hfile]
  exact runOn_bind_of_ok hrun

theorem runOn_customText?_of_missing {r : Repository} {key : TemplateKey} {d : Disk}
    (h : d.isFile (r.pathOf key) = false) : (r.customText? key).runOn d = (.ok none, d) := by
  unfold customText? isCustom
  rw [runOn_bind_of_ok (runOn_ask _ d), h]
  rfl

theorem runOn_load_of_custom {r : Repository} {key : TemplateKey} {d : Disk} {text : String}
    (h : (r.customText? key).runOn d = (.ok (some text), d)) :
    (r.load key).runOn d = (.ok ⟨key, text, .custom⟩, d) := by
  unfold load
  rw [runOn_bind_of_ok h]
  rfl

/-- A key without a custom template stands for its builtin text. -/
theorem runOn_load_of_builtin {r : Repository} {key : TemplateKey} {d : Disk} {text : String}
    (hfile : d.isFile (r.pathOf key) = false) (htext : key.builtinText? = some text) :
    (r.load key).runOn d = (.ok ⟨key, text, .builtin⟩, d) := by
  unfold load
  rw [runOn_bind_of_ok (runOn_customText?_of_missing hfile)]
  dsimp only
  rw [htext]
  rfl

/-! ## Where custom templates lie -/

/-- A name that stays below the directory it is put in. -/
def Descends (name : String) : Prop :=
  ∀ c ∈ (Path.mk name).components, c ≠ .root ∧ c ≠ .parent

instance (name : String) : Decidable (Descends name) :=
  inferInstanceAs (Decidable (∀ c ∈ (Path.mk name).components, c ≠ .root ∧ c ≠ .parent))

theorem isOrdinary_name (c : Category) : IsOrdinary c.name := by
  cases c <;> decide

theorem components_directoryOf (r : Repository) (c : Category) :
    (r.directoryOf c).components = r.root.components ++ [.name c.name] := by
  have hnames : ∀ name ∈ [c.name], IsSegment name := by
    simpa using (isOrdinary_name c).isSegment
  have hjoin := components_join_segment r.root (by simp) hnames
  rw [String.intercalate_singleton] at hjoin
  exact hjoin

theorem text_directoryOf_ne (r : Repository) (c : Category) : (r.directoryOf c).text ≠ "" := by
  intro hempty
  have hblank : r.directoryOf c = ⟨""⟩ := congrArg Path.mk hempty
  have hnil : (Path.mk "").components = [] := by decide
  have hcomponents := components_directoryOf r c
  rw [hblank, hnil] at hcomponents
  exact absurd hcomponents.symm (by simp)

theorem isBuiltin_of_builtinText? {key : TemplateKey} {text : String}
    (h : key.builtinText? = some text) : key.isBuiltin = true := by
  obtain ⟨c, name⟩ := key
  unfold TemplateKey.builtinText? at h
  dsimp only at h
  split at h
  case h_14 => exact absurd h nofun
  all_goals decide

theorem isSegment_of_isBuiltin {key : TemplateKey} (h : key.isBuiltin = true) :
    IsSegment key.name := by
  have hlisted : ∀ c : Category, ∀ t ∈ c.builtins, IsSegment t.name := by
    intro c
    cases c <;> decide
  obtain ⟨t, ht⟩ := Option.isSome_iff_exists.mp h
  have hname : t.name = key.name := by simpa using List.find?_some ht
  exact hname ▸ hlisted key.category t (List.mem_of_find?_eq_some ht)

theorem descends_of_isBuiltin {key : TemplateKey} (h : key.isBuiltin = true) :
    Descends key.name := by
  have hnames : ∀ name ∈ [key.name], IsSegment name := by
    simpa using isSegment_of_isBuiltin h
  have hcomponents := (components_intercalate (List.cons_ne_nil _ _) hnames).2
  rw [String.intercalate_singleton] at hcomponents
  intro c hc
  rw [hcomponents] at hc
  obtain rfl := List.mem_singleton.mp hc
  exact ⟨nofun, nofun⟩

/-- The custom template of a name that descends lies below the root. -/
theorem components_pathOf (r : Repository) {key : TemplateKey} (h : Descends key.name) :
    ∃ names : List String, (r.pathOf key).components = r.root.components ++ names.map .name := by
  have hrelative : (Path.mk key.name).isAbsolute = false := by
    cases habs : (Path.mk key.name).isAbsolute with
    | false => rfl
    | true =>
        have hroot : Component.root ∈ (Path.mk key.name).components := by
          simp [components, habs]
        exact absurd rfl (h _ hroot).1
  have hdirectory := r.text_directoryOf_ne key.category
  obtain ⟨names, hnames⟩ : ∃ names : List String,
      (Path.mk key.name).segments.filterMap componentOf = names.map .name := by
    refine names_of_no_parent fun hparent => ?_
    have hmem : Component.parent ∈ (Path.mk key.name).components := by
      rw [components_eq, componentsOf]
      exact List.mem_append_right _ hparent
    exact (h _ hmem).2 rfl
  refine ⟨key.category.name :: names, ?_⟩
  unfold pathOf
  rw [components_join hrelative fun hempty => absurd hempty hdirectory, components_directoryOf,
    hnames, List.append_assoc, List.singleton_append, List.map_cons]

end Repository

end Scaffold
