import Scaffold.Proofs.Catalog.Overlay

/-!
# Maintenance refines changes to a map

Every task of maintenance, and every file that an author writes or removes,
changes the map of the custom texts as it says: the disk afterwards represents
the changed map and the answers are those of the map. So do all sequences of
tasks, and what a key stands for can be read off the map at any point.
-/

namespace Scaffold

open Scaffold.Action Scaffold.Path

/-! ## Changes to a map -/

namespace Overlay

/-- Gives their builtin texts to those of the keys that have no text. -/
def fill (m : Overlay) (keys : List TemplateKey) : Overlay := fun key =>
  match m key with
  | some text => some text
  | none => if key ∈ keys then key.builtinText? else none

/-- Gives their builtin texts to all of the keys. -/
def restore (m : Overlay) (keys : List TemplateKey) : Overlay := fun key =>
  if key ∈ keys then key.builtinText? else m key

/-- Drops the texts of some categories. -/
def drop (m : Overlay) (cs : List Category) : Overlay := fun key =>
  if key.category ∈ cs then none else m key

/-- Gives its builtin text to a key, and whether that is a change. -/
def revert (m : Overlay) (key : TemplateKey) : Except Error Bool × Overlay :=
  match key.builtinText? with
  | none => (.error (Repository.unknown key), m)
  | some text => if m key = some text then (.ok false, m) else (.ok true, m.set key (some text))

/-- The distinct keys among some that have no text. -/
def missing (m : Overlay) (keys : List TemplateKey) : List TemplateKey :=
  (keys.filter fun key => (m key).isNone).eraseDups

/-- The builtin keys of a category or of all, with the origins of their texts. -/
def listing (m : Overlay) (r : Repository) (category : Option Category) : List TemplateListing :=
  (Repository.keysOf category).map fun key =>
    ⟨key, if (m key).isSome then .custom else .builtin, r.pathOf key⟩

variable {m : Overlay} {key : TemplateKey} {keys : List TemplateKey}

theorem set_self (m : Overlay) (key : TemplateKey) (text : Option String) :
    m.set key text key = text := if_pos rfl

theorem set_of_ne {other : TemplateKey} (h : other ≠ key) (text : Option String) :
    m.set key text other = m other := if_neg h

theorem fill_nil (m : Overlay) : m.fill [] = m := by
  funext key
  unfold fill
  cases m key <;> rfl

theorem fill_of_some {text : String} (h : m key = some text) : m.fill (key :: keys) = m.fill keys := by
  funext other
  unfold fill
  by_cases hother : other = key
  · rw [hother, h]
  · simp [hother]

/-- Filling can begin with any key that has no text. -/
theorem fill_of_none (h : m key = none) (hkey : key.builtinText?.isSome = true) :
    m.fill (key :: keys) = (m.set key key.builtinText?).fill keys := by
  obtain ⟨text, htext⟩ := Option.isSome_iff_exists.mp hkey
  funext other
  unfold fill
  by_cases hother : other = key
  · rw [hother, set_self, h, htext]
    simp
  · rw [set_of_ne hother]
    simp [hother]

theorem missing_of_some {text : String} (h : m key = some text) :
    m.missing (key :: keys) = m.missing keys := by
  unfold missing
  rw [List.filter_cons_of_neg (by simp [h])]

theorem missing_of_none (h : m key = none) (hkey : key.builtinText?.isSome = true) :
    m.missing (key :: keys) = key :: (m.set key key.builtinText?).missing keys := by
  obtain ⟨text, htext⟩ := Option.isSome_iff_exists.mp hkey
  unfold missing
  rw [List.filter_cons_of_pos (by simp [h]), List.eraseDups_cons, List.filter_filter]
  congr 2
  refine List.filter_congr fun other _ => ?_
  by_cases hother : other = key
  · rw [hother, set_self, htext]
    simp
  · rw [set_of_ne hother]
    simp [hother]

theorem restore_nil (m : Overlay) : m.restore [] = m := by
  funext key
  exact if_neg List.not_mem_nil

theorem restore_cons (m : Overlay) (key : TemplateKey) (keys : List TemplateKey) :
    m.restore (key :: keys) = (m.set key key.builtinText?).restore keys := by
  funext other
  unfold restore
  by_cases hother : other = key
  · rw [hother, set_self]
    simp
  · rw [set_of_ne hother]
    simp [hother]

theorem drop_nil (m : Overlay) : m.drop [] = m := by
  funext key
  exact if_neg List.not_mem_nil

theorem drop_cons (m : Overlay) (c : Category) (cs : List Category) :
    m.drop (c :: cs) = (m.drop [c]).drop cs := by
  funext key
  unfold drop
  by_cases hc : key.category = c
  · simp [hc]
  · simp [hc]

end Overlay

/-- What can be done to the custom templates: the tasks of maintenance, and what
authors do to single files. -/
inductive Task where
  | init (categories : List Category)
  | clean (category : Option Category)
  | update (c : Category)
  | revert (key : TemplateKey)
  | write (key : TemplateKey) (text : String)
  | remove (key : TemplateKey)

inductive Answer where
  | done
  | count (n : Nat)
  | changed (changed : Bool)
  deriving DecidableEq

namespace Task

/-- The task on a map. -/
def apply : Task → Overlay → Except Error Answer × Overlay
  | .init categories, m =>
    (.ok (.count (m.missing (categories.flatMap Category.keys)).length),
      m.fill (categories.flatMap Category.keys))
  | .clean category, m => (.ok .done, m.drop (category.elim Category.all ([·])))
  | .update c, m => (.ok (.count c.keys.length), m.restore c.keys)
  | .revert key, m => ((m.revert key).1.map .changed, (m.revert key).2)
  | .write key text, m => (.ok .done, m.set key (some text))
  | .remove key, m => (.ok .done, m.set key none)

/-- The tasks one after the other, each with its answer. -/
def applyAll : List Task → Overlay → List (Except Error Answer) × Overlay
  | [], m => ([], m)
  | task :: tasks, m =>
    let (answer, next) := task.apply m
    let (answers, last) := applyAll tasks next
    (answer :: answers, last)

theorem applyAll_singleton (task : Task) (m : Overlay) :
    applyAll [task] m = ([(task.apply m).1], (task.apply m).2) := rfl

end Task

namespace Repository

/-- Removes the file of a key if there is one. -/
def discard (r : Repository) (key : TemplateKey) : Action Unit := fun d =>
  (.ok (), if d.isFile (r.pathOf key) then d.removeTree (d.placeOf (r.pathOf key)) else d)

/-- The task on a disk. -/
def perform (r : Repository) : Task → Action Answer
  | .init categories => return .count (← r.init categories)
  | .clean category => do
    r.clean category
    return .done
  | .update c => return .count (← r.update c)
  | .revert key => return .changed (← r.revert key)
  | .write key text => do
    r.write key text
    return .done
  | .remove key => do
    r.discard key
    return .done

/-- The tasks one after the other, each with its answer. A task that fails does
not keep the next one from being tried. -/
def performAll (r : Repository) : List Task → Disk → List (Except Error Answer) × Disk
  | [], d => ([], d)
  | task :: tasks, d =>
    let (answer, next) := (r.perform task).runOn d
    let (answers, last) := r.performAll tasks next
    (answer :: answers, last)

theorem performAll_singleton (r : Repository) (task : Task) (d : Disk) :
    r.performAll [task] d = ([((r.perform task).runOn d).1], ((r.perform task).runOn d).2) := rfl

variable {r : Repository} {d : Disk} {m : Overlay} {key : TemplateKey}

/-- A repository whose path leaves room for all builtin keys. -/
def Roomy (r : Repository) : Prop := ∀ c : Category, ∀ key ∈ c.keys, r.Usable key

instance (r : Repository) : Decidable r.Roomy :=
  decidable_of_iff (∀ c ∈ Category.all, ∀ key ∈ c.keys, r.Usable key)
    ⟨fun h c => h c c.mem_all, fun h c _ => h c⟩

theorem Roomy.of_mem_keys (hr : r.Roomy) (c : Category) :
    ∀ key ∈ c.keys, r.Usable key ∧ key.builtinText?.isSome = true :=
  fun key hkey => ⟨hr c key hkey, TemplateKey.builtinText?_isSome_of_mem_keys c key hkey⟩

/-! ## Filling and restoring -/

theorem Represents.writeBuiltin (h : r.Represents d m) (hkey : r.Usable key)
    (hbuiltin : key.builtinText?.isSome = true) :
    ∃ e, (r.writeBuiltin key).runOn d = (.ok (), e) ∧
      r.Represents e (m.set key key.builtinText?) ∧ r.Elsewhere d e := by
  obtain ⟨text, htext⟩ := Option.isSome_iff_exists.mp hbuiltin
  unfold Repository.writeBuiltin
  rw [htext]
  exact h.write hkey text

theorem Represents.initKeys {keys : List TemplateKey} (h : r.Represents d m)
    (hkeys : ∀ key ∈ keys, r.Usable key ∧ key.builtinText?.isSome = true) :
    ∃ e, (r.initKeys keys).runOn d = (.ok (m.missing keys).length, e) ∧
      r.Represents e (m.fill keys) ∧ r.Elsewhere d e := by
  induction keys generalizing d m with
  | nil =>
      rw [m.fill_nil]
      exact ⟨d, rfl, h, Elsewhere.refl r d⟩
  | cons key keys ih =>
      obtain ⟨hkey, hbuiltin⟩ := hkeys key List.mem_cons_self
      have hrest := fun k hk => hkeys k (List.mem_cons_of_mem _ hk)
      unfold Repository.initKeys isCustom
      rw [runOn_bind_of_ok (runOn_ask _ d), h.isFile_pathOf hkey]
      cases htext : m key with
      | some text =>
          rw [Overlay.fill_of_some htext, Overlay.missing_of_some htext]
          exact ih h hrest
      | none =>
          obtain ⟨e, hwrite, hnext, helse⟩ := h.writeBuiltin hkey hbuiltin
          obtain ⟨f, hinit, hlast, helse'⟩ := ih hnext hrest
          rw [Overlay.fill_of_none htext hbuiltin, Overlay.missing_of_none htext hbuiltin]
          refine ⟨f, ?_, hlast, helse.trans helse'⟩
          change (r.writeBuiltin key >>= fun _ => r.initKeys keys >>= fun n => pure (n + 1)).runOn d = _
          rw [runOn_bind_of_ok hwrite, runOn_bind_of_ok hinit]
          rfl

theorem Represents.updateKeys {keys : List TemplateKey} (h : r.Represents d m)
    (hkeys : ∀ key ∈ keys, r.Usable key ∧ key.builtinText?.isSome = true) :
    ∃ e, (r.updateKeys keys).runOn d = (.ok keys.length, e) ∧
      r.Represents e (m.restore keys) ∧ r.Elsewhere d e := by
  induction keys generalizing d m with
  | nil =>
      rw [m.restore_nil]
      exact ⟨d, rfl, h, Elsewhere.refl r d⟩
  | cons key keys ih =>
      obtain ⟨hkey, hbuiltin⟩ := hkeys key List.mem_cons_self
      obtain ⟨e, hwrite, hnext, helse⟩ := h.writeBuiltin hkey hbuiltin
      obtain ⟨f, hupdate, hlast, helse'⟩ := ih hnext fun k hk => hkeys k (List.mem_cons_of_mem _ hk)
      rw [m.restore_cons]
      refine ⟨f, ?_, hlast, helse.trans helse'⟩
      unfold Repository.updateKeys
      rw [runOn_bind_of_ok hwrite, runOn_bind_of_ok hupdate]
      rfl

/-! ## Cleaning -/

/-- The directory of a category is not too long either. -/
theorem Roomy.directoryOf (hr : r.Roomy) (c : Category) :
    Disk.refusal? (r.directoryOf c) = none ∧ Disk.Fits (r.directoryOf c) := by
  obtain ⟨key, hkey⟩ : ∃ key, key ∈ c.keys := by
    cases c <;> exact ⟨_, List.mem_cons_self⟩
  have hcategory : key.category = c := by
    obtain ⟨t, -, rfl⟩ := List.mem_map.mp hkey
    rfl
  have husable := hr c key hkey
  have hsegment := segment_singleton husable.segment
  constructor
  · refine Disk.refusal?_of_starts husable.allowed (r.text_directoryOf_ne c) ?_
    rw [pathOf_eq_join, hcategory]
    exact text_join_of_relative _ (isAbsolute_intercalate (List.cons_ne_nil _ _) hsegment)
  · intro name hname
    refine husable.fits name ?_
    rw [components_pathOf_of_segment husable.segment, hcategory]
    exact List.mem_append_left _ hname

/-- Without the directory of a category there are no texts in it to drop. -/
theorem Represents.drop_of_missing (h : r.Represents d m) {c : Category}
    (hfind : d.find? (r.categoryPlace d c) = none) : m.drop [c] = m := by
  funext key
  unfold Overlay.drop
  split
  · next hkey =>
    have hnone : d.find? (r.place d key) = none := by
      rw [Option.eq_none_iff_forall_not_mem]
      intro entry hentry
      have hdir := h.wellFormed.parent _ _ _ hentry
      rw [List.mem_singleton.mp hkey, hfind] at hdir
      exact absurd hdir nofun
    rw [h.texts] at hnone
    exact (Option.map_eq_none_iff.mp hnone).symm
  · rfl

theorem Represents.look_directoryOf (h : r.Represents d m) (hr : r.Roomy) {c : Category}
    {entry : Entry} (hfind : d.find? (r.categoryPlace d c) = some entry) :
    d.look (r.directoryOf c) = .ok (r.categoryPlace d c, entry) := by
  obtain ⟨hrefusal, hfits⟩ := hr.directoryOf c
  rw [← placeOf_directoryOf] at hfind ⊢
  exact Disk.look_of_find? h.wellFormed (trimmed_directoryOf c) hrefusal hfits
    (settled_directoryOf h.settled c) hfind

theorem Represents.cleanOne (h : r.Represents d m) (hr : r.Roomy) (c : Category) :
    ∃ e, (r.cleanOne c).runOn d = (.ok (), e) ∧
      r.Represents e (m.drop [c]) ∧ r.Elsewhere d e := by
  unfold Repository.cleanOne
  rw [runOn_bind_of_ok (runOn_ask _ d)]
  cases hfind : d.find? (r.categoryPlace d c) with
  | none =>
      have hmissing : d.pathExists (r.directoryOf c) = false := by
        refine Disk.pathExists_of_missing ?_
        rw [placeOf_directoryOf, hfind]
      rw [hmissing, h.drop_of_missing hfind]
      exact ⟨d, rfl, h, Elsewhere.refl r d⟩
  | some entry =>
      cases entry with
      | file content => exact absurd hfind (h.categories c content)
      | directory =>
          have hlook := h.look_directoryOf hr hfind
          have hexists : d.pathExists (r.directoryOf c) = true :=
            Disk.pathExists_iff.mpr ⟨_, _, hlook⟩
          have hdrop : ∀ key, m.drop [c] key =
              if r.categoryPlace d c <+: r.place d key then none else m key := by
            intro key
            unfold Overlay.drop
            simp only [categoryPlace_prefix_place, List.mem_singleton]
          obtain ⟨hnext, helse⟩ := h.removeTree List.prefix_rfl hdrop
          refine ⟨_, ?_, hnext, helse⟩
          rw [hexists]
          change (Action.change (r.directoryOf c) (·.removeDirectory (r.directoryOf c))).runOn d = _
          unfold runOn Action.change Disk.removeDirectory
          dsimp only
          rw [hlook]

theorem Represents.cleanAll (h : r.Represents d m) (hr : r.Roomy) (cs : List Category) :
    ∃ e, (r.cleanAll cs).runOn d = (.ok (), e) ∧
      r.Represents e (m.drop cs) ∧ r.Elsewhere d e := by
  induction cs generalizing d m with
  | nil =>
      rw [m.drop_nil]
      exact ⟨d, rfl, h, Elsewhere.refl r d⟩
  | cons c cs ih =>
      obtain ⟨e, hone, hnext, helse⟩ := h.cleanOne hr c
      obtain ⟨f, hall, hlast, helse'⟩ := ih hnext
      rw [m.drop_cons]
      refine ⟨f, ?_, hlast, helse.trans helse'⟩
      unfold Repository.cleanAll
      rw [runOn_bind_of_ok hone]
      exact hall

/-! ## Single keys -/

theorem Represents.discard (h : r.Represents d m) (hkey : r.Usable key) :
    ∃ e, (r.discard key).runOn d = (.ok (), e) ∧
      r.Represents e (m.set key none) ∧ r.Elsewhere d e := by
  refine ⟨_, rfl, ?_⟩
  rw [h.isFile_pathOf hkey, placeOf_pathOf hkey.segment]
  cases htext : m key with
  | none =>
      have hset : m.set key none = m := by
        funext other
        unfold Overlay.set
        split
        · next hother => rw [hother, htext]
        · rfl
      rw [hset]
      exact ⟨h, Elsewhere.refl r d⟩
  | some text =>
      have hset : ∀ other, m.set key none other =
          if r.place d key <+: r.place d other then none else m other := by
        intro other
        unfold Overlay.set
        simp only [place_prefix_place]
      exact h.removeTree (categoryPlace_prefix_place.mpr rfl) hset

/-- Only listed keys have builtin texts. -/
theorem mem_keys_of_builtinText? {text : String} (h : key.builtinText? = some text) :
    key ∈ key.category.keys := by
  obtain ⟨c, name⟩ := key
  unfold TemplateKey.builtinText? at h
  dsimp only at h ⊢
  split at h
  case h_14 => exact absurd h nofun
  all_goals decide

theorem Represents.revert (h : r.Represents d m) (hr : r.Roomy) (key : TemplateKey) :
    ∃ e, (r.revert key).runOn d = ((m.revert key).1, e) ∧
      r.Represents e (m.revert key).2 ∧ r.Elsewhere d e := by
  unfold Repository.revert Overlay.revert
  cases htext : key.builtinText? with
  | none => exact ⟨d, rfl, h, Elsewhere.refl r d⟩
  | some text =>
      have hkey := hr _ key (mem_keys_of_builtinText? htext)
      dsimp only
      rw [runOn_bind_of_ok (h.runOn_customText? hkey)]
      by_cases hmatches : m key = some text
      · rw [if_pos hmatches, if_pos (beq_iff_eq.mpr hmatches)]
        exact ⟨d, rfl, h, Elsewhere.refl r d⟩
      · rw [if_neg hmatches, if_neg (mt beq_iff_eq.mp hmatches)]
        obtain ⟨e, hwrite, hnext, helse⟩ := h.write hkey text
        refine ⟨e, ?_, hnext, helse⟩
        rw [runOn_bind_of_ok hwrite]
        rfl

/-! ## Tasks -/

/-- A task whose file, if it is about a single one, can be there. -/
def Allows (r : Repository) : Task → Prop
  | .write key _ => r.Usable key
  | .remove key => r.Usable key
  | _ => True

/-- One task on a disk does what it does on the map that the disk represents. -/
theorem Represents.perform (h : r.Represents d m) (hr : r.Roomy) {task : Task}
    (htask : r.Allows task) :
    ∃ e, (r.perform task).runOn d = ((task.apply m).1, e) ∧
      r.Represents e (task.apply m).2 ∧ r.Elsewhere d e := by
  cases task with
  | init categories =>
      have hkeys : ∀ key ∈ categories.flatMap Category.keys,
          r.Usable key ∧ key.builtinText?.isSome = true := by
        intro key hkey
        obtain ⟨c, -, hkey⟩ := List.mem_flatMap.mp hkey
        exact hr.of_mem_keys c key hkey
      obtain ⟨e, hrun, hnext, helse⟩ := h.initKeys hkeys
      exact ⟨e, (runOn_bind_pure _ _ d).trans (by rw [Repository.init, hrun]; rfl), hnext, helse⟩
  | clean category =>
      obtain ⟨e, hrun, hnext, helse⟩ := h.cleanAll hr (category.elim Category.all ([·]))
      exact ⟨e, (runOn_bind_pure _ _ d).trans (by rw [Repository.clean, hrun]; rfl), hnext, helse⟩
  | update c =>
      obtain ⟨e, hrun, hnext, helse⟩ := h.updateKeys (hr.of_mem_keys c)
      exact ⟨e, (runOn_bind_pure _ _ d).trans (by rw [Repository.update, hrun]; rfl), hnext, helse⟩
  | revert key =>
      obtain ⟨e, hrun, hnext, helse⟩ := h.revert hr key
      exact ⟨e, (runOn_bind_pure _ _ d).trans (by rw [hrun]; rfl), hnext, helse⟩
  | write key text =>
      obtain ⟨e, hrun, hnext, helse⟩ := h.write htask text
      exact ⟨e, (runOn_bind_pure _ _ d).trans (by rw [hrun]; rfl), hnext, helse⟩
  | remove key =>
      obtain ⟨e, hrun, hnext, helse⟩ := h.discard htask
      exact ⟨e, (runOn_bind_pure _ _ d).trans (by rw [hrun]; rfl), hnext, helse⟩

theorem Represents.performAll (h : r.Represents d m) (hr : r.Roomy) {tasks : List Task}
    (htasks : ∀ task ∈ tasks, r.Allows task) :
    ∃ e, r.performAll tasks d = ((Task.applyAll tasks m).1, e) ∧
      r.Represents e (Task.applyAll tasks m).2 ∧ r.Elsewhere d e := by
  induction tasks generalizing d m with
  | nil => exact ⟨d, rfl, h, Elsewhere.refl r d⟩
  | cons task tasks ih =>
      obtain ⟨e, hrun, hnext, helse⟩ := h.perform hr (htasks task List.mem_cons_self)
      obtain ⟨f, hall, hlast, helse'⟩ := ih hnext fun t ht => htasks t (List.mem_cons_of_mem _ ht)
      refine ⟨f, ?_, hlast, helse.trans helse'⟩
      unfold Repository.performAll Task.applyAll
      rw [hrun]
      dsimp only
      rw [hall]

/-! ## Lookups at any point -/

theorem Represents.runOn_list (h : r.Represents d m) (hr : r.Roomy) (category : Option Category) :
    (r.list category).runOn d = (.ok (m.listing r category), d) := by
  have hkeys : ∀ key ∈ keysOf category, r.Usable key := by
    intro key hkey
    obtain ⟨c, -, hkey⟩ := List.mem_flatMap.mp hkey
    exact hr c key hkey
  have hlist : (keysOf category).map (fun key => (⟨key, r.originOf d key, r.pathOf key⟩ :
      TemplateListing)) = m.listing r category := by
    refine List.map_congr_left fun key hkey => ?_
    unfold originOf
    rw [h.isFile_pathOf (hkeys key hkey)]
  unfold list
  rw [runOn_ask, hlist]

/-- Whatever sequence of tasks is done on a disk that represents a map, the
answers are those of the tasks on the map and the disk represents the map that
they lead to: keys stand for what the map says and are listed with the origins
that it gives them. Outside the directories of the categories nothing changes,
but for new directories on the way to them. The path of the repository has to
leave room for the builtin keys. -/
theorem maintenance_refines_map (h : r.Represents d m) (hr : r.Roomy) {tasks : List Task}
    (htasks : ∀ task ∈ tasks, r.Allows task) :
    ∃ e, r.performAll tasks d = ((Task.applyAll tasks m).1, e) ∧
      r.Represents e (Task.applyAll tasks m).2 ∧ r.Elsewhere d e ∧
      (∀ key, r.Usable key → (r.load key).runOn e = ((Task.applyAll tasks m).2.record key, e)) ∧
      ∀ category,
        (r.list category).runOn e = (.ok ((Task.applyAll tasks m).2.listing r category), e) := by
  obtain ⟨e, hrun, hlast, helse⟩ := h.performAll hr htasks
  exact ⟨e, hrun, hlast, helse, fun key hkey => hlast.runOn_load hkey, hlast.runOn_list hr⟩

/-- On an empty disk there is nothing but the root. -/
theorem find?_empty {l : Location} (hl : l ≠ []) : Disk.find? {} l = none := if_neg hl

/-- An empty disk holds no custom templates. -/
theorem represents_empty (h : Disk.Settled {} r.root) : r.Represents {} fun _ => none := by
  have hformed : Disk.WellFormed {} :=
    Disk.wellFormed_of_entries (by decide) (by decide)
  have hne : ∀ c : Category, r.categoryPlace {} c ≠ [] := fun c =>
    List.append_ne_nil_of_right_ne_nil _ (List.cons_ne_nil _ _)
  refine ⟨hformed, h, fun l _ content => ?_, fun l hl c hc => ?_, fun c content => ?_, fun key => ?_⟩
  · by_cases hl : l = []
    · rw [hl, Disk.find?_nil]
      exact nofun
    · rw [find?_empty hl]
      exact nofun
  · have hne' : l ≠ [] := by
      rintro rfl
      exact hne c (List.prefix_nil.mp hc)
    -- where nothing lies the way leads down, so never into a category
    have habove : l <+: Disk.placeOf {} r.root := by
      obtain ⟨cs, ⟨rest, hrest⟩, rfl⟩ := hl
      exact Disk.prefix_placeOf_of_missing hformed h hrest.symm (find?_empty hne')
    have hlength := (hc.trans habove).length_le
    rw [categoryPlace, List.length_append, List.length_singleton] at hlength
    omega
  · rw [find?_empty (hne c)]
    exact nofun
  · exact find?_empty (List.append_ne_nil_of_right_ne_nil _ (List.cons_ne_nil _ _))

/-- A directory of custom templates is filled, added to and cleaned. -/
def fillAddClean : List Task :=
  [.init [.mongo], .write ⟨.mongo, "extra.tpl"⟩ "mine", .clean none]

theorem maintenance_refines_empty_map :
    ∃ e, performAll ⟨⟨"/home"⟩⟩ fillAddClean {} =
        ((Task.applyAll fillAddClean fun _ => none).1, e) ∧
      Represents ⟨⟨"/home"⟩⟩ e (Task.applyAll fillAddClean fun _ => none).2 ∧
      Elsewhere ⟨⟨"/home"⟩⟩ {} e ∧
      (∀ key, Usable ⟨⟨"/home"⟩⟩ key → (load ⟨⟨"/home"⟩⟩ key).runOn e =
        ((Task.applyAll fillAddClean fun _ => none).2.record key, e)) ∧
      ∀ category, (list ⟨⟨"/home"⟩⟩ category).runOn e =
        (.ok ((Task.applyAll fillAddClean fun _ => none).2.listing ⟨⟨"/home"⟩⟩ category), e) := by
  have hroomy : Roomy ⟨⟨"/home"⟩⟩ := by decide
  have husable : Usable ⟨⟨"/home"⟩⟩ ⟨.mongo, "extra.tpl"⟩ := by decide
  have hempty : Represents ⟨⟨"/home"⟩⟩ {} fun _ => none := represents_empty (by decide)
  refine maintenance_refines_map hempty hroomy fun task htask => ?_
  rcases List.mem_cons.mp htask with rfl | htask
  · trivial
  rcases List.mem_cons.mp htask with rfl | htask
  · exact husable
  · obtain rfl := List.mem_singleton.mp htask
    trivial

/-- A category that is updated leaves room for its keys. -/
theorem fits_of_updateKeys {keys : List TemplateKey} {d e : Disk} {n : Nat}
    (h : (r.updateKeys keys).runOn d = (.ok n, e)) :
    ∀ key ∈ keys, Disk.Fits (r.pathOf key) := by
  induction keys generalizing d e n with
  | nil => exact fun key hkey => absurd hkey List.not_mem_nil
  | cons key keys ih =>
      obtain ⟨_, next, hwrite, hrest⟩ := bind_eq_ok h
      obtain ⟨_, last, hkeys, -⟩ := bind_eq_ok hrest
      intro other hother
      rcases List.mem_cons.mp hother with rfl | hother
      · unfold Repository.writeBuiltin at hwrite
        cases htext : other.builtinText? with
        | some text =>
            rw [htext] at hwrite
            exact fits_of_writeFile hwrite
        | none =>
            rw [htext] at hwrite
            exact absurd (Prod.mk.inj hwrite).1 nofun
      · exact ih hkeys other hother

/-- A name that no directory can have. -/
def overlong : String := String.ofList (List.replicate 256 'a')

theorem isSegment_overlong : IsSegment overlong := by
  have hchars : overlong.toList = List.replicate 256 'a' := String.toList_ofList
  have hother : ∀ s : String, s.toList ≠ List.replicate 256 'a' → overlong ≠ s := by
    rintro s hs rfl
    exact hs hchars
  refine ⟨hother _ (by decide), hother _ (by decide), hother _ (by decide), ?_⟩
  rw [hchars, List.mem_replicate]
  decide

theorem components_root_overlong :
    (root ⟨⟨overlong⟩⟩).components = [.name overlong, .name Version.tool] := by
  have hhome := (components_intercalate (List.cons_ne_nil _ _)
    (segment_singleton isSegment_overlong)).2
  have htool := segment_singleton (by decide : IsSegment Version.tool)
  have hjoin := components_join_segment ⟨overlong⟩ (List.cons_ne_nil _ _) htool
  rw [String.intercalate_singleton] at hhome hjoin
  unfold root
  rw [hjoin, hhome]
  rfl

theorem not_fits_overlong (h : IsSegment key.name) : ¬ Disk.Fits (pathOf ⟨⟨overlong⟩⟩ key) := by
  intro hfits
  have hsize : Disk.nameLimit < overlong.utf8ByteSize := by decide +kernel
  have hmem : .name overlong ∈ (pathOf ⟨⟨overlong⟩⟩ key).components := by
    rw [components_pathOf_of_segment h, components_directoryOf, components_root_overlong]
    simp
  exact absurd (hfits overlong hmem) (Nat.not_le_of_lt hsize)

/-- A repository whose path leads through one of its own categories. -/
def inward : Repository := ⟨⟨"/h/1.2.0/api/../.."⟩⟩

/-- A disk with a custom template of one category and the directory of another. -/
def adapted : Disk where
  entries := [(["h"], .directory), (["h", "1.2.0"], .directory),
    (["h", "1.2.0", "api"], .directory), (["h", "1.2.0", "mongo"], .directory),
    (["h", "1.2.0", "mongo", "error.tpl"], .file "mine".toUTF8)]

/-- The custom template that is on the disk. -/
def errorsOnly : Overlay := Overlay.set (fun _ => none) ⟨.mongo, "error.tpl"⟩ (some "mine")

theorem texts_adapted (key : TemplateKey) :
    adapted.find? (inward.place adapted key) =
      (errorsOnly key).map fun text => .file text.toUTF8 := by
  obtain ⟨c, name⟩ := key
  have hroot : adapted.placeOf inward.root = ["h", "1.2.0"] := by decide
  have hplace : inward.place adapted ⟨c, name⟩ = ["h", "1.2.0", c.name, name] := by
    unfold place categoryPlace
    rw [hroot]
    rfl
  unfold errorsOnly Overlay.set
  rw [hplace]
  by_cases hname : name = "error.tpl"
  · subst hname
    cases c <;> decide
  · rw [if_neg (by simp [hname])]
    have hlast : (name == "error.tpl") = false := beq_false_of_ne hname
    simp [Disk.find?, adapted, List.lookup_cons, hlast]

/-- What lies along a path, one component after the other. -/
theorem take_of_along {p : Path} {l : Location} (h : d.Along p l) :
    ∃ n ≤ p.components.length, l = Disk.follow d.workingDirectory (p.components.take n) := by
  obtain ⟨cs, hcs, rfl⟩ := h
  exact ⟨cs.length, hcs.length_le, by rw [← List.prefix_iff_eq_take.mp hcs]⟩

theorem noFile_adapted {l : Location} (hl : adapted.Along inward.root l) (content : ByteArray) :
    adapted.find? l ≠ some (.file content) := by
  have hcheck : ∀ n ≤ inward.root.components.length, (adapted.find?
      (Disk.follow adapted.workingDirectory (inward.root.components.take n))).all
        (· = .directory) := by decide
  intro hfind
  obtain ⟨n, hn, rfl⟩ := take_of_along hl
  have hdir := hcheck n hn
  rw [hfind] at hdir
  exact absurd hdir (by simp)

theorem categories_adapted (c : Category) (content : ByteArray) :
    adapted.find? (inward.categoryPlace adapted c) ≠ some (.file content) := by
  have hcheck : ∀ c ∈ Category.all,
      (adapted.find? (inward.categoryPlace adapted c)).all (· = .directory) := by decide +kernel
  intro hfind
  have hdir := hcheck c c.mem_all
  rw [hfind] at hdir
  exact absurd hdir (by simp)

/-- Neither condition on the path of the repository can be left out. Where it is
too long nothing can be filled in; where it leads through a category, cleaning
that one makes the custom templates of the others unreachable. -/
theorem maintenance_departs_from_map :
    (¬ ∀ (r : Repository) (d : Disk) (m : Overlay) (tasks : List Task), r.Represents d m →
      (∀ task ∈ tasks, r.Allows task) →
        ∃ e, r.performAll tasks d = ((Task.applyAll tasks m).1, e)) ∧
    ¬ ∀ (r : Repository) (d : Disk) (m : Overlay) (tasks : List Task), d.WellFormed →
      d.Settled r.root → (∀ l, d.Along r.root l → ∀ content, d.find? l ≠ some (.file content)) →
      (∀ c content, d.find? (r.categoryPlace d c) ≠ some (.file content)) →
      (∀ key, d.find? (r.place d key) = (m key).map fun text => .file text.toUTF8) →
      r.Roomy → (∀ task ∈ tasks, r.Allows task) →
        ∃ e, r.performAll tasks d = ((Task.applyAll tasks m).1, e) ∧
          ∀ key, r.Usable key → (r.load key).runOn e = ((Task.applyAll tasks m).2.record key, e) := by
  constructor
  · intro h
    have hempty : Represents ⟨⟨overlong⟩⟩ {} fun _ => none :=
      represents_empty (Disk.settled_of_no_parent (by simp [components_root_overlong]))
    obtain ⟨e, hrun⟩ := h ⟨⟨overlong⟩⟩ {} _ [.update .mongo] hempty fun task htask => by
      obtain rfl := List.mem_singleton.mp htask
      trivial
    rw [performAll_singleton, Task.applyAll_singleton] at hrun
    have hanswer := List.singleton_inj.mp (Prod.mk.inj hrun).1
    rcases hupdate : (perform ⟨⟨overlong⟩⟩ (.update .mongo)).runOn {} with ⟨answer, last⟩
    rw [hupdate] at hanswer
    obtain rfl : answer = .ok (.count Category.mongo.keys.length) := hanswer
    obtain ⟨n, next, hkeys, -⟩ := bind_eq_ok hupdate
    have hfits := fits_of_updateKeys hkeys ⟨.mongo, "error.tpl"⟩ (by decide)
    exact not_fits_overlong (by decide +kernel) hfits
  · intro h
    have hformed : adapted.WellFormed :=
      Disk.wellFormed_of_entries (by decide +kernel) (by decide +kernel)
    obtain ⟨e, hrun, hload⟩ := h inward adapted errorsOnly [.clean (some .api)] hformed
      (by decide) (fun _ hl content => noFile_adapted hl content) categories_adapted
      texts_adapted (by decide +kernel) fun task htask => by
        obtain rfl := List.mem_singleton.mp htask
        trivial
    have hlost : (((inward.load ⟨.mongo, "error.tpl"⟩).runOn
        (inward.performAll [.clean (some .api)] adapted).2).1.map TemplateRecord.origin).toOption ≠
          some .custom := by decide +kernel
    rw [hrun, hload _ (by decide)] at hlost
    exact hlost rfl

end Repository

end Scaffold
