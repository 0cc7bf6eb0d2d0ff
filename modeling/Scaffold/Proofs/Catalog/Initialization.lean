import Scaffold.Proofs.Catalog.Overlay

/-!
# What initialising adds

Initialising writes builtin texts where nothing lies and makes directories on the
way to them, and nothing else, however far it gets. So every key goes on to stand
for the text that it stood for: where a file appeared it holds the builtin text
that the key had before. All this asks that the steps up in the path of the home
leave directories that are there; otherwise a file that no path led to can be
taken for a missing one.
-/

namespace Scaffold

open Scaffold.Action Scaffold.Path

namespace Repository

variable {r : Repository} {d e : Disk} {key : TemplateKey} {text : String}

/-- A disk on which some builtin texts were added, with directories above them,
where nothing was. -/
structure Extended (r : Repository) (d e : Disk) : Prop where
  workingDirectory : e.workingDirectory = d.workingDirectory
  entries : ∀ l, e.find? l = d.find? l ∨
    d.find? l = none ∧ ∃ key text, key.builtinText? = some text ∧
      (l = r.place d key ∧ e.find? l = some (.file text.toUTF8) ∨
        d.Above (r.pathOf key) l ∧ e.find? l = some .directory)

namespace Extended

theorem refl (r : Repository) (d : Disk) : r.Extended d d := ⟨rfl, fun _ => Or.inl rfl⟩

theorem find?_of_some (h : r.Extended d e) {l : Location} {entry : Entry}
    (hfind : d.find? l = some entry) : e.find? l = some entry := by
  rcases h.entries l with heq | ⟨hnone, -⟩
  · exact heq.trans hfind
  · rw [hfind] at hnone
    exact absurd hnone nofun

theorem trans {f : Disk} (h : r.Extended d e) (h' : r.Extended e f) : r.Extended d f := by
  refine ⟨h'.workingDirectory.trans h.workingDirectory, fun l => ?_⟩
  rcases h'.entries l with hf | ⟨hnone, key, text, hkey, hf⟩
  · rcases h.entries l with he | ⟨hnone, key, text, hkey, he⟩
    · exact Or.inl (hf.trans he)
    · exact Or.inr ⟨hnone, key, text, hkey, by rwa [hf]⟩
  · -- nothing was there at first either
    have hbefore : d.find? l = none := by
      cases hd : d.find? l with
      | none => rfl
      | some entry =>
          rw [h.find?_of_some hd] at hnone
          exact absurd hnone nofun
    refine Or.inr ⟨hbefore, key, text, hkey, ?_⟩
    rcases hf with ⟨hl, hfile⟩ | ⟨habove, hdirectory⟩
    · exact Or.inl ⟨hl.trans (place_congr h.workingDirectory key), hfile⟩
    · exact Or.inr ⟨Disk.above_congr h.workingDirectory habove, hdirectory⟩

/-- Files appear only at places of builtin keys, with the texts of these. -/
theorem frame (h : r.Extended d e) :
    d.Frame (fun l => d.find? l = none ∧ ∃ key text, key.builtinText? = some text ∧
        l = r.place d key ∧ e.find? l = some (.file text.toUTF8))
      (fun l => ∃ key, key.isBuiltin = true ∧ d.Above (r.pathOf key) l) e := by
  refine ⟨h.workingDirectory, fun l => ?_⟩
  rcases h.entries l with heq | ⟨hnone, key, text, hkey, ⟨hl, hfile⟩ | ⟨habove, hdirectory⟩⟩
  · exact Or.inl heq
  · refine Or.inr (Or.inl ⟨⟨hnone, key, text, hkey, hl, hfile⟩, ?_, _, hfile⟩)
    rw [hnone]
    exact nofun
  · exact Or.inr (Or.inr ⟨⟨key, isBuiltin_of_builtinText? hkey, habove⟩, hnone, hdirectory⟩)

/-- All that appears lies on the way down to the place of a builtin key. -/
theorem prefix_place (h : r.Extended d e) (hd : d.WellFormed) (hroot : d.Settled r.root)
    {l : Location} (hnone : d.find? l = none) (hsome : e.find? l ≠ none) :
    ∃ key : TemplateKey, l <+: r.place d key ∧
      ∀ content, e.find? l = some (.file content) → l = r.place d key := by
  rcases h.entries l with heq | ⟨-, key, text, hkey, ⟨rfl, -⟩ | ⟨habove, hdirectory⟩⟩
  · exact absurd (heq.trans hnone) hsome
  · exact ⟨key, List.prefix_rfl, fun _ _ => rfl⟩
  · have hname := isSegment_of_isBuiltin (isBuiltin_of_builtinText? hkey)
    refine ⟨key, ?_, fun content hfile => ?_⟩
    · rw [← placeOf_pathOf hname]
      exact Disk.prefix_placeOf_of_above hd (settled_pathOf hroot hname) habove hnone
    · rw [hdirectory] at hfile
      exact absurd hfile nofun

end Extended

/-! ## Writing missing texts -/

/-- A file that could be written where no file was before was written where nothing
was. -/
theorem find?_place_of_write (hd : d.WellFormed) (hroot : d.Settled r.root)
    (hname : IsSegment key.name) (hfile : d.isFile (r.pathOf key) = false)
    (hwrite : (r.write key text).runOn d = (.ok (), e)) : d.find? (r.place d key) = none := by
  have hframe := r.frame_write hname text d
  rw [hwrite] at hframe
  have hheld := find?_of_writeFile hwrite
  rw [placeOf_pathOf hname] at hheld
  cases hfind : d.find? (r.place d key) with
  | none => rfl
  | some entry =>
      cases entry with
      | directory =>
          rw [hframe.directory hfind] at hheld
          exact absurd hheld nofun
      | file content =>
          have hresolve :=
            (Disk.look_eq_ok_iff.mp (Disk.look_of_readBytes (readBytes_of_writeFile hwrite))).1
          rw [← placeOf_pathOf hname] at hfind
          have hlook := Disk.look_of_find? hd (trimmed_pathOf hname)
            (Disk.resolve_eq_ok_iff.mp hresolve).1 (fits_of_writeFile hwrite)
            (settled_pathOf hroot hname) hfind
          rw [Disk.isFile_iff.mpr ⟨_, _, hlook⟩] at hfile
          exact absurd hfile nofun

/-- Writing the builtin text of a key that has no file extends a disk, whether or not
it succeeds. -/
theorem extended_write (hd : d.WellFormed) (hroot : d.Settled r.root)
    (hkey : key.builtinText? = some text) (hfile : d.isFile (r.pathOf key) = false) :
    r.Extended d ((r.write key text).runOn d).2 := by
  have hname := isSegment_of_isBuiltin (isBuiltin_of_builtinText? hkey)
  rcases hwrite : (r.write key text).runOn d with ⟨result, e⟩
  cases result with
  | error err =>
      have hframe := frame_of_writeFile_eq_error hwrite
      refine ⟨hframe.workingDirectory, fun l => ?_⟩
      rcases hframe.entries l with heq | ⟨hfiles, -⟩ | ⟨habove, hnone, hdirectory⟩
      · exact Or.inl heq
      · exact hfiles.elim
      · exact Or.inr ⟨hnone, key, text, hkey, Or.inr ⟨habove, hdirectory⟩⟩
  | ok done =>
      have hframe := r.frame_write hname text d
      rw [hwrite] at hframe
      refine ⟨hframe.workingDirectory, fun l => ?_⟩
      rcases hframe.entries l with heq | ⟨rfl, -⟩ | ⟨habove, hnone, hdirectory⟩
      · exact Or.inl heq
      · have hheld := find?_of_writeFile hwrite
        rw [placeOf_pathOf hname] at hheld
        exact Or.inr ⟨find?_place_of_write hd hroot hname hfile hwrite, key, text, hkey,
          Or.inl ⟨rfl, hheld⟩⟩
      · exact Or.inr ⟨hnone, key, text, hkey, Or.inr ⟨habove, hdirectory⟩⟩

/-- What initialising leaves behind, whatever it answers. -/
structure Initialized (r : Repository) (d : Disk) (result : Except Error Nat) (e : Disk) : Prop where
  wellFormed : e.WellFormed
  extended : r.Extended d e
  error : ∀ err, result = .error err → ∃ path fault, err = .io path fault

/-- A key without a file is written before the rest. -/
theorem runOn_initKeys_of_missing (hfile : d.isFile (r.pathOf key) = false)
    (hkey : key.builtinText? = some text) (keys : List TemplateKey) :
    (r.initKeys (key :: keys)).runOn d =
      (r.write key text >>= fun _ => r.initKeys keys >>= fun n => pure (n + 1)).runOn d := by
  have hwrite : r.writeBuiltin key = r.write key text := by
    unfold writeBuiltin
    rw [hkey]
  rw [initKeys, isCustom, runOn_bind_of_ok (runOn_ask _ d), hfile, ← hwrite]
  rfl

/-- The induction is on the keys: one that has a file is passed over, and every other
one extends the disk before the rest of them does. -/
theorem initialized_initKeys {keys : List TemplateKey} (hd : d.WellFormed)
    (hroot : d.Settled r.root) (hkeys : ∀ key ∈ keys, key.builtinText?.isSome = true) :
    r.Initialized d ((r.initKeys keys).runOn d).1 ((r.initKeys keys).runOn d).2 := by
  induction keys generalizing d with
  | nil => exact ⟨hd, Extended.refl r d, fun err h => absurd h nofun⟩
  | cons key keys ih =>
      have hrest : ∀ k ∈ keys, k.builtinText?.isSome = true :=
        fun k hk => hkeys k (List.mem_cons_of_mem _ hk)
      cases hfile : d.isFile (r.pathOf key) with
      | true =>
          rw [initKeys, isCustom, runOn_bind_of_ok (runOn_ask _ d), hfile]
          exact ih hd hroot hrest
      | false =>
          obtain ⟨text, htext⟩ := Option.isSome_iff_exists.mp (hkeys key List.mem_cons_self)
          have hextended := extended_write hd hroot htext hfile
          have hformed := wellFormed_writeFile hd (r.pathOf key) text
          rw [runOn_initKeys_of_missing hfile htext]
          rcases hwrite : (r.write key text).runOn d with ⟨result, m⟩
          rw [hwrite] at hextended
          rw [show writeFile (r.pathOf key) text = r.write key text from rfl, hwrite] at hformed
          cases result with
          | error err =>
              rw [runOn_bind_of_error hwrite]
              refine ⟨hformed, hextended, fun err' h => ?_⟩
              obtain rfl := Except.error.inj h
              exact io_of_writeFile hwrite
          | ok done =>
              obtain ⟨hlast, hmore, herror⟩ := ih hformed (hroot.frame hextended.frame) hrest
              rw [runOn_bind_of_ok hwrite, runOn_bind_pure]
              refine ⟨hlast, hextended.trans hmore, fun err h => herror err ?_⟩
              cases hresult : ((r.initKeys keys).runOn m).1 with
              | ok n =>
                  rw [hresult] at h
                  exact absurd h nofun
              | error err' =>
                  rw [hresult] at h
                  exact h

theorem initialized_init (hd : d.WellFormed) (hroot : d.Settled r.root) (cs : List Category) :
    r.Initialized d ((r.init cs).runOn d).1 ((r.init cs).runOn d).2 := by
  refine initialized_initKeys hd hroot fun key hkey => ?_
  obtain ⟨c, -, hc⟩ := List.mem_flatMap.mp hkey
  exact TemplateKey.builtinText?_isSome_of_mem_keys c key hc

/-! ## Lookups -/

theorem textOf_of_builtin (hfile : d.isFile (r.pathOf key) = false)
    (hkey : key.builtinText? = some text) : r.textOf d key = .ok text := by
  unfold textOf
  rw [runOn_load_of_builtin hfile hkey]
  rfl

/-- Extending a disk does not change the text of a key, only where it comes from. -/
theorem Extended.textOf_eq (h : r.Extended d e) (hd : d.WellFormed) (hroot : d.Settled r.root)
    (hname : IsSegment key.name) : r.textOf e key = r.textOf d key := by
  by_cases hadded : d.find? (r.place d key) = none ∧ ∃ other text, other.builtinText? = some text ∧
      r.place d key = r.place d other ∧ e.find? (r.place d key) = some (.file text.toUTF8)
  · obtain ⟨hnone, other, text, hother, hplace, hheld⟩ := hadded
    have hstarts : r.place d other <+: r.place d key := hplace ▸ List.prefix_rfl
    obtain rfl := place_prefix_place.mp hstarts
    have hmissing : d.isFile (r.pathOf key) = false := by
      refine Disk.isFile_of_missing fun content => ?_
      rw [placeOf_pathOf hname, hnone]
      exact nofun
    rw [textOf_of_builtin hmissing hother]
    cases hfile : e.isFile (r.pathOf key) with
    | false => exact textOf_of_builtin hfile hother
    | true =>
        -- the file that is found is the one that was added
        obtain ⟨l, content, hlook⟩ := Disk.isFile_iff.mp hfile
        obtain ⟨hresolve, hfind⟩ := Disk.look_eq_ok_iff.mp hlook
        rw [Disk.resolve_eq_ok hresolve, placeOf_pathOf hname, place_congr h.workingDirectory,
          hheld] at hfind
        obtain rfl := Entry.file.inj (Option.some.inj hfind)
        unfold textOf
        rw [runOn_load_of_custom (runOn_customText?_of_file hlook)]
        rfl
  · refine textOf_congr (h.frame.sameFile hd (settled_pathOf hroot hname) ?_)
    rw [placeOf_pathOf hname]
    exact hadded

end Repository

end Scaffold
