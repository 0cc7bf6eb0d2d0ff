import Scaffold.Proofs.Disk.Frame

/-!
# Settled paths

A step up out of a directory that does not exist fails now and succeeds once
somebody makes that directory, so what a path leads to can change although
nothing happens at its place. For settled paths that is the only way: on a
well-formed disk whether they lead to an entry is decided at their place alone,
and a new directory above them lies above their place as well.
-/

namespace Scaffold

open Scaffold.Path

namespace Disk

variable {d e : Disk} {p : Path}

/-! ## On the way to a path -/

/-- What lies before an existing place on the way to a path is a directory. -/
theorem directory_before (hd : d.WellFormed) (hp : d.Settled p)
    {before rest : List Component} {c : Component} (hsplit : p.components = before ++ c :: rest)
    {entry : Entry} (hnext : d.find? (follow d.workingDirectory (before ++ [c])) = some entry) :
    d.find? (follow d.workingDirectory before) = some .directory := by
  cases c with
  | root =>
      rw [eq_nil_of_components hsplit (Or.inl rfl)]
      exact hd.workingDirectory
  | here =>
      rw [eq_nil_of_components hsplit (Or.inr rfl)]
      exact hd.workingDirectory
  | parent => exact hp before rest hsplit
  | name text =>
      rw [follow_append] at hnext
      exact hd.parent _ text entry hnext

/-- Whatever lies on the way to an existing place is a directory. -/
theorem directory_on_way (hd : d.WellFormed) (hp : d.Settled p)
    {before rest : List Component} {c : Component} (hsplit : p.components = before ++ c :: rest)
    {entry : Entry} (hfind : d.find? (d.placeOf p) = some entry) :
    d.find? (follow d.workingDirectory before) = some .directory := by
  induction rest generalizing before c with
  | nil =>
      have hnext : d.find? (follow d.workingDirectory (before ++ [c])) = some entry := by
        rw [← hsplit]
        exact hfind
      exact directory_before hd hp hsplit hnext
  | cons next rest ih =>
      have hsplit' : p.components = (before ++ [c]) ++ next :: rest := by
        rw [hsplit, List.append_assoc, List.singleton_append]
      exact directory_before hd hp hsplit (ih hsplit')

/-- From a place on the way where nothing lies the path only leads down. -/
theorem name_after_missing (hd : d.WellFormed) (hp : d.Settled p)
    {before rest : List Component} {c : Component} (hsplit : p.components = before ++ c :: rest)
    (hnone : d.find? (follow d.workingDirectory before) = none) :
    ∃ text, c = .name text ∧
      follow d.workingDirectory (before ++ [c]) = follow d.workingDirectory before ++ [text] ∧
      d.find? (follow d.workingDirectory (before ++ [c])) = none := by
  have hmissing : d.find? (follow d.workingDirectory before) ≠ some .directory := by
    rw [hnone]
    exact nofun
  have hnext : d.find? (follow d.workingDirectory (before ++ [c])) = none := by
    cases h : d.find? (follow d.workingDirectory (before ++ [c])) with
    | none => rfl
    | some entry => exact absurd (directory_before hd hp hsplit h) hmissing
  cases c with
  | root =>
      rw [eq_nil_of_components hsplit (Or.inl rfl)] at hmissing
      exact absurd hd.workingDirectory hmissing
  | here =>
      rw [eq_nil_of_components hsplit (Or.inr rfl)] at hmissing
      exact absurd hd.workingDirectory hmissing
  | parent => exact absurd (hp before rest hsplit) hmissing
  | name text => exact ⟨text, rfl, follow_append _ _ _, hnext⟩

theorem prefix_placeOf_of_missing (hd : d.WellFormed) (hp : d.Settled p)
    {before rest : List Component} (hsplit : p.components = before ++ rest)
    (hnone : d.find? (follow d.workingDirectory before) = none) :
    follow d.workingDirectory before <+: d.placeOf p := by
  induction rest generalizing before with
  | nil =>
      rw [List.append_nil] at hsplit
      exact hsplit ▸ List.prefix_rfl
  | cons c rest ih =>
      obtain ⟨text, -, hfollow, hnext⟩ := name_after_missing hd hp hsplit hnone
      have hsplit' : p.components = (before ++ [c]) ++ rest := by
        rw [hsplit, List.append_assoc, List.singleton_append]
      refine List.IsPrefix.trans ?_ (ih hsplit' hnext)
      rw [hfollow]
      exact List.prefix_append _ _

/-- A location above a settled path where nothing lies is above its place. -/
theorem prefix_placeOf_of_above (hd : d.WellFormed) (hp : d.Settled p) {l : Location}
    (hl : d.Above p l) (hnone : d.find? l = none) : l <+: d.placeOf p := by
  obtain ⟨before, ⟨rest, hrest⟩, -, rfl⟩ := hl
  exact prefix_placeOf_of_missing hd hp hrest.symm hnone

/-- A missing location above a settled path is above its place and not that place. -/
theorem ne_placeOf_of_above (hd : d.WellFormed) (hp : d.Settled p) {l : Location}
    (hl : d.Above p l) (hnone : d.find? l = none) (below : Location) :
    l ≠ d.placeOf p ++ below := by
  obtain ⟨before, ⟨rest, hrest⟩, hne, rfl⟩ := hl
  cases rest with
  | nil => exact absurd (by rw [← hrest, List.append_nil]) hne
  | cons c rest =>
      obtain ⟨text, -, hfollow, hnext⟩ := name_after_missing hd hp hrest.symm hnone
      have hsplit : p.components = (before ++ [c]) ++ rest := by
        rw [← hrest, List.append_assoc, List.singleton_append]
      have hlength := (prefix_placeOf_of_missing hd hp hsplit hnext).length_le
      rw [hfollow, List.length_append, List.length_singleton] at hlength
      intro heq
      have hle := congrArg List.length heq
      rw [List.length_append] at hle
      omega

/-- A change at settled paths leaves alone what lies neither above nor at one of
their places. -/
theorem ChangesAt.find?_eq {paths : Path → Prop} (h : d.ChangesAt paths e) (hd : d.WellFormed)
    (hpaths : ∀ p, paths p → d.Settled p) {l : Location}
    (hl : ∀ p, paths p → ¬ l <+: d.placeOf p) : e.find? l = d.find? l := by
  refine Frame.find?_eq h ?_ ?_
  · rintro ⟨p, hp, rfl⟩
    exact hl p hp List.prefix_rfl
  · rintro hnone ⟨p, hp, habove⟩
    exact hl p hp (prefix_placeOf_of_above hd (hpaths p hp) habove hnone)

/-- A settled path stays so when names are added to it. -/
theorem Settled.append_names {q : Path} (hp : d.Settled p) {names : List String}
    (hq : q.components = p.components ++ names.map .name) : d.Settled q := by
  intro before after hsplit
  rw [hq] at hsplit
  rcases List.append_eq_append_iff.mp hsplit with ⟨more, -, hmore⟩ | ⟨more, hmore, hafter⟩
  · have hmem : Component.parent ∈ names.map .name :=
      hmore ▸ List.mem_append_right more List.mem_cons_self
    obtain ⟨name, -, hname⟩ := List.mem_map.mp hmem
    exact absurd hname (by simp)
  · cases more with
    | nil =>
        rw [List.nil_append] at hafter
        have hmem : Component.parent ∈ names.map .name := hafter ▸ List.mem_cons_self
        obtain ⟨name, -, hname⟩ := List.mem_map.mp hmem
        exact absurd hname (by simp)
    | cons first more =>
        obtain ⟨rfl, -⟩ := List.cons.inj hafter
        exact hp before more hmore

/-- Settled paths stay settled while directories stay. -/
theorem Settled.frame {files directories : Location → Prop} (hp : d.Settled p)
    (h : Frame files directories d e) : e.Settled p := by
  intro before after hsplit
  rw [h.workingDirectory]
  exact h.directory (hp before after hsplit)

/-! ## Looking at two disks -/

/-- Two disks on which a path leads to the same entry, or on neither to one. -/
def SameLook (d e : Disk) (p : Path) : Prop :=
  ∀ l entry, e.look p = .ok (l, entry) ↔ d.look p = .ok (l, entry)

theorem start_congr (h : e.workingDirectory = d.workingDirectory) (p : Path) :
    e.start p = d.start p := by
  unfold start
  rw [h]

/-- A path that resolves goes on to do so while directories stay. -/
theorem Frame.resolve_eq_ok {files directories : Location → Prop}
    (h : Frame files directories d e) {l : Location} (hl : d.resolve p = .ok l) :
    e.resolve p = .ok l := by
  obtain ⟨hrefusal, hwalk⟩ := resolve_eq_ok_iff.mp hl
  refine resolve_eq_ok_iff.mpr ⟨hrefusal, ?_⟩
  rw [start_congr h.workingDirectory]
  exact walk_transfer hwalk fun before segment after hsplit =>
    h.directory (directory_of_walk hwalk hsplit)

/-- What a path leads to stays, unless its place is among the files. -/
theorem Frame.look_eq_ok {files directories : Location → Prop} (h : Frame files directories d e)
    {l : Location} {entry : Entry} (hl : d.look p = .ok (l, entry)) (hfiles : ¬ files l) :
    e.look p = .ok (l, entry) := by
  obtain ⟨hresolve, hfind⟩ := look_eq_ok_iff.mp hl
  refine look_eq_ok_iff.mpr ⟨h.resolve_eq_ok hresolve, ?_⟩
  rw [h.find?_eq hfiles fun hnone => absurd (hfind.symm.trans hnone) (by simp)]
  exact hfind

/-- The walk along a path takes its segments but for the one that says where it
starts. -/
theorem segments_start (d : Disk) (p : Path) : ∃ lead, p.segments = lead ++ (d.start p).2 := by
  unfold start
  split
  · exact ⟨p.segments.take 1, (List.take_append_drop 1 _).symm⟩
  · exact ⟨[], rfl⟩

/-- The walk along a path follows its components but for the one that says where
it starts. -/
theorem components_start (d : Disk) (p : Path) :
    ∃ lead, p.components = lead ++ (d.start p).2.filterMap componentOf ∧
      follow d.workingDirectory lead = (d.start p).1 ∧ ∀ c ∈ lead, c = .root ∨ c = .here := by
  rw [components_eq]
  unfold start
  by_cases habs : p.isAbsolute = true
  · obtain ⟨segment, rest, h⟩ := (isAbsolute_iff p).mp habs
    exact ⟨[.root], by simp [habs, h, componentsOf, leadOf, componentOf], by simp [habs, follow],
      by simp⟩
  · refine ⟨leadOf p.segments, by simp [habs, componentsOf], ?_⟩
    rw [if_neg habs]
    unfold leadOf
    split
    · next segment rest h => exact absurd ((isAbsolute_iff p).mpr ⟨segment, rest, h⟩) habs
    · exact ⟨rfl, by simp⟩
    · exact ⟨rfl, by simp⟩

/-- A settled path that resolves now did so before if its place holds now what
it held then. -/
theorem Frame.resolve_of_resolve {files directories : Location → Prop}
    (h : Frame files directories d e) (hd : d.WellFormed) (hp : d.Settled p) {l : Location}
    {entry : Entry} (hl : e.resolve p = .ok l) (he : e.find? l = some entry)
    (hfind : d.find? l = some entry) : d.resolve p = .ok l := by
  obtain ⟨hrefusal, hwalk⟩ := resolve_eq_ok_iff.mp hl
  have hplace : l = d.placeOf p :=
    (Disk.resolve_eq_ok hl).trans (placeOf_congr h.workingDirectory p)
  rw [start_congr h.workingDirectory] at hwalk
  refine resolve_eq_ok_iff.mpr ⟨hrefusal, walk_transfer hwalk fun before segment after hsplit => ?_⟩
  obtain ⟨lead, hcomponents, hlead, -⟩ := components_start d p
  rw [← hlead, ← follow_append]
  rw [hsplit, List.filterMap_append, ← List.append_assoc] at hcomponents
  -- blank segments can follow the place itself; `e` already says what lies there
  cases hrest : (segment :: after).filterMap componentOf with
  | nil =>
      have hdirectory := directory_of_walk hwalk hsplit
      rw [hrest, List.append_nil] at hcomponents
      rw [← hlead, ← follow_append, ← hcomponents] at hdirectory
      rw [← hcomponents]
      change e.find? (d.placeOf p) = _ at hdirectory
      change d.find? (d.placeOf p) = _
      rw [← hplace] at hdirectory ⊢
      rw [hfind, ← he]
      exact hdirectory
  | cons c rest =>
      rw [hrest] at hcomponents
      exact directory_on_way hd hp hcomponents (hplace ▸ hfind)

/-- What a settled path leads to now it led to before, if its place held it then. -/
theorem Frame.look_of_look {files directories : Location → Prop} (h : Frame files directories d e)
    (hd : d.WellFormed) (hp : d.Settled p) {l : Location} {entry : Entry}
    (hl : e.look p = .ok (l, entry))
    (hfound : e.find? (d.placeOf p) = some entry → d.find? (d.placeOf p) = some entry) :
    d.look p = .ok (l, entry) := by
  obtain ⟨hresolve, he⟩ := look_eq_ok_iff.mp hl
  obtain rfl : l = d.placeOf p :=
    (Disk.resolve_eq_ok hresolve).trans (placeOf_congr h.workingDirectory p)
  exact look_eq_ok_iff.mpr
    ⟨h.resolve_of_resolve hd hp hresolve he (hfound he), hfound he⟩

/-- For a settled path whose place holds what it held nothing changes. -/
theorem Frame.sameLook {files directories : Location → Prop} (h : Frame files directories d e)
    (hd : d.WellFormed) (hp : d.Settled p)
    (hfind : e.find? (d.placeOf p) = d.find? (d.placeOf p)) : SameLook d e p := by
  intro l entry
  constructor
  · exact fun hl => h.look_of_look hd hp hl fun he => hfind ▸ he
  · intro hl
    obtain ⟨hresolve, hfound⟩ := look_eq_ok_iff.mp hl
    refine look_eq_ok_iff.mpr ⟨h.resolve_eq_ok hresolve, ?_⟩
    rw [Disk.resolve_eq_ok hresolve] at hfound ⊢
    rw [hfind]
    exact hfound

theorem SameLook.found_or_missed (h : SameLook d e p) :
    (∃ found, e.look p = .ok found ∧ d.look p = .ok found) ∨
      ∃ fault fault', e.look p = .error fault ∧ d.look p = .error fault' := by
  cases he : e.look p with
  | ok found => exact Or.inl ⟨found, rfl, (h found.1 found.2).mp he⟩
  | error fault =>
      cases hd : d.look p with
      | ok found =>
          rw [(h found.1 found.2).mpr hd] at he
          exact absurd he (by simp)
      | error fault' => exact Or.inr ⟨fault, fault', rfl, rfl⟩

theorem SameLook.look_eq (h : SameLook d e p) (hp : d.pathExists p = true) :
    e.look p = d.look p := by
  rcases h.found_or_missed with ⟨found, he, hd⟩ | ⟨fault, fault', -, hd⟩
  · rw [he, hd]
  · unfold Disk.pathExists at hp
    rw [hd] at hp
    exact absurd hp (by simp)

theorem SameLook.pathExists (h : SameLook d e p) : e.pathExists p = d.pathExists p := by
  unfold Disk.pathExists
  rcases h.found_or_missed with ⟨found, he, hd⟩ | ⟨fault, fault', he, hd⟩
  · rw [he, hd]
  · rw [he, hd]

/-- Two disks on which a path leads to the same file, or on neither to one. -/
def SameFile (d e : Disk) (p : Path) : Prop :=
  ∀ l content, e.look p = .ok (l, .file content) ↔ d.look p = .ok (l, .file content)

theorem SameLook.sameFile (h : SameLook d e p) : SameFile d e p := fun l _ => h l _

theorem isFile_iff : d.isFile p = true ↔ ∃ l content, d.look p = .ok (l, .file content) := by
  unfold Disk.isFile
  constructor
  · intro h
    split at h
    · next l content hlook => exact ⟨l, content, hlook⟩
    · exact absurd h nofun
  · rintro ⟨l, content, hlook⟩
    rw [hlook]

/-- No file lies where a path leads, whether or not it gets there. -/
theorem isFile_of_missing (h : ∀ content, d.find? (d.placeOf p) ≠ some (.file content)) :
    d.isFile p = false := by
  rw [Bool.eq_false_iff]
  intro hfile
  obtain ⟨l, content, hlook⟩ := isFile_iff.mp hfile
  obtain ⟨hresolve, hfind⟩ := look_eq_ok_iff.mp hlook
  rw [resolve_eq_ok hresolve] at hfind
  exact h content hfind

theorem SameFile.isFile (h : SameFile d e p) : e.isFile p = d.isFile p := by
  rw [Bool.eq_iff_iff, isFile_iff, isFile_iff]
  exact exists_congr fun l => exists_congr fun content => h l content

theorem SameFile.readText (h : SameFile d e p) (hfile : d.isFile p = true) :
    e.readText p = d.readText p := by
  obtain ⟨l, content, hlook⟩ := isFile_iff.mp hfile
  unfold Disk.readText readBytes
  rw [hlook, (h l content).mpr hlook]

/-- A settled path leads to the same file as long as no file is put at its place:
directories can appear there, but a file above which they are made is no news. -/
theorem Frame.sameFile {files directories : Location → Prop} (h : Frame files directories d e)
    (hd : d.WellFormed) (hp : d.Settled p) (hfiles : ¬ files (d.placeOf p)) : SameFile d e p := by
  intro l content
  constructor
  · exact fun hl => h.look_of_look hd hp hl fun he => h.file hfiles he
  · intro hl
    refine h.look_eq_ok hl ?_
    rwa [Disk.resolve_eq_ok (look_eq_ok_iff.mp hl).1]

/-! ## What goes on to exist -/

section Frames

variable {files directories : Location → Prop}

theorem pathExists_iff : d.pathExists p = true ↔ ∃ l entry, d.look p = .ok (l, entry) := by
  unfold Disk.pathExists
  constructor
  · intro h
    split at h
    · next found hlook => exact ⟨found.1, found.2, hlook⟩
    · exact absurd h nofun
  · rintro ⟨l, entry, hlook⟩
    rw [hlook]

theorem pathExists_of_missing (h : d.find? (d.placeOf p) = none) : d.pathExists p = false := by
  rw [Bool.eq_false_iff]
  intro hexists
  obtain ⟨l, entry, hlook⟩ := pathExists_iff.mp hexists
  obtain ⟨hresolve, hfound⟩ := look_eq_ok_iff.mp hlook
  rw [resolve_eq_ok hresolve, h] at hfound
  exact absurd hfound nofun

/-- What exists goes on to exist. -/
theorem Frame.pathExists (h : Frame files directories d e) (hp : d.pathExists p = true) :
    e.pathExists p = true := by
  obtain ⟨l, entry, hlook⟩ := pathExists_iff.mp hp
  obtain ⟨hresolve, hfind⟩ := look_eq_ok_iff.mp hlook
  refine pathExists_iff.mpr ?_
  rcases h.entries l with heq | ⟨-, -, content, he⟩ | ⟨-, hnone, -⟩
  · exact ⟨l, entry, look_eq_ok_iff.mpr ⟨h.resolve_eq_ok hresolve, heq ▸ hfind⟩⟩
  · exact ⟨l, _, look_eq_ok_iff.mpr ⟨h.resolve_eq_ok hresolve, he⟩⟩
  · rw [hfind] at hnone
    exact absurd hnone nofun

/-- Files go on to be files. -/
theorem Frame.isFile (h : Frame files directories d e) (hp : d.isFile p = true) :
    e.isFile p = true := by
  obtain ⟨l, content, hlook⟩ := isFile_iff.mp hp
  obtain ⟨hresolve, hfind⟩ := look_eq_ok_iff.mp hlook
  refine isFile_iff.mpr ?_
  rcases h.entries l with heq | ⟨-, -, content, he⟩ | ⟨-, hnone, -⟩
  · exact ⟨l, content, look_eq_ok_iff.mpr ⟨h.resolve_eq_ok hresolve, heq ▸ hfind⟩⟩
  · exact ⟨l, content, look_eq_ok_iff.mpr ⟨h.resolve_eq_ok hresolve, he⟩⟩
  · rw [hfind] at hnone
    exact absurd hnone nofun

end Frames

/-! ## Reading back -/

theorem readBytes_of_look {l : Location} {content : ByteArray}
    (h : d.look p = .ok (l, .file content)) : d.readBytes p = .ok content := by
  unfold readBytes
  rw [h]

theorem look_of_readBytes {content : ByteArray} (h : d.readBytes p = .ok content) :
    d.look p = .ok (d.placeOf p, .file content) := by
  unfold readBytes at h
  split at h
  · exact absurd h (by simp)
  · exact absurd h (by simp)
  · next l found hlook =>
    obtain ⟨hresolve, -⟩ := look_eq_ok_iff.mp hlook
    rw [← Disk.resolve_eq_ok hresolve, ← Except.ok.inj h]
    exact hlook

/-- A file holds what was written to it. -/
theorem readBytes_of_writeBytes {content : ByteArray} (h : d.writeBytes p content = .ok e) :
    e.readBytes p = .ok content := by
  have hframe := frame_writeBytes h
  obtain ⟨hresolve, hdirectory, rfl⟩ := writeBytes_eq_ok h
  have hne : d.placeOf p ≠ [] := by
    intro hnil
    rw [hnil] at hdirectory
    exact hdirectory (find?_nil d)
  refine readBytes_of_look (l := d.placeOf p)
    (look_eq_ok_iff.mpr ⟨hframe.resolve_eq_ok hresolve, ?_⟩)
  rw [find?_set _ _ _ _ hne, if_pos rfl]

/-- What was written stays while nothing else is written to the same place. -/
theorem Frame.readBytes {files directories : Location → Prop} (h : Frame files directories d e)
    {content : ByteArray} (hread : d.readBytes p = .ok content) (hfiles : ¬ files (d.placeOf p)) :
    e.readBytes p = .ok content :=
  readBytes_of_look (h.look_eq_ok (look_of_readBytes hread) hfiles)

end Disk

namespace Action

theorem readBytes_of_writeFile {p : Path} {text : String} {d e : Disk}
    (h : (writeFile p text).runOn d = (.ok (), e)) : e.readBytes p = .ok text.toUTF8 := by
  have hwrite : ∃ m, (writeBytes p text.toUTF8).runOn m = (.ok (), e) := by
    cases hup : p.parent? with
    | none =>
        rw [writeFile_of_none hup] at h
        exact ⟨d, h⟩
    | some up =>
        rw [writeFile_of_some hup] at h
        obtain ⟨_, m, -, hm⟩ := bind_eq_ok h
        exact ⟨m, hm⟩
  obtain ⟨m, hm⟩ := hwrite
  unfold runOn writeBytes change at hm
  split at hm
  · next e' he =>
    obtain ⟨-, rfl⟩ := Prod.ext_iff.mp hm
    exact Disk.readBytes_of_writeBytes he
  · exact absurd hm (by simp)

end Action

end Scaffold
