import Scaffold.Proofs.Disk.Places
import Scaffold.Proofs.Disk.Steps

/-!
# What writing leaves alone

A frame names the locations that a step may turn into files and those that it
may turn into directories; everything else stays as it is, no directory becomes
a file and directories appear only where nothing was. Frames compose, and
writing a file has the smallest one: its place, and the places above it. What one
new directory keeps is kept by making all of them, so the recursion along the
parents is gone through once.
-/

namespace Scaffold

open Scaffold.Path

namespace Disk

/-- A change from `d` to `e` that puts files at `files` and new directories at
`directories` only. -/
structure Frame (files directories : Location → Prop) (d e : Disk) : Prop where
  workingDirectory : e.workingDirectory = d.workingDirectory
  entries : ∀ l, e.find? l = d.find? l ∨
    (files l ∧ d.find? l ≠ some .directory ∧ ∃ content, e.find? l = some (.file content)) ∨
    (directories l ∧ d.find? l = none ∧ e.find? l = some .directory)

namespace Frame

variable {files directories : Location → Prop}

theorem refl (d : Disk) : Frame files directories d d := ⟨rfl, fun _ => Or.inl rfl⟩

theorem trans {d e f : Disk} (h : Frame files directories d e)
    (h' : Frame files directories e f) : Frame files directories d f := by
  refine ⟨h'.workingDirectory.trans h.workingDirectory, fun l => ?_⟩
  rcases h.entries l with he | ⟨hl, hd, content, he⟩ | ⟨hl, hd, he⟩
  · rcases h'.entries l with hf | hf | hf
    · exact Or.inl (hf.trans he)
    · exact Or.inr (Or.inl (he ▸ hf))
    · exact Or.inr (Or.inr (he ▸ hf))
  -- a file of the first change stays a file; a directory of it stays a directory
  · rcases h'.entries l with hf | ⟨hl', -, hf⟩ | ⟨-, hnone, -⟩
    · exact Or.inr (Or.inl ⟨hl, hd, content, hf.trans he⟩)
    · exact Or.inr (Or.inl ⟨hl, hd, hf⟩)
    · rw [he] at hnone
      exact absurd hnone (by simp)
  · rcases h'.entries l with hf | ⟨-, hdir, -⟩ | ⟨-, hnone, -⟩
    · exact Or.inr (Or.inr ⟨hl, hd, hf.trans he⟩)
    · exact absurd he hdir
    · rw [he] at hnone
      exact absurd hnone (by simp)

theorem mono {files' directories' : Location → Prop} {d e : Disk}
    (h : Frame files directories d e) (hfiles : ∀ l, files l → files' l)
    (hdirectories : ∀ l, directories l → directories' l) : Frame files' directories' d e := by
  refine ⟨h.workingDirectory, fun l => ?_⟩
  rcases h.entries l with he | ⟨hl, he⟩ | ⟨hl, he⟩
  · exact Or.inl he
  · exact Or.inr (Or.inl ⟨hfiles l hl, he⟩)
  · exact Or.inr (Or.inr ⟨hdirectories l hl, he⟩)

/-- Directories stay directories. -/
theorem directory {d e : Disk} (h : Frame files directories d e) {l : Location}
    (hl : d.find? l = some .directory) : e.find? l = some .directory := by
  rcases h.entries l with he | ⟨-, hne, -⟩ | ⟨-, -, he⟩
  · exact he.trans hl
  · exact absurd hl hne
  · exact he

/-- A file that a frame does not name was there before. -/
theorem file {d e : Disk} (h : Frame files directories d e) {l : Location} {content : ByteArray}
    (hfiles : ¬ files l) (hl : e.find? l = some (.file content)) :
    d.find? l = some (.file content) := by
  rcases h.entries l with he | ⟨hfile, -⟩ | ⟨-, -, hdir⟩
  · exact he ▸ hl
  · exact absurd hfile hfiles
  · rw [hl] at hdir
    exact absurd hdir nofun

/-- Files stay files. -/
theorem file_of_file {d e : Disk} (h : Frame files directories d e) {l : Location} {content : ByteArray}
    (hl : d.find? l = some (.file content)) : ∃ content', e.find? l = some (.file content') := by
  rcases h.entries l with heq | ⟨-, -, hfile⟩ | ⟨-, hnone, -⟩
  · exact ⟨content, heq.trans hl⟩
  · exact hfile
  · rw [hl] at hnone
    exact absurd hnone nofun

/-- What is a directory in the end was no file. -/
theorem not_file {d e : Disk} (h : Frame files directories d e) {l : Location}
    (hl : e.find? l = some .directory) (content : ByteArray) : d.find? l ≠ some (.file content) := by
  intro hfile
  rcases h.entries l with heq | ⟨-, -, other, heq⟩ | ⟨-, hnone, -⟩
  · rw [hl, hfile] at heq
    exact absurd heq nofun
  · rw [hl] at heq
    exact absurd heq nofun
  · rw [hfile] at hnone
    exact absurd hnone nofun

/-- What a frame does not name stays. -/
theorem find?_eq {d e : Disk} (h : Frame files directories d e) {l : Location}
    (hfiles : ¬ files l) (hdirectories : d.find? l = none → ¬ directories l) :
    e.find? l = d.find? l := by
  rcases h.entries l with he | ⟨hl, -⟩ | ⟨hl, hnone, -⟩
  · exact he
  · exact absurd hl hfiles
  · exact absurd hl (hdirectories hnone)

end Frame

/-- A location above the place of a path: one that a shorter path leads to. -/
def Above (d : Disk) (p : Path) (l : Location) : Prop :=
  ∃ cs, cs <+: p.components ∧ cs ≠ p.components ∧ l = follow d.workingDirectory cs

/-- A location above the place of a path, or that place. -/
def Along (d : Disk) (p : Path) (l : Location) : Prop :=
  ∃ cs, cs <+: p.components ∧ l = follow d.workingDirectory cs

theorem along_placeOf (d : Disk) (p : Path) : d.Along p (d.placeOf p) :=
  ⟨p.components, List.prefix_rfl, rfl⟩

theorem above_of_along_parent {d : Disk} {p up : Path} (h : p.parent? = some up) {l : Location}
    (hl : d.Along up l) : d.Above p l := by
  obtain ⟨c, hc⟩ := components_of_parent? h
  obtain ⟨cs, hcs, rfl⟩ := hl
  refine ⟨cs, hc ▸ hcs.trans (List.prefix_append _ _), ?_, rfl⟩
  intro he
  have hlength := hcs.length_le
  rw [he, hc, List.length_append, List.length_singleton] at hlength
  omega

theorem along_congr {d e : Disk} (h : e.workingDirectory = d.workingDirectory) {p : Path}
    {l : Location} (hl : e.Along p l) : d.Along p l := by
  unfold Along at hl ⊢
  rwa [h] at hl

theorem above_congr {d e : Disk} (h : e.workingDirectory = d.workingDirectory) {p : Path}
    {l : Location} (hl : e.Above p l) : d.Above p l := by
  unfold Above at hl ⊢
  rwa [h] at hl

/-- A change at the places of some paths and above them. -/
def ChangesAt (paths : Path → Prop) (d e : Disk) : Prop :=
  Frame (fun l => ∃ p, paths p ∧ l = d.placeOf p) (fun l => ∃ p, paths p ∧ d.Above p l) d e

namespace ChangesAt

variable {paths : Path → Prop}

theorem refl (d : Disk) : ChangesAt paths d d := Frame.refl d

theorem mono {paths' : Path → Prop} {d e : Disk} (h : ChangesAt paths d e)
    (hpaths : ∀ p, paths p → paths' p) : ChangesAt paths' d e := by
  refine Frame.mono h ?_ ?_
  · rintro l ⟨p, hp, hl⟩
    exact ⟨p, hpaths p hp, hl⟩
  · rintro l ⟨p, hp, hl⟩
    exact ⟨p, hpaths p hp, hl⟩

theorem trans {d e f : Disk} (h : ChangesAt paths d e) (h' : ChangesAt paths e f) :
    ChangesAt paths d f := by
  refine Frame.trans h (Frame.mono h' ?_ ?_)
  · rintro l ⟨p, hp, hl⟩
    exact ⟨p, hp, hl.trans (placeOf_congr h.workingDirectory p)⟩
  · rintro l ⟨p, hp, hl⟩
    exact ⟨p, hp, above_congr h.workingDirectory hl⟩

end ChangesAt

/-! ## Single entries -/

theorem find?_nil (d : Disk) : d.find? [] = some .directory := by
  unfold find?
  rw [if_pos rfl]

/-- A new directory where nothing was. -/
theorem frame_set_directory {d : Disk} {l : Location} (h : d.find? l = none) :
    Frame (fun _ => False) (· = l) d (d.set l .directory) := by
  have hne : l ≠ [] := by
    rintro rfl
    rw [find?_nil] at h
    exact absurd h (by simp)
  refine ⟨rfl, fun k => ?_⟩
  rw [find?_set d l k .directory hne]
  by_cases hk : k = l
  · subst hk
    exact Or.inr (Or.inr ⟨rfl, h, if_pos rfl⟩)
  · exact Or.inl (if_neg hk)

/-- A file where no directory was. -/
theorem frame_set_file {d : Disk} {l : Location} (h : d.find? l ≠ some .directory)
    (content : ByteArray) : Frame (· = l) (fun _ => False) d (d.set l (.file content)) := by
  have hne : l ≠ [] := by
    rintro rfl
    exact h (find?_nil d)
  refine ⟨rfl, fun k => ?_⟩
  rw [find?_set d l k _ hne]
  by_cases hk : k = l
  · subst hk
    exact Or.inr (Or.inl ⟨rfl, h, content, if_pos rfl⟩)
  · exact Or.inl (if_neg hk)

/-! ## Directories -/

theorem components_withoutTrailingSlashes (p : Path) :
    (withoutTrailingSlashes p).components = p.components := by
  unfold withoutTrailingSlashes
  split
  · rfl
  · next cs hcs =>
    have hne : p.text.toList.reverse.dropWhile (· == '/') ≠ [] := by
      intro he
      unfold Text.dropEndWhile at hcs
      rw [he] at hcs
      exact hcs rfl
    have hdrop := componentsOf_dropSlashes hne
    rw [segmentsOfReversed_reverse] at hdrop
    rw [components_eq, components_eq, ← hdrop]
    rfl

theorem makeDirectory_eq_ok {d e : Disk} {p : Path} (h : d.makeDirectory p = .ok e) :
    d.find? (d.placeOf p) = none ∧ e = d.set (d.placeOf p) .directory := by
  unfold makeDirectory at h
  split at h
  · exact absurd h (by simp)
  · next l hl =>
    have hplace : l = d.placeOf p := by
      rw [resolve_eq_ok hl, placeOf, components_withoutTrailingSlashes]
      rfl
    split at h
    · exact absurd h (by simp)
    · next hnone =>
      rw [← hplace]
      exact ⟨hnone, (Except.ok.inj h).symm⟩

theorem frame_makeDirectory {d e : Disk} {p : Path} (h : d.makeDirectory p = .ok e) :
    Frame (fun _ => False) (d.Along p) d e := by
  obtain ⟨hnone, rfl⟩ := makeDirectory_eq_ok h
  refine (frame_set_directory hnone).mono (fun _ hl => hl) ?_
  rintro l rfl
  exact d.along_placeOf p

/-! ## One level of making directories -/

/-- Makes one directory, or finds it there. -/
def put (d : Disk) (p : Path) : Except IoFault Unit × Disk :=
  match d.makeDirectory p with
  | .ok made => (.ok (), made)
  | .error fault => if d.isDirectory p then (.ok (), d) else (.error fault, d)

/-- Makes the last directory when those above it could be made. -/
def thenPut (made : Except IoFault Unit × Disk) (p : Path) : Except IoFault Unit × Disk :=
  match made with
  | (.error fault, m) => (.error fault, m)
  | (.ok (), m) => m.put p

section

variable {d : Disk} {p up : Path}

theorem makeDirectoriesWithin_of_empty (depth : Nat) (h : p.text = "") :
    makeDirectoriesWithin (depth + 1) d p = (.ok (), d) := by
  unfold makeDirectoriesWithin
  rw [if_pos h]

theorem makeDirectoriesWithin_of_found (depth : Nat) (hne : p.text ≠ "")
    (h : d.makeDirectory p ≠ .error .notFound) : makeDirectoriesWithin (depth + 1) d p = d.put p := by
  unfold makeDirectoriesWithin put
  rw [if_neg hne]
  split
  · next made hmade => rw [hmade]
  · next hmissing => exact absurd hmissing h
  · next fault _ hfault => rw [hfault]

theorem makeDirectoriesWithin_of_missing (depth : Nat) (hne : p.text ≠ "")
    (h : d.makeDirectory p = .error .notFound) (hup : p.parent? = some up) :
    makeDirectoriesWithin (depth + 1) d p = thenPut (makeDirectoriesWithin depth d up) p := by
  rw [makeDirectoriesWithin, if_neg hne, h, hup]
  dsimp only
  unfold thenPut put
  rcases makeDirectoriesWithin depth d up with ⟨result, m⟩
  cases result <;> rfl

theorem makeDirectoriesWithin_of_orphan (depth : Nat) (hne : p.text ≠ "")
    (h : d.makeDirectory p = .error .notFound) (hup : p.parent? = none) :
    makeDirectoriesWithin (depth + 1) d p = (.error .noParent, d) := by
  rw [makeDirectoriesWithin, if_neg hne, h, hup]

/-- What each new directory keeps, along a path and along its parents, making all of them
keeps, whether or not it succeeds. -/
theorem makeDirectoriesWithin_keeps (holds : Disk → Prop) (along : Path → Prop)
    (hparent : ∀ {q up : Path}, along q → q.parent? = some up → along up)
    (hmake : ∀ {m made : Disk} {q : Path}, along q → holds m → m.makeDirectory q = .ok made →
      holds made)
    (depth : Nat) (hp : along p) (h : holds d) : holds (makeDirectoriesWithin depth d p).2 := by
  have hput : ∀ {m : Disk} {q : Path}, along q → holds m → holds (m.put q).2 := by
    intro m q hq hm
    unfold put
    split
    · next made hmade => exact hmake hq hm hmade
    · split
      · exact hm
      · exact hm
  induction depth generalizing p with
  | zero => exact h
  | succ depth ih =>
      by_cases hempty : p.text = ""
      · rw [makeDirectoriesWithin_of_empty depth hempty]
        exact h
      by_cases hmissing : d.makeDirectory p = .error .notFound
      · cases hup : p.parent? with
        | none =>
            rw [makeDirectoriesWithin_of_orphan depth hempty hmissing hup]
            exact h
        | some up =>
            -- what is missing is made above the path first, and stays when the path itself fails
            have hfirst := ih (hparent hp hup)
            rw [makeDirectoriesWithin_of_missing depth hempty hmissing hup]
            unfold thenPut
            rcases hmade : makeDirectoriesWithin depth d up with ⟨result, m⟩
            rw [hmade] at hfirst
            cases result with
            | error fault => exact hfirst
            | ok done => exact hput hp hfirst
      · rw [makeDirectoriesWithin_of_found depth hempty hmissing]
        exact hput hp h

end

/-- Making directories adds directories on the way to a path and nothing else,
whether or not it succeeds. -/
theorem frame_makeDirectoriesWithin (depth : Nat) (d : Disk) (p : Path) :
    Frame (fun _ => False) (d.Along p) d (makeDirectoriesWithin depth d p).2 := by
  refine makeDirectoriesWithin_keeps (Frame (fun _ => False) (d.Along p) d)
    (fun q => ∀ l, d.Along q l → d.Along p l) ?_ ?_ depth (fun _ hl => hl) (Frame.refl d)
  · intro q up hq hup l hl
    obtain ⟨cs, hcs, -, hl'⟩ := above_of_along_parent hup hl
    exact hq l ⟨cs, hcs, hl'⟩
  · intro m made q hq hm hmade
    exact hm.trans ((frame_makeDirectory hmade).mono (fun _ hl => hl) fun l hl =>
      hq l (along_congr hm.workingDirectory hl))

/-! ## Files -/

theorem writeBytes_eq_ok {d e : Disk} {p : Path} {content : ByteArray}
    (h : d.writeBytes p content = .ok e) :
    d.resolve p = .ok (d.placeOf p) ∧ d.find? (d.placeOf p) ≠ some .directory ∧
      e = d.set (d.placeOf p) (.file content) := by
  unfold writeBytes at h
  split at h
  · exact absurd h (by simp)
  · exact absurd h (by simp)
  · next l hl =>
    have hplace := resolve_eq_ok hl
    subst hplace
    refine ⟨hl, ?_⟩
    split at h
    · exact absurd h (by simp)
    · next hfile => exact ⟨by simp [hfile], (Except.ok.inj h).symm⟩
    · next hnone => exact ⟨by simp [hnone], (Except.ok.inj h).symm⟩

theorem writeBytes_of_resolve {d : Disk} {p : Path} {l : Location} (h : d.resolve p = .ok l)
    (hdir : d.find? l ≠ some .directory) (content : ByteArray) :
    d.writeBytes p content = .ok (d.set l (.file content)) := by
  unfold writeBytes
  rw [h]
  dsimp only
  split
  · next hfind => exact absurd hfind hdir
  · rfl
  · rfl

theorem frame_writeBytes {d e : Disk} {p : Path} {content : ByteArray}
    (h : d.writeBytes p content = .ok e) :
    Frame (· = d.placeOf p) (fun _ => False) d e := by
  obtain ⟨-, hdir, rfl⟩ := writeBytes_eq_ok h
  exact frame_set_file hdir content

end Disk

namespace Action

theorem frame_makeDirectories (p : Path) (d : Disk) :
    Disk.Frame (fun _ => False) (d.Along p) d ((makeDirectories p).runOn d).2 := by
  have h := d.frame_makeDirectoriesWithin (p.text.length + 1) p
  unfold runOn makeDirectories Disk.makeDirectories
  split
  · next he =>
    rw [he] at h
    exact h
  · next he =>
    rw [he] at h
    exact h

theorem runOn_writeBytes_of_ok {d e : Disk} {p : Path} {content : ByteArray}
    (h : d.writeBytes p content = .ok e) : (writeBytes p content).runOn d = (.ok (), e) := by
  unfold runOn writeBytes change
  dsimp only
  rw [h]

theorem frame_writeBytes (p : Path) (content : ByteArray) (d : Disk) :
    Disk.Frame (· = d.placeOf p) (fun _ => False) d ((writeBytes p content).runOn d).2 := by
  unfold runOn writeBytes change
  split
  · next he => exact Disk.frame_writeBytes he
  · exact Disk.Frame.refl d

/-- Writing a file changes its place and makes directories above it, whether or
not it succeeds. -/
theorem changesAt_writeFile (p : Path) (text : String) (d : Disk) :
    d.ChangesAt (· = p) ((writeFile p text).runOn d).2 := by
  have hbytes : ∀ m : Disk, m.ChangesAt (· = p) ((writeBytes p text.toUTF8).runOn m).2 := fun m =>
    (frame_writeBytes p text.toUTF8 m).mono (fun _ hl => ⟨p, rfl, hl⟩) (fun _ => False.elim)
  cases hup : p.parent? with
  | none =>
      rw [writeFile_of_none hup]
      exact hbytes d
  | some up =>
      rw [writeFile_of_some hup]
      have hfirst : d.ChangesAt (· = p) ((makeDirectories up).runOn d).2 :=
        (frame_makeDirectories up d).mono (fun _ => False.elim)
          (fun _ hl => ⟨p, rfl, Disk.above_of_along_parent hup hl⟩)
      exact bind_keeps hfirst fun _ e he => Disk.ChangesAt.trans he (hbytes e)

/-- Writing a file that fails makes directories above it and does nothing else. -/
theorem frame_of_writeFile_eq_error {p : Path} {text : String} {d e : Disk} {err : Error}
    (h : (writeFile p text).runOn d = (.error err, e)) :
    d.Frame (fun _ => False) (d.Above p) e := by
  have hbytes : ∀ m : Disk, (writeBytes p text.toUTF8).runOn m = (.error err, e) → e = m := by
    intro m hm
    unfold runOn writeBytes change at hm
    split at hm
    · exact absurd hm (by simp)
    · exact (Prod.ext_iff.mp hm).2.symm
  cases hup : p.parent? with
  | none =>
      rw [writeFile_of_none hup] at h
      rw [hbytes d h]
      exact Disk.Frame.refl d
  | some up =>
      rw [writeFile_of_some hup] at h
      have hfirst : d.Frame (fun _ => False) (d.Above p) ((makeDirectories up).runOn d).2 :=
        (frame_makeDirectories up d).mono (fun _ => id)
          fun _ hl => Disk.above_of_along_parent hup hl
      rcases bind_eq_error h with hmade | ⟨done, m, hmade, hwrite⟩
      · rw [hmade] at hfirst
        exact hfirst
      · rw [hmade] at hfirst
        rw [hbytes m hwrite]
        exact hfirst

end Action

end Scaffold
