import Mathlib.Control.Monad.Basic
import Scaffold.Proofs.Catalog.Overlay

/-!
# Reverting a key

Reverting reads the custom template of a key before it writes, to say whether
there is anything to do. So an override that is no text stops it, although
writing over it would succeed. Every other override is replaced, and a missing
one is made, wherever the path of the key leads through directories.
-/

namespace Scaffold

open Scaffold.Action Scaffold.Path

namespace Repository

variable {r : Repository} {d e : Disk} {key : TemplateKey} {text : String}

/-! ## What stands in the way -/

/-- A key whose revert nothing stops: the path to it is not too long, the
directories on the way can be made without a file in the way and without taking
the place of the key, and its file, if there is one, holds a text. -/
structure Revertible (r : Repository) (d : Disk) (key : TemplateKey) : Prop where
  usable : r.Usable key
  noFile : ∀ l, d.Along (r.directoryOf key.category) l → ∀ content,
    d.find? l ≠ some (.file content)
  notDirectory : d.find? (r.place d key) ≠ some .directory
  aside : ¬ d.Along (r.directoryOf key.category) (r.place d key)
  readable : ∀ content, d.readBytes (r.pathOf key) = .ok content →
    ∃ text : String, content = text.toUTF8

theorem along_directoryOf_of_above (hname : IsSegment key.name) {l : Location} :
    d.Above (r.pathOf key) l ↔ d.Along (r.directoryOf key.category) l := by
  have hcomponents := r.components_pathOf_of_segment hname
  constructor
  · rintro ⟨cs, hcs, hne, rfl⟩
    rw [hcomponents] at hcs hne
    exact ⟨cs, (List.prefix_concat_iff.mp hcs).resolve_left hne, rfl⟩
  · rintro ⟨cs, hcs, rfl⟩
    refine ⟨cs, hcomponents ▸ hcs.trans (List.prefix_append _ _), fun heq => ?_, rfl⟩
    have hlength := hcs.length_le
    rw [heq, hcomponents, List.length_append, List.length_singleton] at hlength
    omega

theorem Revertible.fillable (h : r.Revertible d key) : d.Fillable (r.pathOf key) := by
  have hname := h.usable.segment
  refine ⟨trimmed_pathOf hname, h.usable.allowed, h.usable.fits, fun l hl => ?_, ?_, fun hl => ?_⟩
  · exact h.noFile l ((along_directoryOf_of_above hname).mp hl)
  · rw [placeOf_pathOf hname]
    exact h.notDirectory
  · rw [placeOf_pathOf hname] at hl
    exact h.aside ((along_directoryOf_of_above hname).mp hl)

/-! ## Reading the custom template -/

/-- Reading gives the text of the file that the path of the key leads to. -/
theorem customText?_eq_some (h : (r.customText? key).runOn d = (.ok (some text), e)) :
    d.readBytes (r.pathOf key) = .ok text.toUTF8 := by
  obtain ⟨custom, m, hcustom, h⟩ := bind_eq_ok h
  obtain ⟨hisFile, rfl⟩ : d.isFile (r.pathOf key) = custom ∧ d = m := by
    simpa [isCustom, runOn_ask] using hcustom
  cases custom with
  | false => cases congrArg Prod.fst h
  | true =>
      obtain ⟨found, m, hread, h⟩ := bind_eq_ok h
      obtain ⟨hfound, -⟩ : found = text ∧ m = e := by simpa [runOn_pure] using h
      subst hfound
      rw [runOn_readText] at hread
      have htext := congrArg Prod.fst hread
      unfold Disk.readText at htext
      cases hbytes : d.readBytes (r.pathOf key) with
      | error fault =>
          rw [hbytes] at htext
          cases htext
      | ok content =>
          rw [hbytes] at htext
          dsimp only at htext
          split at htext
          · next s hs =>
            rw [← Except.ok.inj htext]
            exact congrArg Except.ok (eq_toUTF8_of_fromUTF8? hs)
          · cases htext

/-- A readable override reads as its text, and a missing one as none. -/
theorem runOn_customText?_of_readable
    (h : ∀ content, d.readBytes (r.pathOf key) = .ok content →
      ∃ text : String, content = text.toUTF8) :
    ∃ custom, (r.customText? key).runOn d = (.ok custom, d) ∧
      ∀ text : String, custom = some text ↔ d.readBytes (r.pathOf key) = .ok text.toUTF8 := by
  cases hisFile : d.isFile (r.pathOf key) with
  | true =>
      obtain ⟨l, content, hlook⟩ := Disk.isFile_iff.mp hisFile
      have hbytes := Disk.readBytes_of_look hlook
      obtain ⟨found, rfl⟩ := h content hbytes
      refine ⟨some found, runOn_customText?_of_file hlook, fun text => ?_⟩
      rw [hbytes, Option.some.injEq, Except.ok.injEq, toUTF8_inj]
  | false =>
      refine ⟨none, runOn_customText?_of_missing hisFile, fun text => ⟨nofun, fun hbytes => ?_⟩⟩
      have hfile := Disk.isFile_iff.mpr ⟨_, _, Disk.look_of_readBytes hbytes⟩
      rw [hisFile] at hfile
      exact absurd hfile nofun

theorem runOn_revert (hkey : key.builtinText? = some text) {custom : Option String}
    (hcustom : (r.customText? key).runOn d = (.ok custom, d)) :
    (r.revert key).runOn d =
      if custom = some text then (.ok false, d)
      else (r.write key text >>= fun _ => pure true).runOn d := by
  unfold revert
  rw [hkey]
  dsimp only
  rw [runOn_bind_of_ok hcustom]
  by_cases h : custom = some text
  · rw [if_pos h, if_pos (beq_iff_eq.mpr h)]
    rfl
  · rw [if_neg h, if_neg (by simpa using h)]

/-! ## Success -/

/-- What a revert leaves behind that answers `changed`. -/
structure Reverted (r : Repository) (d : Disk) (key : TemplateKey) (text : String)
    (changed : Bool) (e : Disk) : Prop where
  changed_iff : changed = true ↔ d.readBytes (r.pathOf key) ≠ .ok text.toUTF8
  bytes : e.readBytes (r.pathOf key) = .ok text.toUTF8
  load : (r.load key).runOn e = (.ok ⟨key, text, .custom⟩, e)
  again : (r.revert key).runOn e = (.ok false, e)
  frame : d.Frame (· = r.place d key) (d.Above (r.pathOf key)) e

theorem runOn_customText?_of_readBytes (h : d.readBytes (r.pathOf key) = .ok text.toUTF8) :
    (r.customText? key).runOn d = (.ok (some text), d) :=
  runOn_customText?_of_file (Disk.look_of_readBytes h)

theorem Revertible.revert (h : r.Revertible d key) (hd : d.WellFormed)
    (hkey : key.builtinText? = some text) :
    ∃ changed e, (r.revert key).runOn d = (.ok changed, e) ∧ r.Reverted d key text changed e := by
  obtain ⟨custom, hcustom, hread⟩ := runOn_customText?_of_readable h.readable
  have hrun := runOn_revert hkey hcustom
  have hlater : ∀ e : Disk, e.readBytes (r.pathOf key) = .ok text.toUTF8 →
      (r.load key).runOn e = (.ok ⟨key, text, .custom⟩, e) ∧
        (r.revert key).runOn e = (.ok false, e) := by
    intro e hbytes
    have hagain := runOn_customText?_of_readBytes hbytes
    refine ⟨runOn_load_of_custom hagain, ?_⟩
    rw [runOn_revert hkey hagain, if_pos rfl]
  by_cases hsame : custom = some text
  · have hbytes := (hread text).mp hsame
    rw [if_pos hsame] at hrun
    exact ⟨false, d, hrun, ⟨⟨nofun, fun hne => absurd hbytes hne⟩, hbytes, (hlater d hbytes).1,
      (hlater d hbytes).2, Disk.Frame.refl d⟩⟩
  · obtain ⟨e, hwrite⟩ := writeFile_of_fillable hd h.fillable text
    have hbytes := readBytes_of_writeFile hwrite
    have hframe := r.frame_write h.usable.segment text d
    rw [write, hwrite] at hframe
    rw [if_neg hsame, write, runOn_bind_of_ok hwrite] at hrun
    exact ⟨true, e, hrun, ⟨⟨fun _ => mt (hread text).mpr hsame, fun _ => rfl⟩, hbytes,
      (hlater e hbytes).1, (hlater e hbytes).2, hframe⟩⟩

/-! ## Failure -/

/-- A key whose file can be read back was revertible, however the file came about. -/
theorem revertible_of_readBytes {files directories : Location → Prop} {content : ByteArray}
    (hname : IsSegment key.name) (hframe : d.Frame files directories e) (he : e.WellFormed)
    (hbytes : e.readBytes (r.pathOf key) = .ok content)
    (hreadable : ∀ content, d.readBytes (r.pathOf key) = .ok content →
      ∃ text : String, content = text.toUTF8) : r.Revertible d key := by
  have hwd := hframe.workingDirectory
  obtain ⟨hresolve, hfile⟩ := Disk.look_eq_ok_iff.mp (Disk.look_of_readBytes hbytes)
  rw [placeOf_pathOf hname, place_congr hwd] at hfile
  have hway : ∀ l, d.Along (r.directoryOf key.category) l → e.find? l = some .directory :=
    fun l hl => Disk.directory_of_above he hresolve
      ((along_directoryOf_of_above hname).mpr (Disk.along_congr hwd.symm hl))
  refine ⟨⟨hname, (Disk.resolve_eq_ok_iff.mp hresolve).1, Disk.fits_of_resolve hresolve⟩,
    fun l hl => hframe.not_file (hway l hl), fun hdirectory => ?_, fun hplace => ?_,
    hreadable⟩
  · rw [hframe.directory hdirectory] at hfile
    exact absurd hfile nofun
  · rw [hway _ hplace] at hfile
    exact absurd hfile nofun

theorem readable_of_customText? {custom : Option String}
    (h : (r.customText? key).runOn d = (.ok custom, e)) (content : ByteArray)
    (hbytes : d.readBytes (r.pathOf key) = .ok content) : ∃ text : String, content = text.toUTF8 := by
  have hisFile := Disk.isFile_iff.mpr ⟨_, _, Disk.look_of_readBytes hbytes⟩
  cases custom with
  | some text =>
      have hread := customText?_eq_some h
      rw [hbytes] at hread
      exact ⟨text, Except.ok.inj hread⟩
  | none =>
      -- a file that is there reads as some text or not at all
      unfold customText? isCustom at h
      rw [runOn_bind_of_ok (runOn_ask _ d), hisFile] at h
      obtain ⟨text, m, -, hnone⟩ := bind_eq_ok h
      exact absurd (congrArg Prod.fst hnone) nofun

/-- Only revertible keys are ever reverted. -/
theorem revertible_of_revert (hd : d.WellFormed) (hkey : key.builtinText? = some text)
    {changed : Bool} (h : (r.revert key).runOn d = (.ok changed, e)) : r.Revertible d key := by
  have hname := isSegment_of_isBuiltin (isBuiltin_of_builtinText? hkey)
  have hcustom : ∃ custom, (r.customText? key).runOn d = (.ok custom, d) := by
    unfold revert at h
    rw [hkey] at h
    obtain ⟨custom, m, hcustom, -⟩ := bind_eq_ok h
    exact ⟨custom, hcustom.trans (congrArg _ ((congrArg Prod.snd hcustom).symm.trans
      (r.reads_customText? key d)))⟩
  obtain ⟨custom, hcustom⟩ := hcustom
  have hreadable := readable_of_customText? hcustom
  rw [runOn_revert hkey hcustom] at h
  split at h
  · next hsame =>
    subst hsame
    have hframe : d.Frame (fun _ => False) (fun _ => False) d := Disk.Frame.refl d
    exact revertible_of_readBytes hname hframe hd (customText?_eq_some hcustom) hreadable
  · obtain ⟨done, m, hwrite, hm⟩ := bind_eq_ok h
    obtain rfl : m = e := congrArg Prod.snd hm
    have hframe := r.frame_write hname text d
    have hformed := wellFormed_writeFile hd (r.pathOf key) text
    rw [hwrite] at hframe
    rw [show (writeFile (r.pathOf key) text).runOn d = _ from hwrite] at hformed
    exact revertible_of_readBytes hname hframe hformed (readBytes_of_writeFile hwrite) hreadable

/-- A revert that fails does so on the disk, and puts no file there. -/
theorem revert_eq_error (hkey : key.builtinText? = some text) {err : Error}
    (h : (r.revert key).runOn d = (.error err, e)) :
    (∃ path fault, err = .io path fault) ∧
      d.Frame (fun _ => False) (d.Above (r.pathOf key)) e := by
  have hio : FailsWith (fun err => ∃ path fault, err = Error.io path fault) (r.customText? key) := by
    unfold customText? isCustom
    refine failsWith_bind (failsWith_ask _) fun custom => ?_
    cases custom with
    | true =>
        exact failsWith_bind (failsWith_readText (fun path fault => ⟨path, fault, rfl⟩) _)
          fun _ => failsWith_pure _
    | false => exact failsWith_pure _
  rcases hcustom : (r.customText? key).runOn d with ⟨result, m⟩
  obtain rfl : m = d := (congrArg Prod.snd hcustom).symm.trans (r.reads_customText? key d)
  cases result with
  | error fault =>
      unfold revert at h
      rw [hkey] at h
      dsimp only at h
      rw [runOn_bind_of_error hcustom] at h
      obtain ⟨rfl, rfl⟩ : fault = err ∧ m = e := by simpa using h
      exact ⟨hio m fault m hcustom, Disk.Frame.refl m⟩
  | ok custom =>
      rw [runOn_revert hkey hcustom] at h
      split at h
      · exact absurd (congrArg Prod.fst h) nofun
      · rcases bind_eq_error h with hwrite | ⟨done, n, -, hpure⟩
        · exact ⟨io_of_writeFile hwrite, frame_of_writeFile_eq_error hwrite⟩
        · exact absurd (congrArg Prod.fst hpure) nofun

/-! ## Settled homes -/

/-- The directory of a category is there, or could be made: no file is above it. -/
def Hosts (r : Repository) (d : Disk) (c : Category) : Prop :=
  d.isDirectory (r.directoryOf c) = true ∨ d.pathExists (r.directoryOf c) = false ∧
    ∀ l, d.Above (r.directoryOf c) l → ∀ content, d.find? l ≠ some (.file content)

/-- The path of a key leads to a file or nowhere. -/
def Vacant (r : Repository) (d : Disk) (key : TemplateKey) : Prop :=
  d.pathExists (r.pathOf key) = false ∨ d.isFile (r.pathOf key) = true

theorem Hosts.noFile {c : Category} (h : r.Hosts d c) (hd : d.WellFormed)
    (hroot : d.Settled r.root) (hrefusal : Disk.refusal? (r.directoryOf c) = none)
    (hfits : Disk.Fits (r.directoryOf c)) {l : Location} (hl : d.Along (r.directoryOf c) l)
    (content : ByteArray) : d.find? l ≠ some (.file content) := by
  have hsettled := settled_directoryOf hroot c
  intro hfile
  rcases h with hdirectory | ⟨hmissing, hnoFile⟩
  · have hlook : d.look (r.directoryOf c) = .ok (d.placeOf (r.directoryOf c), .directory) := by
      unfold Disk.isDirectory at hdirectory
      split at hdirectory
      · next l hlook =>
        rwa [Disk.resolve_eq_ok (Disk.look_eq_ok_iff.mp hlook).1] at hlook
      · exact absurd hdirectory nofun
    obtain ⟨hresolve, hfind⟩ := Disk.look_eq_ok_iff.mp hlook
    rw [Disk.directory_of_along hd hresolve hfind hl] at hfile
    exact absurd hfile nofun
  · rcases Disk.eq_or_above_of_along hl with rfl | habove
    · have hlook := Disk.look_of_find? hd (trimmed_directoryOf c) hrefusal hfits hsettled hfile
      rw [Disk.pathExists_iff.mpr ⟨_, _, hlook⟩] at hmissing
      exact absurd hmissing nofun
    · exact hnoFile l habove content hfile

/-- A settled home leaves two things that can stop a revert: a path that is too
long and an override that is no text. -/
theorem revertible_of_settled (hd : d.WellFormed) (hroot : d.Settled r.root)
    (hkey : r.Usable key) (hhosts : r.Hosts d key.category) (hvacant : r.Vacant d key)
    (hreadable : ∀ content, d.readBytes (r.pathOf key) = .ok content →
      ∃ text : String, content = text.toUTF8) : r.Revertible d key := by
  have hname := hkey.segment
  have hsettled := settled_pathOf hroot hname
  have hnoFile : ∀ l, d.Along (r.directoryOf key.category) l → ∀ content,
      d.find? l ≠ some (.file content) := by
    intro l hl
    refine hhosts.noFile hd hroot ?_ (fun name hmem => ?_) hl
    · exact Disk.refusal?_of_starts hkey.allowed (text_directoryOf_ne r key.category)
        (pathOf_eq_join r key ▸ text_join_of_relative _
          (isAbsolute_intercalate (List.cons_ne_nil _ _) (segment_singleton hname)))
    · exact hkey.fits name
        (components_pathOf_of_segment hname ▸ List.mem_append_left _ hmem)
  have hnotDirectory : d.find? (r.place d key) ≠ some .directory := by
    intro hdirectory
    rw [← placeOf_pathOf hname] at hdirectory
    have hlook := Disk.look_of_find? hd (trimmed_pathOf hname) hkey.allowed hkey.fits hsettled
      hdirectory
    rcases hvacant with hmissing | hfile
    · rw [Disk.pathExists_iff.mpr ⟨_, _, hlook⟩] at hmissing
      exact absurd hmissing nofun
    · obtain ⟨l, content, hother⟩ := Disk.isFile_iff.mp hfile
      exact absurd (hlook.symm.trans hother) nofun
  refine ⟨hkey, hnoFile, hnotDirectory, fun hplace => ?_, hreadable⟩
  cases hfind : d.find? (r.place d key) with
  | some entry =>
      cases entry with
      | directory => exact hnotDirectory hfind
      | file content => exact hnoFile _ hplace content hfind
  | none =>
      -- a missing place that the path leads through would lie above itself
      have habove := (along_directoryOf_of_above hname).mpr hplace
      have hne := Disk.ne_placeOf_of_above hd hsettled habove hfind []
      rw [placeOf_pathOf hname, List.append_nil] at hne
      exact hne rfl

/-! ## Reverting -/

/-- Reverting a builtin key succeeds exactly when nothing stands in the way. Then the
file of the key holds its builtin text, the answer says whether it did before, and
nothing else changes but for new directories on the way. Otherwise the disk is to
blame and no file changes. -/
theorem revert_repairs (hd : d.WellFormed) (hkey : key.builtinText? = some text) :
    (r.Revertible d key → ∃ changed e, (r.revert key).runOn d = (.ok changed, e) ∧
      r.Reverted d key text changed e) ∧
    (¬ r.Revertible d key → ∃ path fault e, (r.revert key).runOn d = (.error (.io path fault), e) ∧
      d.Frame (fun _ => False) (d.Above (r.pathOf key)) e) ∧
    (d.Settled r.root → r.Usable key → r.Hosts d key.category → r.Vacant d key →
      (∀ content, d.readBytes (r.pathOf key) = .ok content →
        ∃ text : String, content = text.toUTF8) → r.Revertible d key) := by
  refine ⟨fun h => h.revert hd hkey, fun h => ?_, revertible_of_settled hd⟩
  rcases hrun : (r.revert key).runOn d with ⟨result, e⟩
  cases result with
  | ok changed => exact absurd (revertible_of_revert hd hkey hrun) h
  | error err =>
      obtain ⟨⟨path, fault, rfl⟩, hframe⟩ := revert_eq_error hkey hrun
      exact ⟨path, fault, e, rfl, hframe⟩

/-- A disk with one override. -/
def overridden (content : ByteArray) : Disk where
  entries := [(["h"], .directory), (["h", "1.2.0"], .directory), (["h", "1.2.0", "rpc"], .directory),
    (["h", "1.2.0", "rpc", "etc.tpl"], .file content)]

theorem wellFormed_overridden (content : ByteArray) : (overridden content).WellFormed :=
  Disk.wellFormed_of_entries rfl rfl

theorem revert_repairs_edited : ∃ e,
    (revert ⟨⟨"/h"⟩⟩ ⟨.rpc, "etc.tpl"⟩).runOn (overridden "mine".toUTF8) = (.ok true, e) ∧
      Reverted ⟨⟨"/h"⟩⟩ (overridden "mine".toUTF8) ⟨.rpc, "etc.tpl"⟩ BuiltinText.rpcEtc true e := by
  have hlook : (overridden "mine".toUTF8).look (pathOf ⟨⟨"/h"⟩⟩ ⟨.rpc, "etc.tpl"⟩) =
      .ok (["h", "1.2.0", "rpc", "etc.tpl"], .file "mine".toUTF8) := by decide
  have hkey : TemplateKey.builtinText? ⟨.rpc, "etc.tpl"⟩ = some BuiltinText.rpcEtc := rfl
  obtain ⟨hrevert, -, hsettled⟩ := revert_repairs (r := ⟨⟨"/h"⟩⟩)
    (wellFormed_overridden "mine".toUTF8) hkey
  obtain ⟨changed, e, hrun, hreverted⟩ := hrevert (hsettled (by decide) (by decide)
    (Or.inl (by decide)) (Or.inr (Disk.isFile_iff.mpr ⟨_, _, hlook⟩)) fun content hbytes =>
      ⟨"mine", Except.ok.inj (hbytes.symm.trans (Disk.readBytes_of_look hlook))⟩)
  have hanswer : ((revert ⟨⟨"/h"⟩⟩ ⟨.rpc, "etc.tpl"⟩).runOn (overridden "mine".toUTF8)).1 =
      .ok true := by decide
  rw [hrun] at hanswer
  obtain rfl := Except.ok.inj hanswer
  exact ⟨e, hrun, hreverted⟩

/-- An override that is no text is refused, although updating its category writes
over it. -/
theorem revert_refuses_octets :
    (¬ ∀ (r : Repository) (d : Disk) (key : TemplateKey) (text : String), d.WellFormed →
      key.builtinText? = some text → r.Hosts d key.category → r.Vacant d key →
        ∃ changed e, (r.revert key).runOn d = (.ok changed, e)) ∧
    ((revert ⟨⟨"/h"⟩⟩ ⟨.rpc, "etc.tpl"⟩).runOn (overridden ⟨#[0xff]⟩)).1 =
      .error (.io "/h/1.2.0/rpc/etc.tpl" .invalidUtf8) ∧
    ((update ⟨⟨"/h"⟩⟩ .rpc).runOn (overridden ⟨#[0xff]⟩)).1 = .ok 3 := by
  have hrefused : ((revert ⟨⟨"/h"⟩⟩ ⟨.rpc, "etc.tpl"⟩).runOn (overridden ⟨#[0xff]⟩)).1 =
      .error (.io "/h/1.2.0/rpc/etc.tpl" .invalidUtf8) := by decide
  refine ⟨fun h => ?_, hrefused, by decide +kernel⟩
  obtain ⟨changed, e, hrun⟩ := h ⟨⟨"/h"⟩⟩ (overridden ⟨#[0xff]⟩) ⟨.rpc, "etc.tpl"⟩ BuiltinText.rpcEtc
    (wellFormed_overridden _) rfl (Or.inl (by decide)) (Or.inr (by decide))
  rw [hrun] at hrefused
  exact absurd hrefused nofun

end Repository

end Scaffold
