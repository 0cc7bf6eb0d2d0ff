import Scaffold.Proofs.Disk.WellFormed
import Scaffold.Proofs.Path.Parents

/-!
# What can be made

A path can fail to resolve for three reasons: something on the way is missing,
something on the way is a file, or its text or one of its names is too long.
Making directories takes the first away. So where no file is in the way and the
text is short enough, directories and files can be made.
-/

namespace Scaffold

open Scaffold.Path

namespace Disk

variable {d e : Disk} {p : Path}

/-! ## Walking over directories -/

/-- Names that a directory can hold. -/
def Fits (p : Path) : Prop := ∀ name, .name name ∈ p.components → name.utf8ByteSize ≤ nameLimit

/-- Whether a component is no name that is too long. -/
def fitsComponent : Component → Bool
  | .name text => text.utf8ByteSize ≤ nameLimit
  | _ => true

theorem fits_iff : Fits p ↔ p.components.all fitsComponent = true := by
  rw [List.all_eq_true]
  constructor
  · intro h c hc
    cases c with
    | name text => exact decide_eq_true (h text hc)
    | root => rfl
    | here => rfl
    | parent => rfl
  · exact fun h name hname => of_decide_eq_true (h _ hname)

instance (p : Path) : Decidable (Fits p) := decidable_of_iff _ fits_iff.symm

/-- A step from a directory succeeds, unless it is to a name that is too long. -/
theorem step_of_directory {at_ : Location} {segment : String}
    (hdir : d.find? at_ = some .directory)
    (hfits : ∀ name, componentOf segment = some (.name name) → name.utf8ByteSize ≤ nameLimit) :
    d.step at_ segment = .ok (follow at_ (componentOf segment).toList) := by
  unfold step componentOf at *
  rw [hdir]
  dsimp only
  split
  · next hblank => rfl
  · next hblank =>
    rw [if_neg hblank] at hfits
    split
    · next hup => rfl
    · next hup =>
      rw [if_neg hup] at hfits
      rw [if_neg (Nat.not_lt.mpr (hfits segment rfl))]
      rfl

theorem walk_of_directories {at_ : Location} {segments : List String}
    (hfits : ∀ name, .name name ∈ segments.filterMap componentOf → name.utf8ByteSize ≤ nameLimit)
    (hdirs : ∀ before segment after, segments = before ++ segment :: after →
      d.find? (follow at_ (before.filterMap componentOf)) = some .directory) :
    d.walk at_ segments = .ok (follow at_ (segments.filterMap componentOf)) := by
  induction segments generalizing at_ with
  | nil => rfl
  | cons segment rest ih =>
      rw [filterMap_componentOf_cons] at hfits
      have hstep := step_of_directory (hdirs [] segment rest rfl) fun name hname =>
        hfits name (List.mem_append_left _ (by rw [hname]; exact List.mem_cons_self))
      rw [filterMap_componentOf_cons, follow_append]
      refine walk_cons_eq_ok.mpr ⟨_, hstep, ih ?_ ?_⟩
      · exact fun name hname => hfits name (List.mem_append_right _ hname)
      · intro before other after hsplit
        have hnext := hdirs (segment :: before) other after (by rw [hsplit]; rfl)
        rwa [filterMap_componentOf_cons, follow_append] at hnext

/-- Where no file is in the way a walk can only miss something. -/
theorem walk_ok_or_notFound {at_ : Location} {segments : List String}
    (hfits : ∀ name, .name name ∈ segments.filterMap componentOf → name.utf8ByteSize ≤ nameLimit)
    (hfiles : ∀ before segment after, segments = before ++ segment :: after →
      ∀ content, d.find? (follow at_ (before.filterMap componentOf)) ≠ some (.file content)) :
    (∃ l, d.walk at_ segments = .ok l) ∨ d.walk at_ segments = .error .notFound := by
  induction segments generalizing at_ with
  | nil => exact Or.inl ⟨at_, rfl⟩
  | cons segment rest ih =>
      rw [filterMap_componentOf_cons] at hfits
      cases hfind : d.find? at_ with
      | none =>
          refine Or.inr ?_
          unfold walk step
          rw [hfind]
      | some entry =>
          cases entry with
          | file content => exact absurd hfind (hfiles [] segment rest rfl content)
          | directory =>
              have hstep := step_of_directory hfind fun name hname =>
                hfits name (List.mem_append_left _ (by rw [hname]; exact List.mem_cons_self))
              rw [walk, hstep]
              refine ih (fun name hname => hfits name (List.mem_append_right _ hname)) ?_
              intro before other after hsplit
              have hnext := hfiles (segment :: before) other after (by rw [hsplit]; rfl)
              rwa [filterMap_componentOf_cons, follow_append] at hnext

theorem step_fits {at_ next : Location} {name : String} (h : d.step at_ name = .ok next)
    (hc : componentOf name = some (.name name)) : name.utf8ByteSize ≤ nameLimit := by
  unfold step componentOf at *
  split at h
  · exact absurd h nofun
  · exact absurd h nofun
  · split at hc
    · exact absurd hc nofun
    · next hblank =>
      rw [if_neg hblank] at h
      split at hc
      · exact absurd (Option.some.inj hc) nofun
      · next hup =>
        rw [if_neg hup] at h
        split at h
        · exact absurd h nofun
        · next hfits => exact Nat.not_lt.mp hfits

/-- A walk that succeeds meets no name that is too long. -/
theorem fits_of_walk {at_ l : Location} {segments : List String}
    (h : d.walk at_ segments = .ok l) (name : String)
    (hname : .name name ∈ segments.filterMap componentOf) : name.utf8ByteSize ≤ nameLimit := by
  induction segments generalizing at_ with
  | nil => exact absurd hname List.not_mem_nil
  | cons segment rest ih =>
      obtain ⟨next, hstep, hrest⟩ := walk_cons_eq_ok.mp h
      rw [filterMap_componentOf_cons] at hname
      rcases List.mem_append.mp hname with hhead | htail
      · have hc : componentOf segment = some (.name name) := by
          simpa [Option.mem_toList] using hhead
        obtain rfl : name = segment := by
          rcases componentOf_eq_some hc with heq | heq
          · exact absurd heq nofun
          · exact Component.name.inj heq
        exact step_fits hstep hc
      · exact ih hrest htail

theorem fits_of_resolve {l : Location} (h : d.resolve p = .ok l) : Fits p := by
  obtain ⟨lead, hcomponents, -, hleads⟩ := components_start d p
  intro name hname
  rw [hcomponents] at hname
  rcases List.mem_append.mp hname with hlead | hinner
  · rcases hleads _ hlead with hroot | hhere
    · exact absurd hroot nofun
    · exact absurd hhere nofun
  · exact fits_of_walk (resolve_eq_ok_iff.mp h).2 name hinner

/-! ## Above a path -/

/-- What lies above a path that resolves is a directory. -/
theorem directory_of_above (hd : d.WellFormed) {l above : Location} (h : d.resolve p = .ok l)
    (habove : d.Above p above) : d.find? above = some .directory := by
  obtain ⟨cs, ⟨rest, hrest⟩, hne, rfl⟩ := habove
  have hwalk := (resolve_eq_ok_iff.mp h).2
  cases rest with
  | nil => exact absurd (by rw [← hrest, List.append_nil]) hne
  | cons c rest =>
      by_cases hlead : c = .root ∨ c = .here
      · rw [eq_nil_of_components hrest.symm hlead]
        exact hd.workingDirectory
      -- any other component comes from a segment, and a step was made there
      · obtain ⟨lead, hcomponents, hstart, hleads⟩ := components_start d p
        have hsplit : lead ++ (d.start p).2.filterMap componentOf = cs ++ c :: rest := by
          rw [← hcomponents, hrest]
        have hbefore : ∃ before, cs = lead ++ before ∧
            (d.start p).2.filterMap componentOf = before ++ c :: rest := by
          rcases List.append_eq_append_iff.mp hsplit with ⟨before, rfl, h⟩ | ⟨more, hmore, h⟩
          · exact ⟨before, rfl, h⟩
          · cases more with
            | nil =>
                rw [List.append_nil] at hmore
                exact ⟨[], by rw [hmore, List.append_nil], h.symm⟩
            | cons first more =>
                obtain ⟨rfl, -⟩ := List.cons.inj h
                have hmem : c ∈ lead := hmore ▸ List.mem_append_right cs List.mem_cons_self
                exact absurd (hleads c hmem) hlead
        obtain ⟨before, rfl, hinner⟩ := hbefore
        obtain ⟨front, back, hsegments, hfront, hback⟩ := List.filterMap_eq_append_iff.mp hinner
        obtain ⟨blank, segment, after, rfl, hblank, -, -⟩ := List.filterMap_eq_cons_iff.mp hback
        have hwalked : (d.start p).2 = (front ++ blank) ++ segment :: after := by
          rw [hsegments, List.append_assoc]
        have hstep := directory_of_walk hwalk hwalked
        rw [List.filterMap_append, List.filterMap_eq_nil_iff.mpr hblank, List.append_nil,
          hfront, ← hstart, ← follow_append] at hstep
        exact hstep

/-- A path that resolves is settled. -/
theorem settled_of_resolve (hd : d.WellFormed) {l : Location} (h : d.resolve p = .ok l) :
    d.Settled p := by
  intro before after hsplit
  refine directory_of_above hd h ⟨before, hsplit ▸ List.prefix_append _ _, fun heq => ?_, rfl⟩
  rw [hsplit, List.self_eq_append_right] at heq
  exact absurd heq (List.cons_ne_nil _ _)

/-- A walk along a trimmed path of several segments ends in a component. -/
theorem last_of_start (hp : p.Trimmed) (hroot : p.text ≠ "/") (hlong : 1 < p.segments.length)
    {front : List String} {last : String} (h : (d.start p).2 = front ++ [last]) :
    ∃ c, componentOf last = some c := by
  obtain ⟨lead, hlead⟩ := segments_start d p
  rw [h, ← List.append_assoc] at hlead
  refine last_of_trimmed hp hroot (fun hnil => ?_) hlead
  rw [hlead, hnil] at hlong
  exact absurd hlong (Nat.lt_irrefl 1)

/-- Every place on the walk along a trimmed path lies above it or is where the
walk starts. -/
theorem above_of_walked (hd : d.WellFormed) (hp : p.Trimmed) {before after : List String}
    {segment : String} (h : (d.start p).2 = before ++ segment :: after) :
    d.Above p (follow (d.start p).1 (before.filterMap componentOf)) ∨
      d.find? (follow (d.start p).1 (before.filterMap componentOf)) = some .directory := by
  obtain ⟨lead, hcomponents, hstart, -⟩ := components_start d p
  cases before with
  | nil =>
      refine Or.inr ?_
      change d.find? (d.start p).1 = _
      unfold start
      split
      · exact find?_nil d
      · exact hd.workingDirectory
  | cons first before =>
      rw [← hstart, ← follow_append]
      rw [h, List.filterMap_append, ← List.append_assoc] at hcomponents
      refine Or.inl ⟨_, hcomponents ▸ List.prefix_append _ _, fun heq => ?_, rfl⟩
      -- the place would be that of the path only if no component came behind it, but the
      -- last segment of a trimmed path is one
      rw [hcomponents, List.self_eq_append_right] at heq
      obtain ⟨init, last, hlast⟩ : ∃ init last, segment :: after = init ++ [last] :=
        ⟨_, _, (List.dropLast_concat_getLast (List.cons_ne_nil segment after)).symm⟩
      have hlong : 1 < p.segments.length := by
        obtain ⟨lead', hlead'⟩ := segments_start d p
        rw [hlead', h]
        simp only [List.length_append, List.length_cons]
        omega
      have hroot : p.text ≠ "/" := by
        intro hroot
        obtain ⟨text⟩ := p
        obtain rfl : text = "/" := hroot
        rw [show d.start ⟨"/"⟩ = ([], [""]) from rfl] at h
        have hlength := congrArg List.length h
        simp at hlength
      have hends : (d.start p).2 = (first :: before ++ init) ++ [last] := by
        rw [h, hlast, List.append_assoc]
      obtain ⟨c, hc⟩ := last_of_start hp hroot hlong hends
      have hmem : c ∈ (segment :: after).filterMap componentOf :=
        List.mem_filterMap.mpr ⟨last, hlast ▸ List.mem_append_right _ List.mem_cons_self, hc⟩
      rw [heq] at hmem
      exact absurd hmem List.not_mem_nil

/-! ## Texts of paths -/

theorem ne_empty_of_refusal? (h : refusal? p = none) : p.text ≠ "" := by
  intro hempty
  unfold refusal? at h
  rw [hempty] at h
  exact absurd h nofun

theorem refusal?_of_starts {up : Path} (h : refusal? p = none) (hne : up.text ≠ "")
    (hstarts : up.text.toList <+: p.text.toList) : refusal? up = none := by
  obtain ⟨rest, hrest⟩ := hstarts
  have htext : p.text = up.text ++ String.ofList rest := String.toList_inj.mp (by simp [hrest])
  unfold refusal? at *
  split at h
  · exact absurd h nofun
  · next hnul =>
    split at h
    · exact absurd h nofun
    · split at h
      · exact absurd h nofun
      · next hlimit =>
        have hup : ¬ up.text.toList.contains (Char.ofNat 0) = true := by
          intro hmem
          apply hnul
          rw [List.contains_iff_mem] at hmem ⊢
          exact hrest ▸ List.mem_append_left _ hmem
        rw [htext, String.utf8ByteSize_append] at hlimit
        rw [if_neg hup, if_neg hne, if_neg (by omega)]

theorem withoutTrailingSlashes_of_trimmed (hp : p.Trimmed) : withoutTrailingSlashes p = p := by
  have hstops := trimTail_stops p.text.toList.reverse
  rw [hp] at hstops
  unfold withoutTrailingSlashes Text.dropEndWhile
  rcases hstops with hroot | ⟨hslash, -⟩
  · rw [hroot]
    rfl
  · have hkeep : p.text.toList.reverse.dropWhile (· == '/') = p.text.toList.reverse := by
      cases hbody : p.text.toList.reverse with
      | nil => rfl
      | cons c cs =>
          have hc : c ≠ '/' := fun hc => hslash cs (hc ▸ hbody)
          exact List.dropWhile_cons_of_neg (by simpa using hc)
    rw [hkeep, List.reverse_reverse]
    cases hchars : p.text.toList with
    | nil => rfl
    | cons c cs =>
        dsimp only
        rw [← hchars, String.ofList_toList]

theorem resolve_root (hp : p.text = "/") : d.resolve p = .ok [] := by
  obtain ⟨text⟩ := p
  obtain rfl : text = "/" := hp
  unfold resolve
  rw [show refusal? ⟨"/"⟩ = none by decide +kernel]
  dsimp only
  rw [show d.start ⟨"/"⟩ = ([], [""]) from rfl]
  unfold walk step
  rw [find?_nil]
  rfl

/-! ## Resolving trimmed paths -/

theorem resolve_of_directories (hd : d.WellFormed) (hp : p.Trimmed) (hrefusal : refusal? p = none)
    (hfits : Fits p) (habove : ∀ l, d.Above p l → d.find? l = some .directory) :
    d.resolve p = .ok (d.placeOf p) := by
  obtain ⟨lead, hcomponents, -, -⟩ := components_start d p
  rw [← follow_start]
  refine resolve_eq_ok_iff.mpr ⟨hrefusal, walk_of_directories (fun name hname => ?_) ?_⟩
  · exact hfits name (hcomponents ▸ List.mem_append_right lead hname)
  · intro before segment after hsplit
    rcases above_of_walked hd hp hsplit with h | h
    · exact habove _ h
    · exact h

/-- Where no file is above it, a trimmed path resolves or leads through something
that is missing. -/
theorem resolve_ok_or_notFound (hd : d.WellFormed) (hp : p.Trimmed)
    (hrefusal : refusal? p = none) (hfits : Fits p)
    (habove : ∀ l, d.Above p l → ∀ content, d.find? l ≠ some (.file content)) :
    d.resolve p = .ok (d.placeOf p) ∨ d.resolve p = .error .notFound := by
  obtain ⟨lead, hcomponents, -, -⟩ := components_start d p
  have hwalk : (∃ l, d.walk (d.start p).1 (d.start p).2 = .ok l) ∨
      d.walk (d.start p).1 (d.start p).2 = .error .notFound := by
    refine walk_ok_or_notFound (fun name hname => ?_) ?_
    · exact hfits name (hcomponents ▸ List.mem_append_right lead hname)
    · intro before segment after hsplit content hfile
      rcases above_of_walked hd hp hsplit with h | h
      · exact habove _ h content hfile
      · rw [h] at hfile
        exact absurd hfile nofun
  rcases hwalk with ⟨l, hl⟩ | hmissing
  · have hresolve := resolve_eq_ok_iff.mpr ⟨hrefusal, hl⟩
    exact Or.inl (resolve_eq_ok hresolve ▸ hresolve)
  · refine Or.inr ?_
    unfold resolve
    rw [hrefusal]
    exact hmissing

/-- A settled path whose text is short enough leads to what lies at its place. -/
theorem look_of_find? (hd : d.WellFormed) (hp : p.Trimmed) (hrefusal : refusal? p = none)
    (hfits : Fits p) (hsettled : d.Settled p) {entry : Entry}
    (hfind : d.find? (d.placeOf p) = some entry) : d.look p = .ok (d.placeOf p, entry) := by
  refine look_eq_ok_iff.mpr ⟨resolve_of_directories hd hp hrefusal hfits fun l hl => ?_, hfind⟩
  obtain ⟨cs, ⟨rest, hrest⟩, hne, rfl⟩ := hl
  cases rest with
  | nil => exact absurd (by rw [← hrest, List.append_nil]) hne
  | cons c rest => exact directory_on_way hd hsettled hrest.symm hfind

/-! ## Making directories -/

/-- What has to hold for directories to be made along a path: its text and its
names are short enough and no file is in the way. -/
structure Makeable (d : Disk) (p : Path) : Prop where
  trimmed : p.Trimmed
  allowed : p.text = "" ∨ refusal? p = none
  fits : Fits p
  noFile : ∀ l, d.Along p l → ∀ content, d.find? l ≠ some (.file content)

/-- The way up is the way above. -/
theorem along_parent_of_above {up : Path} (hup : p.parent? = some up) {l : Location}
    (h : d.Above p l) : d.Along up l := by
  obtain ⟨c, hc⟩ := components_of_parent? hup
  obtain ⟨cs, hcs, hne, rfl⟩ := h
  rw [hc] at hcs hne
  rcases List.prefix_concat_iff.mp hcs with heq | hcs
  · exact absurd heq hne
  · exact ⟨cs, hcs, rfl⟩

theorem along_of_above {l : Location} (h : d.Above p l) : d.Along p l := by
  obtain ⟨cs, hcs, -, hl⟩ := h
  exact ⟨cs, hcs, hl⟩

theorem eq_or_above_of_along {l : Location} (h : d.Along p l) : l = d.placeOf p ∨ d.Above p l := by
  obtain ⟨cs, hcs, rfl⟩ := h
  by_cases heq : cs = p.components
  · exact Or.inl (by rw [heq]; rfl)
  · exact Or.inr ⟨cs, hcs, heq, rfl⟩

section Parent

variable {up : Path}

theorem Fits.parent (h : Fits p) (hup : p.parent? = some up) : Fits up := by
  obtain ⟨c, hc⟩ := components_of_parent? hup
  exact fun name hname => h name (hc ▸ List.mem_append_left _ hname)

theorem Settled.parent (h : d.Settled p) (hup : p.parent? = some up) : d.Settled up := by
  obtain ⟨c, hc⟩ := components_of_parent? hup
  intro before after hsplit
  exact h before (after ++ [c]) (by rw [hc, hsplit, List.append_assoc, List.cons_append])

theorem allowed_parent (h : refusal? p = none) (hup : p.parent? = some up) :
    up.text = "" ∨ refusal? up = none := by
  by_cases hempty : up.text = ""
  · exact Or.inl hempty
  · exact Or.inr (refusal?_of_starts h hempty (prefix_of_parent? hup))

theorem Makeable.parent (h : d.Makeable p) (hup : p.parent? = some up) : d.Makeable up := by
  refine ⟨trimmed_of_parent? hup, ?_, h.fits.parent hup,
    fun l hl => h.noFile l (along_of_above (above_of_along_parent hup hl))⟩
  refine allowed_parent (h.allowed.resolve_left fun hempty => ?_) hup
  have hlength := length_of_parent? hup
  rw [hempty] at hlength
  exact absurd hlength (Nat.not_lt_zero _)

end Parent

/-- When a path resolves to a directory, so does everything along it. -/
theorem directory_of_along (hd : d.WellFormed) (hp : d.resolve p = .ok (d.placeOf p))
    (hfind : d.find? (d.placeOf p) = some .directory) {l : Location} (hl : d.Along p l) :
    d.find? l = some .directory := by
  rcases eq_or_above_of_along hl with rfl | habove
  · exact hfind
  · exact directory_of_above hd hp habove

theorem find?_set_directory (d : Disk) (l : Location) :
    (d.set l .directory).find? l = some .directory := by
  by_cases hl : l = []
  · rw [hl]
    exact find?_nil _
  · rw [find?_set d l l _ hl, if_pos rfl]

theorem makeDirectory_eq_of_resolve (hp : p.Trimmed) {l : Location} (hl : d.resolve p = .ok l) :
    d.makeDirectory p = match d.find? l with
      | some _ => .error .alreadyExists
      | none => .ok (d.set l .directory) := by
  cases hfind : d.find? l <;>
    simp only [makeDirectory, withoutTrailingSlashes_of_trimmed hp, hl, hfind]

theorem makeDirectory_of_resolve_error (hp : p.Trimmed) {fault : IoFault}
    (hl : d.resolve p = .error fault) : d.makeDirectory p = .error fault := by
  unfold makeDirectory
  rw [withoutTrailingSlashes_of_trimmed hp, hl]

/-! ## The last directory -/

theorem put_of_resolve_error (hp : p.Trimmed) {fault : IoFault} (h : d.resolve p = .error fault) :
    d.makeDirectory p = .error fault ∧ d.put p = (.error fault, d) := by
  have hmake := makeDirectory_of_resolve_error hp h
  refine ⟨hmake, ?_⟩
  unfold put isDirectory look
  rw [hmake, h]
  rfl

theorem put_of_resolve_ok (hp : p.Trimmed) {l : Location} (h : d.resolve p = .ok l) :
    d.makeDirectory p ≠ .error .notFound ∧ d.put p =
      match d.find? l with
      | none => (.ok (), d.set l .directory)
      | some .directory => (.ok (), d)
      | some (.file _) => (.error .alreadyExists, d) := by
  have hmake := makeDirectory_eq_of_resolve hp h
  have hdirectory : d.isDirectory p = d.isDirectoryAt l := by
    unfold isDirectory look isDirectoryAt
    rw [h]
    dsimp only
    cases d.find? l with
    | none => rfl
    | some entry => cases entry <;> rfl
  unfold put
  rw [hdirectory, isDirectoryAt]
  cases hfind : d.find? l with
  | none =>
      rw [hfind] at hmake
      rw [hmake]
      exact ⟨by simp, rfl⟩
  | some entry =>
      rw [hfind] at hmake
      rw [hmake]
      cases entry <;> exact ⟨by simp, rfl⟩

/-- Where a path resolves and nothing is in the way, it and all that it passes are
directories in the end. -/
theorem put_of_makeable (hd : d.WellFormed) (h : d.Makeable p)
    (hl : d.resolve p = .ok (d.placeOf p)) :
    ∃ e, d.put p = (.ok (), e) ∧ ∀ l, d.Along p l → e.find? l = some .directory := by
  have hput := (put_of_resolve_ok h.trimmed hl).2
  cases hfind : d.find? (d.placeOf p) with
  | none =>
      have hmake := makeDirectory_eq_of_resolve h.trimmed hl
      rw [hfind] at hput hmake
      refine ⟨_, hput, fun l hl' => ?_⟩
      exact directory_of_along (hd.makeDirectory hmake)
        ((frame_makeDirectory hmake).resolve_eq_ok hl) (find?_set_directory d _) hl'
  | some entry =>
      cases entry with
      | file content => exact absurd hfind (h.noFile _ (d.along_placeOf p) content)
      | directory =>
          rw [hfind] at hput
          exact ⟨d, hput, fun l hl' => directory_of_along hd hl hfind hl'⟩

/-! ## All directories along a path -/

theorem Makeable.frame {directories : Location → Prop} (h : d.Makeable p)
    (hframe : Frame (fun _ => False) directories d e) : e.Makeable p := by
  refine ⟨h.trimmed, h.allowed, h.fits, fun l hl content hfile => ?_⟩
  exact h.noFile l (along_congr hframe.workingDirectory hl) content (hframe.file id hfile)

/-- Directories can be made along a path if nothing is in the way, the steps up out
of missing directories included: these are made as well. The induction is on the
bound, which the texts of the parents keep below. -/
theorem makeDirectoriesWithin_ok (depth : Nat) (hd : d.WellFormed) (h : d.Makeable p)
    (hdepth : p.text.length < depth) :
    ∃ e, makeDirectoriesWithin depth d p = (.ok (), e) ∧
      ∀ l, d.Along p l → e.find? l = some .directory := by
  induction depth generalizing d p with
  | zero => exact absurd hdepth (Nat.not_lt_zero _)
  | succ depth ih =>
      rcases h.allowed with hempty | hrefusal
      · refine ⟨d, makeDirectoriesWithin_of_empty depth hempty, fun l hl => ?_⟩
        obtain ⟨cs, hcs, rfl⟩ := hl
        rw [components_of_empty hempty, List.prefix_nil] at hcs
        rw [hcs]
        exact hd.workingDirectory
      · have hne : p.text ≠ "" := ne_empty_of_refusal? hrefusal
        rcases resolve_ok_or_notFound hd h.trimmed hrefusal h.fits
          (fun l hl => h.noFile l (along_of_above hl)) with hl | hmissing
        -- all that is above is there
        · obtain ⟨e, hput, halong⟩ := put_of_makeable hd h hl
          have hfound := makeDirectoriesWithin_of_found depth hne (put_of_resolve_ok h.trimmed hl).1
          exact ⟨e, hfound.trans hput, halong⟩
        -- something above is missing, and is made before the last directory is tried again
        · cases hup : p.parent? with
          | none =>
              have hroot := (parent?_eq_none h.trimmed hup).resolve_left hne
              rw [resolve_root hroot] at hmissing
              cases hmissing
          | some up =>
              obtain ⟨m, hmade, hdirectories⟩ := ih hd (h.parent hup)
                (by have := length_of_parent? hup; omega)
              have hframe := frame_makeDirectoriesWithin depth d up
              have hformed := hd.makeDirectoriesWithin depth up
              rw [hmade] at hframe hformed
              dsimp only at hframe hformed
              have hresolve : m.resolve p = .ok (m.placeOf p) :=
                resolve_of_directories hformed h.trimmed hrefusal h.fits fun l hl =>
                  hdirectories l (along_parent_of_above hup (above_congr hframe.workingDirectory hl))
              obtain ⟨e, hput, halong⟩ := put_of_makeable hformed (h.frame hframe) hresolve
              refine ⟨e, ?_, fun l hl => halong l (along_congr hframe.workingDirectory.symm hl)⟩
              rw [makeDirectoriesWithin_of_missing depth hne
                (makeDirectory_of_resolve_error h.trimmed hmissing) hup, hmade]
              exact hput

theorem makeDirectories_ok (hd : d.WellFormed) (h : d.Makeable p) :
    ∃ e, d.makeDirectories p = (.ok (), e) ∧ ∀ l, d.Along p l → e.find? l = some .directory :=
  makeDirectoriesWithin_ok _ hd h (Nat.lt_succ_self _)

/-! ## Writing files -/

/-- What has to hold for a file to be written: its text and its names are short
enough, no file is above it, it is no directory and none is made of it on the way. -/
structure Fillable (d : Disk) (p : Path) : Prop where
  trimmed : p.Trimmed
  allowed : refusal? p = none
  fits : Fits p
  noFile : ∀ l, d.Above p l → ∀ content, d.find? l ≠ some (.file content)
  notDirectory : d.find? (d.placeOf p) ≠ some .directory
  aside : ¬ d.Above p (d.placeOf p)

theorem Fillable.parent {up : Path} (h : d.Fillable p) (hup : p.parent? = some up) :
    d.Makeable up :=
  ⟨trimmed_of_parent? hup, allowed_parent h.allowed hup, h.fits.parent hup,
    fun l hl => h.noFile l (above_of_along_parent hup hl)⟩

/-- What has to hold for a file to be written at a settled path: its text and its
names are short enough, no file is above it and it is no directory. -/
structure Writable (d : Disk) (p : Path) : Prop where
  trimmed : p.Trimmed
  allowed : refusal? p = none
  fits : Fits p
  settled : d.Settled p
  noFile : ∀ l, d.Above p l → ∀ content, d.find? l ≠ some (.file content)
  notDirectory : d.find? (d.placeOf p) ≠ some .directory

/-- A settled path does not lead through its own place. -/
theorem Writable.fillable (h : d.Writable p) (hd : d.WellFormed) : d.Fillable p := by
  refine ⟨h.trimmed, h.allowed, h.fits, h.noFile, h.notDirectory, fun habove => ?_⟩
  cases hfind : d.find? (d.placeOf p) with
  | none =>
      have hne := ne_placeOf_of_above hd h.settled habove hfind []
      exact hne (List.append_nil _).symm
  | some entry =>
      cases entry with
      | file content => exact h.noFile _ habove content hfind
      | directory => exact h.notDirectory hfind

/-- A path that leads to a file can be written. -/
theorem writable_of_file (hd : d.WellFormed) (hp : p.Trimmed) {l : Location} {content : ByteArray}
    (h : d.look p = .ok (l, .file content)) : d.Writable p := by
  obtain ⟨hresolve, hfind⟩ := look_eq_ok_iff.mp h
  have habove : ∀ l, d.Above p l → d.find? l = some .directory :=
    fun l hl => directory_of_above hd hresolve hl
  refine ⟨hp, (resolve_eq_ok_iff.mp hresolve).1, fits_of_resolve hresolve,
    settled_of_resolve hd hresolve, ?_, ?_⟩
  · intro l hl content hfile
    rw [habove l hl] at hfile
    exact absurd hfile nofun
  · rw [← resolve_eq_ok hresolve, hfind]
    exact nofun

end Disk

namespace Action

variable {d e : Disk} {p : Path} {text : String}

/-- A file can be written if nothing is in the way. -/
theorem writeFile_of_fillable (hd : d.WellFormed) (h : d.Fillable p) (text : String) :
    ∃ e, (writeFile p text).runOn d = (.ok (), e) := by
  cases hup : p.parent? with
  | none =>
      rcases parent?_eq_none h.trimmed hup with hempty | hroot
      · exact absurd hempty (Disk.ne_empty_of_refusal? h.allowed)
      · have hplace := Disk.resolve_eq_ok (Disk.resolve_root (d := d) hroot)
        exact absurd (hplace ▸ d.find?_nil) h.notDirectory
  | some up =>
      obtain ⟨m, hmade, halong⟩ := Disk.makeDirectories_ok hd (h.parent hup)
      have hrun : (makeDirectories up).runOn d = (.ok (), m) := by
        unfold runOn makeDirectories
        rw [hmade]
      have hframe := frame_makeDirectories up d
      have hformed := wellFormed_makeDirectories hd up
      rw [hrun] at hframe hformed
      have hresolve : m.resolve p = .ok (d.placeOf p) := by
        rw [← Disk.placeOf_congr hframe.workingDirectory p]
        exact Disk.resolve_of_directories hformed h.trimmed h.allowed h.fits fun l hl =>
          halong l (Disk.along_parent_of_above hup (Disk.above_congr hframe.workingDirectory hl))
      have hkeep : m.find? (d.placeOf p) = d.find? (d.placeOf p) :=
        hframe.find?_eq id fun _ hplace => h.aside (Disk.above_of_along_parent hup hplace)
      have hwrite := Disk.writeBytes_of_resolve hresolve (hkeep ▸ h.notDirectory) text.toUTF8
      refine ⟨m.set (d.placeOf p) (.file text.toUTF8), ?_⟩
      rw [writeFile_of_some hup, runOn_bind_of_ok hrun]
      exact runOn_writeBytes_of_ok hwrite

theorem writeFile_ok (hd : d.WellFormed) (h : d.Writable p) (text : String) :
    ∃ e, (writeFile p text).runOn d = (.ok (), e) :=
  writeFile_of_fillable hd (h.fillable hd) text

/-- What a written file holds, by its place. -/
theorem find?_of_writeFile (h : (writeFile p text).runOn d = (.ok (), e)) :
    e.find? (d.placeOf p) = some (.file text.toUTF8) := by
  have hchange := changesAt_writeFile p text d
  rw [h] at hchange
  have hlook := Disk.look_of_readBytes (readBytes_of_writeFile h)
  rw [Disk.placeOf_congr hchange.workingDirectory] at hlook
  exact (Disk.look_eq_ok_iff.mp hlook).2

theorem fits_of_writeFile (h : (writeFile p text).runOn d = (.ok (), e)) : Disk.Fits p :=
  Disk.fits_of_resolve (Disk.look_eq_ok_iff.mp (Disk.look_of_readBytes (readBytes_of_writeFile h))).1

/-- Writing over a file changes what it holds and nothing else. -/
theorem writeFile_of_file (hd : d.WellFormed) (hp : p.Trimmed) {l : Location}
    {content : ByteArray} (hlook : d.look p = .ok (l, .file content)) (text : String) :
    ∃ e, (writeFile p text).runOn d = (.ok (), e) ∧ e.workingDirectory = d.workingDirectory ∧
      ∀ k, e.find? k = if k = d.placeOf p then some (.file text.toUTF8) else d.find? k := by
  obtain ⟨e, hwrite⟩ := writeFile_ok hd (Disk.writable_of_file hd hp hlook) text
  have hchange := changesAt_writeFile p text d
  rw [hwrite] at hchange
  refine ⟨e, hwrite, hchange.workingDirectory, fun k => ?_⟩
  by_cases hk : k = d.placeOf p
  · rw [if_pos hk, hk]
    exact find?_of_writeFile hwrite
  · rw [if_neg hk]
    refine Disk.Frame.find?_eq hchange ?_ ?_
    · rintro ⟨q, rfl, hq⟩
      exact hk hq
    · rintro hnone ⟨q, rfl, habove⟩
      rw [Disk.directory_of_above hd (Disk.look_eq_ok_iff.mp hlook).1 habove] at hnone
      exact absurd hnone nofun

end Action

end Scaffold
