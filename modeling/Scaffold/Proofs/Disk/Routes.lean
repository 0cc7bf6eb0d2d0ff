import Scaffold.Proofs.Disk.Making

/-!
# Routes

A walk along a trimmed path takes one step for each of its components, so it goes
where the walk along the parent goes and then one step on. Making directories
along a path is therefore making those along its parent and then the last one,
whether or not they are missing.
-/

namespace Scaffold

open Scaffold.Path

namespace Disk

variable {d e : Disk} {p up : Path}

/-! ## Steps of components -/

/-- The step of a component from a location. -/
def pace (d : Disk) (at_ : Location) : Component → Except IoFault Location
  | .root => .ok []
  | .here => .ok at_
  | .parent => d.step at_ ".."
  | .name text => d.step at_ text

/-- Where the components of a path lead, or the fault on the way. -/
def route (d : Disk) (p : Path) : Except IoFault Location :=
  p.components.foldlM d.pace d.workingDirectory

theorem pace_of_component {segment : String} {c : Component} (h : componentOf segment = some c)
    (at_ : Location) : d.pace at_ c = d.step at_ segment := by
  rcases componentOf_eq_some h with rfl | rfl
  · have hup : segment = ".." := by
      unfold componentOf at h
      split at h
      · exact absurd h nofun
      · split at h
        · assumption
        · exact absurd (Option.some.inj h) nofun
    rw [hup]
    rfl
  · rfl

theorem step_blank {at_ : Location} {segment : String} (hdir : d.find? at_ = some .directory)
    (hblank : componentOf segment = none) : d.step at_ segment = .ok at_ := by
  rw [step_of_directory hdir (by rw [hblank]; exact fun _ => nofun), hblank]
  rfl

/-- Every step from what is no directory has the same fault. -/
theorem step_of_not_directory {at_ : Location} (h : d.find? at_ ≠ some .directory)
    (segment : String) :
    d.step at_ segment = .error (if d.find? at_ = none then .notFound else .notADirectory) := by
  unfold step
  cases hfind : d.find? at_ with
  | none => rfl
  | some entry =>
      cases entry with
      | directory => exact absurd hfind h
      | file content => rfl

/-- The blank segments of a walk do not count when a component comes last. -/
theorem walk_eq_foldlM {at_ : Location} {segments : List String}
    (hlast : ∀ front last, segments = front ++ [last] → ∃ c, componentOf last = some c) :
    d.walk at_ segments = (segments.filterMap componentOf).foldlM d.pace at_ := by
  induction segments generalizing at_ with
  | nil => rfl
  | cons segment rest ih =>
      have hrest : ∀ front last, rest = front ++ [last] → ∃ c, componentOf last = some c :=
        fun front last h => hlast (segment :: front) last (by rw [h]; rfl)
      cases hc : componentOf segment with
      | some c =>
          rw [List.filterMap_cons_some hc, List.foldlM_cons, pace_of_component hc, walk]
          cases d.step at_ segment with
          | error fault => rfl
          | ok next => exact ih hrest
      | none =>
          rw [List.filterMap_cons_none hc, walk]
          by_cases hdir : d.find? at_ = some .directory
          · rw [step_blank hdir hc]
            exact ih hrest
          · -- the first component behind the blanks meets the fault that they meet
            have hfault := step_of_not_directory hdir
            rcases List.eq_nil_or_concat rest with rfl | ⟨front, last, rfl⟩
            · obtain ⟨c, hc'⟩ := hlast [] segment rfl
              rw [hc] at hc'
              cases hc'
            · rw [List.concat_eq_append] at hrest ⊢
              obtain ⟨c, hc'⟩ := hrest front last rfl
              have hmem : c ∈ (front ++ [last]).filterMap componentOf :=
                List.mem_filterMap.mpr ⟨last, List.mem_append_right _ List.mem_cons_self, hc'⟩
              obtain ⟨first, cs, hcs⟩ := List.exists_cons_of_ne_nil (List.ne_nil_of_mem hmem)
              obtain ⟨other, -, hother⟩ := List.mem_filterMap.mp (hcs ▸ List.mem_cons_self)
              rw [hcs, List.foldlM_cons, pace_of_component hother, hfault, hfault]
              rfl

theorem foldlM_lead {at_ : Location} {lead : List Component}
    (h : ∀ c ∈ lead, c = .root ∨ c = .here) : lead.foldlM d.pace at_ = .ok (follow at_ lead) := by
  induction lead generalizing at_ with
  | nil => rfl
  | cons c lead ih =>
      have hlead : ∀ c ∈ lead, c = .root ∨ c = .here := fun c hc => h c (List.mem_cons_of_mem _ hc)
      rcases h c List.mem_cons_self with rfl | rfl
      · exact ih hlead
      · exact ih hlead

/-- A path of one segment, which can be the dot, takes one step at most. -/
theorem walk_of_single (hd : d.WellFormed) {segment : String} (h : p.segments = [segment]) :
    d.walk (d.start p).1 (d.start p).2 =
      ((d.start p).2.filterMap componentOf).foldlM d.pace (d.start p).1 := by
  have habs : p.isAbsolute = false := by
    rw [Bool.eq_false_iff]
    intro habs
    obtain ⟨first, rest, hsegments⟩ := (isAbsolute_iff p).mp habs
    rw [h] at hsegments
    exact absurd (congrArg List.length hsegments) (by simp)
  have hstart : d.start p = (d.workingDirectory, [segment]) := by
    unfold start
    rw [habs, h]
    rfl
  rw [hstart]
  cases hc : componentOf segment with
  | none =>
      rw [walk, step_blank hd.workingDirectory hc, List.filterMap_cons_none hc]
      rfl
  | some c =>
      refine walk_eq_foldlM fun front last hsplit => ?_
      have hlast : [] ++ [segment] = front ++ [last] := hsplit
      exact ⟨c, List.singleton_inj.mp (List.append_inj' hlast rfl).2 ▸ hc⟩

/-- A trimmed path leads where its components lead. -/
theorem resolve_eq_route (hd : d.WellFormed) (hp : p.Trimmed) (hrefusal : refusal? p = none) :
    d.resolve p = d.route p := by
  obtain ⟨lead, hcomponents, hstart, hleads⟩ := components_start d p
  have hroute : d.route p = ((d.start p).2.filterMap componentOf).foldlM d.pace (d.start p).1 := by
    rw [route, hcomponents, List.foldlM_append, foldlM_lead hleads, hstart]
    rfl
  unfold resolve
  rw [hrefusal, hroute]
  dsimp only
  by_cases hroot : p.text = "/"
  · obtain ⟨text⟩ := p
    obtain rfl : text = "/" := hroot
    rw [show d.start ⟨"/"⟩ = ([], [""]) from rfl, walk, step_blank (find?_nil d) rfl]
    rfl
  · by_cases hlong : 1 < p.segments.length
    · exact walk_eq_foldlM fun front last h => last_of_start hp hroot hlong h
    · have hlength := List.length_pos_iff.mpr p.segments_ne_nil
      obtain ⟨segment, hsegment⟩ := List.length_eq_one_iff.mp (by omega : p.segments.length = 1)
      exact walk_of_single hd hsegment

theorem route_of_empty (hempty : p.text = "") : d.route p = .ok d.workingDirectory := by
  rw [route, components_of_empty hempty]
  rfl

theorem route_eq_ok (hd : d.WellFormed) (hp : p.Trimmed)
    (hallowed : p.text = "" ∨ refusal? p = none) {l : Location} (h : d.route p = .ok l) :
    l = d.placeOf p := by
  rcases hallowed with hempty | hrefusal
  · rw [route_of_empty hempty] at h
    rw [placeOf, components_of_empty hempty, ← Except.ok.inj h]
    rfl
  · exact resolve_eq_ok ((resolve_eq_route hd hp hrefusal).trans h)

/-- A route goes one step on from the parent. -/
theorem route_of_parent (hup : p.parent? = some up) :
    ∃ c, p.components = up.components ++ [c] ∧ d.route p = d.route up >>= fun l => d.pace l c := by
  obtain ⟨c, hc⟩ := components_of_parent? hup
  refine ⟨c, hc, ?_⟩
  rw [route, route, hc, List.foldlM_append]
  congr 1
  funext l
  rw [List.foldlM_cons]
  cases d.pace l c <;> rfl

/-- Nothing is below a parent that is no directory. -/
theorem route_below (hd : d.WellFormed) (hup : p.parent? = some up) {l : Location}
    (h : d.route up = .ok l) (hnot : d.find? l ≠ some .directory) :
    d.route p = .error (if d.find? l = none then .notFound else .notADirectory) := by
  obtain ⟨c, hcomponents, hroute⟩ := route_of_parent (d := d) hup
  -- without components the parent would be the working directory, and that is there
  have hnil : up.components ≠ [] := by
    intro hnil
    rw [route, hnil] at h
    exact hnot (Except.ok.inj h ▸ hd.workingDirectory)
  rw [hroute, h]
  change d.pace l c = _
  cases c with
  | root => exact absurd (eq_nil_of_components hcomponents (Or.inl rfl)) hnil
  | here => exact absurd (eq_nil_of_components hcomponents (Or.inr rfl)) hnil
  | parent => exact step_of_not_directory hnot ".."
  | name text => exact step_of_not_directory hnot text

theorem route_below_file (hd : d.WellFormed) (hup : p.parent? = some up) {l : Location}
    {content : ByteArray} (h : d.route up = .ok l) (hfile : d.find? l = some (.file content)) :
    d.route p = .error .notADirectory := by
  rw [route_below hd hup h (by rw [hfile]; exact nofun), hfile, if_neg nofun]

theorem route_below_missing (hd : d.WellFormed) (hup : p.parent? = some up) {l : Location}
    (h : d.route up = .ok l) (hmissing : d.find? l = none) : d.route p = .error .notFound := by
  rw [route_below hd hup h (by rw [hmissing]; exact nofun), if_pos hmissing]

/-! ## The last directory -/

section Trimmed

variable (hd : d.WellFormed) (hp : p.Trimmed) (hrefusal : refusal? p = none)
include hd hp hrefusal

theorem put_of_route_error {fault : IoFault} (h : d.route p = .error fault) :
    d.makeDirectory p = .error fault ∧ d.put p = (.error fault, d) :=
  put_of_resolve_error hp ((resolve_eq_route hd hp hrefusal).trans h)

theorem put_of_route_ok {l : Location} (h : d.route p = .ok l) :
    d.makeDirectory p ≠ .error .notFound ∧ d.put p =
      match d.find? l with
      | none => (.ok (), d.set l .directory)
      | some .directory => (.ok (), d)
      | some (.file _) => (.error .alreadyExists, d) :=
  put_of_resolve_ok hp ((resolve_eq_route hd hp hrefusal).trans h)

end Trimmed

/-! ## One level of making directories -/

/-- Where directories are, none are made. -/
theorem makeDirectoriesWithin_of_directory (depth : Nat) (hd : d.WellFormed) (hp : p.Trimmed)
    (hallowed : p.text = "" ∨ refusal? p = none) {l : Location} (h : d.route p = .ok l)
    (hfind : d.find? l = some .directory) : makeDirectoriesWithin (depth + 1) d p = (.ok (), d) := by
  rcases hallowed with hempty | hrefusal
  · exact makeDirectoriesWithin_of_empty depth hempty
  · obtain ⟨hmake, hput⟩ := put_of_route_ok hd hp hrefusal h
    rw [makeDirectoriesWithin_of_found depth (ne_empty_of_refusal? hrefusal) hmake, hput, hfind]

theorem makeDirectoriesWithin_of_resolve_error (depth : Nat) (hp : p.Trimmed) (hne : p.text ≠ "")
    {fault : IoFault} (h : d.resolve p = .error fault) (hfault : fault ≠ .notFound) :
    makeDirectoriesWithin (depth + 1) d p = (.error fault, d) := by
  obtain ⟨hmake, hput⟩ := put_of_resolve_error hp h
  rw [makeDirectoriesWithin_of_found depth hne ?_, hput]
  rw [hmake]
  exact fun heq => hfault (Except.error.inj heq)

theorem makeDirectoriesWithin_of_fault (depth : Nat) (hd : d.WellFormed) (hp : p.Trimmed)
    (hrefusal : refusal? p = none) {fault : IoFault} (h : d.route p = .error fault)
    (hfault : fault ≠ .notFound) : makeDirectoriesWithin (depth + 1) d p = (.error fault, d) :=
  makeDirectoriesWithin_of_resolve_error depth hp (ne_empty_of_refusal? hrefusal)
    ((resolve_eq_route hd hp hrefusal).trans h) hfault

/-- A refused path is refused without a look at its parents. -/
theorem makeDirectoriesWithin_of_refusal (depth : Nat) (hp : p.Trimmed) (hne : p.text ≠ "")
    {fault : IoFault} (h : refusal? p = some fault) :
    makeDirectoriesWithin (depth + 1) d p = (.error fault, d) := by
  have hresolve : d.resolve p = .error fault := by
    unfold resolve
    rw [h]
  refine makeDirectoriesWithin_of_resolve_error depth hp hne hresolve ?_
  rintro rfl
  unfold refusal? at h
  rw [if_neg hne] at h
  split at h
  · exact absurd (Option.some.inj h) nofun
  · split at h
    · exact absurd (Option.some.inj h) nofun
    · exact absurd h nofun

/-- Where the parent is a directory, nothing is left to be made above the path. -/
theorem makeDirectoriesWithin_of_parent_directory (depth : Nat) (hd : d.WellFormed)
    (hrefusal : refusal? p = none) (hup : p.parent? = some up) {l : Location}
    (h : d.route up = .ok l) (hfind : d.find? l = some .directory) :
    makeDirectoriesWithin (depth + 2) d p = d.put p := by
  have hne := ne_empty_of_refusal? hrefusal
  by_cases hmissing : d.makeDirectory p = .error .notFound
  · rw [makeDirectoriesWithin_of_missing _ hne hmissing hup,
      makeDirectoriesWithin_of_directory _ hd (trimmed_of_parent? hup)
        (allowed_parent hrefusal hup) h hfind]
    rfl
  · exact makeDirectoriesWithin_of_found _ hne hmissing

/-- Making directories is making those of the parent and then the last one, as long
as the parent is no file. -/
theorem makeDirectoriesWithin_eq_thenPut (depth : Nat) (hd : d.WellFormed) (hp : p.Trimmed)
    (hrefusal : refusal? p = none) (hup : p.parent? = some up)
    (hfile : ∀ l content, d.route up = .ok l → d.find? l ≠ some (.file content)) :
    makeDirectoriesWithin (depth + 2) d p =
      thenPut (makeDirectoriesWithin (depth + 1) d up) p := by
  have hne := ne_empty_of_refusal? hrefusal
  have htrimmed := trimmed_of_parent? hup
  have hallowed := allowed_parent hrefusal hup
  cases hupRoute : d.route up with
  | error fault =>
      -- whatever keeps from the parent keeps from the path as well
      have hfails : d.route p = .error fault := by
        obtain ⟨c, -, hroute⟩ := route_of_parent (d := d) hup
        rw [hroute, hupRoute]
        rfl
      by_cases hmissing : fault = .notFound
      · subst hmissing
        exact makeDirectoriesWithin_of_missing _ hne (put_of_route_error hd hp hrefusal hfails).1 hup
      · have hupRefusal : refusal? up = none := by
          refine hallowed.resolve_left fun hempty => ?_
          rw [route_of_empty hempty] at hupRoute
          exact absurd hupRoute nofun
        rw [makeDirectoriesWithin_of_fault _ hd hp hrefusal hfails hmissing,
          makeDirectoriesWithin_of_fault _ hd htrimmed hupRefusal hupRoute hmissing]
        rfl
  | ok l =>
      cases hfind : d.find? l with
      | none =>
          have hfails := route_below_missing hd hup hupRoute hfind
          exact makeDirectoriesWithin_of_missing _ hne
            (put_of_route_error hd hp hrefusal hfails).1 hup
      | some entry =>
          cases entry with
          | file content => exact absurd hfind (hfile l content hupRoute)
          | directory =>
              rw [makeDirectoriesWithin_of_parent_directory _ hd hrefusal hup hupRoute hfind,
                makeDirectoriesWithin_of_directory _ hd htrimmed hallowed hupRoute hfind]
              rfl

end Disk

end Scaffold
