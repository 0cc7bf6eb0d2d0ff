import Scaffold.Proofs.Disk.Routes

/-!
# Disks that hold more

One disk can hold all that another one holds, and more where that one holds
nothing. As long as nothing of that is a file on the way to a path or lies at its
place, making directories and writing a file take the same course on both disks,
and the one goes on to hold the same more.
-/

namespace Scaffold

open Scaffold.Path

namespace Disk

variable {more : Location → Option Entry} {d e : Disk} {p up : Path} {depth : Nat}

/-- What `e` holds is what `d` holds, and where `d` holds nothing what `more` says. -/
structure Grows (more : Location → Option Entry) (d e : Disk) : Prop where
  workingDirectory : e.workingDirectory = d.workingDirectory
  entries : ∀ l, e.find? l = (d.find? l).or (more l)

namespace Grows

theorem frame (h : Grows more d e) :
    d.Frame (fun l => ∃ content, more l = some (.file content))
      (fun l => more l = some .directory) e := by
  refine ⟨h.workingDirectory, fun l => ?_⟩
  have hentry := h.entries l
  cases hfind : d.find? l with
  | some entry =>
      rw [hfind, Option.some_or] at hentry
      exact Or.inl hentry
  | none =>
      rw [hfind, Option.none_or] at hentry
      rw [hentry]
      cases hmore : more l with
      | none => exact Or.inl rfl
      | some entry =>
          cases entry with
          | file content => exact Or.inr (Or.inl ⟨⟨content, rfl⟩, nofun, content, rfl⟩)
          | directory => exact Or.inr (Or.inr ⟨rfl, rfl, rfl⟩)

theorem find?_of_none (h : Grows more d e) {l : Location} (hmore : more l = none) :
    e.find? l = d.find? l := by
  rw [h.entries, hmore, Option.or_none]

theorem find?_of_some (h : Grows more d e) {l : Location} {entry : Entry}
    (hfind : d.find? l = some entry) : e.find? l = some entry := by
  rw [h.entries, hfind, Option.some_or]

theorem ne_nil_of_find? {l : Location} (h : d.find? l ≠ some .directory) : l ≠ [] := by
  rintro rfl
  exact h (find?_nil d)

/-- What is put on both is no more. -/
theorem set (h : Grows more d e) {l : Location} (hl : l ≠ []) (entry : Entry) :
    Grows more (d.set l entry) (e.set l entry) := by
  refine ⟨h.workingDirectory, fun k => ?_⟩
  rw [find?_set d l k entry hl, find?_set e l k entry hl]
  by_cases hk : k = l
  · rw [if_pos hk, if_pos hk, Option.some_or]
  · rw [if_neg hk, if_neg hk]
    exact h.entries k

/-- One disk can catch up with a directory. -/
theorem set_left (h : Grows more d e) {l : Location} (hl : l ≠ [])
    (hfind : e.find? l = some .directory) : Grows more (d.set l .directory) e := by
  refine ⟨h.workingDirectory, fun k => ?_⟩
  rw [find?_set d l k _ hl]
  by_cases hk : k = l
  · rw [if_pos hk, Option.some_or, hk, hfind]
  · rw [if_neg hk]
    exact h.entries k

/-! ## Routes -/

theorem route_of_ok (h : Grows more d e) (hd : d.WellFormed) (he : e.WellFormed) (hp : p.Trimmed)
    (hallowed : p.text = "" ∨ refusal? p = none) {l : Location} (hl : d.route p = .ok l) :
    e.route p = .ok l := by
  rcases hallowed with hempty | hrefusal
  · rw [route_of_empty hempty] at hl ⊢
    rw [h.workingDirectory]
    exact hl
  · rw [← resolve_eq_route hd hp hrefusal] at hl
    rw [← resolve_eq_route he hp hrefusal]
    exact h.frame.resolve_eq_ok hl

theorem pace_congr {at_ : Location} (hd : d.find? at_ = some .directory)
    (he : e.find? at_ = some .directory) (c : Component) : e.pace at_ c = d.pace at_ c := by
  unfold pace step
  cases c with
  | root => rfl
  | here => rfl
  | parent => rw [hd, he]
  | name text => rw [hd, he]

/-- Behind the same directory the routes agree. -/
theorem route_of_directory (h : Grows more d e) (hd : d.WellFormed) (he : e.WellFormed)
    (hup : p.parent? = some up) (hallowed : up.text = "" ∨ refusal? up = none) {l : Location}
    (hl : d.route up = .ok l) (hdir : d.find? l = some .directory) : e.route p = d.route p := by
  obtain ⟨c, hc, hroute⟩ := route_of_parent (d := d) hup
  obtain ⟨c', hc', hroute'⟩ := route_of_parent (d := e) hup
  obtain rfl : c' = c := by
    rw [hc] at hc'
    exact (List.singleton_inj.mp (List.append_inj' hc' rfl).2).symm
  rw [hroute, hroute', hl, h.route_of_ok hd he (trimmed_of_parent? hup) hallowed hl]
  exact pace_congr hdir (h.find?_of_some hdir) c'

end Grows

/-! ## Making directories -/

theorem route_of_put (hd : d.WellFormed) (hp : p.Trimmed) (hrefusal : refusal? p = none)
    (h : d.put p = (.ok (), e)) :
    ∃ l, e.route p = .ok l ∧ e.find? l = some .directory := by
  have he : e.WellFormed ∧ ∀ l, d.resolve p = .ok l → e.resolve p = .ok l := by
    unfold put at h
    split at h
    · next made hmade =>
      obtain rfl : made = e := congrArg Prod.snd h
      exact ⟨hd.makeDirectory hmade, fun l hl => (frame_makeDirectory hmade).resolve_eq_ok hl⟩
    · split at h
      · obtain rfl : d = e := congrArg Prod.snd h
        exact ⟨hd, fun l hl => hl⟩
      · exact absurd (congrArg Prod.fst h) nofun
  cases hroute : d.route p with
  | error fault =>
      rw [(put_of_route_error hd hp hrefusal hroute).2] at h
      exact absurd (congrArg Prod.fst h) nofun
  | ok l =>
      rw [(put_of_route_ok hd hp hrefusal hroute).2] at h
      rw [← resolve_eq_route hd hp hrefusal] at hroute
      refine ⟨l, (resolve_eq_route he.1 hp hrefusal).symm.trans (he.2 l hroute), ?_⟩
      cases hfind : d.find? l with
      | none =>
          rw [hfind] at h
          rw [← show d.set l .directory = e from congrArg Prod.snd h]
          exact find?_set_directory d l
      | some entry =>
          rw [hfind] at h
          cases entry with
          | file content => exact absurd (congrArg Prod.fst h) nofun
          | directory =>
              rw [← show d = e from congrArg Prod.snd h]
              exact hfind

/-- The directories that were made are there. -/
theorem route_of_made (depth : Nat) (hd : d.WellFormed) (hp : p.Trimmed)
    (hallowed : p.text = "" ∨ refusal? p = none)
    (h : makeDirectoriesWithin depth d p = (.ok (), e)) :
    ∃ l, e.route p = .ok l ∧ e.find? l = some .directory := by
  cases depth with
  | zero => cases congrArg Prod.fst h
  | succ depth =>
      rcases hallowed with hempty | hrefusal
      · rw [makeDirectoriesWithin_of_empty depth hempty] at h
        obtain rfl : d = e := congrArg Prod.snd h
        exact ⟨_, route_of_empty hempty, hd.workingDirectory⟩
      · have hne := ne_empty_of_refusal? hrefusal
        by_cases hmissing : d.makeDirectory p = .error .notFound
        · cases hup : p.parent? with
          | none =>
              unfold makeDirectoriesWithin at h
              rw [if_neg hne, hmissing, hup] at h
              cases congrArg Prod.fst h
          | some up =>
              rw [makeDirectoriesWithin_of_missing depth hne hmissing hup] at h
              have hformed := hd.makeDirectoriesWithin depth up
              rcases hmade : makeDirectoriesWithin depth d up with ⟨result, m⟩
              rw [hmade] at h hformed
              cases result with
              | error fault => cases congrArg Prod.fst h
              | ok done => exact route_of_put hformed hp hrefusal h
        · rw [makeDirectoriesWithin_of_found depth hne hmissing] at h
          exact route_of_put hd hp hrefusal h

namespace Grows

theorem put (h : Grows more d e) (hd : d.WellFormed) (he : e.WellFormed) (hp : p.Trimmed)
    (hrefusal : refusal? p = none) (hroute : e.route p = d.route p)
    (hclear : ∀ content, more (d.placeOf p) ≠ some (.file content)) :
    (e.put p).1 = (d.put p).1 ∧ Grows more (d.put p).2 (e.put p).2 := by
  cases hr : d.route p with
  | error fault =>
      rw [(put_of_route_error hd hp hrefusal hr).2,
        (put_of_route_error he hp hrefusal (hroute.trans hr)).2]
      exact ⟨rfl, h⟩
  | ok l =>
      obtain rfl := route_eq_ok hd hp (Or.inr hrefusal) hr
      rw [(put_of_route_ok hd hp hrefusal hr).2, (put_of_route_ok he hp hrefusal (hroute.trans hr)).2]
      cases hfind : d.find? (d.placeOf p) with
      | some entry =>
          rw [h.find?_of_some hfind]
          cases entry <;> exact ⟨rfl, h⟩
      | none =>
          have hne : d.placeOf p ≠ [] := ne_nil_of_find? (d := d) (by rw [hfind]; exact nofun)
          have hentry := h.entries (d.placeOf p)
          rw [hfind, Option.none_or] at hentry
          rw [hentry]
          cases hmore : more (d.placeOf p) with
          | none => exact ⟨rfl, h.set hne _⟩
          | some entry =>
              cases entry with
              | file content => exact absurd hmore (hclear content)
              | directory => exact ⟨rfl, h.set_left hne (hentry.trans hmore)⟩

/-- A file that a settled path leads to was there before. -/
theorem route_of_file (h : Grows more d e) (hd : d.WellFormed) (he : e.WellFormed) (hp : p.Trimmed)
    (hsettled : d.Settled p) (hallowed : p.text = "" ∨ refusal? p = none)
    (hclear : ∀ content, more (d.placeOf p) ≠ some (.file content)) {l : Location}
    {content : ByteArray} (hl : e.route p = .ok l) (hfile : e.find? l = some (.file content)) :
    d.route p = .ok l ∧ d.find? l = some (.file content) := by
  rcases hallowed with hempty | hrefusal
  · rw [route_of_empty hempty] at hl
    rw [← Except.ok.inj hl, he.workingDirectory] at hfile
    exact absurd hfile nofun
  · have hplace : l = d.placeOf p :=
      (route_eq_ok he hp (Or.inr hrefusal) hl).trans (placeOf_congr h.workingDirectory p)
    subst hplace
    have hfind : d.find? (d.placeOf p) = some (.file content) := by
      rw [h.entries] at hfile
      cases hd' : d.find? (d.placeOf p) with
      | some entry => rwa [hd', Option.some_or] at hfile
      | none =>
          rw [hd', Option.none_or] at hfile
          exact absurd hfile (hclear content)
    have hfits := fits_of_resolve ((resolve_eq_route he hp hrefusal).trans hl)
    have hlook := look_of_find? hd hp hrefusal hfits hsettled hfind
    rw [← resolve_eq_route hd hp hrefusal]
    exact ⟨(look_eq_ok_iff.mp hlook).1, hfind⟩

theorem thenPut (hd : d.WellFormed) (he : e.WellFormed) (hp : p.Trimmed)
    (hrefusal : refusal? p = none) (hup : p.parent? = some up)
    {made made' : Except IoFault Unit × Disk} (hmade : makeDirectoriesWithin depth d up = made)
    (hmade' : makeDirectoriesWithin depth e up = made') (hresult : made'.1 = made.1)
    (h : Grows more made.2 made'.2)
    (hclear : ∀ content, more (d.placeOf p) ≠ some (.file content)) :
    (Disk.thenPut made' p).1 = (Disk.thenPut made p).1 ∧
      Grows more (Disk.thenPut made p).2 (Disk.thenPut made' p).2 := by
  have hallowed := allowed_parent hrefusal hup
  have hwd := (frame_makeDirectoriesWithin depth d up).workingDirectory
  have hformed := hd.makeDirectoriesWithin depth up
  have hformed' := he.makeDirectoriesWithin depth up
  obtain ⟨result, m⟩ := made
  obtain ⟨result', m'⟩ := made'
  obtain rfl : result' = result := hresult
  rw [hmade] at hwd hformed
  rw [hmade'] at hformed'
  cases result' with
  | error fault => exact ⟨rfl, h⟩
  | ok done =>
      obtain ⟨l, hroute, hdirectory⟩ :=
        route_of_made depth hd (trimmed_of_parent? hup) hallowed hmade
      refine h.put hformed hformed' hp hrefusal
        (h.route_of_directory hformed hformed' hup hallowed hroute hdirectory) ?_
      rw [placeOf_congr hwd]
      exact hclear

/-- Making directories takes the same course on both disks, as long as nothing of
what one of them has more is a file along the path. The induction is on the bound,
which the texts of the parents keep below. -/
theorem makeDirectoriesWithin (depth : Nat) (h : Grows more d e) (hd : d.WellFormed)
    (he : e.WellFormed) (hp : p.Trimmed) (hsettled : d.Settled p)
    (hclear : ∀ l, d.Along p l → ∀ content, more l ≠ some (.file content))
    (hdepth : p.text.length < depth) :
    (Disk.makeDirectoriesWithin depth e p).1 = (Disk.makeDirectoriesWithin depth d p).1 ∧
      Grows more (Disk.makeDirectoriesWithin depth d p).2
        (Disk.makeDirectoriesWithin depth e p).2 := by
  induction depth generalizing p with
  | zero => exact absurd hdepth (Nat.not_lt_zero _)
  | succ depth ih =>
      by_cases hempty : p.text = ""
      · rw [makeDirectoriesWithin_of_empty depth hempty, makeDirectoriesWithin_of_empty depth hempty]
        exact ⟨rfl, h⟩
      cases hrefusal : refusal? p with
      | some fault =>
          rw [makeDirectoriesWithin_of_refusal depth hp hempty hrefusal,
            makeDirectoriesWithin_of_refusal depth hp hempty hrefusal]
          exact ⟨rfl, h⟩
      | none =>
          cases hup : p.parent? with
          | none =>
              have hroot := (parent?_eq_none hp hup).resolve_left hempty
              have hfound : ∀ m : Disk, m.WellFormed →
                  Disk.makeDirectoriesWithin (depth + 1) m p = (.ok (), m) := fun m hm =>
                makeDirectoriesWithin_of_directory depth hm hp (Or.inr hrefusal)
                  ((resolve_eq_route hm hp hrefusal).symm.trans (resolve_root hroot)) (find?_nil m)
              rw [hfound d hd, hfound e he]
              exact ⟨rfl, h⟩
          | some up =>
              have htrimmed := trimmed_of_parent? hup
              have hallowed := allowed_parent hrefusal hup
              have hupClear : ∀ l, d.Along up l → ∀ content, more l ≠ some (.file content) :=
                fun l hl => hclear l (along_of_above (above_of_along_parent hup hl))
              obtain ⟨bound, rfl⟩ : ∃ bound, depth = bound + 1 := by
                have hlength := length_of_parent? hup
                exact ⟨depth - 1, by omega⟩
              -- where the parent is a file both disks refuse at once; everywhere else the
              -- directories are made from the parent on
              by_cases hfile : ∃ l content, d.route up = .ok l ∧ d.find? l = some (.file content)
              · obtain ⟨l, content, hroute, hfind⟩ := hfile
                rw [makeDirectoriesWithin_of_fault _ hd hp hrefusal
                    (route_below_file hd hup hroute hfind) nofun,
                  makeDirectoriesWithin_of_fault _ he hp hrefusal
                    (route_below_file he hup (h.route_of_ok hd he htrimmed hallowed hroute)
                      (h.find?_of_some hfind)) nofun]
                exact ⟨rfl, h⟩
              · rw [makeDirectoriesWithin_eq_thenPut bound hd hp hrefusal hup fun l content hl hfind =>
                    hfile ⟨l, content, hl, hfind⟩,
                  makeDirectoriesWithin_eq_thenPut bound he hp hrefusal hup fun l content hl hfind =>
                    hfile ⟨l, content, h.route_of_file hd he htrimmed (hsettled.parent hup) hallowed
                      (hupClear _ (d.along_placeOf up)) hl hfind⟩]
                obtain ⟨hresult, hgrows⟩ := ih htrimmed (hsettled.parent hup) hupClear
                  (by have := length_of_parent? hup; omega)
                exact thenPut hd he hp hrefusal hup rfl rfl hresult hgrows
                  (hclear _ (d.along_placeOf p))

end Grows

/-- A path that what one disk has more spares: it is settled, nothing of that lies at
its place and no file of it above. -/
structure Spares (more : Location → Option Entry) (d : Disk) (p : Path) : Prop where
  trimmed : p.Trimmed
  settled : d.Settled p
  noFile : ∀ l, d.Above p l → ∀ content, more l ≠ some (.file content)
  free : more (d.placeOf p) = none

theorem Spares.frame {files directories : Location → Prop} {m : Disk} (h : Spares more d p)
    (hframe : Frame files directories d m) : Spares more m p := by
  refine ⟨h.trimmed, h.settled.frame hframe,
    fun l hl => h.noFile l (above_congr hframe.workingDirectory hl), ?_⟩
  rw [placeOf_congr hframe.workingDirectory]
  exact h.free

theorem Grows.sameLook (h : Grows more d e) (hd : d.WellFormed) (hp : Spares more d p) :
    d.SameLook e p :=
  h.frame.sameLook hd hp.settled (h.find?_of_none hp.free)

end Disk

/-! ## The same course -/

namespace Action

variable {α β : Type} {more : Location → Option Entry} {d e : Disk} {p : Path}

/-- An action that takes the same course on two disks: it gives the same result, and
the second disk goes on to hold the same more. -/
def SameCourse (more : Location → Option Entry) (d e : Disk) (a : Action α) : Prop :=
  (a.runOn e).1 = (a.runOn d).1 ∧ Disk.Grows more (a.runOn d).2 (a.runOn e).2

theorem sameCourse_of_reads {a : Action α} (h : Disk.Grows more d e) (hreads : Reads a)
    (ha : SameAnswer d e a) : SameCourse more d e a := by
  refine ⟨ha, ?_⟩
  rw [hreads d, hreads e]
  exact h

theorem sameCourse_bind {a : Action α} {f : α → Action β} (ha : SameCourse more d e a)
    (hf : ∀ x m m', a.runOn d = (.ok x, m) → a.runOn e = (.ok x, m') → Disk.Grows more m m' →
      SameCourse more m m' (f x)) : SameCourse more d e (a >>= f) := by
  obtain ⟨hresult, hgrows⟩ := ha
  rcases hd : a.runOn d with ⟨result, m⟩
  rcases he : a.runOn e with ⟨result', m'⟩
  rw [hd, he] at hresult hgrows
  obtain rfl : result' = result := hresult
  unfold SameCourse
  cases result' with
  | error err =>
      rw [runOn_bind_of_error hd, runOn_bind_of_error he]
      exact ⟨rfl, hgrows⟩
  | ok x =>
      rw [runOn_bind_of_ok hd, runOn_bind_of_ok he]
      exact hf x m m' hd he hgrows

/-- Behind an action that only reads the course goes on from the same disks. -/
theorem sameCourse_bind_of_reads {a : Action α} {f : α → Action β} (h : Disk.Grows more d e)
    (hreads : Reads a) (ha : SameAnswer d e a)
    (hf : ∀ x, (a.runOn d).1 = .ok x → SameCourse more d e (f x)) :
    SameCourse more d e (a >>= f) := by
  refine sameCourse_bind (sameCourse_of_reads h hreads ha) fun x m m' hm hm' _ => ?_
  obtain rfl : d = m := (hreads d).symm.trans (congrArg Prod.snd hm)
  obtain rfl : e = m' := (hreads e).symm.trans (congrArg Prod.snd hm')
  exact hf x (congrArg Prod.fst hm)

theorem sameCourse_mapError {a : Action α} (h : SameCourse more d e a) (f : Error → Error) :
    SameCourse more d e (mapError a f) := by
  unfold SameCourse
  rw [runOn_mapError, runOn_mapError]
  exact ⟨congrArg (Except.mapError f) h.1, h.2⟩

theorem sameCourse_writeBytes (h : Disk.Grows more d e) (hresolve : e.resolve p = d.resolve p)
    (hfree : more (d.placeOf p) = none) (content : ByteArray) :
    SameCourse more d e (writeBytes p content) := by
  unfold SameCourse runOn writeBytes change Disk.writeBytes
  dsimp only
  rw [hresolve]
  cases hl : d.resolve p with
  | error fault => cases fault <;> exact ⟨rfl, h⟩
  | ok l =>
      obtain rfl := Disk.resolve_eq_ok hl
      dsimp only
      rw [h.find?_of_none hfree]
      have hset : d.find? (d.placeOf p) ≠ some .directory → Disk.Grows more
          (d.set (d.placeOf p) (.file content)) (e.set (d.placeOf p) (.file content)) :=
        fun hfind => h.set (Disk.Grows.ne_nil_of_find? hfind) _
      cases hfind : d.find? (d.placeOf p) with
      | none => exact ⟨rfl, hset (by rw [hfind]; exact nofun)⟩
      | some entry =>
          cases entry with
          | directory => exact ⟨rfl, h⟩
          | file old => exact ⟨rfl, hset (by rw [hfind]; exact nofun)⟩

theorem makeDirectories_eq_ok {made : Disk} (h : (makeDirectories p).runOn d = (.ok (), made)) :
    Disk.makeDirectoriesWithin (p.text.length + 1) d p = (.ok (), made) := by
  unfold runOn makeDirectories Disk.makeDirectories at h
  split at h
  · next m hm =>
    obtain rfl : m = made := congrArg Prod.snd h
    exact hm
  · exact absurd (congrArg Prod.fst h) nofun

theorem sameCourse_makeDirectories (h : Disk.Grows more d e) (hd : d.WellFormed)
    (he : e.WellFormed) (hp : p.Trimmed) (hsettled : d.Settled p)
    (hclear : ∀ l, d.Along p l → ∀ content, more l ≠ some (.file content)) :
    SameCourse more d e (makeDirectories p) := by
  obtain ⟨hresult, hgrows⟩ :=
    h.makeDirectoriesWithin _ hd he hp hsettled hclear (Nat.lt_succ_self _)
  unfold SameCourse runOn makeDirectories Disk.makeDirectories
  rcases hmade : Disk.makeDirectoriesWithin (p.text.length + 1) d p with ⟨result, m⟩
  rcases hmade' : Disk.makeDirectoriesWithin (p.text.length + 1) e p with ⟨result', m'⟩
  rw [hmade, hmade'] at hresult hgrows
  obtain rfl : result' = result := hresult
  cases result' <;> exact ⟨rfl, hgrows⟩

/-- Writing a file takes the same course on both disks where what one has more spares
its path. -/
theorem sameCourse_writeFile (h : Disk.Grows more d e) (hd : d.WellFormed) (he : e.WellFormed)
    (hp : Disk.Spares more d p) (text : String) : SameCourse more d e (writeFile p text) := by
  cases hup : p.parent? with
  | none =>
      rw [writeFile_of_none hup]
      refine sameCourse_writeBytes h ?_ hp.free _
      rcases parent?_eq_none hp.trimmed hup with hempty | hroot
      · have hrefusal : Disk.refusal? p = some .notFound := by
          unfold Disk.refusal?
          rw [hempty]
          rfl
        unfold Disk.resolve
        rw [hrefusal]
      · rw [Disk.resolve_root hroot, Disk.resolve_root hroot]
  | some up =>
      rw [writeFile_of_some hup]
      refine sameCourse_bind (sameCourse_makeDirectories h hd he (trimmed_of_parent? hup)
        (hp.settled.parent hup) fun l hl => hp.noFile l (Disk.above_of_along_parent hup hl)) ?_
      intro done m m' hmade hmade' hgrows
      have hframe := frame_makeDirectories up d
      have hformed := wellFormed_makeDirectories hd up
      have hformed' := wellFormed_makeDirectories he up
      rw [hmade] at hframe hformed
      rw [hmade'] at hformed'
      refine sameCourse_writeBytes hgrows ?_ (hp.frame hframe).free _
      cases hrefusal : Disk.refusal? p with
      | some fault =>
          unfold Disk.resolve
          rw [hrefusal]
      | none =>
          have hallowed := Disk.allowed_parent hrefusal hup
          -- both disks now have the same directory above the path, so the path leads the same way
          obtain ⟨l, hroute, hdirectory⟩ := Disk.route_of_made _ hd (trimmed_of_parent? hup)
            hallowed (makeDirectories_eq_ok hmade)
          rw [Disk.resolve_eq_route hformed hp.trimmed hrefusal,
            Disk.resolve_eq_route hformed' hp.trimmed hrefusal]
          exact hgrows.route_of_directory hformed hformed' hup hallowed hroute hdirectory

end Action

end Scaffold
