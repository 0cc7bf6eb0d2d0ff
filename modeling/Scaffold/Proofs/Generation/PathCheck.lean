import Mathlib.Control.Monad.Basic
import Scaffold.Proofs.Generation.Saving
import Scaffold.Proofs.Generation.Targets

/-!
# The paths of a plan

A run looks at all paths of a plan before it saves anything. What is wrong with
a plan is said here without the output directory and without the disk: the
first target whose path is refused or is the path of an earlier target. The
check reports exactly that one, whatever the directory.
-/

namespace Scaffold

open Scaffold.Action Scaffold.Path

/-! ## Faulty targets -/

/-- Two accepted targets with the same path below the output directory. -/
def Target.SamePath (s t : Target) : Prop :=
  ∃ p q, s.relativePath = .ok p ∧ t.relativePath = .ok q ∧ p.same q = true

/-- The target at a position is faulty: its path is refused or it is that of a
target before it, where `earlier` come before the whole list. -/
def FaultyAfter (earlier ts : List Target) (i : Nat) (t : Target) : Prop :=
  ts[i]? = some t ∧
    ((∃ e, t.relativePath = .error e) ∨ ∃ s ∈ earlier ++ ts.take i, s.SamePath t)

def FaultyAt (ts : List Target) (i : Nat) (t : Target) : Prop := FaultyAfter [] ts i t

/-- The first faulty target of a plan. -/
def FirstFaultAfter (earlier ts : List Target) (i : Nat) (t : Target) : Prop :=
  FaultyAfter earlier ts i t ∧ ∀ j < i, ∀ s, ¬ FaultyAfter earlier ts j s

def FirstFault (ts : List Target) (i : Nat) (t : Target) : Prop := FirstFaultAfter [] ts i t

theorem faultyAfter_zero {earlier ts : List Target} {t s : Target} :
    FaultyAfter earlier (t :: ts) 0 s ↔
      t = s ∧ ((∃ e, t.relativePath = .error e) ∨ ∃ s ∈ earlier, s.SamePath t) := by
  unfold FaultyAfter
  rw [List.getElem?_cons_zero, Option.some.injEq, List.take_zero, List.append_nil]
  constructor
  · rintro ⟨rfl, h⟩
    exact ⟨rfl, h⟩
  · rintro ⟨rfl, h⟩
    exact ⟨rfl, h⟩

theorem faultyAfter_succ {earlier ts : List Target} {t s : Target} {i : Nat} :
    FaultyAfter earlier (t :: ts) (i + 1) s ↔ FaultyAfter (earlier ++ [t]) ts i s := by
  unfold FaultyAfter
  rw [List.getElem?_cons_succ, List.take_succ_cons, List.append_assoc, List.singleton_append]

/-! ## The check -/

namespace Target

theorem samePath_iff_destination {s t : Target} {p q : Path} (dir : Path)
    (hp : s.relativePath = .ok p) (hq : t.relativePath = .ok q) :
    s.SamePath t ↔ (dir.join p).same (dir.join q) = true := by
  have hs : s.destination dir = .ok (dir.join p) := by rw [destination, hp]; rfl
  have ht : t.destination dir = .ok (dir.join q) := by rw [destination, hq]; rfl
  rw [same_destination_iff hs ht]
  have hnames := same_relativePath_iff hp hq
  constructor
  · rintro ⟨p', q', hp', hq', h⟩
    rw [hp] at hp'
    rw [hq] at hq'
    cases hp'
    cases hq'
    exact hnames.mp h
  · intro h
    exact ⟨p, q, hp, hq, hnames.mpr h⟩

end Target

namespace Generator

/-- The joined paths that stand for accepted targets. -/
def Seen (dir : Path) (earlier : List Target) (seen : List Path) : Prop :=
  ∀ q, q ∈ seen ↔ ∃ s ∈ earlier, s.destination dir = .ok q

theorem seen_nil (dir : Path) : Seen dir [] [] := by
  intro q
  simp

theorem Seen.append {dir : Path} {earlier : List Target} {seen : List Path} {t : Target}
    {relative : Path} (h : Seen dir earlier seen) (ht : t.relativePath = .ok relative) :
    Seen dir (earlier ++ [t]) (dir.join relative :: seen) := by
  have hdest : t.destination dir = .ok (dir.join relative) := by rw [Target.destination, ht]; rfl
  intro q
  constructor
  · intro hq
    rcases List.mem_cons.mp hq with rfl | hq
    · exact ⟨t, List.mem_append_right _ (List.mem_singleton_self t), hdest⟩
    · obtain ⟨s, hs, hsq⟩ := (h q).mp hq
      exact ⟨s, List.mem_append_left _ hs, hsq⟩
  · rintro ⟨s, hs, hsq⟩
    rcases List.mem_append.mp hs with hs | hs
    · exact List.mem_cons_of_mem _ ((h q).mpr ⟨s, hs, hsq⟩)
    · rw [List.mem_singleton.mp hs, hdest] at hsq
      rw [Except.ok.inj hsq]
      exact List.mem_cons_self

/-- A path was seen exactly when an earlier target has it. -/
theorem Seen.any_same_iff {dir : Path} {earlier : List Target} {seen : List Path} {t : Target}
    {relative : Path} (h : Seen dir earlier seen) (ht : t.relativePath = .ok relative) :
    seen.any (·.same (dir.join relative)) = true ↔ ∃ s ∈ earlier, s.SamePath t := by
  rw [List.any_eq_true]
  constructor
  · rintro ⟨q, hq, hsame⟩
    obtain ⟨s, hs, hsq⟩ := (h q).mp hq
    obtain ⟨p, hp, rfl⟩ := Target.destination_eq_ok hsq
    exact ⟨s, hs, (Target.samePath_iff_destination dir hp ht).mpr hsame⟩
  · rintro ⟨s, hs, hsame⟩
    have hdest := hsame
    obtain ⟨p, -, hp, -⟩ := hdest
    refine ⟨dir.join p, (h _).mpr ⟨s, hs, ?_⟩, (Target.samePath_iff_destination dir hp ht).mp hsame⟩
    rw [Target.destination, hp]
    rfl

/-- The complaint about a faulty target. -/
def IsComplaint (dir : Path) (t : Target) (source : Error) : Prop :=
  (∃ detail, t.relativePath = .error source ∧ source = .config detail) ∨
    ∃ relative, t.relativePath = .ok relative ∧ source = .duplicatePath (dir.join relative).text

theorem checkPaths_of_faulty_head {dir : Path} {earlier ts : List Target} {seen : List Path}
    {t : Target} (hseen : Seen dir earlier seen)
    (h : (∃ e, t.relativePath = .error e) ∨ ∃ s ∈ earlier, s.SamePath t) :
    ∃ source, checkPaths dir seen (t :: ts) = .error (attributeTo t source) ∧
      IsComplaint dir t source := by
  rw [checkPaths]
  cases hr : t.relativePath with
  | error e =>
      obtain ⟨detail, hdetail⟩ := Target.relativePath_eq_error hr
      exact ⟨e, rfl, Or.inl ⟨detail, hr, hdetail⟩⟩
  | ok relative =>
      have hbefore : ∃ s ∈ earlier, s.SamePath t := by
        rcases h with ⟨e, he⟩ | h
        · rw [hr] at he
          exact absurd he (by simp)
        · exact h
      refine ⟨.duplicatePath (dir.join relative).text, ?_, Or.inr ⟨relative, hr, rfl⟩⟩
      exact if_pos ((hseen.any_same_iff hr).mpr hbefore)

theorem checkPaths_of_sound_head {dir : Path} {earlier : List Target} {seen : List Path}
    {t : Target} (ts : List Target) (hseen : Seen dir earlier seen)
    (h : ¬ ((∃ e, t.relativePath = .error e) ∨ ∃ s ∈ earlier, s.SamePath t)) :
    ∃ relative, t.relativePath = .ok relative ∧
      Seen dir (earlier ++ [t]) (dir.join relative :: seen) ∧
      checkPaths dir seen (t :: ts) =
        (checkPaths dir (dir.join relative :: seen) ts).map ((t, dir.join relative) :: ·) := by
  rw [checkPaths]
  cases hr : t.relativePath with
  | error e => exact absurd (Or.inl ⟨e, hr⟩) h
  | ok relative =>
      refine ⟨relative, rfl, hseen.append hr, ?_⟩
      exact if_neg fun hany => h (Or.inr ((hseen.any_same_iff hr).mp hany))

/-- The check complains about the first faulty target. -/
theorem checkPaths_of_firstFault {dir : Path} {earlier ts : List Target} {seen : List Path}
    {i : Nat} {t : Target} (hseen : Seen dir earlier seen)
    (h : FirstFaultAfter earlier ts i t) :
    ∃ source, checkPaths dir seen ts = .error (attributeTo t source) ∧
      IsComplaint dir t source := by
  -- `seen` goes on to hold the paths of the targets that the check has passed
  induction ts generalizing earlier seen i with
  | nil =>
      have hnone := h.1.1
      exact absurd hnone (by simp)
  | cons head ts ih =>
      cases i with
      | zero =>
          obtain ⟨rfl, hfault⟩ := faultyAfter_zero.mp h.1
          exact checkPaths_of_faulty_head hseen hfault
      | succ i =>
          have hsound : ¬ ((∃ e, head.relativePath = .error e) ∨
              ∃ s ∈ earlier, s.SamePath head) := fun hfault =>
            h.2 0 (Nat.succ_pos i) head (faultyAfter_zero.mpr ⟨rfl, hfault⟩)
          obtain ⟨relative, hr, hseen', hcheck⟩ := checkPaths_of_sound_head ts hseen hsound
          have hfirst : FirstFaultAfter (earlier ++ [head]) ts i t :=
            ⟨faultyAfter_succ.mp h.1, fun j hj s hs =>
              h.2 (j + 1) (Nat.succ_lt_succ hj) s (faultyAfter_succ.mpr hs)⟩
          obtain ⟨source, hsource, hcomplaint⟩ := ih hseen' hfirst
          refine ⟨source, ?_, hcomplaint⟩
          rw [hcheck, hsource]
          rfl

/-- Without a faulty target the check finds every destination. -/
theorem checkPaths_of_noFault {dir : Path} {earlier ts : List Target} {seen : List Path}
    (hseen : Seen dir earlier seen) (h : ∀ i t, ¬ FaultyAfter earlier ts i t) :
    ∃ planned, checkPaths dir seen ts = .ok planned := by
  induction ts generalizing earlier seen with
  | nil => exact ⟨[], rfl⟩
  | cons head ts ih =>
      have hsound : ¬ ((∃ e, head.relativePath = .error e) ∨ ∃ s ∈ earlier, s.SamePath head) :=
        fun hfault => h 0 head (faultyAfter_zero.mpr ⟨rfl, hfault⟩)
      obtain ⟨relative, hr, hseen', hcheck⟩ := checkPaths_of_sound_head ts hseen hsound
      obtain ⟨planned, hplanned⟩ := ih hseen' fun i t hfault =>
        h (i + 1) t (faultyAfter_succ.mpr hfault)
      refine ⟨(head, dir.join relative) :: planned, ?_⟩
      rw [hcheck, hplanned]
      rfl

/-- Whatever the check reports is a complaint about one of its targets. -/
theorem exists_complaint_of_checkPaths {dir : Path} {earlier ts : List Target} {seen : List Path}
    {e : Error} (hseen : Seen dir earlier seen) (h : checkPaths dir seen ts = .error e) :
    ∃ t ∈ ts, ∃ source, e = attributeTo t source ∧ IsComplaint dir t source := by
  induction ts generalizing earlier seen with
  | nil => exact absurd h nofun
  | cons head ts ih =>
      by_cases hfault : (∃ e, head.relativePath = .error e) ∨ ∃ s ∈ earlier, s.SamePath head
      · obtain ⟨source, hcheck, hcomplaint⟩ := checkPaths_of_faulty_head hseen hfault
        rw [hcheck] at h
        exact ⟨head, List.mem_cons_self, source, (Except.error.inj h).symm, hcomplaint⟩
      · obtain ⟨relative, -, hseen', hcheck⟩ := checkPaths_of_sound_head ts hseen hfault
        rw [hcheck] at h
        cases hrest : checkPaths dir (dir.join relative :: seen) ts with
        | ok rest =>
            rw [hrest] at h
            exact absurd h nofun
        | error e' =>
            rw [hrest] at h
            obtain rfl := Except.error.inj h
            obtain ⟨t, ht, hcomplaint⟩ := ih hseen' hrest
            exact ⟨t, List.mem_cons_of_mem _ ht, hcomplaint⟩

/-! ## Plans that pass -/

theorem checkPaths_cons_eq_ok {dir : Path} {seen : List Path} {t : Target} {ts : List Target}
    {planned : List (Target × Path)} (h : checkPaths dir seen (t :: ts) = .ok planned) :
    ∃ dest rest, t.destination dir = .ok dest ∧ (∀ q ∈ seen, q.same dest = false) ∧
      checkPaths dir (dest :: seen) ts = .ok rest ∧ planned = (t, dest) :: rest := by
  rw [checkPaths] at h
  cases hr : t.relativePath with
  | error e =>
      rw [hr] at h
      exact absurd h (by simp)
  | ok relative =>
      rw [hr] at h
      dsimp only at h
      split at h
      · exact absurd h (by simp)
      · next hnew =>
        have hdest : t.destination dir = .ok (dir.join relative) := by
          rw [Target.destination, hr]
          rfl
        cases hrest : checkPaths dir (dir.join relative :: seen) ts with
        | error e =>
            rw [hrest] at h
            exact absurd h (by simp [Except.map])
        | ok rest =>
            rw [hrest] at h
            refine ⟨_, rest, hdest, fun q hq => ?_, hrest, (Except.ok.inj h).symm⟩
            have hfalse := mt (fun hsame => List.any_eq_true.mpr ⟨q, hq, hsame⟩) hnew
            simpa using hfalse

theorem checkPaths_cons_of_ok {dir dest : Path} {seen : List Path} {t : Target}
    {ts : List Target} {rest : List (Target × Path)} (hdest : t.destination dir = .ok dest)
    (hnew : ∀ q ∈ seen, q.same dest = false) (hrest : checkPaths dir (dest :: seen) ts = .ok rest) :
    checkPaths dir seen (t :: ts) = .ok ((t, dest) :: rest) := by
  obtain ⟨relative, hrelative, rfl⟩ := Target.destination_eq_ok hdest
  have hany : ¬ seen.any (·.same (dir.join relative)) = true := by
    rw [List.any_eq_true]
    rintro ⟨q, hq, hsame⟩
    rw [hnew q hq] at hsame
    exact absurd hsame nofun
  rw [checkPaths, hrelative]
  dsimp only
  rw [if_neg hany, hrest]
  rfl

theorem checkPaths_pair {s t : Target} {dir p q : Path} (hs : s.relativePath = .ok p)
    (ht : t.relativePath = .ok q) (hne : (dir.join p).same (dir.join q) = false) :
    checkPaths dir [] [s, t] = .ok [(s, dir.join p), (t, dir.join q)] := by
  simp [checkPaths, hs, ht, hne, Except.map]

theorem map_fst_of_checkPaths {dir : Path} {seen : List Path} {ts : List Target}
    {planned : List (Target × Path)} (h : checkPaths dir seen ts = .ok planned) :
    planned.map Prod.fst = ts := by
  induction ts generalizing seen planned with
  | nil => rw [← Except.ok.inj h, List.map_nil]
  | cons t ts ih =>
      obtain ⟨dest, rest, -, -, hrest, rfl⟩ := checkPaths_cons_eq_ok h
      rw [List.map_cons, ih hrest]

theorem destination_of_checkPaths {dir : Path} {seen : List Path} {ts : List Target}
    {planned : List (Target × Path)} (h : checkPaths dir seen ts = .ok planned) :
    ∀ p ∈ planned, p.1.destination dir = .ok p.2 := by
  induction ts generalizing seen planned with
  | nil => simp [← Except.ok.inj h]
  | cons t ts ih =>
      obtain ⟨dest, rest, hdest, -, hrest, rfl⟩ := checkPaths_cons_eq_ok h
      intro p hp
      rcases List.mem_cons.mp hp with rfl | hp
      · exact hdest
      · exact ih hrest p hp

/-- No destination that passes is the same path as one seen before it. -/
theorem distinct_of_checkPaths {dir : Path} {seen : List Path} {ts : List Target}
    {planned : List (Target × Path)} (h : checkPaths dir seen ts = .ok planned) :
    (∀ x ∈ planned, ∀ q ∈ seen, q.same x.2 = false) ∧
      planned.Pairwise fun x y => x.2.same y.2 = false := by
  induction ts generalizing seen planned with
  | nil => simp [← Except.ok.inj h]
  | cons t ts ih =>
      obtain ⟨dest, rest, -, hnew, hrest, rfl⟩ := checkPaths_cons_eq_ok h
      obtain ⟨hseen, hpairwise⟩ := ih hrest
      refine ⟨fun x hx q hq => ?_, List.pairwise_cons.mpr ⟨fun x hx => ?_, hpairwise⟩⟩
      · rcases List.mem_cons.mp hx with rfl | hx
        · exact hnew q hq
        · exact hseen x hx q (List.mem_cons_of_mem _ hq)
      · exact hseen x hx dest List.mem_cons_self

/-- The names that lead to accepted targets are different, whatever the directory. -/
theorem names_ne_of_checkPaths {dir : Path} {ts : List Target}
    {planned : List (Target × Path)} (h : checkPaths dir [] ts = .ok planned) :
    ts.Pairwise fun t t' => t.names ≠ t'.names := by
  have hdest := destination_of_checkPaths h
  rw [← map_fst_of_checkPaths h, List.pairwise_map]
  refine (distinct_of_checkPaths h).2.imp_of_mem fun {x y} hx hy hdiffer hsame => ?_
  rw [(Target.same_destination_iff (hdest x hx) (hdest y hy)).mpr hsame] at hdiffer
  exact absurd hdiffer nofun

/-- Accepted targets pass the check if the names that lead to them are different. -/
theorem checkPaths_of_names (dir : Path) {ts : List Target}
    (haccepted : ∀ t ∈ ts, ∃ p, t.relativePath = .ok p)
    (hnames : ts.Pairwise fun t t' => t.names ≠ t'.names) :
    ∃ planned, checkPaths dir [] ts = .ok planned := by
  refine checkPaths_of_noFault (seen_nil dir) fun i t ⟨hi, hfault⟩ => ?_
  rcases hfault with ⟨e, he⟩ | ⟨s, hs, p, q, hp, hq, hsame⟩
  · obtain ⟨p, hp⟩ := haccepted t (List.mem_of_getElem? hi)
    rw [hp] at he
    exact absurd he nofun
  · have hlater : t ∈ ts.drop i := by
      refine List.mem_of_getElem? (i := 0) ?_
      rw [List.getElem?_drop, Nat.add_zero, hi]
    rw [← List.take_append_drop i ts, List.pairwise_append] at hnames
    refine hnames.2.2 s hs t hlater (Target.map_name_inj ?_)
    rw [← Target.components_relativePath hp, ← Target.components_relativePath hq]
    exact beq_iff_eq.mp hsame

/-- Whether a backend plans targets that pass the check and that `p` holds of. -/
def plans (g : Generator) (b : Backend) (d : Disk) (p : List Target → Bool) : Bool :=
  ((b.plan g).runOn d).1.toOption.any fun ts =>
    ts.all (·.relativePath.isOk) && decide (ts.Pairwise fun t t' => t.names ≠ t'.names) && p ts

theorem exists_of_plans {g : Generator} {b : Backend} {d : Disk} {p : List Target → Bool}
    (h : g.plans b d p = true) (dir : Path) :
    ∃ ts after planned, (b.plan g).runOn d = (.ok ts, after) ∧
      checkPaths dir [] ts = .ok planned ∧ p ts = true := by
  unfold plans at h
  rcases hrun : (b.plan g).runOn d with ⟨result, after⟩
  rw [hrun] at h
  cases result with
  | error e => exact absurd h nofun
  | ok ts =>
      have hchecked := (Option.any_some ..).symm.trans h
      simp only [Bool.and_eq_true, decide_eq_true_eq, List.all_eq_true] at hchecked
      obtain ⟨⟨haccepted, hnames⟩, hp⟩ := hchecked
      have hpaths : ∀ t ∈ ts, ∃ relative, t.relativePath = .ok relative := by
        intro t ht
        have hok := haccepted t ht
        cases hr : t.relativePath with
        | ok relative => exact ⟨relative, rfl⟩
        | error e =>
            rw [hr] at hok
            exact absurd hok nofun
      obtain ⟨planned, hcheck⟩ := checkPaths_of_names dir hpaths hnames
      exact ⟨ts, after, planned, rfl, hcheck, hp⟩

end Generator

/-! ## The rest of a run -/

/-- The kinds of error that the check of paths reports. -/
def Error.IsPathKind : Error → Prop
  | .config _ | .duplicatePath _ => True
  | _ => False

/-- The kinds of error that one template gives: of its file, its text or its context. -/
def Error.IsTemplateKind : Error → Prop
  | .io _ _ | .unknownTemplate _ _ | .templateSyntax _ _ | .missingContextKey _ _
  | .render _ _ => True
  | _ => False

theorem Error.IsTemplateKind.not_isPathKind {e : Error} (h : e.IsTemplateKind) :
    ¬ e.IsPathKind := by
  cases e <;> first | exact id | exact absurd h id

namespace Repository

theorem failsWith_load (r : Repository) (key : TemplateKey) :
    FailsWith (·.IsTemplateKind) (r.load key) := by
  unfold load customText? isCustom
  refine failsWith_bind (failsWith_bind (failsWith_ask _) fun custom => ?_) fun text => ?_
  · cases custom with
    | true =>
        exact failsWith_bind (failsWith_readText (fun _ _ => trivial) _) fun _ => failsWith_pure _
    | false => exact failsWith_pure _
  · cases text with
    | some text => exact failsWith_pure _
    | none =>
        dsimp only
        split
        · exact failsWith_pure _
        · exact failsWith_throw trivial

end Repository

namespace CompiledTemplate

theorem isTemplateKind_of_compile {name text : String} {e : Error}
    (h : compile name text = .error e) : e.IsTemplateKind := by
  unfold compile at h
  split at h
  · exact absurd h (by simp)
  · rw [← Except.error.inj h]
    trivial

theorem templateSyntax_of_not_isOk {name text : String} (h : (compile name text).isOk = false) :
    ∃ detail, compile name text = .error (.templateSyntax name detail) := by
  unfold compile at h ⊢
  split
  · next tree htree =>
    rw [htree] at h
    exact absurd h nofun
  · exact ⟨_, rfl⟩

theorem isTemplateKind_errorOf (name : String) (frames : List Template.Frame)
    (fault : Template.Fault) : (errorOf name frames fault).IsTemplateKind := by
  unfold errorOf
  dsimp only
  split <;> trivial

theorem isTemplateKind_of_execute {t : CompiledTemplate} {context : Context}
    {engine : Template.Engine} {world : Template.World} {e : Error}
    (h : t.execute context engine world = .error e) : e.IsTemplateKind := by
  unfold execute outcome? at h
  split at h
  · rw [← Except.error.inj h]
    trivial
  · cases hrender : t.tree.render t.name context.values engine world with
    | none =>
        rw [hrender] at h
        rw [← Except.error.inj h]
        trivial
    | some result =>
        rw [hrender] at h
        obtain ⟨r, after⟩ := result
        cases r with
        | ok text => cases h
        | error fault =>
            rw [← Except.error.inj h]
            exact isTemplateKind_errorOf _ _ _

end CompiledTemplate

namespace Generator

theorem failsWith_compile (g : Generator) (key : TemplateKey) :
    FailsWith (·.IsTemplateKind) (g.compile key) := by
  unfold compile
  refine failsWith_bind (g.repository.failsWith_load key) fun record => ?_
  refine failsWith_bind (failsWith_ofExcept fun e he => ?_) fun _ => failsWith_pure _
  exact CompiledTemplate.isTemplateKind_of_compile he

/-- Saving a target complains about its template or file, unless the formatter complains. -/
theorem Step.error_source {g : Generator} {t : Target} {dest : Path} {d after : Disk} {e : Error}
    (h : Step g t dest d (.error e) after) :
    ∃ source, e = attributeTo t source ∧
      (source.IsTemplateKind ∨ ∃ raw, g.tools.formatter dest raw = .error source) := by
  cases h with
  | @uncompiled source hc =>
      refine ⟨source, rfl, Or.inl (g.failsWith_compile t.template d source d ?_)⟩
      rw [(g.reads_compile t.template).runOn_eq]
      exact Prod.ext hc rfl
  | @unrendered c source hc hk hx =>
      exact ⟨source, rfl, Or.inl (CompiledTemplate.isTemplateKind_of_execute hx)⟩
  | @unformatted c raw source hc hk hx hf => exact ⟨source, rfl, Or.inr ⟨raw, hf⟩⟩
  | @unwritten c raw text source after hc hk hx hf hw =>
      exact ⟨source, rfl,
        Or.inl (failsWith_writeFile (P := (·.IsTemplateKind)) (fun _ _ => trivial) dest text d
          source after hw)⟩

theorem Steps.error_source {g : Generator} {planned : List (Target × Path)} {d after : Disk}
    {e : Error} (h : Steps g planned d (.error e) after) :
    ∃ p ∈ planned, ∃ source, e = attributeTo p.1 source ∧
      (¬ source.IsPathKind ∨ ∃ raw, g.tools.formatter p.2 raw = .error source) := by
  induction h using Steps.errorInduction with
  | @stop t dest rest d after hstep =>
      obtain ⟨source, he, hsource⟩ := hstep.error_source
      exact ⟨(t, dest), List.mem_cons_self, source, he,
        hsource.imp Error.IsTemplateKind.not_isPathKind id⟩
  | next hstep hrest ih =>
      obtain ⟨p, hp, h⟩ := ih
      exact ⟨p, List.mem_cons_of_mem _ hp, h⟩

/-! ## Whole runs -/

/-- A run on what planning found: the check of the paths and then the saves. -/
theorem runOn_runWith {formatting : Formatting} {g : Generator} {b : Backend} {dir : Path}
    {d : Disk} {ts : List Target} (hb : b.ReadsOnly) (hplan : ((b.plan g).runOn d).1 = .ok ts) :
    (g.runWith formatting b dir).runOn d =
      match checkPaths dir [] ts with
      | .error e => (.error e, d)
      | .ok planned => (g.saveAllWith formatting planned).runOn d := by
  have hplan' : (mapError (b.plan g) (attributePlan b)).runOn d = (.ok ts, d) := by
    rw [mapError_eq_ok, (hb g).runOn_eq, hplan]
  unfold runWith
  rw [runOn_bind_of_ok hplan', runOn_bind, runOn_ofExcept]
  cases checkPaths dir [] ts <;> rfl

theorem runOn_run {g : Generator} {b : Backend} {dir : Path} {d : Disk} {ts : List Target}
    (hb : b.ReadsOnly) (hplan : ((b.plan g).runOn d).1 = .ok ts) :
    (g.run b dir).runOn d =
      match checkPaths dir [] ts with
      | .error e => (.error e, d)
      | .ok planned => (g.saveAll planned).runOn d := runOn_runWith hb hplan

/-- Before anything is written a run looks for the first target whose path is
refused or repeated, whatever the output directory and the disk. If there is
one, the run reports it and leaves the disk as it was; if there is none, the run
reports no path, unless the formatter does. -/
theorem run_reports_first_fault (ts : List Target) :
    (∀ i t, FirstFault ts i t → ∀ (g : Generator) (b : Backend) (dir : Path) (d : Disk),
      b.ReadsOnly → ((b.plan g).runOn d).1 = .ok ts →
        ∃ source, IsComplaint dir t source ∧
          (g.run b dir).runOn d =
            (.error (.generation t.category t.template.name t.node source), d)) ∧
    ((∀ i t, ¬ FaultyAt ts i t) → ∀ (g : Generator) (b : Backend) (dir : Path) (d after : Disk)
      (e : Error), b.ReadsOnly → ((b.plan g).runOn d).1 = .ok ts →
        (g.run b dir).runOn d = (.error e, after) →
        ∃ t ∈ ts, ∃ source, e = .generation t.category t.template.name t.node source ∧
          (¬ source.IsPathKind ∨
            ∃ p raw, t.destination dir = .ok p ∧ g.tools.formatter p raw = .error source)) := by
  constructor
  · intro i t hfirst g b dir d hb hplan
    obtain ⟨source, hcheck, hcomplaint⟩ := checkPaths_of_firstFault (seen_nil dir) hfirst
    refine ⟨source, hcomplaint, ?_⟩
    rw [runOn_run hb hplan, hcheck]
    rfl
  · intro hnone g b dir d after e hb hplan hrun
    obtain ⟨planned, hcheck⟩ := checkPaths_of_noFault (seen_nil dir) hnone
    rw [runOn_run hb hplan, hcheck] at hrun
    have hsteps := g.steps_saveAll planned d
    dsimp only at hrun
    rw [hrun] at hsteps
    obtain ⟨p, hp, source, he, hsource⟩ := hsteps.error_source
    have hmem : p.1 ∈ ts := map_fst_of_checkPaths hcheck ▸ List.mem_map_of_mem hp
    refine ⟨p.1, hmem, source, he, hsource.imp id ?_⟩
    rintro ⟨raw, hraw⟩
    exact ⟨p.2, raw, destination_of_checkPaths hcheck p hp, hraw⟩

/-- A handler in the folder `api`, however its slashes are written. -/
def handlerIn (subdir : String) : Target where
  subdir := subdir
  filename := "user.go"
  template := ⟨.api, "user.tpl"⟩
  context := Context.empty
  overwrite := .always
  node := "route"

/-- Slashes do not hide a repetition, and without one the handler fails for
want of a template. -/
theorem run_reports_repeated_handler :
    (FirstFault [handlerIn "api", handlerIn "/api//"] 1 (handlerIn "/api//") ∧
      ∃ source, IsComplaint ⟨"out"⟩ (handlerIn "/api//") source ∧
        (plain.run (.fixed [handlerIn "api", handlerIn "/api//"]) ⟨"out"⟩).runOn {} =
          (.error (.generation .api "user.tpl" "route" source), {})) ∧
    (∃ e, (plain.run (.fixed [handlerIn "api"]) ⟨"out"⟩).runOn {} = (.error e, {}) ∧
      ∃ t ∈ [handlerIn "api"], ∃ source, e = .generation t.category t.template.name t.node source ∧
        (¬ source.IsPathKind ∨
          ∃ p raw, t.destination ⟨"out"⟩ = .ok p ∧ plain.tools.formatter p raw = .error source)) := by
  have hplain : (handlerIn "api").relativePath = .ok ⟨"api/user.go"⟩ := by decide
  have hslashes : (handlerIn "/api//").relativePath = .ok ⟨"api/user.go"⟩ := by decide
  have hsound : ∀ t, (∃ e, (handlerIn "api").relativePath = .error e) ∨
      (∃ s ∈ ([] : List Target), s.SamePath (handlerIn "api")) → ¬ handlerIn "api" = t := by
    rintro t (⟨e, he⟩ | ⟨s, hs, -⟩)
    · rw [hplain] at he
      exact absurd he (by simp)
    · exact absurd hs (by simp)
  have hfirst : FirstFault [handlerIn "api", handlerIn "/api//"] 1 (handlerIn "/api//") := by
    refine ⟨⟨rfl, Or.inr ⟨handlerIn "api", List.mem_cons_self, _, _, hplain, hslashes, ?_⟩⟩, ?_⟩
    · decide
    · intro j hj s hs
      obtain rfl : j = 0 := by omega
      obtain ⟨heq, h⟩ := faultyAfter_zero.mp hs
      exact hsound s h heq
  have hnone : ∀ i t, ¬ FaultyAt [handlerIn "api"] i t := by
    intro i t h
    cases i with
    | zero =>
        obtain ⟨heq, h⟩ := faultyAfter_zero.mp h
        exact hsound t h heq
    | succ i =>
        have hmissing := h.1
        exact absurd hmissing (by simp)
  refine ⟨⟨hfirst, ?_⟩, ?_⟩
  · exact (run_reports_first_fault _).1 1 _ hfirst plain _ ⟨"out"⟩ {}
      (Backend.readsOnly_fixed _) rfl
  · have hrun : (plain.run (.fixed [handlerIn "api"]) ⟨"out"⟩).runOn {} =
        (.error (.generation .api "user.tpl" "route" (.unknownTemplate "api" "user.tpl")), {}) := by
      decide
    exact ⟨_, hrun, (run_reports_first_fault _).2 hnone plain _ ⟨"out"⟩ {} {} _
      (Backend.readsOnly_fixed _) rfl hrun⟩

end Generator

end Scaffold
