import Scaffold.Generation.Generator
import Scaffold.Proofs.Disk.WellFormed
import Scaffold.Proofs.Generation.Planning

/-!
# Saving targets

`Step` lists the ways in which saving one target can end, with all that is known
in each of them; it is the only place that opens the code. A run of saves is a
chain of steps that stops at the first error.
-/

namespace Scaffold

open Scaffold.Action

namespace Generator

/-! ## One target -/

/-- Whether the file of a target is left as it is on a disk. -/
def Keeps (t : Target) (dest : Path) (d : Disk) : Prop :=
  t.overwrite = .ifMissing ∧ d.pathExists dest = true

/-- The template that a target stands for on a disk, or why there is none. -/
def compiled (g : Generator) (t : Target) (d : Disk) : Except Error CompiledTemplate :=
  ((g.compile t.template).runOn d).1

/-- The text of a target on a disk before it is formatted. -/
def content (g : Generator) (t : Target) (d : Disk) : Except Error String :=
  (g.compiled t d).bind (g.tools.execute · t.context)

/-- The ends of saving a target: its result and the disk behind it. -/
inductive Step (g : Generator) (t : Target) (dest : Path) (d : Disk) :
    Except Error Saved → Disk → Prop
  | uncompiled {e : Error} (hc : g.compiled t d = .error e) :
      Step g t dest d (.error (attributeTo t e)) d
  | kept {c : CompiledTemplate} (hc : g.compiled t d = .ok c) (hk : Keeps t dest d) :
      Step g t dest d (.ok .skipped) d
  | unrendered {c : CompiledTemplate} {e : Error} (hc : g.compiled t d = .ok c)
      (hk : ¬ Keeps t dest d) (hx : g.tools.execute c t.context = .error e) :
      Step g t dest d (.error (attributeTo t e)) d
  | unformatted {c : CompiledTemplate} {raw : String} {e : Error} (hc : g.compiled t d = .ok c)
      (hk : ¬ Keeps t dest d) (hx : g.tools.execute c t.context = .ok raw)
      (hf : g.tools.formatter dest raw = .error e) : Step g t dest d (.error (attributeTo t e)) d
  | unwritten {c : CompiledTemplate} {raw text : String} {e : Error} {after : Disk}
      (hc : g.compiled t d = .ok c) (hk : ¬ Keeps t dest d)
      (hx : g.tools.execute c t.context = .ok raw)
      (hf : g.tools.formatter dest raw = .ok text)
      (hw : (writeFile dest text).runOn d = (.error e, after)) :
      Step g t dest d (.error (attributeTo t e)) after
  | written {c : CompiledTemplate} {raw text : String} {after : Disk}
      (hc : g.compiled t d = .ok c) (hk : ¬ Keeps t dest d)
      (hx : g.tools.execute c t.context = .ok raw)
      (hf : g.tools.formatter dest raw = .ok text)
      (hw : (writeFile dest text).runOn d = (.ok (), after)) :
      Step g t dest d (.ok .written) after

/-! What saving is with a formatter that leaves the disk alone. -/

theorem saveTarget_eq (g : Generator) (t : Target) (dest : Path) :
    g.saveTarget t dest = Action.mapError (do
      let template ← g.compile t.template
      template.save t.context g.tools dest t.overwrite) (attributeTo t) := rfl

theorem saveAll_cons (g : Generator) (t : Target) (dest : Path) (rest : List (Target × Path)) :
    g.saveAll ((t, dest) :: rest) = (do
      let saved ← g.saveTarget t dest
      let report ← g.saveAll rest
      match saved with
      | .written => return ⟨dest :: report.written, report.skipped⟩
      | .skipped => return ⟨report.written, dest :: report.skipped⟩) := rfl

theorem run_eq (g : Generator) (b : Backend) (dir : Path) :
    g.run b dir = (do
      let targets ← Action.mapError (b.plan g) (attributePlan b)
      let planned ← Action.ofExcept (checkPaths dir [] targets)
      g.saveAll planned) := rfl

/-- Saving with a template that keeps the file only asks whether it exists. -/
theorem runOn_save_of_kept {c : CompiledTemplate} {context : Context} {tools : Tools}
    {dest : Path} {d : Disk} (h : d.pathExists dest = true) :
    (c.save context tools dest .ifMissing).runOn d = (.ok .skipped, d) := by
  unfold CompiledTemplate.save CompiledTemplate.saveWith
  rw [runOn_bind_of_ok (runOn_ask _ d), h]
  rfl

theorem runOn_save_of_not_kept {c : CompiledTemplate} {context : Context}
    {tools : Tools} {dest : Path} {overwrite : Overwrite} {d : Disk}
    (h : ¬ (overwrite = .ifMissing ∧ d.pathExists dest = true)) :
    (c.save context tools dest overwrite).runOn d =
      (Action.ofExcept (tools.execute c context) >>= fun raw =>
        Action.ofExcept (tools.formatter dest raw) >>= fun text =>
        writeFile dest text >>= fun _ => pure Saved.written).runOn d := by
  unfold CompiledTemplate.save CompiledTemplate.saveWith
  rw [runOn_bind_of_ok (runOn_ask _ d)]
  have hcond : ¬ ((decide (overwrite = .ifMissing) && d.pathExists dest) = true) := by
    simpa using h
  rw [if_neg hcond]
  rfl

theorem runOn_saveTarget (g : Generator) (t : Target) (dest : Path) (d : Disk) :
    (g.saveTarget t dest).runOn d =
      match g.compiled t d with
      | .error e => (.error (attributeTo t e), d)
      | .ok c => (((c.save t.context g.tools dest t.overwrite).runOn d).1.mapError
          (attributeTo t), ((c.save t.context g.tools dest t.overwrite).runOn d).2) := by
  have hcompile := (g.reads_compile t.template).runOn_eq d
  rw [saveTarget_eq, runOn_mapError, runOn_bind, hcompile, compiled]
  cases ((g.compile t.template).runOn d).1 <;> rfl

/-- Saving a target is one of the steps. -/
theorem step_saveTarget (g : Generator) (t : Target) (dest : Path) (d : Disk) :
    Step g t dest d ((g.saveTarget t dest).runOn d).1 ((g.saveTarget t dest).runOn d).2 := by
  rw [runOn_saveTarget]
  cases hc : g.compiled t d with
  | error e => exact Step.uncompiled hc
  | ok c =>
      dsimp only
      by_cases hk : Keeps t dest d
      · rw [hk.1, runOn_save_of_kept hk.2]
        exact Step.kept hc hk
      · rw [runOn_save_of_not_kept hk]
        cases hx : g.tools.execute c t.context with
        | error e => exact Step.unrendered hc hk hx
        | ok raw =>
            rw [runOn_bind_of_ok (runOn_ofExcept _ d)]
            cases hf : g.tools.formatter dest raw with
            | error e => exact Step.unformatted hc hk hx hf
            | ok text =>
                rw [runOn_bind_of_ok (runOn_ofExcept _ d)]
                rcases hw : (writeFile dest text).runOn d with ⟨r, after⟩
                cases r with
                | error e =>
                    rw [runOn_bind_of_error hw]
                    exact Step.unwritten hc hk hx hf hw
                | ok done =>
                    rw [runOn_bind_of_ok hw]
                    exact Step.written hc hk hx hf hw

/-- A step changes the place of its file and makes directories above it. -/
theorem Step.changesAt {g : Generator} {t : Target} {dest : Path} {d after : Disk}
    {r : Except Error Saved} (h : Step g t dest d r after) : d.ChangesAt (· = dest) after := by
  cases h with
  | uncompiled hc => exact Disk.ChangesAt.refl d
  | kept hc hk => exact Disk.ChangesAt.refl d
  | unrendered hc hk hx => exact Disk.ChangesAt.refl d
  | unformatted hc hk hx hf => exact Disk.ChangesAt.refl d
  | @unwritten c raw text e after hc hk hx hf hw =>
      have hchange := changesAt_writeFile dest text d
      rw [hw] at hchange
      exact hchange
  | @written c raw text after hc hk hx hf hw =>
      have hchange := changesAt_writeFile dest text d
      rw [hw] at hchange
      exact hchange

/-- A step that skips its file changes nothing. -/
theorem Step.eq_of_skipped {g : Generator} {t : Target} {dest : Path} {d after : Disk}
    (h : Step g t dest d (.ok .skipped) after) : after = d := by
  cases h with
  | kept hc hk => rfl

end Generator

/-! ## Many targets -/

/-- The report with one more path in front. -/
def Report.record (r : Report) (dest : Path) : Saved → Report
  | .written => ⟨dest :: r.written, r.skipped⟩
  | .skipped => ⟨r.written, dest :: r.skipped⟩

namespace Generator

/-- A chain of steps and its result: a report of them all, or the error of the
last one. -/
inductive Steps (g : Generator) : List (Target × Path) → Disk → Except Error Report → Disk → Prop
  | done (d : Disk) : Steps g [] d (.ok ⟨[], []⟩) d
  | stop {t : Target} {dest : Path} {rest : List (Target × Path)} {d after : Disk} {e : Error}
      (hstep : Step g t dest d (.error e) after) :
      Steps g ((t, dest) :: rest) d (.error e) after
  | next {t : Target} {dest : Path} {rest : List (Target × Path)} {d mid after : Disk}
      {saved : Saved} {r : Except Error Report} (hstep : Step g t dest d (.ok saved) mid)
      (hrest : Steps g rest mid r after) :
      Steps g ((t, dest) :: rest) d (r.map (·.record dest saved)) after

/-- Induction on a chain that ends with a report: none of its steps has failed. -/
@[elab_as_elim]
theorem Steps.reportInduction {g : Generator}
    {motive : (planned : List (Target × Path)) → (d after : Disk) → (report : Report) →
      Steps g planned d (.ok report) after → Prop}
    (done : ∀ d, motive [] d d ⟨[], []⟩ (.done d))
    (next : ∀ {t dest rest d mid after saved report} (hstep : Step g t dest d (.ok saved) mid)
      (hrest : Steps g rest mid (.ok report) after), motive rest mid after report hrest →
        motive ((t, dest) :: rest) d after (report.record dest saved) (.next hstep hrest))
    {planned : List (Target × Path)} {d after : Disk} {report : Report}
    (h : Steps g planned d (.ok report) after) : motive planned d after report h := by
  suffices hall : ∀ r (h : Steps g planned d r after) report (hr : r = .ok report),
      motive planned d after report (hr ▸ h) from hall _ h report rfl
  clear h
  intro r h
  induction h with
  | done d =>
      intro report hr
      obtain rfl := Except.ok.inj hr
      exact done d
  | stop hstep => exact fun _ hr => absurd hr nofun
  | @next t dest rest d mid after saved r hstep hrest ih =>
      intro report hr
      cases r with
      | error e => exact absurd hr nofun
      | ok tail =>
          obtain rfl := Except.ok.inj hr
          exact next hstep hrest (ih tail rfl)

/-- Induction on a chain that ends with an error: its last step has failed and no other. -/
@[elab_as_elim]
theorem Steps.errorInduction {g : Generator} {e : Error}
    {motive : (planned : List (Target × Path)) → (d after : Disk) →
      Steps g planned d (.error e) after → Prop}
    (stop : ∀ {t dest rest d after} (hstep : Step g t dest d (.error e) after),
      motive ((t, dest) :: rest) d after (.stop hstep))
    (next : ∀ {t dest rest d mid after saved} (hstep : Step g t dest d (.ok saved) mid)
      (hrest : Steps g rest mid (.error e) after), motive rest mid after hrest →
        motive ((t, dest) :: rest) d after (.next hstep hrest))
    {planned : List (Target × Path)} {d after : Disk} (h : Steps g planned d (.error e) after) :
    motive planned d after h := by
  suffices hall : ∀ r (h : Steps g planned d r after) (hr : r = .error e),
      motive planned d after (hr ▸ h) from hall _ h rfl
  clear h
  intro r h
  induction h with
  | done d => exact fun hr => absurd hr nofun
  | stop hstep =>
      intro hr
      obtain rfl := Except.error.inj hr
      exact stop hstep
  | @next t dest rest d mid after saved r hstep hrest ih =>
      intro hr
      cases r with
      | ok report => exact absurd hr nofun
      | error e' =>
          obtain rfl := Except.error.inj hr
          exact next hstep hrest (ih rfl)

/-! ## One target in front of others -/

theorem saveAllWith_cons_of_ok {formatting : Formatting} {g : Generator} {t : Target} {dest : Path}
    {rest : List (Target × Path)} {d mid : Disk} {saved : Saved}
    (h : (g.saveTargetWith formatting t dest).runOn d = (.ok saved, mid)) :
    (g.saveAllWith formatting ((t, dest) :: rest)).runOn d =
      (((g.saveAllWith formatting rest).runOn mid).1.map (·.record dest saved),
        ((g.saveAllWith formatting rest).runOn mid).2) := by
  rw [saveAllWith, runOn_bind_of_ok h, runOn_bind]
  rcases (g.saveAllWith formatting rest).runOn mid with ⟨r, after⟩
  cases r with
  | error e => rfl
  | ok report => cases saved <;> rfl

theorem saveAll_cons_of_ok {g : Generator} {t : Target} {dest : Path} {rest : List (Target × Path)}
    {d mid : Disk} {saved : Saved} (h : (g.saveTarget t dest).runOn d = (.ok saved, mid)) :
    (g.saveAll ((t, dest) :: rest)).runOn d =
      (((g.saveAll rest).runOn mid).1.map (·.record dest saved),
        ((g.saveAll rest).runOn mid).2) := saveAllWith_cons_of_ok h

/-- A failure of many saves is the failure of one of them, behind saves that succeed. -/
theorem saveAllWith_eq_error {formatting : Formatting} {g : Generator}
    {planned : List (Target × Path)} {d after : Disk} {e : Error}
    (h : (g.saveAllWith formatting planned).runOn d = (.error e, after)) :
    ∃ before x rest report mid, planned = before ++ x :: rest ∧
      (g.saveAllWith formatting before).runOn d = (.ok report, mid) ∧
      (g.saveTargetWith formatting x.1 x.2).runOn mid = (.error e, after) := by
  induction planned generalizing d with
  | nil => cases congrArg Prod.fst h
  | cons head rest ih =>
      obtain ⟨t, dest⟩ := head
      rcases hsave : (g.saveTargetWith formatting t dest).runOn d with ⟨r, mid⟩
      cases r with
      | error err =>
          rw [saveAllWith, runOn_bind_of_error hsave] at h
          obtain ⟨rfl, rfl⟩ : err = e ∧ mid = after := by simpa using h
          exact ⟨[], (t, dest), rest, ⟨[], []⟩, d, rfl, rfl, hsave⟩
      | ok saved =>
          rw [saveAllWith_cons_of_ok hsave] at h
          obtain ⟨hresult, hafter⟩ := Prod.ext_iff.mp h
          have hrest : (g.saveAllWith formatting rest).runOn mid = (.error e, after) := by
            refine Prod.ext ?_ hafter
            cases hr : ((g.saveAllWith formatting rest).runOn mid).1 with
            | error err =>
                rw [hr] at hresult
                exact hresult
            | ok report =>
                rw [hr] at hresult
                cases hresult
          obtain ⟨before, x, later, report, last, rfl, hbefore, hx⟩ := ih hrest
          refine ⟨(t, dest) :: before, x, later, report.record dest saved, last, rfl, ?_, hx⟩
          rw [saveAllWith_cons_of_ok hsave, hbefore]
          rfl

theorem saveAll_eq_error {g : Generator} {planned : List (Target × Path)} {d after : Disk}
    {e : Error} (h : (g.saveAll planned).runOn d = (.error e, after)) :
    ∃ before x rest report mid, planned = before ++ x :: rest ∧
      (g.saveAll before).runOn d = (.ok report, mid) ∧
      (g.saveTarget x.1 x.2).runOn mid = (.error e, after) := saveAllWith_eq_error h

theorem steps_saveAll (g : Generator) (planned : List (Target × Path)) (d : Disk) :
    Steps g planned d ((g.saveAll planned).runOn d).1 ((g.saveAll planned).runOn d).2 := by
  induction planned generalizing d with
  | nil => exact Steps.done d
  | cons head rest ih =>
      obtain ⟨t, dest⟩ := head
      have hstep := g.step_saveTarget t dest d
      rw [saveAll_cons]
      rcases hsave : (g.saveTarget t dest).runOn d with ⟨r, mid⟩
      rw [hsave] at hstep
      cases r with
      | error e =>
          rw [runOn_bind_of_error hsave]
          exact Steps.stop hstep
      | ok saved =>
          rw [runOn_bind_of_ok hsave, runOn_bind]
          have hnext := Steps.next hstep (ih mid)
          rcases hall : (g.saveAll rest).runOn mid with ⟨r', after⟩
          rw [hall] at hnext
          cases r' with
          | error e => exact hnext
          | ok report => cases saved <;> exact hnext

/-- A chain changes the places of its files and makes directories above them. -/
theorem Steps.changesAt {g : Generator} {planned : List (Target × Path)} {d after : Disk}
    {r : Except Error Report} (h : Steps g planned d r after) :
    d.ChangesAt (· ∈ planned.map Prod.snd) after := by
  induction h with
  | done d => exact Disk.ChangesAt.refl d
  | stop hstep =>
      refine hstep.changesAt.mono fun p hp => ?_
      rw [hp]
      exact List.mem_cons_self
  | next hstep hrest ih =>
      refine Disk.ChangesAt.trans (hstep.changesAt.mono fun p hp => ?_)
        (ih.mono fun p hp => List.mem_cons_of_mem _ hp)
      rw [hp]
      exact List.mem_cons_self

/-! ## Well-formed disks -/

theorem Step.wellFormed {g : Generator} {t : Target} {dest : Path} {d after : Disk}
    {r : Except Error Saved} (h : Step g t dest d r after) (hd : d.WellFormed) :
    after.WellFormed := by
  cases h with
  | uncompiled hc => exact hd
  | kept hc hk => exact hd
  | unrendered hc hk hx => exact hd
  | unformatted hc hk hx hf => exact hd
  | @unwritten c raw text e after hc hk hx hf hw =>
      have hwrite := wellFormed_writeFile hd dest text
      rwa [hw] at hwrite
  | @written c raw text after hc hk hx hf hw =>
      have hwrite := wellFormed_writeFile hd dest text
      rwa [hw] at hwrite

theorem wellFormed_saveTarget (g : Generator) (t : Target) (dest : Path) {d : Disk}
    (hd : d.WellFormed) : ((g.saveTarget t dest).runOn d).2.WellFormed :=
  (g.step_saveTarget t dest d).wellFormed hd

theorem wellFormed_saveAll (g : Generator) (planned : List (Target × Path)) {d : Disk}
    (hd : d.WellFormed) : ((g.saveAll planned).runOn d).2.WellFormed := by
  induction planned generalizing d with
  | nil => exact hd
  | cons head rest ih =>
      obtain ⟨t, dest⟩ := head
      have hstep := g.wellFormed_saveTarget t dest hd
      rcases hsave : (g.saveTarget t dest).runOn d with ⟨r, mid⟩
      rw [hsave] at hstep
      cases r with
      | error e =>
          rw [saveAll_cons, runOn_bind_of_error hsave]
          exact hstep
      | ok saved =>
          rw [saveAll_cons_of_ok hsave]
          exact ih hstep

end Generator

end Scaffold
