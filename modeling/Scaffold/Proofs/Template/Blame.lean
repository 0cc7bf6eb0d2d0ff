import Scaffold.Proofs.Template.Paths
import Scaffold.Proofs.Template.PlainValues
import Scaffold.Proofs.Template.Wording
import Scaffold.Proofs.Traversal

/-!
# Failures that name a variable

A failure is quiet when its explanation names no variable that was not found. It is honest
when the variable that its explanation names is the one without a value that it goes back
to. The only failures that are honest without being quiet come from looking a path up.
-/

namespace Scaffold.Template

open Text

namespace Fault

/-- A failure goes back to another one, through calls and brackets that failed with it. -/
inductive StemsFrom (origin : Fault) : Fault → Prop
  | self : StemsFrom origin origin
  | brackets {cause : Fault} (path : String) (h : StemsFrom origin cause) :
      StemsFrom origin (.badBrackets path cause)
  | call {cause : Fault} (kind : Callable) (name : String) (h : StemsFrom origin cause) :
      StemsFrom origin (.inCall kind name cause)
  | bare {cause : Fault} (h : StemsFrom origin cause) : StemsFrom origin cause.withoutCause

/-- A failure whose explanation names no variable. -/
structure Quiet (f : Fault) : Prop where
  message : Silent f.message
  headline : Silent f.headline

theorem quiet_other {text : String} (h : Silent text) : (other text).Quiet := ⟨h, h⟩

theorem quiet_of_unticked {text : String} (h : Unticked text) : (other text).Quiet :=
  quiet_other (silent_of_unticked h)

end Fault

/-- Whatever variable an explanation names has no value, and the failure goes back to that. -/
def Named (template : String) (context : SortedMap Value) (frames : List Frame) (f : Fault)
    (explanation : String) : Prop :=
  ∀ front, '\x60' ∉ front → ∀ name,
    undefinedNameIn (front ++ explanation.toList) = some name →
    ∃ resolved, (Fault.undefined (String.ofList name) template resolved).StemsFrom f ∧
      valueAt template context frames (name.length + 1) (String.ofList name) =
        .error (.undefined (String.ofList name) template resolved)

/-- A failure whose explanation names only a variable that it goes back to. -/
structure Honest (template : String) (context : SortedMap Value) (frames : List Frame)
    (f : Fault) : Prop where
  message : Named template context frames f f.message
  headline : Named template context frames f f.headline

section

variable {template : String} {context : SortedMap Value} {frames : List Frame} {f cause : Fault}

theorem Silent.named {s : String} (h : Silent s) : Named template context frames f s := by
  intro front hfront name hname
  rw [h front hfront] at hname
  exact absurd hname nofun

theorem Named.append {s t : String} (hs : Unticked s) (h : Named template context frames f t) :
    Named template context frames f (s ++ t) := by
  intro front hfront name hname
  rw [String.toList_append, ← List.append_assoc] at hname
  exact h _ (fun hmem => (List.mem_append.mp hmem).elim hfront hs) name hname

theorem Named.of_cause {s : String} (h : Named template context frames cause s)
    (hcause : ∀ origin : Fault, origin.StemsFrom cause → origin.StemsFrom f) :
    Named template context frames f s := by
  intro front hfront name hname
  obtain ⟨resolved, hstems, hvalue⟩ := h front hfront name hname
  exact ⟨resolved, hcause _ hstems, hvalue⟩

theorem Honest.of_quiet (h : f.Quiet) : Honest template context frames f :=
  ⟨h.message.named, h.headline.named⟩

theorem Honest.brackets (h : Honest template context frames cause) {path : String}
    (hpath : Unticked path) : Honest template context frames (.badBrackets path cause) := by
  have hmessage : Named template context frames (.badBrackets path cause)
      ("Variable " ++ path ++ " can not be evaluated because: " ++ cause.message) :=
    (h.message.of_cause fun _ => .brackets path).append
      (unticked_between (by decide) hpath (by decide))
  exact ⟨hmessage, hmessage⟩

theorem unticked_title (kind : Callable) : Unticked kind.title := by
  cases kind <;> decide

theorem Honest.call (h : Honest template context frames cause) (kind : Callable) {name : String}
    (hname : Unticked name) : Honest template context frames (.inCall kind name cause) := by
  have hcall : Unticked (kind.title ++ " call '" ++ name) :=
    unticked_between (unticked_title kind) (by decide) hname
  exact ⟨(h.message.of_cause fun _ => .call kind name).append
      (unticked_append.mpr ⟨hcall, by decide⟩),
    (silent_of_unticked (unticked_append.mpr ⟨hcall, by decide⟩)).named⟩

theorem Honest.bare (h : Honest template context frames f) :
    Honest template context frames f.withoutCause := by
  have hheadline : Named template context frames f.withoutCause f.headline :=
    h.headline.of_cause fun _ => .bare
  exact ⟨hheadline, hheadline⟩

/-! ## Looking paths up -/

theorem bracketed_prefix (depth : Nat) (cs : List Char) : (bracketed depth cs).1 <+: cs := by
  induction cs generalizing depth with
  | nil => exact List.nil_prefix
  | cons c cs ih =>
      unfold bracketed
      split
      · exact List.nil_prefix
      · exact List.cons_prefix_cons.mpr ⟨rfl, ih _⟩

/-- The rest behind a bracketed path is a part of what was there before. -/
theorem bracketed_suffix (depth : Nat) (cs : List Char) : (bracketed depth cs).2 <:+ cs := by
  induction cs generalizing depth with
  | nil => exact List.suffix_refl []
  | cons c cs ih =>
      unfold bracketed
      split
      · exact List.suffix_cons c cs
      · exact (ih _).trans (List.suffix_cons c cs)

/-- A path between brackets stands in the whole path, behind its bracket. -/
theorem infix_of_mem_innerPaths {cs : List Char} {inside : String} (h : inside ∈ innerPaths cs) :
    '[' :: inside.toList <:+: cs := by
  induction cs using innerPaths.induct with
  | case1 => exact absurd h (by simp [innerPaths])
  | case2 q cs hquote ih =>
      rw [innerPaths, if_pos hquote] at h
      exact (ih h).trans ((List.suffix_cons q cs).trans (List.suffix_cons '[' _)).isInfix
  | case3 q cs hquote inner hindex ih =>
      rw [innerPaths, if_neg hquote] at h
      dsimp only at h
      rw [if_pos hindex] at h
      exact (ih h).trans ((bracketed_suffix 0 (q :: cs)).trans (List.suffix_cons '[' _)).isInfix
  | case4 q cs hquote inner hindex ih =>
      rw [innerPaths, if_neg hquote] at h
      dsimp only at h
      rw [if_neg hindex] at h
      rcases List.mem_cons.mp h with rfl | h
      · rw [String.toList_ofList]
        exact (List.cons_prefix_cons.mpr ⟨rfl, bracketed_prefix 0 (q :: cs)⟩).isInfix
      · exact (ih h).trans ((bracketed_suffix 0 (q :: cs)).trans (List.suffix_cons '[' _)).isInfix
  | case5 c cs hother ih =>
      rw [innerPaths] at h
      · exact (ih h).trans (List.suffix_cons c cs).isInfix
      · exact hother

theorem length_of_mem_innerPaths {path inside : String} (h : inside ∈ innerPaths path.toList) :
    inside.toList.length < path.toList.length :=
  (infix_of_mem_innerPaths h).length_le

theorem isNamed_of_mem_innerPaths {path inside : String} (h : inside ∈ innerPaths path.toList)
    (hpath : IsNamed path) : IsNamed inside := by
  have hstands : inside.toList <:+: path.toList :=
    (List.suffix_cons _ _).isInfix.trans (infix_of_mem_innerPaths h)
  exact ⟨fun hmem => hpath.1 (hstands.subset hmem), fun hclosing => hpath.2 (hclosing.trans hstands)⟩

/-- How deep brackets may nest does not matter once it is more than the path has characters. -/
theorem valueAt_eq_of_lt {depth : Nat} : ∀ {depth' : Nat} {path : String},
    path.toList.length < depth → path.toList.length < depth' →
    valueAt template context frames depth path = valueAt template context frames depth' path := by
  induction depth with
  | zero => exact fun hlt => absurd hlt (Nat.not_lt_zero _)
  | succ depth ih =>
      intro depth' path hlt hlt'
      obtain ⟨depth', rfl⟩ : ∃ n, depth' = n + 1 := ⟨depth' - 1, by omega⟩
      by_cases hbracket : '[' ∈ path.toList
      · have hsteps : (innerPaths path.toList).foldlM
            (stepInto template context frames depth path) path =
            (innerPaths path.toList).foldlM (stepInto template context frames depth' path)
              path := by
          refine Eq.symm (SameResult.eq (SameResult.foldlM (fun inside hinside resolved => ?_) path))
          have hlength := length_of_mem_innerPaths hinside
          have hinner : valueAt template context frames depth inside =
              valueAt template context frames depth' inside := ih (by omega) (by omega)
          refine Or.inl ?_
          unfold stepInto
          rw [hinner]
        rw [valueAt_of_bracket hbracket, valueAt_of_bracket hbracket, hsteps]
      · rw [valueAt_of_no_bracket hbracket, valueAt_of_no_bracket hbracket]

/-- Only texts and numbers stand between brackets, says a failure that quotes both paths. -/
theorem quiet_noIndex {inner path : String} (hinner : Unticked inner) (hpath : IsNamed path) :
    (Fault.noIndex inner path).Quiet := by
  have hsilent := silent_wording
    [.words "Only variables evaluating to String or Number can be used as index (\x60", .quoted,
      .words "\x60 of \x60", .named, .words "\x60)"] [inner, path] (by decide)
    ⟨hinner, hpath, rfl⟩
  exact ⟨hsilent, hsilent⟩

/-- A path that has no value is named by the explanation that says so. -/
theorem honest_undefined (htemplate : Unticked template) {path : String} (hpath : Unticked path)
    {resolved : Option String} (hempty : path = "" → resolved = none)
    (hvalue : valueAt template context frames (path.toList.length + 1) path =
      .error (.undefined path template resolved)) :
    Honest template context frames (.undefined path template resolved) := by
  have hmessage : Named template context frames (.undefined path template resolved)
      (Fault.undefined path template resolved).message := by
    by_cases hne : path = ""
    · subst hne
      rw [hempty rfl]
      exact (silent_undefined_empty htemplate).named
    · intro front hfront name hname
      rw [undefinedNameIn_undefined hpath hne template resolved hfront] at hname
      obtain rfl := Option.some.inj hname
      rw [String.ofList_toList]
      exact ⟨resolved, .self, hvalue⟩
  exact ⟨hmessage, hmessage⟩

theorem meets_orFail {allowed : Fault → Prop} {found : Option Value}
    (hfound : ∀ v, found = some v → v.Plain) (hfault : found = none → allowed f) :
    Meets Value.Plain allowed (orFail f found) := by
  cases found with
  | some v => exact hfound v rfl
  | none => exact hfault rfl

theorem meets_stepInto {allowed : Fault → Prop} {depth : Nat} {path inside resolved : String}
    (hpath : IsNamed path) (hinside : Unticked inside)
    (hvalue : Meets Value.Plain (fun cause => allowed (.badBrackets path cause))
      (valueAt template context frames depth inside))
    (hquiet : ∀ f : Fault, f.Quiet → allowed f) :
    Meets (fun _ => True) allowed
      (stepInto template context frames depth path resolved inside) := by
  unfold stepInto
  split
  · next cause hcause =>
    rw [hcause] at hvalue
    exact hvalue
  · next v hv =>
    have hstep : Meets (fun _ => True) allowed (indexStep inside path v) := by
      unfold indexStep
      split
      · trivial
      · trivial
      · trivial
      · exact hquiet _ (quiet_noIndex hinside hpath)
    exact hstep.map fun _ _ => trivial

/-- Looking a path up gives a plain value, or fails with an honest failure. The induction is
on how deep brackets may nest. -/
theorem meets_valueAt (htemplate : Unticked template) (hcontext : PlainEntries context.entries)
    (hframes : PlainFrames frames) {depth : Nat} : ∀ {path : String}, path.toList.length < depth →
      IsNamed path → Meets Value.Plain (Honest template context frames)
        (valueAt template context frames depth path) := by
  induction depth with
  | zero => exact fun hlt => absurd hlt (Nat.not_lt_zero _)
  | succ depth ih =>
      intro path hlt hpath
      have hself : valueAt template context frames (path.toList.length + 1) path =
          valueAt template context frames (depth + 1) path :=
        valueAt_eq_of_lt (Nat.lt_succ_self _) hlt
      by_cases hbracket : '[' ∈ path.toList
      · have hne : path ≠ "" := fun hempty => absurd (hempty ▸ hbracket) (by decide)
        have hsteps : Meets (fun _ => True) (Honest template context frames)
            ((innerPaths path.toList).foldlM (stepInto template context frames depth path)
              path) := by
          refine Meets.foldlM (fun inside hinside resolved _ => ?_) trivial
          have hnamed := isNamed_of_mem_innerPaths hinside hpath
          have hlength := length_of_mem_innerPaths hinside
          exact meets_stepInto hpath hnamed.1 ((ih (by omega) hnamed).imp (fun _ hv => hv)
            fun _ hcause => hcause.brackets hpath.1) fun _ => .of_quiet
        rw [valueAt_of_bracket hbracket]
        split
        · next fault hfault =>
          rw [hfault] at hsteps
          exact hsteps
        · next resolved hresolved =>
          refine meets_orFail (fun v hv => plain_find hcontext hframes hv) fun hnone => ?_
          refine honest_undefined htemplate hpath.1 (fun hempty => absurd hempty hne) ?_
          rw [hself, valueAt_of_bracket hbracket, hresolved]
          dsimp only
          rw [hnone]
          rfl
      · rw [valueAt_of_no_bracket hbracket]
        refine meets_orFail (fun v hv => plain_find hcontext hframes hv) fun hnone => ?_
        refine honest_undefined htemplate hpath.1 (fun _ => rfl) ?_
        rw [valueAt_of_no_bracket hbracket, hnone]
        rfl

end

/-! ## Surroundings -/

/-- Arguments without backticks in their values. -/
def Given.Plain (given : Given) : Prop := ∀ name v, given name = some v → v.Plain

/-- Surroundings that answer questions about plain values with plain values, and explain
quietly why they do not answer. -/
def World.Plain (world : World) : Prop :=
  ∀ (n : Nat) (q : Question), q.given.Plain → Meets Value.Plain Fault.Quiet (world n q)

structure Situation.Plain (s : Situation) : Prop where
  frames : PlainFrames s.frames
  world : s.world.Plain

/-! ## Computations -/

section

variable {α β : Type}

/-- In this situation a computation, if it comes to an end, ends in a good result or an honest
failure, and leaves a plain situation. -/
def HonestOn (template : String) (context : SortedMap Value) (good : α → Prop) (m : Eval α)
    (s : Situation) : Prop :=
  ∀ r after, m.runOn s = some (r, after) →
    after.Plain ∧ Meets good (Honest template context after.frames) r

/-- The same in all plain situations. -/
def HonestRun (template : String) (context : SortedMap Value) (good : α → Prop) (m : Eval α) :
    Prop :=
  ∀ s : Situation, s.Plain → HonestOn template context good m s

variable {template : String} {context : SortedMap Value} {good good' : α → Prop}
  {better : β → Prop} {m : Eval α} {s : Situation}

theorem HonestOn.bind (h : HonestOn template context good m s) {k : α → Eval β}
    (hk : ∀ a, good a → HonestRun template context better (k a)) :
    HonestOn template context better (m >>= k) s := by
  intro r after hrun
  rw [Eval.runOn_bind] at hrun
  split at hrun
  · next a between hfirst =>
    obtain ⟨hbetween, ha⟩ := h _ _ hfirst
    exact hk a ha between hbetween r after hrun
  · next fault between hfirst =>
    obtain ⟨rfl, rfl⟩ := Prod.mk.inj (Option.some.inj hrun)
    exact h _ _ hfirst
  · exact absurd hrun nofun

theorem HonestOn.ofExcept (hs : s.Plain) {r : Except Fault α}
    (h : Meets good (Honest template context s.frames) r) :
    HonestOn template context good (Eval.ofExcept r) s := by
  rintro _ _ ⟨⟩
  exact ⟨hs, h⟩

/-- A failure that becomes an answer explains nothing any more. -/
theorem HonestOn.outcome (h : HonestOn template context good m s) :
    HonestOn template context (fun _ => True) m.outcome s := by
  intro r after hrun
  rw [Eval.runOn_outcome] at hrun
  obtain ⟨⟨result, between⟩, hfirst, heq⟩ := Option.map_eq_some_iff.mp hrun
  obtain ⟨rfl, rfl⟩ := Prod.mk.inj heq
  exact ⟨(h _ _ hfirst).1, trivial⟩

theorem HonestOn.imp (h : HonestOn template context good m s)
    (hgood : ∀ a, good a → good' a) : HonestOn template context good' m s :=
  fun r after hrun => ⟨(h r after hrun).1, (h r after hrun).2.imp hgood fun _ hf => hf⟩

namespace HonestRun

theorem pure {a : α} (h : good a) : HonestRun template context good (pure a) :=
  fun _ hs => .ofExcept hs h

theorem throw {f : Fault} (h : f.Quiet) :
    HonestRun template context good (throw f : Eval α) :=
  fun _ hs => .ofExcept hs (.of_quiet h)

theorem ofExcept {r : Except Fault α} (h : Meets good Fault.Quiet r) :
    HonestRun template context good (Eval.ofExcept r) :=
  fun _ hs => .ofExcept hs (h.imp (fun _ ha => ha) fun _ => .of_quiet)

/-- What has no end has no result either. -/
theorem endless : HonestRun template context good (Eval.endless : Eval α) :=
  fun _ _ _ _ hrun => absurd hrun nofun

theorem bind (h : HonestRun template context good m) {k : α → Eval β}
    (hk : ∀ a, good a → HonestRun template context better (k a)) :
    HonestRun template context better (m >>= k) :=
  fun s hs => (h s hs).bind hk

theorem imp (h : HonestRun template context good m) (hgood : ∀ a, good a → good' a) :
    HonestRun template context good' m :=
  fun s hs => (h s hs).imp hgood

/-- What the frames decide. -/
theorem read {k : List Frame → Eval β}
    (h : ∀ s : Situation, s.Plain → HonestOn template context better (k s.frames) s) :
    HonestRun template context better (Eval.frames >>= k) := by
  intro s hs r after hrun
  rw [Eval.runOn_bind] at hrun
  exact h s hs r after hrun

theorem update {change : List Frame → List Frame}
    (h : ∀ frames, PlainFrames frames → PlainFrames (change frames)) :
    HonestRun template context (fun _ => True) (Eval.update change) := by
  rintro s hs _ _ ⟨⟩
  exact ⟨⟨h _ hs.frames, hs.world⟩, trivial⟩

theorem push {f : Frame} (hf : f.Plain) :
    HonestRun template context (fun _ => True) (Eval.push f) :=
  update fun _ => .cons hf

theorem pop : HonestRun template context (fun _ => True) Eval.pop :=
  update fun _ hframes f hf => hframes f (List.mem_of_mem_drop hf)

theorem change {fault : Fault} (hfault : fault.Quiet) {f : List Frame → Option (List Frame)}
    (h : ∀ frames after, PlainFrames frames → f frames = some after → PlainFrames after) :
    HonestRun template context (fun _ => True) (Eval.change fault f) := by
  refine read fun s hs => ?_
  cases hafter : f s.frames with
  | some after =>
      rintro _ _ ⟨⟩
      exact ⟨⟨h _ _ hs.frames hafter, hs.world⟩, trivial⟩
  | none => exact throw hfault s hs

/-- A question takes the next answer and leaves the later ones. -/
theorem ask {q : Question} (hq : q.given.Plain) :
    HonestRun template context Value.Plain (Eval.ask q) := by
  rintro s hs _ _ ⟨⟩
  exact ⟨⟨hs.frames, fun n => hs.world (n + 1)⟩,
    (hs.world 0 q hq).imp (fun _ hv => hv) fun _ => .of_quiet⟩

/-- Whatever is put around a failure, the run stays honest when the failure does. -/
theorem mapFault (h : HonestRun template context good m) {wrap : Fault → Fault}
    (hwrap : ∀ {frames : List Frame} {f : Fault}, Honest template context frames f →
      Honest template context frames (wrap f)) :
    HonestRun template context good (m.mapFault wrap) := by
  intro s hs r after hrun
  rw [Eval.runOn_mapFault] at hrun
  obtain ⟨⟨result, between⟩, hfirst, heq⟩ := Option.map_eq_some_iff.mp hrun
  obtain ⟨rfl, rfl⟩ := Prod.mk.inj heq
  obtain ⟨hafter, hresult⟩ := h s hs result between hfirst
  refine ⟨hafter, ?_⟩
  cases result with
  | ok a => exact hresult
  | error f => exact hwrap hresult

theorem call (h : HonestRun template context good m) (kind : Callable) {name : String}
    (hname : Unticked name) : HonestRun template context good (m.mapFault (.inCall kind name)) :=
  h.mapFault fun hf => hf.call kind hname

theorem bare (h : HonestRun template context good m) :
    HonestRun template context good (m.mapFault Fault.withoutCause) :=
  h.mapFault fun hf => hf.bare

end HonestRun

end

end Scaffold.Template
