import Scaffold.Home

/-!
# The home is written once

Registrations and questions about the home come in any order, and the
environment can say something else at every question. While calls fail there is
no home. The first call that succeeds chooses one, and from then on every call is
answered by that home alone.
-/

namespace Scaffold

/-! ## Calls -/

/-- A call that chooses the home or asks for it. -/
inductive HomeCall where
  | register (path : Path)
  /-- A question, with what the environment says when it is asked. -/
  | ask (sources : HomeSources)

/-- What a call answers: nothing to a registration, the home to a question. -/
abbrev HomeAnswer := Except Error (Option Path)

/-- The home that a call chooses while there is none. -/
def HomeCall.names : HomeCall → Except Error Path
  | .register path => .ok path
  | .ask sources => sources.default

/-- The answer of a home that was chosen. -/
def HomeCall.answerOf (home : Path) : HomeCall → HomeAnswer
  | .ask _ => .ok (some home)
  | .register path =>
    if path.components = home.components then .ok none
    else
      .error (.config ("template home already set to " ++ home.text ++
        ", cannot change it to " ++ path.text))

namespace HomeChoice

/-- What a call does to a choice, if it succeeds. -/
def attempt (c : HomeChoice) : HomeCall → Except Error (Option Path × HomeChoice)
  | .register path => (c.register path).map fun next => (none, next)
  | .ask sources => (c.get sources).map fun (home, next) => (some home, next)

/-- The answer to a call and the choice behind it. -/
def call (c : HomeChoice) (k : HomeCall) : HomeAnswer × HomeChoice :=
  match c.attempt k with
  | .ok (answer, next) => (.ok answer, next)
  | .error e => (.error e, c)

/-- The answers to calls one after the other and the choice behind them. -/
def calls (c : HomeChoice) : List HomeCall → List HomeAnswer × HomeChoice
  | [] => ([], c)
  | k :: ks => ((c.call k).1 :: ((c.call k).2.calls ks).1, ((c.call k).2.calls ks).2)

theorem calls_append (c : HomeChoice) (ks ls : List HomeCall) :
    c.calls (ks ++ ls) =
      ((c.calls ks).1 ++ ((c.calls ks).2.calls ls).1, ((c.calls ks).2.calls ls).2) := by
  induction ks generalizing c with
  | nil => rfl
  | cons k ks ih =>
      rw [List.cons_append, calls, ih]
      rfl

/-! ## One call -/

/-- A call that fails leaves the choice as it was. -/
theorem call_of_error {c : HomeChoice} {k : HomeCall} {e : Error} (h : (c.call k).1 = .error e) :
    (c.call k).2 = c := by
  unfold call at h ⊢
  cases hattempt : c.attempt k with
  | ok done =>
      rw [hattempt] at h
      exact absurd h nofun
  | error e => rfl

/-- While there is no home, a call chooses the one that it names. -/
theorem call_empty_of_names {k : HomeCall} {home : Path} (h : k.names = .ok home) :
    empty.call k = (k.answerOf home, ⟨some home⟩) := by
  cases k with
  | register path =>
      obtain rfl := Except.ok.inj h
      simp [call, attempt, register, empty, HomeCall.answerOf, Except.map]
  | ask sources =>
      have hdefault : sources.default = .ok home := h
      simp [call, attempt, get, empty, HomeCall.answerOf, Except.map, hdefault]

/-- A call that names none fails. -/
theorem call_empty_of_nameless {k : HomeCall} {e : Error} (h : k.names = .error e) :
    (empty.call k).1 = .error e := by
  cases k with
  | register path => exact absurd h nofun
  | ask sources =>
      have hdefault : sources.default = .error e := h
      simp [call, attempt, get, empty, Except.map, hdefault]

/-- A home that was chosen answers every call and stays. -/
theorem call_chosen (home : Path) (k : HomeCall) :
    (⟨some home⟩ : HomeChoice).call k = (k.answerOf home, ⟨some home⟩) := by
  cases k with
  | ask sources => rfl
  | register path =>
      by_cases hsame : path.components = home.components
      · simp [call, attempt, register, HomeCall.answerOf, Path.same, Except.map, hsame]
      · have hother : ¬ home.components = path.components := fun h => hsame h.symm
        simp [call, attempt, register, HomeCall.answerOf, Path.same, Except.map, hsame, hother]

/-! ## Sequences of calls -/

theorem calls_chosen (home : Path) (ks : List HomeCall) :
    (⟨some home⟩ : HomeChoice).calls ks = (ks.map (·.answerOf home), ⟨some home⟩) := by
  induction ks with
  | nil => rfl
  | cons k ks ih =>
      rw [calls, call_chosen, ih]
      rfl

/-- Calls that all fail choose nothing. -/
theorem calls_of_errors {c : HomeChoice} {ks : List HomeCall}
    (h : ∀ r ∈ (c.calls ks).1, r.isOk = false) : (c.calls ks).2 = c := by
  induction ks generalizing c with
  | nil => rfl
  | cons k ks ih =>
      obtain ⟨e, he⟩ : ∃ e, (c.call k).1 = .error e := by
        have hfirst := h _ List.mem_cons_self
        cases hr : (c.call k).1 with
        | ok answer =>
            rw [hr] at hfirst
            exact absurd hfirst nofun
        | error e => exact ⟨e, rfl⟩
      have hrest : ∀ r ∈ ((c.call k).2.calls ks).1, r.isOk = false :=
        fun r hr => h r (List.mem_cons_of_mem _ hr)
      rw [calls]
      dsimp only
      rw [ih hrest, call_of_error he]

/-- What a sequence of calls in one process comes to. -/
structure WrittenOnce (ks : List HomeCall) : Prop where
  /-- Calls that all fail leave the home open, and every registration behind them succeeds. -/
  unset : (∀ r ∈ (empty.calls ks).1, r.isOk = false) → (empty.calls ks).2 = empty ∧
    ∀ path, empty.calls (ks ++ [.register path]) =
      ((empty.calls ks).1 ++ [.ok none], ⟨some path⟩)
  /-- The first call that succeeds chooses the home that it names. That home gives its
  answer and the answers to all calls that follow, and stays. -/
  fixed : ∀ before k after, ks = before ++ k :: after →
    (∀ r ∈ (empty.calls before).1, r.isOk = false) →
    ((empty.calls before).2.call k).1.isOk = true →
    ∃ home, k.names = .ok home ∧
      ∀ n, empty.calls (before ++ k :: after.take n) =
        ((empty.calls before).1 ++ (k :: after.take n).map (·.answerOf home), ⟨some home⟩)
  /-- A call that fails, wherever it stands, leaves the choice as it was. -/
  failed : ∀ before k after, ks = before ++ k :: after →
    ∀ e, ((empty.calls before).2.call k).1 = .error e →
      (empty.calls (before ++ [k])).2 = (empty.calls before).2

/-- Whatever the order of the calls and whatever the environment says at each of
them, the home is written once. -/
theorem home_written_once (ks : List HomeCall) : WrittenOnce ks := by
  refine ⟨fun hfail => ?_, fun before k after _ hfail hok => ?_, fun before k after _ e he => ?_⟩
  · have hempty := calls_of_errors hfail
    refine ⟨hempty, fun path => ?_⟩
    rw [calls_append, hempty]
    rfl
  · have hempty := calls_of_errors hfail
    rw [hempty] at hok
    cases hnames : k.names with
    | error e =>
        rw [call_empty_of_nameless hnames] at hok
        exact absurd hok nofun
    | ok home =>
        refine ⟨home, rfl, fun n => ?_⟩
        rw [calls_append, hempty, calls, call_empty_of_names hnames, calls_chosen, List.map_cons]
  · rw [calls_append]
    exact call_of_error he

end HomeChoice

end Scaffold
