import Scaffold.Proofs.Template.Effects
import Scaffold.Proofs.Template.NamedArguments

/-!
# Computations that match

Two renderings of a template whose arguments stand in another order compute the same
values in another order. Their results match: both succeed with values that are related,
or both fail, and they leave the same situation, or neither comes to an end. Which of
several failures comes first can depend on the order, so whether the failures are the same
is a parameter.

Two computations that leave the situation as it is can be exchanged, and so can any
computation and a constant.
-/

namespace Scaffold.Template

variable {α β γ δ : Type}

/-! ## Results -/

/-- Two results with the situations behind them: related values, or failures, which are the
same if `faithful` holds, or no end. -/
inductive ResultsMatch (faithful : Bool) (R : α → β → Prop) :
    Option (Except Fault α × Situation) → Option (Except Fault β × Situation) → Prop
  | ok {a : α} {b : β} (after : Situation) (h : R a b) :
      ResultsMatch faithful R (some (.ok a, after)) (some (.ok b, after))
  | error {fault fault' : Fault} (after : Situation) (h : faithful = true → fault' = fault) :
      ResultsMatch faithful R (some (.error fault, after)) (some (.error fault', after))
  | endless : ResultsMatch faithful R none none

/-- Two computations with matching results in every situation. -/
def Matches (faithful : Bool) (R : α → β → Prop) (m : Eval α) (m' : Eval β) : Prop :=
  ∀ s, ResultsMatch faithful R (m.runOn s) (m'.runOn s)

namespace Matches

variable {faithful : Bool} {R : α → β → Prop} {S : γ → δ → Prop}

theorem pure {a : α} {b : β} (h : R a b) :
    Matches faithful R (Pure.pure a : Eval α) (Pure.pure b) := fun s => .ok s h

theorem bind {m : Eval α} {m' : Eval β} {k : α → Eval γ} {k' : β → Eval δ}
    (h : Matches faithful R m m') (hk : ∀ a b, R a b → Matches faithful S (k a) (k' b)) :
    Matches faithful S (m >>= k) (m' >>= k') := by
  intro s
  rw [Eval.runOn_bind, Eval.runOn_bind]
  have hresults := h s
  generalize m.runOn s = r, m'.runOn s = r' at hresults
  cases hresults with
  | ok after hab => exact hk _ _ hab after
  | error after hfault => exact .error after hfault
  | endless => exact .endless

/-- Steps whose values are the same go on in the same way. -/
theorem andThen {m m' : Eval α} {k : α → Eval γ} {k' : α → Eval δ}
    (h : Matches faithful Eq m m') (hk : ∀ a, Matches faithful S (k a) (k' a)) :
    Matches faithful S (m >>= k) (m' >>= k') :=
  h.bind fun a _ heq => heq ▸ hk a

theorem refl (m : Eval α) : Matches faithful Eq m m := by
  intro s
  match m.runOn s with
  | some (.ok a, after) => exact .ok after rfl
  | some (.error fault, after) => exact .error after fun _ => rfl
  | none => exact .endless

theorem imp {T : α → β → Prop} {m : Eval α} {m' : Eval β} (h : Matches faithful R m m')
    (himp : ∀ a b, R a b → T a b) : Matches faithful T m m' := by
  intro s
  have hresults := h s
  generalize m.runOn s = r, m'.runOn s = r' at hresults
  cases hresults with
  | ok after hab => exact .ok after (himp _ _ hab)
  | error after hfault => exact .error after hfault
  | endless => exact .endless

theorem trans {T : α → γ → Prop} {Q : β → γ → Prop} {m : Eval α} {m' : Eval β} {m'' : Eval γ}
    (h : Matches faithful R m m') (h' : Matches faithful Q m' m'')
    (hcomp : ∀ a b c, R a b → Q b c → T a c) : Matches faithful T m m'' := by
  intro s
  have hfirst := h s
  have hsecond := h' s
  generalize m.runOn s = r, m'.runOn s = r', m''.runOn s = r'' at hfirst hsecond
  cases hfirst with
  | ok after hab =>
      cases hsecond with
      | ok _ hbc => exact .ok after (hcomp _ _ _ hab hbc)
  | error after hfault =>
      cases hsecond with
      | error _ hfault' => exact .error after fun hf => (hfault' hf).trans (hfault hf)
  | endless =>
      cases hsecond
      exact .endless

theorem mapFault {m : Eval α} {m' : Eval β} (f : Fault → Fault) (h : Matches faithful R m m') :
    Matches faithful R (m.mapFault f) (m'.mapFault f) := by
  intro s
  rw [Eval.runOn_mapFault, Eval.runOn_mapFault]
  have hresults := h s
  generalize m.runOn s = r, m'.runOn s = r' at hresults
  cases hresults with
  | ok after hab => exact .ok after hab
  | error after hfault => exact .error after fun hf => congrArg f (hfault hf)
  | endless => exact .endless

/-- Where a failure becomes an answer, it does not matter which failure it is. -/
theorem outcome {m m' : Eval α} (h : Matches faithful Eq m m') :
    Matches faithful (fun r r' => r'.toOption = r.toOption) m.outcome m'.outcome := by
  intro s
  rw [Eval.runOn_outcome, Eval.runOn_outcome]
  have hresults := h s
  generalize m.runOn s = r, m'.runOn s = r' at hresults
  cases hresults with
  | ok after hab => exact .ok after (hab ▸ rfl)
  | error after hfault => exact .ok after rfl
  | endless => exact .endless

theorem ofExcept_error {fault fault' : Fault} (h : faithful = true → fault' = fault) :
    Matches faithful R (Eval.ofExcept (.error fault : Except Fault α))
      (Eval.ofExcept (.error fault')) := fun s => .error s h

/-! ## Exchanges -/

/-- A constant can come first or second. -/
theorem exchange_pure (m : Eval α) (b : β) {k : α → β → Eval γ}
    {k' : α → β → Eval δ} (hk : ∀ a b, Matches faithful S (k a b) (k' a b)) :
    Matches faithful S (do let a ← m; let b ← Pure.pure b; k a b)
      (do let b ← Pure.pure b; let a ← m; k' a b) :=
  (refl m).andThen fun a => hk a b

theorem pure_exchange (a : α) (n : Eval β) {k : α → β → Eval γ}
    {k' : α → β → Eval δ} (hk : ∀ a b, Matches faithful S (k a b) (k' a b)) :
    Matches faithful S (do let a ← Pure.pure a; let b ← n; k a b)
      (do let b ← n; let a ← Pure.pure a; k' a b) :=
  (refl n).andThen fun b => hk a b

/-- Two computations that leave the situation as it is can change places: it only depends
on their order which one of two failures is met. -/
theorem exchange {m : Eval α} {n : Eval β} (hm : Still m) (hn : Still n) {k : α → β → Eval γ}
    {k' : α → β → Eval δ} (hk : ∀ a b, Matches false S (k a b) (k' a b)) :
    Matches false S (do let a ← m; let b ← n; k a b) (do let b ← n; let a ← m; k' a b) := by
  intro s
  obtain ⟨r, hrun⟩ := hm s
  obtain ⟨r', hrun'⟩ := hn s
  simp only [Eval.runOn_bind, hrun, hrun']
  cases r with
  | ok a =>
      cases r' with
      | ok b =>
          simp only [hrun, hrun']
          exact hk a b s
      | error fault =>
          simp only [hrun']
          exact .error s nofun
  | error fault =>
      cases r' with
      | ok b =>
          simp only [hrun]
          exact .error s nofun
      | error fault' => exact .error s nofun

end Matches

end Scaffold.Template
